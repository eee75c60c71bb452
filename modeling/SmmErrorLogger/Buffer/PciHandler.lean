import SmmErrorLogger.Config
import SmmErrorLogger.Library.Bytes
import SmmErrorLogger.Library.Process

/-! The data interface, and its implementation over a mapped memory region. -/

namespace SmmErrorLogger.Buffer

open Library.Bytes Library.Interaction

inductive DataOp
  | read (offset length : ℕ)
  | write (offset : ℕ) (bytes : List UInt8)
  | getMemoryRegionSize
  deriving DecidableEq

def DataInterface : Signature where
  Op := DataOp
  Ans
    | .read _ _ => List UInt8
    | .write _ _ => ℕ
    | .getMemoryRegionSize => ℕ

namespace DataInterface

variable {σ ε : Type}

def read (offset length : ℕ) : Proc DataInterface σ ε (List UInt8) :=
  Proc.call (S := DataInterface) (.read offset length)

def write (offset : ℕ) (bytes : List UInt8) : Proc DataInterface σ ε ℕ :=
  Proc.call (S := DataInterface) (.write offset bytes)

def getMemoryRegionSize : Proc DataInterface σ ε ℕ :=
  Proc.call (S := DataInterface) .getMemoryRegionSize

variable {W α : Type} {E : Environment DataInterface W} {Q : α → σ → W → Prop}
  {X : ε → σ → W → Prop} {s : σ} {w : W}

lemma read_then {offset length : ℕ} {f : List UInt8 → Proc DataInterface σ ε α} :
    (read offset length >>= f).Ensures E Q X s w ↔ ∀ w', E.Later w w' →
      E.permits w' (.read offset length) ∧ ∀ (bytes : List UInt8) w'',
        E.answers w' (.read offset length) bytes w'' → (f bytes).Ensures E Q X s w'' := Iff.rfl

lemma write_then {offset : ℕ} {bytes : List UInt8} {f : ℕ → Proc DataInterface σ ε α} :
    (write offset bytes >>= f).Ensures E Q X s w ↔ ∀ w', E.Later w w' →
      E.permits w' (.write offset bytes) ∧ ∀ (written : ℕ) w'',
        E.answers w' (.write offset bytes) written w'' → (f written).Ensures E Q X s w'' := Iff.rfl

lemma getMemoryRegionSize_then {f : ℕ → Proc DataInterface σ ε α} :
    (getMemoryRegionSize >>= f).Ensures E Q X s w ↔ ∀ w', E.Later w w' →
      E.permits w' .getMemoryRegionSize ∧ ∀ (size : ℕ) w'',
        E.answers w' .getMemoryRegionSize size w'' → (f size).Ensures E Q X s w'' := Iff.rfl

end DataInterface

/-- `mmap` is what the mapping and the addresses behind it hold: the copy loops do not
look at `regionSize`. -/
structure PciDataHandler where
  regionSize : UInt32
  mmap : Memory

namespace PciDataHandler

def read (pci : PciDataHandler) (offset length : ℕ) : List UInt8 :=
  if offset > pci.regionSize.toNat ∨ length = 0 then []
  else
    let finalLength := if uint32 (offset + length) < pci.regionSize.toNat then length
      else pci.regionSize.toNat - offset
    load pci.mmap offset finalLength

def write (s : WordSize) (pci : PciDataHandler) (offset : ℕ) (bytes : List UInt8) :
    ℕ × PciDataHandler :=
  let length := bytes.length
  if offset > pci.regionSize.toNat ∨ length = 0 then (0, pci)
  else
    let finalLength := uint16 (if (offset + length) % s.modulus < pci.regionSize.toNat then length
      else pci.regionSize.toNat - offset)
    (finalLength, { pci with mmap := store pci.mmap offset (bytes.take finalLength) })

def perform (s : WordSize) (pci : PciDataHandler) :
    (op : DataOp) → DataInterface.Ans op × PciDataHandler
  | .read offset length => (pci.read offset length, pci)
  | .write offset bytes => pci.write s offset bytes
  | .getMemoryRegionSize => (pci.regionSize.toNat, pci)

variable {pci : PciDataHandler} {offset length : ℕ}

lemma read_within (h : offset + length ≤ pci.regionSize.toNat) :
    pci.read offset length = load pci.mmap offset length := by
  have hs := pci.regionSize.toNat_lt
  by_cases hl : length = 0
  · subst hl
    simp [read, load]
  · rw [read, if_neg (by omega), uint32_of_lt (by omega)]
    split_ifs
    · rfl
    · rw [show pci.regionSize.toNat - offset = length by omega]

lemma length_read_le (h : (pci.read offset length).length = length) (h0 : 0 < length)
    (hw : offset + length < 2 ^ 32) : offset + length ≤ pci.regionSize.toNat := by
  by_cases hl : offset > pci.regionSize.toNat ∨ length = 0
  · rw [read, if_pos hl] at h
    simp only [List.length_nil] at h
    omega
  · rw [read, if_neg hl, uint32_of_lt hw] at h
    simp only [load_length] at h
    split_ifs at h <;> omega

lemma read_full (h : (pci.read offset length).length = length) (hw : offset + length < 2 ^ 32) :
    pci.read offset length = load pci.mmap offset length := by
  rcases Nat.eq_zero_or_pos length with rfl | h0
  · simp [read, load]
  · exact read_within (length_read_le h h0 hw)

lemma write_within {s : WordSize} {bytes : List UInt8}
    (h : offset + bytes.length ≤ pci.regionSize.toNat) (hl : bytes.length < 2 ^ 16) :
    pci.write s offset bytes =
      (bytes.length, { pci with mmap := store pci.mmap offset bytes }) := by
  have hr := pci.regionSize.toNat_lt
  have hs := s.modulus_ge
  by_cases h0 : bytes.length = 0
  · rw [write, if_pos (Or.inr h0), List.length_eq_zero_iff.mp h0]
    simp
  · have hlen : (if (offset + bytes.length) % s.modulus < pci.regionSize.toNat then bytes.length
        else pci.regionSize.toNat - offset) = bytes.length := by
      rw [Nat.mod_eq_of_lt (by omega)]
      split_ifs <;> omega
    simp only [write, if_neg (show ¬ (offset > pci.regionSize.toNat ∨ bytes.length = 0) by omega),
      hlen, uint16_of_lt hl, List.take_length]

lemma write_frame {s : WordSize} {bytes : List UInt8} {i : ℕ}
    (h : i < offset ∨ offset + bytes.length ≤ i) :
    (pci.write s offset bytes).2.mmap i = pci.mmap i := by
  rw [write]
  dsimp only
  split_ifs
  · rfl
  all_goals
    refine store_outside (h.imp_right fun hi => le_trans ?_ hi)
    exact Nat.add_le_add_left (List.length_take_le' _ _) _

lemma write_byte (pci : PciDataHandler) (s : WordSize) (offset : ℕ) (bytes : List UInt8) (i : ℕ) :
    (pci.write s offset bytes).2.mmap i = pci.mmap i ∨
      offset ≤ i ∧ (pci.write s offset bytes).2.mmap i = byte bytes (i - offset) := by
  have hstore : ∀ n, store pci.mmap offset (bytes.take n) i = pci.mmap i ∨
      offset ≤ i ∧ store pci.mmap offset (bytes.take n) i = byte bytes (i - offset) := by
    intro n
    rw [store]
    split_ifs with h
    · refine Or.inr ⟨h.1, ?_⟩
      rw [List.length_take] at h
      rw [byte, List.getD_eq_getElem?_getD, List.getElem?_take_of_lt (by omega),
        ← List.getD_eq_getElem?_getD]
    · exact Or.inl rfl
  rw [write]
  dsimp only
  split_ifs
  · exact Or.inl rfl
  · exact hstore _
  · exact hstore _

@[simp] lemma write_regionSize {s : WordSize} {bytes : List UInt8} :
    (pci.write s offset bytes).2.regionSize = pci.regionSize := by
  rw [write]
  dsimp only
  split_ifs <;> rfl

lemma write_clamped {s : WordSize} {bytes : List UInt8} (h : pci.regionSize.toNat < bytes.length)
    (hl : bytes.length < 2 ^ 16) : (pci.write s 0 bytes).1 = pci.regionSize.toNat := by
  have hs := s.modulus_ge
  rw [write]
  dsimp only
  rw [if_neg (by omega), Nat.zero_add, Nat.mod_eq_of_lt (by omega), if_neg (by omega), Nat.sub_zero]
  exact uint16_of_lt (by omega)

end PciDataHandler

namespace DataInterface

variable {σ ε α : Type} {s : WordSize} {Q : α → σ → PciDataHandler → Prop}
  {X : ε → σ → PciDataHandler → Prop} {t : σ} {pci : PciDataHandler}

lemma getMemoryRegionSize_alone {f : ℕ → Proc DataInterface σ ε α} :
    (getMemoryRegionSize >>= f).Ensures (alone (PciDataHandler.perform s)) Q X t pci ↔
      (f pci.regionSize.toNat).Ensures (alone (PciDataHandler.perform s)) Q X t pci :=
  Proc.call_alone

lemma write_then_alone {offset : ℕ} {bytes : List UInt8} {f : ℕ → Proc DataInterface σ ε α} :
    (write offset bytes >>= f).Ensures (alone (PciDataHandler.perform s)) Q X t pci ↔
      (f (pci.write s offset bytes).1).Ensures (alone (PciDataHandler.perform s)) Q X t
        (pci.write s offset bytes).2 :=
  Proc.call_alone

lemma write_alone {offset : ℕ} {bytes : List UInt8} {f : ℕ → Proc DataInterface σ ε α}
    (h : offset + bytes.length ≤ pci.regionSize.toNat) (hl : bytes.length < 2 ^ 16) :
    (write offset bytes >>= f).Ensures (alone (PciDataHandler.perform s)) Q X t pci ↔
      (f bytes.length).Ensures (alone (PciDataHandler.perform s)) Q X t
        { pci with mmap := store pci.mmap offset bytes } := by
  rw [write_then_alone, PciDataHandler.write_within h hl]

end DataInterface

end SmmErrorLogger.Buffer
