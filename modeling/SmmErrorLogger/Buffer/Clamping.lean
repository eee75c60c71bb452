import SmmErrorLogger.Buffer.PciHandler

namespace SmmErrorLogger.Buffer

open Library.Bytes

namespace PciDataHandler

def readLength (pci : PciDataHandler) (offset length : ℕ) : ℕ :=
  if offset > pci.regionSize.toNat ∨ length = 0 then 0
  else if uint32 (offset + length) < pci.regionSize.toNat then length
  else pci.regionSize.toNat - offset

def readIndices (pci : PciDataHandler) (offset length : ℕ) : List ℕ :=
  (List.range (pci.readLength offset length)).map (offset + ·)

def available (pci : PciDataHandler) (offset length : ℕ) : ℕ :=
  if offset > pci.regionSize.toNat then 0 else min length (pci.regionSize.toNat - offset)

variable {pci : PciDataHandler} {offset length : ℕ}

lemma read_eq_load :
    pci.read offset length = load pci.mmap offset (pci.readLength offset length) := by
  rw [read, readLength]
  split_ifs <;> rfl

lemma read_eq_indices : pci.read offset length = (pci.readIndices offset length).map pci.mmap := by
  rw [read_eq_load, load, readIndices, List.map_map]
  rfl

def SumWraps (pci : PciDataHandler) (offset length : ℕ) : Prop :=
  offset ≤ pci.regionSize.toNat ∧ 2 ^ 32 ≤ offset + length ∧
    offset + length - 2 ^ 32 < pci.regionSize.toNat

lemma readLength_of_not_wraps (hoffset : offset < 2 ^ 32) (hlength : length < 2 ^ 32)
    (h : ¬ pci.SumWraps offset length) :
    pci.readLength offset length = pci.available offset length := by
  have hregion := pci.regionSize.toNat_lt
  rw [SumWraps] at h
  rw [readLength, available, uint32]
  by_cases hwraps : offset + length < 2 ^ 32
  · rw [Nat.mod_eq_of_lt hwraps]
    split_ifs <;> omega
  · have hmod : (offset + length) % 2 ^ 32 = offset + length - 2 ^ 32 := by
      rw [Nat.mod_eq_sub_mod (not_lt.mp hwraps), Nat.mod_eq_of_lt (by omega)]
    rw [hmod]
    split_ifs <;> omega

lemma readLength_of_wraps (hoffset : offset < 2 ^ 32) (hlength : length < 2 ^ 32)
    (h : pci.SumWraps offset length) : pci.readLength offset length = length := by
  obtain ⟨hle, hwraps, hlt⟩ := h
  have hmod : (offset + length) % 2 ^ 32 = offset + length - 2 ^ 32 := by
    rw [Nat.mod_eq_sub_mod hwraps, Nat.mod_eq_of_lt (by omega)]
  rw [readLength, if_neg (by omega), uint32, hmod, if_pos hlt]

structure ReadsExactly (pci : PciDataHandler) (offset length : UInt32) : Prop where
  rejected : offset.toNat > pci.regionSize.toNat ∨ length = 0 →
    pci.read offset.toNat length.toNat = []
  exact : offset.toNat ≤ pci.regionSize.toNat → length ≠ 0 → pci.read offset.toNat length.toNat =
    load pci.mmap offset.toNat
    (min (offset.toNat + length.toNat) pci.regionSize.toNat - offset.toNat)
  indices : pci.read offset.toNat length.toNat =
    (pci.readIndices offset.toNat length.toNat).map pci.mmap
  within : ∀ i ∈ pci.readIndices offset.toNat length.toNat, i < pci.regionSize.toNat

lemma readsExactly_of_length {offset length : UInt32}
    (h : pci.readLength offset.toNat length.toNat = pci.available offset.toNat length.toNat) :
    pci.ReadsExactly offset length where
  rejected hrejected := by
    rw [read, if_pos]
    exact hrejected.imp_right fun hzero => by rw [hzero]; rfl
  exact hle _ := by
    rw [read_eq_load, h, available, if_neg (by omega)]
    exact congrArg (load pci.mmap offset.toNat) (by omega)
  indices := read_eq_indices
  within i hi := by
    obtain ⟨j, hj, rfl⟩ := List.mem_map.mp hi
    rw [List.mem_range, h, available] at hj
    split_ifs at hj
    · omega
    · omega

lemma not_readsExactly_of_wraps {offset length : UInt32}
    (h : pci.SumWraps offset.toNat length.toNat) :
    ¬ pci.ReadsExactly offset length := by
  intro hexact
  have hregion := pci.regionSize.toNat_lt
  have hoffset := offset.toNat_lt
  have hlength := length.toNat_lt
  obtain ⟨-, hwraps, -⟩ := id h
  have hlast : offset.toNat + (length.toNat - 1) ∈ pci.readIndices offset.toNat length.toNat := by
    apply List.mem_map_of_mem
    rw [List.mem_range, readLength_of_wraps hoffset hlength h]
    omega
  have hlt := hexact.within _ hlast
  omega

theorem read_exact_iff (pci : PciDataHandler) (offset length : UInt32) :
    pci.ReadsExactly offset length ↔ ¬ (offset.toNat ≤ pci.regionSize.toNat ∧
      2 ^ 32 ≤ offset.toNat + length.toNat ∧
        offset.toNat + length.toNat - 2 ^ 32 < pci.regionSize.toNat) := by
  constructor
  · exact fun hexact hwraps => not_readsExactly_of_wraps hwraps hexact
  · intro hwraps
    exact readsExactly_of_length (readLength_of_not_wraps offset.toNat_lt length.toNat_lt hwraps)

theorem read_not_exact : ¬ ReadsExactly ⟨16, fun _ => 0⟩ 8 0xfffffffc :=
  not_readsExactly_of_wraps ⟨by decide, by decide, by decide⟩

variable {s : WordSize} {bytes : List UInt8}

lemma write_eq (hfits : offset + bytes.length < s.modulus) : pci.write s offset bytes =
    (uint16 (pci.available offset bytes.length),
      { pci with
        mmap := store pci.mmap offset
          (bytes.take (uint16 (pci.available offset bytes.length))) }) := by
  by_cases hrejected : offset > pci.regionSize.toNat ∨ bytes.length = 0
  · have hnone : pci.available offset bytes.length = 0 := by
      rw [available]
      split_ifs <;> omega
    rw [write, if_pos hrejected, hnone, uint16_of_lt (by norm_num), List.take_zero, store_nil]
  · have hlength : (if (offset + bytes.length) % s.modulus < pci.regionSize.toNat then bytes.length
        else pci.regionSize.toNat - offset) = pci.available offset bytes.length := by
      rw [Nat.mod_eq_of_lt hfits, available]
      split_ifs <;> omega
    simp only [write, if_neg hrejected, hlength]

lemma available_le : pci.available offset length ≤ length := by
  rw [available]
  split_ifs <;> omega

structure WritesExactly (s : WordSize) (pci : PciDataHandler) (offset : UInt32)
    (bytes : List UInt8) : Prop where
  returned : (pci.write s offset.toNat bytes).1 = pci.available offset.toNat bytes.length
  stored : load (pci.write s offset.toNat bytes).2.mmap offset.toNat
    (pci.available offset.toNat bytes.length) = bytes.take (pci.available offset.toNat bytes.length)
  frame : ∀ i, i < offset.toNat ∨ offset.toNat + pci.available offset.toNat bytes.length ≤ i →
    (pci.write s offset.toNat bytes).2.mmap i = pci.mmap i
  readBack : (pci.write s offset.toNat bytes).2.read offset.toNat
    (pci.available offset.toNat bytes.length) = bytes.take (pci.available offset.toNat bytes.length)
  complete : (pci.write s offset.toNat bytes).1 = bytes.length →
    load (pci.write s offset.toNat bytes).2.mmap offset.toNat bytes.length = bytes

theorem write_exact_iff (s : WordSize) (pci : PciDataHandler) (offset : UInt32) (bytes : List UInt8)
    (hfits : offset.toNat + bytes.length < s.modulus) :
    pci.WritesExactly s offset bytes ↔ pci.available offset.toNat bytes.length < 2 ^ 16 := by
  have hwrite : pci.write s offset.toNat bytes = _ := write_eq hfits
  have hle : pci.available offset.toNat bytes.length ≤ bytes.length := available_le
  constructor
  · intro hexact
    have hreturned := hexact.returned
    rw [hwrite] at hreturned
    rw [← hreturned]
    exact Nat.mod_lt _ (by norm_num)
  · intro hlt
    rw [uint16_of_lt hlt] at hwrite
    have htake : (bytes.take (pci.available offset.toNat bytes.length)).length =
        pci.available offset.toNat bytes.length := List.length_take_of_le hle
    have hstored : load (pci.write s offset.toNat bytes).2.mmap offset.toNat
        (pci.available offset.toNat bytes.length) =
          bytes.take (pci.available offset.toNat bytes.length) := by
      rw [hwrite]
      have hload : load (store pci.mmap offset.toNat
        (bytes.take (pci.available offset.toNat bytes.length))) offset.toNat
          (bytes.take (pci.available offset.toNat bytes.length)).length = _ := load_store_same
      rwa [htake] at hload
    refine ⟨by rw [hwrite], hstored, fun i hi => ?_, ?_, fun hreturned => ?_⟩
    · rw [hwrite]
      exact store_outside (by rwa [htake])
    · by_cases hoffset : offset.toNat ≤ pci.regionSize.toNat
      · rw [read_within, hstored]
        rw [write_regionSize, available, if_neg (by omega)]
        omega
      · have hnone : pci.available offset.toNat bytes.length = 0 := if_pos (not_le.mp hoffset)
        rw [hnone, read, if_pos (Or.inr rfl), List.take_zero]
    · have hall : pci.available offset.toNat bytes.length = bytes.length := by
        rw [hwrite] at hreturned
        exact hreturned
      rwa [hall, List.take_length] at hstored

theorem write_exact_clamped : WritesExactly .bits32 ⟨3, fun _ => 0⟩ 1 [7, 8, 9] :=
  (write_exact_iff .bits32 ⟨3, fun _ => 0⟩ 1 [7, 8, 9] (by decide)).mpr (by decide)

theorem write_not_exact :
    ¬ WritesExactly .bits32 ⟨0x10000, fun _ => 0⟩ 0 (List.replicate 0x10000 1) := by
  intro hexact
  have hlength : (List.replicate 0x10000 (1 : UInt8)).length = 0x10000 := List.length_replicate
  have hfits : (0 : UInt32).toNat + (List.replicate 0x10000 (1 : UInt8)).length <
      WordSize.bits32.modulus := by
    rw [hlength]
    decide
  have hreturned := hexact.returned
  rw [write_eq hfits, hlength] at hreturned
  revert hreturned
  decide

end PciDataHandler

end SmmErrorLogger.Buffer
