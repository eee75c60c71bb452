import SmmErrorLogger.Buffer.QueueReader

namespace SmmErrorLogger.Buffer

open Library.Bytes Library.Interaction Library.Circular
open Library.Interaction.Proc

lemma accumulateXor_eq (bytes : List UInt8) : accumulateXor bytes = (xorAll bytes).toNat := by
  have hfold : ∀ n : ℕ, bytes.foldl (fun acc b => acc ^^^ b.toNat) n = n ^^^
      (xorAll bytes).toNat := by
    induction bytes with
    | nil => simp [xorAll]
    | cons b bs ih =>
      intro n
      rw [List.foldl_cons, ih, xorAll, UInt8.toNat_xor, Nat.xor_assoc]
  simpa [accumulateXor] using hfold 0

lemma checksum_eq (xs ys : List UInt8) :
    UInt8.ofNat (accumulateXor xs ^^^ accumulateXor ys) = xorAll (xs ++ ys) := by
  rw [accumulateXor_eq, accumulateXor_eq, ← UInt8.toNat_xor, UInt8.ofNat_toNat, xorAll_append]

namespace QueueEntryHeader

@[simp] lemma toBytes_length (h : QueueEntryHeader) : h.toBytes.length = QueueEntryHeader.size := by
  simp [toBytes, QueueEntryHeader.size]

lemma ofBytes_toBytes (h : QueueEntryHeader) (rest : List UInt8) :
    ofBytes (h.toBytes ++ rest) = h := by
  have hs := h.sequenceId.toNat_lt
  have he := h.entrySize.toNat_lt
  have hfield : ∀ x : UInt16, UInt16.ofNat (ofLittleEndian (littleEndian 2 x.toNat)) = x := by
    intro x
    have hx := x.toNat_lt
    rw [ofLittleEndian_littleEndian, Nat.mod_eq_of_lt (by omega), UInt16.ofNat_toNat]
  have hl : ∀ v, ∃ a b, littleEndian 2 v = [a, b] := fun v => ⟨_, _, rfl⟩
  obtain ⟨a, b, hab⟩ := hl h.sequenceId.toNat
  obtain ⟨c, d, hcd⟩ := hl h.entrySize.toNat
  have h₁ := hfield h.sequenceId
  have h₂ := hfield h.entrySize
  rw [hab] at h₁
  rw [hcd] at h₂
  cases h
  simp_all [ofBytes, toBytes, field16, field, byte]

lemma toBytes_ofBytes {bs : List UInt8} (h : bs.length = QueueEntryHeader.size) :
    (ofBytes bs).toBytes = bs := by
  obtain ⟨a, b, c, d, e, f, rfl⟩ : ∃ a b c d e f, bs = [a, b, c, d, e, f] := by
    match bs, h with
    | [a, b, c, d, e, f], _ => exact ⟨a, b, c, d, e, f, rfl⟩
  have hfield : ∀ xs : List UInt8, xs.length = 2 →
      littleEndian 2 (ofLittleEndian xs % 65536) = xs := by
    intro xs hxs
    have hlt := ofLittleEndian_lt xs
    rw [hxs] at hlt
    rw [Nat.mod_eq_of_lt (show ofLittleEndian xs < 65536 from hlt)]
    conv_lhs => rw [← hxs]
    exact littleEndian_ofLittleEndian xs
  simp [toBytes, ofBytes, field16, field, byte, hfield]

end QueueEntryHeader

def entryBytes (e : EntryPair) : List UInt8 := e.1.toBytes ++ e.2

def batchBytes (es : List EntryPair) : List UInt8 := es.flatMap entryBytes

def ValidEntry (e : EntryPair) : Prop :=
  e.1.entrySize.toNat = e.2.length ∧ xorAll (entryBytes e) = 0

instance (e : EntryPair) : Decidable (ValidEntry e) := inferInstanceAs (Decidable (_ ∧ _))

@[simp] lemma entryBytes_length (e : EntryPair) :
    (entryBytes e).length = QueueEntryHeader.size + e.2.length := by
  simp [entryBytes]

@[simp] lemma batchBytes_nil : batchBytes [] = [] := rfl

@[simp] lemma batchBytes_cons (e : EntryPair) (es : List EntryPair) :
    batchBytes (e :: es) = entryBytes e ++ batchBytes es := rfl

@[simp] lemma batchBytes_append (es fs : List EntryPair) :
    batchBytes (es ++ fs) = batchBytes es ++ batchBytes fs := List.flatMap_append

lemma batchBytes_length (es : List EntryPair) :
    (batchBytes es).length = (es.map (fun e => QueueEntryHeader.size + e.2.length)).sum := by
  induction es with
  | nil => rfl
  | cons e es ih => simp [ih]

lemma entry_length_le {es : List EntryPair} {e : EntryPair} (h : e ∈ es) :
    e.2.length ≤ (batchBytes es).length := by
  rw [batchBytes_length]
  exact (Nat.le_add_left _ _).trans (List.single_le_sum (by simp) _ (List.mem_map_of_mem h))

lemma batchBytes_eq_nil {es : List EntryPair} (h : (batchBytes es).length = 0) : es = [] := by
  cases es with
  | nil => rfl
  | cons e es =>
    rw [batchBytes_cons, List.length_append, entryBytes_length, QueueEntryHeader.size] at h
    omega

lemma batchBytes_mono {es fs : List EntryPair} (h : es <+: fs) :
    batchBytes es <+: batchBytes fs := by
  obtain ⟨gs, rfl⟩ := h
  rw [batchBytes_append]
  exact List.prefix_append _ _

variable {cfg : Config} {m : Memory}

def entryAt (cfg : Config) (m : Memory) (pos : ℕ) : EntryPair :=
  let header := QueueEntryHeader.ofBytes (queueWindow cfg m pos QueueEntryHeader.size)
  (header, queueWindow cfg m (pos + QueueEntryHeader.size) header.entrySize.toNat)

lemma entryAt_size (pos : ℕ) :
    (entryAt cfg m pos).1.entrySize.toNat = (entryAt cfg m pos).2.length := by
  simp [entryAt]

lemma entryBytes_entryAt (pos : ℕ) : entryBytes (entryAt cfg m pos) =
    queueWindow cfg m pos (QueueEntryHeader.size + (entryAt cfg m pos).2.length) := by
  rw [← entryAt_size, entryBytes, entryAt, QueueEntryHeader.toBytes_ofBytes (by simp)]
  exact (queueWindow_add _ _ _ _).symm

lemma entryAt_of_window {pos : ℕ} {e : EntryPair} {rest : List UInt8} {n : ℕ}
    (he : e.1.entrySize.toNat = e.2.length)
    (h : queueWindow cfg m pos n = entryBytes e ++ rest) : entryAt cfg m pos = e := by
  obtain ⟨k, rfl⟩ : ∃ k, n = QueueEntryHeader.size + e.2.length + k := by
    refine ⟨rest.length, ?_⟩
    simpa using congrArg List.length h
  rw [Nat.add_assoc, queueWindow_add, entryBytes, List.append_assoc] at h
  obtain ⟨hheader, hrest⟩ := List.append_inj h (by simp)
  rw [queueWindow_add] at hrest
  obtain ⟨hpayload, _⟩ := List.append_inj hrest (by simp)
  have h₁ : QueueEntryHeader.ofBytes (queueWindow cfg m pos QueueEntryHeader.size) = e.1 := by
    have := QueueEntryHeader.ofBytes_toBytes e.1 []
    rwa [List.append_nil, ← hheader] at this
  rw [entryAt, h₁, he]
  exact Prod.ext rfl hpayload

def sampleEntry : ℕ → EntryPair
  | 0 => (⟨0, 1, 0x12, 1⟩, [0x12])
  | 1 => (⟨1, 2, 0x60, 2⟩, [0x20, 0x41])
  | 2 => (⟨2, 2, 0, 2⟩, [7, 5])
  | _ => (⟨3, 3, 3, 1⟩, [1, 1, 2])

end SmmErrorLogger.Buffer
