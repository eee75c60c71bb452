import SmmErrorLogger.Library.Crc

namespace SmmErrorLogger.Rde

open Library.Crc

def crcDevisor : UInt32 := 0xedb88320

def crcRound (rem : UInt32) : UInt32 :=
  if rem &&& 1 ≠ 0 then (rem >>> 1) ^^^ crcDevisor else rem >>> 1

def calcCrcTable : Vector UInt32 256 := .ofFn (fun i => crcRound^[8] (UInt32.ofNat i))

def crcTable : Vector UInt32 256 := calcCrcTable

def updateCrc (crc : UInt32) (stream : List UInt8) : UInt32 :=
  stream.foldl (fun crc b =>
    crcTable.get (Fin.ofNat 256 ((crc ^^^ b.toUInt32) &&& 0xff).toNat) ^^^ (crc >>> 8)) crc

def finalChecksum (crc : UInt32) : UInt32 := crc ^^^ 0xFFFFFFFF

lemma updateCrc_append (crc : UInt32) (xs ys : List UInt8) :
    updateCrc crc (xs ++ ys) = updateCrc (updateCrc crc xs) ys :=
  List.foldl_append

lemma crcRound_eq (rem : UInt32) : (crcRound rem).toBitVec = shiftOut 0xedb88320 rem.toBitVec := by
  have hbit : rem &&& 1 ≠ 0 ↔ rem.toBitVec.getLsbD 0 = true := by
    rw [Ne, ← UInt32.toBitVec_inj, UInt32.toBitVec_and]
    change ¬ rem.toBitVec &&& 1#32 = 0#32 ↔ _
    rw [BitVec.and_one_eq_setWidth_ofBool_getLsbD]
    cases rem.toBitVec.getLsbD 0 <;> decide
  rw [crcRound, shiftOut]
  by_cases h : rem.toBitVec.getLsbD 0 = true
  · rw [if_pos (hbit.mpr h), if_pos h]
    rfl
  · rw [if_neg (mt hbit.mp h), if_neg h]
    rfl

lemma crcTable_get (i : Fin 256) :
    (crcTable.get i).toBitVec = (shiftOut 0xedb88320)^[8] (BitVec.ofNat 32 i) := by
  have hrounds : ∀ n rem, (crcRound^[n] rem).toBitVec = (shiftOut 0xedb88320)^[n] rem.toBitVec := by
    intro n
    induction n with
    | zero => exact fun _ => rfl
    | succ n ih =>
      intro rem
      rw [Function.iterate_succ_apply, ih, crcRound_eq, Function.iterate_succ_apply]
  have hget : crcTable.get i = crcRound^[8] (UInt32.ofNat i) := by
    change calcCrcTable[(i : ℕ)] = _
    rw [calcCrcTable, Vector.getElem_ofFn]
  rw [hget, hrounds]
  rfl

lemma byteMask_getLsbD (i : ℕ) : (0xff#32).getLsbD i = decide (i < 8) := by
  rw [show 0xff#32 = (BitVec.allOnes 8).setWidth 32
    by decide, BitVec.getLsbD_setWidth, BitVec.getLsbD_allOnes]
  by_cases h : i < 8
  · simp only [h, decide_true, Bool.and_true, decide_eq_true_eq]
    omega
  · simp [h]

lemma crcTable_index (x : UInt32) : (crcTable.get (Fin.ofNat 256 (x &&& 0xff).toNat)).toBitVec =
    (shiftOut 0xedb88320)^[8] (x.toBitVec &&& 0xff) := by
  have hlt : (x &&& 0xff).toNat < 256 := by
    rw [UInt32.toNat_and]
    exact Nat.lt_succ_of_le Nat.and_le_right
  have hindex : ((Fin.ofNat 256 (x &&& 0xff).toNat : Fin 256) : ℕ) = (x &&& 0xff).toNat :=
    Nat.mod_eq_of_lt hlt
  rw [crcTable_get, hindex, ← UInt32.toNat_toBitVec, BitVec.ofNat_toNat, BitVec.setWidth_eq]
  rfl

lemma updateCrc_byte (crc : UInt32) (b : UInt8) :
    (updateCrc crc [b]).toBitVec = remainder 0xedb88320 crc.toBitVec (bits b) := by
  have hbits : bits b = (List.range 8).map (b.toBitVec.setWidth 32).getLsbD := by
    apply List.map_congr_left
    intro i hi
    have := List.mem_range.mp hi
    rw [BitVec.getLsbD_setWidth, decide_eq_true (by omega), Bool.true_and]
  have hhigh : b.toBitVec.setWidth 32 >>> 8 = 0#32 := by
    apply BitVec.eq_of_getLsbD_eq
    intro i _
    simp [BitVec.getLsbD_ushiftRight, BitVec.getLsbD_of_ge]
  have hlow : ∀ y : BitVec 32, ∀ i < 8, y.getLsbD i = (y &&& 0xff#32).getLsbD i := by
    intro y i hi
    rw [BitVec.getLsbD_and, byteMask_getLsbD, decide_eq_true hi, Bool.and_true]
  rw [hbits, remainder_bits _ _ _ _ hhigh, shiftOut_iterate_split _ _ 0xff _ (hlow _) (fun i => ?_),
    BitVec.ushiftRight_xor_distrib, hhigh, BitVec.xor_zero]
  · exact congrArg (· ^^^ crc.toBitVec >>> 8) (crcTable_index (crc ^^^ b.toUInt32))
  · exact (byteMask_getLsbD _).trans (decide_eq_false (by omega))

lemma updateCrc_eq (crc : UInt32) (stream : List UInt8) :
    (updateCrc crc stream).toBitVec = remainder 0xedb88320 crc.toBitVec (stream.flatMap bits) := by
  induction stream generalizing crc with
  | nil => rfl
  | cons b bs ih =>
    rw [← List.singleton_append, updateCrc_append, ih, updateCrc_byte, List.flatMap_append,
      remainder_append, List.flatMap_singleton]

/-- The loop of `updateCrc`, whose counter has 32 bits, for a number of rounds. -/
def updateCrcLoop (stream : List UInt8) : ℕ → UInt32 → UInt32 → Option UInt32
  | 0, _, _ => none
  | rounds + 1, i, crc =>
    if h : i.toNat < stream.length then updateCrcLoop stream rounds (i + 1)
      (updateCrc crc [stream[i.toNat]])
    else some crc

lemma updateCrcLoop_drop {stream : List UInt8} (hlength : stream.length < 2 ^ 32) {rounds : ℕ}
    {i crc : UInt32} (hrounds : stream.length = i.toNat + rounds) :
    updateCrcLoop stream (rounds + 1) i crc = some (updateCrc crc (stream.drop i.toNat)) := by
  induction rounds generalizing i crc with
  | zero =>
    rw [updateCrcLoop, dif_neg (by omega), List.drop_of_length_le (by omega)]
    rfl
  | succ rounds ih =>
    have hi : i.toNat < stream.length := by omega
    have hnext : (i + 1).toNat = i.toNat + 1 := by
      rw [UInt32.toNat_add]
      exact Nat.mod_eq_of_lt (by simp only [UInt32.toNat_one]; omega)
    rw [updateCrcLoop, dif_pos hi, ih (by omega), hnext, ← updateCrc_append, List.singleton_append,
      List.cons_getElem_drop_succ]

lemma updateCrcLoop_ends {stream : List UInt8} {crc : UInt32} (hlength : stream.length < 2 ^ 32) :
    updateCrcLoop stream (stream.length + 1) 0 crc = some (updateCrc crc stream) :=
  updateCrcLoop_drop hlength (i := 0) (by simp)

theorem finalChecksum_eq (stream : List UInt8) :
    (finalChecksum (updateCrc 0xFFFFFFFF stream)).toBitVec = crc32 stream := by
  rw [finalChecksum, UInt32.toBitVec_xor, updateCrc_eq]
  rfl

lemma foldl_updateCrc (crc : UInt32) (chunks : List (List UInt8)) :
    chunks.foldl updateCrc crc = updateCrc crc chunks.flatten := by
  induction chunks generalizing crc with
  | nil => rfl
  | cons chunk chunks ih => rw [List.foldl_cons, ih, List.flatten_cons, updateCrc_append]

theorem finalChecksum_chunks (chunks : List (List UInt8)) :
    (finalChecksum (chunks.foldl updateCrc 0xFFFFFFFF)).toBitVec = crc32 chunks.flatten ∧
      ∀ chunk ∈ chunks, chunk.length < 2 ^ 32 → ∀ crc,
        updateCrcLoop chunk (chunk.length + 1) 0 crc = some (updateCrc crc chunk) := by
  constructor
  · rw [foldl_updateCrc]
    exact finalChecksum_eq chunks.flatten
  · intro chunk _ hlength crc
    exact updateCrcLoop_ends hlength

lemma updateCrc_burst {crc : UInt32} {pre old new post : List UInt8}
    (hlength : old.length = new.length) (hle : old.length ≤ 4) (hne : old ≠ new) :
    updateCrc crc (pre ++ old ++ post) ≠ updateCrc crc (pre ++ new ++ post) := by
  intro h
  have hremainder := congrArg UInt32.toBitVec h
  simp only [updateCrc_eq, List.flatMap_append] at hremainder
  have hpoly : BitVec.msb (0xedb88320 : BitVec 32) = true := by decide
  refine hne (flatMap_bits_injective (remainder_burst hpoly ?_ ?_ hremainder))
  · rw [flatMap_bits_length, flatMap_bits_length, hlength]
  · rw [flatMap_bits_length]
    omega

lemma finalChecksum_inj {crc crc' : UInt32} : finalChecksum crc = finalChecksum crc' ↔ crc = crc' :=
  UInt32.xor_left_inj _

end SmmErrorLogger.Rde
