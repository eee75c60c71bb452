import Mathlib.Logic.Function.Iterate
import Mathlib.Tactic

/-! Reflected cyclic redundancy checks: bit by bit, and a byte at a time through a table. -/

namespace SmmErrorLogger.Library.Crc

variable {w : ℕ} (poly : BitVec w)

def shiftOut (r : BitVec w) : BitVec w :=
  if r.getLsbD 0 then (r >>> 1) ^^^ poly else r >>> 1

def feed (r : BitVec w) (bit : Bool) : BitVec w :=
  if r.getLsbD 0 != bit then (r >>> 1) ^^^ poly else r >>> 1

def remainder (r : BitVec w) (message : List Bool) : BitVec w := message.foldl (feed poly) r

def bits (b : UInt8) : List Bool := (List.range 8).map b.toBitVec.getLsbD

lemma remainder_append (r : BitVec w) (xs ys : List Bool) :
    remainder poly r (xs ++ ys) = remainder poly (remainder poly r xs) ys :=
  List.foldl_append

lemma xor_right_comm (a b c : BitVec w) : a ^^^ b ^^^ c = a ^^^ c ^^^ b := by
  rw [BitVec.xor_assoc, BitVec.xor_comm b, ← BitVec.xor_assoc]

lemma shiftOut_xor (r x : BitVec w) :
    shiftOut poly (r ^^^ x) = feed poly r (x.getLsbD 0) ^^^ (x >>> 1) := by
  rw [shiftOut, feed, BitVec.getLsbD_xor, BitVec.ushiftRight_xor_distrib]
  cases r.getLsbD 0 <;> cases x.getLsbD 0
  · rfl
  · exact xor_right_comm _ _ _
  · exact xor_right_comm _ _ _
  · rfl

lemma remainder_bits (r x : BitVec w) (n : ℕ) (hx : x >>> n = 0) :
    remainder poly r ((List.range n).map x.getLsbD) = (shiftOut poly)^[n] (r ^^^ x) := by
  induction n generalizing r x with
  | zero =>
    obtain rfl : x = 0 := by simpa using hx
    simp [remainder]
  | succ n ih =>
    have hx' : x >>> 1 >>> n = 0 := by rwa [← BitVec.shiftRight_add, Nat.add_comm]
    have hbits : (List.range n).map (x >>> 1).getLsbD = (List.range n).map
        (fun i => x.getLsbD (i + 1)) :=
      List.map_congr_left (fun i _ => by rw [BitVec.getLsbD_ushiftRight, Nat.add_comm])
    rw [Function.iterate_succ_apply, shiftOut_xor, ← ih _ _ hx', hbits, List.range_succ_eq_map]
    simp [remainder, Function.comp_def]

lemma shiftOut_iterate_xor (r x : BitVec w) (n : ℕ) (hx : ∀ i < n, x.getLsbD i = false) :
    (shiftOut poly)^[n] (r ^^^ x) = (shiftOut poly)^[n] r ^^^ (x >>> n) := by
  induction n generalizing r x with
  | zero => simp
  | succ n ih =>
    have hfeed : feed poly r false = shiftOut poly r := by
      rw [feed, shiftOut, Bool.bne_false]
    have hx' : ∀ i < n, (x >>> 1).getLsbD i = false := by
      intro i hi
      rw [BitVec.getLsbD_ushiftRight]
      exact hx _ (by omega)
    rw [Function.iterate_succ_apply, shiftOut_xor, hx 0 (by omega), hfeed, ih _ _ hx',
      Function.iterate_succ_apply, ← BitVec.shiftRight_add, Nat.add_comm 1 n]

lemma shiftOut_iterate_split (y mask : BitVec w) (n : ℕ)
    (hlow : ∀ i < n, y.getLsbD i = (y &&& mask).getLsbD i)
    (hhigh : ∀ i, mask.getLsbD (n + i) = false) :
    (shiftOut poly)^[n] y = (shiftOut poly)^[n] (y &&& mask) ^^^ (y >>> n) := by
  have hsplit : (y &&& mask) ^^^ (y ^^^ (y &&& mask)) = y := by
    rw [BitVec.xor_comm y, ← BitVec.xor_assoc, BitVec.xor_self, BitVec.zero_xor]
  have hshift : (y ^^^ (y &&& mask)) >>> n = y >>> n := by
    apply BitVec.eq_of_getLsbD_eq
    intro i _
    simp [BitVec.getLsbD_ushiftRight, hhigh]
  conv_lhs => rw [← hsplit]
  rw [shiftOut_iterate_xor poly _ _ _ (fun i hi => ?_), hshift]
  rw [BitVec.getLsbD_xor, hlow i hi, Bool.xor_self]

section Burst

variable {poly} (hpoly : poly.msb = true)
include hpoly

lemma feed_msb (r : BitVec w) (bit : Bool) : (feed poly r bit).msb = (r.getLsbD 0 != bit) := by
  have hshift : (r >>> 1).msb = false := by simp [BitVec.msb_ushiftRight]
  rw [feed]
  cases r.getLsbD 0 != bit
  · exact hshift
  · rw [if_pos rfl, BitVec.msb_xor, hshift, hpoly]
    rfl

lemma feed_injective (bit : Bool) : Function.Injective (fun r => feed poly r bit) := by
  intro r r' h
  have hmsb := congrArg BitVec.msb h
  dsimp only at h hmsb
  rw [feed_msb hpoly, feed_msb hpoly] at hmsb
  have hlow : r.getLsbD 0 = r'.getLsbD 0 := by
    revert hmsb
    cases r.getLsbD 0 <;> cases r'.getLsbD 0 <;> cases bit <;> decide
  have hshift : r >>> 1 = r' >>> 1 := by
    rw [feed, feed, hlow] at h
    split_ifs at h
    · exact (BitVec.xor_left_inj poly).mp h
    · exact h
  apply BitVec.eq_of_getLsbD_eq
  intro i _
  cases i with
  | zero => exact hlow
  | succ i =>
    have hbit := congrArg (fun x : BitVec w => x.getLsbD i) hshift
    simpa only [BitVec.getLsbD_ushiftRight, Nat.add_comm 1 i] using hbit

lemma shiftOut_injective : Function.Injective (shiftOut poly) := by
  intro r r' h
  apply feed_injective hpoly false
  simpa only [feed, shiftOut, Bool.bne_false] using h

lemma remainder_injective (message : List Bool) :
    Function.Injective (fun r => remainder poly r message) := by
  induction message with
  | nil => exact fun _ _ h => h
  | cons bit message ih => exact fun r r' h => feed_injective hpoly bit (ih h)

omit hpoly in
lemma exists_word (message : List Bool) (h : message.length ≤ w) : ∃ x : BitVec w,
    x >>> message.length = 0 ∧ (List.range message.length).map x.getLsbD = message := by
  refine ⟨(BitVec.ofBoolListLE message).setWidth w, ?_, ?_⟩
  · apply BitVec.eq_of_getLsbD_eq
    intro i _
    simp [BitVec.getLsbD_ushiftRight, BitVec.getLsbD_setWidth]
  · apply List.ext_getElem (by simp)
    intro i hi hi'
    simp only [List.getElem_map, List.getElem_range, BitVec.getLsbD_setWidth,
      BitVec.getLsbD_ofBoolListLE]
    rw [decide_eq_true (hi'.trans_le h), Bool.true_and]
    simp [hi']

theorem remainder_burst {r : BitVec w} {pre old new post : List Bool}
    (hlength : old.length = new.length)
    (hle : old.length ≤ w)
    (h : remainder poly r (pre ++ old ++ post) = remainder poly r (pre ++ new ++ post)) :
    old = new := by
  obtain ⟨x, hx, hold⟩ := exists_word old hle
  obtain ⟨y, hy, hnew⟩ := exists_word new (hlength ▸ hle)
  rw [remainder_append, remainder_append, remainder_append, remainder_append] at h
  have hburst := remainder_injective hpoly post h
  rw [← hold, ← hnew, remainder_bits _ _ _ _ hx, remainder_bits _ _ _ _ hy, hlength] at hburst
  have hword := (shiftOut_injective hpoly).iterate new.length hburst
  rw [← hold, ← hnew, (BitVec.xor_right_inj _).mp hword, hlength]

end Burst

lemma bits_length (b : UInt8) : (bits b).length = 8 := by simp [bits]

lemma bits_injective : Function.Injective bits := by
  intro b c h
  apply UInt8.toBitVec_inj.mp
  apply BitVec.eq_of_getLsbD_eq
  intro i hi
  exact List.map_inj_left.mp h i (List.mem_range.mpr hi)

lemma flatMap_bits_length (bytes : List UInt8) :
    (bytes.flatMap bits).length = 8 * bytes.length := by
  induction bytes with
  | nil => rfl
  | cons b bytes ih =>
    rw [List.flatMap_cons, List.length_append, bits_length, ih, List.length_cons]
    omega

lemma flatMap_bits_injective :
    Function.Injective (fun bytes : List UInt8 => bytes.flatMap bits) := by
  intro xs ys h
  induction xs generalizing ys with
  | nil =>
    have hlength := congrArg List.length h
    rw [flatMap_bits_length, flatMap_bits_length, List.length_nil] at hlength
    exact (List.length_eq_zero_iff.mp (by omega)).symm
  | cons x xs ih =>
    cases ys with
    | nil =>
      have hlength := congrArg List.length h
      rw [flatMap_bits_length, flatMap_bits_length, List.length_cons, List.length_nil] at hlength
      omega
    | cons y ys =>
      simp only [List.flatMap_cons] at h
      obtain ⟨hhead, htail⟩ := List.append_inj h (by rw [bits_length, bits_length])
      rw [bits_injective hhead, ih htail]

/-- The CRC-32 of IEEE 802.3, bit by bit. -/
def crc32 (message : List UInt8) : BitVec 32 :=
  remainder 0xedb88320 0xffffffff (message.flatMap bits) ^^^ 0xffffffff

end SmmErrorLogger.Library.Crc
