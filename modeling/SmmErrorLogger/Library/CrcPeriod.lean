import Mathlib.Dynamics.PeriodicPts.Defs
import SmmErrorLogger.Library.Crc

/-! The registers of a CRC as polynomials modulo its divisor: shifting out is multiplication by the
variable. After how many shifts a register comes back is found by repeated squaring. -/

namespace SmmErrorLogger.Library.Crc

open Function

variable {w : ℕ} (poly : BitVec w)

lemma xor_xor_self (r : BitVec w) : r ^^^ poly ^^^ poly = r := by
  rw [BitVec.xor_assoc, BitVec.xor_self, BitVec.xor_zero]

lemma feed_eq (r : BitVec w) (bit : Bool) :
    feed poly r bit = shiftOut poly r ^^^ if bit then poly else 0#w := by
  rw [feed, shiftOut]
  cases r.getLsbD 0 <;> cases bit
  · simp
  · simp
  · simp
  · exact (xor_xor_self poly _).symm

lemma shiftOut_add (r x : BitVec w) :
    shiftOut poly (r ^^^ x) = shiftOut poly r ^^^ shiftOut poly x := by
  rw [shiftOut_xor, feed_eq, BitVec.xor_assoc]
  congr 1
  rw [shiftOut]
  cases x.getLsbD 0
  · simp
  · simp [BitVec.xor_comm]

@[simp] lemma shiftOut_zero : shiftOut poly 0#w = 0#w := by simp [shiftOut]

lemma shiftOut_iterate_add (n : ℕ) (r x : BitVec w) :
    (shiftOut poly)^[n] (r ^^^ x) = (shiftOut poly)^[n] r ^^^ (shiftOut poly)^[n] x := by
  induction n generalizing r x with
  | zero => rfl
  | succ n ih => rw [iterate_succ_apply, shiftOut_add, ih, iterate_succ_apply, iterate_succ_apply]

def combine (message : List Bool) (y : BitVec w) : BitVec w :=
  message.foldl (fun acc bit => shiftOut poly acc ^^^ if bit then y else 0#w) 0#w

def mul (a y : BitVec w) : BitVec w := combine poly ((List.range w).map a.getLsbD) y

section Product

variable {poly} {e : BitVec w}

lemma mul_poly (a : BitVec w) : mul poly a poly = (shiftOut poly)^[w] a := by
  have hzero : a >>> w = 0#w := by
    apply BitVec.eq_of_getLsbD_eq
    intro i hi
    simp [BitVec.getLsbD_ushiftRight, BitVec.getLsbD_of_ge]
  have hremainder := remainder_bits poly 0#w a w hzero
  rw [BitVec.zero_xor] at hremainder
  rw [← hremainder, mul, combine, remainder]
  congr 1
  funext r bit
  exact (feed_eq poly r bit).symm

lemma map_mul_of_commutes {g : BitVec w → BitVec w} (hadd : ∀ x y, g (x ^^^ y) = g x ^^^ g y)
    (hshift : ∀ x, g (shiftOut poly x) = shiftOut poly (g x)) (a y : BitVec w) :
    g (mul poly a y) = mul poly a (g y) := by
  have hzero : g 0#w = 0#w := by
    have hg := hadd 0#w 0#w
    rwa [BitVec.xor_self, BitVec.xor_self] at hg
  have hfold : ∀ (message : List Bool) (acc : BitVec w),
      g (message.foldl (fun acc bit => shiftOut poly acc ^^^ if bit then y else 0#w) acc) =
        message.foldl (fun acc bit => shiftOut poly acc ^^^ if bit then g y else 0#w) (g acc) := by
    intro message
    induction message with
    | nil => exact fun _ => rfl
    | cons bit message ih =>
      intro acc
      rw [List.foldl_cons, List.foldl_cons, ih, hadd, hshift]
      cases bit <;> simp [hzero]
  rw [mul, mul, combine, combine, hfold, hzero]

lemma shiftOut_iterate_mul (n : ℕ) (a y : BitVec w) :
    (shiftOut poly)^[n] (mul poly a y) = mul poly a ((shiftOut poly)^[n] y) :=
  map_mul_of_commutes (shiftOut_iterate_add poly n)
    (fun x => (Commute.self_iterate (shiftOut poly) n x).symm) a y

variable (hpoly : poly.msb = true) (he : (shiftOut poly)^[w] e = poly)
include hpoly he

lemma mul_unit (a : BitVec w) : mul poly a e = a := by
  apply (shiftOut_injective hpoly).iterate w
  rw [shiftOut_iterate_mul, he, mul_poly]

lemma mul_iterate (m n : ℕ) :
    mul poly ((shiftOut poly)^[m] e) ((shiftOut poly)^[n] e) = (shiftOut poly)^[m + n] e := by
  rw [← shiftOut_iterate_mul, mul_unit hpoly he, ← iterate_add_apply, Nat.add_comm]

omit hpoly he in
/-- `f x`, where `x` is evaluated first. -/
def forced {α : Type} (x : BitVec w) (f : BitVec w → α) : α :=
  match x.toNat with
  | 0 => f 0#w
  | n + 1 => f (BitVec.ofNat w (n + 1))

omit hpoly he in
lemma forced_eq {α : Type} {x : BitVec w} {f : BitVec w → α} : forced x f = f x := by
  have hx : BitVec.ofNat w x.toNat = x := by rw [BitVec.ofNat_toNat, BitVec.setWidth_eq]
  rw [forced]
  generalize x.toNat = n at hx
  subst hx
  cases n <;> rfl

omit hpoly he in
variable (poly) in
def power : ℕ → ℕ → BitVec w → BitVec w → BitVec w
  | 0, _, _, acc => acc
  | size + 1, n, base, acc =>
    forced (mul poly base base) fun base' =>
      forced (if n % 2 = 1 then mul poly base acc else acc) fun acc => power size (n / 2) base' acc

lemma power_iterate {size n m k : ℕ} (hn : n < 2 ^ size) :
    power poly size n ((shiftOut poly)^[m] e) ((shiftOut poly)^[k] e) =
      (shiftOut poly)^[m * n + k] e := by
  induction size generalizing n m k with
  | zero =>
    obtain rfl : n = 0 := by omega
    rw [power, Nat.mul_zero, Nat.zero_add]
  | succ size ih =>
    have hhalf : n / 2 < 2 ^ size := by
      rw [pow_succ] at hn
      omega
    rw [power, forced_eq, forced_eq, mul_iterate hpoly he, mul_iterate hpoly he]
    split_ifs with hodd
    · rw [ih hhalf]
      congr 1
      have hn : n = 2 * (n / 2) + 1 := by omega
      conv_rhs => rw [hn]
      ring
    · rw [ih hhalf]
      congr 1
      have hn : n = 2 * (n / 2) := by omega
      conv_rhs => rw [hn]
      ring

lemma shiftOut_iterate_unit {size n : ℕ} (hn : n < 2 ^ size) :
    (shiftOut poly)^[n] e = power poly size n (shiftOut poly e) e := by
  have hpower := power_iterate hpoly he (m := 1) (k := 0) hn
  rwa [Nat.one_mul, Nat.add_zero, iterate_one, iterate_zero_apply, eq_comm] at hpower

lemma isPeriodicPt_poly_iff {d : ℕ} :
    IsPeriodicPt (shiftOut poly) d poly ↔ IsPeriodicPt (shiftOut poly) d e := by
  have hcomm := (Commute.iterate_iterate_self (shiftOut poly) d w) e
  rw [he] at hcomm
  have hinjective :=
    ((shiftOut_injective hpoly).iterate w).eq_iff (a := (shiftOut poly)^[d] e) (b := e)
  rw [he] at hinjective
  rw [IsPeriodicPt, IsFixedPt, hcomm, hinjective]
  rfl

end Product

lemma isPeriodicPt_iff_dvd {α : Type} {f : α → α} {x : α} {n d : ℕ} (hperiod : IsPeriodicPt f n x)
    (hprime : ∀ p, p.Prime → p ∣ n → ¬ IsPeriodicPt f (n / p) x) : IsPeriodicPt f d x ↔ n ∣ d := by
  have hminimal : minimalPeriod f x = n := by
    obtain ⟨k, hk⟩ := hperiod.minimalPeriod_dvd
    by_contra hne
    obtain ⟨p, hp, l, rfl⟩ :=
      Nat.exists_prime_and_dvd (show k ≠ 1 by rintro rfl; exact hne (by omega))
    have hquotient : n / p = minimalPeriod f x * l := by
      rw [hk, Nat.mul_left_comm]
      exact Nat.mul_div_cancel_left _ hp.pos
    refine hprime p hp ⟨minimalPeriod f x * l, by rw [hk, Nat.mul_left_comm]⟩ ?_
    rw [hquotient]
    exact (isPeriodicPt_minimalPeriod f x).mul_const l
  rw [isPeriodicPt_iff_minimalPeriod_dvd, hminimal]

section TwoBits

variable {poly} {r x : BitVec w} {b b' : Bool} {pre mid post message : List Bool}

lemma feed_add (bit : Bool) : feed poly (r ^^^ x) bit = feed poly r bit ^^^ shiftOut poly x := by
  rw [feed_eq, feed_eq, shiftOut_add, xor_right_comm]

lemma feed_not (bit : Bool) : feed poly r (!bit) = feed poly r bit ^^^ poly := by
  rw [feed_eq, feed_eq]
  cases bit
  · simp
  · rw [if_neg (by simp), if_pos rfl, BitVec.xor_zero, xor_xor_self]

lemma remainder_add : remainder poly (r ^^^ x) message =
    remainder poly r message ^^^ (shiftOut poly)^[message.length] x := by
  induction message generalizing r x with
  | nil => rfl
  | cons bit message ih =>
    have hcons : ∀ r, remainder poly r (bit :: message) = remainder poly
        (feed poly r bit) message := fun _ => rfl
    rw [hcons, hcons, feed_add, ih, List.length_cons, iterate_succ_apply]

theorem remainder_twoBits (hpoly : poly.msb = true) :
    remainder poly r (pre ++ (!b) :: (mid ++ (!b') :: post)) = remainder poly r
      (pre ++ b :: (mid ++ b' :: post)) ↔
        IsPeriodicPt (shiftOut poly) (mid.length + 1) poly := by
  have hcons : ∀ r bit message, remainder poly r (bit :: message) = remainder poly
      (feed poly r bit) message :=
    fun _ _ _ => rfl
  have hself : ∀ y z : BitVec w, y ^^^ z = y ↔ z = 0#w := by
    intro y z
    conv_lhs => rhs; rw [← BitVec.xor_zero (x := y)]
    exact BitVec.xor_right_inj y
  have hfixed : (shiftOut poly)^[post.length] 0#w = 0#w := iterate_fixed (shiftOut_zero poly) _
  have hmiddle : ∀ start, remainder poly (feed poly start (!b)) mid =
      remainder poly (feed poly start b) mid ^^^ (shiftOut poly)^[mid.length] poly := by
    intro start
    rw [feed_not, remainder_add]
  have hsecond : ∀ middle, feed poly (middle ^^^ (shiftOut poly)^[mid.length] poly) (!b') =
      feed poly middle b' ^^^ ((shiftOut poly)^[mid.length + 1] poly ^^^ poly) := by
    intro middle
    rw [feed_not, feed_add, ← iterate_succ_apply' (shiftOut poly), BitVec.xor_assoc]
  rw [remainder_append, remainder_append, hcons, hcons, remainder_append, remainder_append, hcons,
    hcons, hmiddle, hsecond, remainder_add, hself]
  conv_lhs => rw [← hfixed]
  rw [((shiftOut_injective hpoly).iterate _).eq_iff, BitVec.xor_eq_zero_iff]
  rfl

end TwoBits

lemma crc32_period {d : ℕ} :
    IsPeriodicPt (shiftOut (0xedb88320 : BitVec 32)) d 0xedb88320 ↔ 2 ^ 32 - 1 ∣ d := by
  have hpoly : BitVec.msb (0xedb88320 : BitVec 32) = true := by decide
  have hunit : (shiftOut (0xedb88320 : BitVec 32))^[32] 0x80000000 = 0xedb88320 := by decide +kernel
  have hpower : ∀ n < 2 ^ 32, IsPeriodicPt (shiftOut (0xedb88320 : BitVec 32)) n 0x80000000 ↔
      power 0xedb88320 32 n (shiftOut 0xedb88320 0x80000000) (0x80000000 : BitVec 32) =
        0x80000000 := by
    intro n hn
    rw [← shiftOut_iterate_unit hpoly hunit hn]
    rfl
  rw [isPeriodicPt_poly_iff hpoly hunit]
  refine isPeriodicPt_iff_dvd ((hpower _ (by norm_num)).mpr (by decide +kernel)) ?_
  intro p hp hdvd
  have hfactors : 2 ^ 32 - 1 = 3 * 5 * 17 * 257 * 65537 := by norm_num
  have hcases : p = 3 ∨ p = 5 ∨ p = 17 ∨ p = 257 ∨ p = 65537 := by
    rw [hfactors, hp.dvd_mul, hp.dvd_mul, hp.dvd_mul, hp.dvd_mul,
      Nat.prime_dvd_prime_iff_eq hp (by norm_num), Nat.prime_dvd_prime_iff_eq hp (by norm_num),
      Nat.prime_dvd_prime_iff_eq hp (by norm_num), Nat.prime_dvd_prime_iff_eq hp (by norm_num),
      Nat.prime_dvd_prime_iff_eq hp (by norm_num)] at hdvd
    rcases hdvd with (((h | h) | h) | h) | h <;> simp [h]
  rw [hpower _ (lt_of_le_of_lt (Nat.div_le_self _ _) (by norm_num))]
  rcases hcases with rfl | rfl | rfl | rfl | rfl <;> decide +kernel

end SmmErrorLogger.Library.Crc
