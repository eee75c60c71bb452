import Mathlib.Data.Nat.Bitwise
import Mathlib.Tactic

namespace SmmErrorLogger.Library.Flags

variable {f g b : UInt32}

lemma xor_and : (f ^^^ g) &&& b = (f &&& b) ^^^ (g &&& b) := by
  apply UInt32.toNat_inj.mp
  simp only [UInt32.toNat_and, UInt32.toNat_xor]
  exact Nat.and_xor_distrib_right

lemma or_and : (f ||| g) &&& b = (f &&& b) ||| (g &&& b) := by
  apply UInt32.toNat_inj.mp
  simp only [UInt32.toNat_and, UInt32.toNat_or]
  exact Nat.and_or_distrib_right _ _ _

lemma toggle_other (h : g &&& b = 0) : (f ^^^ g) &&& b = f &&& b := by
  rw [xor_and, h, UInt32.xor_zero]

lemma set_other (h : g &&& b = 0) : (f ||| g) &&& b = f &&& b := by
  rw [or_and, h, UInt32.or_zero]

def IsFlag (b : UInt32) : Prop := ∃ i < 32, b.toNat = 2 ^ i

lemma IsFlag.and_eq (hb : IsFlag b) (f : UInt32) : f &&& b = 0 ∨ f &&& b = b := by
  obtain ⟨i, -, hi⟩ := hb
  cases h : f.toNat.testBit i with
  | false =>
    apply Or.inl
    apply UInt32.toNat_inj.mp
    rw [UInt32.toNat_and, hi, Nat.and_two_pow, h]
    simp
  | true =>
    apply Or.inr
    apply UInt32.toNat_inj.mp
    rw [UInt32.toNat_and, hi, Nat.and_two_pow, h]
    simp

lemma IsFlag.ne_zero (hb : IsFlag b) : b ≠ 0 := by
  rintro rfl
  obtain ⟨i, -, hi⟩ := hb
  exact absurd hi.symm (Nat.two_pow_pos i).ne'

def Differ (b f g : UInt32) : Prop := (f ^^^ g) &&& b ≠ 0

instance : Decidable (Differ b f g) := inferInstanceAs (Decidable (_ ≠ _))

lemma differ_iff : Differ b f g ↔ f &&& b ≠ g &&& b := by
  rw [Differ, xor_and, not_iff_not]
  exact UInt32.xor_eq_zero_iff

lemma differ_toggle_other {t : UInt32} (h : t &&& b = 0) : Differ b f (g ^^^ t) ↔ Differ b f g := by
  rw [differ_iff, differ_iff, toggle_other h]

lemma IsFlag.differ_toggle (hb : IsFlag b) : Differ b f (g ^^^ b) ↔ ¬ Differ b f g := by
  have hself : b &&& b = b := UInt32.and_self
  rw [differ_iff, differ_iff, xor_and, hself, not_not]
  rcases hb.and_eq f with hf | hf <;> rcases hb.and_eq g with hg | hg
    <;> simp [hf, hg, hb.ne_zero, hb.ne_zero.symm]

lemma differ_comm : Differ b f g ↔ Differ b g f := by
  rw [differ_iff, differ_iff]
  exact ne_comm

def toggles (b f g : UInt32) : ℕ := if Differ b f g then 1 else 0

lemma toggles_same (h : f &&& b = g &&& b) : toggles b f g = 0 :=
  if_neg (fun hd => differ_iff.mp hd h)

lemma IsFlag.toggles_self (hb : IsFlag b) : toggles b f (f ^^^ b) = 1 :=
  if_pos (hb.differ_toggle.mpr fun hd => differ_iff.mp hd rfl)

end SmmErrorLogger.Library.Flags
