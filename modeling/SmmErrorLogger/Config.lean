import Mathlib.Tactic

namespace SmmErrorLogger

inductive WordSize
  | bits32
  | bits64
  deriving DecidableEq

def WordSize.modulus : WordSize → ℕ
  | .bits32 => 2 ^ 32
  | .bits64 => 2 ^ 64

lemma WordSize.modulus_ge (s : WordSize) : 2 ^ 32 ≤ s.modulus := by
  cases s <;> norm_num [modulus]

def WordSize.sub (s : WordSize) (a b : ℕ) : ℕ := (a + s.modulus - b) % s.modulus

lemma WordSize.sub_of_le {s : WordSize} {a b : ℕ} (h : b ≤ a) (ha : a < s.modulus) :
    s.sub a b = a - b := by
  rw [sub, show a + s.modulus - b = a - b + s.modulus by omega, Nat.add_mod_right,
    Nat.mod_eq_of_lt (by omega)]

def uint32 (n : ℕ) : ℕ := n % 2 ^ 32

@[simp] lemma uint32_of_lt {n : ℕ} (h : n < 2 ^ 32) : uint32 n = n := Nat.mod_eq_of_lt h

def uint16 (n : ℕ) : ℕ := n % 2 ^ 16

@[simp] lemma uint16_of_lt {n : ℕ} (h : n < 2 ^ 16) : uint16 n = n := Nat.mod_eq_of_lt h

structure Config where
  sizeT : WordSize
  bmcInterfaceVersion : UInt32
  queueRegionSize : ℕ
  ueRegionSize : ℕ
  magicNumber : Vector UInt32 4

end SmmErrorLogger
