import Mathlib.Data.List.Basic
import Mathlib.Tactic

/-! Circular storage of `M` cells: windows that may wrap, and a stream of which the part
between a read and a write count is stored modulo `M`. -/

namespace SmmErrorLogger.Library.Circular

variable {α : Type} {q : ℕ → α} {M : ℕ}

def window (q : ℕ → α) (M start len : ℕ) : List α :=
  (List.range len).map (fun i => q ((start + i) % M))

@[simp] lemma window_length (start len : ℕ) : (window q M start len).length = len := by
  simp [window]

lemma window_get {start len i : ℕ} (hi : i < (window q M start len).length) :
    (window q M start len)[i] = q ((start + i) % M) := by
  simp [window]

lemma window_add (start a b : ℕ) :
    window q M start (a + b) = window q M start a ++ window q M (start + a) b := by
  simp [window, List.range_add, Nat.add_assoc]

lemma window_mod (start len : ℕ) : window q M (start % M) len = window q M start len := by
  simp [window, Nat.add_mod]

lemma window_straight {start len : ℕ} (h : start + len ≤ M) :
    window q M start len = (List.range len).map (fun i => q (start + i)) := by
  apply List.map_congr_left
  intro i hi
  have := List.mem_range.mp hi
  rw [Nat.mod_eq_of_lt (by omega)]

lemma window_wrap {start len : ℕ} (hs : start ≤ M) (h : M ≤ start + len) :
    window q M start len =
      (List.range (M - start)).map (fun i => q (start + i)) ++
        window q M 0 (len - (M - start)) := by
  obtain ⟨r, rfl⟩ := Nat.exists_eq_add_of_le (show M - start ≤ len by omega)
  rw [window_add, window_straight (by omega), Nat.add_sub_of_le hs, Nat.add_sub_cancel_left,
    ← window_mod M, Nat.mod_self]

lemma mod_ne_mod {i j : ℕ} (h : i < j) (hM : j < i + M) : i % M ≠ j % M := by
  intro he
  obtain ⟨d, rfl⟩ := Nat.exists_eq_add_of_lt h
  have hd : (d + 1) % M = 0 := by
    have := (Nat.ModEq.add_left_cancel' i (show i + 0 ≡ i + (d + 1) [MOD M] from he)).symm
    simpa [Nat.ModEq] using this
  rw [Nat.mod_eq_of_lt (by omega)] at hd
  omega

lemma window_update {start len i : ℕ} (hi : i < len) (hM : len ≤ M) (x : α) :
    window (Function.update q ((start + i) % M) x) M start len =
      (window q M start len).set i x := by
  apply List.ext_getElem (by simp)
  intro j hj _
  rw [window_length] at hj
  rw [window_get, List.getElem_set]
  split_ifs with hij
  · rw [hij, Function.update_self]
  · rw [window_get, Function.update_of_ne]
    rcases lt_or_gt_of_ne hij with hlt | hlt
    · exact (mod_ne_mod (by omega) (by omega)).symm
    · exact mod_ne_mod (by omega) (by omega)

/-- The items of `stream` from number `start` on are stored, item `i` in cell `i % M`. -/
def Stores (q : ℕ → α) (M start : ℕ) (stream : List α) : Prop :=
  ∀ i, start ≤ i → (h : i < stream.length) → q (i % M) = stream[i]

lemma Stores.mono {start start' : ℕ} {stream : List α} (h : Stores q M start stream)
    (hs : start ≤ start') : Stores q M start' stream :=
  fun i hi hlen => h i (hs.trans hi) hlen

lemma Stores.take {start : ℕ} {stream stream' : List α} (h : Stores q M start stream)
    (hp : stream' <+: stream) : Stores q M start stream' := by
  intro i hi hlen
  rw [h i hi (hlen.trans_le hp.length_le), hp.getElem hlen]

lemma Stores.window {start len : ℕ} {stream : List α} (h : Stores q M start stream)
    (hlen : start + len ≤ stream.length) :
    window q M start len = (stream.drop start).take len := by
  apply List.ext_getElem (by simp; omega)
  intro i hi hi'
  simp only [window_length] at hi
  rw [window_get, h (start + i) (by omega) (by omega)]
  simp

lemma Stores.update {start j : ℕ} {stream : List α} {x : α} (h : Stores q M start stream)
    (hj : stream.length ≤ j) (hM : j < start + M) :
    Stores (Function.update q (j % M) x) M start stream := by
  intro i hi hlen
  rw [Function.update_of_ne (mod_ne_mod (by omega) (by omega))]
  exact h i hi hlen

lemma Stores.push {start : ℕ} {stream : List α} {x : α} (h : Stores q M start stream)
    (hM : stream.length < start + M) :
    Stores (Function.update q (stream.length % M) x) M start (stream ++ [x]) := by
  intro i hi hlen
  rcases (Nat.lt_succ_iff.mp (by simpa using hlen)).lt_or_eq with hlt | rfl
  · rw [List.getElem_append_left hlt]
    exact h.update le_rfl hM i hi hlt
  · simp

end SmmErrorLogger.Library.Circular
