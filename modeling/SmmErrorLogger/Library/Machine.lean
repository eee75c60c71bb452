import Mathlib.Data.List.Basic
import Mathlib.Data.List.Induction

/-! Machines that answer every input and go on to a next state. -/

namespace SmmErrorLogger.Library.Machine

variable {σ σ' ι ω : Type}

def run (step : σ → ι → ω × σ) : σ → List ι → List ω × σ
  | s, [] => ([], s)
  | s, i :: is =>
    let (o, s) := step s i
    let (os, s) := run step s is
    (o :: os, s)

def Along (step : σ → ι → ω × σ) (P : σ → ι → Prop) : σ → List ι → Prop
  | _, [] => True
  | s, i :: is => P s i ∧ Along step P (step s i).2 is

section Invariant

variable {step : σ → ι → ω × σ} {P : σ → ι → Prop} {I : σ → Prop} {s : σ} {i : ι} {is : List ι}

@[simp] lemma run_nil : run step s [] = ([], s) := rfl

@[simp] lemma run_cons : run step s (i :: is) =
    ((step s i).1 :: (run step (step s i).2 is).1, (run step (step s i).2 is).2) := rfl

theorem run_invariant (hstep : ∀ s i, P s i → I s → I (step s i).2) (hP : Along step P s is)
    (hs : I s) :
    I (run step s is).2 := by
  induction is generalizing s with
  | nil => exact hs
  | cons i is ih => exact ih hP.2 (hstep s i hP.1 hs)

theorem run_answers {A : ω → Prop} (hstep : ∀ s i, P s i → I s → A (step s i).1 ∧ I (step s i).2)
    (hP : Along step P s is) (hs : I s) : ∀ o ∈ (run step s is).1, A o := by
  induction is generalizing s with
  | nil => simp
  | cons i is ih =>
    obtain ⟨hanswer, hnext⟩ := hstep s i hP.1 hs
    rw [run_cons]
    exact List.forall_mem_cons.mpr ⟨hanswer, ih hP.2 hnext⟩

lemma run_snoc : run step s (is ++ [i]) =
    ((run step s is).1 ++ [(step (run step s is).2 i).1], (step (run step s is).2 i).2) := by
  induction is generalizing s with
  | nil => rfl
  | cons j is ih => rw [List.cons_append, run_cons, ih, run_cons, List.cons_append]

lemma run_append {js : List ι} : run step s (is ++ js) =
    ((run step s is).1 ++ (run step (run step s is).2 js).1,
      (run step (run step s is).2 js).2) := by
  induction is generalizing s with
  | nil => rfl
  | cons i is ih => rw [List.cons_append, run_cons, ih, run_cons, List.cons_append]

lemma along_snoc : Along step P s (is ++ [i]) ↔ Along step P s is ∧ P (run step s is).2 i := by
  induction is generalizing s with
  | nil => exact and_comm
  | cons j is ih =>
    rw [List.cons_append, Along, ih, Along, run_cons, and_assoc]

theorem run_history {I : List ι → List ω → σ → Prop} (hnil : I [] [] s)
    (hstep : ∀ is i, let r := run step s is
      P r.2 i → I is r.1 r.2 → I (is ++ [i]) (r.1 ++ [(step r.2 i).1]) (step r.2 i).2)
    (hP : Along step P s is) : I is (run step s is).1 (run step s is).2 := by
  induction is using List.reverseRecOn with
  | nil => exact hnil
  | append_singleton is i ih =>
    obtain ⟨his, hi⟩ := along_snoc.mp hP
    rw [run_snoc]
    exact hstep is i hi (ih his)

lemma Along.and {P' : σ → ι → Prop} (h : Along step P s is) (h' : Along step P' s is) :
    Along step (fun s i => P s i ∧ P' s i) s is := by
  induction is generalizing s with
  | nil => trivial
  | cons i is ih => exact ⟨⟨h.1, h'.1⟩, ih h.2 h'.2⟩

end Invariant

/-- As long as the steps satisfy `P`, related states give the same answers and stay related. -/
structure Bisimulation (step : σ → ι → ω × σ) (step' : σ' → ι → ω × σ') (P : σ → ι → Prop)
    (R : σ → σ' → Prop) : Prop where
  answer : ∀ {s s' i}, P s i → R s s' → (step s i).1 = (step' s' i).1
  next : ∀ {s s' i}, P s i → R s s' → R (step s i).2 (step' s' i).2

variable {step : σ → ι → ω × σ} {step' : σ' → ι → ω × σ'} {P : σ → ι → Prop}
  {R : σ → σ' → Prop} {s : σ} {s' : σ'} {is : List ι}

lemma along_of_forall (h : ∀ s i, P s i) : Along step P s is := by
  induction is generalizing s with
  | nil => trivial
  | cons i is ih => exact ⟨h s i, ih⟩

theorem Bisimulation.run (h : Bisimulation step step' P R) (hP : Along step P s is) (hs : R s s') :
    (run step s is).1 = (run step' s' is).1 ∧ R (run step s is).2 (run step' s' is).2 := by
  induction is generalizing s s' with
  | nil => exact ⟨rfl, hs⟩
  | cons i is ih =>
    obtain ⟨hanswers, hfinal⟩ := ih hP.2 (h.next hP.1 hs)
    exact ⟨List.cons_eq_cons.mpr ⟨h.answer hP.1 hs, hanswers⟩, hfinal⟩

theorem run_encoded {ι' μ : Type} {step : σ → ι → ω × σ} {step' : σ' → ι' → List ω × σ'}
    {view : σ → σ'} {project : ι → μ} {encode : ι' → List μ} {P : ι → Prop}
    (hstep : ∀ s x is, (∀ i ∈ is, P i) → is.map project = encode x →
      (run step s is).1 = (step' (view s) x).1 ∧ view (run step s is).2 = (step' (view s) x).2)
    {s : σ} {xs : List ι'} {is : List ι} (hP : ∀ i ∈ is, P i)
    (his : is.map project = xs.flatMap encode) :
    (run step s is).1 = (run step' (view s) xs).1.flatten ∧
      view (run step s is).2 = (run step' (view s) xs).2 := by
  induction xs generalizing s is with
  | nil =>
    obtain rfl : is = [] := List.map_eq_nil_iff.mp his
    exact ⟨rfl, rfl⟩
  | cons x xs ih =>
    rw [List.flatMap_cons] at his
    obtain ⟨first, rest, rfl, hfirst, hrest⟩ := List.map_eq_append_iff.mp his
    obtain ⟨hanswers, hview⟩ :=
      hstep s x first (fun i hi => hP i (List.mem_append_left rest hi)) hfirst
    obtain ⟨hlater, hfinal⟩ :=
      ih (s := (run step s first).2) (fun i hi => hP i (List.mem_append_right first hi)) hrest
    rw [run_append, run_cons, List.flatten_cons, ← hview, ← hanswers]
    exact ⟨congrArg _ hlater, hfinal⟩

end SmmErrorLogger.Library.Machine
