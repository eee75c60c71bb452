import SmmErrorLogger.Library.Process

/-! A service runs one process after another over a shared world, keeping its private
state, while others act between any two of its calls. -/

namespace SmmErrorLogger.Library.Interaction.Service

open Relation (ReflTransGen)

variable {S : Signature} {W σ ε α ι : Type}

inductive Thread (S : Signature) (σ ε α : Type) : Type
  | idle : σ → Thread S σ ε α
  | busy : Prog S (Except ε α × σ) → Thread S σ ε α

structure State (S : Signature) (W σ ε α : Type) : Type where
  world : W
  thread : Thread S σ ε α
  results : List (Except ε α)

variable (E : Environment S W) (bodies : ι → Proc S σ ε α) (again : Except ε α → Prop)

inductive Step : State S W σ ε α → State S W σ ε α → Prop
  | interfere {w w' t rs} : E.interferes w w' → Step ⟨w, t, rs⟩ ⟨w', t, rs⟩
  | start {w s rs} (i : ι) : (∀ r ∈ rs, again r) →
      Step ⟨w, .idle s, rs⟩ ⟨w, .busy (bodies i s), rs⟩
  | access {w w' op ans k rs} : E.answers w op ans w' →
      Step ⟨w, .busy (.call op k), rs⟩ ⟨w', .busy (k ans), rs⟩
  | finish {w r s rs} : Step ⟨w, .busy (.pure (r, s)), rs⟩ ⟨w, .idle s, rs ++ [r]⟩

abbrev Run := ReflTransGen (Step E bodies again)

/-- What is known of a state of the run: the invariant of the idle states, or that the
rest of the running process will establish it. -/
def Holds (I : W → σ → List (Except ε α) → Prop) : State S W σ ε α → Prop
  | ⟨w, .idle s, rs⟩ => I w s rs
  | ⟨w, .busy p, rs⟩ => p.Ensures E (fun r w' => I w' r.2 (rs ++ [r.1])) w

variable {E bodies again} {I : W → σ → List (Except ε α) → Prop}

lemma step_holds (hstable : ∀ w w' s rs, E.interferes w w' → I w s rs → I w' s rs)
    (hbody : ∀ i w s rs, (∀ r ∈ rs, again r) → I w s rs →
      (bodies i s).Ensures E (fun r w' => I w' r.2 (rs ++ [r.1])) w)
    {a b : State S W σ ε α} (h : Step E bodies again a b) (ha : Holds E I a) : Holds E I b := by
  cases h with
  | @interfere w w' t rs hw =>
    cases t with
    | idle s => exact hstable w w' s rs hw ha
    | busy p => exact Prog.Ensures.later ha (.single hw)
  | start i hr => exact hbody i _ _ _ hr ha
  | access hans => exact (ha _ .refl).2 _ _ hans
  | finish => exact ha _ .refl

theorem run_holds (hstable : ∀ w w' s rs, E.interferes w w' → I w s rs → I w' s rs)
    (hbody : ∀ i w s rs, (∀ r ∈ rs, again r) → I w s rs →
      (bodies i s).Ensures E (fun r w' => I w' r.2 (rs ++ [r.1])) w)
    {a b : State S W σ ε α} (h : Run E bodies again a b) (ha : Holds E I a) : Holds E I b := by
  induction h with
  | refl => exact ha
  | tail _ hs ih => exact step_holds hstable hbody hs ih

lemma step_world {J : W → List (Except ε α) → Prop}
    (hstable : ∀ w w' rs, E.interferes w w' → J w rs → J w' rs)
    (hanswer : ∀ w op ans w' rs, E.permits w op → E.answers w op ans w' → J w rs → J w' rs)
    (hfinish : ∀ w s rs r, I w s (rs ++ [r]) → J w rs → J w (rs ++ [r]))
    {a b : State S W σ ε α} (h : Step E bodies again a b) (hI : Holds E I a)
    (ha : J a.world a.results) : J b.world b.results := by
  cases h with
  | interfere hw => exact hstable _ _ _ hw ha
  | start => exact ha
  | access hans => exact hanswer _ _ _ _ _ (hI _ .refl).1 hans ha
  | finish => exact hfinish _ _ _ _ (hI _ .refl) ha

theorem run_world {J : W → List (Except ε α) → Prop}
    (hstable : ∀ w w' s rs, E.interferes w w' → I w s rs → I w' s rs)
    (hbody : ∀ i w s rs, (∀ r ∈ rs, again r) → I w s rs →
      (bodies i s).Ensures E (fun r w' => I w' r.2 (rs ++ [r.1])) w)
    (hJ : ∀ w w' rs, E.interferes w w' → J w rs → J w' rs)
    (hanswer : ∀ w op ans w' rs, E.permits w op → E.answers w op ans w' → J w rs → J w' rs)
    (hfinish : ∀ w s rs r, I w s (rs ++ [r]) → J w rs → J w (rs ++ [r]))
    {a b : State S W σ ε α} (h : Run E bodies again a b) (ha : Holds E I a)
    (hw : J a.world a.results) : J b.world b.results := by
  induction h with
  | refl => exact hw
  | tail hr hs ih => exact step_world hJ hanswer hfinish hs (run_holds hstable hbody hr ha) ih

lemma run_later {w w' : W} {t : Thread S σ ε α} {rs : List (Except ε α)} (h : E.Later w w') :
    Run E bodies again ⟨w, t, rs⟩ ⟨w', t, rs⟩ :=
  Relation.ReflTransGen.lift (fun w => State.mk w t rs) (fun _ _ hw => Step.interfere hw) _ _ h

section Alone

variable {step : W → (op : S.Op) → S.Ans op × W}
  (hanswers : ∀ w op, E.answers w op (step w op).1 (step w op).2)
include hanswers

lemma run_busy (p : Prog S (Except ε α × σ)) (w : W) (rs : List (Except ε α)) :
    Run E bodies again ⟨w, .busy p, rs⟩ ⟨(p.run step w).2, .busy (.pure (p.run step w).1), rs⟩ := by
  induction p generalizing w with
  | pure r => exact .refl
  | call op k ih => exact .head (.access (hanswers w op)) (ih _ _)

lemma run_next (p : Prog S (Except ε α × σ)) (w : W) (rs : List (Except ε α)) :
    Run E bodies again ⟨w, .busy p, rs⟩ ⟨(p.next step w).2, .busy (p.next step w).1, rs⟩ := by
  cases p with
  | pure r => exact .refl
  | call op k => exact .single (.access (hanswers w op))

lemma run_ends (p : Prog S (Except ε α × σ)) (w : W) (rs : List (Except ε α)) :
    let ended := p.run step w
    Run E bodies again ⟨w, .busy p, rs⟩ ⟨ended.2, .idle ended.1.2, rs ++ [ended.1.1]⟩ :=
  (run_busy hanswers p w rs).tail .finish

lemma run_iteration (i : ι) {w : W} {s : σ} {rs : List (Except ε α)} (hagain : ∀ r ∈ rs, again r) :
    let ended := (bodies i s).run step w
    Run E bodies again ⟨w, .idle s, rs⟩ ⟨ended.2, .idle ended.1.2, rs ++ [ended.1.1]⟩ :=
  .head (.start i hagain) (run_ends hanswers (bodies i s) w rs)

lemma run_once {i : ι} {w w' : W} {s s' : σ} {r : Except ε α} {rs : List (Except ε α)}
    (hagain : ∀ r ∈ rs, again r) (hrun : (bodies i s).run step w = ((r, s'), w')) :
    Run E bodies again ⟨w, .idle s, rs⟩ ⟨w', .idle s', rs ++ [r]⟩ := by
  have hends : Run E bodies again _ _ := run_ends hanswers (bodies i s) w rs
  rw [hrun] at hends
  exact .head (.start i hagain) hends

lemma run_stops {check : W → S.Op → Bool} {p : Prog S (Except ε α × σ)} {w : W}
    {rs : List (Except ε α)} (h : p.passes step check w = false) : ∃ w' op k,
      Run E bodies again ⟨w, .busy p, rs⟩ ⟨w', .busy (.call op k), rs⟩ ∧ check w' op = false := by
  induction p generalizing w with
  | pure r => cases h
  | call op k ih =>
    rcases Bool.and_eq_false_iff.mp h with hcheck | hrest
    · exact ⟨w, op, k, .refl, hcheck⟩
    · obtain ⟨w', op', k', hrun, hcheck⟩ := ih _ hrest
      exact ⟨w', op', k', .head (.access (hanswers w op)) hrun, hcheck⟩

end Alone

end SmmErrorLogger.Library.Interaction.Service
