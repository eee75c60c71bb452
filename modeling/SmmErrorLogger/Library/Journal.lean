import Mathlib.Data.List.Infix
import SmmErrorLogger.Library.Process

/-! The journal of the calls that were made, with their answers. -/

namespace SmmErrorLogger.Library.Interaction

open Proc

structure Event (S : Signature) where
  op : S.Op
  ans : S.Ans op

variable {S : Signature} {W σ ε α : Type} (step : W → (op : S.Op) → S.Ans op × W)

def journal (w : W × List (Event S)) (op : S.Op) : S.Ans op × W × List (Event S) :=
  ((step w.1 op).1, (step w.1 op).2, w.2 ++ [⟨op, (step w.1 op).1⟩])

lemma Prog.journal_grows (p : Prog S α) (w : W × List (Event S)) :
    w.2 <+: (p.run (journal step) w).2.2 := by
  induction p generalizing w with
  | pure a => exact List.prefix_rfl
  | call op k ih => exact (List.prefix_append _ _).trans (ih _ (journal step w op).2)

lemma Proc.call_journal {op : S.Op} {f : S.Ans op → Proc S σ ε α}
    {Q : α → σ → W × List (Event S) → Prop}
    {X : ε → σ → W × List (Event S) → Prop} {s : σ} {w : W × List (Event S)}
    (h : ∀ ans w', (f ans).Ensures (alone (journal step)) Q X s (w', w.2 ++ [⟨op, ans⟩])) :
    (call op >>= f).Ensures (alone (journal step)) Q X s w :=
  call_alone.mpr (h _ _)

lemma Proc.Ensures.grows {p : Proc S σ ε α} {Q : α → σ → W × List (Event S) → Prop}
    {X : ε → σ → W × List (Event S) → Prop} {s : σ} {w : W × List (Event S)}
    (h : p.Ensures (alone (journal step)) Q X s w) :
    p.Ensures (alone (journal step)) (fun a s' w' => Q a s' w' ∧ w.2 <+: w'.2)
      (fun e s' w' => X e s' w' ∧ w.2 <+: w'.2) s w := by
  have hgrows := Prog.journal_grows step (p s) w
  have hends := (Prog.ensures_alone _).mp h
  apply (Prog.ensures_alone _).mpr
  rcases hresult : ((p s).run (journal step) w).1 with ⟨e | a, s'⟩
  · rw [hresult] at hends
    exact ⟨hends, hgrows⟩
  · rw [hresult] at hends
    exact ⟨hends, hgrows⟩

end SmmErrorLogger.Library.Interaction
