import SmmErrorLogger.Library.Process

/-! Marks between the calls of a process. Without its marks it is a process over the calls alone. -/

namespace SmmErrorLogger.Library.Interaction

variable {S : Signature} {σ ε α β : Type}

def marked (S : Signature) : Signature where
  Op := Option S.Op
  Ans
    | some op => S.Ans op
    | none => Unit

def markedCalls : Embedding S (marked S) where
  op := some
  ans _ ans := ans

namespace Prog

def unmark : Prog (marked S) α → Prog S α
  | .pure a => .pure a
  | .call (some op) k => .call op fun ans => (k ans).unmark
  | .call none k => (k ()).unmark

lemma unmark_bind (p : Prog (marked S) α) (f : α → Prog (marked S) β) :
    (p.bind f).unmark = p.unmark.bind fun a => (f a).unmark := by
  induction p with
  | pure a => rfl
  | call op k ih =>
    cases op with
    | none => exact ih ()
    | some op => exact congrArg (Prog.call op) (funext fun ans => ih ans)

lemma unmark_lift (p : Prog S α) : (p.lift markedCalls).unmark = p := by
  induction p with
  | pure a => rfl
  | call op k ih => exact congrArg (Prog.call op) (funext fun ans => ih ans)

end Prog

namespace Proc

def mark : Proc (marked S) σ ε Unit := call (S := marked S) none

def unmark (p : Proc (marked S) σ ε α) : Proc S σ ε α := fun s => (p s).unmark

def withoutMarks (p : Proc S σ ε α) : Proc (marked S) σ ε α := p.lift markedCalls id

lemma unmark_mark_bind (f : Unit → Proc (marked S) σ ε α) : (mark >>= f).unmark = (f ()).unmark :=
  rfl

@[simp] lemma unmark_pure (a : α) : (pure a : Proc (marked S) σ ε α).unmark = pure a := rfl

@[simp] lemma unmark_fetch : (fetch : Proc (marked S) σ ε σ).unmark = fetch := rfl

@[simp] lemma unmark_raiseIf (c : Prop) [Decidable c] (e : ε) :
    (raiseIf c e : Proc (marked S) σ ε Unit).unmark = raiseIf c e := by
  by_cases h : c
  · rw [raiseIf, raiseIf, if_pos h, if_pos h]
    rfl
  · rw [raiseIf, raiseIf, if_neg h, if_neg h]
    rfl

@[simp] lemma unmark_bind (p : Proc (marked S) σ ε α) (f : α → Proc (marked S) σ ε β) :
    (p >>= f).unmark = p.unmark >>= fun a => (f a).unmark := by
  funext s
  refine (Prog.unmark_bind (p s) _).trans (congrArg (Prog.bind (p s).unmark) (funext ?_))
  rintro ⟨e | a, s'⟩ <;> rfl

@[simp] lemma unmark_withoutMarks (p : Proc S σ ε α) : p.withoutMarks.unmark = p := by
  have hpure : ∀ q : Prog S (Except ε α × σ), q.bind .pure = q := by
    intro q
    induction q with
    | pure r => rfl
    | call op k ih => exact congrArg (Prog.call op) (funext ih)
  funext s
  refine (Prog.unmark_bind ((p s).lift markedCalls) _).trans ?_
  rw [Prog.unmark_lift]
  refine (congrArg (Prog.bind (p s)) (funext ?_)).trans (hpure (p s))
  rintro ⟨e | a, s'⟩ <;> rfl

@[simp] lemma unmark_ite (c : Prop) [Decidable c] (p q : Proc (marked S) σ ε α) :
    (if c then p else q).unmark = if c then p.unmark else q.unmark :=
  apply_ite unmark c p q

variable {W : Type} {E : Environment (marked S) W} {Q : α → σ → W → Prop} {X : ε → σ → W → Prop}
  {s : σ} {w : W}

lemma ensures_mark_bind {f : Unit → Proc (marked S) σ ε α} :
    (mark >>= f).Ensures E Q X s w ↔ ∀ w', E.Later w w' → E.permits w' none ∧
      ∀ (ans : Unit) w'', E.answers w' none ans w'' → (f ans).Ensures E Q X s w'' := Iff.rfl

lemma ensures_withoutMarks {p : Proc S σ ε α} :
    p.withoutMarks.Ensures E Q X s w ↔ p.Ensures (E.restrict markedCalls) Q X s w :=
  ensures_lift

end Proc

end SmmErrorLogger.Library.Interaction
