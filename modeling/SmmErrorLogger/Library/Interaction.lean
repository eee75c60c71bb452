import Mathlib.Logic.Relation

/-! Programs that reach the outside only through calls, with a private state and
exceptions, and the rules for reasoning about them while others act between two calls. -/

namespace SmmErrorLogger.Library.Interaction

structure Signature where
  Op : Type
  Ans : Op → Type

inductive Prog (S : Signature) (α : Type) : Type
  | pure : α → Prog S α
  | call : (op : S.Op) → (S.Ans op → Prog S α) → Prog S α

/-- The other side of the calls: what others may do to the world between two calls, which
calls are permitted, and how a call is answered. -/
structure Environment (S : Signature) (W : Type) where
  interferes : W → W → Prop
  permits : W → S.Op → Prop
  answers : W → (op : S.Op) → S.Ans op → W → Prop

variable {S T : Signature} {W α β : Type}

def Environment.Later (E : Environment S W) : W → W → Prop := Relation.ReflTransGen E.interferes

def Environment.Stable (E : Environment S W) (P : W → Prop) : Prop :=
  ∀ w w', E.interferes w w' → P w → P w'

lemma Environment.Stable.later {E : Environment S W} {P : W → Prop} (hP : E.Stable P) {w w' : W}
    (hw : E.Later w w') (h : P w) : P w' := by
  induction hw with
  | refl => exact h
  | tail _ hs ih => exact hP _ _ hs ih

lemma Environment.later_eq {E : Environment S W} (hE : ∀ w w', ¬ E.interferes w w') {w w' : W}
    (hw : E.Later w w') : w' = w := by
  induction hw with
  | refl => rfl
  | tail _ hs _ => exact (hE _ _ hs).elim

namespace Prog

def bind : Prog S α → (α → Prog S β) → Prog S β
  | .pure a, f => f a
  | .call op k, f => .call op (fun ans => (k ans).bind f)

def Ensures (E : Environment S W) : Prog S α → (α → W → Prop) → W → Prop
  | .pure a, Q, w => ∀ w', E.Later w w' → Q a w'
  | .call op k, Q, w => ∀ w', E.Later w w' →
      E.permits w' op ∧ ∀ ans w'', E.answers w' op ans w'' → (k ans).Ensures E Q w''

variable {E : Environment S W} {Q R : α → W → Prop}

lemma Ensures.later {p : Prog S α} {w w' : W} (h : p.Ensures E Q w) (hw : E.Later w w') :
    p.Ensures E Q w' := by
  cases p with
  | pure a => exact fun w'' hw' => h w'' (hw.trans hw')
  | call op k => exact fun w'' hw' => h w'' (hw.trans hw')

lemma Ensures.mono {p : Prog S α} {w : W} (h : p.Ensures E Q w)
    (hQ : ∀ a w, Q a w → R a w) : p.Ensures E R w := by
  induction p generalizing w with
  | pure a => exact fun w' hw => hQ a w' (h w' hw)
  | call op k ih =>
    intro w' hw
    exact ⟨(h w' hw).1, fun ans w'' ha => ih ans ((h w' hw).2 ans w'' ha)⟩

lemma ensures_bind {Q : β → W → Prop} {p : Prog S α} {f : α → Prog S β} {w : W} :
    (p.bind f).Ensures E Q w ↔ p.Ensures E (fun a w' => (f a).Ensures E Q w') w := by
  induction p generalizing w with
  | pure a => exact ⟨fun h w' hw => h.later hw, fun h => h w .refl⟩
  | call op k ih =>
    constructor
    · intro h w' hw
      exact ⟨(h w' hw).1, fun ans w'' ha => (ih ans).mp ((h w' hw).2 ans w'' ha)⟩
    · intro h w' hw
      exact ⟨(h w' hw).1, fun ans w'' ha => (ih ans).mpr ((h w' hw).2 ans w'' ha)⟩

lemma Ensures.refines {E' : Environment S W} (hi : ∀ w w', E'.interferes w w' → E.interferes w w')
    (hp : ∀ w op, E.permits w op → E'.permits w op)
    (ha : ∀ w op ans w', E'.answers w op ans w' → E.answers w op ans w') {p : Prog S α} {w : W}
    (h : p.Ensures E Q w) : p.Ensures E' Q w := by
  have hlater : ∀ {w w'}, E'.Later w w' → E.Later w w' :=
    fun hw => Relation.ReflTransGen.mono hi _ _ hw
  induction p generalizing w with
  | pure a => exact fun w' hw => h w' (hlater hw)
  | call op k ih =>
    intro w' hw
    obtain ⟨hpermits, hanswers⟩ := h w' (hlater hw)
    exact ⟨hp _ _ hpermits, fun ans w'' hans => ih ans (hanswers ans w'' (ha _ _ _ _ hans))⟩

lemma Ensures.settled {p : Prog S α} {w : W} (h : p.Ensures E Q w) :
    p.Ensures E (fun a w' => ∀ w'', E.Later w' w'' → Q a w'') w := by
  induction p generalizing w with
  | pure a => exact fun w' hw w'' hw' => h w'' (hw.trans hw')
  | call op k ih =>
    intro w' hw
    exact ⟨(h w' hw).1, fun ans w'' ha => ih ans ((h w' hw).2 ans w'' ha)⟩

lemma Ensures.and {p : Prog S α} {w : W} (h : p.Ensures E Q w) (h' : p.Ensures E R w) :
    p.Ensures E (fun a w => Q a w ∧ R a w) w := by
  induction p generalizing w with
  | pure a => exact fun w' hw => ⟨h w' hw, h' w' hw⟩
  | call op k ih =>
    intro w' hw
    exact ⟨(h w' hw).1, fun ans w'' ha =>
      ih ans ((h w' hw).2 ans w'' ha) ((h' w' hw).2 ans w'' ha)⟩

lemma ensures_of_invariant {J : W → Prop} (hJ : E.Stable J) (hcall : ∀ w op, J w →
    E.permits w op ∧ ∀ ans w', E.answers w op ans w' → J w') (p : Prog S α) {w : W} (hw : J w) :
    p.Ensures E (fun _ => J) w := by
  induction p generalizing w with
  | pure a => exact fun w' hlater => hJ.later hlater hw
  | call op k ih =>
    intro w' hlater
    obtain ⟨hpermits, hanswers⟩ := hcall w' op (hJ.later hlater hw)
    exact ⟨hpermits, fun ans w'' ha => ih ans (hanswers ans w'' ha)⟩

end Prog

def Environment.permitting (E : Environment S W) (permits : W → S.Op → Prop) : Environment S W :=
  { E with permits }

lemma Prog.Ensures.both {E : Environment S W} {P P' : W → S.Op → Prop} {Q R : α → W → Prop}
    (hpermits : ∀ w op, P w op → P' w op → E.permits w op) {p : Prog S α} {w : W}
    (h : p.Ensures (E.permitting P) Q w) (h' : p.Ensures (E.permitting P') R w) :
    p.Ensures E (fun a w => Q a w ∧ R a w) w := by
  have hlater : ∀ {P w w'}, E.Later w w' → (E.permitting P).Later w w' :=
    fun hw => Relation.ReflTransGen.mono (fun _ _ hi => hi) _ _ hw
  induction p generalizing w with
  | pure a => exact fun w' hw => ⟨h w' (hlater hw), h' w' (hlater hw)⟩
  | call op k ih =>
    intro w' hw
    obtain ⟨hp, hanswers⟩ := h w' (hlater hw)
    obtain ⟨hp', hanswers'⟩ := h' w' (hlater hw)
    exact ⟨hpermits w' op hp hp',
      fun ans w'' ha => ih ans (hanswers ans w'' ha) (hanswers' ans w'' ha)⟩

/-- What `view` shows of a world of `E` is a world of `E'`. -/
structure Environment.View {V : Type} (E : Environment S W) (E' : Environment S V) (view : W → V) :
    Prop where
  interferes : ∀ {w w'}, E.interferes w w' → E'.interferes (view w) (view w')
  permits : ∀ {w op}, E'.permits (view w) op → E.permits w op
  answers : ∀ {w op ans w'}, E.answers w op ans w' → E'.answers (view w) op ans (view w')

lemma Environment.View.ensures {V : Type} {E : Environment S W} {E' : Environment S V}
    {view : W → V}
    (hview : E.View E' view) {Q : α → V → Prop} {p : Prog S α} {w : W}
    (h : p.Ensures E' Q (view w)) :
    p.Ensures E (fun a w' => Q a (view w')) w := by
  have hlater : ∀ {w w'}, E.Later w w' → E'.Later (view w) (view w') :=
    fun hw => Relation.ReflTransGen.lift view (fun _ _ hi => hview.interferes hi) _ _ hw
  induction p generalizing w with
  | pure a => exact fun w' hw => h _ (hlater hw)
  | call op k ih =>
    intro w' hw
    obtain ⟨hpermits, hanswers⟩ := h _ (hlater hw)
    exact ⟨hview.permits hpermits, fun ans w'' ha => ih ans (hanswers ans _ (hview.answers ha))⟩

def anyone (permits : S.Op → Prop) : Environment S Unit where
  interferes _ _ := True
  permits _ := permits
  answers _ _ _ _ := True

lemma Prog.Ensures.ofAnyone {E : Environment S W} {permits : S.Op → Prop}
    (hpermits : ∀ w op, permits op → E.permits w op)
    {p : Prog S α} {w : W} (h : p.Ensures (anyone permits) (fun _ _ => True) ()) :
    p.Ensures E (fun _ _ => True) w := by
  have hview : E.View (anyone permits) (fun _ => ()) :=
    ⟨fun _ => trivial, hpermits _ _, fun _ => trivial⟩
  exact hview.ensures h

structure Embedding (S T : Signature) where
  op : S.Op → T.Op
  ans : ∀ o, T.Ans (op o) → S.Ans o

def Environment.restrict (E : Environment T W) (e : Embedding S T) : Environment S W where
  interferes := E.interferes
  permits w op := E.permits w (e.op op)
  answers w op ans w' := ∃ b, E.answers w (e.op op) b w' ∧ e.ans op b = ans

def Prog.lift (e : Embedding S T) : Prog S α → Prog T α
  | .pure a => .pure a
  | .call op k => .call (e.op op) (fun b => (k (e.ans op b)).lift e)

lemma Prog.ensures_lift {E : Environment T W} {e : Embedding S T} {Q : α → W → Prop}
    {p : Prog S α} {w : W} : (p.lift e).Ensures E Q w ↔ p.Ensures (E.restrict e) Q w := by
  induction p generalizing w with
  | pure a => rfl
  | call op k ih =>
    constructor
    · intro h w' hw
      refine ⟨(h w' hw).1, ?_⟩
      rintro ans w'' ⟨b, hb, rfl⟩
      exact (ih _).mp ((h w' hw).2 b w'' hb)
    · intro h w' hw
      exact ⟨(h w' hw).1, fun b w'' hb => (ih _).mpr ((h w' hw).2 _ w'' ⟨b, hb, rfl⟩)⟩

section Alone

variable (step : W → (op : S.Op) → S.Ans op × W)

def alone : Environment S W where
  interferes _ _ := False
  permits _ _ := True
  answers w op ans w' := step w op = (ans, w')

def Prog.run : Prog S α → W → α × W
  | .pure a, w => (a, w)
  | .call op k, w => (k (step w op).1).run (step w op).2

def Prog.next : Prog S α → W → Prog S α × W
  | .pure a, w => (.pure a, w)
  | .call op k, w => (k (step w op).1, (step w op).2)

lemma Prog.run_invariant {I : W → Prop} (hstep : ∀ w op, I w → I (step w op).2)
    {p : Prog S α} {w : W}
    (hw : I w) : I (p.run step w).2 := by
  induction p generalizing w with
  | pure a => exact hw
  | call op k ih => exact ih _ (hstep w op hw)

def Prog.passes (check : W → S.Op → Bool) : Prog S α → W → Bool
  | .pure _, _ => true
  | .call op k, w => check w op && (k (step w op).1).passes check (step w op).2

lemma Prog.Ensures.run {E : Environment S W} {step : W → (op : S.Op) → S.Ans op × W}
    (hanswers : ∀ w op, E.answers w op (step w op).1 (step w op).2) {Q : α → W → Prop}
    {p : Prog S α} {w : W}
    (h : p.Ensures E Q w) : Q (p.run step w).1 (p.run step w).2 := by
  induction p generalizing w with
  | pure a => exact h w .refl
  | call op k ih => exact ih _ ((h w .refl).2 _ _ (hanswers w op))

lemma alone_stable (P : W → Prop) : (alone step).Stable P := fun _ _ hs => hs.elim

lemma alone_later {w w' : W} : (alone step).Later w w' ↔ w' = w := by
  constructor
  · intro h
    induction h with
    | refl => rfl
    | tail _ hs _ => exact hs.elim
  · rintro rfl
    exact .refl

lemma Prog.ensures_alone {Q : α → W → Prop} {p : Prog S α} {w : W} :
    p.Ensures (alone step) Q w ↔ Q (p.run step w).1 (p.run step w).2 := by
  induction p generalizing w with
  | pure a => simp [Ensures, run, alone_later]
  | call op k ih =>
    simp only [Ensures, run, alone_later]
    constructor
    · intro h
      exact (ih _).mp ((h w rfl).2 _ _ rfl)
    · rintro h _ rfl
      refine ⟨trivial, fun ans w'' ha => (ih ans).mpr ?_⟩
      obtain rfl : (step _ op).1 = ans := congrArg Prod.fst ha
      obtain rfl : (step _ op).2 = w'' := congrArg Prod.snd ha
      exact h

end Alone

section Fixed

variable (answer : (op : S.Op) → S.Ans op)

def fixed (permits : S.Op → Prop) : Environment S Unit where
  interferes _ _ := False
  permits _ op := permits op
  answers _ op ans _ := ans = answer op

def Prog.eval : Prog S α → α
  | .pure a => a
  | .call op k => (k (answer op)).eval

lemma Prog.eval_bind {p : Prog S α} {f : α → Prog S β} :
    (p.bind f).eval answer = (f (p.eval answer)).eval answer := by
  induction p with
  | pure a => rfl
  | call op k ih => exact ih _

end Fixed

end SmmErrorLogger.Library.Interaction
