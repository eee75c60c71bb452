import SmmErrorLogger.Library.Interaction

/-! Processes: programs with a private state that survives an exception. -/

namespace SmmErrorLogger.Library.Interaction

variable {S T : Signature} {W σ ε ε' α β : Type}

def Proc (S : Signature) (σ ε α : Type) : Type := σ → Prog S (Except ε α × σ)

namespace Proc

def bind (p : Proc S σ ε α) (f : α → Proc S σ ε β) : Proc S σ ε β := fun s =>
  (p s).bind fun
    | (.ok a, s') => f a s'
    | (.error e, s') => .pure (.error e, s')

instance : Monad (Proc S σ ε) where
  pure a := fun s => .pure (.ok a, s)
  bind := bind

def fetch : Proc S σ ε σ := fun s => .pure (.ok s, s)

def put (s : σ) : Proc S σ ε Unit := fun _ => .pure (.ok (), s)

def raise (e : ε) : Proc S σ ε α := fun s => .pure (.error e, s)

def raiseIf (c : Prop) [Decidable c] (e : ε) : Proc S σ ε Unit := if c then raise e else pure ()

def call (op : S.Op) : Proc S σ ε (S.Ans op) := fun s => .call op (fun ans => .pure (.ok ans, s))

def tryCatch (p : Proc S σ ε α) (recover : ε → Proc S σ ε' α) : Proc S σ ε' α := fun s =>
  (p s).bind fun
    | (.ok a, s') => .pure (.ok a, s')
    | (.error e, s') => recover e s'

def lift (e : Embedding S T) (wrap : ε → ε') (p : Proc S σ ε α) : Proc T σ ε' α := fun s =>
  ((p s).lift e).bind fun
    | (.ok a, s') => .pure (.ok a, s')
    | (.error x, s') => .pure (.error (wrap x), s')

def Ends (Q : α → σ → W → Prop) (X : ε → σ → W → Prop) : Except ε α × σ → W → Prop
  | (.ok a, s), w => Q a s w
  | (.error e, s), w => X e s w

def Ensures (E : Environment S W) (p : Proc S σ ε α) (Q : α → σ → W → Prop)
    (X : ε → σ → W → Prop) (s : σ) (w : W) : Prop :=
  (p s).Ensures E (Ends Q X) w

variable {E : Environment S W} {Q R : α → σ → W → Prop} {X Y : ε → σ → W → Prop} {s : σ} {w : W}

lemma ends_same {P : σ → W → Prop} {r : Except ε α × σ} :
    Ends (fun _ s w => P s w) (fun _ s w => P s w) r w ↔ P r.2 w := by
  rcases r with ⟨_ | _, _⟩ <;> rfl

lemma Ensures.later {p : Proc S σ ε α} {w' : W} (h : p.Ensures E Q X s w) (hw : E.Later w w') :
    p.Ensures E Q X s w' :=
  Prog.Ensures.later h hw

lemma Ensures.mono {p : Proc S σ ε α} (h : p.Ensures E Q X s w)
    (hQ : ∀ a s w, Q a s w → R a s w) (hX : ∀ e s w, X e s w → Y e s w) :
    p.Ensures E R Y s w := by
  apply Prog.Ensures.mono h
  rintro ⟨_ | a, s⟩ w hr
  · exact hX _ _ _ hr
  · exact hQ _ _ _ hr

lemma Ensures.refines {E' : Environment S W} {p : Proc S σ ε α} (h : p.Ensures E Q X s w)
    (hi : ∀ w w', E'.interferes w w' → E.interferes w w')
    (hp : ∀ w op, E.permits w op → E'.permits w op)
    (ha : ∀ w op ans w', E'.answers w op ans w' → E.answers w op ans w') : p.Ensures E' Q X s w :=
  Prog.Ensures.refines hi hp ha h

lemma ensures_bind {p : Proc S σ ε α} {f : α → Proc S σ ε β} {Q : β → σ → W → Prop} :
    (p >>= f).Ensures E Q X s w ↔
      p.Ensures E (fun a s' w' => (f a).Ensures E Q X s' w') X s w := by
  change ((p s).bind _).Ensures E _ w ↔ _
  rw [Prog.ensures_bind]
  constructor
  · intro h
    apply Prog.Ensures.mono h
    rintro ⟨_ | a, s'⟩ w' hr
    · exact hr w' .refl
    · exact hr
  · intro h
    apply (Prog.Ensures.settled h).mono
    rintro ⟨_ | a, s'⟩ w' hr
    · exact hr
    · exact hr w' .refl

lemma ensures_tryCatch {p : Proc S σ ε α} {recover : ε → Proc S σ ε' α} {Y : ε' → σ → W → Prop} :
    (p.tryCatch recover).Ensures E Q Y s w ↔
      p.Ensures E Q (fun e s' w' => (recover e).Ensures E Q Y s' w') s w := by
  change ((p s).bind _).Ensures E _ w ↔ _
  rw [Prog.ensures_bind]
  constructor
  · intro h
    apply Prog.Ensures.mono h
    rintro ⟨_ | a, s'⟩ w' hr
    · exact hr
    · exact hr w' .refl
  · intro h
    apply (Prog.Ensures.settled h).mono
    rintro ⟨_ | a, s'⟩ w' hr
    · exact hr w' .refl
    · exact hr

lemma ensures_lift {E : Environment T W} {e : Embedding S T} {wrap : ε → ε'}
    {Y : ε' → σ → W → Prop} {p : Proc S σ ε α} :
    (p.lift e wrap).Ensures E Q Y s w ↔
      p.Ensures (E.restrict e) Q (fun x s' w' => Y (wrap x) s' w') s w := by
  change (((p s).lift e).bind _).Ensures E _ w ↔ _
  rw [Prog.ensures_bind, Prog.ensures_lift]
  constructor
  · intro h
    apply Prog.Ensures.mono h
    rintro ⟨_ | a, s'⟩ w' hr <;> exact hr w' .refl
  · intro h
    apply (Prog.Ensures.settled h).mono
    rintro ⟨_ | a, s'⟩ w' hr <;> exact hr

lemma ensures_fetch_bind {f : σ → Proc S σ ε α} :
    (fetch >>= f).Ensures E Q X s w ↔ (f s).Ensures E Q X s w := Iff.rfl

lemma ensures_put_bind {t : σ} {f : Unit → Proc S σ ε α} :
    (put t >>= f).Ensures E Q X s w ↔ (f ()).Ensures E Q X t w := Iff.rfl

lemma ensures_put {t : σ} {Q : Unit → σ → W → Prop} :
    (put t : Proc S σ ε Unit).Ensures E Q X s w ↔ ∀ w', E.Later w w' → Q () t w' := Iff.rfl

lemma ensures_pure_bind {a : α} {f : α → Proc S σ ε β} {Q : β → σ → W → Prop} :
    (pure a >>= f).Ensures E Q X s w ↔ (f a).Ensures E Q X s w := Iff.rfl

lemma ensures_raise_bind {e : ε} {f : α → Proc S σ ε β} {Q : β → σ → W → Prop} :
    (raise e >>= f).Ensures E Q X s w ↔ ∀ w', E.Later w w' → X e s w' := Iff.rfl

lemma ensures_raiseIf_bind {c : Prop} [Decidable c] {e : ε} {f : Unit → Proc S σ ε α} :
    (raiseIf c e >>= f).Ensures E Q X s w ↔
      (c → ∀ w', E.Later w w' → X e s w') ∧ (¬ c → (f ()).Ensures E Q X s w) := by
  by_cases h : c
  · rw [raiseIf, if_pos h, ensures_raise_bind]
    exact ⟨fun hX => ⟨fun _ => hX, fun hn => absurd h hn⟩, fun hX => hX.1 h⟩
  · rw [raiseIf, if_neg h, ensures_pure_bind]
    exact ⟨fun hf => ⟨fun hc => absurd hc h, fun _ => hf⟩, fun hf => hf.2 h⟩

lemma ensures_call_bind {op : S.Op} {f : S.Ans op → Proc S σ ε α} :
    (call op >>= f).Ensures E Q X s w ↔ ∀ w', E.Later w w' →
      E.permits w' op ∧ ∀ ans w'', E.answers w' op ans w'' → (f ans).Ensures E Q X s w'' := Iff.rfl

section Keeps

variable {I : σ → W → Prop}

def Keeps (E : Environment S W) (I : σ → W → Prop) (p : Proc S σ ε α) : Prop :=
  ∀ s w, I s w → p.Ensures E (fun _ => I) (fun _ => I) s w

lemma keeps_pure (hI : ∀ s, E.Stable (I s)) (a : α) : Keeps E I (pure a : Proc S σ ε α) :=
  fun s _ h _ hw => (hI s).later hw h

lemma keeps_raise (hI : ∀ s, E.Stable (I s)) (e : ε) : Keeps E I (raise e : Proc S σ ε α) :=
  fun s _ h _ hw => (hI s).later hw h

lemma Keeps.bind {p : Proc S σ ε α} {f : α → Proc S σ ε β} (hp : Keeps E I p)
    (hf : ∀ a, Keeps E I (f a)) :
    Keeps E I (p >>= f) :=
  fun s w h => ensures_bind.mpr
    ((hp s w h).mono (fun a s' w' h' => hf a s' w' h') (fun _ _ _ h' => h'))

lemma keeps_fetch_bind {f : σ → Proc S σ ε α} (hf : ∀ s, Keeps E I (f s)) :
    Keeps E I (fetch >>= f) :=
  fun s w h => hf s s w h

lemma Keeps.ite {c : Prop} [Decidable c] {p q : Proc S σ ε α} (hp : Keeps E I p)
    (hq : Keeps E I q) :
    Keeps E I (if c then p else q) := by
  by_cases h : c
  · rwa [if_pos h]
  · rwa [if_neg h]

lemma keeps_raiseIf (hI : ∀ s, E.Stable (I s)) (c : Prop) [Decidable c] (e : ε) :
    Keeps E I (raiseIf c e : Proc S σ ε Unit) := by
  by_cases h : c
  · rw [raiseIf, if_pos h]
    exact keeps_raise hI e
  · rw [raiseIf, if_neg h]
    exact keeps_pure hI ()

lemma keeps_call (hI : ∀ s, E.Stable (I s)) {op : S.Op} (hop : ∀ s w, I s w →
    E.permits w op ∧ ∀ ans w', E.answers w op ans w' → I s w') :
      Keeps E I (call op : Proc S σ ε (S.Ans op)) := by
  intro s w h w' hw
  obtain ⟨hpermits, hanswers⟩ := hop s w' ((hI s).later hw h)
  exact ⟨hpermits, fun ans w'' ha _ hw' => (hI s).later hw' (hanswers ans w'' ha)⟩

def KeepsOr (E : Environment S W) (I X : σ → W → Prop) (p : Proc S σ ε α) : Prop :=
  ∀ s w, I s w → p.Ensures E (fun _ => I) (fun _ => X) s w

variable {X : σ → W → Prop}

lemma Keeps.or {p : Proc S σ ε α} (hp : Keeps E I p) (hX : ∀ s w, I s w → X s w) :
    KeepsOr E I X p :=
  fun s w h => (hp s w h).mono (fun _ _ _ h' => h') (fun _ s' w' h' => hX s' w' h')

lemma KeepsOr.bind {p : Proc S σ ε α} {f : α → Proc S σ ε β} (hp : KeepsOr E I X p)
    (hf : ∀ a, KeepsOr E I X (f a)) :
    KeepsOr E I X (p >>= f) :=
  fun s w h => ensures_bind.mpr
    ((hp s w h).mono (fun a s' w' h' => hf a s' w' h') (fun _ _ _ h' => h'))

end Keeps

section Only

variable {P : S.Op → Prop}

abbrev Only (P : S.Op → Prop) (p : Proc S σ ε α) : Prop := Keeps (anyone P) (fun _ _ => True) p

lemma only_pure (a : α) : Only P (pure a : Proc S σ ε α) := keeps_pure (fun _ _ _ _ _ => trivial) a

lemma only_raise (e : ε) : Only P (raise e : Proc S σ ε α) :=
  keeps_raise (fun _ _ _ _ _ => trivial) e

lemma only_raiseIf (c : Prop) [Decidable c] (e : ε) : Only P (raiseIf c e : Proc S σ ε Unit) :=
  keeps_raiseIf (fun _ _ _ _ _ => trivial) c e

lemma only_call (op : S.Op) (hop : P op) : Only P (call op : Proc S σ ε (S.Ans op)) :=
  keeps_call (fun _ _ _ _ _ => trivial) fun _ _ _ => ⟨hop, fun _ _ _ => trivial⟩

lemma Only.tryCatch {p : Proc S σ ε α} {recover : ε → Proc S σ ε' α} (hp : Only P p)
    (hrecover : ∀ e, Only P (recover e)) : Only P (p.tryCatch recover) :=
  fun s w h => ensures_tryCatch.mpr
    ((hp s w h).mono (fun _ _ _ h' => h') (fun e s' w' h' => hrecover e s' w' h'))

lemma only_lift {P : T.Op → Prop} {e : Embedding S T} (hop : ∀ op, P (e.op op)) (wrap : ε → ε')
    (p : Proc S σ ε α) :
    Only P (p.lift e wrap) := by
  intro s w _
  have hkept : (p s).Ensures ((anyone P).restrict e) (fun _ _ => True) w :=
    Prog.ensures_of_invariant (fun _ _ _ _ => trivial)
      (fun _ op _ => ⟨hop op, fun _ _ _ => trivial⟩) (p s) trivial
  exact ensures_lift.mpr (Prog.Ensures.mono hkept fun _ _ _ => ends_same.mpr trivial)

lemma Only.permitted {E : Environment S W} {p : Proc S σ ε α} (hp : Only P p)
    (hpermits : ∀ w op, P op → E.permits w op)
    (s : σ) (w : W) : (p s).Ensures E (fun _ _ => True) w :=
  Prog.Ensures.ofAnyone hpermits (Prog.Ensures.mono (hp s () trivial) fun _ _ _ => trivial)

end Only

section Alone

variable {step : W → (op : S.Op) → S.Ans op × W}

lemma alone_pure {a : α} : (pure a : Proc S σ ε α).Ensures (alone step) Q X s w ↔ Q a s w :=
  ⟨fun h => h w .refl, fun h _ hw => (alone_later step).mp hw ▸ h⟩

lemma alone_raise {e : ε} : (raise e : Proc S σ ε α).Ensures (alone step) Q X s w ↔ X e s w :=
  ⟨fun h => h w .refl, fun h _ hw => (alone_later step).mp hw ▸ h⟩

lemma alone_put {t : σ} {Q : Unit → σ → W → Prop} :
    (put t : Proc S σ ε Unit).Ensures (alone step) Q X s w ↔ Q () t w :=
  ⟨fun h => h w .refl, fun h _ hw => (alone_later step).mp hw ▸ h⟩

lemma call_alone {op : S.Op} {f : S.Ans op → Proc S σ ε α} :
    (call op >>= f).Ensures (alone step) Q X s w ↔
      (f (step w op).1).Ensures (alone step) Q X s (step w op).2 := by
  rw [ensures_call_bind]
  constructor
  · intro h
    exact (h w .refl).2 _ _ rfl
  · intro h w' hw
    obtain rfl := (alone_later _).mp hw
    refine ⟨trivial, fun ans w'' ha => ?_⟩
    obtain ⟨rfl, rfl⟩ := Prod.mk.inj (show ((step w' op).1, (step w' op).2) = (ans, w'') from ha)
    exact h

lemma Ensures.ends {p : Proc S σ ε α} {r : Except ε α × σ} {w' : W}
    (h : p.Ensures (alone step) Q X s w)
    (hrun : (p s).run step w = (r, w')) : Ends Q X r w' := by
  have hends := (Prog.ensures_alone step).mp h
  rwa [hrun] at hends

lemma Ensures.keeps_run {p : Proc S σ ε α} {I : σ → W → Prop}
    (hanswers : ∀ w op, E.answers w op (step w op).1 (step w op).2)
    (h : p.Ensures E (fun _ => I) (fun _ => I) s w) :
    I ((p s).run step w).1.2 ((p s).run step w).2 :=
  ends_same.mp (Prog.Ensures.run hanswers h)

lemma ensures_of_run {p : Proc S σ ε α} {r : Except ε α × σ} {w' : W}
    (hrun : (p s).run step w = (r, w'))
    (hends : Ends Q X r w') : p.Ensures (alone step) Q X s w := by
  apply (Prog.ensures_alone step).mpr
  rwa [hrun]

lemma Ensures.exists_run {p : Proc S σ ε α}
    (h : p.Ensures (alone step) Q (fun _ _ _ => False) s w) :
    ∃ a s' w', (p s).run step w = ((.ok a, s'), w') ∧ Q a s' w' := by
  rcases hrun : (p s).run step w with ⟨⟨e | a, s'⟩, w'⟩
  · exact (Ensures.ends h hrun).elim
  · exact ⟨a, s', w', rfl, Ensures.ends h hrun⟩

end Alone

section Fixed

variable {answer : (op : S.Op) → S.Ans op} {permits : S.Op → Prop} {Q : α → σ → Unit → Prop}
  {X : ε → σ → Unit → Prop}

lemma fixed_pure {a : α} :
    (pure a : Proc S σ ε α).Ensures (fixed answer permits) Q X s () ↔ Q a s () :=
  ⟨fun h => h () .refl, fun h _ _ => h⟩

lemma fixed_raise {e : ε} :
    (raise e : Proc S σ ε α).Ensures (fixed answer permits) Q X s () ↔ X e s () :=
  ⟨fun h => h () .refl, fun h _ _ => h⟩

lemma fixed_call_bind {op : S.Op} {f : S.Ans op → Proc S σ ε α} :
    (call op >>= f).Ensures (fixed answer permits) Q X s () ↔
      permits op ∧ (f (answer op)).Ensures (fixed answer permits) Q X s () := by
  constructor
  · intro h
    obtain ⟨hp, hf⟩ := h () .refl
    exact ⟨hp, hf _ () rfl⟩
  · rintro ⟨hp, hf⟩ _ _
    refine ⟨hp, ?_⟩
    rintro _ _ rfl
    exact hf

variable (answer)

def eval (p : Proc S σ ε α) (s : σ) : Except ε α × σ := (p s).eval answer

variable {answer}

lemma eval_bind {p : Proc S σ ε α} {f : α → Proc S σ ε β} : (p >>= f).eval answer s =
    match p.eval answer s with
    | (.ok a, s') => (f a).eval answer s'
    | (.error e, s') => (.error e, s') := by
  change Prog.eval answer ((p s).bind _) = _
  rw [Prog.eval_bind, eval]
  rcases (p s).eval answer with ⟨- | a, s'⟩ <;> rfl

@[simp] lemma eval_fetch_bind {f : σ → Proc S σ ε β} :
    (fetch >>= f).eval answer s = (f s).eval answer s := rfl

@[simp] lemma eval_put_bind {t : σ} {f : Unit → Proc S σ ε β} :
    (put t >>= f).eval answer s = (f ()).eval answer t := rfl

end Fixed

end Proc

end SmmErrorLogger.Library.Interaction
