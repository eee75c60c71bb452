import Mathlib.Tactic
import SmmErrorLogger.Library.Service

/-! How many calls a process makes, whatever they are answered. -/

namespace SmmErrorLogger.Library.Interaction

variable {S T : Signature} {W σ ε ε' α β ι : Type}

def credit (S : Signature) : Environment S ℕ where
  interferes _ _ := False
  permits credits _ := 0 < credits
  answers credits _ _ credits' := credits = credits' + 1

lemma credit_later {n n' : ℕ} (h : (credit S).Later n n') : n' = n :=
  Environment.later_eq (fun _ _ hs => hs) h

namespace Proc

def Costs (c : ℕ) (Q : α → Prop) (p : Proc S σ ε α) : Prop := ∀ s n, c ≤ n →
  p.Ensures (credit S) (fun a _ n' => n ≤ n' + c ∧ Q a) (fun _ _ n' => n ≤ n' + c) s n

variable {c d : ℕ} {Q R : α → Prop}

lemma Costs.mono {p : Proc S σ ε α} (hp : Costs c Q p) (hcd : c ≤ d) (hQ : ∀ a, Q a → R a) :
    Costs d R p := by
  intro s n hn
  refine (hp s n (hcd.trans hn)).mono (fun a _ n' hend => ⟨?_, hQ a hend.2⟩) (fun _ _ n' hend => ?_)
  · have := hend.1
    omega
  · omega

lemma costs_pure {a : α} (ha : Q a) : Costs 0 Q (pure a : Proc S σ ε α) :=
  fun _ _ _ _ hn => ⟨(credit_later hn).ge, ha⟩

lemma costs_raise (e : ε) : Costs 0 Q (raise e : Proc S σ ε α) :=
  fun _ _ _ _ hn => (credit_later hn).ge

lemma costs_raiseIf_bind {b : Prop} {_ : Decidable b} {e : ε} {f : Unit → Proc S σ ε α}
    (hf : ¬ b → Costs c Q (f ())) :
    Costs c Q (raiseIf b e >>= f) :=
  fun s n hn => ensures_raiseIf_bind.mpr
    ⟨fun _ _ hlater => (credit_later hlater).symm ▸ Nat.le_add_right n c, fun hb => hf hb s n hn⟩

lemma costs_fetch_bind {f : σ → Proc S σ ε α} (hf : ∀ s, Costs c Q (f s)) :
    Costs c Q (fetch >>= f) :=
  fun s n hn => hf s s n hn

lemma costs_put (s : σ) : Costs 0 (fun _ => True) (put s : Proc S σ ε Unit) :=
  fun _ _ _ _ hn => ⟨(credit_later hn).ge, trivial⟩

lemma costs_call (op : S.Op) : Costs 1 (fun _ => True) (call op : Proc S σ ε (S.Ans op)) := by
  intro s n hn n₁ hn₁
  obtain rfl := credit_later hn₁
  refine ⟨hn, fun ans n₂ hn₂ n₃ hn₃ => ⟨?_, trivial⟩⟩
  obtain rfl := credit_later hn₃
  exact hn₂.le

lemma Costs.bind {Q : α → Prop} {R : β → Prop} {p : Proc S σ ε α} {f : α → Proc S σ ε β}
    (hp : Costs c Q p)
    (hf : ∀ a, Q a → Costs d R (f a)) : Costs (c + d) R (p >>= f) := by
  intro s n hn
  refine ensures_bind.mpr ((hp s n (by omega)).mono ?_ (fun _ _ n' hend => by omega))
  rintro a s' n' ⟨hle, hQ⟩
  refine (hf a hQ s' n' (by omega)).mono (fun _ _ n'' hend => ⟨?_, hend.2⟩)
    (fun _ _ n'' hend => by omega)
  have := hend.1
  omega

lemma Costs.ite {b : Prop} [Decidable b] {p q : Proc S σ ε α} (hp : b → Costs c Q p)
    (hq : ¬ b → Costs c Q q) :
    Costs c Q (if b then p else q) := by
  by_cases hb : b
  · rw [if_pos hb]
    exact hp hb
  · rw [if_neg hb]
    exact hq hb

lemma Costs.tryCatch {p : Proc S σ ε α} {recover : ε → Proc S σ ε' α} (hp : Costs c Q p)
    (hrecover : ∀ e, Costs d Q (recover e)) : Costs (c + d) Q (p.tryCatch recover) := by
  intro s n hn
  refine ensures_tryCatch.mpr
    ((hp s n (by omega)).mono (fun _ _ n' hend => ⟨?_, hend.2⟩) (fun e s' n' hle => ?_))
  · have := hend.1
    omega
  · refine (hrecover e s' n' (by omega)).mono (fun _ _ n'' hend => ⟨?_, hend.2⟩)
      (fun _ _ n'' hend => by omega)
    have := hend.1
    omega

lemma Costs.lift {e : Embedding S T} {wrap : ε → ε'} {p : Proc S σ ε α} (hp : Costs c Q p) :
    Costs c Q (p.lift e wrap) := by
  refine fun s n hn =>
    ensures_lift.mpr ((hp s n hn).refines (fun _ _ hs => hs) (fun _ _ hpos => hpos) ?_)
  rintro n op ans n' ⟨_, hn', rfl⟩
  exact hn'

end Proc

def Environment.counted (E : Environment S W) : Environment S (W × ℕ) where
  interferes w w' := E.interferes w.1 w'.1 ∧ w'.2 = w.2
  permits w := E.permits w.1
  answers w op ans w' := E.answers w.1 op ans w'.1 ∧ w'.2 = w.2 + 1

namespace Service

variable {E : Environment S W} {bodies : ι → Proc S σ ε α} {again : Except ε α → Prop} {c : ℕ}
  {a b : State S (W × ℕ) σ ε α}

/-- The credits that a process has left make up for the calls that it has made. -/
def Paid (c : ℕ) (s : State S (W × ℕ) σ ε α) : Prop :=
  match s.thread with
  | .idle _ => s.world.2 ≤ c * s.results.length
  | .busy p =>
    ∃ n, p.Ensures (credit S) (fun _ _ => True) n ∧ s.world.2 + n ≤ c * (s.results.length + 1)

lemma step_paid (hcosts : ∀ i, ∃ Q, Proc.Costs c Q (bodies i)) (h : Step E.counted bodies again a b)
    (ha : Paid c a) : Paid c b := by
  cases h with
  | @interfere w w' t rs hw =>
    obtain ⟨w, calls⟩ := w
    obtain ⟨w', calls'⟩ := w'
    obtain rfl : calls' = calls := hw.2
    cases t <;> exact ha
  | @start w s rs i _ =>
    obtain ⟨Q, hcost⟩ := hcosts i
    exact ⟨c, Prog.Ensures.mono (hcost s c le_rfl) fun _ _ _ => trivial, Nat.add_le_add_right ha c⟩
  | @access w w' op ans k rs hans =>
    obtain ⟨n, hens, hle⟩ := ha
    obtain ⟨hpos, hnext⟩ := hens n .refl
    obtain ⟨m, rfl⟩ := Nat.exists_eq_succ_of_ne_zero hpos.ne'
    refine ⟨m, hnext ans m rfl, le_of_eq_of_le ?_ hle⟩
    have hcalls : w'.2 = w.2 + 1 := hans.2
    dsimp only
    omega
  | finish =>
    obtain ⟨n, -, hle⟩ := ha
    rw [Paid, List.length_append]
    exact (Nat.le_add_right _ _).trans hle

lemma run_paid (hcosts : ∀ i, ∃ Q, Proc.Costs c Q (bodies i)) (h : Run E.counted bodies again a b)
    (ha : Paid c a) : Paid c b := by
  induction h with
  | refl => exact ha
  | tail _ hs ih => exact step_paid hcosts hs ih

theorem run_calls (hcosts : ∀ i, ∃ Q, Proc.Costs c Q (bodies i)) {w : W} {s : σ}
    (h : Run E.counted bodies again ⟨(w, 0), .idle s, []⟩ b) :
    b.world.2 ≤ c * (b.results.length + 1) := by
  have hpaid : Paid c b := run_paid hcosts h (Nat.zero_le _)
  obtain ⟨w', t, rs⟩ := b
  cases t with
  | idle => exact hpaid.trans (Nat.mul_le_mul_left c (Nat.le_succ _))
  | busy p =>
    obtain ⟨n, -, hle⟩ := hpaid
    exact (Nat.le_add_right _ _).trans hle

end Service

end SmmErrorLogger.Library.Interaction
