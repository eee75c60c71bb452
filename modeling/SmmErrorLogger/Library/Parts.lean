import Mathlib.Data.List.Basic

namespace SmmErrorLogger.Library.Parts

variable {α β : Type}

def laterParts (middle finish : α → β) : List α → List β
  | [] => []
  | [a] => [finish a]
  | a :: a' :: as => middle a :: laterParts middle finish (a' :: as)

def parts (start middle finish startAndEnd : α → β) : List α → List β
  | [] => []
  | [a] => [startAndEnd a]
  | a :: a' :: as => start a :: laterParts middle finish (a' :: as)

variable {γ δ α' : Type} {middle finish : α → β} {middle' finish' : α' → δ} {f : γ → β} {g : γ → δ}
  {e : α → α'}

lemma map_laterParts {xs : List γ} {as : List α}
    (hmiddle : ∀ x ∈ xs, ∀ a, f x = middle a → g x = middle' (e a))
    (hfinish : ∀ x ∈ xs, ∀ a, f x = finish a → g x = finish' (e a))
    (h : xs.map f = laterParts middle finish as) :
    xs.map g = laterParts middle' finish' (as.map e) := by
  induction as generalizing xs with
  | nil =>
    obtain rfl := List.map_eq_nil_iff.mp h
    rfl
  | cons a as ih =>
    cases as with
    | nil =>
      obtain ⟨x, rfl, hx⟩ := List.map_eq_singleton_iff.mp h
      exact congrArg (fun b => [b]) (hfinish x (List.mem_singleton_self x) a hx)
    | cons a' as =>
      obtain ⟨x, xs, rfl, hx, hxs⟩ := List.map_eq_cons_iff.mp h
      refine List.cons_eq_cons.mpr ⟨hmiddle x List.mem_cons_self a hx, ?_⟩
      exact ih (fun y hy => hmiddle y (List.mem_cons_of_mem x hy))
        (fun y hy => hfinish y (List.mem_cons_of_mem x hy)) hxs

lemma map_parts {start startAndEnd : α → β} {start' startAndEnd' : α' → δ} {xs : List γ}
    {as : List α} (hstart : ∀ x ∈ xs, ∀ a, f x = start a → g x = start' (e a))
    (hmiddle : ∀ x ∈ xs, ∀ a, f x = middle a → g x = middle' (e a))
    (hfinish : ∀ x ∈ xs, ∀ a, f x = finish a → g x = finish' (e a))
    (hstartAndEnd : ∀ x ∈ xs, ∀ a, f x = startAndEnd a → g x = startAndEnd' (e a))
    (h : xs.map f = parts start middle finish startAndEnd as) :
    xs.map g = parts start' middle' finish' startAndEnd' (as.map e) := by
  cases as with
  | nil =>
    obtain rfl := List.map_eq_nil_iff.mp h
    rfl
  | cons a as =>
    cases as with
    | nil =>
      obtain ⟨x, rfl, hx⟩ := List.map_eq_singleton_iff.mp h
      exact congrArg (fun b => [b]) (hstartAndEnd x (List.mem_singleton_self x) a hx)
    | cons a' as =>
      obtain ⟨x, xs, rfl, hx, hxs⟩ := List.map_eq_cons_iff.mp h
      refine List.cons_eq_cons.mpr ⟨hstart x List.mem_cons_self a hx, ?_⟩
      exact map_laterParts (fun y hy => hmiddle y (List.mem_cons_of_mem x hy))
        (fun y hy => hfinish y (List.mem_cons_of_mem x hy)) hxs

end SmmErrorLogger.Library.Parts
