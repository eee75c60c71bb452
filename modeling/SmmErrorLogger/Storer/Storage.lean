import SmmErrorLogger.Storer.Steps
import Mathlib.Logic.Function.Basic

/-! Storage that does what a file handler answers: the documents in it, and what was asked of it. -/

namespace SmmErrorLogger.Storer

open Library.Interaction
open Library.Interaction.Proc

variable {W : Type} {Q : Bool → ExternalStorerFileInterface → W → Prop}
  {X : StorerError → ExternalStorerFileInterface → W → Prop} {st : ExternalStorerFileInterface}
  {w : W}

def Below (p q : Text) : Prop := p ++ text "/" <+: q

instance (p q : Text) : Decidable (Below p q) := inferInstanceAs (Decidable (_ <+: _))

/-- The document in the `index.json` of each folder. Then, the last one first, every document that
was to be stored, every path that was to be removed, and every UUID that was generated. -/
structure StorageView where
  documents : Text → Option Json
  published : List (Text × Json)
  removed : List Text
  generated : List Text

namespace StorageView

def create (v : StorageView) (path : Text) (j : Json) (success : Bool) : StorageView where
  documents := if success then Function.update v.documents path (some j) else v.documents
  published := (path, j) :: v.published
  removed := v.removed
  generated := v.generated

def remove (v : StorageView) (path : Text) (success : Bool) : StorageView where
  documents q := if success ∧ (q = path ∨ Below path q) then none else v.documents q
  published := v.published
  removed := path :: v.removed
  generated := v.generated

def generate (v : StorageView) (id : Text) : StorageView :=
  { v with generated := id :: v.generated }

def LogEntryFolder (v : StorageView) (path : Text) : Prop :=
  ∃ j : Json, j.isLogEntry ∧ v.documents path = some j

instance (v : StorageView) (path : Text) : Decidable (v.LogEntryFolder path) :=
  decidable_of_iff ((v.documents path).any Json.isLogEntry) (by
    rw [Option.any_eq_true]
    exact exists_congr fun j => and_comm)

end StorageView

def Does (v : StorageView) : (op : StorerOp) → StorerCalls.Ans op → StorageView → Prop
  | .createFile path j, result, v' =>
    ∃ success, result = FileResult.done success ∧ v' = v.create path j success
  | .removeAll path, result, v' =>
    ∃ success, result = FileResult.done success ∧ v' = v.remove path success
  | .createEntry _, _, v' => v' = v
  | .randomGen, id, v' => id.length = 36 ∧ v' = v.generate id

structure Storage (W : Type) where
  perform : W → (op : StorerOp) → StorerCalls.Ans op × W
  view : W → StorageView
  does : ∀ w op, Does (view w) op (perform w op).1 (view (perform w op).2)

variable {storage : Storage W}

lemma createFile_ensures {path : Text} {j : Json}
    (h : ∀ success w', storage.view w' = (storage.view w).create path j success → Q success st w') :
    (createFile path j).Ensures (alone storage.perform) Q X st w := by
  obtain ⟨success, hresult, hview⟩ := storage.does w (.createFile path j)
  rw [createFile, call_alone, hresult]
  exact alone_pure.mpr (h success _ hview)

lemma removeAll_ensures {path : Text}
    (h : ∀ success w', (storage.perform w (.removeAll path)).1 = .done success →
      storage.view w' = (storage.view w).remove path success → Q success st w') :
    (removeAll path).Ensures (alone storage.perform) Q X st w := by
  obtain ⟨success, hresult, hview⟩ := storage.does w (.removeAll path)
  rw [removeAll, call_alone, hresult]
  exact alone_pure.mpr (h success _ hresult hview)

end SmmErrorLogger.Storer
