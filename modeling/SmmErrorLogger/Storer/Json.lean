import Mathlib.Data.List.Basic

namespace SmmErrorLogger.Storer

abbrev Text := List UInt8

def text (s : String) : Text := s.toList.map (fun c => UInt8.ofNat c.toNat)

inductive Json
  | null
  | boolean (value : Bool)
  | number (literal : Text)
  | string (value : Text)
  | array (elements : List Json)
  | object (members : List (Text × Json))

namespace Json

variable {key key' : Text} {value : Json}

def member (j : Json) (key : Text) : Option Json :=
  match j with
  | object members => members.lookup key
  | _ => none

def contains (j : Json) (key : Text) : Bool := (j.member key).isSome

def setMember (key : Text) (value : Json) : List (Text × Json) → List (Text × Json)
  | [] => [(key, value)]
  | (k, v) :: members =>
    if key = k then (key, value) :: members
    else if key < k then (key, value) :: (k, v) :: members
    else (k, v) :: setMember key value members

def set (j : Json) (key : Text) (value : Json) : Json :=
  match j with
  | object members => object (setMember key value members)
  | j => j

def erase (j : Json) (key : Text) : Json :=
  match j with
  | object members => object (members.filter (fun m => m.1 ≠ key))
  | j => j

/-- `get<std::string>`. There is no value where it throws. -/
def getString : Json → Option Text
  | string value => some value
  | _ => none

lemma member_set (h : key ≠ key') (j : Json) : (j.set key' value).member key = j.member key := by
  cases j with
  | object members =>
    simp only [set, member]
    induction members with
    | nil => rw [setMember, List.lookup_cons, beq_false_of_ne h]
    | cons m members ih =>
      obtain ⟨k, v⟩ := m
      rw [setMember]
      split_ifs with heq hlt
      · subst heq
        rw [List.lookup_cons, List.lookup_cons, beq_false_of_ne h]
      · rw [List.lookup_cons, beq_false_of_ne h]
      · rw [List.lookup_cons, List.lookup_cons, ih]
  | null | boolean | number | string | array => rfl

lemma member_erase (h : key ≠ key') (j : Json) : (j.erase key').member key = j.member key := by
  cases j with
  | object members =>
    simp only [erase, member]
    induction members with
    | nil => rfl
    | cons m members ih =>
      obtain ⟨k, v⟩ := m
      rw [List.filter_cons]
      split_ifs with hk
      · rw [List.lookup_cons, List.lookup_cons, ih]
      · obtain rfl : k = key' := by simpa using hk
        rw [List.lookup_cons, beq_false_of_ne h, ih]
  | null | boolean | number | string | array => rfl

end Json

end SmmErrorLogger.Storer
