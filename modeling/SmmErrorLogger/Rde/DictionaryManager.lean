import Mathlib.Logic.Function.Basic
import Mathlib.Tactic

namespace SmmErrorLogger.Rde

def annotationResourceId : UInt32 := 0

structure DictionaryEntry where
  valid : Bool
  data : List UInt8
  deriving DecidableEq

@[ext]
structure DictionaryManager where
  validDictionaryCount : UInt32
  dictionaries : UInt32 → Option DictionaryEntry

namespace DictionaryManager

def empty : DictionaryManager := ⟨0, fun _ => none⟩

def invalidateDictionaryEntry (m : DictionaryManager) (resourceId : UInt32)
    (entry : DictionaryEntry) :
    DictionaryManager where
  validDictionaryCount := if entry.valid then m.validDictionaryCount - 1 else m.validDictionaryCount
  dictionaries := Function.update m.dictionaries resourceId (some { entry with valid := false })

def validateDictionaryEntry (m : DictionaryManager) (resourceId : UInt32)
    (entry : DictionaryEntry) :
    DictionaryManager where
  validDictionaryCount := if entry.valid then m.validDictionaryCount else m.validDictionaryCount + 1
  dictionaries := Function.update m.dictionaries resourceId (some { entry with valid := true })

def startDictionaryEntry (m : DictionaryManager) (resourceId : UInt32) (data : List UInt8) :
    DictionaryManager :=
  match m.dictionaries resourceId with
  | none =>
    { m with dictionaries := Function.update m.dictionaries resourceId (some ⟨false, data⟩) }
  | some entry =>
    -- Flush the existing data
    let m := m.invalidateDictionaryEntry resourceId entry
    { m with dictionaries := Function.update m.dictionaries resourceId (some ⟨false, data⟩) }

def markDataComplete (m : DictionaryManager) (resourceId : UInt32) : Bool × DictionaryManager :=
  match m.dictionaries resourceId with
  | none => (false, m)
  | some entry => (true, m.validateDictionaryEntry resourceId entry)

def addDictionaryData (m : DictionaryManager) (resourceId : UInt32) (data : List UInt8) :
    Bool × DictionaryManager :=
  match m.dictionaries resourceId with
  | none => (false, m)
  | some entry =>
    let m := m.invalidateDictionaryEntry resourceId entry
    (true, { m with
      dictionaries :=
        Function.update m.dictionaries resourceId (some ⟨false, entry.data ++ data⟩) })

def getDictionary (m : DictionaryManager) (resourceId : UInt32) : Option (List UInt8) :=
  match m.dictionaries resourceId with
  | none => none
  | some entry => if ¬ entry.valid then none else some entry.data

def getAnnotationDictionary (m : DictionaryManager) : Option (List UInt8) :=
  m.getDictionary annotationResourceId

def getDictionaryCount (m : DictionaryManager) : UInt32 := m.validDictionaryCount

def invalidateDictionaries (m : DictionaryManager) : DictionaryManager where
  validDictionaryCount := 0
  dictionaries := fun r => (m.dictionaries r).map (fun entry => { entry with valid := false })

variable {m : DictionaryManager} {r : UInt32} {data : List UInt8}

@[simp] lemma startDictionaryEntry_dictionaries : (m.startDictionaryEntry r data).dictionaries =
    Function.update m.dictionaries r (some ⟨false, data⟩) := by
  rw [startDictionaryEntry]
  split
  · rfl
  · simp [invalidateDictionaryEntry]

@[simp] lemma markDataComplete_dictionaries : (m.markDataComplete r).2.dictionaries =
    Function.update m.dictionaries r
      ((m.dictionaries r).map (fun entry => { entry with valid := true })) := by
  rw [markDataComplete]
  split <;> rename_i h
  · rw [h, Option.map_none, ← h, Function.update_eq_self]
  · rw [h]
    rfl

lemma addDictionaryData_fst : (m.addDictionaryData r data).1 = (m.dictionaries r).isSome := by
  rw [addDictionaryData]
  split <;> rename_i h <;> rw [h] <;> rfl

@[simp] lemma addDictionaryData_dictionaries : (m.addDictionaryData r data).2.dictionaries =
    Function.update m.dictionaries r
      ((m.dictionaries r).map (fun entry => ⟨false, entry.data ++ data⟩)) := by
  rw [addDictionaryData]
  split <;> rename_i h
  · rw [h, Option.map_none, ← h, Function.update_eq_self]
  · simp [h, invalidateDictionaryEntry]

lemma getDictionary_eq_some {d : List UInt8} :
    m.getDictionary r = some d ↔ m.dictionaries r = some ⟨true, d⟩ := by
  rw [getDictionary]
  rcases m.dictionaries r with - | ⟨- | -, data⟩ <;> simp

@[simp] lemma getDictionary_invalidateDictionaries :
    m.invalidateDictionaries.getDictionary r = none := by
  cases h : m.dictionaries r <;> simp [getDictionary, invalidateDictionaries, h]

end DictionaryManager

end SmmErrorLogger.Rde
