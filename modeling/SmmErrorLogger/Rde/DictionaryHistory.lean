import SmmErrorLogger.Rde.DictionaryCount

/-! What a dictionary manager holds, told from the operations on it. -/

namespace SmmErrorLogger.Rde

inductive DictionaryOp
  | startDictionaryEntry (resourceId : UInt32) (data : List UInt8)
  | addDictionaryData (resourceId : UInt32) (data : List UInt8)
  | markDataComplete (resourceId : UInt32)
  | invalidateDictionaries
  deriving DecidableEq

namespace DictionaryOp

def Touches (r : UInt32) : DictionaryOp → Prop
  | .startDictionaryEntry x _ => x = r
  | .addDictionaryData x _ => x = r
  | .markDataComplete x => x = r
  | .invalidateDictionaries => True

def Started (r : UInt32) (history : List DictionaryOp) : Prop :=
  ∃ data, .startDictionaryEntry r data ∈ history

def Effective (r : UInt32) (history : List DictionaryOp) : DictionaryOp → Prop
  | .startDictionaryEntry x _ => x = r
  | .addDictionaryData x _ => x = r
  | .markDataComplete x => x = r ∧ Started r history
  | .invalidateDictionaries => True

/-- The last of the operations on `r` that were effective. The history goes back from the last
operation. -/
inductive LastEffective (r : UInt32) : List DictionaryOp → DictionaryOp → Prop
  | last {op : DictionaryOp} {history : List DictionaryOp} : Effective r history op →
    LastEffective r (op :: history) op
  | earlier {op later : DictionaryOp} {history : List DictionaryOp} : ¬ Effective r history later →
      LastEffective r history op → LastEffective r (later :: history) op

def addedTo (r : UInt32) : DictionaryOp → List UInt8
  | .addDictionaryData x data => if x = r then data else []
  | _ => []

def SentTo (r : UInt32) (ops : List DictionaryOp) (d : List UInt8) : Prop :=
  ∃ before data later, ops = before ++ .startDictionaryEntry r data :: later ∧
    (∀ data', .startDictionaryEntry r data' ∉ later) ∧ d = data ++ later.flatMap (addedTo r)

variable {r : UInt32} {op op' : DictionaryOp} {history ops : List DictionaryOp}
  {data d : List UInt8}

lemma Effective.touches (h : Effective r history op) : op.Touches r := by
  cases op with
  | startDictionaryEntry x data => exact h
  | addDictionaryData x data => exact h
  | markDataComplete x => exact h.1
  | invalidateDictionaries => trivial

lemma lastEffective_cons : LastEffective r (op' :: history) op ↔
    Effective r history op' ∧ op = op' ∨ ¬ Effective r history op' ∧
      LastEffective r history op := by
  constructor
  · intro h
    cases h with
    | last heffective => exact Or.inl ⟨heffective, rfl⟩
    | earlier hnot hlast => exact Or.inr ⟨hnot, hlast⟩
  · rintro (⟨heffective, rfl⟩ | ⟨hnot, hlast⟩)
    · exact .last heffective
    · exact .earlier hnot hlast

lemma Started.cons (h : Started r history) : Started r (op :: history) := by
  obtain ⟨data, hdata⟩ := h
  exact ⟨data, List.mem_cons_of_mem op hdata⟩

lemma LastEffective.started (h : LastEffective r history (.markDataComplete r)) :
    Started r history := by
  generalize hop : DictionaryOp.markDataComplete r = op at h
  induction h with
  | last heffective =>
    subst hop
    exact heffective.2.cons
  | earlier _ _ ih => exact (ih hop).cons

lemma sentTo_start : SentTo r (ops ++ [.startDictionaryEntry r data]) data :=
  ⟨ops, data, [], rfl, by simp, by simp⟩

lemma SentTo.snoc (h : SentTo r ops d) (hop : ∀ data, op ≠ .startDictionaryEntry r data) :
    SentTo r (ops ++ [op]) (d ++ addedTo r op) := by
  obtain ⟨before, data, later, rfl, hlater, rfl⟩ := h
  refine ⟨before, data, later ++ [op], by simp, fun data' hmem => ?_, by simp⟩
  rcases List.mem_append.mp hmem with hmem | hmem
  · exact hlater data' hmem
  · exact hop data' (List.mem_singleton.mp hmem).symm

lemma started_cons (hop : ∀ data, op ≠ .startDictionaryEntry r data) :
    Started r (op :: history) ↔ Started r history := by
  constructor
  · rintro ⟨data, hdata⟩
    exact ⟨data, (List.mem_cons.mp hdata).resolve_left fun heq => hop data heq.symm⟩
  · exact Started.cons

lemma addedTo_other (hop : ¬ op.Touches r) : addedTo r op = [] := by
  cases op with
  | addDictionaryData x data => exact if_neg hop
  | _ => rfl

lemma not_lastEffective (heffective : Effective r history op) (hne : op ≠ .markDataComplete r) :
    ¬ LastEffective r (op :: history) (.markDataComplete r) := by
  rw [lastEffective_cons]
  rintro (⟨-, heq⟩ | ⟨hnot, -⟩)
  · exact hne heq.symm
  · exact hnot heffective

end DictionaryOp

open DictionaryOp

namespace DictionaryManager

def perform (m : DictionaryManager) : DictionaryOp → DictionaryManager
  | .startDictionaryEntry resourceId data => m.startDictionaryEntry resourceId data
  | .addDictionaryData resourceId data => (m.addDictionaryData resourceId data).2
  | .markDataComplete resourceId => (m.markDataComplete resourceId).2
  | .invalidateDictionaries => m.invalidateDictionaries

def after (ops : List DictionaryOp) : DictionaryManager := ops.foldl perform empty

variable {m : DictionaryManager} {r : UInt32} {op : DictionaryOp} {ops : List DictionaryOp}

lemma after_snoc : after (ops ++ [op]) = (after ops).perform op := by
  rw [after, List.foldl_append]
  rfl

lemma Counted.perform (hm : m.Counted) : (m.perform op).Counted := by
  cases op with
  | startDictionaryEntry x data => exact hm.startDictionaryEntry
  | addDictionaryData x data => exact hm.addDictionaryData
  | markDataComplete x => exact hm.markDataComplete
  | invalidateDictionaries => exact counted_invalidateDictionaries

lemma after_counted (ops : List DictionaryOp) : (after ops).Counted := by
  induction ops using List.reverseRecOn with
  | nil => exact counted_empty
  | append_singleton ops op ih =>
    rw [after_snoc]
    exact ih.perform

lemma perform_other (h : ¬ op.Touches r) : (m.perform op).dictionaries r = m.dictionaries r := by
  cases op with
  | startDictionaryEntry x data =>
    rw [perform, startDictionaryEntry_dictionaries, Function.update_of_ne (Ne.symm h)]
  | addDictionaryData x data =>
    rw [perform, addDictionaryData_dictionaries, Function.update_of_ne (Ne.symm h)]
  | markDataComplete x =>
    rw [perform, markDataComplete_dictionaries, Function.update_of_ne (Ne.symm h)]
  | invalidateDictionaries => exact absurd trivial h

structure Told (ops : List DictionaryOp) (r : UInt32) (m : DictionaryManager) : Prop where
  started : (m.dictionaries r).isSome ↔ Started r ops.reverse
  sent : ∀ entry, m.dictionaries r = some entry → SentTo r ops entry.data
  marked : ∀ entry, m.dictionaries r = some entry →
    (entry.valid ↔ LastEffective r ops.reverse (.markDataComplete r))

lemma told_empty : Told [] r empty where
  started := by simp [empty, Started]
  sent _ h := by cases h
  marked _ h := by cases h

lemma Told.perform_other (h : Told ops r m) (hop : ¬ op.Touches r) :
    Told (ops ++ [op]) r (m.perform op) := by
  have hsame : (m.perform op).dictionaries r = m.dictionaries r :=
    DictionaryManager.perform_other hop
  have hstart : ∀ data, op ≠ .startDictionaryEntry r data := by
    rintro data rfl
    exact hop rfl
  refine ⟨?_, fun entry hentry => ?_, fun entry hentry => ?_⟩
  · rw [hsame, h.started, List.reverse_append, List.reverse_singleton, List.singleton_append,
      started_cons hstart]
  · have hsent := (h.sent entry (hsame ▸ hentry)).snoc hstart
    rwa [addedTo_other hop, List.append_nil] at hsent
  · rw [h.marked entry (hsame ▸ hentry), List.reverse_append, List.reverse_singleton,
      List.singleton_append, lastEffective_cons]
    constructor
    · exact fun hlast => Or.inr ⟨fun heffective => hop heffective.touches, hlast⟩
    · rintro (⟨heffective, -⟩ | ⟨-, hlast⟩)
      · exact absurd heffective.touches hop
      · exact hlast

lemma Told.update (h : Told ops r m) (valid : Bool)
    (hop : ∀ data, op ≠ .startDictionaryEntry r data) (hentries : (m.perform op).dictionaries r =
      (m.dictionaries r).map fun entry => ⟨valid, entry.data ++ addedTo r op⟩)
    (hvalid : Started r ops.reverse →
      (valid ↔ LastEffective r (op :: ops.reverse) (.markDataComplete r))) :
    Told (ops ++ [op]) r (m.perform op) := by
  have hreverse : (ops ++ [op]).reverse = op :: ops.reverse := by simp
  refine ⟨?_, fun entry hentry => ?_, fun entry hentry => ?_⟩
  · rw [hentries, Option.isSome_map, h.started, hreverse, started_cons hop]
  · obtain ⟨old, hold, rfl⟩ := Option.map_eq_some_iff.mp (hentries.symm.trans hentry)
    exact (h.sent old hold).snoc hop
  · obtain ⟨old, hold, rfl⟩ := Option.map_eq_some_iff.mp (hentries.symm.trans hentry)
    rw [hreverse]
    exact hvalid (h.started.mp (by rw [hold]; rfl))

lemma Told.start {data : List UInt8} :
    Told (ops ++ [.startDictionaryEntry r data]) r (m.startDictionaryEntry r data) := by
  have hentries : (m.startDictionaryEntry r data).dictionaries r = some ⟨false, data⟩ := by simp
  have hreverse : (ops ++ [DictionaryOp.startDictionaryEntry r data]).reverse =
      .startDictionaryEntry r data :: ops.reverse := by simp
  refine ⟨?_, fun entry hentry => ?_, fun entry hentry => ?_⟩
  · rw [hentries, hreverse]
    exact iff_of_true rfl ⟨data, List.mem_cons_self⟩
  · obtain rfl := Option.some.inj (hentries.symm.trans hentry)
    exact sentTo_start
  · obtain rfl := Option.some.inj (hentries.symm.trans hentry)
    rw [hreverse]
    exact iff_of_false (by simp) (not_lastEffective rfl (by simp))

lemma Told.perform (h : Told ops r m) : Told (ops ++ [op]) r (m.perform op) := by
  by_cases hop : op.Touches r
  case neg => exact h.perform_other hop
  cases op with
  | startDictionaryEntry x data =>
    obtain rfl : x = r := hop
    exact Told.start
  | addDictionaryData x data =>
    obtain rfl : x = r := hop
    apply h.update false (by simp) (by simp [DictionaryManager.perform, addedTo])
    intro _
    exact iff_of_false Bool.false_ne_true (not_lastEffective rfl (by simp))
  | markDataComplete x =>
    obtain rfl : x = r := hop
    apply h.update true (by simp) (by simp [DictionaryManager.perform, addedTo])
    intro hstarted
    exact iff_of_true rfl (.last ⟨rfl, hstarted⟩)
  | invalidateDictionaries =>
    apply h.update false (by simp)
      (by simp [DictionaryManager.perform, invalidateDictionaries, addedTo])
    intro _
    exact iff_of_false Bool.false_ne_true (not_lastEffective trivial (by simp))

lemma told_after (ops : List DictionaryOp) (r : UInt32) : Told ops r (after ops) := by
  induction ops using List.reverseRecOn with
  | nil => exact told_empty
  | append_singleton ops op ih =>
    rw [after_snoc]
    exact ih.perform

lemma getDictionary_after : (∃ d, (after ops).getDictionary r = some d) ↔
    LastEffective r ops.reverse (.markDataComplete r) := by
  have htold := told_after ops r
  constructor
  · rintro ⟨d, hd⟩
    exact (htold.marked _ (getDictionary_eq_some.mp hd)).mp rfl
  · intro hlast
    obtain ⟨⟨valid, d⟩, hentry⟩ := Option.isSome_iff_exists.mp (htold.started.mpr hlast.started)
    obtain rfl : valid = true := (htold.marked _ hentry).mpr hlast
    exact ⟨d, getDictionary_eq_some.mpr hentry⟩

theorem after_refines (ops : List DictionaryOp) :
    (∀ r, (∃ d, (after ops).getDictionary r = some d) ↔
      LastEffective r ops.reverse (.markDataComplete r)) ∧
    (∀ r d, (after ops).getDictionary r = some d → SentTo r ops d) ∧
    (∀ op r, ¬ op.Touches r → (after (ops ++ [op])).dictionaries r = (after ops).dictionaries r) ∧
    let usable := {r | ∃ d, (after ops).getDictionary r = some d}
    (usable ≠ Set.univ → (after ops).getDictionaryCount.toNat = usable.ncard) ∧
      (usable = Set.univ → (after ops).getDictionaryCount = 0) := by
  have hids : {r | ∃ d, (after ops).getDictionary r = some d} = (after ops).validIds :=
    Set.ext fun r => mem_validIds_iff.symm
  refine ⟨fun r => getDictionary_after, fun r d hd => ?_, fun op r hop => ?_, ?_⟩
  · exact (told_after ops r).sent _ (getDictionary_eq_some.mp hd)
  · rw [after_snoc]
    exact perform_other hop
  · intro usable
    rw [show usable = (after ops).validIds from hids]
    exact ⟨(after_counted ops).toNat_getDictionaryCount,
      (after_counted ops).getDictionaryCount_univ⟩

def receiveEach (ids : List UInt32) : List DictionaryOp :=
  ids.flatMap fun r => [.startDictionaryEntry r [], .markDataComplete r]

lemma getDictionary_receiveEach {ids : List UInt32} (hr : r ∈ ids) :
    (after (receiveEach ids)).getDictionary r = some [] := by
  induction ids using List.reverseRecOn with
  | nil => cases hr
  | append_singleton ids x ih =>
    have hlast : after (receiveEach (ids ++ [x])) =
        (((after (receiveEach ids)).startDictionaryEntry x []).markDataComplete x).2 := by
      rw [after, receiveEach, List.flatMap_append, List.foldl_append]
      rfl
    rw [getDictionary_eq_some, hlast, markDataComplete_dictionaries,
      startDictionaryEntry_dictionaries]
    by_cases hx : r = x
    · subst hx
      simp
    · rw [Function.update_of_ne hx, Function.update_of_ne hx]
      exact getDictionary_eq_some.mp
        (ih ((List.mem_append.mp hr).resolve_right (by simpa using hx)))

def everyId : List UInt32 := (List.range (2 ^ 32)).map UInt32.ofNat

lemma mem_everyId (r : UInt32) : r ∈ everyId :=
  List.mem_map.mpr ⟨r.toNat, List.mem_range.mpr r.toNat_lt, UInt32.ofNat_toNat⟩

theorem after_not_counted : (after (receiveEach everyId)).getDictionaryCount.toNat ≠
    {r | ∃ d, (after (receiveEach everyId)).getDictionary r = some d}.ncard := by
  have hall : {r | ∃ d, (after (receiveEach everyId)).getDictionary r = some d} = Set.univ :=
    Set.eq_univ_of_forall fun r => ⟨[], getDictionary_receiveEach (mem_everyId r)⟩
  have hids : (after (receiveEach everyId)).validIds = Set.univ :=
    Set.eq_univ_of_forall fun r =>
      mem_validIds_iff.mpr ⟨[], getDictionary_receiveEach (mem_everyId r)⟩
  rw [hall, Set.ncard_univ, card_resourceId, (after_counted _).getDictionaryCount_univ hids]
  norm_num

end DictionaryManager

end SmmErrorLogger.Rde
