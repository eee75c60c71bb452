import SmmErrorLogger.Storer.FileInterface

/-! The functions of the storer step by step, over a file handler that answers as it likes. -/

namespace SmmErrorLogger.Storer

open Library.Interaction
open Library.Interaction.Proc

variable {W : Type} {perform : W → (op : StorerOp) → StorerCalls.Ans op × W} {cfg : StorerConfig}
  {Q : Bool → ExternalStorerFileInterface → W → Prop}
  {X : StorerError → ExternalStorerFileInterface → W → Prop}
  {st : ExternalStorerFileInterface} {w : W} {j : Json} {jsonStr : Text}

lemma createFile_over {path : Text}
    (hdone : ∀ success, (perform w (.createFile path j)).1 = FileResult.done success →
      Q success st (perform w (.createFile path j)).2)
    (hthrew : (perform w (.createFile path j)).1 = FileResult.threw →
      X .filesystemError st (perform w (.createFile path j)).2) :
    (createFile path j).Ensures (alone perform) Q X st w := by
  rw [createFile, call_alone]
  cases hresult : (perform w (.createFile path j)).1 with
  | done success => exact alone_pure.mpr (hdone success hresult)
  | threw => exact alone_raise.mpr (hthrew hresult)

lemma removeAll_over {path : Text}
    (hdone : ∀ success, (perform w (.removeAll path)).1 = FileResult.done success →
      Q success st (perform w (.removeAll path)).2)
    (hthrew : (perform w (.removeAll path)).1 = FileResult.threw →
      X .filesystemError st (perform w (.removeAll path)).2) :
    (removeAll path).Ensures (alone perform) Q X st w := by
  rw [removeAll, call_alone]
  cases hresult : (perform w (.removeAll path)).1 with
  | done success => exact alone_pure.mpr (hdone success hresult)
  | threw => exact alone_raise.mpr (hthrew hresult)

lemma getString_eq_some {value : Json} {t : Text} :
    value.getString = some t ↔ value = .string t := by
  cases value <;> simp [Json.getString]

lemma member_getString {key t : Text} :
    (j.member key).bind Json.getString = some t ↔ j.member key = some (.string t) := by
  simp [Option.bind_eq_some_iff, getString_eq_some]

lemma getString_over {key : Text} {f : Text → StorerM Bool}
    (hstring : ∀ t, j.member key = some (.string t) → (f t).Ensures (alone perform) Q X st w)
    (hthrew : (∀ t, j.member key ≠ some (.string t)) → X .typeError st w) :
    (getString (j.member key) >>= f).Ensures (alone perform) Q X st w := by
  rw [ensures_bind, getString]
  cases ht : (j.member key).bind Json.getString with
  | none =>
    apply alone_raise.mpr (hthrew fun t hmember => ?_)
    rw [member_getString.mpr hmember] at ht
    cases ht
  | some t => exact alone_pure.mpr (hstring t (member_getString.mp ht))

lemma contains_of_member {key : Text} {value : Json} (h : j.member key = some value) :
    j.contains key := by
  rw [Json.contains, h]
  rfl

lemma deleteOldest_over (hroom : st.logEntryQueue.length ≠ cfg.maxNumLogEntries.toNat → Q true st w)
    (hempty : st.logEntryQueue.length = cfg.maxNumLogEntries.toNat → st.logEntryQueue = [] →
      X .emptyQueue st w)
    (hremove : ∀ oldest rest, st.logEntryQueue.length = cfg.maxNumLogEntries.toNat →
      st.logEntryQueue = oldest :: rest →
      (removeAll oldest).Ensures (alone perform) Q X { st with logEntryQueue := rest } w) :
    (deleteOldest cfg).Ensures (alone perform) Q X st w := by
  rw [deleteOldest, ensures_fetch_bind]
  split_ifs with hfull
  · cases hqueue : st.logEntryQueue with
    | nil => exact alone_raise.mpr (hempty hfull hqueue)
    | cons oldest rest => exact ensures_put_bind.mpr (hremove oldest rest hfull hqueue)
  · exact alone_pure.mpr (hroom hfull)

def ExternalStorerFileInterface.pushed (st : ExternalStorerFileInterface) (cfg : StorerConfig)
    (subPath : Text) :
    ExternalStorerFileInterface :=
  if st.logEntrySavedQueue.length < cfg.maxNumSavedLogEntries.toNat then
    { st with logEntrySavedQueue := st.logEntrySavedQueue ++ [subPath] }
  else { st with logEntryQueue := st.logEntryQueue ++ [subPath] }

@[simp] lemma pushed_logServiceId {subPath : Text} :
    (st.pushed cfg subPath).logServiceId = st.logServiceId := by
  rw [ExternalStorerFileInterface.pushed]
  split_ifs <;> rfl

lemma pushEntry_over {subPath : Text} {Q : Unit → ExternalStorerFileInterface → W → Prop}
    (h : Q () (st.pushed cfg subPath) w) :
    (pushEntry cfg subPath).Ensures (alone perform) Q X st w := by
  rw [ExternalStorerFileInterface.pushed] at h
  rw [pushEntry, ensures_fetch_bind]
  split_ifs at h ⊢
  · exact alone_put.mpr h
  · exact alone_put.mpr h

def indexPath (cfg : StorerConfig) (subPath : Text) : Text :=
  cfg.rootPath ++ subPath ++ text "/index.json"

lemma processLogEntry_over {D : ExternalStorerFileInterface → W → Prop}
    (hservice : st.logServiceId = [] → Q false st w)
    (hdelete : st.logServiceId ≠ [] → (deleteOldest cfg).Ensures (alone perform)
      (fun deleted st' w' => if deleted then D st' w' else Q false st' w') X st w)
    (hcreate : ∀ st' w', D st' w' →
      let id := (perform w' .randomGen).1
      let subPath := logEntryPath st.logServiceId id
      (createFile subPath (logEntryDocument j id)).Ensures (alone perform)
        (fun created st' w' => if created then
          Q true (st'.pushed cfg subPath) (perform w' (.createEntry (indexPath cfg subPath))).2
            else Q false st' w')
        X st' (perform w' .randomGen).2) :
    (processLogEntry cfg j).Ensures (alone perform) Q X st w := by
  rw [processLogEntry, ensures_fetch_bind]
  split_ifs with hnone
  · exact alone_pure.mpr (hservice hnone)
  refine ensures_bind.mpr
    ((hdelete hnone).mono (fun deleted st₁ w₁ hdeleted => ?_) fun _ _ _ hX => hX)
  split_ifs with hdone
  · rw [if_pos hdone] at hdeleted
    refine call_alone.mpr (ensures_bind.mpr ((hcreate st₁ w₁ hdeleted).mono ?_ fun _ _ _ hX => hX))
    intro created st₂ w₂ hcreated
    split_ifs with hstored
    · rw [if_pos hstored] at hcreated
      exact call_alone.mpr (ensures_bind.mpr (pushEntry_over (alone_pure.mpr hcreated)))
    · rw [if_neg hstored] at hcreated
      exact alone_pure.mpr hcreated
  · rw [if_neg hdone] at hdeleted
    exact alone_pure.mpr hdeleted

lemma processLogService_over
    (hmissing : ¬ (j.contains odataId ∧ j.contains (text "Id")) → Q false st w)
    (hid : j.contains odataId → j.contains (text "Id") →
      (∀ sid, j.member (text "Id") ≠ some (.string sid)) → X .typeError st w)
    (hpath : ∀ sid, j.contains odataId → j.member (text "Id") = some (.string sid) →
      (∀ path, j.member odataId ≠ some (.string path)) → X .typeError
      { st with logServiceId := sid } w)
    (hcreate : ∀ sid path, j.member (text "Id") = some (.string sid) →
      j.member odataId = some (.string path) →
      (createFile path j).Ensures (alone perform) (fun created st' w' => if created then
          (createFile (path ++ text "/Entries") (.object [])).Ensures
          (alone perform) Q X st' w' else Q false st' w')
        X { st with logServiceId := sid } w) :
    (processLogService j).Ensures (alone perform) Q X st w := by
  rw [processLogService]
  split_ifs with hodata hservice
  · refine getString_over (fun sid hsid => ?_) (hid hodata hservice)
    rw [ensures_fetch_bind, ensures_put_bind]
    refine getString_over (fun path hstring => ?_) (hpath sid hodata hsid)
    refine ensures_bind.mpr ((hcreate sid path hsid hstring).mono ?_ fun _ _ _ hX => hX)
    intro created st' w' hcreated
    split_ifs with hdone
    · rwa [if_pos hdone] at hcreated
    · rw [if_neg hdone] at hcreated
      exact alone_pure.mpr hcreated
  · exact alone_pure.mpr (hmissing fun h => hservice h.2)
  · exact alone_pure.mpr (hmissing fun h => hodata h.1)

lemma processOtherTypes_over (hmissing : ¬ j.contains odataId → Q false st w)
    (hpath : j.contains odataId → (∀ path, j.member odataId ≠ some (.string path)) →
      X .typeError st w)
    (hcreate : ∀ path, j.member odataId = some (.string path) →
      (createFile path j).Ensures (alone perform) Q X st w) :
    (processOtherTypes j).Ensures (alone perform) Q X st w := by
  rw [processOtherTypes]
  split_ifs with hodata
  · exact getString_over hcreate (hpath hodata)
  · exact alone_pure.mpr (hmissing hodata)

lemma contains_of_schemaType {type : JsonPdrType} (h : schemaType j = some type) :
    j.contains odataType := by
  rw [Json.contains]
  cases hmember : j.member odataType with
  | none =>
    rw [schemaType, hmember] at h
    cases h
  | some value => rfl

lemma publishJson_typed {type : JsonPdrType} :
    cfg.parse jsonStr = .parsed j → schemaType j = some type →
    publishJson cfg jsonStr = match type with
      | .logEntry => processLogEntry cfg j
      | .logService => processLogService j
      | .other => processOtherTypes j := by
  intro hparse hkind
  rw [publishJson, hparse]
  dsimp only
  rw [if_neg (not_not.mpr (contains_of_schemaType hkind)), hkind]
  cases type <;> rfl

lemma publishJson_over (hrejected : Q false st w) (hthrew : ∀ e, e ≠ .emptyQueue → X e st w)
    (htyped : ∀ j type, cfg.parse jsonStr = .parsed j → schemaType j = some type →
      (publishJson cfg jsonStr).Ensures (alone perform) Q X st w) :
    (publishJson cfg jsonStr).Ensures (alone perform) Q X st w := by
  cases hparse : cfg.parse jsonStr with
  | parseError =>
    rw [publishJson, hparse]
    exact alone_pure.mpr hrejected
  | outOfRange =>
    rw [publishJson, hparse]
    exact alone_raise.mpr (hthrew _ (by simp))
  | parsed j =>
    cases hschema : schemaType j with
    | some type => exact htyped j type hparse hschema
    | none =>
      rw [publishJson, hparse]
      dsimp only
      rw [hschema]
      split_ifs
      · exact alone_raise.mpr (hthrew _ (by simp))
      · exact alone_pure.mpr hrejected

def Json.isLogEntry (j : Json) : Bool := schemaType j = some .logEntry

def logEntryText (cfg : StorerConfig) (jsonStr : Text) : Bool :=
  match cfg.parse jsonStr with
  | .parsed j => j.isLogEntry
  | _ => false

lemma isLogEntry_logEntryDocument (id : Text) (hj : j.isLogEntry) :
    (logEntryDocument j id).isLogEntry := by
  have hmember : (logEntryDocument j id).member odataType = j.member odataType := by
    rw [logEntryDocument, Json.member_erase (by decide), Json.member_set (by decide)]
  rw [Json.isLogEntry, schemaType, hmember]
  exact hj

lemma logEntryText_iff :
    logEntryText cfg jsonStr ↔ ∃ j, cfg.parse jsonStr = .parsed j ∧ j.isLogEntry := by
  rw [logEntryText]
  cases cfg.parse jsonStr with
  | parsed j => simp
  | parseError | outOfRange => simp

lemma publishJson_logEntry (hparse : cfg.parse jsonStr = .parsed j) (hj : j.isLogEntry) :
    publishJson cfg jsonStr = processLogEntry cfg j := by
  have hkind : schemaType j = some .logEntry := by simpa [Json.isLogEntry] using hj
  exact publishJson_typed hparse hkind

structure NamesService (cfg : StorerConfig) (jsonStr : Text) (j : Json) (sid : Text) : Prop where
  parse : cfg.parse jsonStr = .parsed j
  kind : schemaType j = some .logService
  odataId : j.contains odataId
  id : j.member (text "Id") = some (.string sid)

lemma publishJson_keeps {I : ExternalStorerFileInterface → W → Prop}
    (htext : logEntryText cfg jsonStr = false)
    (hname : ∀ st w j sid, NamesService cfg jsonStr j sid → I st w →
      I { st with logServiceId := sid } w)
    (hcreate : ∀ st w path j, j.isLogEntry = false → I st w →
      (createFile path j).Ensures (alone perform) (fun _ => I)
      (fun e st' w' => e ≠ .emptyQueue ∧ I st' w') st w)
    (h : I st w) : (publishJson cfg jsonStr).Ensures (alone perform) (fun _ => I)
      (fun e st' w' => e ≠ .emptyQueue ∧ I st' w') st w := by
  refine publishJson_over h (fun e he => ⟨he, h⟩) fun j type hparse hkind => ?_
  rw [logEntryText, hparse] at htext
  rw [publishJson_typed hparse hkind]
  cases type with
  | logEntry =>
    simp [Json.isLogEntry, hkind] at htext
  | logService =>
    have hservice : ∀ sid, j.contains odataId → j.member (text "Id") = some (.string sid) →
        I { st with logServiceId := sid } w :=
      fun sid hodata hsid => hname st w j sid ⟨hparse, hkind, hodata, hsid⟩ h
    refine processLogService_over (fun _ => h) (fun _ _ _ => ⟨by simp, h⟩)
      (fun sid hodata hsid _ => ⟨by simp, hservice sid hodata hsid⟩) fun sid path hsid hpath => ?_
    refine (hcreate _ w path j htext (hservice sid (contains_of_member hpath) hsid)).mono ?_
      fun _ _ _ hX => hX
    intro created st' w' hkept
    split_ifs
    · exact hcreate st' w' _ _ (by decide) hkept
    · exact hkept
  | other =>
    exact processOtherTypes_over (fun _ => h) (fun _ _ => ⟨by simp, h⟩) fun path _ =>
      hcreate st w path j htext h

end SmmErrorLogger.Storer
