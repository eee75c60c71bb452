import SmmErrorLogger.Storer.Steps

/-! The storer over a file handler that answers as it likes: when a publication returns at all. -/

namespace SmmErrorLogger.Storer

open Library.Interaction
open Library.Interaction.Proc

variable {W : Type}

def publishOver (cfg : StorerConfig) (perform : W → (op : StorerOp) → StorerCalls.Ans op × W)
    (state : ExternalStorerFileInterface × W) (jsonStr : Text) :
    Except StorerError Bool × ExternalStorerFileInterface × W :=
  let ((result, st), w) := (publishJson cfg jsonStr state.1).run perform state.2
  (result, st, w)

structure Answers (perform : W → (op : StorerOp) → StorerCalls.Ans op × W) : Prop where
  createFile : ∀ w path j, ∃ success, (perform w (.createFile path j)).1 = FileResult.done success
  removeAll : ∀ w path, ∃ success, (perform w (.removeAll path)).1 = FileResult.done success

def Json.isString : Json → Bool
  | .string _ => true
  | _ => false

def Json.memberIsString (j : Json) (key : Text) : Bool := (j.member key).any isString

def Publishable (cfg : StorerConfig) (st : ExternalStorerFileInterface) (jsonStr : Text) : Prop :=
  match cfg.parse jsonStr with
  | .parseError => True
  | .outOfRange => False
  | .parsed j => j.contains odataType → j.memberIsString odataType ∧
    (schemaType j = some .logEntry → st.logServiceId ≠ [] →
      st.logEntryQueue.length = cfg.maxNumLogEntries.toNat → st.logEntryQueue ≠ []) ∧
    (schemaType j = some .logService → j.contains odataId → j.contains (text "Id") →
      j.memberIsString (text "Id") ∧ j.memberIsString odataId) ∧
    (schemaType j = some .other → j.contains odataId → j.memberIsString odataId)

section Settles

variable {cfg : StorerConfig} {perform : W → (op : StorerOp) → StorerCalls.Ans op × W} {C : Prop}
  {st : ExternalStorerFileInterface} {w : W} {j : Json}

def Settles (perform : W → (op : StorerOp) → StorerCalls.Ans op × W) (C : Prop) (p : StorerM Bool)
    (st : ExternalStorerFileInterface) (w : W) : Prop :=
  p.Ensures (alone perform) (fun _ _ _ => C) (fun _ _ _ => ¬ C) st w

lemma settles_pure {result : Bool} (hC : C) : Settles perform C (pure result) st w :=
  alone_pure.mpr hC

lemma settles_raise {e : StorerError} (hC : ¬ C) : Settles perform C (raise e) st w :=
  alone_raise.mpr hC

lemma Settles.either {p : StorerM Bool} (h : Settles perform C p st w) :
    p.Ensures (alone perform) (fun success _ _ => if success then C else C)
      (fun _ _ _ => ¬ C) st w :=
  Ensures.mono h (fun _ _ _ hC => (ite_self _).mpr hC) fun _ _ _ hX => hX

lemma createFile_settles (h : Answers perform) (hC : C) (path : Text) :
    Settles perform C (createFile path j) st w := by
  refine createFile_over (fun _ _ => hC) fun hthrew => ?_
  obtain ⟨success, hanswer⟩ := h.createFile w path j
  cases hanswer.symm.trans hthrew

lemma removeAll_settles (h : Answers perform) (hC : C) (path : Text) :
    Settles perform C (removeAll path) st w := by
  refine removeAll_over (fun _ _ => hC) fun hthrew => ?_
  obtain ⟨success, hanswer⟩ := h.removeAll w path
  cases hanswer.symm.trans hthrew

lemma memberIsString_iff {key : Text} :
    j.memberIsString key ↔ ∃ t, j.member key = some (.string t) := by
  rw [Json.memberIsString]
  rcases j.member key with - | (_ | _ | _ | _ | _ | _) <;> simp [Json.isString]

lemma not_memberIsString {key : Text} (h : ∀ t, j.member key ≠ some (.string t)) :
    ¬ j.memberIsString key :=
  fun hstring => (memberIsString_iff.mp hstring).elim h

lemma deleteOldest_settles (h : Answers perform)
    (hC : C ↔ (st.logEntryQueue.length = cfg.maxNumLogEntries.toNat → st.logEntryQueue ≠ [])) :
    Settles perform C (deleteOldest cfg) st w := by
  refine deleteOldest_over (fun hroom => hC.mpr fun hfull => absurd hfull hroom)
    (fun hfull hempty hholds => hC.mp hholds hfull hempty) fun oldest rest _ hqueue => ?_
  refine removeAll_settles h (hC.mpr fun _ => ?_) oldest
  rw [hqueue]
  exact List.cons_ne_nil _ _

lemma processLogEntry_settles (h : Answers perform) (hC : C ↔ (st.logServiceId ≠ [] →
      st.logEntryQueue.length = cfg.maxNumLogEntries.toNat → st.logEntryQueue ≠ [])) :
    Settles perform C (processLogEntry cfg j) st w := by
  refine processLogEntry_over (D := fun _ _ => C)
    (fun hnone => hC.mpr fun hservice => absurd hnone hservice)
    (fun hservice => (deleteOldest_settles h ?_).either) fun st' w' hholds =>
      (createFile_settles h hholds _).either
  rw [hC]
  exact ⟨fun h => h hservice, fun h _ => h⟩

lemma processLogService_settles (h : Answers perform)
    (hC : C ↔ (j.contains odataId → j.contains (text "Id") →
      j.memberIsString (text "Id") ∧ j.memberIsString odataId)) :
    Settles perform C (processLogService j) st w := by
  refine processLogService_over
    (fun hmissing => hC.mpr fun hodata hid => absurd ⟨hodata, hid⟩ hmissing)
    (fun hodata hid hother hholds => not_memberIsString hother (hC.mp hholds hodata hid).1)
    (fun sid hodata hid hother hholds =>
      not_memberIsString hother (hC.mp hholds hodata (contains_of_member hid)).2)
        fun sid path hid hpath => ?_
  have hholds : C := hC.mpr fun _ _ =>
    ⟨memberIsString_iff.mpr ⟨sid, hid⟩, memberIsString_iff.mpr ⟨path, hpath⟩⟩
  refine Ensures.mono (createFile_settles h hholds path)
    (fun created st' w' _ => ?_) fun _ _ _ hX => hX
  split_ifs
  · exact createFile_settles h hholds _
  · exact hholds

lemma processOtherTypes_settles (h : Answers perform)
    (hC : C ↔ (j.contains odataId → j.memberIsString odataId)) :
    Settles perform C (processOtherTypes j) st w :=
  processOtherTypes_over (fun hmissing => hC.mpr fun hodata => absurd hodata hmissing)
    (fun hodata hother hholds => not_memberIsString hother (hC.mp hholds hodata)) fun path hpath =>
      createFile_settles h (hC.mpr fun _ => memberIsString_iff.mpr ⟨path, hpath⟩) path

lemma memberIsString_of_schemaType {type : JsonPdrType} (h : schemaType j = some type) :
    j.memberIsString odataType := by
  rw [schemaType] at h
  cases ht : (j.member odataType).bind Json.getString with
  | none =>
    rw [ht] at h
    cases h
  | some t => exact memberIsString_iff.mpr ⟨t, member_getString.mp ht⟩

lemma schemaType_isSome (h : j.memberIsString odataType) : (schemaType j).isSome := by
  obtain ⟨t, ht⟩ := memberIsString_iff.mp h
  rw [schemaType, member_getString.mpr ht]
  dsimp only
  split_ifs <;> rfl

lemma publishJson_settles (h : Answers perform) (jsonStr : Text) :
    Settles perform (Publishable cfg st jsonStr) (publishJson cfg jsonStr) st w := by
  rw [publishJson, Publishable]
  cases hparse : cfg.parse jsonStr with
  | parseError => exact settles_pure trivial
  | outOfRange => exact settles_raise not_false
  | parsed j =>
    dsimp only
    split_ifs with htype
    · cases hschema : schemaType j with
      | none =>
        apply settles_raise
        intro hholds
        have hsome := schemaType_isSome (hholds htype).1
        rw [hschema] at hsome
        cases hsome
      | some type =>
        have hstring := memberIsString_of_schemaType hschema
        cases type with
        | logEntry => exact processLogEntry_settles h (by simp [htype, hstring])
        | logService => exact processLogService_settles h (by simp [htype, hstring])
        | other => exact processOtherTypes_settles h (by simp [htype, hstring])
    · exact settles_pure fun htype' => absurd htype' htype

end Settles

theorem publishJson_returns_iff (cfg : StorerConfig)
    (perform : W → (op : StorerOp) → StorerCalls.Ans op × W)
    (h : Answers perform) (st : ExternalStorerFileInterface) (w : W) (jsonStr : Text) :
    (∃ result, (publishOver cfg perform (st, w) jsonStr).1 = .ok result) ↔
      Publishable cfg st jsonStr := by
  have hsettles : Settles perform (Publishable cfg st jsonStr) (publishJson cfg jsonStr) st w :=
    publishJson_settles h jsonStr
  rcases hrun : (publishJson cfg jsonStr st).run perform w with ⟨⟨e | result, st'⟩, w'⟩
  · simp only [publishOver, hrun]
    exact iff_of_false (by simp) (Ensures.ends hsettles hrun)
  · simp only [publishOver, hrun]
    exact iff_of_true ⟨result, rfl⟩ (Ensures.ends hsettles hrun)

/-! Two LogServices, a log entry, and a document whose type is a number. -/

def serviceText : Text :=
  text "\x7b\"@odata.id\":\"/logs\",\"@odata.type\":\"#LogService\",\"Id\":\"S\"\x7d"

def entryText : Text := text "\x7b\"@odata.type\":\"#LogEntry\"\x7d"

def nestedText : Text := text "\x7b\"@odata.id\":\"/nested\",\"@odata.type\":\"#LogService\"," ++
  text "\"Id\":\"S/Entries/00000000-0000-4000-8000-000000000000\"\x7d"

def numberText : Text := text "\x7b\"@odata.type\":5\x7d"

def sampleService : Json := .object [
  (text "@odata.id", .string (text "/logs")), (text "@odata.type", .string (text "#LogService")),
  (text "Id", .string (text "S"))]

def nestedService : Json := .object [
  (text "@odata.id", .string (text "/nested")), (text "@odata.type", .string (text "#LogService")),
  (text "Id", .string (text "S/Entries/00000000-0000-4000-8000-000000000000"))]

def sampleEntry : Json := .object [(text "@odata.type", .string (text "#LogEntry"))]

def sampleParse (jsonStr : Text) : ParseResult :=
  if jsonStr = serviceText then .parsed sampleService
  else if jsonStr = entryText then .parsed sampleEntry
  else if jsonStr = nestedText then .parsed nestedService
  else if jsonStr = numberText then .parsed (.object [(text "@odata.type", .number (text "5"))])
  else .parseError

lemma sampleParse_service : sampleParse serviceText = .parsed sampleService := if_pos rfl

lemma sampleParse_entry : sampleParse entryText = .parsed sampleEntry :=
  (if_neg (by decide +kernel)).trans (if_pos rfl)

def sampleConfig : StorerConfig where
  rootPath := []
  maxNumSavedLogEntries := 0
  maxNumLogEntries := 1
  parse := sampleParse

def sampleUuid (n : ℕ) : Text :=
  text "00000000-0000-4000-8000-00000000000" ++ [UInt8.ofNat (48 + n)]

def obliging (w : Unit) : (op : StorerOp) → StorerCalls.Ans op × Unit
  | .createFile _ _ => (FileResult.done true, w)
  | .removeAll _ => (FileResult.done true, w)
  | .createEntry _ => ((), w)
  | .randomGen => (sampleUuid 0, w)

lemma obliging_answers : Answers obliging := ⟨fun _ _ _ => ⟨true, rfl⟩, fun _ _ => ⟨true, rfl⟩⟩

theorem publishJson_throws :
    ¬ ∀ (cfg : StorerConfig) (perform : Unit → (op : StorerOp) → StorerCalls.Ans op × Unit),
    Answers perform → ∀ (st : ExternalStorerFileInterface) (w : Unit) (jsonStr : Text),
      ∃ result, (publishOver cfg perform (st, w) jsonStr).1 = .ok result := by
  intro hall
  obtain ⟨result, hresult⟩ := hall sampleConfig obliging obliging_answers .fresh () numberText
  have hthrown : (publishOver sampleConfig obliging (.fresh, ()) numberText).1 =
      .error .typeError := by
    decide +kernel
  rw [hthrown] at hresult
  cases hresult

theorem publishJson_returns_iff_number :
    (∃ result, (publishOver sampleConfig obliging (.fresh, ()) numberText).1 = .ok result) ↔
      Publishable sampleConfig .fresh numberText :=
  publishJson_returns_iff sampleConfig obliging obliging_answers .fresh () numberText

end SmmErrorLogger.Storer
