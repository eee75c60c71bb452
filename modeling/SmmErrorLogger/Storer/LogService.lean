import SmmErrorLogger.Library.Journal
import SmmErrorLogger.Library.Machine
import SmmErrorLogger.Storer.Publication
import SmmErrorLogger.Storer.Storage

namespace SmmErrorLogger.Storer

open Library Library.Interaction
open Library.Interaction.Proc

variable {W : Type}

def ServiceCreated (perform : W → (op : StorerOp) → StorerCalls.Ans op × W) (w : W) (j : Json) :
    Prop :=
  ∃ path, j.member odataId = some (.string path) ∧
    (perform w (.createFile path j)).1 = FileResult.done true ∧
    (perform (perform w (.createFile path j)).2
      (.createFile (path ++ text "/Entries") (.object []))).1 = FileResult.done true

def Establishes (cfg : StorerConfig) (perform : W → (op : StorerOp) → StorerCalls.Ans op × W)
    (state : ExternalStorerFileInterface × W) (jsonStr : Text) : Prop :=
  ∀ j sid, NamesService cfg jsonStr j sid → sid = [] ∨ sid = state.1.logServiceId ∨
    ServiceCreated perform state.2 j

def PublishedBefore (cfg : StorerConfig) (perform : W → (op : StorerOp) → StorerCalls.Ans op × W)
    (state : ExternalStorerFileInterface × W) (jsonStrs : List Text) (sid : Text) : Prop :=
  ∃ before jsonStr after j, jsonStrs = before ++ jsonStr :: after ∧ NamesService cfg jsonStr j sid ∧
    let state := (Machine.run (publishOver cfg perform) state before).2
    (publishOver cfg perform state jsonStr).1 = .ok true ∧ ServiceCreated perform state.2 j

section

variable {cfg : StorerConfig} {perform : W → (op : StorerOp) → StorerCalls.Ans op × W}
  {state : ExternalStorerFileInterface × W} {jsonStrs : List Text} {jsonStr sid : Text}

lemma PublishedBefore.snoc (h : PublishedBefore cfg perform state jsonStrs sid) :
    PublishedBefore cfg perform state (jsonStrs ++ [jsonStr]) sid := by
  obtain ⟨before, service, after, j, rfl, hservice⟩ := h
  exact ⟨before, service, after ++ [jsonStr], j, by simp, hservice⟩

variable {Q : Bool → ExternalStorerFileInterface → W → Prop}
  {X : StorerError → ExternalStorerFileInterface → W → Prop} {st : ExternalStorerFileInterface}
  {w : W} {j : Json}

lemma deleteOldest_service : (deleteOldest cfg).Ensures (alone perform)
    (fun _ st' _ => st'.logServiceId = st.logServiceId)
      (fun _ st' _ => st'.logServiceId = st.logServiceId) st w :=
  deleteOldest_over (fun _ => rfl) (fun _ _ => rfl) fun _ _ _ _ =>
    removeAll_over (fun _ _ => rfl) fun _ => rfl

lemma processLogEntry_service : (processLogEntry cfg j).Ensures (alone perform)
    (fun _ st' _ => st'.logServiceId = st.logServiceId)
      (fun _ st' _ => st'.logServiceId = st.logServiceId) st w := by
  refine processLogEntry_over (D := fun st' _ => st'.logServiceId = st.logServiceId) (fun _ => rfl)
    (fun _ => deleteOldest_service.mono (fun _ _ _ hsame => (ite_self _).mpr hsame)
      fun _ _ _ hX => hX) ?_
  intro st' w' hsame
  refine createFile_over (fun created _ => ?_) fun _ => hsame
  split_ifs
  · exact pushed_logServiceId.trans hsame
  · exact hsame

lemma processLogService_created (hid : j.member (text "Id") = some (.string sid))
    (hcreated : ServiceCreated perform w j) : (processLogService j).Ensures (alone perform)
      (fun result _ _ => result = true) (fun _ _ _ => False) st w := by
  obtain ⟨path, hpath, hservice, hentries⟩ := hcreated
  refine processLogService_over
    (fun hmissing => hmissing ⟨contains_of_member hpath, contains_of_member hid⟩ |>.elim)
    (fun _ _ hother => hother sid hid) (fun _ _ _ hother => hother path hpath)
      fun sid' path' _ hpath' => ?_
  obtain rfl : path = path' := by simpa using hpath.symm.trans hpath'
  refine createFile_over (fun success hsuccess => ?_) fun hthrew => by
    cases hservice.symm.trans hthrew
  obtain rfl : true = success := FileResult.done.inj (hservice.symm.trans hsuccess)
  rw [if_pos rfl]
  refine createFile_over (fun success' hsuccess' => ?_) fun hthrew => by
    cases hentries.symm.trans hthrew
  exact (FileResult.done.inj (hentries.symm.trans hsuccess')).symm

abbrev journaled (perform : W → (op : StorerOp) → StorerCalls.Ans op × W) :
    W × List (Event StorerCalls) → (op : StorerOp) →
      StorerCalls.Ans op × W × List (Event StorerCalls) :=
  journal (S := StorerCalls) perform

def StoredUnder (sid : Text) (j : Json) (calls calls' : List (Event StorerCalls)) : Prop :=
  ∃ before id, calls <+: before ∧
    before ++ [⟨.createFile (logEntryPath sid id) (logEntryDocument j id),
      FileResult.done true⟩] <+: calls'

lemma createFile_journal {path : Text}
    {Q : Bool → ExternalStorerFileInterface → W × List (Event StorerCalls) → Prop}
    {X : StorerError → ExternalStorerFileInterface → W × List (Event StorerCalls) → Prop}
    {w : W × List (Event StorerCalls)}
    (hdone : ∀ success w',
      Q success st (w', w.2 ++ [⟨.createFile path j, FileResult.done success⟩]))
    (hthrew : ∀ w', X .filesystemError st (w', w.2 ++ [⟨.createFile path j, FileResult.threw⟩])) :
    (createFile path j).Ensures (alone (journaled perform)) Q X st w := by
  apply call_journal (S := StorerCalls) perform
  intro result w'
  cases result with
  | done success => exact alone_pure.mpr (hdone success w')
  | threw => exact alone_raise.mpr (hthrew _)

lemma processLogEntry_stores {w : W × List (Event StorerCalls)} :
    (processLogEntry cfg j).Ensures (alone (journaled perform))
      (fun result st' w' => st'.logServiceId = st.logServiceId ∧
        (result = true → st.logServiceId ≠ [] ∧ StoredUnder st.logServiceId j w.2 w'.2))
      (fun _ st' _ => st'.logServiceId = st.logServiceId) st w := by
  let Deleted (st' : ExternalStorerFileInterface) (w' : W × List (Event StorerCalls)) : Prop :=
    st.logServiceId ≠ [] ∧ st'.logServiceId = st.logServiceId ∧ w.2 <+: w'.2
  refine processLogEntry_over (D := Deleted) (fun _ => ⟨rfl, by simp⟩) (fun hservice => ?_) ?_
  · refine (deleteOldest_service.grows).mono (fun deleted st' w' h => ?_) (fun _ _ _ hX => hX.1)
    split_ifs
    · exact ⟨hservice, h⟩
    · exact ⟨h.1, by simp⟩
  · rintro st' w' ⟨hservice, hsame, hcalls⟩
    refine createFile_journal (fun success w₂ => ?_) (fun _ => hsame)
    cases success with
    | false => exact ⟨hsame, by simp⟩
    | true =>
      let id := (perform w'.1 .randomGen).1
      refine ⟨pushed_logServiceId.trans hsame,
        fun _ => ⟨hservice, w'.2 ++ [⟨.randomGen, id⟩], id, ?_, ?_⟩⟩
      · exact hcalls.trans (List.prefix_append _ _)
      · exact List.prefix_append _ _

lemma publishOver_ends (h : (publishJson cfg jsonStr).Ensures (alone perform) Q X state.1 state.2) :
    Ends Q X ((publishOver cfg perform state jsonStr).1,
      (publishOver cfg perform state jsonStr).2.1)
      (publishOver cfg perform state jsonStr).2.2 := by
  rcases hrun : (publishJson cfg jsonStr state.1).run perform state.2 with ⟨⟨result, st⟩, w⟩
  simp only [publishOver, hrun]
  exact h.ends hrun

lemma publishOver_names (cfg : StorerConfig)
    (perform : W → (op : StorerOp) → StorerCalls.Ans op × W)
    (state : ExternalStorerFileInterface × W) (jsonStr : Text) :
    (publishOver cfg perform state jsonStr).2.1.logServiceId = state.1.logServiceId ∨
      ∃ j, NamesService cfg jsonStr j (publishOver cfg perform state jsonStr).2.1.logServiceId := by
  let Named (st : ExternalStorerFileInterface) (_ : W) : Prop :=
    st.logServiceId = state.1.logServiceId ∨ ∃ j, NamesService cfg jsonStr j st.logServiceId
  have hnames : (publishJson cfg jsonStr).Ensures (alone perform) (fun _ => Named) (fun _ => Named)
      state.1 state.2 := by
    by_cases htext : logEntryText cfg jsonStr
    · obtain ⟨j, hparse, hj⟩ := logEntryText_iff.mp htext
      rw [publishJson_logEntry hparse hj]
      exact processLogEntry_service.mono (fun _ _ _ => Or.inl) (fun _ _ _ => Or.inl)
    · refine (publishJson_keeps (I := Named) (by simpa using htext)
        (fun _ _ j _ hservice _ => Or.inr ⟨j, hservice⟩)
        (fun st w path j _ h => ?_) (Or.inl rfl)).mono (fun _ _ _ hQ => hQ) fun _ _ _ hX => hX.2
      exact createFile_over (fun _ _ => h) fun _ => ⟨by simp, h⟩
  exact ends_same.mp (publishOver_ends hnames)

lemma publishOver_created (hnames : NamesService cfg jsonStr j sid)
    (hcreated : ServiceCreated perform state.2 j) :
    (publishOver cfg perform state jsonStr).1 = .ok true := by
  have hens := @processLogService_created _ _ _ state.1 _ _ hnames.id hcreated
  rw [← show publishJson cfg jsonStr = processLogService j from
    publishJson_typed hnames.parse hnames.kind] at hens
  have hends := publishOver_ends hens
  rcases hresult : (publishOver cfg perform state jsonStr).1 with e | result
  · rw [hresult] at hends
    exact hends.elim
  · rw [hresult] at hends
    exact congrArg _ hends

end

theorem accepted_underLogService (cfg : StorerConfig)
    (perform : W → (op : StorerOp) → StorerCalls.Ans op × W)
    (w : W) (jsonStrs : List Text) (h : Machine.Along (publishOver cfg (journaled perform))
      (Establishes cfg (journaled perform)) (.fresh, w, []) jsonStrs) :
    let state := (Machine.run (publishOver cfg (journaled perform)) (.fresh, w, []) jsonStrs).2
    let Published := PublishedBefore cfg (journaled perform) (.fresh, w, []) jsonStrs
    (state.1.logServiceId ≠ [] → Published state.1.logServiceId) ∧
      ∀ jsonStr j, cfg.parse jsonStr = .parsed j → j.isLogEntry →
        (publishOver cfg (journaled perform) state jsonStr).1 = .ok true →
        ∃ sid, Published sid ∧
          StoredUnder sid j state.2.2
          (publishOver cfg (journaled perform) state jsonStr).2.2.2 := by
  intro state Published
  have hcurrent : state.1.logServiceId ≠ [] → Published state.1.logServiceId := by
    refine Machine.run_history (I := fun is _ state => state.1.logServiceId ≠ [] →
      PublishedBefore cfg (journaled perform) (.fresh, w, []) is state.1.logServiceId)
      (absurd rfl) ?_ h
    intro is jsonStr run hestablishes ih hne
    rcases publishOver_names cfg (journaled perform) run.2 jsonStr with
      hsame | ⟨j, hnames⟩
    · rw [hsame] at hne ⊢
      exact (ih hne).snoc
    · rcases hestablishes j _ hnames with hempty | hsame | hcreated
      · exact absurd hempty hne
      · rw [hsame] at hne ⊢
        exact (ih hne).snoc
      · exact ⟨is, jsonStr, [], j, rfl, hnames, publishOver_created hnames hcreated, hcreated⟩
  refine ⟨hcurrent, fun jsonStr j hparse hentry haccepted => ?_⟩
  have hens : (processLogEntry cfg j).Ensures (alone (journaled perform)) _ _ state.1 state.2 :=
    processLogEntry_stores
  have hends := publishOver_ends (publishJson_logEntry hparse hentry ▸ hens)
  rw [haccepted] at hends
  obtain ⟨hservice, hstored⟩ := hends.2 rfl
  exact ⟨state.1.logServiceId, hcurrent hservice, hstored⟩

/-! A handler that creates no file under `/logs`, if it is a failing one. -/

def logsHandler (fails : Bool) (w : Unit) : (op : StorerOp) → StorerCalls.Ans op × Unit
  | .createFile path _ => (FileResult.done ¬ (fails ∧ text "/logs" <+: path), w)
  | .removeAll _ => (FileResult.done true, w)
  | .createEntry _ => ((), w)
  | .randomGen => (sampleUuid 0, w)

theorem accepted_withoutLogService :
    let state :=
      (Machine.run (publishOver sampleConfig (journaled (logsHandler true))) (.fresh, (), [])
        [serviceText]).2
    (publishOver sampleConfig (journaled (logsHandler true)) state entryText).1 = .ok true ∧
      ∀ sid, ¬ PublishedBefore sampleConfig (journaled (logsHandler true))
      (.fresh, (), []) [serviceText] sid := by
  refine ⟨by decide +kernel, ?_⟩
  rintro sid ⟨before, jsonStr, after, j, hsplit, -, hresult, -⟩
  obtain rfl : before = [] := by
    have hlength := congrArg List.length hsplit
    simp only [List.length_append, List.length_cons, List.length_nil] at hlength
    exact List.length_eq_zero_iff.mp (by omega)
  obtain rfl : serviceText = jsonStr := (List.cons.inj hsplit).1
  have hfalse : (publishOver sampleConfig (journaled (logsHandler true))
    (.fresh, (), []) serviceText).1 =
      .ok false := by decide +kernel
  rw [Machine.run_nil, hfalse] at hresult
  cases hresult

theorem accepted_underLogService_sample :
    let state :=
      (Machine.run (publishOver sampleConfig (journaled (logsHandler false))) (.fresh, (), [])
        [serviceText]).2
    (publishOver sampleConfig (journaled (logsHandler false)) state entryText).1 = .ok true ∧
      ∃ sid, PublishedBefore sampleConfig (journaled (logsHandler false))
      (.fresh, (), []) [serviceText] sid := by
  have hcreated : ServiceCreated (journaled (logsHandler false)) ((), []) sampleService :=
    ⟨text "/logs", rfl, by decide +kernel, by decide +kernel⟩
  have hstep : Machine.Along (publishOver sampleConfig (journaled (logsHandler false)))
      (Establishes sampleConfig (journaled (logsHandler false)))
      (.fresh, (), []) [serviceText] := by
    refine ⟨?_, trivial⟩
    intro j sid hnames
    obtain rfl := ParseResult.parsed.inj (hnames.parse.symm.trans sampleParse_service)
    exact Or.inr (Or.inr hcreated)
  have haccepted : (publishOver sampleConfig (journaled (logsHandler false))
      (Machine.run (publishOver sampleConfig (journaled (logsHandler false)))
        (.fresh, (), []) [serviceText]).2
      entryText).1 = .ok true := by decide +kernel
  obtain ⟨sid, hpublished, -⟩ :=
    (accepted_underLogService sampleConfig (logsHandler false) () [serviceText] hstep).2
    entryText sampleEntry sampleParse_entry (by decide +kernel) haccepted
  exact ⟨haccepted, sid, hpublished⟩

end SmmErrorLogger.Storer
