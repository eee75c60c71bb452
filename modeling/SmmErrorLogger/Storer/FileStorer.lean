import SmmErrorLogger.Rde.Handler
import SmmErrorLogger.Storer.Containment
import SmmErrorLogger.Storer.LogService

/-! The storer over the file handler and the file system, and what a publication that returns true
has written. -/

namespace SmmErrorLogger.Storer

open Library.Interaction Library.Paths
open Library.Interaction.Proc

structure Outside (V : Type) where
  fs : V → (op : FsOp) → FsCalls.Ans op × V
  uuid : V → Text × V

abbrev Files (V : Type) := V × List (Event FsCalls)

def FileResult.ofWriter : Except StorerError Bool → FileResult
  | .ok success => .done success
  | .error _ => .threw

variable {V : Type} (writer : ExternalStorerFileWriter) (outside : Outside V)

def handleFiles (w : Files V) : (op : StorerOp) → StorerCalls.Ans op × Files V
  | .createFile folderPath jsonPdr =>
    let ((result, _), w) :=
      (writer.createFile folderPath jsonPdr ()).run (journal (S := FsCalls) outside.fs) w
    (FileResult.ofWriter result, w)
  | .removeAll filePath =>
    let ((result, _), w) := (writer.removeAll filePath ()).run (journal (S := FsCalls) outside.fs) w
    (FileResult.ofWriter result, w)
  | .createEntry _ => ((), w)
  | .randomGen => ((outside.uuid w.1).1, (outside.uuid w.1).2, w.2)

/-- The texts that were to be published are recorded too. -/
structure FileStorer (V : Type) where
  storer : ExternalStorerFileInterface
  files : Files V
  texts : List Text

def fileStorer (cfg : StorerConfig) : Rde.ExternalStorerInterface (FileStorer V) StorerError where
  publishJson jsonStr s :=
    let (result, storer, files) :=
      publishOver cfg (handleFiles writer outside) (s.storer, s.files) jsonStr
    (result, ⟨storer, files, s.texts ++ [jsonStr]⟩)

def failed : Event FsCalls → Bool
  | ⟨.isDirectory _, result⟩ => result = FileResult.threw
  | ⟨.createDirectories _, result⟩ => result ≠ FileResult.done true
  | ⟨.writeFile _ _, written⟩ => !written
  | ⟨.removeAll _, removed⟩ => !removed

def isWrite : Event FsCalls → Bool
  | ⟨.writeFile _ _, _⟩ => true
  | _ => false

def OnlyWritesFail (calls : List (Event FsCalls)) : Prop := ∀ e ∈ calls, failed e → isWrite e

def allWritten (calls : List (Event FsCalls)) : Bool := calls.all fun e => !(isWrite e && failed e)

def StoredAs (j doc : Json) : Prop :=
  if j.isLogEntry then ∃ id, doc = logEntryDocument j id else doc = j

structure StoredCompletely (j : Json) (calls : List (Event FsCalls)) : Prop where
  written : ∃ path doc, StoredAs j doc ∧ (⟨.writeFile path doc, true⟩ : Event FsCalls) ∈ calls ∧
    writer.Inside path ∧ (pieces (untilNul path)).getLast? = some (text "index.json")
  complete : ∀ e ∈ calls, failed e = false

def Destination (st : ExternalStorerFileInterface) (j : Json) (path : Text) : Prop :=
  if j.isLogEntry then ∃ id, 0 ∉ id ∧ path = logEntryPath st.logServiceId id
  else j.member odataId = some (.string path)

def nulFree (st : ExternalStorerFileInterface) (j : Json) : Bool :=
  if j.isLogEntry then 0 ∉ st.logServiceId
  else match (j.member odataId).bind Json.getString with
    | some path => 0 ∉ path
    | none => true

structure Writes (path : Text) (doc : Json) (calls : List (Event FsCalls)) : Prop where
  valid : ExternalStorerFileWriter.isValidPath path
  written : ∃ written,
    (⟨.writeFile (appendPath (writer.fullPath path) (text "index.json")) doc, written⟩ :
      Event FsCalls) ∈ calls

variable {writer outside} {path : Text} {doc j : Json} {calls : List (Event FsCalls)} {w : Files V}

def Since (w w' : Files V) (R : List (Event FsCalls) → Prop) : Prop :=
  ∃ calls, w'.2 = w.2 ++ calls ∧ OnlyWritesFail calls ∧ R calls

lemma Since.refl (w : Files V) : Since w w fun _ => True :=
  ⟨[], by simp, by simp [OnlyWritesFail], trivial⟩

lemma Since.call {w₁ : Files V} {R R' : List (Event FsCalls) → Prop} {op : FsOp}
    {ans : FsCalls.Ans op} {v : V}
    (h : Since w w₁ R) (hfailed : failed (⟨op, ans⟩ : Event FsCalls) →
      isWrite (⟨op, ans⟩ : Event FsCalls))
    (hR : ∀ calls, R calls → R' (calls ++ [⟨op, ans⟩])) : Since w (v, w₁.2 ++ [⟨op, ans⟩]) R' := by
  obtain ⟨calls, heq, hwrites, hcalls⟩ := h
  refine ⟨calls ++ [⟨op, ans⟩], ?_, ?_, hR calls hcalls⟩
  · rw [heq, List.append_assoc]
  · exact List.forall_mem_append.mpr ⟨hwrites, List.forall_mem_singleton.mpr hfailed⟩

lemma Since.trans {w₁ w₂ : Files V} {R R' R'' : List (Event FsCalls) → Prop} (h : Since w w₁ R)
    (h' : Since w₁ w₂ R')
    (hR : ∀ before after, R before → R' after → R'' (before ++ after)) : Since w w₂ R'' := by
  obtain ⟨before, heq, hwrites, hbefore⟩ := h
  obtain ⟨after, heq', hwrites', hafter⟩ := h'
  refine ⟨before ++ after, ?_, List.forall_mem_append.mpr ⟨hwrites, hwrites'⟩,
    hR _ _ hbefore hafter⟩
  rw [heq', heq, List.append_assoc]

lemma toWriter_journal {result : FileResult} {Q : Bool → Unit → Files V → Prop}
    (hdone : ∀ success, result = .done success → Q success () w) :
    (FileResult.toWriter result).Ensures (alone (journal (S := FsCalls) outside.fs)) Q
      (fun _ _ _ => True) () w := by
  cases result with
  | done success => exact alone_pure.mpr (hdone success rfl)
  | threw => exact alone_raise.mpr trivial

lemma createFolder_since :
    (writer.createFolder path).Ensures (alone (journal (S := FsCalls) outside.fs))
    (fun created _ w' => created = true → ExternalStorerFileWriter.isValidPath path ∧
      Since w w' fun _ => True)
    (fun _ _ _ => True) () w := by
  rw [ExternalStorerFileWriter.createFolder]
  split_ifs with hvalid
  · refine call_journal (S := FsCalls) outside.fs fun isDirectory v =>
      ensures_bind.mpr (toWriter_journal fun found hfound => ?_)
    have hsince : Since w
      (v, w.2 ++ [(⟨.isDirectory (writer.fullPath path), isDirectory⟩ : Event FsCalls)])
        fun _ => True := (Since.refl w).call (by simp [failed, hfound]) fun _ _ => trivial
    split_ifs
    · exact alone_pure.mpr fun _ => ⟨hvalid, hsince⟩
    · refine call_journal (S := FsCalls) outside.fs fun created v' =>
        toWriter_journal fun success hsuccess hcreated => ?_
      subst hcreated
      exact ⟨hvalid, hsince.call (by simp [failed, hsuccess]) fun _ _ => trivial⟩
  · exact alone_pure.mpr (by simp)

lemma createFile_since :
    (writer.createFile path doc).Ensures (alone (journal (S := FsCalls) outside.fs))
    (fun created _ w' => created = true → Since w w' (Writes writer path doc))
      (fun _ _ _ => True) () w := by
  rw [ExternalStorerFileWriter.createFile, ensures_bind]
  refine createFolder_since.mono (fun created _ w₁ hcreated => ?_) (fun _ _ _ hX => hX)
  split_ifs with hdone
  · obtain ⟨hvalid, hsince⟩ := hcreated hdone
    refine call_journal (S := FsCalls) outside.fs fun written v => alone_pure.mpr fun _ => ?_
    exact hsince.call (fun _ => rfl) fun calls _ =>
      ⟨hvalid, written, List.mem_append_right _ List.mem_cons_self⟩
  · exact alone_pure.mpr (by simp)

lemma removeAll_since : (writer.removeAll path).Ensures (alone (journal (S := FsCalls) outside.fs))
    (fun removed _ w' => removed = true → Since w w' fun _ => True) (fun _ _ _ => True) () w := by
  rw [ExternalStorerFileWriter.removeAll]
  split_ifs
  · refine call_journal (S := FsCalls) outside.fs fun removed v => alone_pure.mpr fun hremoved => ?_
    exact (Since.refl w).call (by simp [failed, show removed = true from hremoved]) fun _ _ =>
      trivial
  · exact alone_pure.mpr (by simp)

variable {st : ExternalStorerFileInterface} {cfg : StorerConfig}

lemma ofWriter_eq_done {result : Except StorerError Bool} {success : Bool}
    (h : FileResult.ofWriter result = .done success) : result = .ok success := by
  cases result with
  | error e => cases h
  | ok b => exact congrArg Except.ok (FileResult.done.inj h)

lemma createFile_handled : (createFile path doc).Ensures (alone (handleFiles writer outside))
    (fun created _ w' => created = true → Since w w' (Writes writer path doc))
      (fun _ _ _ => True) st w := by
  refine createFile_over (fun success hsuccess hcreated => ?_) (fun _ => trivial)
  subst hcreated
  rcases hrun : (writer.createFile path doc ()).run (journal (S := FsCalls) outside.fs) w
    with ⟨⟨result, u⟩, w'⟩
  rw [handleFiles, hrun] at hsuccess ⊢
  obtain rfl := ofWriter_eq_done hsuccess
  exact Ensures.ends createFile_since hrun rfl

lemma removeAll_handled : (removeAll path).Ensures (alone (handleFiles writer outside))
    (fun removed _ w' => removed = true → Since w w' fun _ => True) (fun _ _ _ => True) st w := by
  refine removeAll_over (fun success hsuccess hremoved => ?_) (fun _ => trivial)
  subst hremoved
  rcases hrun : (writer.removeAll path ()).run (journal (S := FsCalls) outside.fs) w
    with ⟨⟨result, u⟩, w'⟩
  rw [handleFiles, hrun] at hsuccess ⊢
  obtain rfl := ofWriter_eq_done hsuccess
  exact Ensures.ends removeAll_since hrun rfl

def Puts (writer : ExternalStorerFileWriter) (st : ExternalStorerFileInterface) (j : Json)
    (w w' : Files V) : Prop :=
  ∃ path doc, Destination st j path ∧ StoredAs j doc ∧ Since w w' (Writes writer path doc)

lemma deleteOldest_handled : (deleteOldest cfg).Ensures (alone (handleFiles writer outside))
    (fun deleted _ w' => deleted = true → Since w w' fun _ => True) (fun _ _ _ => True) st w :=
  deleteOldest_over (fun _ _ => .refl w) (fun _ _ => trivial) fun _ _ _ _ => removeAll_handled

lemma processLogEntry_handled (huuid : ∀ v, 0 ∉ (outside.uuid v).1) (hj : j.isLogEntry) :
    (processLogEntry cfg j).Ensures (alone (handleFiles writer outside))
      (fun result _ w' => result = true → Puts writer st j w w') (fun _ _ _ => True) st w := by
  refine processLogEntry_over (D := fun _ w' => Since w w' fun _ => True) (fun _ => by simp)
    (fun _ => deleteOldest_handled.mono (fun deleted _ w' h => ?_) fun _ _ _ hX => hX)
    fun st₁ w₁ hsince => ?_
  · split_ifs with hdone
    · exact h hdone
    · simp
  refine createFile_handled.mono (fun created st₂ w₂ hcreated => ?_) fun _ _ _ hX => hX
  split_ifs with hdone
  · intro _
    let id := (outside.uuid w₁.1).1
    -- the generator and the notifier do not call the file system
    have hwrites : Since w₁ w₂
        (Writes writer (logEntryPath st.logServiceId id) (logEntryDocument j id)) :=
      hcreated hdone
    refine ⟨logEntryPath st.logServiceId id, logEntryDocument j id, ?_, ?_, hsince.trans hwrites ?_⟩
    · rw [Destination, if_pos hj]
      exact ⟨id, huuid _, rfl⟩
    · rw [StoredAs, if_pos hj]
      exact ⟨id, rfl⟩
    · rintro before after - ⟨hvalid, written, hmem⟩
      exact ⟨hvalid, written, List.mem_append_right _ hmem⟩
  · simp

lemma processLogService_handled (hj : j.isLogEntry = false) :
    (processLogService j).Ensures (alone (handleFiles writer outside))
      (fun result _ w' => result = true → Puts writer st j w w') (fun _ _ _ => True) st w := by
  refine processLogService_over (fun _ => by simp) (fun _ _ _ => trivial) (fun _ _ _ _ => trivial)
    fun sid path _ hpath =>
    createFile_handled.mono (fun created st₁ w₁ hcreated => ?_) fun _ _ _ hX => hX
  split_ifs with hdone
  · refine createFile_handled.mono (fun result st₂ w₂ hentries hresult => ?_) fun _ _ _ hX => hX
    refine ⟨path, j, ?_, ?_, (hcreated hdone).trans (hentries hresult) ?_⟩
    · simpa [Destination, hj] using hpath
    · simp [StoredAs, hj]
    · rintro before after ⟨hvalid, written, hmem⟩ -
      exact ⟨hvalid, written, List.mem_append_left _ hmem⟩
  · simp

lemma processOtherTypes_handled (hj : j.isLogEntry = false) :
    (processOtherTypes j).Ensures (alone (handleFiles writer outside))
      (fun result _ w' => result = true → Puts writer st j w w') (fun _ _ _ => True) st w := by
  refine processOtherTypes_over (fun _ => by simp) (fun _ _ => trivial) fun path hpath =>
    createFile_handled.mono (fun result _ _ hcreated hresult => ⟨path, j, ?_, ?_, hcreated hresult⟩)
      fun _ _ _ hX => hX
  · simpa [Destination, hj] using hpath
  · simp [StoredAs, hj]

theorem publishJson_handled (huuid : ∀ v, 0 ∉ (outside.uuid v).1) {jsonStr : Text} :
    (publishJson cfg jsonStr).Ensures (alone (handleFiles writer outside))
      (fun result _ w' => result = true → ∃ j, cfg.parse jsonStr = .parsed j ∧
        Puts writer st j w w')
      (fun _ _ _ => True) st w := by
  refine publishJson_over (by simp) (fun _ _ => trivial) fun j type hparse hkind => ?_
  have hentry : j.isLogEntry = decide (type = .logEntry) := by simp [Json.isLogEntry, hkind]
  rw [publishJson_typed hparse hkind]
  cases type with
  | logEntry =>
    exact (processLogEntry_handled huuid hentry).mono (fun _ _ _ hputs hr => ⟨j, hparse, hputs hr⟩)
      fun _ _ _ hX => hX
  | logService =>
    exact (processLogService_handled hentry).mono (fun _ _ _ hputs hr => ⟨j, hparse, hputs hr⟩)
      fun _ _ _ hX => hX
  | other =>
    exact (processOtherTypes_handled hentry).mono (fun _ _ _ hputs hr => ⟨j, hparse, hputs hr⟩)
      fun _ _ _ hX => hX

lemma Destination.nulFree (h : Destination st j path) (hfree : nulFree st j) : 0 ∉ path := by
  rw [Destination] at h
  rw [Storer.nulFree] at hfree
  split_ifs at h hfree with hj
  · obtain ⟨id, hid, rfl⟩ := h
    have hsid : 0 ∉ st.logServiceId := of_decide_eq_true hfree
    have hservices : 0 ∉ text "/redfish/v1/Systems/system/LogServices/" := by decide
    have hentries : 0 ∉ text "/Entries/" := by decide
    simp only [logEntryPath, List.mem_append, not_or]
    exact ⟨⟨⟨hservices, hsid⟩, hentries⟩, hid⟩
  · rw [h] at hfree
    exact of_decide_eq_true hfree

lemma pieces_appendPath {p name : Text} (hslash : slash ∉ name) :
    (pieces (appendPath p name)).getLast? = some name := by
  have hname : pieces name = [name] := List.splitOn_eq_singleton hslash
  rcases ExternalStorerFileWriter.appendPath_cases p name with heq | ⟨heq, rfl | ⟨r, rfl⟩⟩
  · rw [heq, pieces_slash, hname, List.getLast?_concat]
  · rw [heq, List.nil_append, hname, List.getLast?_singleton]
  · rw [heq, List.append_assoc, List.singleton_append, pieces_slash, hname, List.getLast?_concat]

lemma nul_notMem_appendPath {p q : Text} (hp : 0 ∉ p) (hq : 0 ∉ q) : 0 ∉ appendPath p q := by
  rcases ExternalStorerFileWriter.appendPath_cases p q with heq | ⟨heq, -⟩
  · rw [heq]
    simp [hp, hq, slash]
  · rw [heq]
    simp [hp, hq]

lemma Writes.stored (h : Writes writer path doc calls) (hpath : 0 ∉ path) (hdoc : StoredAs j doc)
    (hcomplete : ∀ e ∈ calls, failed e = false) : StoredCompletely writer j calls := by
  obtain ⟨hvalid, written, hmem⟩ := h
  have hwritten : written = true := by simpa [failed] using hcomplete _ hmem
  have hrelative : 0 ∉ ExternalStorerFileWriter.getRelativePath path :=
    fun hzero => hpath ((List.dropWhile_suffix _).subset hzero)
  have hinside : writer.Inside (writer.fullPath path) := by
    rw [ExternalStorerFileWriter.inside_fullPath, untilNul_of_notMem hrelative,
      ← ExternalStorerFileWriter.isValidPath_eq]
    exact hvalid
  have hfull : 0 ∉ writer.fullPath path := nul_notMem_appendPath writer.noNul hrelative
  refine ⟨⟨_, doc, hdoc, hwritten ▸ hmem, ExternalStorerFileWriter.inside_index hinside
    ExternalStorerFileWriter.fullPath_eq, ?_⟩, hcomplete⟩
  rw [untilNul_of_notMem (nul_notMem_appendPath hfull (by decide))]
  exact pieces_appendPath (by decide)

lemma OnlyWritesFail.complete (h : OnlyWritesFail calls) (hwritten : allWritten calls) :
    ∀ e ∈ calls, failed e = false := by
  intro e he
  cases hfailed : failed e with
  | false => rfl
  | true =>
    have hsound := List.all_eq_true.mp hwritten e he
    simp [h e he hfailed, hfailed] at hsound

theorem publishJson_stored (huuid : ∀ v, 0 ∉ (outside.uuid v).1) {jsonStr : Text}
    {s s' : FileStorer V}
    (hpublish : (fileStorer writer outside cfg).publishJson jsonStr s = (.ok true, s')) :
    ∃ j calls, cfg.parse jsonStr = .parsed j ∧ s'.texts = s.texts ++ [jsonStr] ∧
      s'.files.2 = s.files.2 ++ calls ∧
      (allWritten calls → nulFree s.storer j → StoredCompletely writer j calls) := by
  rw [fileStorer] at hpublish
  rcases hrun : (publishJson cfg jsonStr s.storer).run (handleFiles writer outside) s.files
    with ⟨⟨result, st⟩, files⟩
  simp only [publishOver, hrun, Prod.mk.injEq] at hpublish
  obtain ⟨rfl, rfl⟩ := hpublish
  obtain ⟨j, hparse, path, doc, hdestination, hdoc, calls, hcalls, hwrites, hput⟩ :=
    Ensures.ends (publishJson_handled huuid) hrun rfl
  refine ⟨j, calls, hparse, rfl, hcalls, fun hwritten hfree => ?_⟩
  exact hput.stored (hdestination.nulFree hfree) hdoc (hwrites.complete hwritten)

end SmmErrorLogger.Storer
