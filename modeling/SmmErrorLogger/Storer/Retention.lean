import Mathlib.Data.List.Nodup
import Mathlib.Data.List.Pairwise
import SmmErrorLogger.Library.Bytes
import SmmErrorLogger.Library.Machine
import SmmErrorLogger.Storer.Publication
import SmmErrorLogger.Storer.Storage

/-! The queues of the storer name exactly the log entries that are stored. -/

namespace SmmErrorLogger.Storer

open Library Library.Interaction
open Library.Interaction.Proc

lemma logEntryPath_id {sid sid' id id' : Text} (hlength : id.length = id'.length)
    (h : logEntryPath sid id = logEntryPath sid' id') : id = id' :=
  (List.append_inj' h hlength).2

/-- Neither document is published under the path of the other if that is a log entry. Only log
entries may share a path with log entries. -/
structure Separate (a b : Text × Json) : Prop where
  above : a.2.isLogEntry → ¬ Below a.1 b.1
  below : b.2.isLogEntry → ¬ Below b.1 a.1
  kinds : a.2.isLogEntry ≠ b.2.isLogEntry → a.1 ≠ b.1

lemma Separate.symm {a b : Text × Json} (h : Separate a b) : Separate b a :=
  ⟨h.below, h.above, fun hkinds => (h.kinds hkinds.symm).symm⟩

instance (a b : Text × Json) : Decidable (Separate a b) :=
  decidable_of_iff ((a.2.isLogEntry → ¬ Below a.1 b.1) ∧ (b.2.isLogEntry → ¬ Below b.1 a.1) ∧
    (a.2.isLogEntry ≠ b.2.isLogEntry → a.1 ≠ b.1))
    ⟨fun h => ⟨h.1, h.2.1, h.2.2⟩, fun h => ⟨h.above, h.below, h.kinds⟩⟩

instance : Std.Symm Separate := ⟨fun _ _ => Separate.symm⟩

structure StorageView.Orderly (v : StorageView) : Prop where
  uuids : v.generated.Nodup
  separate : v.published.Pairwise Separate

structure Bookkeeping (cfg : StorerConfig) (st : ExternalStorerFileInterface) (v : StorageView) :
    Prop where
  folders : ∀ p, v.LogEntryFolder p ↔ p ∈ st.logEntrySavedQueue ++ st.logEntryQueue
  nodup : (st.logEntrySavedQueue ++ st.logEntryQueue).Nodup
  saved_le : st.logEntrySavedQueue.length ≤ cfg.maxNumSavedLogEntries.toNat
  queue_le : st.logEntryQueue.length ≤ cfg.maxNumLogEntries.toNat
  published : ∀ p ∈ st.logEntrySavedQueue ++ st.logEntryQueue, ∃ j : Json, j.isLogEntry ∧
    (p, j) ∈ v.published
  generated : ∀ p ∈ st.logEntrySavedQueue ++ st.logEntryQueue,
    ∃ sid, ∃ id ∈ v.generated, id.length = 36 ∧ p = logEntryPath sid id

namespace StorageView

variable {v : StorageView} {p q : Text} {j : Json} {success : Bool}

lemma Orderly.of_create (h : (v.create p j success).Orderly) : v.Orderly :=
  ⟨h.uuids, (List.pairwise_cons.mp h.separate).2⟩

lemma Orderly.create_separate (h : (v.create p j success).Orderly) {k : Json}
    (hq : (q, k) ∈ v.published) :
    Separate (p, j) (q, k) :=
  (List.pairwise_cons.mp h.separate).1 _ hq

lemma Orderly.of_generate (h : (v.generate p).Orderly) : v.Orderly :=
  ⟨(List.nodup_cons.mp h.uuids).2, h.separate⟩

lemma logEntryFolder_create_false : (v.create p j false).LogEntryFolder q ↔ v.LogEntryFolder q :=
  Iff.rfl

lemma logEntryFolder_create_of_ne (h : q ≠ p) :
    (v.create p j success).LogEntryFolder q ↔ v.LogEntryFolder q := by
  cases success with
  | false => exact logEntryFolder_create_false
  | true => simp [LogEntryFolder, create, Function.update_of_ne h]

lemma logEntryFolder_create_self : (v.create p j true).LogEntryFolder p ↔ j.isLogEntry := by
  simp [LogEntryFolder, create]

lemma logEntryFolder_remove : (v.remove p true).LogEntryFolder q ↔
    (q ≠ p ∧ ¬ Below p q) ∧ v.LogEntryFolder q := by
  by_cases h : q = p ∨ Below p q
  · have hq : ¬ (q ≠ p ∧ ¬ Below p q) := by tauto
    simp [LogEntryFolder, remove, h, hq]
  · have hq : q ≠ p ∧ ¬ Below p q := by tauto
    simp [LogEntryFolder, remove, hq]

end StorageView

namespace Bookkeeping

variable {cfg : StorerConfig} {st : ExternalStorerFileInterface} {v : StorageView}
  {p sid id : Text} {j : Json} {success : Bool}

lemma create (h : Bookkeeping cfg st v) (horderly : (v.create p j success).Orderly)
    (hj : j.isLogEntry = false ∨ success = false) : Bookkeeping cfg st (v.create p j success) := by
  refine ⟨fun q => ?_, h.nodup, h.saved_le, h.queue_le, fun q hq => ?_, h.generated⟩
  · rw [← h.folders q]
    rcases hj with hj | rfl
    · by_cases hq : q = p
      · subst hq
        have hnone : ¬ v.LogEntryFolder q := by
          intro hfolder
          obtain ⟨k, hk, hmem⟩ := h.published q ((h.folders q).mp hfolder)
          exact (horderly.create_separate hmem).kinds (by simp [hj, hk]) rfl
        cases success with
        | false => exact StorageView.logEntryFolder_create_false
        | true =>
          rw [StorageView.logEntryFolder_create_self]
          exact iff_of_false (by simp [hj]) hnone
      · exact StorageView.logEntryFolder_create_of_ne hq
    · exact StorageView.logEntryFolder_create_false
  · obtain ⟨k, hk, hmem⟩ := h.published q hq
    exact ⟨k, hk, List.mem_cons_of_mem _ hmem⟩

lemma remove {rest : List Text} (h : Bookkeeping cfg st v) (horderly : v.Orderly)
    (hqueue : st.logEntryQueue = p :: rest) :
    Bookkeeping cfg { st with logEntryQueue := rest } (v.remove p true) := by
  have hmem : ∀ q, q ∈ st.logEntrySavedQueue ++ st.logEntryQueue ↔
      q = p ∨ q ∈ st.logEntrySavedQueue ++ rest := by
    intro q
    rw [hqueue]
    simp only [List.mem_append, List.mem_cons]
    tauto
  have hnodup : p ∉ st.logEntrySavedQueue ++ rest ∧ (st.logEntrySavedQueue ++ rest).Nodup := by
    have hnodup := h.nodup
    rw [hqueue] at hnodup
    exact List.nodup_cons.mp (List.nodup_middle.mp hnodup)
  have hlength := h.queue_le
  rw [hqueue, List.length_cons] at hlength
  refine ⟨fun q => ?_, hnodup.2, h.saved_le, (Nat.le_succ _).trans hlength, fun q hq => ?_,
    fun q hq => ?_⟩
  · rw [StorageView.logEntryFolder_remove, h.folders, hmem]
    constructor
    · rintro ⟨⟨hne, -⟩, hq⟩
      exact hq.resolve_left hne
    · intro hq
      have hne : q ≠ p := fun heq => hnodup.1 (heq ▸ hq)
      obtain ⟨k, hk, hkmem⟩ := h.published q ((hmem q).mpr (Or.inr hq))
      obtain ⟨k', hk', hkmem'⟩ := h.published p ((hmem p).mpr (Or.inl rfl))
      have hseparate := horderly.separate.forall hkmem' hkmem (by simp [hne.symm])
      exact ⟨⟨hne, hseparate.above hk'⟩, Or.inr hq⟩
  · obtain ⟨k, hk, hkmem⟩ := h.published q ((hmem q).mpr (Or.inr hq))
    exact ⟨k, hk, hkmem⟩
  · obtain ⟨sid, id, hid, hq⟩ := h.generated q ((hmem q).mpr (Or.inr hq))
    exact ⟨sid, id, hid, hq⟩

lemma generate (h : Bookkeeping cfg st v) (id : Text) : Bookkeeping cfg st (v.generate id) := by
  refine { h with generated := fun q hq => ?_ }
  obtain ⟨sid, id', hid', hq⟩ := h.generated q hq
  exact ⟨sid, id', List.mem_cons_of_mem _ hid', hq⟩

end Bookkeeping

namespace Bookkeeping

variable {cfg : StorerConfig} {st : ExternalStorerFileInterface} {v : StorageView}
  {p sid id : Text} {j : Json}

lemma mem_pushed {q : Text} :
    q ∈ (st.pushed cfg p).logEntrySavedQueue ++ (st.pushed cfg p).logEntryQueue ↔
      q = p ∨ q ∈ st.logEntrySavedQueue ++ st.logEntryQueue := by
  rw [ExternalStorerFileInterface.pushed]
  split_ifs <;> simp only [List.mem_append, List.mem_singleton] <;> tauto

lemma nodup_pushed (hp : p ∉ st.logEntrySavedQueue ++ st.logEntryQueue)
    (h : (st.logEntrySavedQueue ++ st.logEntryQueue).Nodup) :
    ((st.pushed cfg p).logEntrySavedQueue ++ (st.pushed cfg p).logEntryQueue).Nodup := by
  rw [ExternalStorerFileInterface.pushed]
  split_ifs
  · dsimp only
    rw [List.append_assoc, List.singleton_append]
    exact List.nodup_middle.mpr (List.nodup_cons.mpr ⟨hp, h⟩)
  · dsimp only
    rw [← List.append_assoc]
    exact List.nodup_append_comm.mpr (List.nodup_cons.mpr ⟨hp, h⟩)

lemma push (h : Bookkeeping cfg st v)
    (horderly : ((v.generate id).create (logEntryPath sid id) j true).Orderly)
    (hid : id.length = 36) (hj : j.isLogEntry)
    (hroom : st.logEntryQueue.length < cfg.maxNumLogEntries.toNat) :
    Bookkeeping cfg (st.pushed cfg (logEntryPath sid id))
      ((v.generate id).create (logEntryPath sid id) j true) := by
  have hnew : logEntryPath sid id ∉ st.logEntrySavedQueue ++ st.logEntryQueue := by
    intro hmem
    obtain ⟨sid', id', hid', hlength, hpath⟩ := h.generated _ hmem
    obtain rfl := logEntryPath_id (hid.trans hlength.symm) hpath
    exact (List.nodup_cons.mp horderly.uuids).1 hid'
  refine ⟨fun q => ?_, nodup_pushed hnew h.nodup, ?_, ?_, fun q hq => ?_, fun q hq => ?_⟩
  · rw [mem_pushed]
    by_cases hq : q = logEntryPath sid id
    · subst hq
      rw [StorageView.logEntryFolder_create_self]
      exact iff_of_true hj (Or.inl rfl)
    · rw [StorageView.logEntryFolder_create_of_ne hq, or_iff_right hq]
      exact h.folders q
  · have hsaved := h.saved_le
    rw [ExternalStorerFileInterface.pushed]
    split_ifs with hlt
    · rw [List.length_append]
      exact hlt
    · exact hsaved
  · have hqueue := h.queue_le
    rw [ExternalStorerFileInterface.pushed]
    split_ifs
    · exact hqueue
    · rw [List.length_append]
      exact hroom
  · rcases mem_pushed.mp hq with rfl | hq
    · exact ⟨j, hj, List.mem_cons_self⟩
    · obtain ⟨k, hk, hkmem⟩ := h.published q hq
      exact ⟨k, hk, List.mem_cons_of_mem _ hkmem⟩
  · rcases mem_pushed.mp hq with rfl | hq
    · exact ⟨sid, id, List.mem_cons_self, hid, rfl⟩
    · obtain ⟨sid', id', hid', hpath⟩ := h.generated q hq
      exact ⟨sid', id', List.mem_cons_of_mem _ hid', hpath⟩

end Bookkeeping

variable {W : Type} {cfg : StorerConfig} {storage : Storage W} {st : ExternalStorerFileInterface}
  {w : W} {j : Json}

structure Vacated (cfg : StorerConfig) (storage : Storage W) (w : W)
    (st' : ExternalStorerFileInterface) (w' : W) :
    Prop where
  room : st'.logEntryQueue.length < cfg.maxNumLogEntries.toNat
  published : (storage.view w').published = (storage.view w).published
  generated : (storage.view w').generated = (storage.view w).generated
  books : (storage.view w).Orderly → Bookkeeping cfg st' (storage.view w')

lemma deleteOldest_ensures (h : Bookkeeping cfg st (storage.view w))
    (hevict : st.logEntryQueue.length = cfg.maxNumLogEntries.toNat → ∃ oldest rest,
      st.logEntryQueue = oldest :: rest ∧
        (storage.perform w (.removeAll oldest)).1 = FileResult.done true) :
    (deleteOldest cfg).Ensures (alone storage.perform)
      (fun deleted st' w' => deleted = true ∧ Vacated cfg storage w st' w')
        (fun _ _ _ => False) st w := by
  refine deleteOldest_over
    (fun hroom => ⟨rfl, lt_of_le_of_ne h.queue_le hroom, rfl, rfl, fun _ => h⟩)
    (fun hfull hempty => ?_) fun oldest rest hfull hqueue =>
    removeAll_ensures fun success w' hdone hview => ?_
  · obtain ⟨oldest, rest, hqueue, -⟩ := hevict hfull
    cases hempty.symm.trans hqueue
  · obtain ⟨oldest', rest', hqueue', hresult⟩ := hevict hfull
    obtain ⟨rfl, rfl⟩ := List.cons.inj (hqueue.symm.trans hqueue')
    obtain rfl : success = true := FileResult.done.inj (hdone.symm.trans hresult)
    rw [hqueue, List.length_cons] at hfull
    refine ⟨rfl, (Nat.lt_succ_self _).trans_eq hfull, ?_, ?_, fun horderly => ?_⟩
    · rw [hview, StorageView.remove]
    · rw [hview, StorageView.remove]
    · rw [hview]
      exact h.remove horderly hqueue

def KeepsBooks (cfg : StorerConfig) (storage : Storage W) (st : ExternalStorerFileInterface)
    (w : W) : Prop :=
  (storage.view w).Orderly → Bookkeeping cfg st (storage.view w)

lemma createFile_keeps {path : Text} {X : StorerError → ExternalStorerFileInterface → W → Prop}
    (h : KeepsBooks cfg storage st w) (hj : j.isLogEntry = false) :
    (createFile path j).Ensures (alone storage.perform) (fun _ => KeepsBooks cfg storage)
      X st w := by
  apply createFile_ensures
  intro success w' hview horderly
  rw [hview] at horderly ⊢
  exact (h horderly.of_create).create horderly (Or.inl hj)

lemma processLogEntry_ensures (h : Bookkeeping cfg st (storage.view w)) (hj : j.isLogEntry)
    (hevict : st.logServiceId ≠ [] → st.logEntryQueue.length = cfg.maxNumLogEntries.toNat →
      ∃ oldest rest, st.logEntryQueue = oldest :: rest ∧
        (storage.perform w (.removeAll oldest)).1 = FileResult.done true) :
    (processLogEntry cfg j).Ensures (alone storage.perform) (fun _ => KeepsBooks cfg storage)
      (fun _ _ _ => False) st w := by
  refine processLogEntry_over (D := Vacated cfg storage w) (fun _ _ => h)
    (fun hservice => (deleteOldest_ensures h (hevict hservice)).mono
      (fun deleted st' w' hdeleted => ?_) fun _ _ _ hX => hX) ?_
  · rw [if_pos hdeleted.1]
    exact hdeleted.2
  rintro st' w' ⟨hroom, hpublished, hgenerated, hbooks⟩
  obtain ⟨hid, hview₁⟩ := storage.does w' .randomGen
  refine createFile_ensures fun success w₂ hview₂ => ?_
  rw [hview₁] at hview₂
  -- the documents and UUIDs before the call are orderly if those after it are
  have horderly : (storage.view w₂).Orderly → Bookkeeping cfg st' (storage.view w') := by
    intro horderly
    rw [hview₂] at horderly
    have hbefore := horderly.of_create.of_generate
    exact hbooks ⟨hgenerated ▸ hbefore.uuids, hpublished ▸ hbefore.separate⟩
  cases success with
  | false =>
    intro hafter
    have hcreated := hafter
    rw [hview₂] at hcreated ⊢
    exact ((horderly hafter).generate _).create hcreated (Or.inr rfl)
  | true =>
    have hview₃ : ∀ filePath, storage.view (storage.perform w₂ (.createEntry filePath)).2 =
        storage.view w₂ :=
      fun filePath => storage.does w₂ (.createEntry filePath)
    rw [if_pos rfl, KeepsBooks, hview₃]
    intro hafter
    have hcreated := hafter
    rw [hview₂] at hcreated ⊢
    exact (horderly hafter).push hcreated hid (isLogEntry_logEntryDocument _ hj) hroom

def Evictable (cfg : StorerConfig) (storage : Storage W) (state : ExternalStorerFileInterface × W)
    (jsonStr : Text) : Prop :=
  ∀ j, cfg.parse jsonStr = .parsed j → j.isLogEntry → state.1.logServiceId ≠ [] →
    state.1.logEntryQueue.length = cfg.maxNumLogEntries.toNat → ∃ oldest rest,
      state.1.logEntryQueue = oldest :: rest ∧
        (storage.perform state.2 (.removeAll oldest)).1 = FileResult.done true

lemma publishJson_ensures {jsonStr : Text} (h : Bookkeeping cfg st (storage.view w))
    (hevict : Evictable cfg storage (st, w) jsonStr) :
    (publishJson cfg jsonStr).Ensures (alone storage.perform) (fun _ => KeepsBooks cfg storage)
      (fun e st' w' => e ≠ .emptyQueue ∧ KeepsBooks cfg storage st' w') st w := by
  by_cases htext : logEntryText cfg jsonStr
  · obtain ⟨j, hparse, hj⟩ := logEntryText_iff.mp htext
    rw [publishJson_logEntry hparse hj]
    exact (processLogEntry_ensures h hj (hevict j hparse hj)).mono (fun _ _ _ hQ => hQ)
      (fun _ _ _ hX => hX.elim)
  · exact publishJson_keeps (by simpa using htext)
      (fun _ _ _ _ _ hkeeps horderly => { hkeeps horderly with })
      (fun _ _ _ _ hj hkeeps => createFile_keeps hkeeps hj) fun _ => h

def publish (cfg : StorerConfig) (storage : Storage W) (state : ExternalStorerFileInterface × W)
    (jsonStr : Text) :
    Except StorerError Bool × ExternalStorerFileInterface × W :=
  let ((result, st), w) := (publishJson cfg jsonStr state.1).run storage.perform state.2
  (result, st, w)

lemma publish_keeps {state : ExternalStorerFileInterface × W} {jsonStr : Text}
    (h : Bookkeeping cfg state.1 (storage.view state.2))
    (hevict : Evictable cfg storage state jsonStr) :
    (publish cfg storage state jsonStr).1 ≠ .error .emptyQueue ∧
      KeepsBooks cfg storage (publish cfg storage state jsonStr).2.1
        (publish cfg storage state jsonStr).2.2 := by
  have hens := publishJson_ensures h hevict
  rcases hrun : (publishJson cfg jsonStr state.1).run storage.perform state.2
    with ⟨⟨e | result, st⟩, w⟩
  · obtain ⟨he, hkeeps⟩ := hens.ends hrun
    simp only [publish, hrun]
    exact ⟨by simpa using he, hkeeps⟩
  · simp only [publish, hrun]
    exact ⟨by simp, hens.ends hrun⟩

def OrderlyCall (cfg : StorerConfig) (storage : Storage W) (state : ExternalStorerFileInterface × W)
    (jsonStr : Text) : Prop :=
  (storage.view (publish cfg storage state jsonStr).2.2).Orderly

theorem publish_bookkeeping (cfg : StorerConfig) (storage : Storage W) (w : W)
    (jsonStrs : List Text) (hempty : ∀ p, ¬ (storage.view w).LogEntryFolder p)
    (horderly : Machine.Along (publish cfg storage) (OrderlyCall cfg storage) (.fresh, w) jsonStrs)
    (hevict : Machine.Along (publish cfg storage) (Evictable cfg storage) (.fresh, w) jsonStrs) :
    let outcome := Machine.run (publish cfg storage) (.fresh, w) jsonStrs
    let paths := outcome.2.1.logEntrySavedQueue ++ outcome.2.1.logEntryQueue
    (∀ p, (storage.view outcome.2.2).LogEntryFolder p ↔ p ∈ paths) ∧ paths.Nodup ∧
      paths.length ≤ cfg.maxNumSavedLogEntries.toNat + cfg.maxNumLogEntries.toNat ∧
      ∀ result ∈ outcome.1, result ≠ .error .emptyQueue := by
  intro outcome paths
  have hstep : ∀ (state : ExternalStorerFileInterface × W) jsonStr,
      OrderlyCall cfg storage state jsonStr ∧ Evictable cfg storage state jsonStr →
      Bookkeeping cfg state.1 (storage.view state.2) →
      (publish cfg storage state jsonStr).1 ≠ .error .emptyQueue ∧
        Bookkeeping cfg (publish cfg storage state jsonStr).2.1
          (storage.view (publish cfg storage state jsonStr).2.2) := by
    intro state jsonStr hcall h
    obtain ⟨hresult, hkeeps⟩ := publish_keeps h hcall.2
    exact ⟨hresult, hkeeps hcall.1⟩
  have hfresh : Bookkeeping cfg .fresh (storage.view w) :=
    ⟨fun p => iff_of_false (hempty p) (by simp [ExternalStorerFileInterface.fresh]), List.nodup_nil,
      Nat.zero_le _, Nat.zero_le _, by simp [ExternalStorerFileInterface.fresh],
      by simp [ExternalStorerFileInterface.fresh]⟩
  have hfinal : Bookkeeping cfg outcome.2.1 (storage.view outcome.2.2) :=
    Machine.run_invariant (I := fun state => Bookkeeping cfg state.1 (storage.view state.2))
      (fun state jsonStr hcall h => (hstep state jsonStr hcall h).2) (horderly.and hevict) hfresh
  refine ⟨hfinal.folders, hfinal.nodup, ?_, ?_⟩
  · exact List.length_append.trans_le (Nat.add_le_add hfinal.saved_le hfinal.queue_le)
  · exact Machine.run_answers (A := fun result => result ≠ .error .emptyQueue) hstep
      (horderly.and hevict) hfresh

lemma orderly_along {state : ExternalStorerFileInterface × W} {jsonStrs : List Text}
    (h : (storage.view (Machine.run (publish cfg storage) state jsonStrs).2.2).Orderly) :
    Machine.Along (publish cfg storage) (OrderlyCall cfg storage) state jsonStrs := by
  have hcall : ∀ w op, ¬ (storage.view w).Orderly →
      ¬ (storage.view (storage.perform w op).2).Orderly := by
    intro w op hbefore hafter
    have hdoes := storage.does w op
    cases op with
    | createFile path j =>
      obtain ⟨success, -, hview⟩ := hdoes
      exact hbefore (hview ▸ hafter).of_create
    | removeAll path =>
      obtain ⟨success, -, hview⟩ := hdoes
      rw [hview] at hafter
      exact hbefore ⟨hafter.uuids, hafter.separate⟩
    | createEntry path => exact hbefore (hdoes ▸ hafter)
    | randomGen => exact hbefore (hdoes.2 ▸ hafter).of_generate
  induction jsonStrs using List.reverseRecOn with
  | nil => trivial
  | append_singleton jsonStrs jsonStr ih =>
    rw [Machine.run_snoc] at h
    refine Machine.along_snoc.mpr ⟨ih ?_, h⟩
    by_contra hbefore
    exact Prog.run_invariant (S := StorerCalls) storage.perform
      (I := fun w => ¬ (storage.view w).Orderly) hcall
      (p := publishJson cfg jsonStr (Machine.run (publish cfg storage) state jsonStrs).2.1)
      hbefore h

/-! A storage in which nothing can be removed, or everything can. -/

structure SampleStorage where
  view : StorageView
  removes : Bool
  count : ℕ

def SampleStorage.perform (w : SampleStorage) : (op : StorerOp) → StorerCalls.Ans op × SampleStorage
  | .createFile path j => (FileResult.done true, { w with view := w.view.create path j true })
  | .removeAll path => (FileResult.done w.removes, { w with view := w.view.remove path w.removes })
  | .createEntry _ => ((), w)
  | .randomGen => (sampleUuid w.count,
      { w with view := w.view.generate (sampleUuid w.count), count := w.count + 1 })

def sampleStorage : Storage SampleStorage where
  perform := SampleStorage.perform
  view := SampleStorage.view
  does w op := by
    cases op with
    | createFile path j => exact ⟨true, rfl, rfl⟩
    | removeAll path => exact ⟨w.removes, rfl, rfl⟩
    | createEntry path => exact rfl
    | randomGen => exact ⟨rfl, rfl⟩

def emptySample (removes : Bool) : SampleStorage := ⟨⟨fun _ => none, [], [], []⟩, removes, 0⟩

def sampleDocuments : List Text := [serviceText, entryText, entryText]

lemma sampleDocuments_orderly (removes : Bool) : Machine.Along (publish sampleConfig sampleStorage)
    (OrderlyCall sampleConfig sampleStorage) (.fresh, emptySample removes) sampleDocuments := by
  cases removes with
  | false => exact orderly_along ⟨by decide +kernel, by decide +kernel⟩
  | true => exact orderly_along ⟨by decide +kernel, by decide +kernel⟩

theorem publish_not_bookkeeping :
    let outcome :=
      Machine.run (publish sampleConfig sampleStorage) (.fresh, emptySample false) sampleDocuments
    (∀ p, ¬ (sampleStorage.view (emptySample false)).LogEntryFolder p) ∧
      Machine.Along (publish sampleConfig sampleStorage) (OrderlyCall sampleConfig sampleStorage)
        (.fresh, emptySample false) sampleDocuments ∧
      ∃ p, (sampleStorage.view outcome.2.2).LogEntryFolder p ∧
        p ∉ outcome.2.1.logEntrySavedQueue ++ outcome.2.1.logEntryQueue := by
  refine ⟨by simp [StorageView.LogEntryFolder, sampleStorage,
    emptySample], sampleDocuments_orderly false,
    logEntryPath (text "S") (sampleUuid 0), ?_, by decide +kernel⟩
  decide +kernel

theorem publish_bookkeeping_sample :
    let outcome :=
      Machine.run (publish sampleConfig sampleStorage) (.fresh, emptySample true) sampleDocuments
    Machine.Along (publish sampleConfig sampleStorage) (Evictable sampleConfig sampleStorage)
        (.fresh, emptySample true) sampleDocuments ∧
      ∀ p, (sampleStorage.view outcome.2.2).LogEntryFolder p ↔
        p ∈ outcome.2.1.logEntrySavedQueue ++ outcome.2.1.logEntryQueue := by
  have hevict : Machine.Along (publish sampleConfig sampleStorage)
    (Evictable sampleConfig sampleStorage) (.fresh, emptySample true) sampleDocuments :=
    ⟨fun _ _ _ _ hfull => absurd hfull (by decide +kernel),
      fun _ _ _ _ hfull => absurd hfull (by decide +kernel),
      fun _ _ _ _ _ => ⟨_, _, rfl, rfl⟩, trivial⟩
  have hbooks := publish_bookkeeping sampleConfig sampleStorage (emptySample true) sampleDocuments
    (by simp [StorageView.LogEntryFolder, sampleStorage, emptySample])
    (sampleDocuments_orderly true) hevict
  exact ⟨hevict, hbooks.1⟩

end SmmErrorLogger.Storer
