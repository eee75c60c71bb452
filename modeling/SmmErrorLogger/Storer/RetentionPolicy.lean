import SmmErrorLogger.Storer.LogService
import SmmErrorLogger.Storer.Retention

/-! Which log entries remain: the first ones, and the last ones. -/

namespace SmmErrorLogger.Storer

open Library Library.Interaction
open Library.Interaction.Proc

variable {W : Type} {cfg : StorerConfig} {st : ExternalStorerFileInterface}
  {calls calls' : List (Event StorerCalls)} {room : ℕ}

def storedEntry : Event StorerCalls → Option Text
  | ⟨.createFile path j, .done true⟩ => if j.isLogEntry then some path else none
  | _ => none

def removedPath : Event StorerCalls → Option Text
  | ⟨.removeAll path, _⟩ => some path
  | _ => none

def generatedId : Event StorerCalls → Option Text
  | ⟨.randomGen, id⟩ => some id
  | _ => none

def Succeeded : Event StorerCalls → Prop
  | ⟨.createFile _ _, result⟩ => result = FileResult.done true
  | ⟨.removeAll _, result⟩ => result = FileResult.done true
  | _ => True

instance : DecidablePred Succeeded
  | ⟨.createFile _ _, result⟩ => inferInstanceAs (Decidable (result = FileResult.done true))
  | ⟨.removeAll _, result⟩ => inferInstanceAs (Decidable (result = FileResult.done true))
  | ⟨.createEntry _, _⟩ => .isTrue trivial
  | ⟨.randomGen, _⟩ => .isTrue trivial

def AllSucceeded (calls : List (Event StorerCalls)) : Prop := ∀ e ∈ calls, Succeeded e

instance (calls : List (Event StorerCalls)) : Decidable (AllSucceeded calls) :=
  inferInstanceAs (Decidable (∀ e ∈ calls, Succeeded e))

lemma AllSucceeded.of_grows (h : AllSucceeded calls') (hgrows : calls <+: calls') :
    AllSucceeded calls :=
  fun e he => h e (hgrows.subset he)

lemma AllSucceeded.last {e : Event StorerCalls} (h : AllSucceeded (calls ++ [e])) : Succeeded e :=
  h e (List.mem_append_right _ (List.mem_singleton_self e))

def storedEntries (calls : List (Event StorerCalls)) : List Text := calls.filterMap storedEntry

def removedPaths (calls : List (Event StorerCalls)) : List Text := calls.filterMap removedPath

def generatedIds (calls : List (Event StorerCalls)) : List Text := calls.filterMap generatedId

section Snoc

variable {α β : Type} {f : α → Option β} {l : List α} {a : α} {b : β}

lemma filterMap_snoc_none (h : f a = none) : (l ++ [a]).filterMap f = l.filterMap f := by
  simp [h]

lemma filterMap_snoc_some (h : f a = some b) : (l ++ [a]).filterMap f = l.filterMap f ++ [b] := by
  simp [h]

end Snoc

lemma storedEntries_logEntry {path : Text} {j : Json} (hj : j.isLogEntry) :
    storedEntries (calls ++ [⟨.createFile path j, FileResult.done true⟩]) =
      storedEntries calls ++ [path] :=
  filterMap_snoc_some (f := storedEntry) (if_pos hj)

lemma storedEntries_push {id path : Text} {doc : Json} (hdoc : doc.isLogEntry) :
    storedEntries (calls ++ [⟨.randomGen, id⟩] ++ [⟨.createFile path doc, FileResult.done true⟩]) =
      storedEntries calls ++ [path] :=
  (storedEntries_logEntry hdoc).trans (congrArg (· ++ [path]) (filterMap_snoc_none rfl))

/-! The log entries that are left. Which paths lie `under` another one, so that they are removed
with it, is for the file handler to say. -/

section Remaining

variable (under : Text → Text → Prop) [DecidableRel under]

def leaving (left : List Text) : Event StorerCalls → List Text
  | ⟨.createFile path j, .done true⟩ => if j.isLogEntry then left ++ [path] else left
  | ⟨.removeAll path, .done true⟩ => left.filter fun p => ¬ (p = path ∨ under path p)
  | _ => left

def remaining (calls : List (Event StorerCalls)) : List Text := calls.foldl (leaving under) []

def Apart (entries : List Text) : Prop :=
  entries.Pairwise fun p q => p ≠ q ∧ ¬ under p q ∧ ¬ under q p

variable {under} {left : List Text} {e : Event StorerCalls}

lemma remaining_snoc : remaining under (calls ++ [e]) = leaving under (remaining under calls) e :=
  List.foldl_append

lemma leaving_other (hstored : storedEntry e = none) (hremoved : removedPath e = none) :
    leaving under left e = left := by
  obtain ⟨op, ans⟩ := e
  cases op with
  | createFile path j =>
    rcases ans with (- | -) | -
    · rfl
    · rw [leaving, if_neg (by simpa [storedEntry] using hstored)]
    · rfl
  | removeAll path => cases hremoved
  | createEntry path | randomGen => rfl

lemma remaining_push {id path : Text} {doc : Json} (hdoc : doc.isLogEntry) :
    remaining under
        (calls ++ [⟨.randomGen, id⟩] ++ [⟨.createFile path doc, FileResult.done true⟩]) =
      remaining under calls ++ [path] := by
  rw [remaining_snoc, leaving, if_pos hdoc, remaining_snoc, leaving_other rfl rfl]

omit [DecidableRel under] in
lemma Apart.sublist {entries entries' : List Text} (h : Apart under entries')
    (hsub : entries.Sublist entries') :
    Apart under entries :=
  List.Pairwise.sublist hsub h

lemma Apart.leaving_removeAll {oldest : Text} {saved rest : List Text}
    (h : Apart under (saved ++ oldest :: rest)) :
    leaving under (saved ++ oldest :: rest) ⟨.removeAll oldest, FileResult.done true⟩ =
      saved ++ rest := by
  obtain ⟨-, htail, hsaved⟩ := List.pairwise_append.mp h
  have hrest := (List.pairwise_cons.mp htail).1
  rw [leaving, List.filter_append, List.filter_cons_of_neg (by simp)]
  congr 1
  · refine List.filter_eq_self.mpr fun q hq => ?_
    obtain ⟨hne, -, hunder⟩ := hsaved q hq oldest List.mem_cons_self
    simp [hne, hunder]
  · refine List.filter_eq_self.mpr fun q hq => ?_
    obtain ⟨hne, hunder, -⟩ := hrest q hq
    simp [hne.symm, hunder]

end Remaining

def lastId (path : Text) : Text := path.drop (path.length - 36)

lemma lastId_logEntryPath {sid id : Text} (h : id.length = 36) :
    lastId (logEntryPath sid id) = id := by
  rw [lastId, logEntryPath, List.length_append, h, Nat.add_sub_cancel, List.drop_left]

variable {under : Text → Text → Prop} [DecidableRel under]

/-- The stored entries are, in their order, those that are saved, those that were removed, and those
that may be removed, with room for so many more. -/
structure Policy (cfg : StorerConfig) (under : Text → Text → Prop) [DecidableRel under] (room : ℕ)
    (st : ExternalStorerFileInterface) (calls : List (Event StorerCalls)) : Prop where
  order : st.logEntrySavedQueue ++ (removedPaths calls ++ st.logEntryQueue) = storedEntries calls
  saved_le : st.logEntrySavedQueue.length ≤ cfg.maxNumSavedLogEntries.toNat
  queue_le : st.logEntryQueue.length + room ≤ cfg.maxNumLogEntries.toNat
  saving : st.logEntrySavedQueue.length < cfg.maxNumSavedLogEntries.toNat →
    removedPaths calls = [] ∧ st.logEntryQueue = []
  full : removedPaths calls ≠ [] → st.logEntryQueue.length + room = cfg.maxNumLogEntries.toNat
  ids : ((storedEntries calls).map lastId).Sublist (generatedIds calls)
  left : Apart under (storedEntries calls) →
    remaining under calls = st.logEntrySavedQueue ++ st.logEntryQueue

namespace Policy

lemma fresh : Policy cfg under 0 .fresh [] :=
  ⟨rfl, Nat.zero_le _, Nat.zero_le _, fun _ => ⟨rfl, rfl⟩, absurd rfl, .refl _, fun _ => rfl⟩

lemma retained (h : Policy cfg under 0 st calls) (s n : ℕ)
    (hs : s = cfg.maxNumSavedLogEntries.toNat) (hn : n = cfg.maxNumLogEntries.toNat) :
    let entries := storedEntries calls
    st.logEntrySavedQueue = entries.take (min entries.length s) ∧
      removedPaths calls = (entries.drop s).take (entries.length - s - n) ∧
      st.logEntryQueue = entries.drop (entries.length - min (entries.length - s) n) := by
  subst hs hn
  intro entries
  have horder : entries = st.logEntrySavedQueue ++ (removedPaths calls ++ st.logEntryQueue) :=
    h.order.symm
  have hlength := congrArg List.length horder
  rw [List.length_append, List.length_append] at hlength
  have hqueue := h.queue_le
  rcases h.saved_le.lt_or_eq with hlt | heq
  · obtain ⟨hnone, hempty⟩ := h.saving hlt
    rw [hnone, hempty, List.append_nil, List.append_nil] at horder
    rw [← horder] at hlt
    rw [hnone, hempty, ← horder, min_eq_left hlt.le, List.take_length,
      List.drop_of_length_le hlt.le,
      List.take_nil, Nat.sub_eq_zero_of_le hlt.le, Nat.zero_min, Nat.sub_zero, List.drop_length]
    exact ⟨rfl, rfl, rfl⟩
  · have hremoved : entries.length - cfg.maxNumSavedLogEntries.toNat - cfg.maxNumLogEntries.toNat =
        (removedPaths calls).length := by
      by_cases hnone : removedPaths calls = []
      · rw [hnone, List.length_nil] at hlength ⊢
        omega
      · have hfull := h.full hnone
        omega
    have hsaved : min entries.length cfg.maxNumSavedLogEntries.toNat =
        st.logEntrySavedQueue.length := by omega
    have hkept : entries.length - min (entries.length - cfg.maxNumSavedLogEntries.toNat)
        cfg.maxNumLogEntries.toNat = (st.logEntrySavedQueue ++ removedPaths calls).length := by
      rw [List.length_append]
      omega
    rw [hremoved, hsaved, hkept, ← heq, horder]
    refine ⟨(List.take_left' rfl).symm, ?_, ?_⟩
    · rw [List.drop_left' rfl, List.take_left' rfl]
    · rw [← List.append_assoc, List.drop_left' rfl]

lemma other {e : Event StorerCalls} (h : Policy cfg under room st calls)
    (hstored : storedEntry e = none)
    (hremoved : removedPath e = none) (hid : generatedId e = none) :
    Policy cfg under room st (calls ++ [e]) := by
  obtain ⟨horder, hsaved, hqueue, hsaving, hfull, hids, hleft⟩ := h
  have hstored' : storedEntries (calls ++ [e]) = storedEntries calls := filterMap_snoc_none hstored
  have hremoved' : removedPaths (calls ++ [e]) = removedPaths calls := filterMap_snoc_none hremoved
  have hid' : generatedIds (calls ++ [e]) = generatedIds calls := filterMap_snoc_none hid
  rw [← hstored'] at horder hids hleft
  rw [← hremoved'] at horder hsaving hfull
  rw [← hid'] at hids
  refine ⟨horder, hsaved, hqueue, hsaving, hfull, hids, fun hapart => ?_⟩
  rw [remaining_snoc, leaving_other hstored hremoved]
  exact hleft hapart

lemma spare (h : Policy cfg under 0 st calls)
    (hne : st.logEntryQueue.length ≠ cfg.maxNumLogEntries.toNat) :
    Policy cfg under 1 st calls :=
  { h with
    queue_le := lt_of_le_of_ne h.queue_le hne
    full := fun hremoved => absurd (h.full hremoved) hne }

lemma evict {oldest : Text} {rest : List Text} (h : Policy cfg under 0 st calls)
    (hfull : st.logEntryQueue.length = cfg.maxNumLogEntries.toNat)
    (hqueue : st.logEntryQueue = oldest :: rest) :
    Policy cfg under 1 { st with logEntryQueue := rest }
      (calls ++ [⟨.removeAll oldest, FileResult.done true⟩]) := by
  let e : Event StorerCalls := ⟨.removeAll oldest, FileResult.done true⟩
  have hstored : storedEntries (calls ++ [e]) = storedEntries calls := filterMap_snoc_none rfl
  have hremoved : removedPaths (calls ++ [e]) = removedPaths calls ++ [oldest] :=
    filterMap_snoc_some rfl
  have hids : generatedIds (calls ++ [e]) = generatedIds calls := filterMap_snoc_none rfl
  have horder := h.order
  rw [hqueue, List.length_cons] at hfull
  rw [hqueue] at horder
  refine ⟨?_, h.saved_le, hfull.le, fun hlt => ?_, fun _ => hfull, hstored ▸ hids ▸ h.ids,
    fun hapart => ?_⟩
  · rw [hremoved, hstored, List.append_assoc, List.singleton_append]
    exact horder
  · have hempty := (h.saving hlt).2
    rw [hqueue] at hempty
    cases hempty
  · rw [hstored] at hapart
    rw [remaining_snoc, h.left hapart, hqueue]
    apply Apart.leaving_removeAll
    rw [← horder] at hapart
    exact hapart.sublist ((List.Sublist.refl _).append (List.sublist_append_right _ _))

lemma push {sid id : Text} {doc : Json} (h : Policy cfg under (room + 1) st calls)
    (hid : id.length = 36)
    (hdoc : doc.isLogEntry) : Policy cfg under room (st.pushed cfg (logEntryPath sid id))
      (calls ++ [⟨.randomGen, id⟩] ++
        [⟨.createFile (logEntryPath sid id) doc, FileResult.done true⟩]) := by
  set p := logEntryPath sid id with hp
  let e₁ : Event StorerCalls := ⟨.randomGen, id⟩
  let e₂ : Event StorerCalls := ⟨.createFile p doc, FileResult.done true⟩
  have hstored : storedEntries (calls ++ [e₁] ++ [e₂]) = storedEntries calls ++ [p] :=
    storedEntries_push hdoc
  have hremoved : removedPaths (calls ++ [e₁] ++ [e₂]) = removedPaths calls :=
    (filterMap_snoc_none rfl).trans (filterMap_snoc_none rfl)
  have hids : generatedIds (calls ++ [e₁] ++ [e₂]) = generatedIds calls ++ [lastId p] := by
    rw [hp, lastId_logEntryPath hid]
    exact (filterMap_snoc_none rfl).trans (filterMap_snoc_some rfl)
  have hsub : ((storedEntries (calls ++ [e₁] ++ [e₂])).map lastId).Sublist
      (generatedIds (calls ++ [e₁] ++ [e₂])) := by
    rw [hstored, hids, List.map_append]
    exact h.ids.append (.refl _)
  have hleft : Apart under (storedEntries (calls ++ [e₁] ++ [e₂])) →
      remaining under (calls ++ [e₁] ++ [e₂]) =
        st.logEntrySavedQueue ++ st.logEntryQueue ++ [p] := by
    rw [hstored]
    intro hapart
    rw [remaining_push hdoc, h.left (hapart.sublist (List.sublist_append_left _ _))]
  have horder := h.order
  have hroom := h.queue_le
  rw [ExternalStorerFileInterface.pushed]
  split_ifs with hlt
  · obtain ⟨hnone, hempty⟩ := h.saving hlt
    rw [hnone, hempty, List.append_nil, List.append_nil] at horder
    refine ⟨?_, ?_, (Nat.le_succ _).trans hroom, fun _ => ⟨hremoved.trans hnone, hempty⟩,
      fun hne => absurd (hremoved.trans hnone) hne, hsub, fun hapart => ?_⟩
    · rw [hremoved, hnone, hempty, hstored, ← horder, List.append_nil, List.append_nil]
    · rw [List.length_append]
      exact hlt
    · rw [hleft hapart, hempty, List.append_nil, List.append_nil]
  · refine ⟨?_, h.saved_le, ?_, fun hlt' => absurd hlt' hlt, fun hne => ?_, hsub, fun hapart => ?_⟩
    · rw [hremoved, hstored, ← horder, List.append_assoc, List.append_assoc]
    · rw [List.length_append, List.length_singleton, Nat.add_assoc, Nat.add_comm 1 room]
      exact hroom
    · rw [hremoved] at hne
      rw [List.length_append, List.length_singleton, Nat.add_assoc, Nat.add_comm 1 room]
      exact h.full hne
    · rw [hleft hapart, List.append_assoc]

end Policy

section Calls

variable {perform : W → (op : StorerOp) → StorerCalls.Ans op × W} {w : W × List (Event StorerCalls)}
  {j : Json} {state : ExternalStorerFileInterface × W × List (Event StorerCalls)} {jsonStr : Text}

def Stored (cfg : StorerConfig) (under : Text → Text → Prop) [DecidableRel under]
    (calls : List (Event StorerCalls))
    (count : ℕ) (st' : ExternalStorerFileInterface) (calls' : List (Event StorerCalls)) : Prop :=
  AllSucceeded calls' → Policy cfg under 0 st' calls' ∧
    (storedEntries calls').length = (storedEntries calls).length + count

lemma deleteOldest_policy (h : Policy cfg under 0 st w.2) (hn : 0 < cfg.maxNumLogEntries.toNat) :
    (deleteOldest cfg).Ensures (alone (journaled perform))
      (fun deleted st' w' => AllSucceeded w'.2 →
        deleted = true ∧ Policy cfg under 1 st' w'.2 ∧ storedEntries w'.2 = storedEntries w.2)
      (fun _ _ w' => ¬ AllSucceeded w'.2) st w := by
  refine deleteOldest_over (fun hroom _ => ⟨rfl, h.spare hroom, rfl⟩) (fun hfull hempty => ?_)
    fun oldest rest hfull hqueue =>
      removeAll_over (fun deleted hdone hall => ?_) fun hthrew hall => ?_
  · rw [hempty, List.length_nil] at hfull
    omega
  · have hresult : (perform w.1 (.removeAll oldest)).1 = FileResult.done true := hall.last
    obtain rfl : deleted = true := FileResult.done.inj (hdone.symm.trans hresult)
    refine ⟨rfl, ?_, filterMap_snoc_none rfl⟩
    change Policy cfg under 1 _ (w.2 ++ [⟨.removeAll oldest, (perform w.1 (.removeAll oldest)).1⟩])
    rw [hresult]
    exact h.evict hfull hqueue
  · have hresult : (perform w.1 (.removeAll oldest)).1 = FileResult.done true := hall.last
    cases hresult.symm.trans hthrew

lemma processLogEntry_policy (huuid : ∀ w, (perform w .randomGen).1.length = 36)
    (h : Policy cfg under 0 st w.2) (hn : 0 < cfg.maxNumLogEntries.toNat) (hj : j.isLogEntry) :
    (processLogEntry cfg j).Ensures (alone (journaled perform))
      (fun result st' w' => Stored cfg under w.2 (if result then 1 else 0) st' w'.2)
      (fun _ st' w' => Stored cfg under w.2 0 st' w'.2) st w := by
  let Deleted (st' : ExternalStorerFileInterface) (w' : W × List (Event StorerCalls)) : Prop :=
    AllSucceeded w'.2 → Policy cfg under 1 st' w'.2 ∧ storedEntries w'.2 = storedEntries w.2
  refine processLogEntry_over (D := Deleted) (fun _ _ => ⟨h, rfl⟩)
    (fun _ => ?_) fun st' w' hdeleted => ?_
  · refine (deleteOldest_policy h hn).mono (fun deleted st' w' h' => ?_) fun _ _ _ hX hall =>
      absurd hall hX
    cases deleted with
    | true => exact fun hall => (h' hall).2
    | false => exact fun hall => absurd (h' hall).1 Bool.false_ne_true
  · refine createFile_journal (fun created w₂ => ?_) fun w₂ hall => by cases hall.last
    cases created with
    | false => exact fun hall => by cases hall.last
    | true =>
      intro hall
      have hcreated := hall.of_grows (List.prefix_append _ _)
      obtain ⟨hpolicy, hsame⟩ :=
        hdeleted ((hcreated.of_grows (List.prefix_append _ _)).of_grows (List.prefix_append _ _))
      -- of the three calls the second one stores the entry
      refine ⟨(hpolicy.push (huuid w'.1) (isLogEntry_logEntryDocument _ hj)).other rfl rfl rfl, ?_⟩
      have hstored : ∀ id path doc filePath, doc.isLogEntry →
        storedEntries (w'.2 ++ [⟨.randomGen, id⟩] ++
          [⟨.createFile path doc, FileResult.done true⟩] ++ [⟨.createEntry filePath, ()⟩]) =
            storedEntries w.2 ++ [path] := by
        intro id path doc filePath hdoc
        rw [← hsame]
        exact (filterMap_snoc_none rfl).trans (storedEntries_push hdoc)
      exact (congrArg List.length (hstored _ _ _ _ (isLogEntry_logEntryDocument _ hj))).trans
        List.length_append

lemma publishJson_policy (h : Policy cfg under 0 state.1 state.2.2)
    (htext : logEntryText cfg jsonStr = false) :
    (publishJson cfg jsonStr).Ensures (alone (journaled perform))
      (fun _ st' w' => Policy cfg under 0 st' w'.2 ∧ storedEntries w'.2 = storedEntries state.2.2)
      (fun _ st' w' => Policy cfg under 0 st' w'.2 ∧ storedEntries w'.2 = storedEntries state.2.2)
      state.1 state.2 := by
  let Kept (st' : ExternalStorerFileInterface) (w' : W × List (Event StorerCalls)) : Prop :=
    Policy cfg under 0 st' w'.2 ∧ storedEntries w'.2 = storedEntries state.2.2
  refine (publishJson_keeps (I := Kept) htext
    (fun _ _ _ _ _ hkept => ⟨{ hkept.1 with }, hkept.2⟩) ?_
    ⟨h, rfl⟩).mono (fun _ _ _ hQ => hQ) fun _ _ _ hX => hX.2
  intro st w path j hj hkept
  have hcall : ∀ result w', Kept st (w', w.2 ++ [⟨.createFile path j, result⟩]) := by
    intro result w'
    have hnone : storedEntry ⟨.createFile path j, result⟩ = none := by
      rcases result with (- | -) | - <;> simp [storedEntry, hj]
    exact ⟨hkept.1.other hnone rfl rfl, (filterMap_snoc_none hnone).trans hkept.2⟩
  exact createFile_journal (fun success w' => hcall _ w') fun w' => ⟨by simp, hcall _ w'⟩

lemma publishOver_policy (huuid : ∀ w, (perform w .randomGen).1.length = 36)
    (h : Policy cfg under 0 state.1 state.2.2) (hn : 0 < cfg.maxNumLogEntries.toNat) :
    let after := publishOver cfg (journaled perform) state jsonStr
    Stored cfg under state.2.2
      (if logEntryText cfg jsonStr ∧ after.1 = .ok true then 1 else 0) after.2.1
      after.2.2.2 := by
  intro after
  by_cases htext : logEntryText cfg jsonStr
  · obtain ⟨j, hparse, hj⟩ := logEntryText_iff.mp htext
    have hens := processLogEntry_policy huuid h hn hj
    have hends := publishOver_ends (publishJson_logEntry hparse hj ▸ hens)
    change Ends _ _ (after.1, after.2.1) after.2.2 at hends
    rcases hresult : after.1 with e | result
    · rw [hresult] at hends
      rw [if_neg (by simp)]
      exact hends
    · rw [hresult] at hends
      simpa only [htext, true_and, Except.ok.injEq] using show Stored _ _ _ _ _ _ from hends
  · rw [if_neg fun hboth => htext hboth.1]
    obtain ⟨hpolicy, hsame⟩ :=
      ends_same.mp (publishOver_ends (publishJson_policy h (by simpa using htext)))
    exact fun _ => ⟨hpolicy, congrArg List.length hsame⟩

lemma publishOver_grows : state.2.2 <+: (publishOver cfg (journaled perform) state jsonStr).2.2.2 :=
  Prog.journal_grows (S := StorerCalls) perform (publishJson cfg jsonStr state.1) state.2

def acceptedCount (cfg : StorerConfig) (jsonStrs : List Text)
    (results : List (Except StorerError Bool)) : ℕ :=
  (jsonStrs.zip results).countP fun r => logEntryText cfg r.1 ∧ r.2 = .ok true

lemma acceptedCount_snoc {jsonStrs : List Text} {results : List (Except StorerError Bool)}
    {result : Except StorerError Bool} (h : results.length = jsonStrs.length) :
    acceptedCount cfg (jsonStrs ++ [jsonStr]) (results ++ [result]) =
      acceptedCount cfg jsonStrs results +
        if logEntryText cfg jsonStr ∧ result = .ok true then 1 else 0 := by
  rw [acceptedCount, List.zip_append h.symm, List.countP_append, acceptedCount]
  simp [List.countP_cons]

end Calls

theorem publish_retention (cfg : StorerConfig)
    (perform : W → (op : StorerOp) → StorerCalls.Ans op × W)
    (under : Text → Text → Prop) [DecidableRel under] (w : W) (jsonStrs : List Text)
    (huuid : ∀ w, (perform w .randomGen).1.length = 36)
    (hn : 1 ≤ cfg.maxNumLogEntries.toNat) :
    let outcome := Machine.run (publishOver cfg (journaled perform)) (.fresh, w, []) jsonStrs
    let calls := outcome.2.2.2
    let entries := storedEntries calls
    let s := cfg.maxNumSavedLogEntries.toNat
    let n := cfg.maxNumLogEntries.toNat
    let k := acceptedCount cfg jsonStrs outcome.1
    AllSucceeded calls → (generatedIds calls).Nodup →
      (entries.Pairwise fun p q => ¬ under p q ∧ ¬ under q p) → entries.length = k ∧ entries.Nodup ∧
      remaining under calls = entries.take (min k s) ++ entries.drop (k - min (k - s) n) ∧
      removedPaths calls = (entries.drop s).take (k - s - n) := by
  intro outcome calls entries s n k hall hids hunder
  have hrun : outcome.1.length = jsonStrs.length ∧
    (AllSucceeded calls → Policy cfg under 0 outcome.2.1 calls ∧
      entries.length = k) := by
    let I (is : List Text) (results : List (Except StorerError Bool))
        (state : ExternalStorerFileInterface × W × List (Event StorerCalls)) : Prop :=
      results.length = is.length ∧ (AllSucceeded state.2.2 → Policy cfg under 0 state.1 state.2.2 ∧
        (storedEntries state.2.2).length = acceptedCount cfg is results)
    have hnil : I [] [] (.fresh, w, []) := ⟨rfl, fun _ => ⟨.fresh, rfl⟩⟩
    refine Machine.run_history (P := fun _ _ => True) hnil ?_
      (Machine.along_of_forall fun _ _ => trivial)
    rintro is jsonStr ran - ⟨hlength, hpolicy⟩
    refine ⟨by simp [hlength], fun hall' => ?_⟩
    obtain ⟨hbefore, hcount⟩ := hpolicy (hall'.of_grows publishOver_grows)
    obtain ⟨hafter, hstored⟩ := publishOver_policy huuid hbefore hn hall'
    rw [acceptedCount_snoc hlength, ← hcount]
    exact ⟨hafter, hstored⟩
  obtain ⟨hpolicy, hcount⟩ := hrun.2 hall
  obtain ⟨hsaved, hremoved, hqueue⟩ := hpolicy.retained s n rfl rfl
  have hnodup : entries.Nodup := .of_map lastId (hpolicy.ids.nodup hids)
  rw [← hcount]
  refine ⟨rfl, hnodup, ?_, hremoved⟩
  rw [hpolicy.left (hnodup.and hunder), hsaved, hqueue]

/-! A LogService below a log entry: removing that entry removes the entries of the service. -/

def nestedConfig : StorerConfig := { sampleConfig with maxNumLogEntries := 2 }

def nestedDocuments : List Text := [serviceText, entryText, nestedText, entryText, entryText]

theorem publish_not_retention :
    let outcome := Machine.run (publishOver nestedConfig (journaled SampleStorage.perform))
      (.fresh, emptySample true, []) nestedDocuments
    let calls := outcome.2.2.2
    AllSucceeded calls ∧ (generatedIds calls).Nodup ∧
      acceptedCount nestedConfig nestedDocuments outcome.1 = 3 ∧
      ∃ p ∈ (storedEntries calls).drop 1, p ∉ remaining Below calls ∧
        ¬ (sampleStorage.view outcome.2.2.1).LogEntryFolder p := by
  decide +kernel

def retainingConfig : StorerConfig :=
  { sampleConfig with maxNumSavedLogEntries := 1, maxNumLogEntries := 2 }

def retainedDocuments : List Text :=
  [serviceText, entryText, entryText, numberText, entryText, entryText, entryText]

theorem publish_retention_sample :
    let outcome := Machine.run (publishOver retainingConfig (journaled SampleStorage.perform))
      (.fresh, emptySample true, []) retainedDocuments
    let entries := storedEntries outcome.2.2.2
    entries.length = 5 ∧ remaining Below outcome.2.2.2 = entries.take 1 ++ entries.drop 3 ∧
      removedPaths outcome.2.2.2 = (entries.drop 1).take 2 := by
  intro outcome entries
  have hcount : acceptedCount retainingConfig retainedDocuments outcome.1 = 5 := by decide +kernel
  have huuid : ∀ w : SampleStorage, (w.perform .randomGen).1.length = 36 :=
    fun w => (sampleStorage.does w .randomGen).1
  obtain ⟨hlength, -, hremaining, hremoved⟩ :=
    publish_retention retainingConfig SampleStorage.perform Below
    (emptySample true) retainedDocuments huuid (by decide) (by decide +kernel) (by decide +kernel)
      (by decide +kernel)
  rw [hcount] at hlength hremaining hremoved
  exact ⟨hlength, hremaining, hremoved⟩

end SmmErrorLogger.Storer
