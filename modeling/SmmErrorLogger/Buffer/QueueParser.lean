import SmmErrorLogger.Buffer.Entries

/-! The loop of `readErrorLogs` is a parser of the circular bytes behind the read pointer. -/

namespace SmmErrorLogger.Buffer

open Library.Bytes Library.Interaction Library.Circular
open Library.Interaction.Proc

variable {cfg : Config} {m : Memory} {start bytesToRead : ℕ}

/-- From `c` consumed bytes on, the loop cuts out exactly these entries and then stops. -/
inductive Parses (cfg : Config) (m : Memory) (start bytesToRead : ℕ) : ℕ → List EntryPair → Prop
  | done {c} : bytesToRead ≤ c → Parses cfg m start bytesToRead c []
  | entry {c es} : c < bytesToRead → QueueEntryHeader.size ≤ cfg.maxOffset →
      (entryAt cfg m (start + c)).2.length ≤ cfg.maxOffset →
      xorAll (entryBytes (entryAt cfg m (start + c))) = 0 →
      Parses cfg m start bytesToRead (c + (entryBytes (entryAt cfg m (start + c))).length) es →
      Parses cfg m start bytesToRead c (entryAt cfg m (start + c) :: es)

namespace Parses

lemma unique {c : ℕ} {es fs : List EntryPair} (h : Parses cfg m start bytesToRead c es)
    (h' : Parses cfg m start bytesToRead c fs) : es = fs := by
  induction h generalizing fs with
  | done hc =>
    cases h' with
    | done => rfl
    | entry hlt => omega
  | entry hlt _ _ _ _ ih =>
    cases h' with
    | done hc => omega
    | entry _ _ _ _ h' => rw [ih h']

lemma window {c : ℕ} {es : List EntryPair} (h : Parses cfg m start bytesToRead c es) :
    batchBytes es = queueWindow cfg m (start + c) (batchBytes es).length := by
  induction h with
  | done => rfl
  | @entry c es _ _ _ _ _ ih =>
    rw [← Nat.add_assoc] at ih
    rw [batchBytes_cons, List.length_append, queueWindow_add, ← ih, entryBytes_length,
      entryBytes_entryAt]

lemma valid {c : ℕ} {es : List EntryPair} (h : Parses cfg m start bytesToRead c es) :
    ∀ e ∈ es, ValidEntry e := by
  induction h with
  | done => simp
  | entry _ _ _ hx _ ih =>
    rintro e (_ | ⟨_, he⟩)
    · exact ⟨entryAt_size _, hx⟩
    · exact ih e he

lemma consumed {c : ℕ} {es : List EntryPair} (h : Parses cfg m start bytesToRead c es) :
    bytesToRead ≤ c + (batchBytes es).length ∧
      (es = [] ∨ c + (batchBytes es).length < bytesToRead + QueueEntryHeader.size +
        cfg.maxOffset) := by
  induction h with
  | done hc => exact ⟨by simpa using hc, Or.inl rfl⟩
  | @entry c es hlt _ hlen _ _ ih =>
    rw [batchBytes_cons, List.length_append, ← Nat.add_assoc]
    refine ⟨ih.1, Or.inr ?_⟩
    rcases ih.2 with rfl | h
    · simp only [batchBytes_nil, List.length_nil, entryBytes_length]
      omega
    · exact h

lemma reaches {c : ℕ} {fs gs : List EntryPair} {e : EntryPair}
    (h : Parses cfg m start bytesToRead c (fs ++ e :: gs)) :
    c + (batchBytes fs).length < bytesToRead ∧ QueueEntryHeader.size ≤ cfg.maxOffset ∧
      e.2.length ≤ cfg.maxOffset := by
  induction fs generalizing c with
  | nil =>
    cases h with
    | entry hlt hsize hlen => exact ⟨by simpa using hlt, hsize, hlen⟩
  | cons f fs ih =>
    cases h with
    | entry _ _ _ _ h =>
      rw [batchBytes_cons, List.length_append, ← Nat.add_assoc]
      exact ih h

lemma of_window {c : ℕ} {es : List EntryPair} (hvalid : ∀ e ∈ es, ValidEntry e)
    (hlen : ∀ e ∈ es, e.2.length ≤ cfg.maxOffset)
    (hsize : QueueEntryHeader.size ≤ cfg.maxOffset ∨ es = [])
    (hwindow : queueWindow cfg m (start + c) (batchBytes es).length = batchBytes es)
    (hstop : bytesToRead ≤ c + (batchBytes es).length)
    (hreach : ∀ fs gs, es = fs ++ gs → gs ≠ [] → c + (batchBytes fs).length < bytesToRead) :
    Parses cfg m start bytesToRead c es := by
  induction es generalizing c with
  | nil => exact .done (by simpa using hstop)
  | cons e es ih =>
    obtain ⟨he, hx⟩ := hvalid e (by simp)
    rw [batchBytes_cons] at hwindow
    obtain rfl := entryAt_of_window he hwindow
    refine .entry (by simpa using hreach [] _ rfl (by simp)) (by simpa using hsize)
      (hlen _ (by simp)) hx
      (ih (fun f hf => hvalid f (by simp [hf])) (fun f hf => hlen f (by simp [hf]))
        (Or.inl (by simpa using hsize)) ?_ ?_ ?_)
    · rw [List.length_append, queueWindow_add] at hwindow
      rw [← Nat.add_assoc]
      exact (List.append_inj hwindow (by simp)).2
    · rw [batchBytes_cons, List.length_append] at hstop
      omega
    · rintro fs gs rfl hgs
      have := hreach (_ :: fs) gs rfl hgs
      rw [batchBytes_cons, List.length_append] at this
      omega

end Parses

end SmmErrorLogger.Buffer
