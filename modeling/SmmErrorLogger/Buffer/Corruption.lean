import SmmErrorLogger.Buffer.Soundness

namespace SmmErrorLogger.Buffer

open Library.Bytes Library.Interaction Library.Circular
open Library.Interaction.Proc

variable {cfg : Config} {pci : PciDataHandler} {m : Memory} {start bytesToRead c : ℕ}
  {es fs gs : List EntryPair} {e : EntryPair} {rest : List UInt8}

lemma Parses.of_append (hsizes : ∀ f ∈ fs, f.1.entrySize.toNat = f.2.length) {n : ℕ}
    (hwindow : queueWindow cfg m (start + c) n = batchBytes fs ++ rest)
    (hstop : c + n ≤ bytesToRead)
    (h : Parses cfg m start bytesToRead c es) :
    ∃ es', es = fs ++ es' ∧ Parses cfg m start bytesToRead (c + (batchBytes fs).length) es' := by
  induction fs generalizing c n es with
  | nil => exact ⟨es, rfl, h⟩
  | cons f fs ih =>
    obtain ⟨hf, hsizes⟩ := List.forall_mem_cons.mp hsizes
    have hlength := congrArg List.length hwindow
    rw [batchBytes_cons, List.append_assoc] at hwindow
    have hentry := entryAt_of_window hf hwindow
    simp only [queueWindow_length, batchBytes_cons, List.length_append] at hlength
    have hpos := entryBytes_length f
    rw [QueueEntryHeader.size] at hpos
    cases h with
    | done hdone => omega
    | entry _ _ _ _ h =>
      rw [hentry] at h
      rw [hlength, Nat.add_assoc, queueWindow_add] at hwindow
      have hrest := (List.append_inj hwindow (by simp)).2
      rw [Nat.add_assoc] at hrest
      obtain ⟨es', rfl, hes'⟩ := ih hsizes hrest (by omega) h
      refine ⟨es', by rw [hentry, List.cons_append], ?_⟩
      rwa [batchBytes_cons, List.length_append, ← Nat.add_assoc]

lemma entrySize_set {i : ℕ} (hi : i ≠ 2 ∧ i ≠ 3) (b : UInt8) (he : e.1.entrySize.toNat = e.2.length)
    {pos : ℕ} (h : queueWindow cfg m pos (entryBytes e).length = (entryBytes e).set i b) :
    entryBytes (entryAt cfg m pos) = (entryBytes e).set i b := by
  have hheader := QueueEntryHeader.ofBytes_toBytes e.1 e.2
  rw [← entryBytes] at hheader
  have hfield : (((entryBytes e).set i b).drop 2).take 2 = ((entryBytes e).drop 2).take 2 := by
    rw [List.drop_set]
    split_ifs
    · rfl
    · exact List.take_set_of_le (by omega)
  have hsize : (entryAt cfg m pos).1.entrySize = e.1.entrySize := by
    rw [entryBytes_length, queueWindow_add] at h
    calc field16 (queueWindow cfg m pos QueueEntryHeader.size) 2
      _ = field16 ((entryBytes e).set i b) 2 := by
        rw [← h]
        simp only [field16, field]
        rw [List.drop_append_of_le_length (by simp [QueueEntryHeader.size]),
          List.take_append_of_le_length (by simp [QueueEntryHeader.size])]
      _ = field16 (entryBytes e) 2 := by simp only [field16, field, hfield]
      _ = e.1.entrySize := congrArg QueueEntryHeader.entrySize hheader
  rw [entryBytes_entryAt, ← entryAt_size, hsize, he, ← entryBytes_length, h]

lemma xorAll_changed {bs : List UInt8} {i : ℕ} {b : UInt8} (hi : i < bs.length) (hb : b ≠ bs[i])
    (h : xorAll bs = 0) : xorAll (bs.set i b) ≠ 0 := by
  rw [xorAll_set hi, h, UInt8.zero_xor]
  exact fun hzero => hb (UInt8.xor_eq_zero_iff.mp hzero).symm

lemma Parses.rejects (hvalid : ∀ f ∈ fs ++ e :: gs, ValidEntry f) {i : ℕ} {b : UInt8}
    (hi : i < (entryBytes e).length) (hsize : i ≠ 2 ∧ i ≠ 3) (hb : b ≠ (entryBytes e)[i])
    (hwindow : queueWindow cfg m start bytesToRead =
      batchBytes fs ++ ((entryBytes e).set i b ++ batchBytes gs)) :
    ¬ Parses cfg m start bytesToRead 0 es := by
  intro h
  have he := hvalid e (by simp)
  have hlength := congrArg List.length hwindow
  simp only [queueWindow_length, List.length_append, List.length_set] at hlength
  obtain ⟨es', -, hes'⟩ := h.of_append (fun f hf => (hvalid f (by simp [hf])).1) hwindow (by omega)
  rw [Nat.zero_add] at hes'
  cases hes' with
  | done hdone => omega
  | entry _ _ _ hxor _ =>
    rw [hlength, queueWindow_add, queueWindow_add] at hwindow
    have hafter := (List.append_inj hwindow (by simp)).2
    have hentry := (List.append_inj hafter (by simp)).1
    rw [entrySize_set hsize b he.1 hentry] at hxor
    exact xorAll_changed hi hb he.2 hxor

def corrupt (cfg : Config) (pci : PciDataHandler) (i : ℕ) (b : UInt8) : PciDataHandler :=
  { pci with mmap := store pci.mmap (cfg.queueOffset + i) [b] }

lemma headerAt_corrupt (i : ℕ) (b : UInt8) :
    headerAt (corrupt cfg pci i b).mmap = headerAt pci.mmap :=
  headerAt_store_outside (by simp only [Config.queueOffset]; omega)

theorem readErrorLogs_corrupted (hsize : cfg.queueOffset ≤ cfg.queueRegionSize)
    (h : CircularBufferHeader)
    (hunread : unread cfg (headerAt pci.mmap) < cfg.maxOffset)
    (hvalid : ∀ f ∈ fs ++ e :: gs, ValidEntry f)
    (hwindow : queueWindow cfg pci.mmap (headerAt pci.mmap).bmcReadPtr
      (unread cfg (headerAt pci.mmap)) = batchBytes (fs ++ e :: gs))
    (i : ℕ) (b : UInt8) (hi : i < (entryBytes e).length) (hother : i ≠ 2 ∧ i ≠ 3)
    (hb : b ≠ (entryBytes e)[i]) :
    let pos := ((headerAt pci.mmap).bmcReadPtr + ((batchBytes fs).length + i)) % cfg.maxOffset
    ∃ error h' pci', (readErrorLogs cfg h).run (PciDataHandler.perform cfg.sizeT)
      (corrupt cfg pci pos b) = ((.error error, h'), pci') := by
  intro pos
  rcases hrun : (readErrorLogs cfg h).run (PciDataHandler.perform cfg.sizeT)
    (corrupt cfg pci pos b) with ⟨⟨error | es, h'⟩, pci'⟩
  · exact ⟨error, h', pci', hrun⟩
  · obtain ⟨-, -, -, hparsed⟩ := (readErrorLogs_parsed hsize h).ends hrun
    have hparses := hparsed.parses
    rw [headerAt_corrupt] at hparses
    have hlength := congrArg List.length hwindow
    rw [queueWindow_length, batchBytes_append, batchBytes_cons, List.length_append,
      List.length_append] at hlength
    refine (hparses.rejects hvalid hi hother hb ?_).elim
    rw [queueWindow, corrupt, queueCell_store_inside, window_update (by omega) hunread.le,
      ← queueWindow, hwindow, batchBytes_append, batchBytes_cons,
      List.set_append_right _ _ (Nat.le_add_right _ _), Nat.add_sub_cancel_left,
      List.set_append_left _ _ hi]

/-! Three entries, of which the second one goes around the end of the queue. -/

def wrappedConfig : Config := { smallConfig with queueRegionSize := 72 }

def wrappedRegion : PciDataHandler where
  regionSize := 72
  mmap :=
    let header := { initializedFromConfig wrappedConfig with bmcReadPtr := 15, biosWritePtr := 14 }
    let batch := batchBytes [sampleEntry 0, sampleEntry 1, sampleEntry 2]
    store (store (store (fun _ => 0) 0 header.toBytes) (CircularBufferHeader.size + 15)
      (batch.take 9)) CircularBufferHeader.size (batch.drop 9)

theorem readErrorLogs_corrupted_wrapped : ∃ error h' pci', (readErrorLogs wrappedConfig .zero).run
    (PciDataHandler.perform .bits64) (corrupt wrappedConfig wrappedRegion 4 0x21) =
      ((.error error, h'), pci') := by
  have hvalid : ∀ f ∈ [sampleEntry 0] ++ sampleEntry 1 :: [sampleEntry 2], ValidEntry f := by decide
  have hunread : unread wrappedConfig (headerAt wrappedRegion.mmap) < wrappedConfig.maxOffset := by
    decide +kernel
  have hwindow : queueWindow wrappedConfig wrappedRegion.mmap
    (headerAt wrappedRegion.mmap).bmcReadPtr (unread wrappedConfig (headerAt wrappedRegion.mmap)) =
      batchBytes ([sampleEntry 0] ++ sampleEntry 1 :: [sampleEntry 2]) := by
    decide +kernel
  have hcorrupted := readErrorLogs_corrupted (by decide) .zero hunread hvalid hwindow 6 0x21
    (by decide) (by decide) (by decide)
  have hpos : ((headerAt wrappedRegion.mmap).bmcReadPtr +
    ((batchBytes [sampleEntry 0]).length + 6)) %
      wrappedConfig.maxOffset = 4 := by
    decide +kernel
  rw [hpos] at hcorrupted
  exact hcorrupted

end SmmErrorLogger.Buffer
