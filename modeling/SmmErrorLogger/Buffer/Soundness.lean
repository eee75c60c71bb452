import SmmErrorLogger.Buffer.Initialization
import SmmErrorLogger.Buffer.Undisturbed

/-! What `readErrorLogs` returns is the unread window, or the window and one more lap. -/

namespace SmmErrorLogger.Buffer

open Library.Bytes Library.Interaction Library.Circular
open Library.Interaction.Proc

variable {cfg : Config} {pci : PciDataHandler}

def Returns (cfg : Config) (h : CircularBufferHeader) (pci : PciDataHandler) (es : List EntryPair)
    (h' : CircularBufferHeader) (pci' : PciDataHandler) : Prop :=
  (readErrorLogs cfg h).run (PciDataHandler.perform cfg.sizeT) pci = ((.ok es, h'), pci')

structure ExactWindow (cfg : Config) (pci : PciDataHandler) (es : List EntryPair)
    (h' : CircularBufferHeader) (pci' : PciDataHandler) : Prop where
  total : (es.map (fun e => QueueEntryHeader.size + e.2.length)).sum = unread cfg
    (headerAt pci.mmap)
  bytes : batchBytes es =
    queueWindow cfg pci.mmap (headerAt pci.mmap).bmcReadPtr (unread cfg (headerAt pci.mmap))
  entrySize : ∀ e ∈ es, e.1.entrySize.toNat = e.2.length
  checksum : ∀ e ∈ es, xorAll (entryBytes e) = 0
  cached : h'.bmcReadPtr = (headerAt pci.mmap).biosWritePtr
  shared : (headerAt pci'.mmap).bmcReadPtr = (headerAt pci.mmap).biosWritePtr

/-- Whole entries cover the window and one more lap of the queue: the last of them starts in
the window and ends a lap behind it. -/
structure LapOverrun (cfg : Config) (pci : PciDataHandler) : Prop where
  accepted : Accepted cfg (headerAt pci.mmap)
  region : cfg.queueRegionSize ≤ pci.regionSize.toNat
  size : QueueEntryHeader.size ≤ cfg.maxOffset
  pointers : (headerAt pci.mmap).biosWritePtr ≠ (headerAt pci.mmap).bmcReadPtr
  normalised : (headerAt pci.mmap).biosWritePtr < cfg.maxOffset
  entries : ∃ es e, (∀ f ∈ es ++ [e], ValidEntry f) ∧ e.2.length ≤ cfg.maxOffset ∧
    (batchBytes es).length < unread cfg (headerAt pci.mmap) ∧
    queueWindow cfg pci.mmap (headerAt pci.mmap).bmcReadPtr
      (unread cfg (headerAt pci.mmap) + cfg.maxOffset) = batchBytes (es ++ [e])

lemma Parsed.lapOverrun {es : List EntryPair} {p : ℕ} (hM : 0 < cfg.maxOffset)
    (hsize : cfg.queueOffset + cfg.maxOffset = cfg.queueRegionSize)
    (ha : Accepted cfg (headerAt pci.mmap)) (hp : Parsed cfg pci es p)
    (hne : (headerAt pci.mmap).biosWritePtr ≠ (headerAt pci.mmap).bmcReadPtr)
    (hlt : (headerAt pci.mmap).biosWritePtr < cfg.maxOffset) (hes : es ≠ [])
    (hlen : (batchBytes es).length = unread cfg (headerAt pci.mmap) + cfg.maxOffset) :
    LapOverrun cfg pci := by
  obtain ⟨fs, e, rfl⟩ : ∃ fs e, es = fs ++ [e] :=
    ⟨es.dropLast, es.getLast hes, (List.dropLast_append_getLast hes).symm⟩
  obtain ⟨hreach, hheader, hpayload⟩ := hp.parses.reaches
  have hwindow := hp.parses.window
  rw [hlen, Nat.add_zero] at hwindow
  refine ⟨ha, ?_, hheader, hne, hlt, fs, e, hp.parses.valid, hpayload, by omega, hwindow.symm⟩
  -- the last cell of the queue was read
  have hr := ha.bmcReadPtr
  obtain ⟨k, hk, hcell⟩ : ∃ k < cfg.maxOffset,
      ((headerAt pci.mmap).bmcReadPtr + k) % cfg.maxOffset = cfg.maxOffset - 1 := by
    rcases hr.eq_or_lt with heq | hlt'
    · exact ⟨cfg.maxOffset - 1,
        by omega, by rw [heq, Nat.add_mod_left, Nat.mod_eq_of_lt (by omega)]⟩
    · refine ⟨cfg.maxOffset - 1 - (headerAt pci.mmap).bmcReadPtr, by omega, ?_⟩
      rw [Nat.mod_eq_of_lt (by omega)]
      omega
  have hmapped := hp.mapped k (by omega)
  omega

lemma LapOverrun.parses {es : List EntryPair} {e : EntryPair} (ho : LapOverrun cfg pci)
    (hvalid : ∀ f ∈ es ++ [e], ValidEntry f) (hpayload : e.2.length ≤ cfg.maxOffset)
    (hreach : (batchBytes es).length < unread cfg (headerAt pci.mmap))
    (hwindow : queueWindow cfg pci.mmap (headerAt pci.mmap).bmcReadPtr
      (unread cfg (headerAt pci.mmap) + cfg.maxOffset) = batchBytes (es ++ [e])) :
    Parses cfg pci.mmap (headerAt pci.mmap).bmcReadPtr (unread cfg (headerAt pci.mmap)) 0
      (es ++ [e]) := by
  have hlen := congrArg List.length hwindow
  rw [queueWindow_length] at hlen
  have hle := (unread_pos ho.accepted ho.pointers).2.1
  refine .of_window hvalid (fun f hf => ?_) (Or.inl ho.size) (by rw [Nat.add_zero, ← hlen, hwindow])
    (by omega) ?_
  · rcases List.mem_append.mp hf with hf | hf
    · have := entry_length_le hf
      omega
    · rw [List.mem_singleton.mp hf]
      exact hpayload
  · intro fs gs hsplit hgs
    obtain ⟨ks, rfl⟩ : fs <+: es := by
      obtain ⟨ks, g, rfl⟩ : ∃ ks g, gs = ks ++ [g] :=
        ⟨gs.dropLast, gs.getLast hgs, (List.dropLast_append_getLast hgs).symm⟩
      rw [← List.append_assoc] at hsplit
      exact ⟨ks, (List.append_inj_left' hsplit rfl).symm⟩
    rw [batchBytes_append, List.length_append] at hreach
    omega

theorem readErrorLogs_exact_iff (hsize : cfg.queueOffset < cfg.queueRegionSize)
    (h : CircularBufferHeader) :
    (∀ es h' pci', Returns cfg h pci es h' pci' → ExactWindow cfg pci es h' pci') ↔
      ¬ LapOverrun cfg pci := by
  have hmax : cfg.queueOffset + cfg.maxOffset = cfg.queueRegionSize := by
    simp only [Config.queueOffset, Config.maxOffset] at *
    omega
  have hM : 0 < cfg.maxOffset := by omega
  constructor
  · intro hexact ho
    obtain ⟨es, e, hvalid, hpayload, hreach, hwindow⟩ := ho.entries
    have hparses := ho.parses hvalid hpayload hreach hwindow
    have hlen := congrArg List.length hwindow
    rw [queueWindow_length] at hlen
    have hregion := ho.region
    have hheader : CircularBufferHeader.size ≤ pci.regionSize.toNat := by
      simp only [Config.queueOffset] at hmax
      omega
    have hcells : ∀ k, True → ∀ j < k, cfg.queueOffset +
        ((headerAt pci.mmap).bmcReadPtr + j) % cfg.maxOffset < pci.regionSize.toNat := by
      intro _ _ j _
      have := Nat.mod_lt ((headerAt pci.mmap).bmcReadPtr + j) hM
      omega
    have hlands : ∀ es' p, Parsed cfg pci es' p → (headerAt pci.mmap).biosWritePtr = p ∨ False := by
      intro es' p hp
      refine Or.inl ((hp.lands_iff hM ho.accepted ho.pointers).mpr ⟨ho.normalised, ?_, ?_⟩)
      · rintro ⟨hr, hw⟩
        have hlap := (unread_pos ho.accepted ho.pointers).1
        omega
      · rw [hp.parses.unique hparses, ← hlen]
        exact Nat.add_mod_right _ _
    obtain ⟨es', h', pci', hreturn, -, -, -, hp⟩ :=
      Ensures.exists_run (s := h) (readErrorLogs_undisturbed
        hsize.le (fun _ => True) (Or.inl hheader) (Or.inl ho.accepted) (Or.inl hcells)
        (fun _ => Or.inr ⟨_, hparses, fun _ _ => trivial⟩) hlands)
    have htotal := (hexact es' h' pci' hreturn).total
    rw [← batchBytes_length, hp.parses.unique hparses] at htotal
    omega
  · intro hno es h' pci' hreturn
    obtain ⟨ha, hpci, hcached, hp⟩ := (readErrorLogs_parsed hsize.le h).ends hreturn
    have hlen : (batchBytes es).length = unread cfg (headerAt pci.mmap) := by
      by_cases hne : (headerAt pci.mmap).biosWritePtr = (headerAt pci.mmap).bmcReadPtr
      · have hzero : unread cfg (headerAt pci.mmap) = 0 := by rw [unread, if_pos hne]
        rw [hp.empty_iff.mpr hzero, hzero]
        rfl
      obtain ⟨hlt, -, hmod⟩ := (hp.lands_iff hM ha hne).mp rfl
      rcases hp.length_of_modEq hmod with hlen | ⟨hes, hlen⟩
      · exact hlen
      · exact (hno (hp.lapOverrun hM hmax ha hne hlt hes hlen)).elim
    refine ⟨by rw [← batchBytes_length, hlen], ?_, fun e he => (hp.parses.valid e he).1,
      fun e he => (hp.parses.valid e he).2, hcached, hpci.bmcReadPtr⟩
    have hwindow := hp.parses.window
    rwa [hlen, Nat.add_zero] at hwindow

def overrunRegion : PciDataHandler where
  regionSize := 56
  mmap := fun i => if i = 0x18 then 56 else if i = 0x2c then 6 else if i = 50 then 8 else 0

theorem readErrorLogs_exact_iff_overrunRegion :
    (∀ es h' pci', Returns smallConfig .zero overrunRegion es h' pci' →
      ExactWindow smallConfig overrunRegion es h' pci') ↔ ¬ LapOverrun smallConfig overrunRegion :=
  readErrorLogs_exact_iff (by decide) _

/-- The payload takes the two unused bytes and then the header once more. -/
theorem readErrorLogs_not_exact :
    ¬ ∀ (cfg : Config) (h : CircularBufferHeader) (pci : PciDataHandler)
    (es : List EntryPair) (h' : CircularBufferHeader) (pci' : PciDataHandler),
    cfg.queueOffset < cfg.queueRegionSize → Returns cfg h pci es h' pci' →
      ExactWindow cfg pci es h' pci' := by
  intro hall
  have hrun : ((readErrorLogs smallConfig .zero).run
    (PciDataHandler.perform .bits64) overrunRegion).1.1 =
      .ok [(⟨0, 8, 0, 0⟩, [0, 0, 0, 0, 8, 0, 0, 0])] := by
    decide +kernel
  have htotal := (hall smallConfig .zero overrunRegion _ _ _ (by decide)
    (Prod.ext (Prod.ext hrun rfl) rfl)).total
  revert htotal
  decide +kernel

end SmmErrorLogger.Buffer
