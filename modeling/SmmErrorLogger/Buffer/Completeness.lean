import SmmErrorLogger.Buffer.Soundness

namespace SmmErrorLogger.Buffer

open Library.Bytes Library.Interaction Library.Circular
open Library.Interaction.Proc

variable {cfg : Config} {pci : PciDataHandler} {es : List EntryPair}

structure FilledBy (cfg : Config) (pci : PciDataHandler) (es : List EntryPair) : Prop where
  header : CircularBufferHeader.size ≤ pci.regionSize.toNat
  accepted : Accepted cfg (headerAt pci.mmap)
  mapped : ∀ k < unread cfg (headerAt pci.mmap), cfg.queueOffset +
    ((headerAt pci.mmap).bmcReadPtr + k) % cfg.maxOffset < pci.regionSize.toNat
  valid : ∀ e ∈ es, ValidEntry e
  window : queueWindow cfg pci.mmap (headerAt pci.mmap).bmcReadPtr
    (unread cfg (headerAt pci.mmap)) = batchBytes es

namespace FilledBy

lemma batchBytes_length (hf : FilledBy cfg pci es) :
    (batchBytes es).length = unread cfg (headerAt pci.mmap) := by
  rw [← hf.window, queueWindow_length]

lemma parses (hf : FilledBy cfg pci es) (hle : unread cfg (headerAt pci.mmap) ≤ cfg.maxOffset) :
    Parses cfg pci.mmap (headerAt pci.mmap).bmcReadPtr (unread cfg (headerAt pci.mmap)) 0 es := by
  have hlen := hf.batchBytes_length
  refine .of_window hf.valid (fun e he => ?_) ?_ (by rw [Nat.add_zero, hlen, hf.window])
    (by omega) ?_
  · have := entry_length_le he
    omega
  · rcases es with - | ⟨e, es⟩
    · exact Or.inr rfl
    · rw [batchBytes_cons, List.length_append, entryBytes_length] at hlen
      exact Or.inl (by omega)
  · rintro fs gs rfl hgs
    have hpos := Nat.pos_of_ne_zero (fun h => hgs (batchBytes_eq_nil h))
    rw [batchBytes_append, List.length_append] at hlen
    omega

end FilledBy

/-- The final check compares the write pointer as it stands with a read pointer that was put
back to 0 at the end of the queue. -/
theorem readErrorLogs_complete_iff (hsize : cfg.queueOffset ≤ cfg.queueRegionSize)
    (hf : FilledBy cfg pci es) (h : CircularBufferHeader) :
    (∃ h' pci', Returns cfg h pci es h' pci') ↔
      (headerAt pci.mmap).biosWritePtr = (headerAt pci.mmap).bmcReadPtr ∨
        (headerAt pci.mmap).biosWritePtr < cfg.maxOffset ∧
        ¬ ((headerAt pci.mmap).bmcReadPtr = cfg.maxOffset ∧
          (headerAt pci.mmap).biosWritePtr = 0) := by
  have hle : unread cfg (headerAt pci.mmap) ≤ cfg.maxOffset := by
    by_cases hne : (headerAt pci.mmap).biosWritePtr = (headerAt pci.mmap).bmcReadPtr
    · simp [unread, hne]
    · exact (unread_pos hf.accepted hne).2.1
  have hM : (headerAt pci.mmap).biosWritePtr ≠ (headerAt pci.mmap).bmcReadPtr →
      0 < cfg.maxOffset := by
    have := hf.accepted.biosWritePtr
    have := hf.accepted.bmcReadPtr
    omega
  have hparses := hf.parses hle
  constructor
  · rintro ⟨h', pci', hreturn⟩
    obtain ⟨-, -, -, hp⟩ := (readErrorLogs_parsed hsize h).ends hreturn
    apply or_iff_not_imp_left.mpr
    intro hne
    obtain ⟨hlt, hcorner, -⟩ := (hp.lands_iff (hM hne) hf.accepted hne).mp rfl
    exact ⟨hlt, hcorner⟩
  · intro hpointers
    have hlands : ∀ es' p, Parsed cfg pci es' p → (headerAt pci.mmap).biosWritePtr = p ∨ False := by
      intro es' p hp
      by_cases hne : (headerAt pci.mmap).biosWritePtr = (headerAt pci.mmap).bmcReadPtr
      · exact Or.inl (hne.trans (hp.none (hp.empty_iff.mpr (by rw [unread, if_pos hne]))).symm)
      · obtain ⟨hlt, hcorner⟩ := hpointers.resolve_left hne
        refine Or.inl ((hp.lands_iff (hM hne) hf.accepted hne).mpr ⟨hlt, hcorner, ?_⟩)
        rw [hp.parses.unique hparses, hf.batchBytes_length]
    obtain ⟨es', h', pci', hreturn, -, -, -, hp⟩ :=
      Ensures.exists_run (s := h) (readErrorLogs_undisturbed
        hsize (fun k => k ≤ unread cfg (headerAt pci.mmap)) (Or.inl hf.header)
        (Or.inl hf.accepted) (Or.inl fun k hk j hj => hf.mapped j (by omega))
        (fun _ => Or.inr ⟨_, hparses, fun k hk => by rw [hf.batchBytes_length] at hk; omega⟩)
        hlands)
    obtain rfl := hp.parses.unique hparses
    exact ⟨h', pci', hreturn⟩

def endRegion : PciDataHandler where
  regionSize := 56
  mmap := fun i => if i = 0x18 then 56 else if i = 0x2c then 8 else if i = 50 ∨ i = 52 then 2 else 0

lemma endRegion_filledBy : FilledBy smallConfig endRegion [(⟨0, 2, 2, 0⟩, [0, 0])] where
  header := by decide
  accepted := ⟨by unfold Geometry; decide +kernel, by decide +kernel, by decide +kernel⟩
  mapped := by decide +kernel
  valid := by decide
  window := by decide +kernel

theorem readErrorLogs_complete_iff_endRegion :
    (∃ h' pci', Returns smallConfig .zero endRegion [(⟨0, 2, 2, 0⟩, [0, 0])] h' pci') ↔
      (headerAt endRegion.mmap).biosWritePtr = (headerAt endRegion.mmap).bmcReadPtr ∨
        (headerAt endRegion.mmap).biosWritePtr < smallConfig.maxOffset ∧
        ¬ ((headerAt endRegion.mmap).bmcReadPtr = smallConfig.maxOffset ∧
          (headerAt endRegion.mmap).biosWritePtr = 0) :=
  readErrorLogs_complete_iff (by decide) endRegion_filledBy _

theorem readErrorLogs_not_complete : ¬ ∀ (cfg : Config) (h : CircularBufferHeader)
    (pci : PciDataHandler) (es : List EntryPair), cfg.queueOffset ≤ cfg.queueRegionSize →
      FilledBy cfg pci es → ∃ h' pci', Returns cfg h pci es h' pci' := by
  intro hall
  obtain ⟨h', pci', hreturn⟩ := hall smallConfig .zero endRegion _ (by decide) endRegion_filledBy
  have hrun : ((readErrorLogs smallConfig .zero).run
    (PciDataHandler.perform .bits64) endRegion).1.1 =
      .error (.notIdentical 8 0) := by
    decide +kernel
  have hok := (congrArg (·.1.1) hreturn).symm.trans hrun
  cases hok

end SmmErrorLogger.Buffer
