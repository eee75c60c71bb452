import SmmErrorLogger.Buffer.Coherence

namespace SmmErrorLogger.Buffer

open Library.Bytes Library.Interaction
open Library.Interaction.Proc

inductive BufferCall
  | readBufferHeader
  | updateReadPtr (newReadPtr : ℕ)
  | updateBmcFlags (newBmcFlag : UInt32)
  | wraparoundRead (relativeOffset length : ℕ)
  | readEntryHeader
  | readEntry
  | readErrorLogs
  | checkForOverflowAndAcknowledge
  | readUeLogFromReservedRegion

def ignoreResult {α : Type} (p : BufferM α) : BufferM Unit := do
  let _ ← p
  pure ()

def BufferCall.body (cfg : Config) : BufferCall → BufferM Unit
  | .readBufferHeader => Buffer.readBufferHeader
  | .updateReadPtr newReadPtr => Buffer.updateReadPtr newReadPtr
  | .updateBmcFlags newBmcFlag => Buffer.updateBmcFlags newBmcFlag
  | .wraparoundRead relativeOffset length =>
    ignoreResult (Buffer.wraparoundRead cfg relativeOffset length)
  | .readEntryHeader => ignoreResult (Buffer.readEntryHeader cfg)
  | .readEntry => ignoreResult (Buffer.readEntry cfg)
  | .readErrorLogs => ignoreResult (Buffer.readErrorLogs cfg)
  | .checkForOverflowAndAcknowledge => ignoreResult Buffer.checkForOverflowAndAcknowledge
  | .readUeLogFromReservedRegion => ignoreResult Buffer.readUeLogFromReservedRegion

def ChangesOwnWords (s : WordSize) (pci : PciDataHandler) (op : DataOp) : Prop :=
  ∀ i, i < 0x1d ∨ 0x23 < i → (pci.perform s op).2.mmap i = pci.mmap i

def besideBios (cfg : Config) : Environment DataInterface PciDataHandler where
  interferes := BiosWrites
  permits := ChangesOwnWords cfg.sizeT
  answers pci op ans pci' := pci.perform cfg.sizeT op = (ans, pci')

variable {cfg : Config}

lemma changesOwnWords_write {s : WordSize} {pci : PciDataHandler} {off : ℕ} {bs : List UInt8}
    (h : 0x1d ≤ off ∧ off + bs.length ≤ 0x24) : ChangesOwnWords s pci (.write off bs) :=
  fun i hi => PciDataHandler.write_frame (by omega)

lemma besideBios_shared : SharedRegion cfg.sizeT (besideBios cfg) id (fun _ => True) where
  interferes h := h
  answers h := h
  stable _ _ _ _ := trivial
  read _ _ _ := ⟨fun _ _ => rfl, fun _ _ _ => trivial⟩
  readPtr _ _ :=
    ⟨changesOwnWords_write (by simp [CircularBufferHeader.bmcReadPtrOffset]), fun _ _ _ => trivial⟩

lemma updateBmcFlags_keeps (f : UInt32) :
    Keeps (besideBios cfg) (Kept id fun _ => True) (updateBmcFlags f) := by
  intro h pci hk
  refine (besideBios_shared.updateBmcFlags_ensures (fun _ _ _ _ => trivial)
    (fun w _ => ⟨?_, fun _ _ _ => trivial⟩) hk).mono (fun _ _ _ h' => h') (fun _ _ _ hf => hf.elim)
  exact changesOwnWords_write (by simp [CircularBufferHeader.bmcFlagsOffset])

lemma BufferCall.body_keeps (call : BufferCall) :
    Keeps (besideBios cfg) (Kept id fun _ => True) (call.body cfg) := by
  have R : SharedRegion cfg.sizeT (besideBios cfg) id (fun _ => True) := besideBios_shared
  have hignore : ∀ {α : Type} {p : BufferM α}, Keeps (besideBios cfg) (Kept id fun _ => True) p →
      Keeps (besideBios cfg) (Kept id fun _ => True) (ignoreResult p) :=
    fun hp => hp.bind fun _ => keeps_pure R.kept_stable ()
  cases call with
  | readBufferHeader => exact R.readBufferHeader_keeps
  | updateReadPtr p => exact R.updateReadPtr_keeps p
  | updateBmcFlags f => exact updateBmcFlags_keeps f
  | wraparoundRead rel len => exact hignore (R.wraparoundRead_keeps cfg rel len)
  | readEntryHeader => exact hignore (R.readEntryHeader_keeps cfg)
  | readEntry => exact hignore (R.readEntry_keeps cfg)
  | readErrorLogs => exact hignore (R.readErrorLogs_keeps cfg)
  | checkForOverflowAndAcknowledge =>
    refine hignore (R.readBufferHeader_keeps.bind fun _ => keeps_fetch_bind fun h => ?_)
    exact ((updateBmcFlags_keeps _).bind fun _ => keeps_pure R.kept_stable _).ite
      (keeps_pure R.kept_stable _)
  | readUeLogFromReservedRegion => exact hignore R.readUeLogFromReservedRegion_keeps

lemma initialized_cached {version : UInt32} {q u : UInt16} {magic : Vector UInt32 4}
    {pci pci₀ : PciDataHandler}
    {h h₀ : CircularBufferHeader} {s : WordSize} (hq : q.toNat ≤ pci.regionSize.toNat)
    (hregion : CircularBufferHeader.size ≤ pci.regionSize.toNat)
    (hinit : (initializeBuffer version q u magic h).run (PciDataHandler.perform s) pci =
      ((.ok (), h₀), pci₀)) :
    Cached h₀ pci₀ := by
  obtain ⟨hh, rfl⟩ :=
    Prod.mk.inj (hinit.symm.trans (initializeBuffer_run version q u magic hq hregion))
  obtain rfl := (Prod.mk.inj hh).2
  refine ⟨hregion, ?_⟩
  rw [headerAt_store_toBytes (initialized_inRange version magic)]
  exact .refl _

abbrev BufferState :=
  Service.State DataInterface PciDataHandler CircularBufferHeader BufferError Unit

def CoherentAndOwned (cfg : Config) (s : BufferState) : Prop :=
  (∀ h, s.thread = .idle h → Coherent h (headerAt s.world.mmap)) ∧
    ∀ op k, s.thread = .busy (.call op k) → ChangesOwnWords cfg.sizeT s.world op

theorem bufferCalls_coherent {version : UInt32} {q u : UInt16} {magic : Vector UInt32 4}
    {pci pci₀ : PciDataHandler} {h h₀ : CircularBufferHeader} (hq : q.toNat ≤ pci.regionSize.toNat)
    (hregion : CircularBufferHeader.size ≤ pci.regionSize.toNat)
    (hinit : (initializeBuffer version q u magic h).run (PciDataHandler.perform cfg.sizeT) pci =
      ((.ok (), h₀), pci₀))
    {s : BufferState}
    (hrun : Service.Run (besideBios cfg) (BufferCall.body cfg) (fun _ => True)
      ⟨pci₀, .idle h₀, []⟩ s) :
    CoherentAndOwned cfg s := by
  have hholds := Service.run_holds (I := fun pci h _ => Kept id (fun _ => True) h pci)
    (fun _ _ h _ hw hk => besideBios_shared.kept_stable h _ _ hw hk)
    (fun call w h _ _ hk => Prog.Ensures.mono (call.body_keeps h w hk)
      (fun _ _ hends => ends_same.mp hends))
    hrun ⟨initialized_cached hq hregion hinit, trivial⟩
  obtain ⟨w, t, rs⟩ := s
  constructor
  · rintro h' rfl
    exact hholds.1.coherent
  · rintro op k rfl
    exact (hholds w .refl).1

/-! The BIOS has toggled its overflow flag, and the BMC acknowledges it. -/

def overflowRegion : PciDataHandler :=
  { initializedRegion with
    mmap := store initializedRegion.mmap CircularBufferHeader.biosFlagsOffset [2] }

def acknowledgeOverflow : Prog DataInterface (Except BufferError Unit × CircularBufferHeader) :=
  BufferCall.body smallConfig .checkForOverflowAndAcknowledge (initializedFromConfig smallConfig)

def acknowledgement : DataOp := .write CircularBufferHeader.bmcFlagsOffset (littleEndian 4 2)

def isOther (_ : PciDataHandler) (op : DataOp) : Bool := op ≠ acknowledgement

lemma isOther_eq_false {pci : PciDataHandler} {op : DataOp} :
    isOther pci op = false ↔ op = acknowledgement := by
  simp [isOther]

def acknowledged : BufferState where
  world := (acknowledgeOverflow.run (PciDataHandler.perform .bits64) overflowRegion).2
  thread := .idle (acknowledgeOverflow.run (PciDataHandler.perform .bits64) overflowRegion).1.2
  results := [(acknowledgeOverflow.run (PciDataHandler.perform .bits64) overflowRegion).1.1]

abbrev BufferRun : BufferState → BufferState → Prop :=
  Service.Run (besideBios smallConfig) (BufferCall.body smallConfig) (fun _ => True)

lemma overflowRegion_run :
    BufferRun ⟨initializedRegion, .idle (initializedFromConfig smallConfig), []⟩
    ⟨overflowRegion, .busy acknowledgeOverflow, []⟩ :=
  .tail (.single (.interfere (biosWrites_store (by decide))))
    (.start BufferCall.checkForOverflowAndAcknowledge (by simp))

lemma besideBios_performs (pci : PciDataHandler) (op : DataOp) :
    (besideBios smallConfig).answers pci op (pci.perform .bits64 op).1 (pci.perform .bits64 op).2 :=
      rfl

theorem bufferCalls_coherent_acknowledged : CoherentAndOwned smallConfig acknowledged ∧
    (headerAt acknowledged.world.mmap).bmcFlags = BufferFlags.overflow ∧
    ∃ pci k, BufferRun ⟨overflowRegion, .busy acknowledgeOverflow, []⟩
      ⟨pci, .busy (.call acknowledgement k), []⟩ ∧
      CoherentAndOwned smallConfig ⟨pci, .busy (.call acknowledgement k), []⟩ := by
  have hinit : (initializeBuffer 123 56 0 (.replicate 4 0) .zero).run
    (PciDataHandler.perform smallConfig.sizeT)
      smallRegion = ((.ok (), initializedFromConfig smallConfig), initializedRegion) :=
      Prod.ext rfl rfl
  refine ⟨?_, by decide +kernel, ?_⟩
  · exact bufferCalls_coherent (by decide) (by decide) hinit
      (overflowRegion_run.trans
        (Service.run_ends besideBios_performs acknowledgeOverflow overflowRegion []))
  · have hstops : acknowledgeOverflow.passes (PciDataHandler.perform .bits64) isOther
        overflowRegion = false := by
      decide +kernel
    obtain ⟨pci, op, k, hrun, hcheck⟩ : ∃ pci op k,
      BufferRun ⟨overflowRegion, .busy acknowledgeOverflow, []⟩
        ⟨pci, .busy (.call op k), []⟩ ∧ isOther pci op = false :=
        Service.run_stops besideBios_performs hstops
    obtain rfl := isOther_eq_false.mp hcheck
    exact ⟨pci, k, hrun,
      bufferCalls_coherent (by decide) (by decide) hinit (overflowRegion_run.trans hrun)⟩

end SmmErrorLogger.Buffer
