import SmmErrorLogger.Library.Flags
import SmmErrorLogger.Rde.DictionaryCount
import SmmErrorLogger.ReadLoop.System

/-! What the ready bit says about the dictionaries of the handler. -/

namespace SmmErrorLogger.ReadLoop

open Buffer Rde Library Library.Bytes Library.Interaction
open Library.Interaction.Proc

variable {S ε : Type} {cfg : Config} {decoder : BejDecoder} {storer : ExternalStorerInterface S ε}

/-- The record is whether a transfer has failed since the last one that succeeded. -/
def observeTransfers (w : System S Bool) :
    (op : LoopOp ε) → (LoopCalls ε).Ans op → RdeCommandHandler S → Bool
  | .decodeRdeCommand _ _ _, result, handler => failedSince w.record result handler.flagState
  | .data _, _, _ => w.record
  | .print _, _, _ => w.record
  | .asyncWait, _, _ => w.record

abbrev transfersBesideBios (cfg : Config) (decoder : BejDecoder)
    (storer : ExternalStorerInterface S ε) :
    Environment (LoopCalls ε) (System S Bool) :=
  besideBios cfg decoder storer (fun _ _ => True) observeTransfers

def System.Ready (w : System S Bool) : Prop := w.bmcFlags &&& BmcFlags.ready ≠ 0

structure Sound (cfg : Config) (w : System S Bool) : Prop where
  counted : w.handler.dictionaryManager.Counted
  region : (UInt16.ofNat cfg.queueRegionSize).toNat ≤ w.pci.regionSize.toNat

structure ReadyMeans (cfg : Config) (w : System S Bool) : Prop where
  sound : Sound cfg w
  usable : w.Ready → w.handler.receiver.Usable w.record

structure Received (cfg : Config) (w : System S Bool) : Prop where
  sound : Sound cfg w
  nonempty : w.handler.dictionaryManager.validIds.Nonempty

lemma Sound.same {w w' : System S Bool} (h : Sound cfg w) (hhandler : w'.handler = w.handler)
    (hregion : w'.pci.regionSize = w.pci.regionSize) : Sound cfg w' :=
  ⟨hhandler ▸ h.counted, hregion ▸ h.region⟩

lemma readyMeans_aboutFlags : AboutFlags (ReadyMeans cfg : System S Bool → Prop) := by
  intro w w' hsame h
  refine ⟨h.sound.same hsame.handler hsame.regionSize, fun hready => ?_⟩
  rw [hsame.handler, hsame.record]
  apply h.usable
  rwa [System.Ready, System.bmcFlags, hsame.bmcFlags] at hready

lemma received_aboutFlags : AboutFlags (Received cfg : System S Bool → Prop) :=
  fun _ _ hsame h => ⟨h.sound.same hsame.handler hsame.regionSize, hsame.handler ▸ h.nonempty⟩

lemma decode_means {source : LogSource} {rdeCommand : List UInt8} {type : RdeCommandType}
    {result : Except ε RdeDecodeStatus} {w w' : System S Bool} (h : ReadyMeans cfg w)
    (ha : (transfersBesideBios cfg decoder storer).answers w
      (.decodeRdeCommand source rdeCommand type) result w') :
    ReadyMeans cfg w' ∧ (result = .ok .rdeStopFlagReceived → Received cfg w') := by
  obtain ⟨⟨hpci, span, -, hdecode⟩, hrecord⟩ := ha
  obtain ⟨hcounted, husable, hstop⟩ := decode_usable hdecode
  have hsound : Sound cfg w' := ⟨hcounted h.sound.counted, hpci ▸ h.sound.region⟩
  refine ⟨⟨hsound, fun hready => ?_⟩, fun hs => ⟨hsound, hstop hs⟩⟩
  rw [System.Ready, System.bmcFlags, hpci] at hready
  rw [hrecord]
  exact husable (h.usable hready)

lemma ReadyMeans.withFlags {w : System S Bool} (h : ReadyMeans cfg w) {f : UInt32}
    (hf : f &&& BmcFlags.ready = w.bmcFlags &&& BmcFlags.ready) :
    ReadyMeans cfg (w.withFlags f) := by
  refine ⟨h.sound.same rfl rfl, fun hready => h.usable ?_⟩
  rwa [System.Ready, System.withFlags_bmcFlags, hf] at hready

theorem readyMeans_invariant : FlagsInvariant cfg decoder storer (fun _ _ => True) observeTransfers
    (ReadyMeans cfg) (ReadyMeans cfg) (Received cfg) (Sound cfg) where
  kept := readyMeans_aboutFlags
  loggedFlags := readyMeans_aboutFlags
  transferredFlags := received_aboutFlags
  failedFlags _ _ hsame h := h.same hsame.handler hsame.regionSize
  region _ h := h.region
  cleared w h hflags := ⟨h, fun hready => absurd hready (by simp [System.Ready, hflags])⟩
  others _ _ _ := trivial
  readPtr _ _ := trivial
  erase bytes _ w h := by
    refine ⟨trivial, ?_⟩
    rintro ans w' ⟨⟨hperform, hhandler⟩, -⟩
    have hpci : (w.pci.write cfg.sizeT 0 bytes).2 = w'.pci := congrArg Prod.snd hperform
    exact h.same hhandler (by rw [← hpci, PciDataHandler.write_regionSize])
  dataRecord _ _ _ _ := rfl
  printRecord _ _ _ _ _ := rfl
  processingError _ _ _ _ h ha := h.sound.same ha.1.2 (by rw [ha.1.1])
  timer w ans w' h ha :=
    readyMeans_aboutFlags _ _ ⟨ha.1.2, ha.2, by rw [ha.1.1], by rw [ha.1.1]⟩ h
  ueLog _ _ _ _ h ha := ⟨(decode_means h ha).1, fun _ => (decode_means h ha).1⟩
  entry _ _ _ _ _ h ha := decode_means h ha
  ueSwitch _ h := ⟨trivial, h.withFlags (Flags.toggle_other rfl)⟩
  overflow _ h := ⟨trivial, h.withFlags (Flags.toggle_other rfl)⟩
  ready w h := ⟨trivial, h.sound.same rfl rfl, fun _ _ _ => h.nonempty⟩

theorem readLoop_ready (decoder : BejDecoder) (storer : ExternalStorerInterface S ε) (exStorer : S)
    {pci : PciDataHandler} {h : CircularBufferHeader} (hinit : Initialized cfg pci h)
    {w : System S Bool} {h' : CircularBufferHeader} {results : List (Except Empty Bool)}
    (hrun : Service.Run (transfersBesideBios cfg decoder storer) (readLoop cfg) waits
      ⟨⟨pci, .fresh exStorer, false⟩, .idle h, []⟩ ⟨w, .idle h', results⟩)
    (hready : w.bmcFlags &&& BmcFlags.ready ≠ 0) (hidle : w.handler.flagState = .rdeStateIdle)
    (hfailed : w.record = false) :
    (∃ resourceId data, w.handler.dictionaryManager.getDictionary resourceId = some data) ∧
      (0 < w.handler.getDictionaryCount ∨
        ∀ resourceId, ∃ data, w.handler.dictionaryManager.getDictionary resourceId =
          some data) := by
  have hsound : Sound cfg (⟨pci, .fresh exStorer, false⟩ : System S Bool) :=
    ⟨DictionaryManager.counted_empty, hinit.queueSize⟩
  have hkept : Kept System.pci (ReadyMeans cfg) h' w :=
    readyMeans_invariant.run_kept hinit hsound hrun
  obtain ⟨resourceId, hvalid⟩ := hkept.2.usable hready hidle hfailed
  have hcounted := hkept.2.sound.counted
  refine ⟨⟨resourceId, DictionaryManager.mem_validIds_iff.mp hvalid⟩, ?_⟩
  by_cases hall : ∃ r, r ∉ w.handler.dictionaryManager.validIds
  · exact Or.inl (hcounted.getDictionaryCount_pos ⟨resourceId, hvalid⟩ hall)
  · exact Or.inr fun r => DictionaryManager.mem_validIds_iff.mp (not_not.mp fun hr => hall ⟨r, hr⟩)

def roomyConfig : Config := { smallConfig with queueRegionSize := 96 }

def roomyRegion : PciDataHandler :=
  ((initializeFromConfig roomyConfig .zero).run (PciDataHandler.perform .bits64) ⟨96, fun _ => 0⟩).2

def appended (pci : PciDataHandler) (bs : List UInt8) : PciDataHandler :=
  let written := store pci.mmap CircularBufferHeader.size bs
  { pci with
    mmap := store written CircularBufferHeader.biosWritePtrOffset (littleEndian 3 bs.length) }

lemma appended_biosWrites (pci : PciDataHandler) (bs : List UInt8) :
    BiosWrites pci (appended pci bs) := by
  have hqueue : BiosWrites pci { pci with mmap := store pci.mmap CircularBufferHeader.size bs } :=
    biosWrites_store (by decide)
  exact hqueue.trans (biosWrites_store (by decide))

def goodDictionary : List UInt8 :=
  [0, 0, 15, 0, 108, 1] ++ [0, 3, 5, 0, 0, 0, 1, 0, 0, 0, 1, 0x1b, 0xdf, 0x05, 0xa5]

def badDictionary : List UInt8 := [0, 0, 14, 0, 8, 1] ++ [0, 3, 5, 0, 0, 0, 0, 0, 0, 0, 1, 0, 0, 0]

def noStorer : ExternalStorerInterface Unit Unit := ⟨fun _ exStorer => (.ok true, exStorer)⟩

def noDecoder : BejDecoder := fun _ _ => (0, [])

def afterIteration (bs : List UInt8) :
    (Except Empty Bool × CircularBufferHeader) × System Unit Bool :=
  (readLoop roomyConfig none (initializedFromConfig roomyConfig)).run
    (System.perform roomyConfig noDecoder noStorer observeTransfers)
    ⟨appended roomyRegion bs, .fresh (), false⟩

lemma roomyRegion_initialized :
    Initialized roomyConfig roomyRegion (initializedFromConfig roomyConfig) :=
  initializeFromConfig_region ⟨96, fun _ => 0⟩ .zero (by decide) (by decide) (by decide)

lemma afterIteration_run (bs : List UInt8) :
    Service.Run (transfersBesideBios roomyConfig noDecoder noStorer) (readLoop roomyConfig) waits
      ⟨⟨roomyRegion, .fresh (), false⟩, .idle (initializedFromConfig roomyConfig), []⟩
      ⟨(afterIteration bs).2, .idle (afterIteration bs).1.2, [(afterIteration bs).1.1]⟩ := by
  have hbios : (transfersBesideBios roomyConfig noDecoder noStorer).interferes
    ⟨roomyRegion, .fresh (), false⟩
      ⟨appended roomyRegion bs, .fresh (), false⟩ := ⟨appended_biosWrites roomyRegion bs, rfl, rfl⟩
  refine .head (.interfere hbios) ?_
  rcases hrun : afterIteration bs with ⟨⟨r, h'⟩, w'⟩
  exact Service.run_once (i := none) besideBios_performs (by simp) hrun

/-- The wrong checksum invalidates the dictionary, and the ready bit stays. -/
theorem readLoop_not_ready :
    Initialized roomyConfig roomyRegion (initializedFromConfig roomyConfig) ∧
    ¬ ∀ (w : System Unit Bool) (h' : CircularBufferHeader) (results : List (Except Empty Bool)),
      Service.Run (transfersBesideBios roomyConfig noDecoder noStorer) (readLoop roomyConfig) waits
        ⟨⟨roomyRegion, .fresh (), false⟩, .idle (initializedFromConfig roomyConfig), []⟩
          ⟨w, .idle h', results⟩ →
      w.bmcFlags &&& BmcFlags.ready ≠ 0 → w.handler.flagState = .rdeStateIdle →
        0 < w.handler.getDictionaryCount := by
  refine ⟨roomyRegion_initialized, fun h => ?_⟩
  have hcount := h _ _ _ (afterIteration_run (goodDictionary ++ badDictionary)) (by decide +kernel)
    (by decide +kernel)
  exact absurd hcount (by decide +kernel)

theorem readLoop_ready_goodDictionary :
    let w := (afterIteration goodDictionary).2
    w.handler.dictionaryManager.getDictionary 5 = some [1] ∧
      (∃ resourceId data, w.handler.dictionaryManager.getDictionary resourceId = some data) ∧
      (0 < w.handler.getDictionaryCount ∨
        ∀ resourceId, ∃ data, w.handler.dictionaryManager.getDictionary resourceId = some data) :=
  ⟨by decide +kernel, readLoop_ready noDecoder noStorer () roomyRegion_initialized
    (afterIteration_run goodDictionary) (by decide +kernel) (by decide +kernel)
    (by decide +kernel)⟩

end SmmErrorLogger.ReadLoop
