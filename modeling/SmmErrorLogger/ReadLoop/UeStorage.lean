import SmmErrorLogger.Library.Flags
import SmmErrorLogger.ReadLoop.System
import SmmErrorLogger.Storer.FileStorer

/-! What is in the file system when a UE log is acknowledged. -/

namespace SmmErrorLogger.ReadLoop

open Buffer Rde Storer Library Library.Bytes Library.Interaction
open Library.Interaction.Proc

/-- What happened in this iteration: the UE log that was handed over, with the storer before it and
the switch at that moment, and whether it was stored with care and no error was met while the switch
was set. -/
structure UeRecord (V : Type) where
  ueLog : Option (List UInt8 × FileStorer V)
  ueSwitch : UInt32
  careful : Bool

def UeRecord.start {V : Type} : UeRecord V := ⟨none, 0, true⟩

variable {V : Type} (cfg : Config) (scfg : StorerConfig) (decoder : BejDecoder)
  (writer : ExternalStorerFileWriter) (outside : Outside V)

def newCalls (before after : FileStorer V) : List (Event FsCalls) :=
  after.files.2.drop before.files.2.length

def newTexts (before after : FileStorer V) : List Text := after.texts.drop before.texts.length

def carefully (before after : FileStorer V) : Bool :=
  allWritten (newCalls before after) && (newTexts before after).all fun jsonStr =>
    match scfg.parse jsonStr with
    | .parsed j => nulFree before.storer j
    | _ => true

def System.ueSwitch {S G : Type} (w : System S G) : UInt32 := w.bmcFlags &&& BufferFlags.ueSwitch

def observeUeLog (w : System (FileStorer V) (UeRecord V)) :
    (op : LoopOp StorerError) → (LoopCalls StorerError).Ans op → RdeCommandHandler (FileStorer V) →
      UeRecord V
  | .decodeRdeCommand .ueRegion rdeCommand _, _, handler =>
    ⟨some (rdeCommand, w.handler.exStorer), w.ueSwitch,
      w.record.careful && carefully scfg w.handler.exStorer handler.exStorer⟩
  | .decodeRdeCommand .queue _ _, _, _ => w.record
  | .data _, _, _ => w.record
  -- the catch block clears the switch
  | .print (.processingError _), _, _ =>
    { w.record with careful := w.record.careful && w.ueSwitch = 0 }
  | .print _, _, _ => w.record
  -- the iteration is over
  | .asyncWait, _, _ => .start

def carriesPayload (rdeCommand : List UInt8) : Bool :=
  RdeOperationInitReqHeader.size ≤ rdeCommand.length &&
    (RdeOperationInitReqHeader.ofBytes
      (rdeCommand.take RdeOperationInitReqHeader.size)).containsRequestPayload

def UeLogStored (w : System (FileStorer V) (UeRecord V)) : Prop :=
  ∃ rdeCommand before, w.record.ueLog = some (rdeCommand, before) ∧ w.record.ueSwitch = w.ueSwitch ∧
    (carriesPayload rdeCommand →
      ∃ dictionaries encodedPldmBlock jsonStr j,
      decoder dictionaries encodedPldmBlock = (0, jsonStr) ∧
        newTexts before w.handler.exStorer = [jsonStr] ∧ scfg.parse jsonStr = .parsed j ∧
        StoredCompletely writer j (newCalls before w.handler.exStorer))

def Toggles {S G ε : Type} (cfg : Config) (w : System S G) : LoopOp ε → Prop
  | .data op => System.ueSwitch { w with pci := (w.pci.perform cfg.sizeT op).2 } ≠ w.ueSwitch
  | .decodeRdeCommand _ _ _ => False
  | .print _ => False
  | .asyncWait => False

instance {S G ε : Type} {cfg : Config} {w : System S G} :
    (op : LoopOp ε) → Decidable (Toggles cfg w op)
  | .data _ => inferInstanceAs (Decidable (_ ≠ _))
  | .decodeRdeCommand _ _ _ => inferInstanceAs (Decidable False)
  | .print _ => inferInstanceAs (Decidable False)
  | .asyncWait => inferInstanceAs (Decidable False)

def permitsAcknowledgement (w : System (FileStorer V) (UeRecord V)) (op : LoopOp StorerError) :
    Prop :=
  Toggles cfg w op → w.record.careful → UeLogStored scfg decoder writer w

abbrev storesBesideBios :
    Environment (LoopCalls StorerError) (System (FileStorer V) (UeRecord V)) :=
  besideBios cfg decoder (fileStorer writer outside scfg)
    (permitsAcknowledgement cfg scfg decoder writer) (observeUeLog scfg)

variable {cfg scfg decoder writer outside}

section Switch

variable {S G ε : Type} {w w' : System S G} {off : ℕ} {bytes : List UInt8}

lemma lowBit_ofNat (n : ℕ) : UInt32.ofNat n &&& 1 = (UInt8.ofNat n).toUInt32 &&& 1 := by
  apply UInt32.toNat_inj.mp
  have hone : (1 : UInt32).toNat = 1 := rfl
  rw [UInt32.toNat_and, UInt32.toNat_and, hone, Nat.and_one_is_mod, Nat.and_one_is_mod,
    UInt8.toNat_toUInt32,
    UInt32.toNat_ofNat', UInt8.toNat_ofNat', Nat.mod_mod_of_dvd _ (by decide),
      Nat.mod_mod_of_dvd _ (by decide)]

lemma ueSwitch_byte :
    w.ueSwitch = (w.pci.mmap CircularBufferHeader.bmcFlagsOffset).toUInt32 &&& 1 := by
  rw [System.ueSwitch, System.bmcFlags, headerAt_bmcFlags]
  refine (lowBit_ofNat _).trans (congrArg (fun b : UInt8 => b.toUInt32 &&& 1) ?_)
  change UInt8.ofNat (_ + 256 * _) = _
  apply UInt8.toNat_inj.mp
  rw [UInt8.toNat_ofNat', Nat.add_mul_mod_self_left]
  exact Nat.mod_eq_of_lt (UInt8.toNat_lt _)

lemma System.ueSwitch_congr (h : w'.bmcFlags = w.bmcFlags) : w'.ueSwitch = w.ueSwitch := by
  rw [ueSwitch, ueSwitch, h]

lemma toggles_write (h : Toggles cfg w (.data (.write off bytes) : LoopOp ε)) :
    off ≤ CircularBufferHeader.bmcFlagsOffset ∧
    (byte bytes (CircularBufferHeader.bmcFlagsOffset - off)).toUInt32 &&& 1 ≠ w.ueSwitch := by
  rw [Toggles, ueSwitch_byte] at h
  rcases w.pci.write_byte cfg.sizeT off bytes CircularBufferHeader.bmcFlagsOffset
    with hsame | ⟨hoff, hwritten⟩
  · exact absurd ((congrArg (fun b : UInt8 => b.toUInt32 &&& 1) hsame).trans ueSwitch_byte.symm) h
  · exact ⟨hoff, hwritten ▸ h⟩

lemma not_toggles_flags {f : UInt32} (hf : f &&& BufferFlags.ueSwitch = w.ueSwitch) :
    ¬ Toggles cfg w (flagsWrite ε f) := by
  intro h
  have hbit : f &&& 1 = (UInt8.ofNat f.toNat).toUInt32 &&& 1 := by
    rw [← lowBit_ofNat, UInt32.ofNat_toNat]
  exact (toggles_write h).2 (hbit.symm.trans hf)

lemma not_toggles_erase (hbytes : byte bytes CircularBufferHeader.bmcFlagsOffset = 0)
    (hclear : w.ueSwitch = 0) :
    ¬ Toggles cfg w (.data (.write 0 bytes) : LoopOp ε) :=
  fun h => (toggles_write h).2 (by rw [Nat.sub_zero, hbytes, hclear]; rfl)

end Switch

def LargeEnough (cfg : Config) (w : System (FileStorer V) (UeRecord V)) : Prop :=
  (UInt16.ofNat cfg.queueRegionSize).toNat ≤ w.pci.regionSize.toNat

structure Taken (cfg : Config) (scfg : StorerConfig) (decoder : BejDecoder)
    (writer : ExternalStorerFileWriter) (w : System (FileStorer V) (UeRecord V)) : Prop where
  large : LargeEnough cfg w
  stored : w.record.careful → UeLogStored scfg decoder writer w

structure Erring (cfg : Config) (w : System (FileStorer V) (UeRecord V)) : Prop where
  large : LargeEnough cfg w
  clear : w.record.careful → w.ueSwitch = 0

lemma ueLog_taken (huuid : ∀ v, 0 ∉ (outside.uuid v).1) {rdeCommand : List UInt8}
    {status : RdeDecodeStatus}
    {w w' : System (FileStorer V) (UeRecord V)} (hlarge : LargeEnough cfg w)
    (ha : (storesBesideBios cfg scfg decoder writer outside).answers w
      (.decodeRdeCommand .ueRegion rdeCommand .rdeOperationInitRequest)
      (.ok status : Except StorerError RdeDecodeStatus) w')
    (hstatus : status = .rdeOk ∨ status = .rdeStopFlagReceived) :
    Taken cfg scfg decoder writer w' := by
  obtain ⟨⟨hpci, span, hspan, hdecode⟩, hrecord⟩ := ha
  have hlarge' : LargeEnough cfg w' := by rwa [LargeEnough, hpci]
  refine ⟨hlarge', fun hcareful => ⟨rdeCommand, w.handler.exStorer, ?_, ?_, fun hpayload => ?_⟩⟩
  · rw [hrecord]
    rfl
  · have hswitch : w'.ueSwitch = w.ueSwitch :=
      System.ueSwitch_congr (by rw [System.bmcFlags, System.bmcFlags, hpci])
    rw [hrecord, hswitch]
    rfl
  have hrecorded : (w.record.careful && carefully scfg w.handler.exStorer w'.handler.exStorer) =
      true := by
    rw [hrecord] at hcareful
    exact hcareful
  obtain ⟨-, hcarefully⟩ := Bool.and_eq_true_iff.mp hrecorded
  obtain ⟨hwritten, hfree⟩ := Bool.and_eq_true_iff.mp hcarefully
  obtain ⟨hlength, hheader⟩ := Bool.and_eq_true_iff.mp hpayload
  have hsize : RdeOperationInitReqHeader.size ≤ span.size := by
    rw [← hspan, load_length] at hlength
    exact of_decide_eq_true hlength
  rw [← hspan, load_take hsize] at hheader
  obtain ⟨dictionaries, encodedPldmBlock, jsonStr, hdecoded, hpublish⟩ :=
    decode_published hsize hheader hdecode hstatus
  obtain ⟨j, calls, hparse, htexts, hcalls, hstored⟩ := publishJson_stored huuid hpublish
  have hnewTexts : newTexts w.handler.exStorer w'.handler.exStorer = [jsonStr] := by
    rw [newTexts, htexts, List.drop_left]
  have hnewCalls : newCalls w.handler.exStorer w'.handler.exStorer = calls := by
    rw [newCalls, hcalls, List.drop_left]
  refine ⟨dictionaries, encodedPldmBlock, jsonStr, j, hdecoded, hnewTexts, hparse, ?_⟩
  rw [hnewCalls] at hwritten ⊢
  rw [hnewTexts, List.all_cons, hparse, List.all_nil, Bool.and_true] at hfree
  exact hstored hwritten hfree

lemma LargeEnough.same {w w' : System (FileStorer V) (UeRecord V)} (h : LargeEnough cfg w)
    (hregion : w'.pci.regionSize = w.pci.regionSize) : LargeEnough cfg w' := by
  rwa [LargeEnough, hregion]

lemma UeLogStored.same {w w' : System (FileStorer V) (UeRecord V)}
    (h : UeLogStored scfg decoder writer w)
    (hhandler : w'.handler = w.handler) (hrecord : w'.record = w.record)
    (hswitch : w'.ueSwitch = w.ueSwitch) :
    UeLogStored scfg decoder writer w' := by
  rwa [UeLogStored, hhandler, hrecord, hswitch]

lemma taken_aboutFlags : AboutFlags (Taken cfg scfg decoder writer (V := V)) :=
  fun _ _ hsame h => ⟨h.large.same hsame.regionSize, fun hcareful =>
    (h.stored (hsame.record ▸ hcareful)).same hsame.handler hsame.record
      (System.ueSwitch_congr hsame.bmcFlags)⟩

lemma largeEnough_aboutFlags : AboutFlags (LargeEnough cfg (V := V)) :=
  fun _ _ hsame h => h.same hsame.regionSize

lemma erring_aboutFlags : AboutFlags (Erring cfg (V := V)) :=
  fun _ _ hsame h => ⟨h.large.same hsame.regionSize, fun hcareful =>
    (System.ueSwitch_congr hsame.bmcFlags).trans (h.clear (hsame.record ▸ hcareful))⟩

lemma Erring.erase {w : System (FileStorer V) (UeRecord V)} (h : Erring cfg w) {bytes : List UInt8}
    (hbytes : byte bytes CircularBufferHeader.bmcFlagsOffset = 0) :
    Erring cfg { w with pci := (w.pci.write cfg.sizeT 0 bytes).2 } := by
  refine ⟨h.large.same PciDataHandler.write_regionSize, fun hcareful => ?_⟩
  by_contra hset
  have hclear := h.clear hcareful
  exact not_toggles_erase (ε := StorerError) hbytes hclear fun hsame => hset (hsame.trans hclear)

theorem ueLog_invariant (huuid : ∀ v, 0 ∉ (outside.uuid v).1) : FlagsInvariant cfg decoder
    (fileStorer writer outside scfg) (permitsAcknowledgement cfg scfg decoder writer)
      (observeUeLog scfg)
    (LargeEnough cfg) (Taken cfg scfg decoder writer) (LargeEnough cfg) (Erring cfg) where
  kept := largeEnough_aboutFlags
  loggedFlags := taken_aboutFlags
  transferredFlags := largeEnough_aboutFlags
  failedFlags := erring_aboutFlags
  region _ h := h.large
  cleared _ h _ := h.large
  others w op hop htoggles := by
    rcases op with (_ | ⟨off, bytes⟩ | _) | _ | _ | _
    case data.write => exact absurd rfl (hop off bytes)
    case data.read => exact absurd rfl htoggles
    case data.getMemoryRegionSize => exact absurd rfl htoggles
    all_goals exact htoggles.elim
  readPtr w p htoggles := absurd (toggles_write htoggles).1 (by decide)
  erase bytes hbytes w h := by
    refine ⟨fun htoggles hcareful => absurd htoggles (not_toggles_erase hbytes (h.clear hcareful)),
      ?_⟩
    rintro ans w' ⟨⟨hperform, hhandler⟩, hrecord⟩
    have hpci : (w.pci.write cfg.sizeT 0 bytes).2 = w'.pci := congrArg Prod.snd hperform
    obtain rfl : { w with pci := (w.pci.write cfg.sizeT 0 bytes).2 } = w' := by
      rw [hpci, ← hhandler, ← show w'.record = w.record from hrecord]
    exact h.erase hbytes
  dataRecord _ _ _ _ := rfl
  printRecord w message _ _ hmessage := by
    cases message with
    | processingError e => exact absurd rfl (hmessage e)
    | _ => rfl
  processingError w e ans w' h ha := by
    obtain ⟨⟨hpci, -⟩, hrecord⟩ := ha
    refine ⟨h.same (by rw [hpci]), fun hcareful => ?_⟩
    rw [hrecord] at hcareful
    have hclear := of_decide_eq_true (Bool.and_eq_true_iff.mp hcareful).2
    exact (System.ueSwitch_congr (by rw [System.bmcFlags, System.bmcFlags, hpci])).trans hclear
  timer w ans w' h ha := h.same (by rw [ha.1.1])
  ueLog w rdeCommand result w' h ha := by
    refine ⟨h.same (by rw [ha.1.1]), ?_⟩
    rintro (rfl | rfl)
    · exact ueLog_taken huuid h ha (Or.inl rfl)
    · exact ueLog_taken huuid h ha (Or.inr rfl)
  entry w rdeCommand type result w' h ha :=
    ⟨h.same (by rw [ha.1.1]), fun _ => h.same (by rw [ha.1.1])⟩
  ueSwitch w h := ⟨fun _ hcareful => h.stored hcareful, h.large⟩
  overflow w h := ⟨fun htoggles => absurd htoggles (not_toggles_flags (Flags.toggle_other rfl)), h⟩
  ready w h := ⟨fun htoggles => absurd htoggles (not_toggles_flags (Flags.set_other rfl)), h⟩

def writingOutside : Outside Bool where
  fs
    | writes, .isDirectory _ => (FileResult.done true, writes)
    | writes, .createDirectories _ => (FileResult.done true, writes)
    | writes, .writeFile _ _ => (writes, writes)
    | writes, .removeAll _ => (true, writes)
  uuid writes := (sampleUuid 0, writes)

def fillingOutside : Outside ℕ where
  fs
    | room, .isDirectory _ => (FileResult.done false, room)
    | room, .createDirectories _ => (FileResult.done (0 < room), room)
    | room, .writeFile _ _ => (true, room - 1)
    | room, .removeAll _ => (true, room)
  uuid room := (sampleUuid 0, room)

def ueConfig : Config := { smallConfig with queueRegionSize := 73, ueRegionSize := 17 }

def ueInitialized : PciDataHandler :=
  ((initializeFromConfig ueConfig .zero).run (PciDataHandler.perform .bits64) ⟨73, fun _ => 0⟩).2

lemma ueInitialized_initialized :
    Initialized ueConfig ueInitialized (initializedFromConfig ueConfig) :=
  initializeFromConfig_region ⟨73, fun _ => 0⟩ .zero (by decide) (by decide) (by decide)

def ueCommand : List UInt8 := [0, 0, 0, 0, 0, 0, 4, 2, 0, 0, 0, 0, 0, 0, 0, 0, 0]

def uePosted (pci : PciDataHandler) (biosFlags : ℕ) : PciDataHandler :=
  let written := store pci.mmap CircularBufferHeader.size ueCommand
  { pci with mmap := store written CircularBufferHeader.biosFlagsOffset (littleEndian 4 biosFlags) }

lemma uePosted_biosWrites (pci : PciDataHandler) (biosFlags : ℕ) :
    BiosWrites pci (uePosted pci biosFlags) := by
  have hregion : BiosWrites pci
      { pci with mmap := store pci.mmap CircularBufferHeader.size ueCommand } :=
    biosWrites_store (by decide)
  exact hregion.trans (biosWrites_store (by decide))

def serviceDecoder : BejDecoder := fun _ _ => (0, serviceText)

section Service

variable (outside : Outside V) (v : V)

def ueStorer : ExternalStorerInterface (FileStorer V) StorerError :=
  fileStorer ExternalStorerFileWriter.bmcweb outside sampleConfig

def ueHandler : RdeCommandHandler (FileStorer V) :=
  ((RdeCommandHandler.fresh ⟨.fresh, (v, []), []⟩).decode .bits64 serviceDecoder (ueStorer outside)
    ⟨.ofList [0, 3, 0, 0, 0, 0, 0, 0, 0, 0, 0, 0, 0, 0], .rdeMultiPartReceiveResponse⟩).2

def ueSystem : System (FileStorer V) (UeRecord V) := ⟨ueInitialized, ueHandler outside v, .start⟩

def uePerform : System (FileStorer V) (UeRecord V) → (op : LoopOp StorerError) →
    (LoopCalls StorerError).Ans op × System (FileStorer V) (UeRecord V) :=
  System.perform ueConfig serviceDecoder (ueStorer outside) (observeUeLog sampleConfig)

abbrev ueEnvironment : Environment (LoopCalls StorerError) (System (FileStorer V) (UeRecord V)) :=
  storesBesideBios ueConfig sampleConfig serviceDecoder ExternalStorerFileWriter.bmcweb outside

abbrev UeRun : Service.State (LoopCalls StorerError)
    (System (FileStorer V) (UeRecord V)) CircularBufferHeader Empty Bool → Prop :=
  Service.Run (ueEnvironment outside) (readLoop ueConfig) waits
    ⟨ueSystem outside v, .idle (initializedFromConfig ueConfig), []⟩

variable {outside v}

lemma uePerform_performs (w : System (FileStorer V) (UeRecord V)) (op : LoopOp StorerError) :
    (ueEnvironment outside).answers w op (uePerform outside w op).1 (uePerform outside w op).2 :=
  besideBios_performs w op

def uePost (w : System (FileStorer V) (UeRecord V)) (biosFlags : ℕ) :
    System (FileStorer V) (UeRecord V) :=
  { w with pci := uePosted w.pci biosFlags }

lemma uePost_run {w : System (FileStorer V) (UeRecord V)} {h : CircularBufferHeader}
    {rs : List (Except Empty Bool)}
    (hrun : UeRun outside v ⟨w, .idle h, rs⟩) (biosFlags : ℕ) :
    UeRun outside v ⟨uePost w biosFlags, .idle h, rs⟩ := by
  have hbios : (ueEnvironment outside).interferes w (uePost w biosFlags) :=
    ⟨uePosted_biosWrites w.pci biosFlags, rfl, rfl⟩
  exact hrun.tail (.interfere hbios)

lemma uePosted_stops {w : System (FileStorer V) (UeRecord V)} {h : CircularBufferHeader}
    {rs : List (Except Empty Bool)}
    {biosFlags : ℕ} {also : System (FileStorer V) (UeRecord V) → Bool}
    (hrun : UeRun outside v ⟨w, .idle h, rs⟩)
    (hrs : ∀ r ∈ rs, waits r) (hstops : (readLoop ueConfig none h).passes (uePerform outside)
      (fun w op => !(decide (Toggles ueConfig w op) && also w)) (uePost w biosFlags) = false) :
    ∃ w' op k,
      UeRun outside v ⟨w', .busy (.call op k), rs⟩ ∧ Toggles ueConfig w' op ∧ also w' := by
  obtain ⟨w', op, k, hbusy, hcheck⟩ := Service.run_stops uePerform_performs hstops
  have hboth : ∀ {op : LoopOp StorerError},
    (!(decide (Toggles ueConfig w' op) && also w')) = false →
      Toggles ueConfig w' op ∧ also w' := by simp
  exact ⟨w', op, k, ((uePost_run hrun biosFlags).tail (.start none hrs)).trans hbusy, hboth hcheck⟩

end Service

def lost (w : System (FileStorer V) (UeRecord V)) : Bool :=
  match w.record.ueLog with
  | some (rdeCommand, before) =>
    carriesPayload rdeCommand && (newCalls before w.handler.exStorer).any failed
  | none => false

lemma lost_not_stored {w : System (FileStorer V) (UeRecord V)} (h : lost w) :
    ¬ UeLogStored scfg decoder writer w := by
  rintro ⟨rdeCommand, before, hlog, -, hstored⟩
  rw [lost, hlog] at h
  obtain ⟨hpayload, hfailed⟩ := Bool.and_eq_true_iff.mp h
  obtain ⟨_, _, _, j, -, -, -, hstored⟩ := hstored hpayload
  obtain ⟨e, he, hfails⟩ := List.any_eq_true.mp hfailed
  rw [hstored.complete e he] at hfails
  cases hfails

def storedOnce : (Except Empty Bool × CircularBufferHeader) × System (FileStorer ℕ) (UeRecord ℕ) :=
  (readLoop ueConfig none (initializedFromConfig ueConfig)).run (uePerform fillingOutside)
    (uePost (ueSystem fillingOutside 2) 1)

lemma storedOnce_run :
    UeRun fillingOutside 2 ⟨storedOnce.2, .idle storedOnce.1.2, [storedOnce.1.1]⟩ := by
  rw [storedOnce]
  exact (uePost_run .refl 1).trans (Service.run_iteration uePerform_performs none (by simp))

lemma lost_not_acknowledged {v : V} {outside : Outside V}
    (h : ∃ w op k rs, UeRun outside v ⟨w, .busy (.call op k), rs⟩ ∧
      Toggles ueConfig w op ∧ lost w) :
    ¬ ∀ s, UeRun outside v s → ∀ op k, s.thread = .busy (.call op k) → Toggles ueConfig s.world op →
      UeLogStored sampleConfig serviceDecoder ExternalStorerFileWriter.bmcweb s.world := by
  intro hstored
  obtain ⟨w, op, k, rs, hrun, htoggles, hlost⟩ := h
  exact lost_not_stored hlost (hstored _ hrun op k rfl htoggles)

end SmmErrorLogger.ReadLoop
