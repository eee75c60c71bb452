import SmmErrorLogger.ReadLoop.Invariant
import SmmErrorLogger.Rde.Requests

/-! The loop over a region that it shares with the BIOS, and with its handler of RDE commands. -/

namespace SmmErrorLogger.ReadLoop

open Buffer Rde Library.Bytes Library.Interaction
open Library.Interaction.Proc

structure System (S G : Type) where
  pci : PciDataHandler
  handler : RdeCommandHandler S
  record : G

variable {S G ε : Type} {cfg : Config} {decoder : BejDecoder} {storer : ExternalStorerInterface S ε}

namespace System

def Answers (cfg : Config) (decoder : BejDecoder) (storer : ExternalStorerInterface S ε)
    (w : System S G) :
    (op : LoopOp ε) → (LoopCalls ε).Ans op → System S G → Prop
  | .data op, ans, w' => w.pci.perform cfg.sizeT op = (ans, w'.pci) ∧ w'.handler = w.handler
  | .decodeRdeCommand _ rdeCommand type, result, w' => w'.pci = w.pci ∧ ∃ span : Span,
      load span.data 0 span.size = rdeCommand ∧
        w.handler.decode cfg.sizeT decoder storer ⟨span, type⟩ = (result, w'.handler)
  | .print _, _, w' => w'.pci = w.pci ∧ w'.handler = w.handler
  | .asyncWait, _, w' => w'.pci = w.pci ∧ w'.handler = w.handler

structure SameFlags (w w' : System S G) : Prop where
  handler : w'.handler = w.handler
  record : w'.record = w.record
  regionSize : w'.pci.regionSize = w.pci.regionSize
  bmcFlags : (headerAt w'.pci.mmap).bmcFlags = (headerAt w.pci.mmap).bmcFlags

def bmcFlags (w : System S G) : UInt32 := (headerAt w.pci.mmap).bmcFlags

def withFlags (w : System S G) (f : UInt32) : System S G :=
  { w with pci := { w.pci with
    mmap := store w.pci.mmap CircularBufferHeader.bmcFlagsOffset (littleEndian 4 f.toNat) } }

@[simp] lemma withFlags_bmcFlags (w : System S G) (f : UInt32) : (w.withFlags f).bmcFlags = f := by
  rw [bmcFlags, withFlags]
  dsimp only
  rw [headerAt_store_bmcFlags]

end System

variable {permits : System S G → LoopOp ε → Prop}
  {observe : System S G → (op : LoopOp ε) → (LoopCalls ε).Ans op → RdeCommandHandler S → G}

def besideBios (cfg : Config) (decoder : BejDecoder) (storer : ExternalStorerInterface S ε)
    (permits : System S G → LoopOp ε → Prop)
    (observe : System S G → (op : LoopOp ε) → (LoopCalls ε).Ans op → RdeCommandHandler S → G) :
    Environment (LoopCalls ε) (System S G) where
  interferes w w' := BiosWrites w.pci w'.pci ∧ w'.handler = w.handler ∧ w'.record = w.record
  permits := permits
  answers w op ans w' :=
    w.Answers cfg decoder storer op ans w' ∧ w'.record = observe w op ans w'.handler

/-- One of the ways to answer a call, the one where nothing stands behind the end of a command. -/
def System.perform (cfg : Config) (decoder : BejDecoder) (storer : ExternalStorerInterface S ε)
    (observe : System S G → (op : LoopOp ε) → (LoopCalls ε).Ans op → RdeCommandHandler S → G)
    (w : System S G) :
    (op : LoopOp ε) → (LoopCalls ε).Ans op × System S G
  | .data op =>
    let (ans, pci) := w.pci.perform cfg.sizeT op
    (ans, { w with pci, record := observe w (.data op) ans w.handler })
  | .decodeRdeCommand source rdeCommand type =>
    let (result, handler) := w.handler.decode cfg.sizeT decoder storer ⟨.ofList rdeCommand, type⟩
    (result, { w with
      handler
      record := observe w (.decodeRdeCommand source rdeCommand type) result handler })
  | .print message => ((), { w with record := observe w (.print message) () w.handler })
  | .asyncWait => ((), { w with record := observe w .asyncWait () w.handler })

lemma besideBios_performs (w : System S G) (op : LoopOp ε) :
    (besideBios cfg decoder storer permits observe).answers w op
      (w.perform cfg decoder storer observe op).1
      (w.perform cfg decoder storer observe op).2 := by
  cases op with
  | data op => exact ⟨⟨rfl, rfl⟩, rfl⟩
  | decodeRdeCommand source rdeCommand type =>
    exact ⟨⟨rfl, .ofList rdeCommand, Span.load_ofList, rfl⟩, rfl⟩
  | print message => exact ⟨⟨rfl, rfl⟩, rfl⟩
  | asyncWait => exact ⟨⟨rfl, rfl⟩, rfl⟩

def AboutFlags (K : System S G → Prop) : Prop := ∀ w w' : System S G, w.SameFlags w' → K w → K w'

lemma bmcFlags_congr {m m' : Memory} (h : ∀ i, 0x1d ≤ i → i < 0x21 → m' i = m i) :
    (headerAt m').bmcFlags = (headerAt m).bmcFlags := by
  rw [headerAt_bmcFlags, headerAt_bmcFlags]
  refine congrArg (UInt32.ofNat ∘ ofLittleEndian) (load_congr fun i hi => ?_)
  simp only [CircularBufferHeader.bmcFlagsOffset]
  exact h _ (by omega) (by omega)

lemma sameFlags_biosWrites {w w' : System S G} (hpci : BiosWrites w.pci w'.pci)
    (hhandler : w'.handler = w.handler) (hrecord : w'.record = w.record) : w.SameFlags w' :=
  ⟨hhandler, hrecord, hpci.regionSize, (coherent_of_owned hpci.owned).bmcFlags.symm⟩

lemma besideBios_shared {K : System S G → Prop} (hK : AboutFlags K)
    (hobserve : ∀ w op ans handler, observe w (.data op) ans handler = w.record)
    (hread : ∀ w off len, K w → permits w (.data (.read off len)))
    (hreadPtr : ∀ w p, K w →
      permits w (.data (.write CircularBufferHeader.bmcReadPtrOffset (littleEndian 3 p)))) :
    SharedRegion cfg.sizeT ((besideBios cfg decoder storer permits observe).restrict dataCalls)
      System.pci K where
  interferes h := h.1
  answers := by
    rintro w op ans w' ⟨_, ⟨⟨hperform, -⟩, -⟩, rfl⟩
    exact hperform
  stable _ _ hw hk := hK _ _ (sameFlags_biosWrites hw.1 hw.2.1 hw.2.2) hk
  read off len hk := by
    refine ⟨hread _ off len hk, ?_⟩
    rintro bytes w' ⟨_, ⟨⟨hperform, hhandler⟩, hrecord⟩, rfl⟩
    obtain ⟨-, hpci⟩ := Prod.mk.inj hperform
    exact hK _ _ ⟨hhandler, hrecord.trans (hobserve _ _ _ _), hpci ▸ rfl, hpci ▸ rfl⟩ hk
  readPtr p hk := by
    refine ⟨hreadPtr _ p hk, ?_⟩
    rintro written w' ⟨_, ⟨⟨hperform, hhandler⟩, hrecord⟩, rfl⟩
    have hpci : (PciDataHandler.write cfg.sizeT _ _ _).2 = w'.pci := congrArg Prod.snd hperform
    refine hK _ _ ⟨hhandler, hrecord.trans (hobserve _ _ _ _), ?_, ?_⟩ hk
    · rw [← hpci, PciDataHandler.write]
      dsimp only
      split_ifs <;> rfl
    · rw [← hpci]
      refine bmcFlags_congr fun i _ hi => PciDataHandler.write_frame (Or.inl ?_)
      exact hi

def flagsWrite (ε : Type) (f : UInt32) : LoopOp ε :=
  .data (.write CircularBufferHeader.bmcFlagsOffset (littleEndian 4 f.toNat))

lemma flags_ensures {K K' : System S G → Prop} {f : UInt32} {h : CircularBufferHeader}
    {w : System S G}
    (R : SharedRegion cfg.sizeT
      ((besideBios cfg decoder storer permits observe).restrict dataCalls) System.pci K)
    (hK' : AboutFlags K')
    (hobserve : ∀ w op ans handler, observe w (.data op) ans handler = w.record)
    (hpermits : ∀ w, K w → w.bmcFlags = h.bmcFlags → permits w (flagsWrite ε f))
    (hwrite : ∀ w, K w → w.bmcFlags = h.bmcFlags → K' (w.withFlags f))
    (hk : Kept System.pci K h w) :
    (buffer (updateBmcFlags f) : LoopM ε Unit).Ensures
      (besideBios cfg decoder storer permits observe)
      (fun _ => Kept System.pci K') (fun _ _ _ => False) h w := by
  refine buffer_ensures.mpr (R.updateBmcFlags_ensures ?_ (fun w₁ hk₁ => ?_) hk)
  · exact fun _ _ hw hk => hK' _ _ (sameFlags_biosWrites hw.1 hw.2.1 hw.2.2) hk
  have hflags : w₁.bmcFlags = h.bmcFlags := hk₁.1.coherent.bmcFlags.symm
  refine ⟨hpermits w₁ hk₁.2 hflags, ?_⟩
  rintro written w₂ ha
  obtain ⟨-, hregion⟩ := R.write_answer hk₁.1
    (by simp [CircularBufferHeader.bmcFlagsOffset, CircularBufferHeader.size]) ha
  obtain ⟨_, ⟨⟨-, hhandler⟩, hrecord⟩, -⟩ := ha
  have hw₂ : w₂ = w₁.withFlags f := by
    cases w₂
    exact congr (congr (congrArg System.mk hregion) hhandler) (hrecord.trans (hobserve _ _ _ _))
  exact hw₂ ▸ hwrite w₁ hk₁.2 hflags

/-- What is left to show of an invariant about the handler, the record and the flags. `Logged` holds
after a UE log was taken, `Transferred` after a dictionary was, and `A` from an error on until the
flags are cleared. -/
structure FlagsInvariant (cfg : Config) (decoder : BejDecoder)
    (storer : ExternalStorerInterface S ε) (permits : System S G → LoopOp ε → Prop)
    (observe : System S G → (op : LoopOp ε) → (LoopCalls ε).Ans op → RdeCommandHandler S → G)
    (K Logged Transferred A : System S G → Prop) : Prop where
  kept : AboutFlags K
  loggedFlags : AboutFlags Logged
  transferredFlags : AboutFlags Transferred
  failedFlags : AboutFlags A
  region : ∀ w, A w → (UInt16.ofNat cfg.queueRegionSize).toNat ≤ w.pci.regionSize.toNat
  cleared : ∀ w, A w → w.bmcFlags = 0 → K w
  others : ∀ w op, (∀ off bytes, op ≠ .data (.write off bytes)) → permits w op
  readPtr : ∀ w p, permits w
    (.data (.write CircularBufferHeader.bmcReadPtrOffset (littleEndian 3 p)))
  erase : ∀ bytes, byte bytes CircularBufferHeader.bmcFlagsOffset = 0 →
    Leads (besideBios cfg decoder storer permits observe) A (.data (.write 0 bytes)) A
  dataRecord : ∀ w op ans handler, observe w (.data op) ans handler = w.record
  printRecord : ∀ w message ans handler, (∀ e, message ≠ .processingError e) →
    observe w (.print message) ans handler = w.record
  processingError : ∀ w e ans w', K w →
    (besideBios cfg decoder storer permits observe).answers w (.print (.processingError e)) ans w' →
    A w'
  timer : ∀ w ans w', K w →
    (besideBios cfg decoder storer permits observe).answers w .asyncWait ans w' → K w'
  ueLog : ∀ w rdeCommand result w', K w →
    (besideBios cfg decoder storer permits observe).answers w
      (.decodeRdeCommand .ueRegion rdeCommand .rdeOperationInitRequest) result w' →
    K w' ∧ (result = .ok .rdeOk ∨ result = .ok .rdeStopFlagReceived → Logged w')
  entry : ∀ w rdeCommand type result w', K w →
    (besideBios cfg decoder storer permits observe).answers w
    (.decodeRdeCommand .queue rdeCommand type) result w' →
    K w' ∧ (result = .ok .rdeStopFlagReceived → Transferred w')
  ueSwitch : ∀ w, Logged w → permits w (flagsWrite ε (w.bmcFlags ^^^ BufferFlags.ueSwitch)) ∧
    K (w.withFlags (w.bmcFlags ^^^ BufferFlags.ueSwitch))
  overflow : ∀ w, K w → permits w (flagsWrite ε (w.bmcFlags ^^^ BufferFlags.overflow)) ∧
    K (w.withFlags (w.bmcFlags ^^^ BufferFlags.overflow))
  ready : ∀ w, Transferred w → permits w (flagsWrite ε (w.bmcFlags ||| BmcFlags.ready)) ∧
    K (w.withFlags (w.bmcFlags ||| BmcFlags.ready))

namespace FlagsInvariant

variable {K Logged Transferred A : System S G → Prop}
  (F : FlagsInvariant cfg decoder storer permits observe K Logged Transferred A)
include F

lemma shared {K' : System S G → Prop} (hK' : AboutFlags K') :
    SharedRegion cfg.sizeT ((besideBios cfg decoder storer permits observe).restrict dataCalls)
      System.pci K' :=
  besideBios_shared hK' F.dataRecord (fun w _ _ _ => F.others w _ (by simp))
    (fun w p _ => F.readPtr w p)

lemma kept_stable {K' : System S G → Prop} (hK' : AboutFlags K') (h : CircularBufferHeader) :
    (besideBios cfg decoder storer permits observe).Stable (Kept System.pci K' h) :=
  (F.shared hK').kept_stable h

lemma print_leads {K' : System S G → Prop} (hK' : AboutFlags K') (message : Message ε)
    (hmessage : ∀ e, message ≠ .processingError e) :
    Leads (besideBios cfg decoder storer permits observe) K' (.print message) K' := by
  intro w hk
  refine ⟨F.others w _ (by simp), ?_⟩
  rintro ans w' ⟨⟨hpci, hhandler⟩, hrecord⟩
  exact hK' _ _ ⟨hhandler, hrecord.trans (F.printRecord _ _ _ _ hmessage),
    by rw [hpci], by rw [hpci]⟩ hk

lemma print_keeps {K' : System S G → Prop} (hK' : AboutFlags K') (message : Message ε)
    (hmessage : ∀ e, message ≠ .processingError e) :
    Keeps (besideBios cfg decoder storer permits observe) (Kept System.pci K')
      (print message : LoopM ε Unit) := by
  apply ReadLoop.print_keeps (F.kept_stable hK')
  intro h w hk
  obtain ⟨hpermits, hleads⟩ := F.print_leads hK' message hmessage w hk.2
  refine ⟨hpermits, fun ans w' ha => ⟨?_, hleads ans w' ha⟩⟩
  rw [ha.1.1]
  exact hk.1

lemma flags_then {K' : System S G → Prop} (hK' : AboutFlags K') (change : UInt32 → UInt32)
    (hchange : ∀ w, K' w → permits w (flagsWrite ε (change w.bmcFlags)) ∧
      K (w.withFlags (change w.bmcFlags)))
    {h : CircularBufferHeader} {w : System S G} (hk : Kept System.pci K' h w) :
    (buffer (updateBmcFlags (change h.bmcFlags)) : LoopM ε Unit).Ensures
      (besideBios cfg decoder storer permits observe)
      (fun _ => Kept System.pci K) (fun _ => Kept System.pci K) h w := by
  refine (flags_ensures (F.shared hK') F.kept F.dataRecord ?_ ?_ hk).mono (fun _ _ _ h' => h')
    (fun _ _ _ hX => hX.elim)
  · intro w' hk' hflags
    exact hflags ▸ (hchange w' hk').1
  · intro w' hk' hflags
    exact hflags ▸ (hchange w' hk').2

lemma processUeLog_keeps :
    Keeps (besideBios cfg decoder storer permits observe) (Kept System.pci K) processUeLog := by
  apply (buffer_keeps (F.shared F.kept).readUeLogFromReservedRegion_keeps).bind
  intro ueLog
  refine Keeps.ite ((F.print_keeps F.kept _ (by simp)).bind fun _ => ?_)
    (keeps_pure (F.kept_stable F.kept) ())
  intro h w hk
  apply decodeRdeCommand_then
  intro w₁ hw₁
  have hk₁ := (F.kept_stable F.kept h).later hw₁ hk
  refine ⟨F.others _ _ (by simp), fun e w₂ ha w₃ hw₃ => ?_, fun status w₂ ha => ?_⟩
  · have hcached : Cached h w₂.pci := ha.1.1 ▸ hk₁.1
    exact (F.kept_stable F.kept h).later hw₃ ⟨hcached, (F.ueLog _ _ _ _ hk₁.2 ha).1⟩
  have hcached : Cached h w₂.pci := ha.1.1 ▸ hk₁.1
  obtain ⟨hk₂, hlogged⟩ := F.ueLog _ _ _ _ hk₁.2 ha
  refine ensures_raiseIf_bind.mpr
    ⟨fun _ w₃ hw₃ => (F.kept_stable F.kept h).later hw₃ ⟨hcached, hk₂⟩, fun hok => ?_⟩
  have hstatus : status = .rdeOk ∨ status = .rdeStopFlagReceived := by
    by_contra hne
    exact hok (not_or.mp hne)
  have hlogged₂ : Logged w₂ := hlogged (hstatus.imp (congrArg Except.ok) (congrArg Except.ok))
  rw [print_then]
  intro w₃ hw₃
  have hk₃ := (F.kept_stable F.loggedFlags h).later hw₃ ⟨hcached, hlogged₂⟩
  obtain ⟨hpermits, hleads⟩ := F.print_leads F.loggedFlags .ueLogProcessed (by simp) w₃ hk₃.2
  refine ⟨hpermits, fun ans w₄ ha => ?_⟩
  have hcached₄ : Cached h w₄.pci := ha.1.1 ▸ hk₃.1
  rw [ensures_fetch_bind]
  exact F.flags_then F.loggedFlags (· ^^^ BufferFlags.ueSwitch) F.ueSwitch
    ⟨hcached₄, hleads ans w₄ ha⟩

lemma warnOfOverflow_keeps :
    Keeps (besideBios cfg decoder storer permits observe) (Kept System.pci K) warnOfOverflow := by
  have hcheck : Keeps (besideBios cfg decoder storer permits observe) (Kept System.pci K)
      (buffer checkForOverflowAndAcknowledge : LoopM ε Bool) := by
    intro h w hk
    rw [buffer_ensures, checkForOverflowAndAcknowledge, ensures_bind]
    refine ((F.shared F.kept).readBufferHeader_ensures hk).mono (fun _ h₁ w₁ hk₁ => ?_)
      (fun _ _ _ hX => hX.elim)
    rw [ensures_fetch_bind]
    by_cases hdiffer : (h₁.biosFlags ^^^ h₁.bmcFlags) &&& BufferFlags.overflow ≠ 0
    · rw [if_pos hdiffer, ensures_bind]
      refine (buffer_ensures.mp
        (F.flags_then F.kept (· ^^^ BufferFlags.overflow) F.overflow hk₁)).mono ?_
        (fun _ _ _ hX => hX)
      exact fun _ h₂ w₂ hk₂ w₃ hw₃ => (F.kept_stable F.kept h₂).later hw₃ hk₂
    · rw [if_neg hdiffer]
      exact fun w₂ hw₂ => (F.kept_stable F.kept h₁).later hw₂ hk₁
  exact hcheck.bind fun overflow =>
    (F.print_keeps F.kept _ (by simp)).ite (keeps_pure (F.kept_stable F.kept) ())

lemma processEntry_keeps (entryPair : EntryPair) :
    Keeps (besideBios cfg decoder storer permits observe) (Kept System.pci K)
      (processEntry entryPair) := by
  intro h w hk
  apply decodeRdeCommand_then
  intro w₁ hw₁
  have hk₁ := (F.kept_stable F.kept h).later hw₁ hk
  refine ⟨F.others _ _ (by simp), fun e w₂ ha w₃ hw₃ => ?_, fun status w₂ ha => ?_⟩
  · have hcached : Cached h w₂.pci := ha.1.1 ▸ hk₁.1
    exact (F.kept_stable F.kept h).later hw₃ ⟨hcached, (F.entry _ _ _ _ _ hk₁.2 ha).1⟩
  have hcached : Cached h w₂.pci := ha.1.1 ▸ hk₁.1
  obtain ⟨hk₂, htransferred⟩ := F.entry _ _ _ _ _ hk₁.2 ha
  by_cases hstop : status = .rdeStopFlagReceived
  · rw [if_pos hstop, ensures_fetch_bind]
    have hdone : Transferred w₂ := htransferred (congrArg Except.ok hstop)
    exact F.flags_then F.transferredFlags (· ||| BmcFlags.ready) F.ready ⟨hcached, hdone⟩
  · rw [if_neg hstop]
    exact fun w₃ hw₃ => (F.kept_stable F.kept h).later hw₃ ⟨hcached, hk₂⟩

theorem loop : LoopInvariant cfg
    (besideBios cfg decoder storer permits observe) System.pci K K A where
  shared := F.shared F.kept
  thrown _ h := h
  thrown_stable := (F.shared F.kept).stable
  message_region h := h.1.1
  timer_region h := h.1.1
  ueLog := F.processUeLog_keeps
  overflow := F.warnOfOverflow_keeps
  entry := F.processEntry_keeps
  timer w hk := ⟨F.others _ _ (by simp), fun ans w' ha => F.timer w ans w' hk ha⟩
  asyncWaitFailed _ := F.print_leads F.kept _ (by simp)
  processingError e w hk :=
    ⟨F.others _ _ (by simp), fun ans w' ha => F.processingError w e ans w' hk ha⟩
  failed_stable _ _ hw hf := F.failedFlags _ _ (sameFlags_biosWrites hw.1 hw.2.1 hw.2.2) hf
  failed_region := F.region
  getMemoryRegionSize w hf := by
    refine ⟨F.others _ _ (by simp), ?_⟩
    rintro ans w' ⟨⟨hperform, hhandler⟩, hrecord⟩
    have hpci : w.pci = w'.pci := congrArg Prod.snd hperform
    exact F.failedFlags _ _
      ⟨hhandler, hrecord.trans (F.dataRecord _ _ _ _), by rw [hpci], by rw [hpci]⟩ hf
  erase := F.erase
  cleared := F.cleared
  reinitialized := F.print_leads F.kept _ (by simp)

theorem run_kept {w : System S G} {h : CircularBufferHeader} (hinit : Initialized cfg w.pci h)
    (ha : A w) {s : Service.State (LoopCalls ε) (System S G) CircularBufferHeader Empty Bool}
    (hrun : Service.Run (besideBios cfg decoder storer permits observe) (readLoop cfg) waits
      ⟨w, .idle h, []⟩ s) :
    Service.Holds (besideBios cfg decoder storer permits observe)
      (fun w h _ => Kept System.pci K h w) s := by
  have hflags : w.bmcFlags = 0 := by
    rw [System.bmcFlags, hinit.header]
    rfl
  refine F.loop.run_kept hrun ⟨⟨hinit.region, ?_⟩, F.cleared w ha hflags⟩
  rw [hinit.header, hinit.cached]
  exact .refl _

end FlagsInvariant

end SmmErrorLogger.ReadLoop
