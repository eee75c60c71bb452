import SmmErrorLogger.ReadLoop.Pipeline

/-! Every entry that the BIOS appends is handed to the handler once, in order, as long as the
handler throws nothing. -/

namespace SmmErrorLogger.ReadLoop

open Buffer Buffer.SharedQueue Rde Library Library.Bytes Library.Interaction Library.Circular
open Library.Interaction.Proc

variable {S ε : Type} {cfg : Config} {decoder : BejDecoder} {storer : ExternalStorerInterface S ε}

lemma written_length_le (q : SharedQueue) : q.written.length ≤ q.reserved.length := by
  rw [SharedQueue.written, SharedQueue.reserved]
  cases q.pending with
  | none => exact le_rfl
  | some p => exact List.length_take_le' _ _

lemma SharedQueue.Sound.region_congr {consumed p : ℕ} {q : SharedQueue} {pci : PciDataHandler}
    (hs : SharedQueue.Sound cfg consumed p q)
    (hregion : pci.regionSize = q.pci.regionSize)
    (hqueueSize : (headerAt pci.mmap).queueSize = (headerAt q.pci.mmap).queueSize)
    (hueRegionSize : (headerAt pci.mmap).ueRegionSize = (headerAt q.pci.mmap).ueRegionSize)
    (hreadPtr : (headerAt pci.mmap).bmcReadPtr = (headerAt q.pci.mmap).bmcReadPtr)
    (hspares : SparesQueue cfg q.pci pci) : SharedQueue.Sound cfg consumed p { q with pci } where
  region := hregion ▸ hs.region
  geometry := ⟨hqueueSize.trans hs.geometry.1, hueRegionSize.trans hs.geometry.2⟩
  writePtr := hspares.biosWritePtr.trans hs.writePtr
  readPtr := hreadPtr.trans hs.readPtr
  le := hs.le
  pos := hs.pos
  consumed_le := hs.consumed_le
  free := hs.free
  valid := hs.valid
  pendingValid := hs.pendingValid
  stores i hi hlt := by
    have hfree := hs.free
    have hwritten := written_length_le q
    have hlength : i < (batchBytes q.published ++ q.written).length := hlt
    rw [List.length_append] at hlength
    exact (hspares.cells _ (Nat.mod_lt _ (by omega))).trans (hs.stores i hi hlt)

lemma SparesQueue.goesOn {q : SharedQueue} {pci : PciDataHandler} (hwrites : BiosWrites q.pci pci)
    (hspares : SparesQueue cfg q.pci pci) : GoesOn cfg q { q with pci } where
  published := List.prefix_rfl
  snapshot := rfl
  sound hs := by
    have hcoherent := coherent_of_owned hwrites.owned
    exact SharedQueue.Sound.region_congr hs hwrites.regionSize hcoherent.queueSize.symm
      hcoherent.ueRegionSize.symm hcoherent.bmcReadPtr.symm hspares

lemma BiosActs.goesOn (hfit : cfg.Fits) {w w' : Pipeline S} (h : BiosActs cfg w w') :
    GoesOn cfg w.queue w'.queue := by
  cases h with
  | produces hq => exact hq.goesOn hfit
  | other hstep hspares => exact SparesQueue.goesOn (q := w.queue) hstep.owned hspares

lemma flags_goesOn {q : SharedQueue} (f : UInt32) : GoesOn cfg q
    { q with pci := q.storeAt CircularBufferHeader.bmcFlagsOffset (littleEndian 4 f.toNat) } where
  published := List.prefix_rfl
  snapshot := rfl
  sound hs := by
    have hheader : headerAt
      (q.storeAt CircularBufferHeader.bmcFlagsOffset (littleEndian 4 f.toNat)).mmap =
        { headerAt q.pci.mmap with bmcFlags := f } := headerAt_store_bmcFlags f
    have hcells : queueCell cfg
      (q.storeAt CircularBufferHeader.bmcFlagsOffset (littleEndian 4 f.toNat)).mmap =
        queueCell cfg q.pci.mmap := queueCell_store_outside (by rw [littleEndian_length]; decide)
    refine SharedQueue.Sound.region_congr hs (by rfl) ?_ ?_ ?_ ⟨?_, fun i _ => by rw [hcells]⟩
    all_goals rw [hheader]

/-- Only the turns are looked at. The flags are those of `handshake_loop`. -/
abbrev turns (cfg : Config) (decoder : BejDecoder) (storer : ExternalStorerInterface S ε) :
    Environment (LoopCalls ε) (Pipeline S) :=
  (pipeline cfg decoder storer).permitting turnsPermitted

lemma turns_data {w w' : Pipeline S} {op : DataOp} {ans : DataInterface.Ans op}
    (ha : ((turns cfg decoder storer).restrict dataCalls).answers w op ans w') :
    w.queue.perform cfg.sizeT op = (ans, w'.queue) ∧ w'.commands = w.commands := by
  obtain ⟨_, ⟨-, hqueue, -, hcommands⟩, rfl⟩ := ha
  exact ⟨hqueue, hcommands⟩

lemma turns_hasQueue (hfit : cfg.Fits) :
    HasQueue cfg ((turns cfg decoder storer).restrict dataCalls) Pipeline.queue where
  permits _ _ _ := trivial
  interferes h := BiosActs.goesOn hfit h
  answers ha := (turns_data ha).1

/-- The commands out of the queue are those of `c`, and `es` were read and are not handed over yet.
What was `posted` stays so, and what has to be `covered` is among them. -/
structure Reached (cfg : Config) (posted covered c es : List EntryPair) (w : Pipeline S) :
    Prop where
  received : w.received = c.map entryCommand
  consumed : Consumed cfg (c ++ es) w.queue
  posted : posted <+: w.published
  covered : covered <+: c ++ es

def Holding (cfg : Config) (posted covered es : List EntryPair) (w : Pipeline S) : Prop :=
  ∃ c, Reached cfg posted covered c es w

variable {posted covered es : List EntryPair}

lemma BiosActs.commands {w w' : Pipeline S} (h : BiosActs cfg w w') : w'.commands = w.commands := by
  cases h <;> rfl

lemma received_congr {w w' : Pipeline S} (h : w'.commands = w.commands) :
    w'.received = w.received := by
  rw [Pipeline.received, Pipeline.queued, h]
  rfl

lemma received_queue {w w' : Pipeline S} {command : Command}
    (h : w'.commands = w.commands ++ [(.queue, command)]) :
    w'.received = w.received ++ [(command.span.bytes, command.type)] := by
  rw [Pipeline.received, Pipeline.queued, h, List.filter_append, List.map_append, List.map_append]
  rfl

lemma received_ueRegion {w w' : Pipeline S} {command : Command}
    (h : w'.commands = w.commands ++ [(.ueRegion, command)]) : w'.received = w.received := by
  rw [Pipeline.received, Pipeline.queued, h, List.filter_append, List.map_append, List.map_append]
  exact List.append_nil _

lemma Holding.goesOn {w w' : Pipeline S} (h : Holding cfg posted covered es w)
    (hcommands : w'.commands = w.commands) (hgo : GoesOn cfg w.queue w'.queue) :
    Holding cfg posted covered es w' := by
  obtain ⟨c, hc⟩ := h
  exact ⟨c, (received_congr hcommands).trans hc.received, hc.consumed.goesOn hgo,
    hc.posted.trans hgo.published, hc.covered⟩

lemma holding_stable (hfit : cfg.Fits) :
    (turns cfg decoder storer).Stable (Holding cfg posted covered es) :=
  fun _ _ hw h => h.goesOn (BiosActs.commands hw) (BiosActs.goesOn hfit hw)

lemma Holding.withSnapshot {w w' : Pipeline S} (h : Holding cfg posted covered es w)
    (hcommands : w'.commands = w.commands)
    {snapshot : List EntryPair} (hqueue : { w.queue with snapshot } = w'.queue) :
    Holding cfg posted covered es w' := by
  obtain ⟨c, hc⟩ := h
  have hpublished : w.published = w'.published := congrArg SharedQueue.published hqueue
  refine ⟨c, (received_congr hcommands).trans hc.received, ?_, hpublished ▸ hc.posted, hc.covered⟩
  rw [← hqueue]
  exact ⟨hc.consumed.sound.withSnapshot _, hc.consumed.published⟩

lemma Holding.regionSize {w : Pipeline S} (hfit : cfg.Fits) (h : Holding cfg posted covered es w) :
    CircularBufferHeader.size + cfg.ueRegionSize ≤ w.queue.pci.regionSize.toNat := by
  obtain ⟨c, hc⟩ := h
  exact hfit.regions.trans hc.consumed.sound.region

lemma Holding.ueRegionSize {w : Pipeline S} (h : Holding cfg posted covered es w) :
    (headerAt w.queue.pci.mmap).ueRegionSize = cfg.ueRegionSize := by
  obtain ⟨c, hc⟩ := h
  exact hc.consumed.sound.geometry.2

lemma holding_headerAccess (hfit : cfg.Fits) :
    HeaderAccess ((turns cfg decoder storer).restrict dataCalls)
    (· = cfg.ueRegionSize) (Holding cfg posted covered es) (fun _ => False) where
  stable _ _ hw h := h.goesOn (BiosActs.commands hw) (BiosActs.goesOn hfit hw)
  cutShort_stable _ _ _ h := h
  header w hw := by
    refine ⟨fun _ => trivial, fun bytes w' ha => ?_⟩
    obtain ⟨hperform, hcommands⟩ := turns_data ha
    obtain ⟨rfl, hqueue⟩ := Prod.mk.inj (perform_read_header.symm.trans hperform)
    have hregion := hw.regionSize hfit
    rw [PciDataHandler.read_within (by omega), if_pos load_length]
    exact ⟨hw.ueRegionSize, hw.withSnapshot hcommands hqueue⟩
  ueRegion := by
    rintro n rfl w hw
    refine ⟨fun _ => trivial, fun bytes w' ha => ?_⟩
    obtain ⟨hperform, hcommands⟩ := turns_data ha
    obtain ⟨rfl, hqueue⟩ := Prod.mk.inj ((perform_read_queue (Or.inr le_rfl)).symm.trans hperform)
    rw [PciDataHandler.read_within (hw.regionSize hfit), if_pos load_length]
    exact hw.withSnapshot hcommands hqueue
  flags f w hw := by
    refine ⟨fun _ => trivial, fun written w' ha => ?_⟩
    obtain ⟨hperform, hcommands⟩ := turns_data ha
    have hregion := hw.regionSize hfit
    rw [CircularBufferHeader.size] at hregion
    have hlength : (littleEndian 4 f.toNat).length = 4 := littleEndian_length 4 _
    have hwrite : w.queue.perform cfg.sizeT
        (.write CircularBufferHeader.bmcFlagsOffset (littleEndian 4 f.toNat)) = _ :=
      perform_write (by rw [hlength, CircularBufferHeader.bmcFlagsOffset]; omega)
        (by rw [hlength]; decide)
    obtain ⟨rfl, hqueue⟩ := Prod.mk.inj (hwrite.symm.trans hperform)
    rw [if_pos hlength]
    exact hw.goesOn hcommands (hqueue ▸ flags_goesOn f)

lemma Holding.handshake {w : Pipeline S} (h : Holding cfg posted covered es w)
    {handshake : Handshake}
    (hpci : handshake.pci = w.handshake.pci) :
    Holding cfg posted covered es { w with handshake } := by
  have hqueue : ({ w with handshake } : Pipeline S).queue = w.queue := by
    rw [Pipeline.queue, hpci]
    rfl
  obtain ⟨c, hc⟩ := h
  exact ⟨c, hc.received, hqueue ▸ hc.consumed, hc.posted, hc.covered⟩

section Commands

variable {e : EntryPair} {w : Pipeline S} {handler : RdeCommandHandler S} {span : Span}
  {handshake : Handshake}

lemma Holding.handed (h : Holding cfg posted covered (e :: es) w)
    (hpci : handshake.pci = w.handshake.pci) (hspan : span.bytes = e.2) :
    Holding cfg posted covered es { w with
      handshake
      handler
      commands := w.commands ++ [(.queue, ⟨span, .ofByte e.1.rdeCommandType⟩)] } := by
  obtain ⟨c, hc⟩ := h
  have hnext : c ++ e :: es = c ++ [e] ++ es := List.append_cons c e es
  refine ⟨c ++ [e], ?_, ?_, hc.posted, hnext ▸ hc.covered⟩
  · rw [received_queue rfl, hc.received, hspan, List.map_append]
    rfl
  · rw [← hnext, Pipeline.queue, hpci]
    exact hc.consumed

lemma Holding.inTurn (h : Holding cfg posted covered (e :: es) w) :
    w.received ++ [(e.2, .ofByte e.1.rdeCommandType)] <+: w.published.map entryCommand := by
  obtain ⟨c, hc⟩ := h
  have hnext : w.received ++ [entryCommand e] = (c ++ [e]).map entryCommand := by
    rw [hc.received, List.map_append, List.map_singleton]
  have hprefix : c ++ [e] <+: w.published :=
    List.IsPrefix.trans ⟨es, (List.append_cons c e es).symm⟩ hc.consumed.published
  exact hnext ▸ hprefix.map entryCommand

lemma Holding.ueLog {w' : Pipeline S} (h : Holding cfg posted covered es w)
    {rdeCommand : List UInt8} {type : RdeCommandType} {result : Except ε RdeDecodeStatus}
    (ha : (turns cfg decoder storer).answers w (.decodeRdeCommand .ueRegion rdeCommand type)
      result w') :
    Holding cfg posted covered es w' := by
  obtain ⟨handshake, handler, span, rfl, -, -, rfl⟩ := ha
  obtain ⟨c, hc⟩ := h
  exact ⟨c, (received_ueRegion rfl).trans hc.received, hc.consumed, hc.posted, hc.covered⟩

end Commands

lemma printed_pci (w : Handshake) (message : Message ε) : (w.printed message).pci = w.pci := by
  cases message <;> rfl

lemma decoded_pci (w : Handshake) (result : Except ε RdeDecodeStatus) :
    (w.decoded result).pci = w.pci := by
  rcases decoded_cases (w := w) result with h | h
  · rw [h]
  · rw [h]

section Parts

variable {h : CircularBufferHeader} {w : Pipeline S}

lemma print_holds (hfit : cfg.Fits) {message : Message ε}
    (hmessage : ∀ e, message ≠ .processingError (.buffer e))
    {ε' : Type} {X : ε' → CircularBufferHeader → Pipeline S → Prop}
    (hw : Holding cfg posted covered es w) :
    (print message : Proc (LoopCalls ε) CircularBufferHeader ε' Unit).Ensures
      (turns cfg decoder storer)
      (fun _ _ => Holding cfg posted covered es) X h w := by
  have hstable : (turns cfg decoder storer).Stable (Holding cfg posted covered es) :=
    holding_stable hfit
  intro w₁ hw₁
  refine ⟨fun _ => hmessage, ?_⟩
  rintro ans w₂ ⟨handshake, rfl, rfl⟩ w₃ hw₃
  exact hstable.later hw₃ ((hstable.later hw₁ hw).handshake (printed_pci _ _))

def FromHandler : LoopError ε → Prop
  | .buffer _ => False
  | .ueDecodeStatus _ => True
  | .handler _ => True

abbrev Stopping (e : LoopError ε) (_ : CircularBufferHeader) (_ : Pipeline S) : Prop :=
  FromHandler e

lemma beside_holds {α : Type} {p : BufferM α}
    (hp : KeepsOr ((turns cfg decoder storer).restrict dataCalls)
      (fun _ => Holding cfg posted covered es) (fun _ _ => False) p)
    (hw : Holding cfg posted covered es w) :
    (buffer p : LoopM ε α).Ensures (turns cfg decoder storer)
      (fun _ _ => Holding cfg posted covered es) Stopping h w :=
  buffer_ensures.mpr ((hp h w hw).mono (fun _ _ _ hQ => hQ) (fun _ _ _ hX => hX.elim))

lemma processUeLog_holds (hfit : cfg.Fits) (hw : Holding cfg posted covered es w) :
    (processUeLog : LoopM ε Unit).Ensures
      (turns cfg decoder storer) (fun _ _ => Holding cfg posted covered es) Stopping h w := by
  have A : HeaderAccess ((turns cfg decoder storer).restrict dataCalls) _
      (Holding cfg posted covered es) _ :=
    holding_headerAccess hfit
  have hstable : (turns cfg decoder storer).Stable (Holding cfg posted covered es) :=
    holding_stable hfit
  rw [processUeLog, ensures_bind]
  refine (beside_holds A.readUeLogFromReservedRegion_keeps hw).mono (fun ueLog h₁ w₁ hw₁ => ?_)
    (fun _ _ _ hX => hX)
  by_cases hne : ueLog ≠ []
  case neg =>
    rw [if_neg hne]
    exact fun w₂ hw₂ => hstable.later hw₂ hw₁
  rw [if_pos hne, ensures_bind]
  refine (print_holds hfit (by simp) hw₁).mono
    (fun _ h₂ w₂ hw₂ => decodeRdeCommand_then fun w₃ hlater => ?_) (fun _ _ _ hX => hX)
  have hw₃ := hstable.later hlater hw₂
  refine ⟨fun _ => trivial, fun _ _ _ _ _ => trivial, fun status w₄ ha => ?_⟩
  refine ensures_raiseIf_bind.mpr ⟨fun _ _ _ => trivial, fun _ => ?_⟩
  rw [ensures_bind]
  refine (print_holds hfit (by simp) (hw₃.ueLog ha)).mono (fun _ h₅ w₅ hw₅ => ?_)
    (fun _ _ _ hX => hX)
  rw [ensures_fetch_bind]
  exact beside_holds (A.updateBmcFlags_keeps _) hw₅

lemma warnOfOverflow_holds (hfit : cfg.Fits) (hw : Holding cfg posted covered es w) :
    (warnOfOverflow : LoopM ε Unit).Ensures (turns cfg decoder storer)
      (fun _ _ => Holding cfg posted covered es)
      Stopping h w := by
  have A : HeaderAccess ((turns cfg decoder storer).restrict dataCalls) _
      (Holding cfg posted covered es) _ :=
    holding_headerAccess hfit
  have hstable : (turns cfg decoder storer).Stable (Holding cfg posted covered es) :=
    holding_stable hfit
  rw [warnOfOverflow, ensures_bind]
  refine (beside_holds A.checkForOverflowAndAcknowledge_keeps hw).mono
    (fun overflow h₁ w₁ hw₁ => ?_) (fun _ _ _ hX => hX)
  cases overflow with
  | false => exact fun w₂ hw₂ => hstable.later hw₂ hw₁
  | true => exact print_holds hfit (by simp) hw₁

lemma processEntry_holds (hfit : cfg.Fits) {e : EntryPair}
    (hw : Holding cfg posted covered (e :: es) w) :
    (processEntry e : LoopM ε Unit).Ensures (turns cfg decoder storer)
      (fun _ _ => Holding cfg posted covered es)
      Stopping h w := by
  have A : HeaderAccess ((turns cfg decoder storer).restrict dataCalls) _
      (Holding cfg posted covered es) _ :=
    holding_headerAccess hfit
  have hstable : (turns cfg decoder storer).Stable (Holding cfg posted covered es) :=
    holding_stable hfit
  have hunread : (turns cfg decoder storer).Stable (Holding cfg posted covered (e :: es)) :=
    holding_stable hfit
  apply decodeRdeCommand_then
  intro w₁ hlater
  have hw₁ := hunread.later hlater hw
  refine ⟨fun _ => hw₁.inTurn, fun _ _ _ _ _ => trivial, ?_⟩
  rintro status _ ⟨_, handler, span, rfl, hspan, -, rfl⟩
  have hpci : (w₁.handshake.decoded (.ok status : Except ε RdeDecodeStatus)).pci =
      w₁.handshake.pci := decoded_pci _ _
  by_cases hstop : status = .rdeStopFlagReceived
  · rw [if_pos hstop, ensures_fetch_bind]
    exact beside_holds (A.updateBmcFlags_keeps _) (hw₁.handed hpci hspan)
  · rw [if_neg hstop]
    exact fun w₃ hw₃ => hstable.later hw₃ (hw₁.handed hpci hspan)

lemma processEntries_holds (hfit : cfg.Fits) (hw : Holding cfg posted covered es w) :
    (processEntries es : LoopM ε Unit).Ensures (turns cfg decoder storer)
      (fun _ _ => Holding cfg posted covered [])
      Stopping h w := by
  induction es generalizing h w with
  | nil => exact fun w' hw' => (holding_stable hfit).later hw' hw
  | cons e es ih =>
    rw [processEntries, ensures_bind]
    exact (processEntry_holds hfit hw).mono (fun _ _ _ hw₁ => ih hw₁) (fun _ _ _ hX => hX)

lemma readErrorLogs_holds (hfit : cfg.Fits) (hw : Holding cfg posted [] [] w) :
    (buffer (readErrorLogs cfg) : LoopM ε (List EntryPair)).Ensures (turns cfg decoder storer)
      (fun es _ => Holding cfg posted posted es) Stopping h w := by
  obtain ⟨c, hc⟩ := hw
  have hconsumed := hc.consumed
  rw [List.append_nil] at hconsumed
  have hsame : (readErrorLogs cfg h).Ensures ((turns cfg decoder storer).restrict dataCalls)
      (fun _ w' => w'.received = c.map entryCommand ∧ posted <+: w'.published) w := by
    refine Prog.ensures_of_invariant (fun w₁ w₂ hw hr => ?_)
      (fun w₁ op hr => ⟨fun _ => trivial, fun ans w₂ ha => ?_⟩) _ ⟨hc.received, hc.posted⟩
    · exact ⟨(received_congr (BiosActs.commands hw)).trans hr.1,
        hr.2.trans (BiosActs.goesOn hfit hw).published⟩
    · obtain ⟨hperform, hcommands⟩ := turns_data ha
      refine ⟨(received_congr hcommands).trans hr.1, ?_⟩
      have hpublished : w₁.published = w₂.published := congrArg (fun r => r.2.published) hperform
      exact hpublished ▸ hr.2
  rw [buffer_ensures]
  refine Prog.Ensures.mono
    (Prog.Ensures.and ((turns_hasQueue hfit).readErrorLogs_delivers hfit hconsumed h) hsame) ?_
  rintro ⟨e | es, h'⟩ w' ⟨hends, hreceived, hposted⟩
  · exact hends.elim
  · obtain ⟨hsnapshot, hpublished, hidle⟩ := hends
    exact ⟨c, hreceived, hsnapshot ▸ hidle.consumed, hposted, hc.posted.trans hpublished⟩

lemma processLogs_holds (hfit : cfg.Fits) (hw : Holding cfg posted [] [] w) :
    (processLogs cfg : LoopM ε Unit).Ensures (turns cfg decoder storer)
      (fun _ _ => Holding cfg posted posted [])
      Stopping h w := by
  rw [processLogs, ensures_bind]
  refine (processUeLog_holds hfit hw).mono (fun _ h₁ w₁ hw₁ => ?_) (fun _ _ _ hX => hX)
  rw [ensures_bind]
  refine (warnOfOverflow_holds hfit hw₁).mono (fun _ h₂ w₂ hw₂ => ?_) (fun _ _ _ hX => hX)
  rw [ensures_bind]
  exact (readErrorLogs_holds hfit hw₂).mono (fun _ _ _ hw₃ => processEntries_holds hfit hw₃)
    (fun _ _ _ hX => hX)

lemma thrown_ensures {α : Type} {Q : α → Pipeline S → Prop} {p : Prog (LoopCalls ε) α}
    (hw : w.handshake.threw = true)
    (hQ : ∀ a w', w'.handshake.threw = true → Q a w') :
    p.Ensures (turns cfg decoder storer) Q w := by
  have hkept : p.Ensures (turns cfg decoder storer) (fun _ w' => w'.handshake.threw = true) w := by
    refine Prog.ensures_of_invariant (fun w₁ w₂ hw h => ?_) (fun w₁ op h => ?_) p hw
    · exact hw.biosStep.threw.trans h
    · refine ⟨fun hthrew => absurd (h.symm.trans hthrew) (by decide), fun ans w₂ ha => ?_⟩
      by_contra hthrew
      have hbefore := answers_threw ha.handshake (Bool.eq_false_iff.mpr hthrew)
      exact absurd (h.symm.trans hbefore) (by decide)
  exact hkept.mono hQ

def Served (cfg : Config) (posted covered : List EntryPair) (w : Pipeline S) : Prop :=
  w.handshake.threw = false → Holding cfg posted covered [] w

lemma served_stable (hfit : cfg.Fits) :
    (turns cfg decoder storer).Stable (Served cfg posted covered) := by
  intro w w' hw h hthrew
  have hholding : (turns cfg decoder storer).Stable (Holding cfg posted covered []) :=
    holding_stable hfit
  exact hholding _ _ hw (h (hw.biosStep.threw ▸ hthrew))

lemma reinitializeBuffer_served {e : LoopError ε} (he : FromHandler e) :
    (reinitializeBuffer cfg e).Ensures (turns cfg decoder storer)
      (fun _ _ => Served cfg posted covered)
      (fun _ _ => Served cfg posted covered) h w := by
  rw [reinitializeBuffer, print_then]
  intro w₁ hw₁
  refine ⟨fun _ b hb => ?_, ?_⟩
  · obtain rfl := Message.processingError.inj hb
    exact he
  · rintro ans _ ⟨_, rfl, rfl⟩
    apply thrown_ensures rfl
    rintro ⟨r, h'⟩ w' hthrew
    exact ends_same.mpr fun hfalse => absurd (hthrew.symm.trans hfalse) (by decide)

lemma asyncWait_served (hfit : cfg.Fits) (hw : Served cfg posted covered w) :
    (do asyncWait; pure true : Proc (LoopCalls ε) CircularBufferHeader Empty Bool).Ensures
      (turns cfg decoder storer)
      (fun _ _ => Served cfg posted covered) (fun _ _ => Served cfg posted covered) h w := by
  have hstable : (turns cfg decoder storer).Stable (Served cfg posted covered) := served_stable hfit
  rw [asyncWait_then]
  intro w₁ hw₁
  refine ⟨fun _ => trivial, ?_⟩
  rintro ans _ ⟨_, rfl, rfl⟩ w₂ hw₂
  exact hstable.later hw₂ (hstable.later hw₁ hw)

theorem readLoop_served (hfit : cfg.Fits) (hw : Served cfg posted [] w) (h : CircularBufferHeader) :
    (readLoop cfg none : Proc (LoopCalls ε) CircularBufferHeader Empty Bool).Ensures
      (turns cfg decoder storer)
      (fun _ _ => Served cfg posted posted) (fun _ _ => Served cfg posted posted) h w := by
  have hstable : (turns cfg decoder storer).Stable (Served cfg posted posted) := served_stable hfit
  cases hthrew : w.handshake.threw with
  | true =>
    apply thrown_ensures hthrew
    rintro ⟨r, h'⟩ w' hthrew'
    exact ends_same.mpr fun hfalse => absurd (hthrew'.symm.trans hfalse) (by decide)
  | false =>
    have hlogs : (do processLogs cfg; pure true : LoopM ε Bool).Ensures (turns cfg decoder storer)
        (fun _ _ => Served cfg posted posted) Stopping h w := by
      rw [ensures_bind]
      exact (processLogs_holds hfit (hw hthrew)).mono
        (fun _ _ _ hw₁ _ hw₂ => hstable.later hw₂ fun _ => hw₁) (fun _ _ _ hX => hX)
    rw [readLoop, ensures_bind, ensures_tryCatch]
    have hend : ∀ (goesOn : Bool) (h' : CircularBufferHeader) (w' : Pipeline S),
      Served cfg posted posted w' → (if goesOn then do asyncWait; pure true else pure false :
          Proc (LoopCalls ε) CircularBufferHeader Empty Bool).Ensures (turns cfg decoder storer)
            (fun _ _ => Served cfg posted posted) (fun _ _ => Served cfg posted posted) h' w' := by
      intro goesOn h' w' hw'
      cases goesOn with
      | true => exact asyncWait_served hfit hw'
      | false => exact fun w₂ hw₂ => hstable.later hw₂ hw'
    refine hlogs.mono (fun goesOn h₁ w₁ hw₁ => hend goesOn h₁ w₁ hw₁) (fun e h₁ w₁ he => ?_)
    exact (reinitializeBuffer_served he).mono (fun goesOn h₂ w₂ hw₂ => hend goesOn h₂ w₂ hw₂)
      (fun _ _ _ hX => hX)

lemma Served.weaken (hw : Served cfg posted covered w) : Served cfg [] [] w := by
  intro hthrew
  obtain ⟨c, hc⟩ := hw hthrew
  exact ⟨c, hc.received, hc.consumed, List.nil_prefix, List.nil_prefix⟩

lemma Served.published (hw : Served cfg [] [] w) : Served cfg w.published [] w := by
  intro hthrew
  obtain ⟨c, hc⟩ := hw hthrew
  exact ⟨c, hc.received, hc.consumed, List.prefix_rfl, List.nil_prefix⟩

lemma readLoop_serves (hfit : cfg.Fits) (hw : Served cfg [] [] w) (error : Option String)
    (h : CircularBufferHeader) :
    (readLoop cfg error : Proc (LoopCalls ε) CircularBufferHeader Empty Bool).Ensures
      (turns cfg decoder storer)
      (fun _ _ => Served cfg [] []) (fun _ _ => Served cfg [] []) h w := by
  cases error with
  | none => exact (readLoop_served hfit hw h).mono (fun _ _ _ hw' => hw') (fun _ _ _ hw' => hw')
  | some error =>
    have hstable : (turns cfg decoder storer).Stable (Served cfg [] []) := served_stable hfit
    rw [readLoop, print_then]
    intro w₁ hw₁
    refine ⟨fun _ e => by simp, ?_⟩
    rintro ans _ ⟨_, rfl, rfl⟩ w₂ hw₂
    exact hstable.later hw₂ (hstable.later hw₁ hw)

end Parts

abbrev PipelineState (S ε : Type) :=
  Service.State (LoopCalls ε) (Pipeline S) CircularBufferHeader Empty Bool

structure Resting (cfg : Config) (h : CircularBufferHeader) (w : Pipeline S) : Prop where
  settled : Kept Handshake.pci (Until cfg (Settled cfg)) h w.handshake
  served : Served cfg [] [] w

lemma resting_stable (hfit : cfg.Fits) (h : CircularBufferHeader) :
    (pipeline cfg decoder storer).Stable (Resting cfg h) := by
  intro w w' hw hr
  have hhandshakes : (handshakes cfg ε).Stable (Kept Handshake.pci (Until cfg (Settled cfg)) h) :=
    until_kept_stable settled_lasting h
  have hturns : (turns cfg decoder storer).Stable (Served cfg [] []) := served_stable hfit
  exact ⟨hhandshakes _ _ hw.biosStep hr.settled, hturns _ _ hw hr.served⟩

lemma pipeline_ensures {α : Type} {p : Proc (LoopCalls ε) CircularBufferHeader Empty α}
    {h : CircularBufferHeader}
    {w : Pipeline S} {Q R : Except Empty α × CircularBufferHeader → Pipeline S → Prop}
    (hue : Only RequestsUeLog p)
    (hflags : (p h).Ensures ((pipeline cfg decoder storer).permitting (flagsPermitted cfg)) Q w)
    (hturns : (p h).Ensures (turns cfg decoder storer) R w) :
    (p h).Ensures (pipeline cfg decoder storer) (fun r w' => Q r w' ∧ R r w') w := by
  have hrequests : (p h).Ensures
    ((pipeline cfg decoder storer).permitting fun _ op => RequestsUeLog op)
      (fun _ _ => True) w := hue.permitted (fun _ _ hop => hop) h w
  have hrest := Prog.Ensures.both (E := (pipeline cfg decoder storer).permitting fun w op =>
    flagsPermitted cfg w op ∧ turnsPermitted w op) (fun _ _ hf ht => ⟨hf, ht⟩) hflags hturns
  exact (Prog.Ensures.both (fun w op hop hp => pipeline_permits w op hop hp.1 hp.2) hrequests
    hrest).mono fun _ _ hends => hends.2

theorem readLoop_rests (hfit : cfg.Fits) {h : CircularBufferHeader} {w : Pipeline S}
    (hr : Resting cfg h w)
    (error : Option String) : (readLoop cfg error h).Ensures (pipeline cfg decoder storer)
      (fun r w' => Resting cfg r.2 w') w := by
  have hflags : (readLoop cfg error h).Ensures
    ((pipeline cfg decoder storer).permitting (flagsPermitted cfg))
      (fun r w' => Kept Handshake.pci (Until cfg (Settled cfg)) r.2 w'.handshake) w := by
    apply pipeline_view.ensures
    exact Prog.Ensures.mono (handshake_loop.readLoop_keeps error h _ hr.settled) fun _ _ hends =>
      ends_same.mp hends
  have hturns : (readLoop cfg error h).Ensures (turns cfg decoder storer)
      (fun r w' => Served cfg [] [] w') w :=
    Prog.Ensures.mono (readLoop_serves hfit hr.served error h) fun _ _ hends => ends_same.mp hends
  exact (pipeline_ensures (readLoop_requests error) hflags hturns).mono fun _ _ h => ⟨h.1, h.2⟩

lemma start_settled {pci : PciDataHandler} {h : CircularBufferHeader}
    (hinit : Initialized cfg pci h) :
    Kept Handshake.pci (Until cfg (Settled cfg)) h (.start pci) := by
  have hheader : (Handshake.start pci).header = initializedFromConfig cfg := hinit.header
  have hread : ¬ (Handshake.start pci).Unread := by
    rw [Handshake.Unread, hheader]
    change ¬ Flags.Differ BufferFlags.ueSwitch 0 0
    decide
  have hseen : ¬ (Handshake.start pci).Overflowed := by
    rw [Handshake.Overflowed, hheader]
    change ¬ Flags.Differ BufferFlags.overflow 0 0
    decide
  refine ⟨⟨hinit.region, ?_⟩, hinit.queueSize, fun _ => ?_⟩
  · change Coherent h (Handshake.start pci).header
    rw [hheader, hinit.cached]
    exact .refl _
  · refine ⟨List.prefix_rfl, rfl, ?_, fun hunread => absurd hunread hread, ?_, rfl, ?_, ?_⟩
    · rw [if_neg hread]
      rfl
    · rw [if_neg hseen]
      rfl
    · rw [hheader]
      simp only [Handshake.start, Nat.bodd_zero, lt_irrefl, decide_false]
      rfl
    · rw [hheader]
      rfl

lemma start_consumed (hsize : cfg.queueOffset ≤ cfg.queueRegionSize)
    (hlt : cfg.queueRegionSize < 2 ^ 16)
    {pci : PciDataHandler} {h : CircularBufferHeader} (hinit : Initialized cfg pci h) :
    Consumed cfg [] (initial pci) := by
  have hregion := hinit.queueSize
  have hheader := hinit.header
  rw [UInt16.toNat_ofNat', Nat.mod_eq_of_lt hlt] at hregion
  have hzero : (batchBytes []).length % cfg.maxOffset = 0 := Nat.zero_mod _
  refine ⟨⟨hregion, ?_, ?_, ?_, ?_, ?_, le_rfl, Nat.zero_le _,
    by simp [initial], by simp [initial], fun i _ hi => ?_⟩, List.nil_prefix⟩
  · exact hheader ▸ initializedFromConfig_geometry hsize hlt
  · exact (congrArg CircularBufferHeader.biosWritePtr hheader).trans hzero.symm
  · exact (congrArg CircularBufferHeader.bmcReadPtr hheader).trans hzero.symm
  · rw [hzero]
    exact Nat.zero_le _
  · exact Nat.mod_mod _ _
  · simp [initial, written] at hi

lemma start_rests (hsize : cfg.queueOffset ≤ cfg.queueRegionSize)
    (hlt : cfg.queueRegionSize < 2 ^ 16)
    {pci : PciDataHandler} {h : CircularBufferHeader} (hinit : Initialized cfg pci h)
    (handler : RdeCommandHandler S) :
    Resting cfg h (.start pci handler) :=
  ⟨start_settled hinit,
    fun _ => ⟨[], rfl, start_consumed hsize hlt hinit, List.nil_prefix, List.nil_prefix⟩⟩

lemma run_rests (hfit : cfg.Fits) {s s' : PipelineState S ε}
    (hrun : Service.Run (pipeline cfg decoder storer) (readLoop cfg) waits s s')
    (hs : Service.Holds (pipeline cfg decoder storer) (fun w h _ => Resting cfg h w) s) :
    Service.Holds (pipeline cfg decoder storer) (fun w h _ => Resting cfg h w) s' :=
  Service.run_holds (fun _ _ h _ hw hr => resting_stable hfit h _ _ hw hr)
    (fun error _ _ _ _ hr => readLoop_rests hfit hr error) hrun hs

structure Given (cfg : Config) (decoder : BejDecoder) (storer : ExternalStorerInterface S ε)
    (handler : RdeCommandHandler S) (w : Pipeline S) : Prop where
  decoded : w.handler = (handler.decodeAll cfg.sizeT decoder storer (w.commands.map Prod.snd)).2
  inOrder : w.handshake.threw = false → w.received <+: w.published.map entryCommand
  ueLogs : ∀ c ∈ w.commands, c.1 = .ueRegion → c.2.type = .rdeOperationInitRequest
  stopped : w.handshake.threw = false → RdeDecodeStatus.rdeStopFlagReceived ∈
    (handler.receiver.acceptAll (packets cfg.sizeT (w.commands.map Prod.snd))).1 →
    0 < w.handshake.stopFlags

section Given

variable {handler : RdeCommandHandler S} {w w' : Pipeline S}

lemma Given.same (h : Given cfg decoder storer handler w) (hhandler : w'.handler = w.handler)
    (hcommands : w'.commands = w.commands) (hpublished : w.published <+: w'.published)
    (hthrew : w'.handshake.threw = false → w.handshake.threw = false)
    (hstopFlags : w'.handshake.stopFlags = w.handshake.stopFlags) :
    Given cfg decoder storer handler w' where
  decoded := by rw [hhandler, hcommands, h.decoded]
  inOrder hfalse := by
    rw [received_congr hcommands]
    exact (h.inOrder (hthrew hfalse)).trans (hpublished.map entryCommand)
  ueLogs := hcommands ▸ h.ueLogs
  stopped hfalse := by
    rw [hcommands, hstopFlags]
    exact h.stopped (hthrew hfalse)

lemma Given.interferes (hfit : cfg.Fits) (h : Given cfg decoder storer handler w)
    (hw : BiosActs cfg w w') :
    Given cfg decoder storer handler w' := by
  have hhandler : w'.handler = w.handler := by cases hw <;> rfl
  have hstopFlags : w'.handshake.stopFlags = w.handshake.stopFlags := by
    generalize hnext : w'.handshake = next
    have hstep := hw.biosStep
    rw [hnext] at hstep
    cases hstep <;> rfl
  exact h.same hhandler hw.commands (BiosActs.goesOn hfit hw).published
    (fun hfalse => hw.biosStep.threw ▸ hfalse) hstopFlags

lemma packets_snoc {s : WordSize} {commands : List Command} {command : Command} :
    packets s (commands ++ [command]) = packets s commands ++ (command.packet s).toList := by
  rw [packets, List.filterMap_append]
  exact congrArg _ (by cases hp : command.packet s <;> simp [hp])

lemma Given.receiver (h : Given cfg decoder storer handler w) :
    w.handler.receiver =
      (handler.receiver.acceptAll (packets cfg.sizeT (w.commands.map Prod.snd))).2 := by
  rw [h.decoded, decodeAll_receiver]

lemma Given.stops {command : Command} {result : Except ε RdeDecodeStatus}
    {handler' : RdeCommandHandler S}
    (h : Given cfg decoder storer handler w) (hthrew : w.handshake.threw = false)
    (hdecode : w.handler.decode cfg.sizeT decoder storer command = (result, handler'))
    {stopFlags : ℕ}
    (hle : w.handshake.stopFlags ≤ stopFlags)
    (hstop : command.type ≠ .rdeOperationInitRequest → result = .ok .rdeStopFlagReceived →
      0 < stopFlags)
    (hmem : RdeDecodeStatus.rdeStopFlagReceived ∈
      (handler.receiver.acceptAll (packets cfg.sizeT (w.commands.map Prod.snd ++ [command]))).1) :
      0 < stopFlags := by
  rw [packets_snoc] at hmem
  cases hp : command.packet cfg.sizeT with
  | none =>
    rw [hp, Option.toList_none, List.append_nil] at hmem
    exact (h.stopped hthrew hmem).trans_le hle
  | some p =>
    rw [hp, Option.toList_some, Receiver.acceptAll, Machine.run_snoc] at hmem
    rcases List.mem_append.mp hmem with hmem | hmem
    · exact (h.stopped hthrew hmem).trans_le hle
    · have hnot : command.type ≠ .rdeOperationInitRequest := by
        rw [Ne, ← Command.packet_eq_none (s := cfg.sizeT), hp]
        exact Option.some_ne_none p
      apply hstop hnot
      have hresult : (.ok (w.handler.receiver.accept p).1 : Except ε RdeDecodeStatus) = result :=
        (congrArg Prod.fst (decode_packet hp)).symm.trans (congrArg Prod.fst hdecode)
      rw [← hresult, h.receiver, List.mem_singleton.mp hmem]
      rfl

lemma Given.answers {op : LoopOp ε} {ans : (LoopCalls ε).Ans op}
    (h : Given cfg decoder storer handler w) (hpermits : (pipeline cfg decoder storer).permits w op)
    (ha : w.Answers cfg decoder storer op ans w') : Given cfg decoder storer handler w' := by
  have hthrew := answers_threw ha.handshake
  cases op with
  | data op =>
    obtain ⟨⟨pci, -, hhandshake⟩, hqueue, hhandler, hcommands⟩ := ha
    have hpublished : w.published = w'.published := congrArg (fun r => r.2.published) hqueue
    exact h.same hhandler hcommands (hpublished ▸ List.prefix_rfl) hthrew (by rw [hhandshake]; rfl)
  | decodeRdeCommand source rdeCommand type =>
    obtain ⟨handshake, handler', span, hhandshake, hspan, hdecode, rfl⟩ := ha
    obtain ⟨hrequest, hpermits⟩ := hpermits
    have hturn : handshake.threw = false →
        w.InTurn (.decodeRdeCommand source rdeCommand type : LoopOp ε) :=
      fun hfalse => (hpermits (hthrew hfalse)).2
    have hcommands : (w.commands ++ [(source, (⟨span, type⟩ : Command))]).map Prod.snd =
        w.commands.map Prod.snd ++ [⟨span, type⟩] := by
      rw [List.map_append, List.map_singleton]
    refine ⟨?_, fun hfalse => ?_, fun c hc hueRegion => ?_, fun hfalse => ?_⟩
    · rw [hcommands, RdeCommandHandler.decodeAll, Machine.run_snoc, ← RdeCommandHandler.decodeAll,
        ← h.decoded, hdecode]
    · cases source with
      | ueRegion =>
        rw [received_ueRegion rfl]
        exact h.inOrder (hthrew hfalse)
      | queue =>
        have hnext : w.received ++ [(rdeCommand, type)] <+: w.published.map entryCommand :=
          hturn hfalse
        rw [received_queue rfl, hspan]
        exact hnext
    · rcases List.mem_append.mp hc with hc | hc
      · exact h.ueLogs c hc hueRegion
      · obtain rfl := List.mem_singleton.mp hc
        obtain rfl : source = .ueRegion := hueRegion
        exact hrequest
    · rw [hcommands]
      cases source with
      | ueRegion =>
        obtain rfl : handshake = _ := hhandshake
        exact h.stops (hthrew hfalse) hdecode le_rfl fun hnot => absurd hrequest hnot
      | queue =>
        obtain rfl : handshake = w.handshake.decoded ans := hhandshake
        have hle : w.handshake.stopFlags ≤ (w.handshake.decoded ans).stopFlags := by
          rcases decoded_cases (w := w.handshake) ans with hans | hans
          · rw [hans]
          · rw [hans]
            exact Nat.le_succ _
        refine h.stops (hthrew hfalse) hdecode hle fun _ hresult => ?_
        rw [hresult]
        exact Nat.succ_pos _
  | print message =>
    obtain ⟨handshake, rfl, rfl⟩ := ha
    refine h.same rfl rfl List.prefix_rfl hthrew ?_
    cases message <;> rfl
  | asyncWait =>
    obtain ⟨handshake, rfl, rfl⟩ := ha
    exact h.same rfl rfl List.prefix_rfl hthrew rfl

end Given

variable {handler : RdeCommandHandler S}

lemma start_given (pci : PciDataHandler) :
    Given cfg decoder storer handler (.start pci handler) where
  decoded := rfl
  inOrder _ := List.nil_prefix
  ueLogs := by simp [Pipeline.start]
  stopped _ := by simp [Pipeline.start, packets, Receiver.acceptAll]

lemma run_given (hfit : cfg.Fits) {s s' : PipelineState S ε}
    (hrun : Service.Run (pipeline cfg decoder storer) (readLoop cfg) waits s s')
    (hs : Service.Holds (pipeline cfg decoder storer) (fun w h _ => Resting cfg h w) s)
    (hgiven : Given cfg decoder storer handler s.world) :
    Given cfg decoder storer handler s'.world :=
  Service.run_world (J := fun w _ => Given cfg decoder storer handler w)
    (fun _ _ h _ hw hr => resting_stable hfit h _ _ hw hr)
    (fun error _ _ _ _ hr => readLoop_rests hfit hr error)
    (fun _ _ _ hw hg => hg.interferes hfit hw) (fun _ _ _ _ _ hp ha hg => hg.answers hp ha)
      (fun _ _ _ _ _ hg => hg)
    hrun hs hgiven

structure HandedOver (cfg : Config) (decoder : BejDecoder) (storer : ExternalStorerInterface S ε)
    (handler : RdeCommandHandler S) (s : PipelineState S ε) : Prop where
  given : Given cfg decoder storer handler s.world
  requests : ∀ op k, s.thread = .busy (.call op k) → RequestsUeLog op
  next : s.world.handshake.threw = false → ∀ op k, s.thread = .busy (.call op k) → s.world.InTurn op
  rest : s.world.handshake.threw = false → ∀ h, s.thread = .idle h → ∃ c, c <+: s.world.published ∧
    s.world.received = c.map entryCommand ∧
    s.world.handshake.header.bmcReadPtr = (batchBytes c).length % cfg.maxOffset

theorem readLoop_hands_over (hsize : cfg.queueOffset ≤ cfg.queueRegionSize)
    (hlt : cfg.queueRegionSize ≤ 65535)
    {pci : PciDataHandler} {h : CircularBufferHeader} (hinit : Initialized cfg pci h)
    {s : PipelineState S ε}
    (hrun : Service.Run (pipeline cfg decoder storer) (readLoop cfg) waits
      ⟨.start pci handler, .idle h, []⟩ s) :
    HandedOver cfg decoder storer handler s := by
  have hfit : cfg.Fits := ⟨hsize, by omega⟩
  have hrests := start_rests hsize (by omega) hinit handler
  have hholds := run_rests hfit hrun hrests
  have hgiven := run_given hfit hrun hrests (start_given pci)
  obtain ⟨w, thread, results⟩ := s
  refine ⟨hgiven, ?_, ?_, ?_⟩
  · rintro op k rfl
    exact (hholds w .refl).1.1
  · rintro hthrew op k rfl
    exact ((hholds w .refl).1.2 hthrew).2
  · rintro hthrew h' rfl
    obtain ⟨c, hc⟩ := hholds.served hthrew
    have hconsumed := hc.consumed
    rw [List.append_nil] at hconsumed
    exact ⟨c, hconsumed.published, hc.received, hconsumed.sound.readPtr⟩

/-! The BIOS appends an entry, and two more, a UE log and an overflow after the first iteration. The
last entry goes around the end of the queue. -/

def busyConfig : Config := { ueConfig with queueRegionSize := 128 }

def busyRegion : PciDataHandler :=
  ((initializeFromConfig busyConfig .zero).run (PciDataHandler.perform .bits64) ⟨128, fun _ => 0⟩).2

lemma busyRegion_initialized :
    Initialized busyConfig busyRegion (initializedFromConfig busyConfig) :=
  initializeFromConfig_region ⟨128, fun _ => 0⟩ .zero (by decide) (by decide) (by decide)

def dictionaryEntry : EntryPair :=
  (⟨0, 15, 108, 1⟩, [0, 3, 5, 0, 0, 0, 1, 0, 0, 0, 1, 0x1b, 0xdf, 0x05, 0xa5])

def requestEntry : EntryPair :=
  (⟨1, 17, 22, 2⟩, [0, 0, 0, 0, 0, 0, 4, 0, 0, 0, 0, 0, 0, 0, 0, 0, 0])

def lastEntry : EntryPair :=
  (⟨2, 15, 109, 1⟩, [0, 3, 6, 0, 0, 0, 1, 0, 0, 0, 1, 0x1b, 0xdf, 0x05, 0xa5])

def nullDecoder : BejDecoder := fun _ _ => (0, [])

def nullStorer : ExternalStorerInterface Unit Unit := ⟨fun _ n => (.ok true, n)⟩

def busyStart : Pipeline Unit := .start busyRegion (.fresh ())

def busyOnce : Pipeline Unit := busyStart.append busyConfig dictionaryEntry

def servedOnce : (Except Empty Bool × CircularBufferHeader) × Pipeline Unit :=
  (readLoop busyConfig none (initializedFromConfig busyConfig)).run
    (Pipeline.perform busyConfig nullDecoder nullStorer) busyOnce

def busyAppended : Pipeline Unit :=
  (servedOnce.2.append busyConfig requestEntry).append busyConfig lastEntry

def busyPosted : Pipeline Unit :=
  { busyAppended with handshake := busyAppended.handshake.postUeLog busyConfig }

def busyAgain : Pipeline Unit :=
  { busyPosted with handshake := busyPosted.handshake.reportOverflow }

def servedAgain : (Except Empty Bool × CircularBufferHeader) × Pipeline Unit :=
  (readLoop busyConfig none servedOnce.1.2).run
    (Pipeline.perform busyConfig nullDecoder nullStorer) busyAgain

lemma servedOnce_ends : servedOnce.1.1.toOption = some true ∧ servedOnce.2.pending = none := by
  decide +kernel

lemma busyAgain_later :
    (pipeline busyConfig nullDecoder nullStorer).Later servedOnce.2 busyAgain := by
  have hrequest : (pipeline busyConfig nullDecoder nullStorer).Later servedOnce.2
      (servedOnce.2.append busyConfig requestEntry) :=
    pipeline_appends servedOnce_ends.2 (by decide) (by decide +kernel)
  have hlast : (pipeline busyConfig nullDecoder nullStorer).Later
    (servedOnce.2.append busyConfig requestEntry)
      busyAppended := pipeline_appends (by decide +kernel) (by decide) (by decide +kernel)
  have hpost : (pipeline busyConfig nullDecoder nullStorer).interferes busyAppended busyPosted :=
    pipeline_posts (by decide +kernel)
  have hreport : (pipeline busyConfig nullDecoder nullStorer).interferes busyPosted busyAgain :=
    pipeline_reports (by decide +kernel)
  exact ((hrequest.trans hlast).tail hpost).tail hreport

abbrev BusyRun : PipelineState Unit Unit → PipelineState Unit Unit → Prop :=
  Service.Run (pipeline busyConfig nullDecoder nullStorer) (readLoop busyConfig) waits

lemma busyAgain_run : BusyRun ⟨busyStart, .idle (initializedFromConfig busyConfig), []⟩
    ⟨busyAgain, .idle servedOnce.1.2, [servedOnce.1.1]⟩ := by
  have honce : (pipeline busyConfig nullDecoder nullStorer).Later busyStart busyOnce :=
    pipeline_appends rfl (by decide) (by decide +kernel)
  have hserved : BusyRun ⟨busyOnce, .idle (initializedFromConfig busyConfig), []⟩
      ⟨servedOnce.2, .idle servedOnce.1.2, [servedOnce.1.1]⟩ := by
    rw [servedOnce]
    exact Service.run_iteration pipeline_performs none (by simp)
  exact ((Service.run_later honce).trans hserved).trans (Service.run_later busyAgain_later)

lemma servedAgain_run {rs : List (Except Empty Bool)} (hrs : ∀ r ∈ rs, waits r) :
    BusyRun ⟨busyAgain, .idle servedOnce.1.2, rs⟩
      ⟨servedAgain.2, .idle servedAgain.1.2, rs ++ [servedAgain.1.1]⟩ := by
  rw [servedAgain]
  exact Service.run_iteration pipeline_performs none hrs

lemma servedOnce_waits : ∀ r ∈ [servedOnce.1.1], waits r := by
  have hends := servedOnce_ends.1
  generalize servedOnce.1.1 = r at hends ⊢
  simpa using waits_of_toOption hends

theorem readLoop_hands_over_busy : ∃ s : PipelineState Unit Unit,
    s.world.received = [dictionaryEntry, requestEntry, lastEntry].map entryCommand ∧
      HandedOver busyConfig nullDecoder nullStorer (.fresh ()) s := by
  have hrun := busyAgain_run.trans (servedAgain_run servedOnce_waits)
  have hreceived : servedAgain.2.received = [dictionaryEntry, requestEntry, lastEntry].map
      entryCommand := by
    decide +kernel
  generalize servedAgain = served at hrun hreceived
  have hands := readLoop_hands_over (by decide) (by decide) busyRegion_initialized hrun
  exact ⟨⟨served.2, .idle served.1.2, [servedOnce.1.1] ++ [served.1.1]⟩, hreceived, hands⟩

end SmmErrorLogger.ReadLoop
