import SmmErrorLogger.ReadLoop.Delivery

namespace SmmErrorLogger.ReadLoop

open Buffer Buffer.SharedQueue Rde Rde.DictionaryTransfer Library Library.Bytes Library.Interaction

variable {S ε : Type} {cfg : Config} {decoder : BejDecoder} {storer : ExternalStorerInterface S ε}
  {handler : RdeCommandHandler S} {w : Pipeline S}

structure Carries (t : DictionaryTransfer) (checksum : UInt32) (es : List EntryPair) : Prop where
  types : ∀ e ∈ es, RdeCommandType.ofByte e.1.rdeCommandType = .rdeMultiPartReceiveResponse ∨
    RdeCommandType.ofByte e.1.rdeCommandType = .rdeOperationInitRequest
  messages : (es.filter
    (fun e => RdeCommandType.ofByte e.1.rdeCommandType = .rdeMultiPartReceiveResponse)).map
    Prod.snd = t.messages checksum

lemma packets_queued {s : WordSize} {commands : List (LogSource × Command)}
    (h : ∀ c ∈ commands, c.1 = .ueRegion → c.2.type = .rdeOperationInitRequest) :
    packets s (commands.map Prod.snd) = packets s
      ((commands.filter (fun c => c.1 = .queue)).map Prod.snd) := by
  induction commands with
  | nil => rfl
  | cons c commands ih =>
    have hrest := ih fun c' hc' => h c' (List.mem_cons_of_mem c hc')
    rw [packets, packets] at hrest ⊢
    obtain ⟨source, command⟩ := c
    cases source with
    | ueRegion =>
      have hnone : command.packet s = none :=
        Command.packet_eq_none.mpr (h _ List.mem_cons_self rfl)
      rw [List.map_cons, List.filterMap_cons_none hnone, hrest]
      rfl
    | queue =>
      rw [List.map_cons, List.filterMap_cons, hrest, List.filter_cons_of_pos rfl, List.map_cons,
        List.filterMap_cons]

lemma entryCommand_of_mem {es : List EntryPair} {commands : List Command}
    (hcommands : commands.map (fun c => (c.span.bytes, c.type)) = es.map entryCommand) {c : Command}
    (hc : c ∈ commands) :
    ∃ e ∈ es, entryCommand e = (c.span.bytes, c.type) := by
  have hmem : (c.span.bytes, c.type) ∈ es.map entryCommand := hcommands ▸ List.mem_map_of_mem hc
  obtain ⟨e, he, hcommand⟩ := List.mem_map.mp hmem
  exact ⟨e, he, hcommand⟩

lemma entryCommand_fits {es : List EntryPair} (hvalid : ∀ e ∈ es, ValidEntry e)
    {commands : List Command}
    (hcommands : commands.map (fun c => (c.span.bytes, c.type)) = es.map entryCommand) :
    ∀ c ∈ commands, c.span.size < cfg.sizeT.modulus := by
  intro c hc
  obtain ⟨e, he, hcommand⟩ := entryCommand_of_mem hcommands hc
  have hbytes : e.2 = c.span.bytes := congrArg Prod.fst hcommand
  have hsize : c.span.size = e.1.entrySize.toNat := by
    rw [(hvalid e he).1, hbytes, Span.bytes, load_length]
  have hlt := e.1.entrySize.toNat_lt
  have hmodulus := cfg.sizeT.modulus_ge
  omega

lemma Carries.sentBy {t : DictionaryTransfer} {checksum : UInt32} {es : List EntryPair}
    (h : Carries t checksum es) (hvalid : ∀ e ∈ es, ValidEntry e) {commands : List Command}
    (hcommands : commands.map (fun c => (c.span.bytes, c.type)) = es.map entryCommand) :
    t.SentBy cfg.sizeT checksum commands := by
  refine ⟨entryCommand_fits hvalid hcommands, fun c hc => ?_, ?_⟩
  · obtain ⟨e, he, hcommand⟩ := entryCommand_of_mem hcommands hc
    have htype : RdeCommandType.ofByte e.1.rdeCommandType = c.type := congrArg Prod.snd hcommand
    exact htype ▸ h.types e he
  · rw [← h.messages]
    have hfilter := congrArg
      (fun l => (l.filter (fun p => p.2 = RdeCommandType.rdeMultiPartReceiveResponse)).map Prod.fst)
      hcommands
    rwa [List.filter_map, List.filter_map, List.map_map, List.map_map] at hfilter

lemma Consumed.all {c : List EntryPair} {q : SharedQueue} (hc : Consumed cfg c q)
    (hptr : (headerAt q.pci.mmap).bmcReadPtr = (headerAt q.pci.mmap).biosWritePtr) :
    c = q.published := by
  obtain ⟨rest, hrest⟩ := hc.published
  have hunread := hc.sound.accepted.2
  rw [unread, if_pos hptr.symm, ← hrest, batchBytes_append, List.length_append] at hunread
  have hnil : rest = [] := batchBytes_eq_nil (by omega)
  rw [← hrest, hnil, List.append_nil]

lemma Given.arrives (hgiven : Given cfg decoder storer handler w)
    (hthrew : w.handshake.threw = false)
    {before es : List EntryPair} (hreceived : w.received = (before ++ es).map entryCommand)
    (hvalid : ∀ e ∈ es, ValidEntry e) {t : DictionaryTransfer} {checksum : UInt32}
    (hcarries : Carries t checksum es)
    (hmatch : checksum.toBitVec = Crc.crc32 t.bytes) :
    (∀ d ∈ t.dictionaries, w.handler.dictionaryManager.getDictionary d.resourceId = some d.bytes) ∧
      0 < w.handshake.stopFlags := by
  rw [Pipeline.received, List.map_append] at hreceived
  obtain ⟨first, last, hqueued, -, hlast⟩ := List.map_eq_append_iff.mp hreceived
  have hsent : t.SentBy cfg.sizeT checksum last := hcarries.sentBy hvalid hlast
  have hpackets : packets cfg.sizeT (w.commands.map Prod.snd) = packets cfg.sizeT first ++
      packets cfg.sizeT last := by
    rw [packets_queued hgiven.ueLogs, ← Pipeline.queued, hqueued, packets, packets, packets,
      List.filterMap_append]
  have hreceiver := hgiven.receiver
  have hstopped := hgiven.stopped hthrew
  rw [hpackets, Receiver.acceptAll_append] at hreceiver hstopped
  generalize (handler.receiver.acceptAll (packets cfg.sizeT first)).2 = r at hreceiver hstopped
  have hfinal : (r.acceptAll (packets cfg.sizeT last)).1 =
      List.replicate (t.chunks.length - 1) .rdeOk ++ [(t.final r checksum).1] ∧
      (r.acceptAll (packets cfg.sizeT last)).2 = (t.final r checksum).2 := by
    rw [hsent.packets_eq, acceptAll_pieces]
    exact ⟨rfl, rfl⟩
  rw [final_matching hmatch] at hfinal
  constructor
  · intro d hd
    have hmanager := congrArg Receiver.dictionaryManager (hreceiver.trans hfinal.2)
    have hdictionary := (t.assembly_finish r.dictionaryManager).1 d hd
    rw [DictionaryManager.getDictionary_eq_some]
    exact (congrArg (fun m => m.dictionaries d.resourceId) hmanager).trans hdictionary
  · apply hstopped
    rw [hfinal.1]
    simp

lemma flagsWord_isReady : ∀ ueSwitch overflow : Bool,
    flagsWord ueSwitch overflow true &&& BmcFlags.ready = BmcFlags.ready := by
  decide

theorem readLoop_receives_dictionaries (hsize : cfg.queueOffset ≤ cfg.queueRegionSize)
    (hlt : cfg.queueRegionSize ≤ 65535)
    {pci : PciDataHandler} {h h' : CircularBufferHeader} (hinit : Initialized cfg pci h)
    {s : PipelineState S ε}
    (hrun : Service.Run (pipeline cfg decoder storer) (readLoop cfg) waits
      ⟨.start pci handler, .idle h, []⟩ s)
    (hidle : s.thread = .idle h') (hthrew : s.world.handshake.threw = false)
    (hread : s.world.handshake.header.bmcReadPtr = s.world.handshake.header.biosWritePtr)
    {before es : List EntryPair} (hpublished : s.world.published = before ++ es)
    {t : DictionaryTransfer} {checksum : UInt32} (hcarries : Carries t checksum es)
    (hmatch : checksum.toBitVec = Crc.crc32 t.bytes) :
    (∀ d ∈ t.dictionaries,
      s.world.handler.dictionaryManager.getDictionary d.resourceId = some d.bytes) ∧
      s.world.handshake.header.bmcFlags &&& BmcFlags.ready = BmcFlags.ready := by
  have hfit : cfg.Fits := ⟨hsize, by omega⟩
  have hrests := start_rests hsize (by omega) hinit handler
  have hgiven := run_given hfit hrun hrests (start_given pci)
  have hholds := run_rests hfit hrun hrests
  obtain ⟨w, thread, results⟩ := s
  obtain rfl : thread = .idle h' := hidle
  replace hpublished : w.queue.published = before ++ es := hpublished
  obtain ⟨c, hc⟩ := hholds.served hthrew
  have hconsumed := hc.consumed
  rw [List.append_nil] at hconsumed
  have hall : c = before ++ es := (Consumed.all hconsumed hread).trans hpublished
  have hvalid : ∀ e ∈ es, ValidEntry e := fun e he =>
    hconsumed.sound.valid e (hpublished.symm ▸ List.mem_append_right before he)
  obtain ⟨hdictionaries, hstopFlags⟩ :=
    hgiven.arrives hthrew (hall ▸ hc.received) hvalid hcarries hmatch
  refine ⟨hdictionaries, ?_⟩
  have hsettled := hholds.settled.2.holds hthrew
  rw [hsettled.bmcFlags, decide_eq_true hstopFlags]
  exact flagsWord_isReady _ _

def dictionaryConfig : Config := { smallConfig with queueRegionSize := 80 }

def dictionaryRegion : PciDataHandler :=
  ((initializeFromConfig dictionaryConfig .zero).run (PciDataHandler.perform .bits64)
    ⟨80, fun _ => 0⟩).2

def oneByteDictionary (resourceId : UInt32) (byte : UInt8) : DictionaryTransfer where
  dictionaries :=
    [{ resourceId, chunks := [⟨0, [byte], by simp⟩], nonempty := List.cons_ne_nil _ _ }]
  nonempty := List.cons_ne_nil _ _
  distinct := List.nodup_singleton _

def dictionarySent : Pipeline Unit :=
  (Pipeline.start dictionaryRegion (.fresh ())).append dictionaryConfig dictionaryEntry

def dictionaryServed : (Except Empty Bool × CircularBufferHeader) × Pipeline Unit :=
  (readLoop dictionaryConfig none (initializedFromConfig dictionaryConfig)).run
    (Pipeline.perform dictionaryConfig nullDecoder nullStorer) dictionarySent

lemma dictionaryServed_run :
    ∃ (w : Pipeline Unit) (h : CircularBufferHeader) (r : Except Empty Bool),
    Service.Run (pipeline dictionaryConfig nullDecoder nullStorer) (readLoop dictionaryConfig) waits
      ⟨.start dictionaryRegion (.fresh ()), .idle (initializedFromConfig dictionaryConfig), []⟩
        ⟨w, .idle h, [r]⟩ ∧
    w.handshake.threw = false ∧ w.handshake.header.bmcReadPtr = w.handshake.header.biosWritePtr ∧
    w.published = [dictionaryEntry] := by
  have hsent : (pipeline dictionaryConfig nullDecoder nullStorer).Later
      (.start dictionaryRegion (.fresh ())) dictionarySent :=
      pipeline_appends rfl (by decide) (by decide +kernel)
  have hends : dictionaryServed.2.handshake.threw = false ∧
    dictionaryServed.2.handshake.header.bmcReadPtr =
      dictionaryServed.2.handshake.header.biosWritePtr ∧
      dictionaryServed.2.published = [dictionaryEntry] := by
    decide +kernel
  refine ⟨dictionaryServed.2, dictionaryServed.1.2, dictionaryServed.1.1, ?_, hends⟩
  rw [dictionaryServed]
  exact (Service.run_later hsent).trans (Service.run_iteration pipeline_performs none (by simp))

theorem readLoop_receives_dictionaries_one : ∃ w : Pipeline Unit, w.published = [dictionaryEntry] ∧
    w.handler.dictionaryManager.getDictionary 5 = some [1] ∧
    w.handshake.header.bmcFlags &&& BmcFlags.ready = BmcFlags.ready := by
  have hinit : Initialized dictionaryConfig dictionaryRegion
      (initializedFromConfig dictionaryConfig) :=
    initializeFromConfig_region ⟨80, fun _ => 0⟩ .zero (by decide) (by decide) (by decide)
  have hcarries : Carries (oneByteDictionary 5 1) 0xa505df1b [dictionaryEntry] :=
    ⟨by decide, by decide⟩
  obtain ⟨w, h, r, hrun, hthrew, hread, hpublished⟩ := dictionaryServed_run
  have hlast : w.published = [] ++ [dictionaryEntry] := hpublished
  obtain ⟨hdictionaries, hready⟩ :=
    readLoop_receives_dictionaries (by decide) (by decide) hinit hrun rfl hthrew hread
    hlast hcarries (by decide +kernel)
  exact ⟨w, hpublished, hdictionaries _ List.mem_cons_self, hready⟩

end SmmErrorLogger.ReadLoop
