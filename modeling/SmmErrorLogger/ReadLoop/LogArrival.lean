import SmmErrorLogger.Rde.LogRequests
import SmmErrorLogger.ReadLoop.DictionaryArrival

namespace SmmErrorLogger.ReadLoop

open Buffer Buffer.SharedQueue Rde Library Library.Bytes Library.Interaction

variable {S ε : Type} {cfg : Config} {decoder : BejDecoder} {storer : ExternalStorerInterface S ε}
  {handler : RdeCommandHandler S} {w : Pipeline S}

lemma Pipeline.queued_all (h : ∀ c ∈ w.commands, c.1 = .queue) :
    w.commands.map Prod.snd = w.queued := by
  rw [queued, List.filter_eq_self.mpr (fun c hc => by simpa using h c hc)]

lemma Given.exchanges (hgiven : Given cfg decoder storer handler w)
    (hqueue : ∀ c ∈ w.commands, c.1 = .queue)
    {es : List EntryPair} (hreceived : w.received = es.map entryCommand)
    (hvalid : ∀ e ∈ es, ValidEntry e)
    {xs : List Exchange} (hsent : es.map entryCommand = xs.flatMap Exchange.messages) :
    w.handler.logReceiver =
      (Machine.run (LogReceiver.exchange decoder storer) handler.logReceiver xs).2 := by
  rw [hgiven.decoded, Pipeline.queued_all hqueue]
  exact (Machine.run_encoded decodeAll_exchange (entryCommand_fits hvalid hreceived)
    (hreceived.trans hsent)).2

theorem readLoop_stores_logs (hsize : cfg.queueOffset ≤ cfg.queueRegionSize)
    (hlt : cfg.queueRegionSize ≤ 65535)
    {pci : PciDataHandler} {h h' : CircularBufferHeader} (hinit : Initialized cfg pci h)
    {s : PipelineState S ε}
    (hrun : Service.Run (pipeline cfg decoder storer) (readLoop cfg) waits
      ⟨.start pci handler, .idle h, []⟩ s)
    (hidle : s.thread = .idle h') (hthrew : s.world.handshake.threw = false)
    (hread : s.world.handshake.header.bmcReadPtr = s.world.handshake.header.biosWritePtr)
    (hqueue : ∀ c ∈ s.world.commands, c.1 = .queue)
    {xs : List Exchange}
    (hsent : s.world.published.map entryCommand = xs.flatMap Exchange.messages) :
    s.world.handler.logReceiver =
      (Machine.run (LogReceiver.exchange decoder storer) handler.logReceiver xs).2 := by
  have hfit : cfg.Fits := ⟨hsize, by omega⟩
  have hrests := start_rests hsize (by omega) hinit handler
  have hgiven := run_given hfit hrun hrests (start_given pci)
  have hholds := run_rests hfit hrun hrests
  obtain ⟨w, thread, results⟩ := s
  obtain rfl : thread = .idle h' := hidle
  obtain ⟨c, hc⟩ := hholds.served hthrew
  have hconsumed := hc.consumed
  rw [List.append_nil] at hconsumed
  obtain rfl : c = w.published := Consumed.all hconsumed hread
  exact hgiven.exchanges hqueue hc.received hconsumed.sound.valid hsent

/-! A dictionary and a log in the queue, and one iteration. -/

def logConfig : Config := { smallConfig with queueRegionSize := 128 }

def logRegion : PciDataHandler :=
  ((initializeFromConfig logConfig .zero).run (PciDataHandler.perform .bits64) ⟨128, fun _ => 0⟩).2

def annotationLog : LogRequest where
  resourceId := 0
  operationId := 0
  flags := schemaLog.flags
  locator := []
  payload := [8]
  rest := []
  containsRequestPayload := schemaLog.containsRequestPayload
  locator_lt := Nat.two_pow_pos 8
  payload_lt := Nat.one_lt_two_pow (by decide)

def annotationEntries : List EntryPair := [
  (⟨0, 15, 105, 1⟩, [0, 3, 0, 0, 0, 0, 1, 0, 0, 0, 1, 0x1b, 0xdf, 0x05, 0xa5]),
  (⟨1, 18, 30, 2⟩, [0, 0, 0, 0, 0, 0, 4, 2, 0, 0, 0, 0, 0, 1, 0, 0, 0, 8])]

def logStarted : Pipeline (List (List UInt8)) := .start logRegion (.fresh [])

def logSent : Pipeline (List (List UInt8)) :=
  annotationEntries.foldl (Pipeline.append logConfig) logStarted

def logServed : (Except Empty Bool × CircularBufferHeader) × Pipeline (List (List UInt8)) :=
  (readLoop logConfig none (initializedFromConfig logConfig)).run
    (Pipeline.perform logConfig schemaDecoder listStorer) logSent

lemma logServed_run :
    ∃ (w : Pipeline (List (List UInt8))) (h : CircularBufferHeader) (r : Except Empty Bool),
    Service.Run (pipeline logConfig schemaDecoder listStorer) (readLoop logConfig) waits
      ⟨logStarted, .idle (initializedFromConfig logConfig), []⟩ ⟨w, .idle h, [r]⟩ ∧
    w.handshake.threw = false ∧ w.handshake.header.bmcReadPtr = w.handshake.header.biosWritePtr ∧
    (∀ c ∈ w.commands, c.1 = .queue) ∧ w.published = annotationEntries := by
  have hsent : (pipeline logConfig schemaDecoder listStorer).Later logStarted logSent :=
    (pipeline_appends rfl (by decide) (by decide +kernel)).trans
      (pipeline_appends (by decide +kernel) (by decide) (by decide +kernel))
  have hends : logServed.2.handshake.threw = false ∧ logServed.2.handshake.header.bmcReadPtr =
      logServed.2.handshake.header.biosWritePtr ∧ (∀ c ∈ logServed.2.commands, c.1 = .queue) ∧
      logServed.2.published = annotationEntries := by
    decide +kernel
  refine ⟨logServed.2, logServed.1.2, logServed.1.1, ?_, hends⟩
  rw [logServed]
  exact (Service.run_later hsent).trans (Service.run_iteration pipeline_performs none (by simp))

theorem readLoop_stores_logs_one :
    ∃ w : Pipeline (List (List UInt8)), w.published = annotationEntries ∧
    w.handler.logReceiver.exStorer = [[1, 8]] := by
  have hinit : Initialized logConfig logRegion (initializedFromConfig logConfig) :=
    initializeFromConfig_region ⟨128, fun _ => 0⟩ .zero (by decide) (by decide) (by decide)
  obtain ⟨w, h, r, hrun, hthrew, hread, hqueue, hpublished⟩ := logServed_run
  have hsent : w.published.map entryCommand =
      [Exchange.dictionaries (oneByteDictionary 0 1) 0xa505df1b, .log annotationLog].flatMap
      Exchange.messages := by
    rw [hpublished]
    decide +kernel
  have hstored :=
    readLoop_stores_logs (by decide) (by decide) hinit hrun rfl hthrew hread hqueue hsent
  refine ⟨w, hpublished, ?_⟩
  rw [hstored]
  decide +kernel

end SmmErrorLogger.ReadLoop
