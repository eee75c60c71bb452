import SmmErrorLogger.Buffer.Fifo
import SmmErrorLogger.Buffer.HeaderAccess
import SmmErrorLogger.Rde.RoundTrip
import SmmErrorLogger.ReadLoop.HandshakeLoop

/-! The whole way of an entry: the BIOS appends it to the queue, and the loop reads it and hands it
to the handler of RDE commands. The flags and the queue lie in one region. -/

namespace SmmErrorLogger.ReadLoop

open Buffer Buffer.SharedQueue Rde Library Library.Bytes Library.Interaction
open Library.Interaction.Proc

structure Pipeline (S : Type) where
  handshake : Handshake
  -- what the BIOS appended and what it is storing, as in `SharedQueue`
  published : List EntryPair
  pending : Option (EntryPair × ℕ)
  snapshot : List EntryPair
  handler : RdeCommandHandler S
  -- all that the handler was given
  commands : List (LogSource × Command)

variable {S ε : Type} {cfg : Config} {decoder : BejDecoder} {storer : ExternalStorerInterface S ε}

def entryCommand (entryPair : EntryPair) : List UInt8 × RdeCommandType :=
  (entryPair.2, .ofByte entryPair.1.rdeCommandType)

namespace Pipeline

def queue (w : Pipeline S) : SharedQueue := ⟨w.handshake.pci, w.published, w.pending, w.snapshot⟩

def withQueue (w : Pipeline S) (q : SharedQueue) : Pipeline S :=
  { w with
    handshake := { w.handshake with pci := q.pci }
    published := q.published
    pending := q.pending
    snapshot := q.snapshot }

def start (pci : PciDataHandler) (handler : RdeCommandHandler S) : Pipeline S :=
  ⟨.start pci, [], none, [], handler, []⟩

def queued (w : Pipeline S) : List Command :=
  (w.commands.filter (fun c => c.1 = .queue)).map Prod.snd

def received (w : Pipeline S) : List (List UInt8 × RdeCommandType) :=
  w.queued.map (fun c => (c.span.bytes, c.type))

end Pipeline

structure SparesQueue (cfg : Config) (pci pci' : PciDataHandler) : Prop where
  biosWritePtr : (headerAt pci'.mmap).biosWritePtr = (headerAt pci.mmap).biosWritePtr
  cells : ∀ i < cfg.maxOffset, queueCell cfg pci'.mmap i = queueCell cfg pci.mmap i

inductive BiosActs (cfg : Config) (w : Pipeline S) : Pipeline S → Prop
  | produces {q : SharedQueue} : Produces cfg w.queue q → BiosActs cfg w (w.withQueue q)
  | other {handshake : Handshake} : BiosStep cfg w.handshake handshake →
      SparesQueue cfg w.handshake.pci handshake.pci → BiosActs cfg w { w with handshake }

namespace Pipeline

def Answers (cfg : Config) (decoder : BejDecoder) (storer : ExternalStorerInterface S ε)
    (w : Pipeline S) :
    (op : LoopOp ε) → (LoopCalls ε).Ans op → Pipeline S → Prop
  | .data op, ans, w' => w.handshake.Answers cfg (ε := ε) (.data op) ans w'.handshake ∧
      w.queue.perform cfg.sizeT op = (ans, w'.queue) ∧ w'.handler = w.handler ∧
        w'.commands = w.commands
  | .decodeRdeCommand source rdeCommand type, result, w' => ∃ handshake handler, ∃ span : Span,
      w.handshake.Answers cfg (.decodeRdeCommand source rdeCommand type) result handshake ∧
        span.bytes = rdeCommand ∧
      w.handler.decode cfg.sizeT decoder storer ⟨span, type⟩ = (result, handler) ∧
      w' = { w with handshake, handler, commands := w.commands ++ [(source, ⟨span, type⟩)] }
  | .print message, ans, w' => ∃ handshake, w.handshake.Answers cfg (.print message) ans handshake ∧
      w' = { w with handshake }
  | .asyncWait, ans, w' => ∃ handshake, w.handshake.Answers cfg (ε := ε) .asyncWait ans handshake ∧
      w' = { w with handshake }

def InTurn (w : Pipeline S) : LoopOp ε → Prop
  | .data _ => True
  | .decodeRdeCommand .ueRegion _ _ => True
  | .decodeRdeCommand .queue rdeCommand type =>
    w.received ++ [(rdeCommand, type)] <+: w.published.map entryCommand
  | .print message => ∀ e, message ≠ .processingError (.buffer e)
  | .asyncWait => True

end Pipeline

def RequestsUeLog : LoopOp ε → Prop
  | .data _ => True
  | .decodeRdeCommand .ueRegion _ type => type = .rdeOperationInitRequest
  | .decodeRdeCommand .queue _ _ => True
  | .print _ => True
  | .asyncWait => True

def pipeline (cfg : Config) (decoder : BejDecoder) (storer : ExternalStorerInterface S ε) :
    Environment (LoopCalls ε) (Pipeline S) where
  interferes := BiosActs cfg
  permits w op := RequestsUeLog op ∧
    (w.handshake.threw = false → w.handshake.Permits cfg op ∧ w.InTurn op)
  answers := Pipeline.Answers cfg decoder storer

lemma SharedQueue.Produces.biosStep {w : Handshake} {q q' : SharedQueue} (hq : q.pci = w.pci)
    (h : Produces cfg q q') : BiosStep cfg w { w with pci := q'.pci } := by
  have hstore : ∀ {off bs}, 0x2c ≤ off → (off + bs.length ≤ 0x30 ∨ cfg.queueOffset ≤ off) →
      BiosStep cfg w { w with pci := q.storeAt off bs } := by
    intro off bs hoff hcell
    rw [storeAt, hq]
    have hflags : (headerAt (store w.pci.mmap off bs)).biosFlags = w.header.biosFlags := by
      rw [headerAt_biosFlags, Handshake.header, headerAt_biosFlags]
      refine congrArg (UInt32.ofNat ∘ ofLittleEndian) (load_store_outside (Or.inl ?_))
      simp only [CircularBufferHeader.biosFlagsOffset]
      omega
    refine .write (biosWrites_store (by omega)) (by rw [hflags]) (by rw [hflags]) fun _ =>
      load_store_outside ?_
    have hle : (UInt16.ofNat cfg.ueRegionSize).toNat ≤ cfg.ueRegionSize := by
      rw [UInt16.toNat_ofNat']
      exact Nat.mod_le _ _
    simp only [Config.queueOffset, CircularBufferHeader.size] at *
    omega
  have hsame : BiosStep cfg w { w with pci := w.pci } :=
    .write ⟨rfl, fun _ _ => rfl⟩ rfl rfl fun _ => rfl
  cases h with
  | begin => rwa [hq]
  | write e k b =>
    refine hstore ?_ (Or.inr (Nat.le_add_right _ _))
    simp only [Config.queueOffset, CircularBufferHeader.size]
    omega
  | publish e => exact hstore (by decide) (Or.inl (by rw [littleEndian_length]; decide))

lemma BiosActs.biosStep {w w' : Pipeline S} (h : BiosActs cfg w w') :
    BiosStep cfg w.handshake w'.handshake := by
  cases h with
  | produces hq => exact SharedQueue.Produces.biosStep rfl hq
  | other hstep => exact hstep

lemma Pipeline.Answers.handshake {w w' : Pipeline S} {op : LoopOp ε} {ans : (LoopCalls ε).Ans op}
    (h : w.Answers cfg decoder storer op ans w') : w.handshake.Answers cfg op ans w'.handshake := by
  cases op with
  | data => exact h.1
  | decodeRdeCommand source =>
    obtain ⟨handshake, handler, span, hanswers, -, -, rfl⟩ := h
    exact hanswers
  | print =>
    obtain ⟨handshake, hanswers, rfl⟩ := h
    exact hanswers
  | asyncWait =>
    obtain ⟨handshake, hanswers, rfl⟩ := h
    exact hanswers

def flagsPermitted (cfg : Config) (w : Pipeline S) (op : LoopOp ε) : Prop :=
  w.handshake.threw = false → w.handshake.Permits cfg op

def turnsPermitted (w : Pipeline S) (op : LoopOp ε) : Prop :=
  w.handshake.threw = false → w.InTurn op

lemma pipeline_view : ((pipeline cfg decoder storer).permitting (flagsPermitted cfg)).View
    (handshakes cfg ε) Pipeline.handshake where
  interferes h := h.biosStep
  permits h := h
  answers h := h.handshake

lemma pipeline_permits (w : Pipeline S) (op : LoopOp ε) (hue : RequestsUeLog op)
    (hflags : flagsPermitted cfg w op)
    (hturns : turnsPermitted w op) : (pipeline cfg decoder storer).permits w op :=
  ⟨hue, fun hthrew => ⟨hflags hthrew, hturns hthrew⟩⟩

lemma decodeRdeCommand_requests (source : LogSource) (rdeCommand : List UInt8)
    (type : RdeCommandType)
    (hop : RequestsUeLog (.decodeRdeCommand source rdeCommand type : LoopOp ε)) :
    Only RequestsUeLog (decodeRdeCommand source rdeCommand type : LoopM ε RdeDecodeStatus) := by
  have hdecode : Only RequestsUeLog
      (Proc.call (S := LoopCalls ε) (.decodeRdeCommand source rdeCommand type) :
        LoopM ε (Except ε RdeDecodeStatus)) := only_call _ hop
  apply hdecode.bind
  rintro (e | status)
  · exact only_raise _
  · exact only_pure status

lemma buffer_requests {α : Type} (p : BufferM α) : Only RequestsUeLog (buffer p : LoopM ε α) :=
  only_lift (fun _ => trivial) _ p

lemma print_requests {ε' : Type} (message : Message ε) :
    Only RequestsUeLog (print message : Proc (LoopCalls ε) CircularBufferHeader ε' Unit) :=
  only_call (S := LoopCalls ε) (.print message) trivial

lemma processUeLog_requests : Only RequestsUeLog (processUeLog : LoopM ε Unit) := by
  refine (buffer_requests _).bind fun ueLog => Keeps.ite ?_ (only_pure ())
  refine (print_requests _).bind fun _ =>
    (decodeRdeCommand_requests .ueRegion ueLog _ rfl).bind fun status => ?_
  refine (only_raiseIf _ _).bind fun _ => (print_requests _).bind fun _ => ?_
  exact keeps_fetch_bind fun _ => buffer_requests _

lemma processEntries_requests (entryPairs : List EntryPair) :
    Only RequestsUeLog (processEntries entryPairs : LoopM ε Unit) := by
  induction entryPairs with
  | nil => exact only_pure ()
  | cons entryPair entryPairs ih =>
    have hentry : Only RequestsUeLog (processEntry entryPair : LoopM ε Unit) :=
      (decodeRdeCommand_requests .queue _ _ trivial).bind fun _ =>
        Keeps.ite (keeps_fetch_bind fun _ => buffer_requests _) (only_pure ())
    exact hentry.bind fun _ => ih

lemma processLogs_requests : Only RequestsUeLog (processLogs cfg : LoopM ε Unit) :=
  processUeLog_requests.bind fun _ =>
    ((buffer_requests _).bind fun _ => Keeps.ite (print_requests _) (only_pure ())).bind fun _ =>
      (buffer_requests _).bind processEntries_requests

lemma readLoop_requests (error : Option String) :
    Only RequestsUeLog (readLoop cfg error :
      Proc (LoopCalls ε) CircularBufferHeader Empty Bool) := by
  cases error with
  | some error => exact (print_requests _).bind fun _ => only_pure false
  | none =>
    have hcatch : ∀ e : LoopError ε, Only RequestsUeLog (reinitializeBuffer cfg e) := fun e =>
      (print_requests _).bind fun _ => Only.tryCatch
        ((only_lift (fun _ => trivial) _ _).bind fun _ => (print_requests _).bind fun _ =>
          only_pure true)
        (fun e => (print_requests _).bind fun _ => only_pure false)
    have hwait : Only RequestsUeLog
        (do asyncWait; pure true : Proc (LoopCalls ε) CircularBufferHeader Empty Bool) :=
      (only_call (S := LoopCalls ε) .asyncWait trivial).bind fun _ => only_pure true
    have hlogs : Only RequestsUeLog (do processLogs cfg; pure true : LoopM ε Bool) :=
      processLogs_requests.bind fun _ => only_pure true
    exact (Only.tryCatch hlogs hcatch).bind fun goesOn => hwait.ite (only_pure false)

def Pipeline.perform (cfg : Config) (decoder : BejDecoder) (storer : ExternalStorerInterface S ε)
    (w : Pipeline S) :
    (op : LoopOp ε) → (LoopCalls ε).Ans op × Pipeline S
  | .data op =>
    let (ans, q) := w.queue.perform cfg.sizeT op
    (ans, { w.withQueue q with handshake := w.handshake.updated q.pci })
  | .decodeRdeCommand source rdeCommand type =>
    let command : Command := ⟨.ofList rdeCommand, type⟩
    let (result, handler) := w.handler.decode cfg.sizeT decoder storer command
    let handshake := match source with
      | .ueRegion => { w.handshake with handed := w.handshake.handed ++ [rdeCommand] }
      | .queue => w.handshake.decoded result
    (result, { w with handshake, handler, commands := w.commands ++ [(source, command)] })
  | .print message => ((), { w with handshake := w.handshake.printed message })
  | .asyncWait => ((), w)

lemma pipeline_performs (w : Pipeline S) (op : LoopOp ε) :
    (pipeline cfg decoder storer).answers w op
    (w.perform cfg decoder storer op).1 (w.perform cfg decoder storer op).2 := by
  cases op with
  | data op => exact ⟨⟨_, rfl, rfl⟩, rfl, rfl, rfl⟩
  | decodeRdeCommand source rdeCommand type =>
    cases source with
    | ueRegion => exact ⟨_, _, .ofList rdeCommand, rfl, Span.load_ofList, rfl, rfl⟩
    | queue => exact ⟨_, _, .ofList rdeCommand, rfl, Span.load_ofList, rfl, rfl⟩
  | print message => exact ⟨_, rfl, rfl⟩
  | asyncWait => exact ⟨_, rfl, rfl⟩

def Pipeline.append (cfg : Config) (w : Pipeline S) (e : EntryPair) : Pipeline S :=
  w.withQueue (w.queue.append cfg e)

lemma pipeline_produces {w : Pipeline S} {q : SharedQueue}
    (h : Relation.ReflTransGen (Produces cfg) w.queue q) :
    (pipeline cfg decoder storer).Later w (w.withQueue q) := by
  induction h with
  | refl => exact .refl
  | tail _ hq ih => exact ih.tail (.produces hq)

lemma pipeline_appends {w : Pipeline S} {e : EntryPair} (hnone : w.pending = none)
    (he : ValidEntry e) (hfree : w.queue.used cfg + (entryBytes e).length < (cfg.maxOffset : ℤ)) :
    (pipeline cfg decoder storer).Later w (w.append cfg e) :=
  pipeline_produces (append_produces hnone he hfree)

lemma biosToggles_spares {pci : PciDataHandler} {b : UInt32} :
    SparesQueue cfg pci (biosToggles pci b) where
  biosWritePtr := by
    rw [headerAt_eq, headerAt_eq]
    exact congrArg ofLittleEndian
      (load_store_outside (Or.inr (by rw [littleEndian_length]; decide)))
  cells i _ := by
    have hcells : queueCell cfg (biosToggles pci b).mmap = queueCell cfg pci.mmap :=
      queueCell_store_outside (by rw [littleEndian_length]; decide)
    rw [hcells]

lemma pipeline_posts {w : Pipeline S} (hread : ¬ w.handshake.Unread) :
    (pipeline cfg decoder storer).interferes w { w with handshake := w.handshake.postUeLog cfg } :=
  .other (.post hread) biosToggles_spares

lemma pipeline_reports {w : Pipeline S} (hseen : ¬ w.handshake.Overflowed) :
    (pipeline cfg decoder storer).interferes w { w with handshake := w.handshake.reportOverflow } :=
  .other (.report hseen) biosToggles_spares

end SmmErrorLogger.ReadLoop
