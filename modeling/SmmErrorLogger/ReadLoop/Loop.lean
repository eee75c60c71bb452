import SmmErrorLogger.Buffer.BufferImpl
import SmmErrorLogger.Rde.Handler

/-! One iteration of the loop that the timer runs. It reaches the shared memory, the handler of RDE
commands, the console and the timer through calls; its private state is the cached header. -/

namespace SmmErrorLogger.ReadLoop

open Buffer Rde Library.Interaction
open Library.Interaction.Proc (fetch raise raiseIf)

/-- Where the bytes of a command were read. The handler does not see it. -/
inductive LogSource
  | ueRegion
  | queue
  deriving DecidableEq

inductive LoopError (ε : Type)
  | buffer (e : BufferError)
  | ueDecodeStatus (status : RdeDecodeStatus)
  | handler (e : ε)

inductive Message (ε : Type)
  | asyncWaitFailed (error : String)
  | ueLogFound
  | ueLogProcessed
  | overflowAcked
  | processingError (e : LoopError ε)
  | reinitialized
  | reinitializeFailed (e : BufferError)

inductive LoopOp (ε : Type)
  | data (op : DataOp)
  | decodeRdeCommand (source : LogSource) (rdeCommand : List UInt8) (type : RdeCommandType)
  | print (message : Message ε)
  | asyncWait

def LoopCalls (ε : Type) : Signature where
  Op := LoopOp ε
  Ans
    | .data op => DataInterface.Ans op
    | .decodeRdeCommand _ _ _ => Except ε RdeDecodeStatus
    | .print _ => Unit
    | .asyncWait => Unit

variable {ε : Type}

def dataCalls : Embedding DataInterface (LoopCalls ε) where
  op := .data
  ans _ ans := ans

abbrev LoopM (ε : Type) := Proc (LoopCalls ε) CircularBufferHeader (LoopError ε)

def buffer {α : Type} (p : BufferM α) : LoopM ε α := p.lift dataCalls .buffer

def print {ε' : Type} (message : Message ε) : Proc (LoopCalls ε) CircularBufferHeader ε' Unit :=
  Proc.call (S := LoopCalls ε) (.print message)

def asyncWait {ε' : Type} : Proc (LoopCalls ε) CircularBufferHeader ε' Unit :=
  Proc.call (S := LoopCalls ε) .asyncWait

def handlerResult : Except ε RdeDecodeStatus → LoopM ε RdeDecodeStatus
  | .ok status => pure status
  | .error e => raise (.handler e)

def decodeRdeCommand (source : LogSource) (rdeCommand : List UInt8) (type : RdeCommandType) :
    LoopM ε RdeDecodeStatus := do
  let result ← Proc.call (S := LoopCalls ε) (.decodeRdeCommand source rdeCommand type)
  handlerResult result

def processUeLog : LoopM ε Unit := do
  let ueLog ← buffer readUeLogFromReservedRegion
  if ueLog ≠ [] then do
    print .ueLogFound
    -- The UE log is BEJ encoded data
    let ueDecodeStatus ← decodeRdeCommand .ueRegion ueLog .rdeOperationInitRequest
    raiseIf (ueDecodeStatus ≠ .rdeOk ∧ ueDecodeStatus ≠ .rdeStopFlagReceived)
      (.ueDecodeStatus ueDecodeStatus)
    print .ueLogProcessed
    let bufferHeader ← fetch
    buffer (updateBmcFlags (bufferHeader.bmcFlags ^^^ BufferFlags.ueSwitch))
  else pure ()

def warnOfOverflow : LoopM ε Unit := do
  let overflow ← buffer checkForOverflowAndAcknowledge
  if overflow then print .overflowAcked else pure ()

def processEntry (entryPair : EntryPair) : LoopM ε Unit := do
  let rdeDecodeStatus ← decodeRdeCommand .queue entryPair.2 (.ofByte entryPair.1.rdeCommandType)
  if rdeDecodeStatus = .rdeStopFlagReceived then do
    let bufferHeader ← fetch
    buffer (updateBmcFlags (bufferHeader.bmcFlags ||| BmcFlags.ready))
  else pure ()

def processEntries : List EntryPair → LoopM ε Unit
  | [] => pure ()
  | entryPair :: entryPairs => do
    processEntry entryPair
    processEntries entryPairs

variable (cfg : Config)

def processLogs : LoopM ε Unit := do
  processUeLog
  warnOfOverflow
  let entryPairs ← buffer (readErrorLogs cfg)
  processEntries entryPairs

/-- The `catch` block. The result says whether the loop goes on. -/
def reinitializeBuffer (e : LoopError ε) : Proc (LoopCalls ε) CircularBufferHeader Empty Bool := do
  print (.processingError e)
  Proc.tryCatch
    (do
      (initializeFromConfig cfg).lift dataCalls id
      print .reinitialized
      pure true)
    (fun e => do
      print (.reinitializeFailed e)
      pure false)

def readLoop (error : Option String) : Proc (LoopCalls ε) CircularBufferHeader Empty Bool :=
  match error with
  | some error => do
    print (.asyncWaitFailed error)
    pure false
  | none => do
    let goesOn ← Proc.tryCatch
      (do
        processLogs cfg
        pure true)
      (reinitializeBuffer cfg)
    if goesOn then do
      asyncWait
      pure true
    else pure false

def waits : Except Empty Bool → Prop
  | .ok goesOn => goesOn = true

lemma waits_of_toOption {r : Except Empty Bool} (h : r.toOption = some true) : waits r := by
  cases r with
  | error e => exact e.elim
  | ok goesOn => exact Option.some.inj h

section

open Library.Interaction.Proc

variable {W α ε' : Type} {E : Environment (LoopCalls ε) W} {Q : α → CircularBufferHeader → W → Prop}
  {h : CircularBufferHeader} {w : W}

lemma buffer_ensures {X : LoopError ε → CircularBufferHeader → W → Prop} {p : BufferM α} :
    (buffer p).Ensures E Q X h w ↔
      p.Ensures (E.restrict dataCalls) Q (fun e h' w' => X (.buffer e) h' w') h w :=
  ensures_lift

lemma print_then {X : ε' → CircularBufferHeader → W → Prop} {message : Message ε}
    {f : Unit → Proc (LoopCalls ε) CircularBufferHeader ε' α} :
    (print message >>= f).Ensures E Q X h w ↔ ∀ w', E.Later w w' → E.permits w' (.print message) ∧
      ∀ (ans : Unit) w'', E.answers w' (.print message) ans w'' → (f ans).Ensures E Q X h w'' :=
        Iff.rfl

lemma asyncWait_then {X : ε' → CircularBufferHeader → W → Prop}
    {f : Unit → Proc (LoopCalls ε) CircularBufferHeader ε' α} :
    (asyncWait >>= f).Ensures E Q X h w ↔ ∀ w', E.Later w w' → E.permits w' .asyncWait ∧
      ∀ (ans : Unit) w'', E.answers w' .asyncWait ans w'' → (f ans).Ensures E Q X h w'' := Iff.rfl

lemma decodeRdeCommand_then {X : LoopError ε → CircularBufferHeader → W → Prop} {source : LogSource}
    {rdeCommand : List UInt8} {type : RdeCommandType} {f : RdeDecodeStatus → LoopM ε α}
    (h₁ : ∀ w', E.Later w w' → E.permits w' (.decodeRdeCommand source rdeCommand type) ∧
      (∀ e w'', E.answers w' (.decodeRdeCommand source rdeCommand type)
        (.error e : Except ε RdeDecodeStatus) w'' → ∀ w₃, E.Later w'' w₃ → X (.handler e) h w₃) ∧
      ∀ status w'', E.answers w' (.decodeRdeCommand source rdeCommand type)
        (.ok status : Except ε RdeDecodeStatus) w'' → (f status).Ensures E Q X h w'') :
    (decodeRdeCommand source rdeCommand type >>= f).Ensures E Q X h w := by
  rw [ensures_bind]
  intro w' hw
  obtain ⟨hpermits, hthrows, hreturns⟩ := h₁ w' hw
  refine ⟨hpermits, ?_⟩
  rintro (e | status) w'' ha
  · exact hthrows e w'' ha
  · exact fun w₃ hw₃ => (hreturns status w'' ha).later hw₃

end

end SmmErrorLogger.ReadLoop
