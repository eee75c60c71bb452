import SmmErrorLogger.Buffer.Corruption
import SmmErrorLogger.Buffer.Hostile
import SmmErrorLogger.Library.Calls
import SmmErrorLogger.ReadLoop.Loop

/-! How many calls an iteration makes at most, whatever the region holds and whatever the handler
answers. -/

namespace SmmErrorLogger.ReadLoop

open Buffer Rde Library.Interaction
open Library.Interaction.Proc

variable {ε : Type} {cfg : Config}

lemma write_costs {σ ε : Type} (offset : ℕ) (bytes : List UInt8) :
    Costs 1 (fun _ => True) (DataInterface.write offset bytes : Proc DataInterface σ ε ℕ) :=
  costs_call _

lemma read_costs {σ ε : Type} (offset length : ℕ) :
    Costs 1 (fun _ => True)
      (DataInterface.read offset length : Proc DataInterface σ ε (List UInt8)) :=
  costs_call _

lemma readBufferHeader_costs : Costs 1 (fun _ => True) readBufferHeader := by
  rw [readBufferHeader]
  refine (read_costs _ _).bind (d := 0) fun bytes _ => costs_raiseIf_bind fun _ => ?_
  exact costs_put _

lemma updateReadPtr_costs (p : ℕ) : Costs 1 (fun _ => True) (updateReadPtr p) := by
  rw [updateReadPtr]
  refine (write_costs _ _).bind (d := 0) fun written _ => costs_raiseIf_bind fun _ =>
    costs_fetch_bind fun h => ?_
  exact costs_put _

lemma updateBmcFlags_costs (f : UInt32) : Costs 1 (fun _ => True) (updateBmcFlags f) := by
  rw [updateBmcFlags]
  refine (write_costs _ _).bind (d := 0) fun written _ => costs_raiseIf_bind fun _ =>
    costs_fetch_bind fun h => ?_
  exact costs_put _

lemma getMaxOffset_costs (hfit : cfg.Fits) :
    Costs 0 (fun n => n = cfg.maxOffset) (getMaxOffset cfg) := by
  rw [getMaxOffset]
  refine costs_fetch_bind fun h => costs_raiseIf_bind fun hq => costs_raiseIf_bind fun hu =>
    costs_pure ?_
  rw [not_not.mp hq, not_not.mp hu, hfit.sub_eq]

lemma getQueueOffset_costs : Costs 0 (fun _ => True) (getQueueOffset cfg) := by
  rw [getQueueOffset]
  exact costs_fetch_bind fun _ => costs_raiseIf_bind fun _ => costs_pure trivial

lemma wraparoundRead_costs (rel len : ℕ) :
    Costs 3 (fun _ => True) (wraparoundRead cfg rel len) := by
  have hmax : Costs 0 (fun _ => True) (getMaxOffset cfg) := by
    rw [getMaxOffset]
    exact costs_fetch_bind fun _ => costs_raiseIf_bind fun _ => costs_raiseIf_bind fun _ =>
      costs_pure trivial
  rw [wraparoundRead]
  refine hmax.bind (d := 3) fun maxOffset _ => costs_raiseIf_bind fun _ =>
    costs_raiseIf_bind fun _ => ?_
  refine getQueueOffset_costs.bind (d := 3) fun queueOffset _ =>
    (read_costs _ _).bind (d := 2) fun bytes _ => ?_
  refine costs_raiseIf_bind fun _ =>
    Costs.bind (c := 1) (d := 1) (Q := fun _ => True) ?_ fun _ _ => ?_
  · refine Costs.ite (fun _ => ?_) fun _ => (costs_pure trivial).mono (Nat.zero_le 1) fun _ hQ => hQ
    refine (read_costs _ _).bind (d := 0) fun wrapped _ => costs_raiseIf_bind fun _ => ?_
    exact costs_pure trivial
  · exact (updateReadPtr_costs _).bind fun _ _ => costs_pure trivial

lemma readEntry_costs : Costs 6 (fun _ => True) (readEntry cfg) := by
  have hheader : Costs 3 (fun _ => True) (readEntryHeader cfg) := by
    rw [readEntryHeader]
    exact costs_fetch_bind fun _ => (wraparoundRead_costs _ _).bind (d := 0) fun _ _ =>
      costs_pure trivial
  rw [readEntry]
  refine hheader.bind (d := 3) fun _ _ => costs_fetch_bind fun _ =>
    (wraparoundRead_costs _ _).bind (d := 0) fun _ _ => ?_
  exact costs_raiseIf_bind fun _ => costs_pure trivial

lemma readEntries_costs (bytesToRead rounds byteRead : ℕ) (entryPairs : List EntryPair) :
    Costs (6 * rounds) (fun es => es.length ≤ entryPairs.length + rounds)
      (readEntries cfg bytesToRead rounds byteRead entryPairs) := by
  induction rounds generalizing byteRead entryPairs with
  | zero => exact costs_pure le_rfl
  | succ rounds ih =>
    rw [readEntries]
    refine Costs.ite (fun _ => ?_) fun _ =>
      Costs.mono (costs_pure (Nat.le_add_right _ _)) (Nat.zero_le _) fun _ hQ => hQ
    have hround : 6 + 6 * rounds ≤ 6 * (rounds + 1) := by omega
    refine Costs.mono (readEntry_costs.bind fun entryPair _ => (ih _ _).mono le_rfl fun es hes =>
      ?_) hround fun _ hQ => hQ
    rw [List.length_append, List.length_singleton] at hes
    omega

lemma maxRounds_mono {n n' : ℕ} (h : n ≤ n') : maxRounds n ≤ maxRounds n' :=
  Nat.div_le_div_right (Nat.add_le_add_right h _)

lemma readErrorLogs_costs (hfit : cfg.Fits) :
    Costs (1 + 6 * maxRounds cfg.maxOffset) (fun es => es.length ≤ maxRounds cfg.maxOffset)
      (readErrorLogs cfg) := by
  have hloop : ∀ bytesToRead ≤ cfg.maxOffset, Costs (6 * maxRounds cfg.maxOffset)
      (fun es => es.length ≤ maxRounds cfg.maxOffset)
      (readEntries cfg bytesToRead bytesToRead 0 []) := by
    intro bytesToRead hle
    have hrounds := maxRounds_covers bytesToRead
    have hbytes : bytesToRead ≤ QueueEntryHeader.size * bytesToRead := by
      simp only [QueueEntryHeader.size]
      omega
    have hmono := maxRounds_mono hle
    have hsame : readEntries cfg bytesToRead bytesToRead 0 [] = readEntries cfg bytesToRead
        (maxRounds bytesToRead) 0 [] :=
      readEntries_rounds (by omega) (by omega)
    rw [hsame]
    apply (readEntries_costs _ _ _ _).mono (by omega)
    intro es hes
    rw [List.length_nil] at hes
    omega
  rw [readErrorLogs]
  refine readBufferHeader_costs.bind fun _ _ =>
    Costs.mono ((getMaxOffset_costs hfit).bind fun maxOffset hmax =>
      costs_fetch_bind fun h => ?_) (Nat.zero_add _).le fun _ hQ => hQ
  subst hmax
  refine costs_raiseIf_bind fun hw => costs_raiseIf_bind fun hr =>
    Costs.ite (fun _ => ?_) fun hne => ?_
  · exact Costs.mono (costs_pure (Nat.zero_le _)) (Nat.zero_le _) fun _ hQ => hQ
  · refine (hloop _ (by split_ifs <;> omega)).bind (d :=
      0) fun es hes => costs_fetch_bind fun _ => ?_
    exact costs_raiseIf_bind fun _ => costs_pure hes

lemma readUeLogFromReservedRegion_costs : Costs 2 (fun _ => True) readUeLogFromReservedRegion := by
  rw [readUeLogFromReservedRegion]
  refine readBufferHeader_costs.bind (d := 1) fun _ _ => costs_fetch_bind fun h => ?_
  refine Costs.ite (fun _ => (costs_pure trivial).mono (Nat.zero_le 1) fun _ hQ => hQ) fun _ => ?_
  refine Costs.ite (fun _ => (costs_pure trivial).mono (Nat.zero_le 1) fun _ hQ => hQ) fun _ => ?_
  exact (read_costs _ _).bind (d := 0) fun _ _ => Costs.ite (fun _ => costs_pure trivial) fun _ =>
    costs_raise _

lemma checkForOverflowAndAcknowledge_costs :
    Costs 2 (fun _ => True) checkForOverflowAndAcknowledge := by
  rw [checkForOverflowAndAcknowledge]
  refine readBufferHeader_costs.bind (d := 1) fun _ _ => costs_fetch_bind fun h => ?_
  refine Costs.ite (fun _ => ?_) fun _ => (costs_pure trivial).mono (Nat.zero_le 1) fun _ hQ => hQ
  exact (updateBmcFlags_costs _).bind (d := 0) fun _ _ => costs_pure trivial

lemma initializeFromConfig_costs : Costs 3 (fun _ => True) (initializeFromConfig cfg) := by
  rw [initializeFromConfig, initializeBuffer]
  refine Costs.bind (Q := fun _ => True) (d := 2) (costs_call _) fun size _ =>
    costs_raiseIf_bind fun _ => ?_
  refine (write_costs _ _).bind (d := 1) fun _ _ => costs_raiseIf_bind fun _ => ?_
  refine (write_costs _ _).bind (d := 0) fun _ _ => costs_raiseIf_bind fun _ => ?_
  exact costs_put _

lemma print_costs {ε' : Type} (message : Message ε) :
    Costs 1 (fun _ => True) (print message : Proc (LoopCalls ε) CircularBufferHeader ε' Unit) :=
  costs_call _

lemma decodeRdeCommand_costs (source : LogSource) (rdeCommand : List UInt8)
    (type : RdeCommandType) :
    Costs 1 (fun _ => True)
      (decodeRdeCommand source rdeCommand type : LoopM ε RdeDecodeStatus) := by
  rw [decodeRdeCommand]
  refine Costs.bind (Q := fun _ => True) (d := 0) (costs_call _) fun result _ => ?_
  rcases result with e | status
  · exact costs_raise _
  · exact costs_pure trivial

lemma processUeLog_costs : Costs 6 (fun _ => True) (processUeLog : LoopM ε Unit) := by
  rw [processUeLog]
  refine readUeLogFromReservedRegion_costs.lift.bind (d := 4) fun ueLog _ => ?_
  refine Costs.ite (fun _ => ?_) fun _ => (costs_pure trivial).mono (Nat.zero_le 4) fun _ hQ => hQ
  refine (print_costs _).bind (d := 3) fun _ _ =>
    (decodeRdeCommand_costs _ _ _).bind (d := 2) fun status _ => ?_
  refine costs_raiseIf_bind fun _ => (print_costs _).bind (d := 1) fun _ _ =>
    costs_fetch_bind fun h => ?_
  exact (updateBmcFlags_costs _).lift

lemma warnOfOverflow_costs : Costs 3 (fun _ => True) (warnOfOverflow : LoopM ε Unit) := by
  rw [warnOfOverflow]
  refine checkForOverflowAndAcknowledge_costs.lift.bind (d := 1) fun overflow _ => ?_
  exact Costs.ite (fun _ => print_costs _) fun _ =>
    (costs_pure trivial).mono (Nat.zero_le 1) fun _ hQ => hQ

lemma processEntries_costs (entryPairs : List EntryPair) :
    Costs (2 * entryPairs.length) (fun _ => True) (processEntries entryPairs : LoopM ε Unit) := by
  induction entryPairs with
  | nil => exact costs_pure trivial
  | cons entryPair entryPairs ih =>
    have hentry : Costs 2 (fun _ => True) (processEntry entryPair : LoopM ε Unit) := by
      rw [processEntry]
      refine (decodeRdeCommand_costs _ _ _).bind (d := 1) fun status _ => ?_
      refine Costs.ite (fun _ => costs_fetch_bind fun h => ?_) fun _ =>
        (costs_pure trivial).mono (Nat.zero_le 1) fun _ hQ => hQ
      exact (updateBmcFlags_costs _).lift
    have hlength : 2 + 2 * entryPairs.length ≤ 2 * (entryPair :: entryPairs).length := by
      rw [List.length_cons]
      omega
    exact (hentry.bind fun _ _ => ih).mono hlength fun _ hQ => hQ

lemma processLogs_costs (hfit : cfg.Fits) :
    Costs (10 + 8 * maxRounds cfg.maxOffset) (fun _ => True) (processLogs cfg : LoopM ε Unit) := by
  have hentries : ∀ es : List EntryPair, es.length ≤ maxRounds cfg.maxOffset →
      Costs (2 * maxRounds cfg.maxOffset) (fun _ => True) (processEntries es : LoopM ε Unit) :=
    fun es hes => (processEntries_costs es).mono (by omega) fun _ hQ => hQ
  rw [processLogs]
  refine Costs.mono (processUeLog_costs.bind fun _ _ => warnOfOverflow_costs.bind fun _ _ =>
    (readErrorLogs_costs hfit).lift.bind fun es hes => hentries es hes) (by omega) fun _ hQ => hQ

lemma reinitializeBuffer_costs (e : LoopError ε) :
    Costs 6 (fun _ => True) (reinitializeBuffer cfg e) := by
  rw [reinitializeBuffer]
  refine (print_costs _).bind (d := 5) fun _ _ => Costs.tryCatch (c := 4) (d := 1) ?_ fun e => ?_
  · exact initializeFromConfig_costs.lift.bind (d := 1) fun _ _ =>
      (print_costs _).bind (d := 0) fun _ _ =>
      costs_pure trivial
  · exact (print_costs _).bind (d := 0) fun _ _ => costs_pure trivial

def maxCalls (cfg : Config) : ℕ := 17 + 8 * maxRounds cfg.maxOffset

lemma readLoop_costs (hfit : cfg.Fits) (error : Option String) :
    Costs (maxCalls cfg) (fun _ => True)
      (readLoop cfg error : Proc (LoopCalls ε) CircularBufferHeader Empty Bool) := by
  cases error with
  | some error =>
    have hprint : Costs 1 (fun _ => True)
        (readLoop cfg (some error) : Proc (LoopCalls ε) CircularBufferHeader Empty Bool) :=
      (print_costs _).bind (d := 0) fun _ _ => costs_pure trivial
    exact hprint.mono (by rw [maxCalls]; omega) fun _ hQ => hQ
  | none =>
    have hlogs : Costs (10 + 8 * maxRounds cfg.maxOffset) (fun _ => True)
        (do processLogs cfg; pure true : LoopM ε Bool) :=
      (processLogs_costs hfit).bind (d := 0) fun _ _ => costs_pure trivial
    rw [readLoop]
    refine Costs.mono ((hlogs.tryCatch reinitializeBuffer_costs).bind (d := 1) fun goesOn _ => ?_)
      (by rw [maxCalls]; omega) fun _ hQ => hQ
    refine Costs.ite (fun _ => ?_) fun _ => (costs_pure trivial).mono (Nat.zero_le 1) fun _ hQ => hQ
    exact Costs.bind (Q := fun _ => True) (d := 0) (costs_call _) fun _ _ => costs_pure trivial

variable {W : Type} {E : Environment (LoopCalls ε) W} {w : W} {h : CircularBufferHeader}
  {s : Service.State (LoopCalls ε) (W × ℕ) CircularBufferHeader Empty Bool}

theorem readLoop_calls (hfit : cfg.Fits)
    (hrun : Service.Run E.counted (fun error => readLoop cfg error) waits ⟨(w, 0), .idle h, []⟩ s) :
    s.world.2 ≤ maxCalls cfg * (s.results.length + 1) :=
  Service.run_calls (fun error => ⟨fun _ => True, readLoop_costs hfit error⟩) hrun

/-! An iteration that reads the three entries of `wrappedRegion`. -/

def answerAlone (pci : PciDataHandler) :
    (op : LoopOp Empty) → (LoopCalls Empty).Ans op × PciDataHandler
  | .data op => pci.perform wrappedConfig.sizeT op
  | .decodeRdeCommand _ _ _ => (.ok .rdeOk, pci)
  | .print _ => ((), pci)
  | .asyncWait => ((), pci)

def answerCounted (w : PciDataHandler × ℕ) (op : LoopOp Empty) :
    (LoopCalls Empty).Ans op × PciDataHandler × ℕ :=
  let answered := answerAlone w.1 op
  (answered.1, answered.2, w.2 + 1)

abbrev answeredAlone : Environment (LoopCalls Empty) PciDataHandler :=
  alone (S := LoopCalls Empty) answerAlone

lemma answerCounted_answers (w : PciDataHandler × ℕ) (op : LoopOp Empty) :
    answeredAlone.counted.answers w op (answerCounted w op).1 (answerCounted w op).2 := ⟨rfl, rfl⟩

def wrappedServed : (Except Empty Bool × CircularBufferHeader) × PciDataHandler × ℕ :=
  (readLoop wrappedConfig none .zero).run answerCounted (wrappedRegion, 0)

lemma wrappedServed_run :
    Service.Run answeredAlone.counted (fun error => readLoop wrappedConfig error) waits
    ⟨(wrappedRegion, 0), .idle .zero, []⟩
      ⟨wrappedServed.2, .idle wrappedServed.1.2, [wrappedServed.1.1]⟩ := by
  rw [wrappedServed]
  exact Service.run_iteration answerCounted_answers none fun _ hr => nomatch hr

theorem readLoop_calls_wrappedRegion :
    (headerAt wrappedServed.2.1.mmap).bmcReadPtr = 14 ∧ wrappedServed.2.2 = 20 ∧
    wrappedServed.2.2 ≤ maxCalls wrappedConfig * 2 := by
  refine ⟨by decide +kernel, by decide +kernel, ?_⟩
  have hrun := wrappedServed_run
  -- the run itself must not be computed again
  generalize wrappedServed = served at hrun ⊢
  exact readLoop_calls ⟨by decide, by decide⟩ hrun

end SmmErrorLogger.ReadLoop
