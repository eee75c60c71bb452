import SmmErrorLogger.Buffer.Clamping
import SmmErrorLogger.Buffer.HeaderAccess
import SmmErrorLogger.Buffer.Hostile
import SmmErrorLogger.Library.Service
import SmmErrorLogger.ReadLoop.Loop

/-! The loop over a region whose contents anyone may change at any time, and a handler that may
answer anything. -/

namespace SmmErrorLogger.ReadLoop

open Buffer Rde Library.Bytes Library.Interaction
open Library.Interaction.Proc

variable {ε : Type} {cfg : Config} {r : UInt32} {m : Memory} {h : CircularBufferHeader}

def Faithful (cfg : Config) (pci : PciDataHandler) : DataOp → Prop
  | .read offset length => offset + length < 2 ^ 32 ∧
      pci.read offset length = load pci.mmap offset (pci.available offset length)
  | .write offset bytes =>
    offset + bytes.length ≤ cfg.queueRegionSize ∧ pci.write cfg.sizeT offset bytes =
      (pci.available offset bytes.length,
        { pci with mmap := store pci.mmap offset (bytes.take (pci.available offset bytes.length)) })
  | .getMemoryRegionSize => True

def unguarded (cfg : Config) (ε : Type) (r : UInt32) : Environment (LoopCalls ε) Memory where
  interferes _ _ := True
  permits m
    | .data op => Faithful cfg ⟨r, m⟩ op
    | _ => True
  answers m
    | .data op, ans, m' => (PciDataHandler.mk r m).perform cfg.sizeT op = (ans, ⟨r, m'⟩)
    | _, _, _ => True

lemma faithful_read {pci : PciDataHandler} {offset length : ℕ} (hlt : offset + length < 2 ^ 32) :
    Faithful cfg pci (.read offset length) := by
  have hsum : ¬ pci.SumWraps offset length := fun hwraps => absurd hwraps.2.1 (by omega)
  refine ⟨hlt, ?_⟩
  rw [PciDataHandler.read_eq_load,
    PciDataHandler.readLength_of_not_wraps (by omega) (by omega) hsum]

lemma faithful_write (hlt : cfg.queueRegionSize ≤ 65535) {pci : PciDataHandler} {offset : ℕ}
    {bytes : List UInt8}
    (hin : offset + bytes.length ≤ cfg.queueRegionSize) :
    Faithful cfg pci (.write offset bytes) := by
  have hmodulus := cfg.sizeT.modulus_ge
  have havailable : pci.available offset bytes.length ≤ bytes.length := PciDataHandler.available_le
  refine ⟨hin, ?_⟩
  rw [PciDataHandler.write_eq (by omega), uint16_of_lt (by omega)]

lemma unguarded_write (hlt : cfg.queueRegionSize ≤ 65535) (hregion : cfg.queueRegionSize ≤ r.toNat)
    {bytes : List UInt8} (hbytes : bytes.length ≤ cfg.queueRegionSize) :
    ((unguarded cfg ε r).restrict dataCalls).permits m (.write 0 bytes) ∧
      ∀ (n : ℕ) m', ((unguarded cfg ε r).restrict dataCalls).answers m (.write 0 bytes) n m' →
        n = bytes.length := by
  have hfaithful : Faithful cfg ⟨r, m⟩ (.write 0 bytes) := faithful_write hlt (by omega)
  refine ⟨hfaithful, ?_⟩
  rintro _ m' ⟨n, ha, rfl⟩
  have hwithin : (PciDataHandler.mk r m).write cfg.sizeT 0 bytes = _ :=
    PciDataHandler.write_within (by rw [Nat.zero_add]; exact hbytes.trans hregion) (by omega)
  exact (congrArg Prod.fst (hwithin.symm.trans ha)).symm

abbrev StaysFaithful {α ε' : Type} (cfg : Config) (r : UInt32)
    (p : Proc (LoopCalls ε) CircularBufferHeader ε' α) : Prop :=
  Keeps (unguarded cfg ε r) (fun _ _ => True) p

lemma print_faithful {ε' : Type} (message : Message ε) :
    StaysFaithful cfg r (print message : Proc (LoopCalls ε) CircularBufferHeader ε' Unit) :=
  fun _ _ _ _ _ => ⟨trivial, fun _ _ _ _ _ => trivial⟩

lemma decodeRdeCommand_faithful (source : LogSource) (rdeCommand : List UInt8)
    (type : RdeCommandType) :
    StaysFaithful cfg r (decodeRdeCommand source rdeCommand type : LoopM ε RdeDecodeStatus) := by
  intro h m _ m' _
  refine ⟨trivial, ?_⟩
  rintro (e | status) m'' _ m₃ _ <;> trivial

lemma faithful_pure {α ε' : Type} (a : α) :
    StaysFaithful cfg r (pure a : Proc (LoopCalls ε) CircularBufferHeader ε' α) :=
  keeps_pure (fun _ _ _ _ _ => trivial) a

lemma initialize_refused (hlt : cfg.queueRegionSize ≤ 65535)
    (hsmall : r.toNat < cfg.queueRegionSize) :
    (initializeFromConfig cfg).Ensures ((unguarded cfg ε r).restrict dataCalls) (fun _ _ _ => False)
      (fun _ _ _ => True) h m := by
  rw [initializeFromConfig, initializeBuffer, DataInterface.getMemoryRegionSize_then]
  refine fun m₁ _ => ⟨trivial, ?_⟩
  rintro n m₂ ⟨answer, ha, hanswer⟩
  obtain rfl : answer = n := hanswer
  obtain rfl : r.toNat = answer := congrArg Prod.fst ha
  refine ensures_raiseIf_bind.mpr ⟨fun _ _ _ => trivial, fun hgt => absurd ?_ hgt⟩
  rw [UInt16.toNat_ofNat', Nat.mod_eq_of_lt (by omega)]
  exact hsmall

section

variable (hsize : cfg.queueOffset ≤ cfg.queueRegionSize) (hlt : cfg.queueRegionSize ≤ 65535)
include hsize hlt

lemma faithful_header_write {pci : PciDataHandler} {offset : ℕ} {bytes : List UInt8}
    (hin : offset + bytes.length ≤ CircularBufferHeader.size) :
    Faithful cfg pci (.write offset bytes) :=
  faithful_write hlt (hin.trans ((Nat.le_add_right _ _).trans hsize))

lemma harmless_faithful {pci : PciDataHandler} {op : DataOp} (hop : Harmless cfg op) :
    Faithful cfg pci op := by
  cases op with
  | read offset length =>
    apply faithful_read
    rcases hop with hheader | ⟨-, hend⟩
    · obtain ⟨rfl, rfl⟩ := DataOp.read.inj hheader
      norm_num [CircularBufferHeader.size]
    · omega
  | write offset bytes =>
    obtain ⟨rfl, p, -, rfl⟩ := hop.resolve_left (by simp)
    apply faithful_header_write hsize hlt
    rw [littleEndian_length]
    decide
  | getMemoryRegionSize => trivial

lemma unguarded_queueAccess :
    QueueAccess cfg ((unguarded cfg ε r).restrict dataCalls) (fun _ => True) where
  stable _ _ _ _ := trivial
  queue _ hop _ _ := ⟨harmless_faithful hsize hlt (Or.inr hop), fun _ _ _ => trivial⟩

lemma unguarded_headerAccess : HeaderAccess ((unguarded cfg ε r).restrict dataCalls) (· < 2 ^ 16)
    (fun _ => True) (fun _ => True) where
  stable _ _ _ _ := trivial
  cutShort_stable _ _ _ _ := trivial
  header m _ := by
    have hfaithful : Faithful cfg ⟨r, m⟩ (.read 0 CircularBufferHeader.size) :=
      faithful_read (by decide)
    refine ⟨hfaithful, fun bytes m' _ => ?_⟩
    split_ifs
    exact ⟨CircularBufferHeader.ofBytes_ueRegionSize_lt bytes, trivial⟩
  ueRegion n hn m _ := by
    have hfaithful : Faithful cfg ⟨r, m⟩ (.read CircularBufferHeader.size n) := by
      apply faithful_read
      rw [CircularBufferHeader.size]
      omega
    exact ⟨hfaithful, fun bytes m' _ => by split_ifs⟩
  flags f m _ := by
    have hfaithful : Faithful cfg ⟨r, m⟩
        (.write CircularBufferHeader.bmcFlagsOffset (littleEndian 4 f.toNat)) := by
      apply faithful_header_write hsize hlt
      rw [littleEndian_length]
      decide
    exact ⟨hfaithful, fun written m' _ => by split_ifs⟩

lemma updateBmcFlags_faithful (f : UInt32) :
    StaysFaithful cfg r (buffer (updateBmcFlags f) : LoopM ε Unit) :=
  fun h m _ => buffer_ensures.mpr
    ((unguarded_headerAccess hsize hlt).updateBmcFlags_keeps f h m trivial)

lemma processUeLog_faithful : StaysFaithful cfg r (processUeLog : LoopM ε Unit) := by
  have hue : StaysFaithful cfg r (buffer readUeLogFromReservedRegion : LoopM ε (List UInt8)) :=
    fun h m _ => buffer_ensures.mpr
      ((unguarded_headerAccess hsize hlt).readUeLogFromReservedRegion_keeps h m trivial)
  rw [processUeLog]
  refine hue.bind fun ueLog => Keeps.ite ?_ (faithful_pure ())
  refine (print_faithful _).bind fun _ => (decodeRdeCommand_faithful _ _ _).bind fun status => ?_
  refine (keeps_raiseIf (fun _ _ _ _ _ => trivial) _ _).bind fun _ =>
    (print_faithful _).bind fun _ => ?_
  exact keeps_fetch_bind fun h => updateBmcFlags_faithful hsize hlt _

lemma warnOfOverflow_faithful : StaysFaithful cfg r (warnOfOverflow : LoopM ε Unit) := by
  have hcheck : StaysFaithful cfg r (buffer checkForOverflowAndAcknowledge : LoopM ε Bool) :=
    fun h m _ => buffer_ensures.mpr
      ((unguarded_headerAccess hsize hlt).checkForOverflowAndAcknowledge_keeps h m trivial)
  exact hcheck.bind fun overflow => Keeps.ite (print_faithful _) (faithful_pure ())

lemma readErrorLogs_faithful :
    StaysFaithful cfg r (buffer (readErrorLogs cfg) : LoopM ε (List EntryPair)) := by
  have hfit : cfg.Fits := ⟨hsize, by omega⟩
  have A : HeaderAccess ((unguarded cfg ε r).restrict dataCalls) _ _ _ :=
    unguarded_headerAccess hsize hlt
  intro h m _
  refine buffer_ensures.mpr (readErrorLogs_ensures ?_)
  apply (A.readBufferHeader_ensures trivial).mono ?_ (fun _ _ _ hX => hX)
  rintro - h₁ m₁ -
  refine ⟨fun _ => hfit, fun _ _ _ _ => trivial, fun _ _ _ _ => trivial, fun hacc _ => ?_⟩
  have hin : InRange cfg h₁ := ⟨hacc.geometry, hacc.bmcReadPtr⟩
  exact ((unguarded_queueAccess hsize hlt).readEntries_keeps hfit _ _ _ _ h₁ m₁ ⟨hin, trivial⟩).mono
    (fun _ _ _ _ _ _ => by split_ifs) (fun _ _ _ _ => trivial)

lemma processEntry_faithful (entryPair : EntryPair) :
    StaysFaithful cfg r (processEntry entryPair : LoopM ε Unit) :=
  (decodeRdeCommand_faithful _ _ _).bind fun _ =>
    Keeps.ite (keeps_fetch_bind fun _ => updateBmcFlags_faithful hsize hlt _) (faithful_pure ())

lemma processEntries_faithful (entryPairs : List EntryPair) :
    StaysFaithful cfg r (processEntries entryPairs : LoopM ε Unit) := by
  induction entryPairs with
  | nil => exact faithful_pure ()
  | cons entryPair entryPairs ih =>
    exact (processEntry_faithful hsize hlt entryPair).bind fun _ => ih

lemma processLogs_faithful : StaysFaithful cfg r (processLogs cfg : LoopM ε Unit) :=
  (processUeLog_faithful hsize hlt).bind fun _ => (warnOfOverflow_faithful hsize hlt).bind fun _ =>
    (readErrorLogs_faithful hsize hlt).bind fun entryPairs =>
      processEntries_faithful hsize hlt entryPairs

lemma initialize_completes (hregion : cfg.queueRegionSize ≤ r.toNat) :
    (initializeFromConfig cfg).Ensures ((unguarded cfg ε r).restrict dataCalls) (fun _ _ _ => True)
      (fun _ _ _ => False) h m := by
  have htrue : ((unguarded cfg ε r).restrict dataCalls).Stable (fun _ => True) :=
    fun _ _ _ _ => trivial
  have hq : (UInt16.ofNat cfg.queueRegionSize).toNat = cfg.queueRegionSize := by
    rw [UInt16.toNat_ofNat', Nat.mod_eq_of_lt (by omega)]
  have hzeros := List.length_replicate (n := (UInt16.ofNat cfg.queueRegionSize).toNat)
      (a := (0 : UInt8))
  have hheader := (initializedFromConfig cfg).toBytes_length
  refine (initializeBuffer_ensures htrue htrue htrue ?_ ?_ ?_ trivial).mono (fun _ _ _ _ => trivial)
    (fun _ _ _ hX => hX)
  · refine fun m _ => ⟨trivial, ?_⟩
    rintro _ m' ⟨n, ha, rfl⟩
    have hn : r.toNat = n := congrArg Prod.fst ha
    exact ⟨hq.trans_le (hregion.trans hn.le), trivial⟩
  · intro m _
    obtain ⟨hpermits, hanswers⟩ :=
      unguarded_write (ε := ε) (m := m) hlt hregion (hzeros.trans hq).le
    exact ⟨hpermits, fun n m' ha => ⟨(hanswers n m' ha).trans hzeros, trivial⟩⟩
  · intro m _
    obtain ⟨hpermits, hanswers⟩ := unguarded_write (ε := ε) (m := m) hlt hregion
      (hheader.trans_le ((Nat.le_add_right _ _).trans hsize))
    exact ⟨hpermits, fun n m' ha => ⟨(hanswers n m' ha).trans hheader, trivial⟩⟩

lemma reinitializeBuffer_faithful (e : LoopError ε) {h : CircularBufferHeader} {m : Memory} :
    (reinitializeBuffer cfg e).Ensures (unguarded cfg ε r)
      (fun goesOn _ _ => cfg.queueRegionSize ≤ r.toNat → goesOn = true)
        (fun _ _ _ => False) h m := by
  rw [reinitializeBuffer, print_then]
  refine fun m₁ _ => ⟨trivial, fun _ m₂ _ => ?_⟩
  rw [ensures_tryCatch, ensures_bind, ensures_lift]
  rcases le_or_gt cfg.queueRegionSize r.toNat with hregion | hsmall
  · apply (initialize_completes hsize hlt hregion).mono ?_ (fun _ _ _ hX => hX.elim)
    exact fun _ _ _ _ m₃ _ => ⟨trivial, fun _ _ _ _ _ _ => rfl⟩
  · apply (initialize_refused hlt hsmall).mono (fun _ _ _ hQ => hQ.elim)
    exact fun _ _ _ _ m₃ _ => ⟨trivial, fun _ _ _ _ _ hle => absurd hle (not_le.mpr hsmall)⟩

lemma readLoop_faithful (error : Option String) (h : CircularBufferHeader) (m : Memory) :
    (readLoop cfg error).Ensures (unguarded cfg ε r)
      (fun goesOn _ _ => error = none → cfg.queueRegionSize ≤ r.toNat → goesOn = true)
        (fun _ _ _ => False) h m := by
  cases error with
  | some error => exact fun m₁ _ => ⟨trivial, fun _ _ _ _ _ hnone => nomatch hnone⟩
  | none =>
    have hgoes : ∀ (goesOn : Bool) h m, (cfg.queueRegionSize ≤ r.toNat → goesOn = true) →
        (if goesOn then asyncWait >>= fun _ => pure true else pure false :
          Proc (LoopCalls ε) CircularBufferHeader Empty Bool).Ensures (unguarded cfg ε r)
          (fun goesOn _ _ => (none : Option String) = none → cfg.queueRegionSize ≤ r.toNat →
            goesOn = true)
          (fun _ _ _ => False) h m := by
      intro goesOn h m hgoesOn
      cases goesOn with
      | true => exact fun m₁ _ => ⟨trivial, fun _ _ _ _ _ _ _ => rfl⟩
      | false => exact fun m₁ _ _ => hgoesOn
    rw [readLoop, ensures_bind, ensures_tryCatch, ensures_bind]
    apply (processLogs_faithful hsize hlt h m trivial).mono
    · exact fun _ h₁ _ _ m₁ _ => hgoes true h₁ m₁ fun _ => rfl
    · exact fun e _ _ _ =>
        (reinitializeBuffer_faithful hsize hlt e).mono
        (fun goesOn h₁ m₁ hg => hgoes goesOn h₁ m₁ hg) (fun _ _ _ hX => hX)

end

section Runs

variable {s : Service.State (LoopCalls ε) Memory CircularBufferHeader Empty Bool}

theorem readLoop_accesses_faithfully (hsize : cfg.queueOffset ≤ cfg.queueRegionSize)
    (hlt : cfg.queueRegionSize ≤ 65535)
    (hrun : Service.Run (unguarded cfg ε r) (fun error => readLoop cfg error) waits
      ⟨m, .idle h, []⟩ s) :
    ∀ op k, s.thread = .busy (.call (.data op) k) → Faithful cfg ⟨r, s.world⟩ op := by
  have hholds :=
    Service.run_holds (I := fun _ _ _ => True) (fun _ _ _ _ _ _ => trivial) ?_ hrun trivial
  · obtain ⟨m', t, rs⟩ := s
    rintro op k rfl
    exact (hholds m' .refl).1
  · exact fun error m h rs _ _ =>
      Prog.Ensures.mono (readLoop_faithful hsize hlt error h m) fun _ _ _ => trivial

def answerRefused (r : UInt32) (m : Memory) : (op : LoopOp Unit) → (LoopCalls Unit).Ans op × Memory
  | .data op =>
    let answered := (PciDataHandler.mk r m).perform smallConfig.sizeT op
    (answered.1, answered.2.mmap)
  | .decodeRdeCommand _ _ _ => (.error (), m)
  | .print _ => ((), m)
  | .asyncWait => ((), m)

lemma answerRefused_answers (m : Memory) (op : LoopOp Unit) :
    (unguarded smallConfig Unit r).answers m op (answerRefused r m op).1
      (answerRefused r m op).2 := by
  cases op with
  | data op =>
    cases op with
    | read => rfl
    | write offset bytes =>
      have hregion :
          ((PciDataHandler.mk r m).write smallConfig.sizeT offset bytes).2.regionSize = r :=
        PciDataHandler.write_regionSize
      exact Prod.ext rfl (congrArg (PciDataHandler.mk · _) hregion)
    | getMemoryRegionSize => rfl
  | _ => trivial

def erases : LoopOp Unit → Bool
  | .data (.write offset bytes) =>
    offset = 0 && bytes = List.replicate smallConfig.queueRegionSize 0
  | _ => false

lemma erases_eq {op : LoopOp Unit} (h : erases op) :
    op = .data (.write 0 (List.replicate smallConfig.queueRegionSize 0)) := by
  rcases op with (_ | ⟨offset, bytes⟩ | _) | _ | _ | _
  case data.write =>
    obtain ⟨hoffset, hbytes⟩ := Bool.and_eq_true_iff.mp h
    rw [of_decide_eq_true hoffset, of_decide_eq_true hbytes]
  all_goals cases h

theorem readLoop_accesses_faithfully_corruptedRegion :
    ∃ m, Faithful smallConfig ⟨64, m⟩
      (.write 0 (List.replicate smallConfig.queueRegionSize 0)) := by
  have hstops : (readLoop smallConfig none .zero).passes (answerRefused 64)
      (fun _ op => !erases op) (fun _ => 255) = false := by decide +kernel
  obtain ⟨m, op, k, hrun, hcheck⟩ : ∃ m op k, Service.Run (unguarded smallConfig Unit 64)
      (fun error => readLoop smallConfig error) waits
      ⟨fun _ => 255, .busy (readLoop smallConfig none .zero), []⟩
      ⟨m, .busy (.call op k), []⟩ ∧ (!erases op) = false :=
        Service.run_stops answerRefused_answers hstops
  obtain rfl := erases_eq (by simpa using hcheck)
  exact ⟨m, readLoop_accesses_faithfully (by decide) (by decide)
    (.head (.start none fun _ hr => nomatch hr) hrun) _ k rfl⟩

theorem readLoop_never_ends (hsize : cfg.queueOffset ≤ cfg.queueRegionSize)
    (hlt : cfg.queueRegionSize ≤ 65535) (hregion : cfg.queueRegionSize ≤ r.toNat)
    (hrun : Service.Run (unguarded cfg ε r) (fun _ : Unit => readLoop cfg none) waits
      ⟨m, .idle h, []⟩ s) :
    ∀ result ∈ s.results, result = .ok true := by
  have hbody : ∀ (i : Unit) m h (rs : List (Except Empty Bool)), (∀ result ∈ rs, waits result) →
      (∀ result ∈ rs, result = .ok true) →
      ((fun _ : Unit => readLoop cfg none) i h).Ensures (unguarded cfg ε r)
        (fun result _ => ∀ result' ∈ rs ++ [result.1], result' = .ok true) m := by
    intro _ m h rs _ hrs
    apply Prog.Ensures.mono (readLoop_faithful hsize hlt none h m)
    rintro ⟨e | goesOn, h'⟩ m' hends
    · exact hends.elim
    · obtain rfl : goesOn = true := hends rfl hregion
      exact List.forall_mem_append.mpr ⟨hrs, by simp⟩
  refine Service.run_world (I := fun _ _ rs => ∀ result ∈ rs, result = .ok true)
    (J := fun _ rs => ∀ result ∈ rs, result = .ok true) (fun _ _ _ _ _ hrs => hrs) hbody
    (fun _ _ _ _ hrs => hrs)
    (fun _ _ _ _ _ _ _ hrs => hrs) (fun _ _ _ _ hrs _ => hrs) hrun (fun _ hr => nomatch hr)
      (fun _ hr => nomatch hr)

theorem readLoop_never_ends_corruptedRegion :
    ((readLoop smallConfig none .zero).run (answerRefused 64) (fun _ => 255)).1.1 = .ok true := by
  have hrun : Service.Run (unguarded smallConfig Unit 64)
    (fun _ : Unit => readLoop smallConfig none) waits
      ⟨fun _ => 255, .idle .zero, []⟩ _ :=
      Service.run_iteration answerRefused_answers () fun _ hr => nomatch hr
  exact readLoop_never_ends (by decide) (by decide) (by decide) hrun _ (List.mem_singleton_self _)

end Runs

end SmmErrorLogger.ReadLoop
