import SmmErrorLogger.Buffer.Coherence
import SmmErrorLogger.Library.Service
import SmmErrorLogger.ReadLoop.Loop

/-! Invariants of the loop: what its parts keep, every iteration keeps, where the buffer is
initialized again too. -/

namespace SmmErrorLogger.ReadLoop

open Buffer Rde Library.Bytes Library.Interaction
open Library.Interaction.Proc

variable {ε W : Type} {E : Environment (LoopCalls ε) W} {cfg : Config} {region : W → PciDataHandler}
  {K X Failed : W → Prop}

def Leads (E : Environment (LoopCalls ε) W) (P : W → Prop) (op : LoopOp ε) (Q : W → Prop) : Prop :=
  ∀ w, P w → E.permits w op ∧ ∀ ans w', E.answers w op ans w' → Q w'

/-- The parts of the `try` block keep `K`, or throw where `X` holds. The `catch` block begins by
printing, from where on `Failed` holds, and `K` does again when the flags are cleared. -/
structure LoopInvariant (cfg : Config) (E : Environment (LoopCalls ε) W)
    (region : W → PciDataHandler) (K X Failed : W → Prop) : Prop where
  shared : SharedRegion cfg.sizeT (E.restrict dataCalls) region K
  message_region : ∀ {w message ans w'}, E.answers w (.print message) ans w' → region w' = region w
  timer_region : ∀ {w ans w'}, E.answers w .asyncWait ans w' → region w' = region w
  thrown : ∀ w, K w → X w
  thrown_stable : E.Stable X
  ueLog : KeepsOr E (Kept region K) (Kept region X) processUeLog
  overflow : KeepsOr E (Kept region K) (Kept region X) warnOfOverflow
  entry : ∀ entryPair, KeepsOr E (Kept region K) (Kept region X) (processEntry entryPair)
  timer : Leads E K .asyncWait K
  asyncWaitFailed : ∀ error, Leads E K (.print (.asyncWaitFailed error)) K
  processingError : ∀ e, Leads E X (.print (.processingError e)) Failed
  failed_stable : E.Stable Failed
  failed_region : ∀ w, Failed w →
    (UInt16.ofNat cfg.queueRegionSize).toNat ≤ (region w).regionSize.toNat
  getMemoryRegionSize : Leads E Failed (.data .getMemoryRegionSize) Failed
  erase : ∀ bytes, byte bytes CircularBufferHeader.bmcFlagsOffset = 0 →
    Leads E Failed (.data (.write 0 bytes)) Failed
  cleared : ∀ w, Failed w → (headerAt (region w).mmap).bmcFlags = 0 → K w
  reinitialized : Leads E K (.print .reinitialized) K

lemma buffer_keeps {α : Type} {I : CircularBufferHeader → W → Prop} {p : BufferM α}
    (hp : Keeps (E.restrict dataCalls) I p) : Keeps E I (buffer p : LoopM ε α) :=
  fun s w h => buffer_ensures.mpr (hp s w h)

section

variable {α ε' : Type} {I : CircularBufferHeader → W → Prop}

lemma print_keeps (hI : ∀ h, E.Stable (I h)) {message : Message ε}
    (hprint : ∀ h, Leads E (I h) (.print message) (I h)) :
    Keeps E I (print message : Proc (LoopCalls ε) CircularBufferHeader ε' Unit) :=
  keeps_call hI fun h w hw => hprint h w hw

end

namespace LoopInvariant

variable (L : LoopInvariant cfg E region K X Failed)
include L

lemma stable (h : CircularBufferHeader) : E.Stable (Kept region K h) := L.shared.kept_stable h

lemma thrown_kept_stable (h : CircularBufferHeader) : E.Stable (Kept region X h) :=
  fun _ _ hw hk => ⟨L.shared.cached_stable h _ _ hw hk.1, L.thrown_stable _ _ hw hk.2⟩

lemma kept_thrown (h : CircularBufferHeader) (w : W) (hk : Kept region K h w) : Kept region X h w :=
  ⟨hk.1, L.thrown w hk.2⟩

lemma processEntries_keeps (entryPairs : List EntryPair) :
    KeepsOr E (Kept region K) (Kept region X) (processEntries entryPairs) := by
  induction entryPairs with
  | nil => exact (keeps_pure L.stable ()).or L.kept_thrown
  | cons entryPair entryPairs ih => exact (L.entry entryPair).bind fun _ => ih

lemma processLogs_keeps : KeepsOr E (Kept region K) (Kept region X) (processLogs cfg) :=
  L.ueLog.bind fun _ => L.overflow.bind fun _ =>
    ((buffer_keeps (L.shared.readErrorLogs_keeps cfg)).or L.kept_thrown).bind L.processEntries_keeps

lemma initialize_ensures {h : CircularBufferHeader} {w : W} (hc : Cached h (region w))
    (hf : Failed w) :
    (initializeFromConfig cfg).Ensures (E.restrict dataCalls) (fun _ => Kept region K)
      (fun _ _ _ => False) h w := by
  have R := L.shared
  have hanswers : ∀ {w op w'} {ans : DataInterface.Ans op},
    (E.restrict dataCalls).answers w op ans w' →
      (region w).perform cfg.sizeT op = (ans, region w') := fun ha => R.answers ha
  have hstable : (E.restrict dataCalls).Stable
      (fun w => Failed w ∧ CircularBufferHeader.size ≤ (region w).regionSize.toNat) :=
    fun w w' hw hf => ⟨L.failed_stable _ _ hw hf.1, (R.interferes hw).regionSize ▸ hf.2⟩
  have hens : (initializeFromConfig cfg).Ensures (E.restrict dataCalls)
      (fun _ h' w' => h' = initializedFromConfig cfg ∧ Failed w' ∧
        Cached (initializedFromConfig cfg) (region w')) (fun _ _ _ => False) h w := by
    refine initializeBuffer_ensures hstable hstable
      (fun _ _ hw hf => ⟨L.failed_stable _ _ hw hf.1, hf.2.biosWrites (R.interferes hw)⟩) ?_ ?_ ?_
      ⟨hf, hc.region⟩
    · rintro w ⟨hf, hsize⟩
      refine ⟨(L.getMemoryRegionSize w hf).1, ?_⟩
      rintro n w' ha
      obtain ⟨hn, hregion⟩ := Prod.mk.inj (hanswers ha)
      refine ⟨hn ▸ L.failed_region w hf, ?_, ?_⟩
      · obtain ⟨b, hb, -⟩ := ha
        exact (L.getMemoryRegionSize w hf).2 b w' hb
      · rw [← hregion]
        exact hsize
    · rintro w ⟨hf, hsize⟩
      have herase := L.erase _ (byte_zeros (UInt16.ofNat cfg.queueRegionSize).toNat _) w hf
      refine ⟨herase.1, ?_⟩
      rintro n w' ha
      have hle := L.failed_region w hf
      have hlt := (UInt16.ofNat cfg.queueRegionSize).toNat_lt
      have hwrite : (region w).write cfg.sizeT 0
          (List.replicate (UInt16.ofNat cfg.queueRegionSize).toNat 0) = _ :=
        PciDataHandler.write_within (by simpa using hle) (by simpa using hlt)
      obtain ⟨hn, hregion⟩ := Prod.mk.inj (hwrite.symm.trans (hanswers ha))
      refine ⟨hn.symm.trans List.length_replicate, ?_, ?_⟩
      · obtain ⟨b, hb, -⟩ := ha
        exact herase.2 b w' hb
      · rw [← hregion]
        exact hsize
    · rintro w ⟨hf, hsize⟩
      have hheader := L.erase _ ((initializedFromConfig cfg).toBytes_bmcFlags) w hf
      refine ⟨hheader.1, ?_⟩
      rintro n w' ha
      have hlength := (initializedFromConfig cfg).toBytes_length
      have hwrite : (region w).write cfg.sizeT 0 (initializedFromConfig cfg).toBytes = _ :=
        PciDataHandler.write_within
        (by rw [hlength]; simpa using hsize) (by rw [hlength]; norm_num [CircularBufferHeader.size])
      obtain ⟨hn, hregion⟩ := Prod.mk.inj (hwrite.symm.trans (hanswers ha))
      refine ⟨hn.symm.trans hlength, ?_, ?_, ?_⟩
      · obtain ⟨b, hb, -⟩ := ha
        exact hheader.2 b w' hb
      · rw [← hregion]
        exact hsize
      · have hheader : headerAt (store (region w).mmap 0 (initializedFromConfig cfg).toBytes) =
            initializedFromConfig cfg :=
          headerAt_store_toBytes (initialized_inRange _ _)
        rw [← hregion, hheader]
        exact .refl _
  refine hens.mono ?_ (fun _ _ _ hX => hX)
  rintro _ _ w' ⟨rfl, hf', hc'⟩
  exact ⟨hc', L.cleared w' hf' hc'.coherent.bmcFlags.symm⟩

lemma reinitializeBuffer_ensures (e : LoopError ε) {h : CircularBufferHeader} {w : W}
    (hk : Kept region X h w) :
    (reinitializeBuffer cfg e).Ensures E (fun _ => Kept region K) (fun _ _ _ => False) h w := by
  rw [reinitializeBuffer, print_then]
  intro w₁ hw₁
  have hk₁ := (L.thrown_kept_stable h).later hw₁ hk
  obtain ⟨hpermits, hfailed⟩ := L.processingError e w₁ hk₁.2
  refine ⟨hpermits, fun ans w₂ ha => ?_⟩
  rw [ensures_tryCatch, ensures_bind, ensures_lift]
  apply (L.initialize_ensures (L.message_region ha ▸ hk₁.1) (hfailed ans w₂ ha)).mono ?_
    (fun _ _ _ hX => hX.elim)
  rintro _ h' w₃ hk₃
  rw [print_then]
  intro w₄ hw₄
  have hk₄ := (L.stable h').later hw₄ hk₃
  obtain ⟨hpermits, hkept⟩ := L.reinitialized w₄ hk₄.2
  exact ⟨hpermits, fun ans w₅ ha w₆ hw₆ =>
    (L.stable h').later hw₆ ⟨L.message_region ha ▸ hk₄.1, hkept ans w₅ ha⟩⟩

theorem readLoop_keeps (error : Option String) : Keeps E (Kept region K) (readLoop cfg error) := by
  intro h w hk
  cases error with
  | some error =>
    rw [readLoop, print_then]
    intro w₁ hw₁
    have hk₁ := (L.stable h).later hw₁ hk
    obtain ⟨hpermits, hkept⟩ := L.asyncWaitFailed error w₁ hk₁.2
    exact ⟨hpermits, fun ans w₂ ha w₃ hw₃ =>
      (L.stable h).later hw₃ ⟨L.message_region ha ▸ hk₁.1, hkept ans w₂ ha⟩⟩
  | none =>
    have hlogs : KeepsOr E (Kept region K) (Kept region X)
        (do processLogs cfg; pure true : LoopM ε Bool) :=
      L.processLogs_keeps.bind fun _ => (keeps_pure L.stable true).or L.kept_thrown
    have hwait : Keeps E (Kept region K) (do asyncWait; pure true :
        Proc (LoopCalls ε) CircularBufferHeader Empty Bool) := by
      intro h w hk w₁ hw₁
      have hk₁ := (L.stable h).later hw₁ hk
      obtain ⟨hpermits, hkept⟩ := L.timer w₁ hk₁.2
      exact ⟨hpermits, fun ans w₂ ha w₃ hw₃ =>
        (L.stable h).later hw₃ ⟨L.timer_region ha ▸ hk₁.1, hkept ans w₂ ha⟩⟩
    have hend : ∀ goesOn : Bool,
      Keeps E (Kept region K) (if goesOn then do asyncWait; pure true else pure false :
        Proc (LoopCalls ε) CircularBufferHeader Empty Bool) :=
      fun goesOn => hwait.ite (keeps_pure L.stable false)
    rw [readLoop, ensures_bind, ensures_tryCatch]
    apply (hlogs h w hk).mono (fun goesOn h' w' hk' => hend goesOn h' w' hk')
    intro e h' w' hk'
    exact (L.reinitializeBuffer_ensures e hk').mono
      (fun goesOn h'' w'' hk'' => hend goesOn h'' w'' hk'') (fun _ _ _ hX => hX.elim)

theorem run_kept {s s' : Service.State (LoopCalls ε) W CircularBufferHeader Empty Bool}
    (hrun : Service.Run E (readLoop cfg) waits s s')
    (hs : Service.Holds E (fun w h _ => Kept region K h w) s) :
    Service.Holds E (fun w h _ => Kept region K h w) s' :=
  Service.run_holds (fun _ _ h _ hw hk => L.stable h _ _ hw hk)
    (fun error w h _ _ hk => Prog.Ensures.mono (L.readLoop_keeps error h w hk)
      (fun _ _ hends => ends_same.mp hends))
    hrun hs

theorem run_world {J : W → Prop} (hJ : E.Stable J)
    (hanswer : ∀ w op ans w', E.permits w op → E.answers w op ans w' → J w → J w')
    {s s' : Service.State (LoopCalls ε) W CircularBufferHeader Empty Bool}
    (hrun : Service.Run E (readLoop cfg) waits s s')
    (hs : Service.Holds E (fun w h _ => Kept region K h w) s) (hw : J s.world) : J s'.world :=
  Service.run_world (J := fun w _ => J w) (fun _ _ h _ hw hk => L.stable h _ _ hw hk)
    (fun error w h _ _ hk => Prog.Ensures.mono (L.readLoop_keeps error h w hk)
      (fun _ _ hends => ends_same.mp hends))
    (fun w w' _ hw h => hJ w w' hw h) (fun w op ans w' _ hp ha h => hanswer w op ans w' hp ha h)
    (fun _ _ _ _ _ h => h) hrun hs hw

end LoopInvariant

end SmmErrorLogger.ReadLoop
