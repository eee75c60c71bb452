import SmmErrorLogger.Buffer.ErrorLogs
import SmmErrorLogger.Buffer.Initialization
import SmmErrorLogger.Library.Service
import SmmErrorLogger.ReadLoop.Loop

/-! After the buffer is initialized again, the loop finds nothing to do until the BIOS writes. -/

namespace SmmErrorLogger.ReadLoop

open Buffer Rde Library.Bytes Library.Interaction
open Library.Interaction.Proc

variable {ε : Type} {cfg : Config} {pci : PciDataHandler} {h : CircularBufferHeader}

def answersAlone (s : WordSize) (pci : PciDataHandler) :
    (op : LoopOp ε) → (LoopCalls ε).Ans op → PciDataHandler → Prop
  | .data op, ans, pci' => pci.perform s op = (ans, pci')
  | .decodeRdeCommand _ _ _, _, pci' => pci' = pci
  | .print _, _, pci' => pci' = pci
  | .asyncWait, _, pci' => pci' = pci

def quiet (cfg : Config) (permits : LoopOp ε → Prop) :
    Environment (LoopCalls ε) PciDataHandler where
  interferes _ _ := False
  permits _ := permits
  answers := answersAlone cfg.sizeT

def LooksOnly (op : LoopOp ε) : Prop :=
  op = .data (.read 0 CircularBufferHeader.size) ∨ op = .asyncWait

lemma quiet_later {permits : LoopOp ε → Prop} {pci' : PciDataHandler}
    (h : (quiet cfg permits).Later pci pci') :
    pci' = pci :=
  Environment.later_eq (fun _ _ hs => hs) h

structure Quiescent (cfg : Config) (pci : PciDataHandler) : Prop where
  fits : cfg.Fits
  region : CircularBufferHeader.size ≤ pci.regionSize.toNat
  header : headerAt pci.mmap = initializedFromConfig cfg
  geometry : Geometry cfg (initializedFromConfig cfg)

abbrev looking (cfg : Config) (ε : Type) : Environment (LoopCalls ε) PciDataHandler :=
  quiet cfg LooksOnly

lemma looking_later {pci' : PciDataHandler}
    (h : ((looking cfg ε).restrict dataCalls).Later pci pci') : pci' = pci :=
  Environment.later_eq (fun _ _ hs => hs) h

section

variable (hq : Quiescent cfg pci)
include hq

lemma readBufferHeader_quiet {Q : Unit → CircularBufferHeader → PciDataHandler → Prop}
    {X : BufferError → CircularBufferHeader → PciDataHandler → Prop}
    (hQ : Q () (initializedFromConfig cfg) pci) :
    readBufferHeader.Ensures ((looking cfg ε).restrict dataCalls) Q X h pci := by
  refine readBufferHeader_ensures (fun w' hw => ⟨Or.inl rfl, ?_⟩)
  obtain rfl := looking_later hw
  rintro bytes _ ⟨answer, ha, hanswer⟩ w₃ hw₃
  obtain rfl : answer = bytes := hanswer
  obtain ⟨rfl, rfl⟩ := Prod.mk.inj ha
  obtain rfl := looking_later hw₃
  rw [PciDataHandler.read_within (by simpa using hq.region), if_pos load_length,
    ← headerAt, hq.header]
  exact hQ

lemma readUeLog_quiet {X : BufferError → CircularBufferHeader → PciDataHandler → Prop} :
    readUeLogFromReservedRegion.Ensures ((looking cfg ε).restrict dataCalls)
      (fun ueLog _ pci' => ueLog = [] ∧ pci' = pci) X h pci := by
  rw [readUeLogFromReservedRegion, ensures_bind]
  refine readBufferHeader_quiet hq (ensures_fetch_bind.mpr ?_)
  have hagree : ((initializedFromConfig cfg).biosFlags ^^^ (initializedFromConfig cfg).bmcFlags) &&&
      BufferFlags.ueSwitch = 0 := by
    simp [initializedFromConfig, initialized, CircularBufferHeader.zero]
  dsimp only
  rw [if_pos hagree, ite_self]
  exact fun w' hw => ⟨rfl, looking_later hw⟩

lemma checkForOverflow_quiet {X : BufferError → CircularBufferHeader → PciDataHandler → Prop} :
    checkForOverflowAndAcknowledge.Ensures ((looking cfg ε).restrict dataCalls)
      (fun overflow _ pci' => overflow = false ∧ pci' = pci) X h pci := by
  rw [checkForOverflowAndAcknowledge, ensures_bind]
  refine readBufferHeader_quiet hq (ensures_fetch_bind.mpr ?_)
  have hagree : ((initializedFromConfig cfg).biosFlags ^^^ (initializedFromConfig cfg).bmcFlags) &&&
      BufferFlags.overflow = 0 := by
    simp [initializedFromConfig, initialized, CircularBufferHeader.zero]
  rw [if_neg (not_not.mpr hagree)]
  exact fun w' hw => ⟨rfl, looking_later hw⟩

lemma readErrorLogs_quiet {X : BufferError → CircularBufferHeader → PciDataHandler → Prop} :
    (readErrorLogs cfg).Ensures ((looking cfg ε).restrict dataCalls)
      (fun es h' pci' => es = [] ∧ h' = initializedFromConfig cfg ∧ pci' = pci) X h pci := by
  have hacc : Accepted cfg (initializedFromConfig cfg) :=
    ⟨hq.geometry, Nat.zero_le _, Nat.zero_le _⟩
  refine readErrorLogs_ensures
    (readBufferHeader_quiet hq ⟨fun _ => hq.fits, fun hn => (hn hacc).elim, ?_, ?_⟩)
  · exact fun _ _ w' hw => ⟨rfl, rfl, looking_later hw⟩
  · exact fun _ hne => (hne rfl).elim

theorem readLoop_quiet : (readLoop cfg none).Ensures (looking cfg ε)
    (fun goesOn h' pci' => goesOn = true ∧ h' = initializedFromConfig cfg ∧ pci' = pci)
    (fun _ _ _ => False) h pci := by
  have hlogs : (processLogs cfg).Ensures (looking cfg ε)
      (fun _ h' pci' => h' = initializedFromConfig cfg ∧ pci' = pci)
      (fun _ _ _ => False) h pci := by
    rw [processLogs, processUeLog, ensures_bind, ensures_bind, buffer_ensures]
    apply (readUeLog_quiet hq).mono ?_ (fun _ _ _ hX => hX)
    rintro _ h₁ _ ⟨rfl, rfl⟩ w hw
    obtain rfl := quiet_later hw
    refine ensures_bind.mpr (ensures_bind.mpr (buffer_ensures.mpr ?_))
    apply (checkForOverflow_quiet hq).mono ?_ (fun _ _ _ hX => hX)
    rintro _ h₂ _ ⟨rfl, rfl⟩ w hw
    obtain rfl := quiet_later hw
    refine ensures_bind.mpr (buffer_ensures.mpr ?_)
    apply (readErrorLogs_quiet hq).mono ?_ (fun _ _ _ hX => hX)
    rintro _ h₃ _ ⟨rfl, rfl, rfl⟩ w hw
    exact ⟨rfl, quiet_later hw⟩
  rw [readLoop, ensures_bind, ensures_tryCatch, ensures_bind]
  apply hlogs.mono ?_ (fun _ _ _ hX => hX.elim)
  rintro _ h₁ _ ⟨rfl, rfl⟩ w hw
  obtain rfl := quiet_later hw
  apply asyncWait_then.mpr
  intro w hw
  obtain rfl := quiet_later hw
  refine ⟨Or.inr rfl, ?_⟩
  rintro _ _ rfl w hw
  exact ⟨rfl, rfl, quiet_later hw⟩

end

structure StaysQuiet (pci : PciDataHandler)
    (s : Service.State (LoopCalls ε) PciDataHandler CircularBufferHeader Empty Bool) : Prop where
  world : s.world = pci
  results : ∀ r ∈ s.results, r = .ok true
  next : ∀ op k, s.thread = .busy (.call op k) → LooksOnly op

lemma Quiescent.staysQuiet (hq : Quiescent cfg pci)
    {s : Service.State (LoopCalls ε) PciDataHandler CircularBufferHeader Empty Bool}
    (hrun : Service.Run (looking cfg ε) (fun _ : Unit => readLoop cfg none) waits
      ⟨pci, .idle h, []⟩ s) :
    StaysQuiet pci s := by
  have hbody : ∀ (i : Unit) w h (rs : List (Except Empty Bool)), (∀ r ∈ rs, waits r) →
      (w = pci ∧ ∀ r ∈ rs, r = .ok true) →
      ((fun _ : Unit => readLoop cfg none) i h).Ensures (looking cfg ε)
        (fun r w' => w' = pci ∧ ∀ r' ∈ rs ++ [r.1], r' = .ok true) w := by
    rintro _ _ h rs - ⟨rfl, hrs⟩
    apply Prog.Ensures.mono (readLoop_quiet hq)
    rintro ⟨e | goesOn, h'⟩ w hends
    · exact hends.elim
    · obtain ⟨rfl, -, rfl⟩ := hends
      exact ⟨rfl, List.forall_mem_append.mpr ⟨hrs, by simp⟩⟩
  have hholds := Service.run_holds (E := looking cfg ε) (fun _ _ _ _ hs => hs.elim) hbody hrun
    ⟨rfl, by simp⟩
  have hworld :=
    Service.run_world (E := looking cfg ε) (J := fun w rs => w = pci ∧ ∀ r ∈ rs, r = .ok true)
      (fun _ _ _ _ hs => hs.elim) hbody (fun _ _ _ hs => hs.elim) ?_ (fun _ _ _ _ hI _ => hI)
      hrun ⟨rfl, by simp⟩ ⟨rfl, by simp⟩
  · obtain ⟨w, t, rs⟩ := s
    refine ⟨hworld.1, hworld.2, ?_⟩
    rintro op k rfl
    exact (hholds w .refl).1
  · rintro w op ans w' rs (rfl | rfl) ha ⟨rfl, hrs⟩
    · exact ⟨(congrArg Prod.snd ha).symm, hrs⟩
    · exact ⟨ha, hrs⟩

structure Recovered (ε : Type) (cfg : Config) (pci : PciDataHandler) (h' : CircularBufferHeader)
    (pci' : PciDataHandler) : Prop where
  cached : h' = headerAt pci'.mmap
  frame : ∀ i, cfg.queueRegionSize ≤ i → pci'.mmap i = pci.mmap i
  quiet : ∀ s, Service.Run (looking cfg ε) (fun _ : Unit => readLoop cfg none) waits
    ⟨pci', .idle h', []⟩ s → StaysQuiet pci' s

theorem reinitialize_recovers (hsize : cfg.queueOffset ≤ cfg.queueRegionSize)
    (hlt : cfg.queueRegionSize ≤ 65535)
    (hregion : cfg.queueRegionSize ≤ pci.regionSize.toNat) (e : LoopError ε)
    (h : CircularBufferHeader) :
    (reinitializeBuffer cfg e).Ensures (quiet cfg fun _ => True)
      (fun goesOn h' pci' => goesOn = true ∧ Recovered ε cfg pci h' pci')
        (fun _ _ _ => False) h pci := by
  have hinit : (initializeFromConfig cfg).Ensures
      ((quiet cfg fun _ => True).restrict (dataCalls (ε := ε)))
      (fun _ h' pci' => h' = initializedFromConfig cfg ∧ pci'.regionSize = pci.regionSize ∧
        headerAt pci'.mmap = initializedFromConfig cfg ∧ ∀ i, cfg.queueRegionSize ≤ i →
        pci'.mmap i = pci.mmap i)
      (fun _ _ _ => False) h pci := by
    obtain ⟨pci', hrun, hafter⟩ := initializeFromConfig_run (h := h) hsize (by omega) hregion
    have halone : (initializeFromConfig cfg).Ensures (alone (PciDataHandler.perform cfg.sizeT))
        (fun _ h' pci' => h' = initializedFromConfig cfg ∧ pci'.regionSize = pci.regionSize ∧
          headerAt pci'.mmap = initializedFromConfig cfg ∧ ∀ i, cfg.queueRegionSize ≤ i →
          pci'.mmap i = pci.mmap i)
        (fun _ _ _ => False) h pci :=
      ensures_of_run hrun ⟨rfl, hafter⟩
    refine halone.refines (fun _ _ hs => hs) (fun _ _ _ => trivial) ?_
    rintro w op ans w' ⟨answer, ha, rfl⟩
    exact ha
  rw [reinitializeBuffer, print_then]
  intro w hw
  obtain rfl := quiet_later hw
  refine ⟨trivial, ?_⟩
  rintro _ _ rfl
  rw [ensures_tryCatch, ensures_bind, ensures_lift]
  apply hinit.mono ?_ (fun _ _ _ hX => hX.elim)
  rintro _ h' pci' ⟨rfl, hsame, hheader, hframe⟩
  rw [print_then]
  intro w hw
  obtain rfl := quiet_later hw
  refine ⟨trivial, ?_⟩
  rintro _ _ rfl w hw
  obtain rfl := quiet_later hw
  have hquiescent : Quiescent cfg w :=
    ⟨⟨hsize, by omega⟩, hsame ▸ ((Nat.le_add_right _ _).trans hsize).trans hregion, hheader,
      initializedFromConfig_geometry hsize (by omega)⟩
  exact ⟨rfl, hheader.symm, hframe, fun s hrun => hquiescent.staysQuiet hrun⟩

theorem reinitialize_recovers_corruptedRegion :
    (reinitializeBuffer smallConfig (.handler () : LoopError Unit)).Ensures
      (quiet smallConfig fun _ => True)
      (fun goesOn h' pci' => goesOn = true ∧ Recovered Unit smallConfig ⟨64, fun _ => 255⟩ h' pci')
      (fun _ _ _ => False) (.ofBytes (List.replicate 48 255)) ⟨64, fun _ => 255⟩ :=
  reinitialize_recovers (by decide) (by decide) (by decide) _ _

end SmmErrorLogger.ReadLoop
