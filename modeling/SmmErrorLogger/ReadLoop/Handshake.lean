import SmmErrorLogger.Library.Flags
import SmmErrorLogger.ReadLoop.Invariant

/-! The flags of the two sides: what the BIOS posts and reports, and what the loop hands over and
acknowledges. -/

namespace SmmErrorLogger.ReadLoop

open Buffer Rde Library Library.Bytes Library.Interaction

structure Handshake where
  pci : PciDataHandler
  -- the UE logs of the BIOS, and those that `decodeRdeCommand` received
  posted : List (List UInt8)
  handed : List (List UInt8)
  acknowledged : ℕ
  reports : ℕ
  overflowAcks : ℕ
  -- how often `checkForOverflowAndAcknowledge` returned true
  detected : ℕ
  stopFlags : ℕ
  threw : Bool

variable {ε : Type} (cfg : Config)

namespace Handshake

def start (pci : PciDataHandler) : Handshake := ⟨pci, [], [], 0, 0, 0, 0, 0, false⟩

def header (w : Handshake) : CircularBufferHeader := headerAt w.pci.mmap

def Unread (w : Handshake) : Prop :=
  Flags.Differ BufferFlags.ueSwitch w.header.biosFlags w.header.bmcFlags

def Overflowed (w : Handshake) : Prop :=
  Flags.Differ BufferFlags.overflow w.header.biosFlags w.header.bmcFlags

instance (w : Handshake) : Decidable w.Unread := inferInstanceAs (Decidable (Flags.Differ _ _ _))

instance (w : Handshake) : Decidable w.Overflowed :=
  inferInstanceAs (Decidable (Flags.Differ _ _ _))

end Handshake

def ueRegion (pci : PciDataHandler) : List UInt8 :=
  load pci.mmap CircularBufferHeader.size (UInt16.ofNat cfg.ueRegionSize).toNat

def biosToggles (pci : PciDataHandler) (b : UInt32) : PciDataHandler :=
  let toggled := (headerAt pci.mmap).biosFlags ^^^ b
  { pci with
    mmap := store pci.mmap CircularBufferHeader.biosFlagsOffset (littleEndian 4 toggled.toNat) }

def Handshake.postUeLog (w : Handshake) : Handshake :=
  { w with
    pci := biosToggles w.pci BufferFlags.ueSwitch
    posted := w.posted ++ [ueRegion cfg w.pci] }

def Handshake.reportOverflow (w : Handshake) : Handshake :=
  { w with pci := biosToggles w.pci BufferFlags.overflow, reports := w.reports + 1 }

/-- The BIOS writes what it owns, posts a UE log or reports an overflow. While a UE log is unread
its region stays as it is. -/
inductive BiosStep : Handshake → Handshake → Prop
  | write {w : Handshake} {pci : PciDataHandler} : BiosWrites w.pci pci →
      (headerAt pci.mmap).biosFlags &&& BufferFlags.ueSwitch = w.header.biosFlags &&&
        BufferFlags.ueSwitch →
      (headerAt pci.mmap).biosFlags &&& BufferFlags.overflow = w.header.biosFlags &&&
        BufferFlags.overflow →
      (w.Unread → ueRegion cfg pci = ueRegion cfg w.pci) → BiosStep w { w with pci }
  | post {w : Handshake} : ¬ w.Unread → BiosStep w (w.postUeLog cfg)
  | report {w : Handshake} : ¬ w.Overflowed → BiosStep w w.reportOverflow

namespace Handshake

def updated (w : Handshake) (pci : PciDataHandler) : Handshake :=
  let bmcFlags := (headerAt pci.mmap).bmcFlags
  { w with
    pci
    acknowledged := w.acknowledged + Flags.toggles BufferFlags.ueSwitch w.header.bmcFlags bmcFlags
    overflowAcks := w.overflowAcks + Flags.toggles BufferFlags.overflow w.header.bmcFlags bmcFlags }

def printed (w : Handshake) : Message ε → Handshake
  | .overflowAcked => { w with detected := w.detected + 1 }
  | .processingError _ => { w with threw := true }
  | .asyncWaitFailed _ => w
  | .ueLogFound => w
  | .ueLogProcessed => w
  | .reinitialized => w
  | .reinitializeFailed _ => w

def decoded (w : Handshake) (result : Except ε RdeDecodeStatus) : Handshake :=
  match result with
  | .ok .rdeStopFlagReceived => { w with stopFlags := w.stopFlags + 1 }
  | _ => w

def Answers (w : Handshake) : (op : LoopOp ε) → (LoopCalls ε).Ans op → Handshake → Prop
  | .data op, ans, w' => ∃ pci, w.pci.perform cfg.sizeT op = (ans, pci) ∧ w' = w.updated pci
  | .decodeRdeCommand .ueRegion rdeCommand _, _, w' =>
    w' = { w with handed := w.handed ++ [rdeCommand] }
  | .decodeRdeCommand .queue _ _, result, w' => w' = w.decoded result
  | .print message, _, w' => w' = w.printed message
  | .asyncWait, _, w' => w' = w

inductive Meant (w : Handshake) : UInt32 → Prop
  | same : Meant w w.header.bmcFlags
  | ueSwitch : w.handed.length = w.acknowledged + 1 →
    Meant w (w.header.bmcFlags ^^^ BufferFlags.ueSwitch)
  | overflow : w.reports = w.overflowAcks + 1 → w.overflowAcks = w.detected →
      Meant w (w.header.bmcFlags ^^^ BufferFlags.overflow)
  | ready : 0 < w.stopFlags → Meant w (w.header.bmcFlags ||| BmcFlags.ready)

def Permits (w : Handshake) : LoopOp ε → Prop
  | .data op => w.Meant (headerAt (w.pci.perform cfg.sizeT op).2.mmap).bmcFlags
  | .decodeRdeCommand .ueRegion rdeCommand _ =>
    w.handed ++ [rdeCommand] <+: w.posted ∧ w.handed.length = w.acknowledged
  | .decodeRdeCommand .queue _ _ => True
  | .print message => message = .overflowAcked → w.overflowAcks = w.detected + 1
  | .asyncWait => True

end Handshake

/-- As long as nothing is thrown, every call has to be permitted. -/
def handshakes (ε : Type) : Environment (LoopCalls ε) Handshake where
  interferes := BiosStep cfg
  permits w op := w.threw = false → w.Permits cfg op
  answers := Handshake.Answers cfg

variable {cfg}

lemma ueSwitch_isFlag : Flags.IsFlag BufferFlags.ueSwitch := ⟨0, by decide, rfl⟩

lemma overflow_isFlag : Flags.IsFlag BufferFlags.overflow := ⟨1, by decide, rfl⟩

lemma biosToggles_owned {pci : PciDataHandler} {b : UInt32} : BiosWrites pci (biosToggles pci b) :=
  biosWrites_store (by decide)

@[simp] lemma biosToggles_biosFlags {pci : PciDataHandler} {b : UInt32} :
    (headerAt (biosToggles pci b).mmap).biosFlags = (headerAt pci.mmap).biosFlags ^^^ b := by
  rw [headerAt_biosFlags, biosToggles, ofLittleEndian_store, uint32_ofNat_littleEndian]

@[simp] lemma biosToggles_bmcFlags {pci : PciDataHandler} {b : UInt32} :
    (headerAt (biosToggles pci b).mmap).bmcFlags = (headerAt pci.mmap).bmcFlags :=
  (coherent_of_owned biosToggles_owned.owned).bmcFlags.symm

@[simp] lemma biosToggles_ueRegionSize {pci : PciDataHandler} {b : UInt32} :
    (headerAt (biosToggles pci b).mmap).ueRegionSize = (headerAt pci.mmap).ueRegionSize :=
  (coherent_of_owned biosToggles_owned.owned).ueRegionSize.symm

@[simp] lemma biosToggles_ueRegion {pci : PciDataHandler} {b : UInt32} :
    ueRegion cfg (biosToggles pci b) = ueRegion cfg pci := by
  apply load_store_outside
  apply Or.inr
  rw [littleEndian_length]
  decide

lemma BiosStep.owned {w w' : Handshake} (h : BiosStep cfg w w') : BiosWrites w.pci w'.pci := by
  cases h with
  | write hwrites => exact hwrites
  | post => exact biosToggles_owned
  | report => exact biosToggles_owned

lemma BiosStep.threw {w w' : Handshake} (h : BiosStep cfg w w') : w'.threw = w.threw := by
  cases h <;> rfl

namespace Handshake

lemma unread_postUeLog {w : Handshake} (h : ¬ w.Unread) : (w.postUeLog cfg).Unread := by
  rw [Unread, header, postUeLog, Flags.differ_comm, biosToggles_biosFlags, biosToggles_bmcFlags]
  exact ueSwitch_isFlag.differ_toggle.mpr fun hd => h (Flags.differ_comm.mp hd)

lemma overflowed_postUeLog {w : Handshake} : (w.postUeLog cfg).Overflowed ↔ w.Overflowed := by
  rw [Overflowed, header, postUeLog, Flags.differ_comm, biosToggles_biosFlags, biosToggles_bmcFlags,
    Flags.differ_toggle_other rfl]
  exact Flags.differ_comm

lemma unread_reportOverflow {w : Handshake} : w.reportOverflow.Unread ↔ w.Unread := by
  rw [Unread, header, reportOverflow, Flags.differ_comm, biosToggles_biosFlags,
    biosToggles_bmcFlags, Flags.differ_toggle_other rfl]
  exact Flags.differ_comm

lemma overflowed_reportOverflow {w : Handshake} (h : ¬ w.Overflowed) :
    w.reportOverflow.Overflowed := by
  rw [Overflowed, header, reportOverflow, Flags.differ_comm, biosToggles_biosFlags,
    biosToggles_bmcFlags]
  exact overflow_isFlag.differ_toggle.mpr fun hd => h (Flags.differ_comm.mp hd)

structure Unchanged (cfg : Config) (w : Handshake) (pci : PciDataHandler) : Prop where
  regionSize : pci.regionSize = w.pci.regionSize
  bmcFlags : (headerAt pci.mmap).bmcFlags = w.header.bmcFlags
  ueRegionSize : (headerAt pci.mmap).ueRegionSize = w.header.ueRegionSize
  ueSwitch : (headerAt pci.mmap).biosFlags &&& BufferFlags.ueSwitch = w.header.biosFlags &&&
    BufferFlags.ueSwitch
  overflow : (headerAt pci.mmap).biosFlags &&& BufferFlags.overflow = w.header.biosFlags &&&
    BufferFlags.overflow
  ueLog : w.Unread → ueRegion cfg pci = ueRegion cfg w.pci

lemma Unchanged.unread {w : Handshake} {pci : PciDataHandler} (h : Unchanged cfg w pci) :
    ({ w with pci } : Handshake).Unread ↔ w.Unread := by
  rw [Unread, Unread, Flags.differ_iff, Flags.differ_iff, header, h.ueSwitch, h.bmcFlags]

lemma Unchanged.overflowed {w : Handshake} {pci : PciDataHandler} (h : Unchanged cfg w pci) :
    ({ w with pci } : Handshake).Overflowed ↔ w.Overflowed := by
  rw [Overflowed, Overflowed, Flags.differ_iff, Flags.differ_iff, header, h.overflow, h.bmcFlags]

lemma Unchanged.updated {w : Handshake} {pci : PciDataHandler} (h : Unchanged cfg w pci) :
    w.updated pci = { w with pci } := by
  rw [Handshake.updated, h.bmcFlags, Flags.toggles_same rfl, Flags.toggles_same rfl, Nat.add_zero,
    Nat.add_zero]

lemma unchanged_self (w : Handshake) : Unchanged cfg w w.pci :=
  ⟨rfl, rfl, rfl, rfl, rfl, fun _ => rfl⟩

lemma unchanged_readPtr {w : Handshake} (p : ℕ) : Unchanged cfg w
    (w.pci.write cfg.sizeT CircularBufferHeader.bmcReadPtrOffset (littleEndian 3 p)).2 := by
  have hframe : ∀ i, i < 0x21 ∨ 0x24 ≤ i →
      (w.pci.write cfg.sizeT CircularBufferHeader.bmcReadPtrOffset (littleEndian 3 p)).2.mmap i =
      w.pci.mmap i :=
    fun i hi => PciDataHandler.write_frame hi
  have hload : ∀ off len, off + len ≤ 0x21 ∨ 0x24 ≤ off →
      load (w.pci.write cfg.sizeT CircularBufferHeader.bmcReadPtrOffset (littleEndian 3 p)).2.mmap
      off len = load w.pci.mmap off len :=
    fun off len hoff => load_congr fun i hi => hframe _ (by omega)
  have hbiosFlags : (headerAt (w.pci.write cfg.sizeT CircularBufferHeader.bmcReadPtrOffset
      (littleEndian 3 p)).2.mmap).biosFlags = w.header.biosFlags := by
    rw [headerAt_biosFlags, hload _ _ (Or.inr (by decide)), header, headerAt_biosFlags]
  refine ⟨PciDataHandler.write_regionSize, ?_, ?_,
    by rw [hbiosFlags], by rw [hbiosFlags], fun _ => ?_⟩
  · rw [headerAt_bmcFlags, hload _ _ (Or.inl (by decide)), header, headerAt_bmcFlags]
  · rw [headerAt_eq, header, headerAt_eq]
    exact congrArg ofLittleEndian (hload _ _ (Or.inl (by decide)))
  · exact hload _ _ (Or.inr (by decide))

end Handshake

def flagsWord (ueSwitch overflow ready : Bool) : UInt32 :=
  (if ueSwitch then BufferFlags.ueSwitch else 0) |||
    (if overflow then BufferFlags.overflow else 0) ||| (if ready then BmcFlags.ready else 0)

lemma flagsWord_ueSwitch : ∀ {ueSwitch overflow ready : Bool},
    flagsWord ueSwitch overflow ready ^^^ BufferFlags.ueSwitch = flagsWord
      (!ueSwitch) overflow ready := by
  decide

lemma flagsWord_overflow : ∀ {ueSwitch overflow ready : Bool},
    flagsWord ueSwitch overflow ready ^^^ BufferFlags.overflow = flagsWord ueSwitch
      (!overflow) ready := by
  decide

lemma flagsWord_ready : ∀ {ueSwitch overflow ready : Bool},
    flagsWord ueSwitch overflow ready ||| BmcFlags.ready = flagsWord ueSwitch overflow true := by
  decide

/-- So many UE logs are handed over and not acknowledged, and so many overflows acknowledged and not
returned. The flags of the BMC say what was acknowledged, and those of the BIOS what was not. -/
structure Counted (cfg : Config) (ueLogs overflows : ℕ) (ready : Bool) (w : Handshake) : Prop where
  handed : w.handed <+: w.posted
  handedLength : w.handed.length = w.acknowledged + ueLogs
  posted : w.posted.length = w.acknowledged + if w.Unread then 1 else 0
  ueLog : w.Unread → w.posted.getLast? = some (ueRegion cfg w.pci)
  reports : w.reports = w.overflowAcks + if w.Overflowed then 1 else 0
  detected : w.overflowAcks = w.detected + overflows
  bmcFlags : w.header.bmcFlags = flagsWord w.acknowledged.bodd w.overflowAcks.bodd ready
  ueRegionSize : w.header.ueRegionSize = (UInt16.ofNat cfg.ueRegionSize).toNat

def Settled (cfg : Config) (w : Handshake) : Prop := Counted cfg 0 0 (decide (0 < w.stopFlags)) w

structure Lasting (cfg : Config) (P : Handshake → Prop) : Prop where
  unchanged : ∀ {w pci}, w.Unchanged cfg pci → P w → P { w with pci }
  post : ∀ {w}, ¬ w.Unread → P w → P (w.postUeLog cfg)
  report : ∀ {w}, ¬ w.Overflowed → P w → P w.reportOverflow

lemma Lasting.biosStep {P : Handshake → Prop} (hP : Lasting cfg P) {w w' : Handshake}
    (h : BiosStep cfg w w')
    (hw : P w) : P w' := by
  cases h with
  | write hwrites hueSwitch hoverflow hueLog =>
    have hcoherent := coherent_of_owned hwrites.owned
    exact hP.unchanged ⟨hwrites.regionSize, hcoherent.bmcFlags.symm, hcoherent.ueRegionSize.symm,
      hueSwitch, hoverflow, hueLog⟩ hw
  | post hunread => exact hP.post hunread hw
  | report hoverflowed => exact hP.report hoverflowed hw

section

variable {ueLogs overflows : ℕ} {ready : Bool} {w : Handshake}

theorem counted_lasting : Lasting cfg (Counted cfg ueLogs overflows ready) where
  unchanged hsame h := {
    handed := h.handed
    handedLength := h.handedLength
    posted := by
      simp only [hsame.unread]
      exact h.posted
    ueLog hunread := (h.ueLog (hsame.unread.mp hunread)).trans
      (congrArg some (hsame.ueLog (hsame.unread.mp hunread)).symm)
    reports := by
      simp only [hsame.overflowed]
      exact h.reports
    detected := h.detected
    bmcFlags := hsame.bmcFlags.trans h.bmcFlags
    ueRegionSize := hsame.ueRegionSize.trans h.ueRegionSize }
  post {w} hunread h := {
    handed := h.handed.trans (List.prefix_append _ _)
    handedLength := h.handedLength
    posted := by
      have hposted := h.posted
      rw [if_neg hunread] at hposted
      rw [if_pos (Handshake.unread_postUeLog hunread)]
      simp only [Handshake.postUeLog, List.length_append, List.length_singleton, hposted,
        Nat.add_zero]
    ueLog _ := by
      simp only [Handshake.postUeLog, List.getLast?_append, List.getLast?_singleton, Option.some_or,
        biosToggles_ueRegion]
    reports := by
      simp only [Handshake.overflowed_postUeLog]
      exact h.reports
    detected := h.detected
    bmcFlags := biosToggles_bmcFlags.trans h.bmcFlags
    ueRegionSize := biosToggles_ueRegionSize.trans h.ueRegionSize }
  report {w} hoverflowed h := {
    handed := h.handed
    handedLength := h.handedLength
    posted := by
      simp only [Handshake.unread_reportOverflow]
      exact h.posted
    ueLog hunread := by
      have hueLog := h.ueLog (Handshake.unread_reportOverflow.mp hunread)
      simpa only [Handshake.reportOverflow, biosToggles_ueRegion] using hueLog
    reports := by
      have hreports := h.reports
      rw [if_neg hoverflowed] at hreports
      rw [if_pos (Handshake.overflowed_reportOverflow hoverflowed)]
      simp only [Handshake.reportOverflow, hreports, Nat.add_zero]
    detected := h.detected
    bmcFlags := biosToggles_bmcFlags.trans h.bmcFlags
    ueRegionSize := biosToggles_ueRegionSize.trans h.ueRegionSize }

lemma Counted.unread (h : Counted cfg 1 overflows ready w) : w.Unread := by
  by_contra hunread
  have hposted := h.posted
  rw [if_neg hunread] at hposted
  have hle := h.handed.length_le
  have hhanded := h.handedLength
  omega

lemma Counted.pending (h : Counted cfg 0 overflows ready w) (hunread : w.Unread) :
    w.handed ++ [ueRegion cfg w.pci] = w.posted := by
  obtain ⟨rest, hrest⟩ := h.handed
  have hposted := h.posted
  have hhanded := h.handedLength
  rw [if_pos hunread, ← hrest, List.length_append] at hposted
  obtain ⟨ueLog, rfl⟩ := List.length_eq_one_iff.mp (show rest.length = 1 by omega)
  have hlast := h.ueLog hunread
  rw [← hrest, List.getLast?_append, List.getLast?_singleton, Option.some_or] at hlast
  rw [← hrest, Option.some.inj hlast]

structure Found (cfg : Config) (ueLog : List UInt8) (w : Handshake) : Prop where
  settled : Settled cfg w
  next : ueLog ≠ [] → w.handed ++ [ueLog] = w.posted

lemma found_lasting {ueLog : List UInt8} : Lasting cfg (Found cfg ueLog) where
  unchanged hsame h := ⟨counted_lasting.unchanged hsame h.settled, h.next⟩
  post {w} hunread h := by
    refine ⟨counted_lasting.post hunread h.settled, fun hne => ?_⟩
    have hposted := h.settled.posted
    have hhanded := h.settled.handedLength
    rw [if_neg hunread, ← h.next hne, List.length_append, List.length_singleton] at hposted
    omega
  report hoverflowed h := ⟨counted_lasting.report hoverflowed h.settled, h.next⟩

lemma unread_lasting : Lasting cfg Handshake.Unread where
  unchanged hsame h := hsame.unread.mpr h
  post hunread h := absurd h hunread
  report _ h := Handshake.unread_reportOverflow.mpr h

lemma overflowed_lasting : Lasting cfg Handshake.Overflowed where
  unchanged hsame h := hsame.overflowed.mpr h
  post _ h := Handshake.overflowed_postUeLog.mpr h
  report hoverflowed h := absurd h hoverflowed

lemma Lasting.and {P Q : Handshake → Prop} (hP : Lasting cfg P) (hQ : Lasting cfg Q) :
    Lasting cfg (fun w => P w ∧ Q w) where
  unchanged hsame h := ⟨hP.unchanged hsame h.1, hQ.unchanged hsame h.2⟩
  post hunread h := ⟨hP.post hunread h.1, hQ.post hunread h.2⟩
  report hoverflowed h := ⟨hP.report hoverflowed h.1, hQ.report hoverflowed h.2⟩

lemma Lasting.imp {p : Prop} {P : Handshake → Prop} (hP : Lasting cfg P) :
    Lasting cfg (fun w => p → P w) where
  unchanged hsame h hp := hP.unchanged hsame (h hp)
  post hunread h hp := hP.post hunread (h hp)
  report hoverflowed h hp := hP.report hoverflowed (h hp)

lemma Counted.hand {ueLog : List UInt8} (h : Counted cfg 0 overflows ready w)
    (hnext : w.handed ++ [ueLog] = w.posted) :
    Counted cfg 1 overflows ready { w with handed := w.handed ++ [ueLog] } :=
  { h with
    handed := hnext ▸ List.prefix_refl _
    handedLength := by
      rw [List.length_append, List.length_singleton, h.handedLength] }

def Handshake.withFlags (w : Handshake) (f : UInt32) : Handshake :=
  w.updated { w.pci with
    mmap := store w.pci.mmap CircularBufferHeader.bmcFlagsOffset (littleEndian 4 f.toNat) }

lemma withFlags_header (f : UInt32) : (w.withFlags f).header = { w.header with bmcFlags := f } :=
  headerAt_store_bmcFlags f

lemma withFlags_ueRegion (f : UInt32) : ueRegion cfg (w.withFlags f).pci = ueRegion cfg w.pci := by
  refine load_store_outside (Or.inr ?_)
  rw [littleEndian_length]
  decide

lemma withFlags_acknowledged (f : UInt32) : (w.withFlags f).acknowledged =
    w.acknowledged + Flags.toggles BufferFlags.ueSwitch w.header.bmcFlags f := by
  have hheader := withFlags_header (w := w) f
  rw [Handshake.withFlags, Handshake.header, Handshake.updated] at hheader
  rw [Handshake.withFlags, Handshake.updated]
  simp only [hheader]

lemma withFlags_overflowAcks (f : UInt32) : (w.withFlags f).overflowAcks =
    w.overflowAcks + Flags.toggles BufferFlags.overflow w.header.bmcFlags f := by
  have hheader := withFlags_header (w := w) f
  rw [Handshake.withFlags, Handshake.header, Handshake.updated] at hheader
  rw [Handshake.withFlags, Handshake.updated]
  simp only [hheader]

lemma withFlags_unread (f : UInt32) :
    (w.withFlags f).Unread ↔ Flags.Differ BufferFlags.ueSwitch w.header.biosFlags f := by
  rw [Handshake.Unread, withFlags_header]

lemma withFlags_overflowed (f : UInt32) :
    (w.withFlags f).Overflowed ↔ Flags.Differ BufferFlags.overflow w.header.biosFlags f := by
  rw [Handshake.Overflowed, withFlags_header]

lemma Counted.withFlags {ueLogs' overflows' : ℕ} {ready' : Bool} {f : UInt32}
    (h : Counted cfg ueLogs overflows ready w)
    (hhanded : w.handed.length = w.acknowledged + Flags.toggles BufferFlags.ueSwitch
      w.header.bmcFlags f + ueLogs')
    (hposted : w.posted.length = w.acknowledged + Flags.toggles BufferFlags.ueSwitch
      w.header.bmcFlags f + if Flags.Differ BufferFlags.ueSwitch w.header.biosFlags f then 1 else 0)
    (hueLog : Flags.Differ BufferFlags.ueSwitch w.header.biosFlags f → w.Unread)
    (hreports : w.reports = w.overflowAcks + Flags.toggles BufferFlags.overflow
      w.header.bmcFlags f + if Flags.Differ BufferFlags.overflow w.header.biosFlags f then 1 else 0)
    (hdetected : w.overflowAcks + Flags.toggles BufferFlags.overflow w.header.bmcFlags f =
      w.detected + overflows')
    (hflags : f = flagsWord
      (w.acknowledged + Flags.toggles BufferFlags.ueSwitch w.header.bmcFlags f).bodd
      (w.overflowAcks + Flags.toggles BufferFlags.overflow w.header.bmcFlags f).bodd ready') :
    Counted cfg ueLogs' overflows' ready' (w.withFlags f) where
  handed := h.handed
  handedLength := by
    rw [withFlags_acknowledged]
    exact hhanded
  posted := by
    simp only [withFlags_acknowledged, withFlags_unread]
    exact hposted
  ueLog hunread := by
    rw [withFlags_ueRegion]
    exact h.ueLog (hueLog (withFlags_unread f |>.mp hunread))
  reports := by
    simp only [withFlags_overflowAcks, withFlags_overflowed]
    exact hreports
  detected := by
    rw [withFlags_overflowAcks]
    exact hdetected
  bmcFlags := by
    rw [withFlags_header, withFlags_acknowledged, withFlags_overflowAcks]
    exact hflags
  ueRegionSize := by
    rw [withFlags_header]
    exact h.ueRegionSize

lemma differ_same {b f g k : UInt32} (h : g &&& b = k &&& b) :
    Flags.Differ b f g ↔ Flags.Differ b f k := by
  rw [Flags.differ_iff, Flags.differ_iff, h]

lemma Counted.acknowledge (h : Counted cfg 1 overflows ready w) :
    Counted cfg 0 overflows ready (w.withFlags (w.header.bmcFlags ^^^ BufferFlags.ueSwitch)) := by
  have hread : ¬ Flags.Differ BufferFlags.ueSwitch w.header.biosFlags
      (w.header.bmcFlags ^^^ BufferFlags.ueSwitch) :=
    fun hd => ueSwitch_isFlag.differ_toggle.mp hd h.unread
  have hother : (w.header.bmcFlags ^^^ BufferFlags.ueSwitch) &&& BufferFlags.overflow =
      w.header.bmcFlags &&& BufferFlags.overflow := Flags.toggle_other rfl
  have hposted := h.posted
  rw [if_pos h.unread] at hposted
  apply h.withFlags
  · rw [ueSwitch_isFlag.toggles_self]
    exact h.handedLength
  · rw [ueSwitch_isFlag.toggles_self, if_neg hread]
    exact hposted
  · exact fun hd => absurd hd hread
  · simp only [Flags.toggles_same hother.symm, differ_same hother]
    exact h.reports
  · rw [Flags.toggles_same hother.symm]
    exact h.detected
  · rw [ueSwitch_isFlag.toggles_self, Flags.toggles_same hother.symm, Nat.add_zero w.overflowAcks,
      Nat.bodd_succ, ← flagsWord_ueSwitch,
      h.bmcFlags]

lemma Counted.detect (h : Counted cfg ueLogs 0 ready w) (hoverflowed : w.Overflowed) :
    Counted cfg ueLogs 1 ready (w.withFlags (w.header.bmcFlags ^^^ BufferFlags.overflow)) := by
  have hseen : ¬ Flags.Differ BufferFlags.overflow w.header.biosFlags
      (w.header.bmcFlags ^^^ BufferFlags.overflow) :=
    fun hd => overflow_isFlag.differ_toggle.mp hd hoverflowed
  have hother : (w.header.bmcFlags ^^^ BufferFlags.overflow) &&& BufferFlags.ueSwitch =
      w.header.bmcFlags &&& BufferFlags.ueSwitch := Flags.toggle_other rfl
  have hreports := h.reports
  rw [if_pos hoverflowed] at hreports
  apply h.withFlags
  · rw [Flags.toggles_same hother.symm]
    exact h.handedLength
  · simp only [Flags.toggles_same hother.symm, differ_same hother]
    exact h.posted
  · exact fun hd => (differ_same hother).mp hd
  · rw [overflow_isFlag.toggles_self, if_neg hseen]
    exact hreports
  · rw [overflow_isFlag.toggles_self]
    exact congrArg (· + 1) h.detected
  · rw [overflow_isFlag.toggles_self, Flags.toggles_same hother.symm, Nat.add_zero w.acknowledged,
      Nat.bodd_succ, ← flagsWord_overflow,
      h.bmcFlags]

lemma Counted.warn (h : Counted cfg ueLogs 1 ready w) :
    Counted cfg ueLogs 0 ready { w with detected := w.detected + 1 } :=
  { h with detected := h.detected }

lemma Counted.setReady (h : Counted cfg ueLogs overflows ready w) :
    Counted cfg ueLogs overflows true (w.withFlags (w.header.bmcFlags ||| BmcFlags.ready)) := by
  have hueSwitch : (w.header.bmcFlags ||| BmcFlags.ready) &&& BufferFlags.ueSwitch =
      w.header.bmcFlags &&& BufferFlags.ueSwitch := Flags.set_other rfl
  have hoverflow : (w.header.bmcFlags ||| BmcFlags.ready) &&& BufferFlags.overflow =
      w.header.bmcFlags &&& BufferFlags.overflow := Flags.set_other rfl
  apply h.withFlags
  · rw [Flags.toggles_same hueSwitch.symm]
    exact h.handedLength
  · simp only [Flags.toggles_same hueSwitch.symm, differ_same hueSwitch]
    exact h.posted
  · exact fun hd => (differ_same hueSwitch).mp hd
  · simp only [Flags.toggles_same hoverflow.symm, differ_same hoverflow]
    exact h.reports
  · rw [Flags.toggles_same hoverflow.symm]
    exact h.detected
  · rw [Flags.toggles_same hueSwitch.symm, Flags.toggles_same hoverflow.symm, Nat.add_zero,
      Nat.add_zero, h.bmcFlags]
    exact flagsWord_ready

end

end SmmErrorLogger.ReadLoop
