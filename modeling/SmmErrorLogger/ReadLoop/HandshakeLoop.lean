import SmmErrorLogger.ReadLoop.Handshake
import SmmErrorLogger.ReadLoop.UeStorage

namespace SmmErrorLogger.ReadLoop

open Buffer Rde Library Library.Bytes Library.Interaction
open Library.Interaction.Proc

variable {ε : Type} {cfg : Config} {P P' : Handshake → Prop} {h : CircularBufferHeader}
  {w : Handshake}

def Fits (cfg : Config) (w : Handshake) : Prop :=
  (UInt16.ofNat cfg.queueRegionSize).toNat ≤ w.pci.regionSize.toNat

structure Until (cfg : Config) (P : Handshake → Prop) (w : Handshake) : Prop where
  fits : Fits cfg w
  holds : w.threw = false → P w

lemma fits_stable : (handshakes cfg ε).Stable (Fits cfg) := by
  intro w w' hw h
  rwa [Fits, hw.owned.regionSize]

lemma until_stable (hP : Lasting cfg P) : (handshakes cfg ε).Stable (Until cfg P) :=
  fun _ _ hw h => ⟨fits_stable (ε := ε) _ _ hw h.fits,
    fun hthrew => hP.biosStep hw (h.holds (hw.threw ▸ hthrew))⟩

lemma Until.unchanged (hP : Lasting cfg P) (h : Until cfg P w) {pci : PciDataHandler}
    (hsame : w.Unchanged cfg pci) :
    Until cfg P (w.updated pci) := by
  rw [hsame.updated]
  refine ⟨?_, fun hthrew => hP.unchanged hsame (h.holds hthrew)⟩
  rw [Fits, hsame.regionSize]
  exact h.fits

lemma Until.meant {op : DataOp} (hsame : w.Unchanged cfg (w.pci.perform cfg.sizeT op).2) :
    (handshakes cfg ε).permits w (.data op) := by
  intro _
  rw [Handshake.Permits, hsame.bmcFlags]
  exact .same

lemma handshakes_shared (hP : Lasting cfg P) :
    SharedRegion cfg.sizeT ((handshakes cfg ε).restrict dataCalls) Handshake.pci (Until cfg P) where
  interferes hw := hw.owned
  answers := by
    rintro w op ans w' ⟨_, ⟨pci, hperform, rfl⟩, rfl⟩
    exact hperform
  stable := until_stable (ε := ε) hP
  read off len hk := by
    refine ⟨Until.meant (Handshake.unchanged_self _), ?_⟩
    rintro bytes w' ⟨_, ⟨pci, hperform, rfl⟩, rfl⟩
    obtain rfl : _ = pci := congrArg Prod.snd hperform
    exact hk.unchanged hP (Handshake.unchanged_self _)
  readPtr p hk := by
    refine ⟨Until.meant (Handshake.unchanged_readPtr _), ?_⟩
    rintro written w' ⟨_, ⟨pci, hperform, rfl⟩, rfl⟩
    obtain rfl : _ = pci := congrArg Prod.snd hperform
    exact hk.unchanged hP (Handshake.unchanged_readPtr _)

def Standing (cfg : Config) (ueLogs overflows : ℕ) (w : Handshake) : Prop :=
  Counted cfg ueLogs overflows (decide (0 < w.stopFlags)) w

lemma standing_lasting {ueLogs overflows : ℕ} : Lasting cfg (Standing cfg ueLogs overflows) where
  unchanged hsame h := counted_lasting.unchanged hsame h
  post hunread h := counted_lasting.post hunread h
  report hoverflowed h := counted_lasting.report hoverflowed h

lemma settled_lasting : Lasting cfg (Settled cfg) := standing_lasting

lemma until_kept_stable (hP : Lasting cfg P) (h : CircularBufferHeader) :
    (handshakes cfg ε).Stable (Kept Handshake.pci (Until cfg P) h) :=
  (handshakes_shared (ε := ε) hP).kept_stable h

lemma fits_kept_stable (h : CircularBufferHeader) :
    (handshakes cfg ε).Stable (Kept Handshake.pci (Fits cfg) h) :=
  fun _ _ hw hk => ⟨hk.1.biosWrites hw.owned, fits_stable (ε := ε) _ _ hw hk.2⟩

lemma print_leads {message : Message ε} (hne : message ≠ .overflowAcked)
    (hprinted : ∀ w : Handshake, w.printed message = w) :
    Leads (handshakes cfg ε) (Until cfg P) (.print message) (Until cfg P) := by
  intro w hk
  refine ⟨fun _ heq => absurd heq hne, ?_⟩
  rintro ans w' rfl
  rwa [hprinted]

lemma print_bind {α : Type} {Q : α → CircularBufferHeader → Handshake → Prop}
    {X : LoopError ε → CircularBufferHeader → Handshake → Prop} {f : Unit → LoopM ε α}
    (hP : Lasting cfg P)
    {message : Message ε} (hne : message ≠ .overflowAcked)
    (hprinted : ∀ w : Handshake, w.printed message = w)
    (hk : Kept Handshake.pci (Until cfg P) h w)
    (hf : ∀ w', Kept Handshake.pci (Until cfg P) h w' →
      (f ()).Ensures (handshakes cfg ε) Q X h w') :
    (print message >>= f).Ensures (handshakes cfg ε) Q X h w := by
  rw [print_then]
  intro w₁ hw₁
  have hk₁ := (until_kept_stable hP h).later hw₁ hk
  refine ⟨fun _ heq => absurd heq hne, ?_⟩
  rintro ans w₂ rfl
  rw [hprinted]
  exact hf w₁ hk₁

lemma write_flags (cfg : Config) (hc : Cached h w.pci) (f : UInt32) :
    w.pci.perform cfg.sizeT (.write CircularBufferHeader.bmcFlagsOffset (littleEndian 4 f.toNat)) =
      ((4 : ℕ), (w.withFlags f).pci) := by
  have hregion := hc.region
  have hwrite : w.pci.write cfg.sizeT CircularBufferHeader.bmcFlagsOffset
      (littleEndian 4 f.toNat) = _ :=
    PciDataHandler.write_within (by
      simp only [CircularBufferHeader.size] at hregion
      rw [littleEndian_length, CircularBufferHeader.bmcFlagsOffset]
      omega) (by simp)
  rw [littleEndian_length] at hwrite
  exact hwrite

lemma changeFlags_ensures (hP : Lasting cfg P) (hP' : Lasting cfg P') (change : UInt32 → UInt32)
    (hchange : ∀ w, P w → w.Meant (change w.header.bmcFlags) ∧
      P' (w.withFlags (change w.header.bmcFlags)))
    (hk : Kept Handshake.pci (Until cfg P) h w) :
    (buffer (updateBmcFlags (change h.bmcFlags)) : LoopM ε Unit).Ensures (handshakes cfg ε)
      (fun _ => Kept Handshake.pci (Until cfg P')) (fun _ _ _ => False) h w := by
  refine buffer_ensures.mpr
    ((handshakes_shared hP).updateBmcFlags_ensures (until_stable (ε := ε) hP')
      (fun w₁ hk₁ => ?_) hk)
  have hflags : w₁.header.bmcFlags = h.bmcFlags := hk₁.1.coherent.bmcFlags.symm
  have hwrite := write_flags cfg hk₁.1 (change h.bmcFlags)
  refine ⟨fun hthrew => ?_, ?_⟩
  · have hheader := withFlags_header (w := w₁) (change h.bmcFlags)
    rw [Handshake.header] at hheader
    change w₁.Meant (headerAt (w₁.pci.perform cfg.sizeT (.write _ _)).2.mmap).bmcFlags
    rw [hwrite, hheader, ← hflags]
    exact (hchange w₁ (hk₁.2.holds hthrew)).1
  · rintro written w₂ ⟨_, ⟨pci, hperform, rfl⟩, rfl⟩
    obtain rfl : (w₁.withFlags (change h.bmcFlags)).pci = pci :=
      congrArg Prod.snd (hwrite.symm.trans hperform)
    refine ⟨hk₁.2.fits, fun hthrew => ?_⟩
    rw [← hflags]
    exact (hchange w₁ (hk₁.2.holds hthrew)).2

lemma readBufferHeader_sees {P : Handshake → Prop} {b : UInt32} (hP : Lasting cfg P)
    (hsees : ∀ w : Handshake, Flags.Differ b w.header.biosFlags w.header.bmcFlags → P w)
    (hk : Kept Handshake.pci (Until cfg (Settled cfg)) h w) :
    readBufferHeader.Ensures ((handshakes cfg ε).restrict dataCalls)
      (fun _ h' w' => Kept Handshake.pci (Until cfg (Settled cfg)) h' w' ∧
        (Flags.Differ b h'.biosFlags h'.bmcFlags → P w')) (fun _ _ _ => False) h w := by
  have R : SharedRegion cfg.sizeT ((handshakes cfg ε).restrict dataCalls) Handshake.pci
      (Until cfg (Settled cfg)) :=
    handshakes_shared settled_lasting
  refine R.readBufferHeader_reads (Q := fun h' w' => Flags.Differ b h'.biosFlags h'.bmcFlags → P w')
    ?_ ?_ hk
  · exact fun h' w₁ w₂ hw hsame hd => hP.biosStep hw (hsame hd)
  · rintro w₁ - bytes w₂ ⟨_, ⟨pci, hperform, rfl⟩, rfl⟩ hd
    obtain rfl : _ = pci := congrArg Prod.snd hperform
    exact hsees _ hd

lemma readUeLog_found (hk : Kept Handshake.pci (Until cfg (Settled cfg)) h w) :
    (buffer readUeLogFromReservedRegion : LoopM ε (List UInt8)).Ensures (handshakes cfg ε)
      (fun ueLog => Kept Handshake.pci (Until cfg (Found cfg ueLog)))
        (fun _ => Kept Handshake.pci (Fits cfg)) h w := by
  have R : SharedRegion cfg.sizeT ((handshakes cfg ε).restrict dataCalls) Handshake.pci
      (Until cfg (Settled cfg)) :=
    handshakes_shared settled_lasting
  have hlasting : Lasting cfg Handshake.Unread := unread_lasting
  have hstable : ((handshakes cfg ε).restrict dataCalls).Stable Handshake.Unread :=
    fun _ _ hw hu => hlasting.biosStep hw hu
  have hnone : ∀ {h w}, Kept Handshake.pci (Until cfg (Settled cfg)) h w →
      Kept Handshake.pci (Until cfg (Found cfg [])) h w :=
    fun hk => ⟨hk.1, hk.2.fits, fun hthrew => ⟨hk.2.holds hthrew, fun hne => absurd rfl hne⟩⟩
  rw [buffer_ensures, readUeLogFromReservedRegion, ensures_bind]
  refine (readBufferHeader_sees (ε := ε) hlasting (fun _ hd => hd) hk).mono ?_
    (fun _ _ _ hf => hf.elim)
  rintro - h₁ w₁ ⟨hk₁, hunread⟩
  rw [ensures_fetch_bind]
  by_cases hsize : h₁.ueRegionSize = 0
  · rw [if_pos hsize]
    exact fun w₂ hw₂ => hnone ((R.kept_stable h₁).later hw₂ hk₁)
  rw [if_neg hsize]
  by_cases hsame : (h₁.biosFlags ^^^ h₁.bmcFlags) &&& BufferFlags.ueSwitch = 0
  · rw [if_pos hsame]
    exact fun w₂ hw₂ => hnone ((R.kept_stable h₁).later hw₂ hk₁)
  rw [if_neg hsame, DataInterface.read_then]
  intro w₂ hw₂
  have hk₂ := (R.kept_stable h₁).later hw₂ hk₁
  have hunread₂ : w₂.Unread := hstable.later hw₂ (hunread hsame)
  refine ⟨(R.read _ _ hk₂.2).1, ?_⟩
  rintro _ w₃ ⟨(bytes : List UInt8), ⟨pci, hperform, rfl⟩, rfl⟩
  obtain ⟨hbytes, rfl⟩ := Prod.mk.inj hperform
  have hself : w₂.Unchanged cfg w₂.pci := Handshake.unchanged_self w₂
  change Proc.Ensures _ (if bytes.length = h₁.ueRegionSize then _ else _) _ _ h₁ (w₂.updated w₂.pci)
  rw [hself.updated]
  split
  case isTrue hlength =>
    have hcached : h₁.ueRegionSize = w₂.header.ueRegionSize := hk₂.1.coherent.ueRegionSize
    have hload : bytes = load w₂.pci.mmap CircularBufferHeader.size h₁.ueRegionSize :=
      hbytes.symm.trans (PciDataHandler.read_full (hbytes ▸ hlength) (by
        have hlt := CircularBufferHeader.ofBytes_ueRegionSize_lt
          (load w₂.pci.mmap 0 CircularBufferHeader.size)
        change w₂.header.ueRegionSize < 2 ^ 16 at hlt
        rw [hcached, CircularBufferHeader.size]
        omega))
    refine fun w₃ hw₃ => (until_kept_stable (ε := ε) found_lasting h₁).later hw₃
      ⟨hk₂.1, hk₂.2.fits, fun hthrew => ?_⟩
    have hsettled := hk₂.2.holds hthrew
    refine ⟨hsettled, fun _ => ?_⟩
    have hregion : bytes = ueRegion cfg w₂.pci := by
      rw [hload, hcached, hsettled.ueRegionSize]
      rfl
    exact hregion ▸ hsettled.pending hunread₂
  case isFalse =>
    exact fun w₃ hw₃ => (fits_kept_stable (ε := ε) h₁).later hw₃ ⟨hk₂.1, hk₂.2.fits⟩

lemma processUeLog_settles :
    KeepsOr (handshakes cfg ε) (Kept Handshake.pci (Until cfg (Settled cfg)))
    (Kept Handshake.pci (Fits cfg)) processUeLog := by
  intro h w hk
  rw [processUeLog, ensures_bind]
  refine (readUeLog_found hk).mono (fun ueLog h₁ w₁ hk₁ => ?_) (fun _ _ _ hk' => hk')
  by_cases hne : ueLog ≠ []
  case neg =>
    rw [if_neg hne]
    exact fun w₂ hw₂ => (until_kept_stable (ε := ε) settled_lasting h₁).later hw₂
      ⟨hk₁.1, hk₁.2.fits, fun hthrew => (hk₁.2.holds hthrew).settled⟩
  rw [if_pos hne]
  refine print_bind found_lasting (by simp) (fun _ => rfl) hk₁ fun w₂ hk₂ =>
    decodeRdeCommand_then fun w₃ hw₃ => ?_
  have hk₃ := (until_kept_stable (ε := ε) found_lasting h₁).later hw₃ hk₂
  refine ⟨fun hthrew => ?_, ?_, ?_⟩
  · have hfound := hk₃.2.holds hthrew
    exact ⟨hfound.next hne ▸ List.prefix_refl _, hfound.settled.handedLength⟩
  · rintro e _ rfl w₅ hw₅
    exact (fits_kept_stable (ε := ε) h₁).later hw₅ ⟨hk₃.1, hk₃.2.fits⟩
  rintro status _ rfl
  refine ensures_raiseIf_bind.mpr ⟨fun _ w₅ hw₅ => ?_, fun _ => ?_⟩
  · exact (fits_kept_stable (ε := ε) h₁).later hw₅ ⟨hk₃.1, hk₃.2.fits⟩
  have hk₄ : Kept Handshake.pci (Until cfg (Standing cfg 1 0)) h₁
      { w₃ with handed := w₃.handed ++ [ueLog] } := by
    refine ⟨hk₃.1, hk₃.2.fits, fun hthrew => ?_⟩
    have hfound := hk₃.2.holds hthrew
    exact Counted.hand hfound.settled (hfound.next hne)
  apply print_bind standing_lasting (by simp) (fun _ => rfl) hk₄
  intro w₅ hk₅
  rw [ensures_fetch_bind]
  refine (changeFlags_ensures standing_lasting settled_lasting
    (· ^^^ BufferFlags.ueSwitch) ?_ hk₅).mono (fun _ _ _ hk' => hk') (fun _ _ _ hf => hf.elim)
  exact fun w₆ hstanding => ⟨.ueSwitch hstanding.handedLength, hstanding.acknowledge⟩

lemma check_detects (hk : Kept Handshake.pci (Until cfg (Settled cfg)) h w) :
    (buffer checkForOverflowAndAcknowledge : LoopM ε Bool).Ensures (handshakes cfg ε)
      (fun overflow => Kept Handshake.pci (Until cfg (Standing cfg 0 overflow.toNat)))
        (fun _ _ _ => False) h w := by
  have hlasting : Lasting cfg Handshake.Overflowed := overflowed_lasting
  rw [buffer_ensures, checkForOverflowAndAcknowledge, ensures_bind]
  refine (readBufferHeader_sees (ε := ε) hlasting (fun _ hd => hd) hk).mono ?_
    (fun _ _ _ hf => hf.elim)
  rintro - h₁ w₁ ⟨hk₁, hoverflowed⟩
  rw [ensures_fetch_bind]
  by_cases hdiffer : (h₁.biosFlags ^^^ h₁.bmcFlags) &&& BufferFlags.overflow ≠ 0
  case neg =>
    rw [if_neg hdiffer]
    exact fun w₂ hw₂ => (until_kept_stable (ε := ε) settled_lasting h₁).later hw₂ hk₁
  rw [if_pos hdiffer, ensures_bind]
  have hk₂ : Kept Handshake.pci (Until cfg (fun w => Settled cfg w ∧ w.Overflowed)) h₁ w₁ :=
    ⟨hk₁.1, hk₁.2.fits, fun hthrew => ⟨hk₁.2.holds hthrew, hoverflowed hdiffer⟩⟩
  have hdetected : Lasting cfg (Standing cfg 0 1) := standing_lasting
  refine (buffer_ensures.mp (changeFlags_ensures (ε := ε) (settled_lasting.and hlasting) hdetected
    (· ^^^ BufferFlags.overflow) ?_ hk₂)).mono ?_ (fun _ _ _ hf => hf)
  · rintro w₃ ⟨hsettled, hoverflowed⟩
    have hreports := hsettled.reports
    rw [if_pos hoverflowed] at hreports
    exact ⟨.overflow hreports hsettled.detected, hsettled.detect hoverflowed⟩
  · exact fun _ h₂ w₃ hk₃ w₄ hw₄ => (until_kept_stable (ε := ε) hdetected h₂).later hw₄ hk₃

lemma warnOfOverflow_settles :
    KeepsOr (handshakes cfg ε) (Kept Handshake.pci (Until cfg (Settled cfg)))
    (Kept Handshake.pci (Fits cfg)) warnOfOverflow := by
  intro h w hk
  rw [warnOfOverflow, ensures_bind]
  refine (check_detects hk).mono (fun overflow h₁ w₁ hk₁ => ?_) (fun _ _ _ hf => hf.elim)
  cases overflow with
  | false => exact fun w₂ hw₂ => (until_kept_stable (ε := ε) settled_lasting h₁).later hw₂ hk₁
  | true =>
    intro w₂ hw₂
    have hk₂ := (until_kept_stable (ε := ε) standing_lasting h₁).later hw₂ hk₁
    refine ⟨fun hthrew _ => (hk₂.2.holds hthrew).detected, ?_⟩
    rintro ans _ rfl w₄ hw₄
    exact (until_kept_stable (ε := ε) settled_lasting h₁).later hw₄
      ⟨hk₂.1, hk₂.2.fits, fun hthrew => Counted.warn (hk₂.2.holds hthrew)⟩

def Stopped (cfg : Config) (w : Handshake) : Prop :=
  (∃ ready, Counted cfg 0 0 ready w) ∧ 0 < w.stopFlags

lemma stopped_lasting : Lasting cfg (Stopped cfg) where
  unchanged hsame h := ⟨h.1.imp fun _ hc => counted_lasting.unchanged hsame hc, h.2⟩
  post hunread h := ⟨h.1.imp fun _ hc => counted_lasting.post hunread hc, h.2⟩
  report hoverflowed h := ⟨h.1.imp fun _ hc => counted_lasting.report hoverflowed hc, h.2⟩

lemma Stopped.setReady (h : Stopped cfg w) :
    Settled cfg (w.withFlags (w.header.bmcFlags ||| BmcFlags.ready)) := by
  obtain ⟨⟨ready, hcounted⟩, hstop⟩ := h
  have hready : decide (0 < (w.withFlags (w.header.bmcFlags ||| BmcFlags.ready)).stopFlags) =
      true :=
    decide_eq_true hstop
  rw [Settled, hready]
  exact hcounted.setReady

lemma processEntry_settles (entryPair : EntryPair) : KeepsOr (handshakes cfg ε)
    (Kept Handshake.pci (Until cfg (Settled cfg))) (Kept Handshake.pci (Fits cfg))
      (processEntry entryPair) := by
  intro h w hk
  apply decodeRdeCommand_then
  intro w₁ hw₁
  have hk₁ := (until_kept_stable (ε := ε) settled_lasting h).later hw₁ hk
  refine ⟨fun _ => trivial, ?_, ?_⟩
  · rintro e _ rfl w₃ hw₃
    exact (fits_kept_stable (ε := ε) h).later hw₃ ⟨hk₁.1, hk₁.2.fits⟩
  rintro status _ rfl
  by_cases hstop : status = .rdeStopFlagReceived
  case neg =>
    have hsame : w₁.decoded (.ok status : Except ε RdeDecodeStatus) = w₁ := by
      cases status <;> first | rfl | exact absurd rfl hstop
    rw [if_neg hstop, hsame]
    exact fun w₃ hw₃ => (until_kept_stable (ε := ε) settled_lasting h).later hw₃ hk₁
  subst hstop
  rw [if_pos rfl, ensures_fetch_bind]
  have hk₂ : Kept Handshake.pci
      (Until cfg (Stopped cfg)) h { w₁ with stopFlags := w₁.stopFlags + 1 } :=
    ⟨hk₁.1, hk₁.2.fits, fun hthrew => ⟨⟨_, { hk₁.2.holds hthrew with }⟩, Nat.succ_pos _⟩⟩
  refine (changeFlags_ensures stopped_lasting settled_lasting (· ||| BmcFlags.ready) ?_ hk₂).mono
    (fun _ _ _ hk' => hk') (fun _ _ _ hf => hf.elim)
  exact fun w₃ hstopped => ⟨.ready hstopped.2, hstopped.setReady⟩

theorem handshake_loop :
    LoopInvariant cfg (handshakes cfg ε) Handshake.pci (Until cfg (Settled cfg)) (Fits cfg)
    (fun w => Fits cfg w ∧ w.threw = true) where
  shared := handshakes_shared settled_lasting
  message_region := by
    rintro w message ans _ rfl
    cases message <;> rfl
  timer_region := by
    rintro w ans _ rfl
    rfl
  thrown _ hk := hk.fits
  thrown_stable := fits_stable
  ueLog := processUeLog_settles
  overflow := warnOfOverflow_settles
  entry := processEntry_settles
  timer w hk := by
    refine ⟨fun _ => trivial, ?_⟩
    rintro ans _ rfl
    exact hk
  asyncWaitFailed error := print_leads (by simp) (fun _ => rfl)
  processingError e w hfits := by
    refine ⟨fun _ => by rintro ⟨⟩, ?_⟩
    rintro ans _ rfl
    exact ⟨hfits, rfl⟩
  failed_stable _ _ hw h := ⟨fits_stable (ε := ε) _ _ hw h.1, hw.threw.trans h.2⟩
  failed_region _ h := h.1
  getMemoryRegionSize w h := by
    refine ⟨fun hthrew => absurd (h.2.symm.trans hthrew) (by simp), ?_⟩
    rintro ans _ ⟨pci, hperform, rfl⟩
    obtain rfl : _ = pci := congrArg Prod.snd hperform
    exact h
  erase bytes _ w h := by
    refine ⟨fun hthrew => absurd (h.2.symm.trans hthrew) (by simp), ?_⟩
    rintro ans _ ⟨pci, hperform, rfl⟩
    obtain rfl : (w.pci.write cfg.sizeT 0 bytes).2 = pci := congrArg Prod.snd hperform
    refine ⟨?_, h.2⟩
    rw [Fits, Handshake.updated, PciDataHandler.write_regionSize]
    exact h.1
  cleared _ h _ := ⟨h.1, fun hthrew => absurd (h.2.symm.trans hthrew) (by simp)⟩
  reinitialized := print_leads (by simp) (fun _ => rfl)

structure Accounted (w : Handshake) : Prop where
  handed : w.handed <+: w.posted
  acknowledged : w.acknowledged ≤ w.handed.length
  once : w.handed.length ≤ w.acknowledged + 1
  reported : w.overflowAcks ≤ w.reports
  detected : w.detected ≤ w.overflowAcks
  detectedOnce : w.overflowAcks ≤ w.detected + 1

lemma Accounted.biosStep {w' : Handshake} (h : Accounted w) (hw : BiosStep cfg w w') :
    Accounted w' := by
  cases hw with
  | write => exact { h with }
  | post => exact { h with handed := h.handed.trans (List.prefix_append _ _) }
  | report => exact { h with reported := h.reported.trans (Nat.le_succ _) }

lemma Accounted.updated {pci : PciDataHandler} (h : Accounted w)
    (hmeant : w.Meant (headerAt pci.mmap).bmcFlags) :
    Accounted (w.updated pci) := by
  have hsame : ∀ {b f g : UInt32}, g &&& b = f &&& b → Flags.toggles b f g = 0 :=
    fun heq => Flags.toggles_same heq.symm
  have hcounts : ∀ f, w.Meant f →
      w.acknowledged + Flags.toggles BufferFlags.ueSwitch w.header.bmcFlags f ≤ w.handed.length ∧
      w.overflowAcks + Flags.toggles BufferFlags.overflow w.header.bmcFlags f ≤ w.reports ∧
      w.overflowAcks + Flags.toggles BufferFlags.overflow w.header.bmcFlags f ≤ w.detected + 1 := by
    intro f hf
    cases hf with
    | same =>
      rw [hsame rfl, hsame rfl]
      exact ⟨h.acknowledged, h.reported, h.detectedOnce⟩
    | ueSwitch hhanded =>
      rw [ueSwitch_isFlag.toggles_self, hsame (Flags.toggle_other rfl)]
      exact ⟨hhanded.ge, h.reported, h.detectedOnce⟩
    | overflow hreports hdetected =>
      rw [overflow_isFlag.toggles_self, hsame (Flags.toggle_other rfl)]
      exact ⟨h.acknowledged, hreports.ge, by rw [hdetected]⟩
    | ready =>
      rw [hsame (Flags.set_other rfl), hsame (Flags.set_other rfl)]
      exact ⟨h.acknowledged, h.reported, h.detectedOnce⟩
  obtain ⟨hacknowledged, hreported, hdetected⟩ := hcounts _ hmeant
  exact {
    handed := h.handed
    acknowledged := hacknowledged
    once := h.once.trans (Nat.add_le_add_right (Nat.le_add_right _ _) 1)
    reported := hreported
    detected := h.detected.trans (Nat.le_add_right _ _)
    detectedOnce := hdetected }

lemma decoded_cases (result : Except ε RdeDecodeStatus) :
    w.decoded result = w ∨ w.decoded result = { w with stopFlags := w.stopFlags + 1 } := by
  rcases result with e | status
  · exact Or.inl rfl
  · cases status <;> first | exact Or.inl rfl | exact Or.inr rfl

lemma Accounted.answers {w' : Handshake} {op : LoopOp ε} {ans : (LoopCalls ε).Ans op}
    (h : Accounted w) (hpermits : w.Permits cfg op) (ha : w.Answers cfg op ans w') :
    Accounted w' := by
  cases op with
  | data op =>
    obtain ⟨pci, hperform, rfl⟩ := ha
    obtain rfl : _ = pci := congrArg Prod.snd hperform
    exact h.updated hpermits
  | decodeRdeCommand source rdeCommand type =>
    cases source with
    | ueRegion =>
      obtain rfl : w' = _ := ha
      obtain ⟨hnext, hhanded⟩ := hpermits
      have hlength : (w.handed ++ [rdeCommand]).length = w.acknowledged + 1 := by
        rw [List.length_append, List.length_singleton, hhanded]
      exact { h with
        handed := hnext
        acknowledged := by
          rw [hlength]
          exact Nat.le_succ _
        once := hlength.le }
    | queue =>
      obtain rfl : w' = w.decoded ans := ha
      rcases decoded_cases ans with hans | hans
      · exact hans ▸ h
      · exact hans ▸ { h with }
  | print message =>
    obtain rfl : w' = w.printed message := ha
    cases message
    case overflowAcked =>
      have hdetected : w.overflowAcks = w.detected + 1 := hpermits rfl
      exact { h with
        detected := hdetected.ge
        detectedOnce := h.detectedOnce.trans (Nat.le_succ _) }
    case processingError => exact { h with }
    all_goals exact h
  | asyncWait =>
    obtain rfl : w' = w := ha
    exact h

lemma answers_threw {w' : Handshake} {op : LoopOp ε} {ans : (LoopCalls ε).Ans op}
    (ha : w.Answers cfg op ans w')
    (hthrew : w'.threw = false) : w.threw = false := by
  cases op with
  | data op =>
    obtain ⟨pci, -, rfl⟩ := ha
    exact hthrew
  | decodeRdeCommand source rdeCommand type =>
    cases source with
    | ueRegion =>
      obtain rfl : w' = _ := ha
      exact hthrew
    | queue =>
      obtain rfl : w' = w.decoded ans := ha
      rcases decoded_cases ans with hans | hans <;> rwa [hans] at hthrew
  | print message =>
    obtain rfl : w' = w.printed message := ha
    cases message
    case processingError => cases hthrew
    all_goals exact hthrew
  | asyncWait =>
    obtain rfl : w' = w := ha
    exact hthrew

theorem flags_handshake {pci : PciDataHandler} (hinit : Initialized cfg pci h)
    {s : Service.State (LoopCalls ε) Handshake CircularBufferHeader Empty Bool}
    (hrun : Service.Run (handshakes cfg ε) (readLoop cfg) waits ⟨.start pci, .idle h, []⟩ s)
    (hthrew : s.world.threw = false) :
    Accounted s.world ∧ (∀ op k, s.thread = .busy (.call op k) → s.world.Permits cfg op) ∧
      ∀ h', s.thread = .idle h' → Settled cfg s.world := by
  have hheader : (Handshake.start pci).header = initializedFromConfig cfg := hinit.header
  have hread : ¬ (Handshake.start pci).Unread := by
    rw [Handshake.Unread, hheader]
    change ¬ Flags.Differ BufferFlags.ueSwitch 0 0
    decide
  have hseen : ¬ (Handshake.start pci).Overflowed := by
    rw [Handshake.Overflowed, hheader]
    change ¬ Flags.Differ BufferFlags.overflow 0 0
    decide
  have hsettled : Settled cfg (.start pci) := {
    handed := List.prefix_refl _
    handedLength := rfl
    posted := by
      rw [if_neg hread]
      rfl
    ueLog := fun hunread => absurd hunread hread
    reports := by
      rw [if_neg hseen]
      rfl
    detected := rfl
    bmcFlags := by
      rw [hheader]
      simp only [Handshake.start, Nat.bodd_zero, lt_irrefl, decide_false]
      rfl
    ueRegionSize := by
      rw [hheader]
      rfl }
  have hkept : Kept Handshake.pci (Until cfg (Settled cfg)) h (.start pci) := by
    refine ⟨⟨hinit.region, ?_⟩, hinit.queueSize, fun _ => hsettled⟩
    change Coherent h (Handshake.start pci).header
    rw [hheader, hinit.cached]
    exact .refl _
  have hholds := handshake_loop.run_kept hrun hkept
  have haccounted : s.world.threw = false → Accounted s.world :=
    handshake_loop.run_world (J := fun w => w.threw = false → Accounted w)
      (fun w w' hw h hthrew => (h (hw.threw ▸ hthrew)).biosStep hw)
      (fun w op ans w' hp ha h hthrew => (h (answers_threw ha hthrew)).answers
        (hp (answers_threw ha hthrew)) ha)
      hrun hkept (fun _ =>
        ⟨List.prefix_refl _, le_rfl, Nat.zero_le _, le_rfl, le_rfl, Nat.zero_le _⟩)
  refine ⟨haccounted hthrew, ?_, ?_⟩
  · obtain ⟨w, thread, results⟩ := s
    rintro op k rfl
    exact (hholds w .refl).1 hthrew
  · obtain ⟨w, thread, results⟩ := s
    rintro h' rfl
    exact hholds.2.holds hthrew

/-! One iteration, after a UE log is posted and an overflow reported. -/

def Handshake.perform (cfg : Config) (w : Handshake) :
    (op : LoopOp Unit) → (LoopCalls Unit).Ans op × Handshake
  | .data op =>
    let (ans, pci) := w.pci.perform cfg.sizeT op
    (ans, w.updated pci)
  | .decodeRdeCommand .ueRegion rdeCommand _ =>
    (.ok .rdeOk, { w with handed := w.handed ++ [rdeCommand] })
  | .decodeRdeCommand .queue _ _ => (.ok .rdeOk, w)
  | .print message => ((), w.printed message)
  | .asyncWait => ((), w)

lemma handshakes_performs (w : Handshake) (op : LoopOp Unit) :
    (handshakes cfg Unit).answers w op (w.perform cfg op).1 (w.perform cfg op).2 := by
  cases op with
  | data op => exact ⟨_, rfl, rfl⟩
  | decodeRdeCommand source rdeCommand type => cases source <;> rfl
  | print message => rfl
  | asyncWait => rfl

def afterHandshake : (Except Empty Bool × CircularBufferHeader) × Handshake :=
  (readLoop ueConfig none (initializedFromConfig ueConfig)).run (Handshake.perform ueConfig)
    ((Handshake.start ueInitialized).postUeLog ueConfig).reportOverflow

theorem flags_handshake_once :
    ∃ w : Handshake, (w.handed.length = 1 ∧ w.detected = 1) ∧ Accounted w ∧
    Settled ueConfig w := by
  have hpost : BiosStep ueConfig (.start ueInitialized)
      ((Handshake.start ueInitialized).postUeLog ueConfig) :=
    .post (by decide +kernel)
  have hreport : BiosStep ueConfig ((Handshake.start ueInitialized).postUeLog ueConfig)
      ((Handshake.start ueInitialized).postUeLog ueConfig).reportOverflow :=
      .report (by decide +kernel)
  have hcounts : afterHandshake.2.threw = false ∧ afterHandshake.2.handed.length = 1 ∧
      afterHandshake.2.detected = 1 := by
    decide +kernel
  rcases hafter : afterHandshake with ⟨⟨r, h'⟩, w⟩
  rw [hafter] at hcounts
  have hrun : Service.Run (handshakes ueConfig Unit) (readLoop ueConfig) waits
      ⟨.start ueInitialized, .idle (initializedFromConfig ueConfig), []⟩ ⟨w, .idle h', [r]⟩ :=
    .head (.interfere hpost) (.head (.interfere hreport)
      (Service.run_once (i := none) handshakes_performs (by simp) hafter))
  obtain ⟨haccounted, -, hsettled⟩ := flags_handshake ueInitialized_initialized hrun hcounts.1
  exact ⟨w, hcounts.2, haccounted, hsettled h' rfl⟩

end SmmErrorLogger.ReadLoop
