import SmmErrorLogger.ReadLoop.Delivery

/-! What was posted before an iteration begins has been answered when it ends: the UE log is
acknowledged, the overflow is returned, and the entries are handed over. -/

namespace SmmErrorLogger.ReadLoop

open Buffer Buffer.SharedQueue Rde Library Library.Bytes Library.Interaction
open Library.Interaction.Proc

variable {S ε : Type} {cfg : Config} {n : ℕ} {w w' : Handshake} {h : CircularBufferHeader}

abbrev answered (cfg : Config) (ε : Type) : Environment (LoopCalls ε) Handshake :=
  (handshakes cfg ε).permitting fun _ _ => True

structure Grows (count : Handshake → ℕ) : Prop where
  bios : ∀ {cfg w w'}, BiosStep cfg w w' → count w ≤ count w'
  answers : ∀ {ε cfg w w'} {op : LoopOp ε} {ans : (LoopCalls ε).Ans op}, w.Answers cfg op ans w' →
    count w ≤ count w'

lemma answers_grow {op : LoopOp ε} {ans : (LoopCalls ε).Ans op} (ha : w.Answers cfg op ans w') :
    w.acknowledged ≤ w'.acknowledged ∧ w.detected ≤ w'.detected ∧ w.reports ≤ w'.reports := by
  cases op with
  | data op =>
    obtain ⟨pci, -, rfl⟩ := ha
    exact ⟨Nat.le_add_right _ _, le_rfl, le_rfl⟩
  | decodeRdeCommand source rdeCommand type =>
    cases source with
    | ueRegion =>
      obtain rfl : w' = _ := ha
      exact ⟨le_rfl, le_rfl, le_rfl⟩
    | queue =>
      obtain rfl : w' = w.decoded ans := ha
      rcases decoded_cases ans with hans | hans <;> rw [hans] <;> exact ⟨le_rfl, le_rfl, le_rfl⟩
  | print message =>
    obtain rfl : w' = w.printed message := ha
    cases message
    case overflowAcked => exact ⟨le_rfl, Nat.le_succ _, le_rfl⟩
    all_goals exact ⟨le_rfl, le_rfl, le_rfl⟩
  | asyncWait =>
    obtain rfl : w' = w := ha
    exact ⟨le_rfl, le_rfl, le_rfl⟩

lemma acknowledged_grows : Grows Handshake.acknowledged where
  bios h := by cases h <;> exact le_rfl
  answers ha := (answers_grow ha).1

lemma detected_grows : Grows Handshake.detected where
  bios h := by cases h <;> exact le_rfl
  answers ha := (answers_grow ha).2.1

lemma reports_grow : Grows Handshake.reports where
  bios h := by
    cases h with
    | report => exact Nat.le_succ _
    | _ => exact le_rfl
  answers ha := (answers_grow ha).2.2

def Done (count : Handshake → ℕ) (n : ℕ) (w : Handshake) : Prop := w.threw = false → n ≤ count w

variable {count : Handshake → ℕ}

lemma Grows.done_stable (hgrows : Grows count) : (answered cfg ε).Stable (Done count n) :=
  fun _ _ hw hd hthrew => (hd (hw.threw ▸ hthrew)).trans (hgrows.bios hw)

lemma Grows.ensures (hgrows : Grows count) (hw : Done count n w) {α : Type}
    (p : Prog (LoopCalls ε) α) :
    p.Ensures (answered cfg ε) (fun _ => Done count n) w := by
  refine Prog.ensures_of_invariant hgrows.done_stable
    (fun w op hd => ⟨trivial, fun ans w' ha hthrew => ?_⟩) p hw
  exact (hd (answers_threw ha hthrew)).trans (hgrows.answers ha)

lemma Grows.process (hgrows : Grows count) (hw : Done count n w) {α ε' : Type}
    (p : Proc (LoopCalls ε) CircularBufferHeader ε' α) :
    p.Ensures (answered cfg ε) (fun _ _ => Done count n) (fun _ _ => Done count n) h w :=
  (hgrows.ensures hw (p h)).mono fun _ _ hd => ends_same.mpr hd

lemma answered_shared {P : Handshake → Prop} (hP : Lasting cfg P) :
    SharedRegion cfg.sizeT ((answered cfg ε).restrict dataCalls) Handshake.pci (Until cfg P) :=
  have R : SharedRegion cfg.sizeT ((handshakes cfg ε).restrict dataCalls) Handshake.pci
      (Until cfg P) :=
    handshakes_shared hP
  { interferes := R.interferes
    answers := R.answers
    stable := R.stable
    read := fun off len hk => ⟨trivial, (R.read off len hk).2⟩
    readPtr := fun p hk => ⟨trivial, (R.readPtr p hk).2⟩ }

structure Waiting (cfg : Config) (n : ℕ) (w : Handshake) : Prop where
  unread : w.Unread
  acknowledged : w.acknowledged + 1 = n
  ueRegionSize : w.header.ueRegionSize = (UInt16.ofNat cfg.ueRegionSize).toNat

lemma waiting_lasting : Lasting cfg (Waiting cfg n) where
  unchanged hsame h :=
    ⟨hsame.unread.mpr h.unread, h.acknowledged, hsame.ueRegionSize.trans h.ueRegionSize⟩
  post hunread h := absurd h.unread hunread
  report _ h := ⟨Handshake.unread_reportOverflow.mpr h.unread, h.acknowledged,
    biosToggles_ueRegionSize.trans h.ueRegionSize⟩

lemma readUeLog_waiting (hue : (UInt16.ofNat cfg.ueRegionSize).toNat ≠ 0)
    (hk : Kept Handshake.pci (Until cfg (Waiting cfg n)) h w) :
    (buffer readUeLogFromReservedRegion : LoopM ε (List UInt8)).Ensures (answered cfg ε)
      (fun ueLog h' w' => Kept Handshake.pci (Until cfg (Waiting cfg n)) h' w' ∧
        (w'.threw = false → ueLog ≠ []))
      (fun _ _ _ => True) h w := by
  have R : SharedRegion cfg.sizeT ((answered cfg ε).restrict dataCalls) Handshake.pci
      (Until cfg (Waiting cfg n)) :=
    answered_shared waiting_lasting
  have hbios : ∀ {w w'}, ((answered cfg ε).restrict dataCalls).Later w w' → w'.threw = w.threw := by
    intro w w' hw
    induction hw with
    | refl => rfl
    | tail _ hs ih => exact hs.threw.trans ih
  have hdone : ∀ {h₁ w₁}, Kept Handshake.pci (Until cfg (Waiting cfg n)) h₁ w₁ →
    (w₁.threw = false → False) → ∀ w₂, ((answered cfg ε).restrict dataCalls).Later w₁ w₂ →
        Kept Handshake.pci (Until cfg (Waiting cfg n)) h₁ w₂ ∧
        (w₂.threw = false → ([] : List UInt8) ≠ []) :=
    fun hk₁ hfalse w₂ hw₂ =>
      ⟨(R.kept_stable _).later hw₂ hk₁, fun hthrew => (hfalse (hbios hw₂ ▸ hthrew)).elim⟩
  rw [buffer_ensures, readUeLogFromReservedRegion, ensures_bind]
  refine (R.readBufferHeader_reads (Q := fun h' w' => w'.threw = false →
    Flags.Differ BufferFlags.ueSwitch h'.biosFlags h'.bmcFlags) ?_ ?_ hk).mono ?_
    (fun _ _ _ hf => hf.elim)
  · exact fun h' w₁ w₂ hw hd hthrew => hd (hw.threw ▸ hthrew)
  · rintro w₁ hk₁ bytes w₂ ⟨_, ⟨pci, hperform, rfl⟩, rfl⟩ hthrew
    exact (hk₁.holds hthrew).unread
  rintro - h₁ w₁ ⟨hk₁, hdiffer⟩
  rw [ensures_fetch_bind]
  have hcached : h₁.ueRegionSize = w₁.header.ueRegionSize := hk₁.1.coherent.ueRegionSize
  by_cases hsize : h₁.ueRegionSize = 0
  · rw [if_pos hsize]
    exact hdone hk₁ fun hthrew =>
      hue ((hk₁.2.holds hthrew).ueRegionSize.symm.trans (hcached.symm.trans hsize))
  rw [if_neg hsize]
  by_cases hsame : (h₁.biosFlags ^^^ h₁.bmcFlags) &&& BufferFlags.ueSwitch = 0
  · rw [if_pos hsame]
    exact hdone hk₁ fun hthrew => hdiffer hthrew hsame
  rw [if_neg hsame, DataInterface.read_then]
  intro w₂ hw₂
  have hk₂ := (R.kept_stable h₁).later hw₂ hk₁
  refine ⟨trivial, fun bytes w₃ ha => ?_⟩
  have hk₃ := (R.read _ _ hk₂.2).2 bytes w₃ ha
  have hc₃ : Cached h₁ w₃.pci := (R.read_answer ha).2.symm ▸ hk₂.1
  by_cases hlength : bytes.length = h₁.ueRegionSize
  · rw [if_pos hlength]
    refine fun w₄ hw₄ => ⟨(R.kept_stable h₁).later hw₄ ⟨hc₃, hk₃⟩, fun _ hnil => hsize ?_⟩
    rw [← hlength, hnil]
    rfl
  · rw [if_neg hlength]
    exact fun _ _ => trivial

lemma print_waits {message : Message ε} (hprinted : ∀ w : Handshake, w.printed message = w)
    {P : Handshake → Prop}
    (hP : Lasting cfg P) (hk : Kept Handshake.pci (Until cfg P) h w) {ε' : Type}
    {X : ε' → CircularBufferHeader → Handshake → Prop} :
    (print message : Proc (LoopCalls ε) CircularBufferHeader ε' Unit).Ensures (answered cfg ε)
      (fun _ => Kept Handshake.pci (Until cfg P)) X h w := by
  have hstable : (answered cfg ε).Stable (Kept Handshake.pci (Until cfg P) h) :=
    until_kept_stable (ε := ε) hP h
  intro w₁ hw₁
  refine ⟨trivial, ?_⟩
  rintro ans _ rfl w₂ hw₂
  rw [hprinted] at hw₂
  exact hstable.later hw₂ (hstable.later hw₁ hk)

lemma acknowledge_waiting (hk : Kept Handshake.pci (Until cfg (Waiting cfg n)) h w) :
    (buffer (updateBmcFlags (h.bmcFlags ^^^ BufferFlags.ueSwitch)) : LoopM ε Unit).Ensures
      (answered cfg ε) (fun _ _ => Done Handshake.acknowledged n) (fun _ _ _ => True) h w := by
  have R : SharedRegion cfg.sizeT ((answered cfg ε).restrict dataCalls) Handshake.pci
      (Until cfg (Waiting cfg n)) :=
    answered_shared waiting_lasting
  have hdone : (answered cfg ε).Stable (Done Handshake.acknowledged n) :=
    acknowledged_grows.done_stable
  refine buffer_ensures.mpr ((R.updateBmcFlags_ensures hdone (fun w₁ hk₁ => ⟨trivial, ?_⟩) hk).mono
    (fun _ _ _ hk' => hk'.2) (fun _ _ _ _ => trivial))
  have hflags : w₁.header.bmcFlags = h.bmcFlags := hk₁.1.coherent.bmcFlags.symm
  have hwrite := write_flags cfg hk₁.1 (h.bmcFlags ^^^ BufferFlags.ueSwitch)
  rintro written w₂ ⟨_, ⟨pci, hperform, rfl⟩, rfl⟩ hthrew
  obtain rfl : (w₁.withFlags (h.bmcFlags ^^^ BufferFlags.ueSwitch)).pci = pci :=
    congrArg Prod.snd (hwrite.symm.trans hperform)
  have hacknowledged := withFlags_acknowledged (w := w₁) (h.bmcFlags ^^^ BufferFlags.ueSwitch)
  rw [hflags, ueSwitch_isFlag.toggles_self, (hk₁.2.holds hthrew).acknowledged] at hacknowledged
  exact hacknowledged.ge

lemma processUeLog_waiting (hue : (UInt16.ofNat cfg.ueRegionSize).toNat ≠ 0)
    (hk : Kept Handshake.pci (Until cfg (Waiting cfg n)) h w) :
    (processUeLog : LoopM ε Unit).Ensures (answered cfg ε)
      (fun _ _ => Done Handshake.acknowledged n)
      (fun _ _ _ => True) h w := by
  have hdone : (answered cfg ε).Stable (Done Handshake.acknowledged n) :=
    acknowledged_grows.done_stable
  have hstable : ∀ h, (answered cfg ε).Stable (Kept Handshake.pci (Until cfg (Waiting cfg n)) h) :=
    until_kept_stable (ε := ε) waiting_lasting
  rw [processUeLog, ensures_bind]
  refine (readUeLog_waiting hue hk).mono (fun ueLog h₁ w₁ hk₁ => ?_) (fun _ _ _ hX => hX)
  obtain ⟨hk₁, hnonempty⟩ := hk₁
  by_cases hne : ueLog ≠ []
  case neg =>
    rw [if_neg hne]
    exact fun w₂ hw₂ => hdone.later hw₂ fun hthrew => absurd (hnonempty hthrew) hne
  rw [if_pos hne, ensures_bind]
  refine (print_waits (fun _ => rfl) waiting_lasting hk₁).mono (fun _ h₂ w₂ hk₂ => ?_)
    (fun _ _ _ hX => hX)
  refine decodeRdeCommand_then fun w₃ hw₃ => ⟨trivial, fun _ _ _ _ _ => trivial, ?_⟩
  have hk₃ := (hstable h₂).later hw₃ hk₂
  rintro status _ rfl
  have hk₄ : Kept Handshake.pci
      (Until cfg (Waiting cfg n)) h₂ { w₃ with handed := w₃.handed ++ [ueLog] } :=
    ⟨hk₃.1, hk₃.2.fits, fun hthrew => { hk₃.2.holds hthrew with }⟩
  refine ensures_raiseIf_bind.mpr ⟨fun _ _ _ => trivial, fun _ => ?_⟩
  rw [ensures_bind]
  refine (print_waits (fun _ => rfl) waiting_lasting hk₄).mono (fun _ h₅ w₅ hk₅ => ?_)
    (fun _ _ _ hX => hX)
  rw [ensures_fetch_bind]
  exact acknowledge_waiting hk₅

structure Reported (n : ℕ) (w : Handshake) : Prop where
  overflowed : w.Overflowed
  detected : w.detected + 1 = n

lemma reported_lasting : Lasting cfg (Reported n) where
  unchanged hsame h := ⟨hsame.overflowed.mpr h.overflowed, h.detected⟩
  post _ h := ⟨Handshake.overflowed_postUeLog.mpr h.overflowed, h.detected⟩
  report hoverflowed h := absurd h.overflowed hoverflowed

def Seen (n : ℕ) (overflow : Bool) (w : Handshake) : Prop :=
  w.threw = false → overflow = true ∧ w.detected + 1 = n

lemma seen_stable {overflow : Bool} : (answered cfg ε).Stable (Seen n overflow) := by
  intro w w' hw hs hthrew
  have hdetected : w'.detected = w.detected := by cases hw <;> rfl
  rw [hdetected]
  exact hs (hw.threw ▸ hthrew)

lemma check_seen (hk : Kept Handshake.pci (Until cfg (Reported n)) h w) :
    (buffer checkForOverflowAndAcknowledge : LoopM ε Bool).Ensures (answered cfg ε)
      (fun overflow _ => Seen n overflow)
      (fun _ _ _ => True) h w := by
  have R : SharedRegion cfg.sizeT ((answered cfg ε).restrict dataCalls) Handshake.pci
      (Until cfg (Reported n)) :=
    answered_shared reported_lasting
  have hstable : ∀ overflow, ((answered cfg ε).restrict dataCalls).Stable (Seen n overflow) :=
    fun _ => seen_stable (ε := ε)
  rw [buffer_ensures, checkForOverflowAndAcknowledge, ensures_bind]
  refine (R.readBufferHeader_reads (Q := fun h' w' => w'.threw = false →
    Flags.Differ BufferFlags.overflow h'.biosFlags h'.bmcFlags) ?_ ?_ hk).mono ?_
    (fun _ _ _ hf => hf.elim)
  · exact fun h' w₁ w₂ hw hd hthrew => hd (hw.threw ▸ hthrew)
  · rintro w₁ hk₁ bytes w₂ ⟨_, ⟨pci, hperform, rfl⟩, rfl⟩ hthrew
    exact (hk₁.holds hthrew).overflowed
  rintro - h₁ w₁ ⟨hk₁, hdiffer⟩
  rw [ensures_fetch_bind]
  by_cases hflag : (h₁.biosFlags ^^^ h₁.bmcFlags) &&& BufferFlags.overflow ≠ 0
  case neg =>
    rw [if_neg hflag]
    exact fun w₂ hw₂ => (hstable false).later hw₂ fun hthrew => absurd (hdiffer hthrew) hflag
  rw [if_pos hflag, ensures_bind]
  refine (R.updateBmcFlags_ensures (hstable true) (fun w₂ hk₂ => ⟨trivial, ?_⟩) hk₁).mono
    (fun _ _ _ hk₃ _ hw₃ => (hstable true).later hw₃ hk₃.2) (fun _ _ _ _ => trivial)
  rintro written w₃ ⟨_, ⟨pci, hperform, rfl⟩, rfl⟩ hthrew
  exact ⟨rfl, (hk₂.2.holds hthrew).detected⟩

lemma warnOfOverflow_reported (hk : Kept Handshake.pci (Until cfg (Reported n)) h w) :
    (warnOfOverflow : LoopM ε Unit).Ensures (answered cfg ε) (fun _ _ => Done Handshake.detected n)
      (fun _ _ _ => True) h w := by
  have hstable : (answered cfg ε).Stable (Done Handshake.detected n) := detected_grows.done_stable
  rw [warnOfOverflow, ensures_bind]
  refine (check_seen hk).mono (fun overflow h₁ w₁ hs => ?_) (fun _ _ _ hX => hX)
  cases overflow with
  | false => exact fun w₂ hw₂ => hstable.later hw₂ fun hthrew => absurd (hs hthrew).1 (by decide)
  | true =>
    intro w₂ hw₂
    refine ⟨trivial, ?_⟩
    rintro ans _ rfl w₃ hw₃
    have hs₂ : Seen n true w₂ := seen_stable.later hw₂ hs
    exact hstable.later hw₃ fun hthrew => (hs₂ hthrew).2.ge

lemma settled_waiting (hk : Kept Handshake.pci (Until cfg (Settled cfg)) h w)
    (hn : n ≤ w.posted.length)
    (hdone : ¬ Done Handshake.acknowledged n w) :
    Kept Handshake.pci (Until cfg (Waiting cfg n)) h w := by
  obtain ⟨hthrew, hbehind⟩ := Classical.not_imp.mp hdone
  refine ⟨hk.1, hk.2.fits, fun _ => ?_⟩
  have hsettled := hk.2.holds hthrew
  have hposted := hsettled.posted
  by_cases hunread : w.Unread
  · rw [if_pos hunread] at hposted
    exact ⟨hunread, by omega, hsettled.ueRegionSize⟩
  · rw [if_neg hunread] at hposted
    omega

lemma settled_reported (hk : Kept Handshake.pci (Until cfg (Settled cfg)) h w)
    (hn : Done Handshake.reports n w)
    (hdone : ¬ Done Handshake.detected n w) : Kept Handshake.pci (Until cfg (Reported n)) h w := by
  obtain ⟨hthrew, hbehind⟩ := Classical.not_imp.mp hdone
  refine ⟨hk.1, hk.2.fits, fun _ => ?_⟩
  have hsettled := hk.2.holds hthrew
  have hn := hn hthrew
  have hreports := hsettled.reports
  have hdetected := hsettled.detected
  by_cases hoverflowed : w.Overflowed
  · rw [if_pos hoverflowed] at hreports
    exact ⟨hoverflowed, by omega⟩
  · rw [if_neg hoverflowed] at hreports
    omega

lemma processLogs_acknowledges (hue : (UInt16.ofNat cfg.ueRegionSize).toNat ≠ 0)
    (hk : Kept Handshake.pci (Until cfg (Settled cfg)) h w) (hn : n ≤ w.posted.length) :
    (processLogs cfg : LoopM ε Unit).Ensures (answered cfg ε)
      (fun _ _ => Done Handshake.acknowledged n)
      (fun _ _ _ => True) h w := by
  by_cases hdone : Done Handshake.acknowledged n w
  · exact (acknowledged_grows.process hdone _).mono (fun _ _ _ hd => hd) (fun _ _ _ _ => trivial)
  rw [processLogs, ensures_bind]
  refine (processUeLog_waiting hue (settled_waiting hk hn hdone)).mono (fun _ h₁ w₁ hd₁ => ?_)
    (fun _ _ _ hX => hX)
  exact (acknowledged_grows.process hd₁ _).mono (fun _ _ _ hd => hd) (fun _ _ _ _ => trivial)

lemma processLogs_detects (hk : Kept Handshake.pci (Until cfg (Settled cfg)) h w)
    (hn : Done Handshake.reports n w) :
    (processLogs cfg : LoopM ε Unit).Ensures (answered cfg ε) (fun _ _ => Done Handshake.detected n)
      (fun _ _ _ => True) h w := by
  have hreports : (processUeLog (ε := ε) h).Ensures (answered cfg ε)
      (fun _ => Done Handshake.reports n) w :=
    reports_grow.ensures hn _
  have hsettles : (processUeLog : LoopM ε Unit).Ensures (answered cfg ε)
      (fun _ => Kept Handshake.pci (Until cfg (Settled cfg))) (fun _ _ _ => True) h w :=
    ((processUeLog_settles h w hk).mono (fun _ _ _ hk' => hk') (fun _ _ _ _ => trivial)).refines
      (fun _ _ hi => hi) (fun _ _ _ => trivial) (fun _ _ _ _ ha => ha)
  rw [processLogs, ensures_bind]
  refine Prog.Ensures.mono (Prog.Ensures.and hsettles hreports) ?_
  rintro ⟨e | _, h₁⟩ w₁ ⟨hk₁, hn₁⟩
  · trivial
  change Proc.Ensures _ _ _ _ h₁ w₁
  by_cases hdone : Done Handshake.detected n w₁
  · exact (detected_grows.process hdone _).mono (fun _ _ _ hd => hd) (fun _ _ _ _ => trivial)
  rw [ensures_bind]
  refine (warnOfOverflow_reported (settled_reported hk₁ hn₁ hdone)).mono (fun _ h₂ w₂ hd₂ => ?_)
    (fun _ _ _ hX => hX)
  exact (detected_grows.process hd₂ _).mono (fun _ _ _ hd => hd) (fun _ _ _ _ => trivial)

lemma Grows.loop (hgrows : Grows count)
    (hlogs : (processLogs cfg : LoopM ε Unit).Ensures (answered cfg ε)
      (fun _ _ => Done count n) (fun _ _ _ => True) h w) :
    (readLoop cfg none h).Ensures (answered cfg ε) (fun _ => Done count n) w := by
  have hens : (readLoop cfg none : Proc (LoopCalls ε) CircularBufferHeader Empty Bool).Ensures
      (answered cfg ε) (fun _ _ => Done count n) (fun _ _ => Done count n) h w := by
    rw [readLoop, ensures_bind, ensures_tryCatch, ensures_bind]
    refine hlogs.mono (fun _ h₁ w₁ hd₁ w₂ hw₂ => ?_) (fun e h₁ w₁ _ => ?_)
    · exact hgrows.process (hgrows.done_stable.later hw₂ hd₁) _
    · rw [reinitializeBuffer, print_then]
      refine fun w₂ _ => ⟨trivial, ?_⟩
      rintro ans _ rfl
      have hthrown : Done count n (w₂.printed (.processingError e)) :=
        fun hthrew => absurd hthrew (by simp [Handshake.printed])
      exact (hgrows.process hthrown _).mono (fun goesOn _ _ hd => hgrows.process hd _)
        (fun _ _ _ hd => hd)
  exact Prog.Ensures.mono hens fun _ _ hd => ends_same.mp hd

theorem readLoop_answers (hue : (UInt16.ofNat cfg.ueRegionSize).toNat ≠ 0)
    (hk : Kept Handshake.pci (Until cfg (Settled cfg)) h w) :
    (readLoop cfg none h).Ensures (handshakes cfg ε)
      (fun _ w' => Done Handshake.acknowledged w.posted.length w' ∧
        Done Handshake.detected w.reports w') w := by
  have hkept : (readLoop cfg none h).Ensures (handshakes cfg ε) (fun _ _ => True) w :=
    Prog.Ensures.mono (handshake_loop.readLoop_keeps none h w hk) fun _ _ _ => trivial
  have hdone : (readLoop cfg none h).Ensures (answered cfg ε)
      (fun _ w' => Done Handshake.acknowledged w.posted.length w' ∧
        Done Handshake.detected w.reports w') w :=
    Prog.Ensures.and (acknowledged_grows.loop (processLogs_acknowledges hue hk le_rfl))
      (detected_grows.loop (processLogs_detects hk fun _ => le_rfl))
  exact (Prog.Ensures.both (E := handshakes cfg ε) (P := (handshakes cfg ε).permits)
    (fun _ _ hp _ => hp) hkept hdone).mono fun _ _ hd => hd.2

section Runs

variable {decoder : BejDecoder} {storer : ExternalStorerInterface S ε} {v₁ v v' : Pipeline S}

structure Since (v₁ v : Pipeline S) : Prop where
  published : v₁.published <+: v.published
  posted : v₁.handshake.posted <+: v.handshake.posted
  reports : v₁.handshake.reports ≤ v.handshake.reports

lemma BiosStep.posted (h : BiosStep cfg w w') : w.posted <+: w'.posted := by
  cases h with
  | write => exact List.prefix_rfl
  | post => exact List.prefix_append _ _
  | report => exact List.prefix_rfl

lemma answers_posted {op : LoopOp ε} {ans : (LoopCalls ε).Ans op} (ha : w.Answers cfg op ans w') :
    w'.posted = w.posted := by
  cases op with
  | data op =>
    obtain ⟨pci, -, rfl⟩ := ha
    rfl
  | decodeRdeCommand source rdeCommand type =>
    cases source with
    | ueRegion =>
      obtain rfl : w' = _ := ha
      rfl
    | queue =>
      obtain rfl : w' = w.decoded ans := ha
      rcases decoded_cases ans with hans | hans <;> rw [hans]
  | print message =>
    obtain rfl : w' = w.printed message := ha
    cases message <;> rfl
  | asyncWait =>
    obtain rfl : w' = w := ha
    rfl

lemma Since.interferes (hfit : cfg.Fits) (h : Since v₁ v) (hw : BiosActs cfg v v') :
    Since v₁ v' where
  published := h.published.trans (BiosActs.goesOn hfit hw).published
  posted := h.posted.trans hw.biosStep.posted
  reports := h.reports.trans (reports_grow.bios hw.biosStep)

lemma Pipeline.Answers.published {op : LoopOp ε} {ans : (LoopCalls ε).Ans op}
    (ha : v.Answers cfg decoder storer op ans v') : v'.published = v.published := by
  cases op with
  | data op =>
    obtain ⟨-, hqueue, -⟩ := ha
    exact (congrArg (fun r => r.2.published) hqueue).symm
  | decodeRdeCommand =>
    obtain ⟨_, _, _, -, -, -, rfl⟩ := ha
    rfl
  | print =>
    obtain ⟨_, -, rfl⟩ := ha
    rfl
  | asyncWait =>
    obtain ⟨_, -, rfl⟩ := ha
    rfl

lemma Since.answers {op : LoopOp ε} {ans : (LoopCalls ε).Ans op} (h : Since v₁ v)
    (ha : v.Answers cfg decoder storer op ans v') : Since v₁ v' where
  published := ha.published ▸ h.published
  posted := (answers_posted ha.handshake) ▸ h.posted
  reports := h.reports.trans (reports_grow.answers ha.handshake)

structure CaughtUp (v₁ v : Pipeline S) : Prop where
  entries : v₁.published.map entryCommand <+: v.received
  ueLogs : v₁.handshake.posted.length ≤ v.handshake.acknowledged
  overflows : v₁.handshake.reports ≤ v.handshake.detected

def Caught (v₁ v : Pipeline S) : Prop := v.handshake.threw = false → CaughtUp v₁ v

lemma caught_stable : (pipeline cfg decoder storer).Stable (Caught v₁) := by
  intro v v' hw hc hthrew
  obtain ⟨hentries, hueLogs, hoverflows⟩ := hc (hw.biosStep.threw ▸ hthrew)
  refine ⟨(received_congr hw.commands).symm ▸ hentries, ?_, ?_⟩
  · exact hueLogs.trans (acknowledged_grows.bios hw.biosStep)
  · exact hoverflows.trans (detected_grows.bios hw.biosStep)

lemma since_ensures (hfit : cfg.Fits) {α : Type} (p : Prog (LoopCalls ε) α) (hs : Since v₁ v) :
    p.Ensures ((pipeline cfg decoder storer).permitting fun _ _ => True) (fun _ => Since v₁) v :=
  Prog.ensures_of_invariant (fun _ _ hw hs => hs.interferes hfit hw)
    (fun _ _ hs => ⟨trivial, fun _ _ ha => hs.answers ha⟩) p hs

theorem readLoop_catches (hfit : cfg.Fits) (hue : (UInt16.ofNat cfg.ueRegionSize).toNat ≠ 0)
    (hr : Resting cfg h v) :
    (readLoop cfg none h).Ensures (pipeline cfg decoder storer) (fun _ v' => Caught v v') v := by
  have hflags : (readLoop cfg none h).Ensures
    ((pipeline cfg decoder storer).permitting (flagsPermitted cfg))
      (fun _ v' => Done Handshake.acknowledged v.handshake.posted.length v'.handshake ∧
        Done Handshake.detected v.handshake.reports v'.handshake) v :=
    pipeline_view.ensures (readLoop_answers hue hr.settled)
  have hturns : (readLoop cfg none h).Ensures (turns cfg decoder storer)
      (fun _ v' => Served cfg v.published v.published v') v :=
    Prog.Ensures.mono (readLoop_served hfit hr.served.published h) fun _ _ hends =>
      ends_same.mp hends
  refine (pipeline_ensures (readLoop_requests none) hflags hturns).mono ?_
  rintro _ v' ⟨⟨hacknowledged, hdetected⟩, hserved⟩ hthrew
  obtain ⟨c, hc⟩ := hserved hthrew
  refine ⟨?_, hacknowledged hthrew, hdetected hthrew⟩
  have hcovered := hc.covered
  rw [List.append_nil] at hcovered
  exact hc.received ▸ hcovered.map entryCommand

structure RestingSince (cfg : Config) (v₁ : Pipeline S) (n : ℕ) (h : CircularBufferHeader)
    (v : Pipeline S) (results : List (Except Empty Bool)) : Prop where
  resting : Resting cfg h v
  since : Since v₁ v
  caught : n < results.length → (∀ r ∈ results, waits r) → Caught v₁ v

lemma restingSince_stable (hfit : cfg.Fits) {results : List (Except Empty Bool)}
    (hw : (pipeline cfg decoder storer).interferes v v') (hr : RestingSince cfg v₁ n h v results) :
    RestingSince cfg v₁ n h v' results where
  resting := resting_stable hfit h _ _ hw hr.resting
  since := hr.since.interferes hfit hw
  caught hlonger hgoes := caught_stable _ _ hw (hr.caught hlonger hgoes)

lemma CaughtUp.before (hs : Since v₁ v) (hc : CaughtUp v v') : CaughtUp v₁ v' where
  entries := (hs.published.map entryCommand).trans hc.entries
  ueLogs := hs.posted.length_le.trans hc.ueLogs
  overflows := hs.reports.trans hc.overflows

lemma readLoop_catchesOrEnds (hfit : cfg.Fits) (hue : (UInt16.ofNat cfg.ueRegionSize).toNat ≠ 0)
    (hr : Resting cfg h v)
    (error : Option String) : (readLoop cfg error h).Ensures (pipeline cfg decoder storer)
      (fun r v' => Resting cfg r.2 v' ∧ (waits r.1 → Caught v v')) v := by
  apply Prog.Ensures.and (readLoop_rests hfit hr error)
  cases error with
  | none => exact (readLoop_catches hfit hue hr).mono fun _ _ hc _ => hc
  | some error =>
    intro v₁ _
    refine ⟨(readLoop_rests (ε := ε) hfit hr (some error) v₁ ‹_›).1, fun _ _ _ _ _ hgoes => ?_⟩
    exact absurd hgoes Bool.false_ne_true

lemma readLoop_restsSince (hfit : cfg.Fits) (hue : (UInt16.ofNat cfg.ueRegionSize).toNat ≠ 0)
    {results : List (Except Empty Bool)} (hr : RestingSince cfg v₁ n h v results)
    (error : Option String) :
    (readLoop cfg error h).Ensures (pipeline cfg decoder storer)
      (fun r v' => RestingSince cfg v₁ n r.2 v' (results ++ [r.1])) v := by
  have hends : (readLoop cfg error h).Ensures (pipeline cfg decoder storer) (fun r v' =>
      Resting cfg r.2 v' ∧ (waits r.1 → Caught v v')) v :=
        readLoop_catchesOrEnds hfit hue hr.resting error
  refine (Prog.Ensures.both (E := pipeline cfg decoder storer)
    (P := (pipeline cfg decoder storer).permits)
    (fun _ _ hp _ => hp) hends (since_ensures hfit _ hr.since)).mono ?_
  rintro r v' ⟨⟨hresting, hcaught⟩, hsince⟩
  refine ⟨hresting, hsince, fun _ hgoes hthrew => ?_⟩
  exact CaughtUp.before hr.since (hcaught (hgoes r.1 (by simp)) hthrew)

theorem readLoop_catches_up (hsize : cfg.queueOffset ≤ cfg.queueRegionSize)
    (hlt : cfg.queueRegionSize ≤ 65535)
    (hue : 0 < cfg.ueRegionSize) {pci : PciDataHandler} {handler : RdeCommandHandler S}
    (hinit : Initialized cfg pci h)
    {s₁ s₂ : PipelineState S ε} {h₁ h₂ : CircularBufferHeader}
    (hrun₁ : Service.Run (pipeline cfg decoder storer) (readLoop cfg) waits
      ⟨.start pci handler, .idle h, []⟩ s₁)
    (hidle₁ : s₁.thread = .idle h₁)
    (hrun₂ : Service.Run (pipeline cfg decoder storer) (readLoop cfg) waits s₁ s₂)
    (hidle₂ : s₂.thread = .idle h₂) (hiteration : s₁.results.length < s₂.results.length)
    (hgoes : ∀ r ∈ s₂.results, waits r) (hthrew : s₂.world.handshake.threw = false) :
    CaughtUp s₁.world s₂.world ∧ s₁.world.handshake.posted <+: s₂.world.handshake.handed := by
  have hfit : cfg.Fits := ⟨hsize, by omega⟩
  have hregion : (UInt16.ofNat cfg.ueRegionSize).toNat ≠ 0 := by
    simp only [Config.queueOffset] at hsize
    rw [UInt16.toNat_ofNat', Nat.mod_eq_of_lt (by omega)]
    omega
  have hresting := run_rests hfit hrun₁ (start_rests hsize (by omega) hinit handler)
  obtain ⟨v₁, thread₁, results₁⟩ := s₁
  obtain rfl : thread₁ = .idle h₁ := hidle₁
  have hstart : RestingSince cfg v₁ results₁.length h₁ v₁ results₁ :=
    ⟨hresting, ⟨List.prefix_rfl, List.prefix_rfl, le_rfl⟩,
      fun hlonger => absurd hlonger (lt_irrefl _)⟩
  have hholds :=
    Service.run_holds (I := fun v h results => RestingSince cfg v₁ results₁.length h v results)
    (fun _ _ _ _ hw hr => restingSince_stable hfit hw hr)
    (fun error _ _ _ _ hr => readLoop_restsSince hfit hregion hr error) hrun₂ hstart
  obtain ⟨v₂, thread₂, results₂⟩ := s₂
  obtain rfl : thread₂ = .idle h₂ := hidle₂
  have hcaught := hholds.caught hiteration hgoes hthrew
  refine ⟨hcaught, List.prefix_of_prefix_length_le hholds.since.posted
    (hholds.resting.settled.2.holds hthrew).handed ?_⟩
  exact hcaught.ueLogs.trans_eq (hholds.resting.settled.2.holds hthrew).handedLength.symm

end Runs

theorem readLoop_catches_up_busy :
    busyAgain.published = [dictionaryEntry, requestEntry, lastEntry] ∧
    busyAgain.handshake.posted.length = 1 ∧ busyAgain.handshake.reports = 1 ∧ ∃ v : Pipeline Unit,
      CaughtUp busyAgain v ∧ busyAgain.handshake.posted <+: v.handshake.handed := by
  have hgoes : servedAgain.1.1.toOption = some true ∧ servedAgain.2.handshake.threw = false := by
    decide +kernel
  have hrun : BusyRun _ _ := servedAgain_run servedOnce_waits
  refine ⟨by decide +kernel, by decide +kernel, by decide +kernel, ?_⟩
  generalize servedAgain = served at hgoes hrun
  have hwaits : ∀ r ∈ [servedOnce.1.1] ++ [served.1.1], waits r := by
    intro r hr
    rcases List.mem_append.mp hr with hr | hr
    · exact servedOnce_waits r hr
    · rw [List.mem_singleton.mp hr]
      exact waits_of_toOption hgoes.1
  have hcaught := readLoop_catches_up (by decide) (by decide) (by decide) busyRegion_initialized
    busyAgain_run rfl hrun
    rfl (by simp) hwaits hgoes.2
  exact ⟨served.2, hcaught⟩

end SmmErrorLogger.ReadLoop
