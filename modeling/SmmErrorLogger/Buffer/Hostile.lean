import SmmErrorLogger.Buffer.EntryCalls
import SmmErrorLogger.Buffer.ErrorLogs
import SmmErrorLogger.Buffer.Initialization

namespace SmmErrorLogger.Buffer

open Library.Bytes Library.Interaction
open Library.Interaction.Proc

variable {cfg : Config}

def InQueue (cfg : Config) : DataOp → Prop
  | .read offset length => cfg.queueOffset ≤ offset ∧ offset + length ≤ cfg.queueRegionSize
  | .write offset bytes => offset = CircularBufferHeader.bmcReadPtrOffset ∧
      ∃ p ≤ cfg.maxOffset, bytes = littleEndian 3 p
  | .getMemoryRegionSize => False

def Harmless (cfg : Config) (op : DataOp) : Prop :=
  op = .read 0 CircularBufferHeader.size ∨ InQueue cfg op

def InRange (cfg : Config) (h : CircularBufferHeader) : Prop :=
  Geometry cfg h ∧ h.bmcReadPtr ≤ cfg.maxOffset

structure QueueAccess (cfg : Config) {W : Type} (E : Environment DataInterface W) (K : W → Prop) :
    Prop where
  stable : E.Stable K
  queue : ∀ op, InQueue cfg op → ∀ w, K w → E.permits w op ∧ ∀ ans w', E.answers w op ans w' → K w'

namespace QueueAccess

variable {W : Type} {E : Environment DataInterface W} {K : W → Prop} (A : QueueAccess cfg E K)
  {h : CircularBufferHeader} {w : W}
include A

lemma updateReadPtr_ensures (hfit : cfg.Fits) (hgeo : Geometry cfg h) {p : ℕ}
    (hp : p ≤ cfg.maxOffset) (hK : K w) :
    (updateReadPtr (uint32 p)).Ensures E (fun _ h' w' => InRange cfg h' ∧ K w')
      (fun _ _ => K) h w := by
  have hlt : p < 2 ^ 24 := by
    have := hfit.maxOffset_eq
    have := hfit.size_lt
    omega
  rw [updateReadPtr, DataInterface.write_then, truncatedReadPtr_eq hlt]
  intro w₁ hw₁
  obtain ⟨hpermits, hanswers⟩ :=
    A.queue (.write CircularBufferHeader.bmcReadPtrOffset (littleEndian 3 p))
    ⟨rfl, p, hp, rfl⟩ w₁ (A.stable.later hw₁ hK)
  refine ⟨hpermits, fun written w₂ ha => ?_⟩
  have hK₂ := hanswers written w₂ ha
  refine ensures_raiseIf_bind.mpr
    ⟨fun _ w₃ hw₃ => A.stable.later hw₃ hK₂, fun _ => ensures_fetch_bind.mpr ?_⟩
  exact fun w₃ hw₃ => ⟨⟨hgeo, hp⟩, A.stable.later hw₃ hK₂⟩

lemma read_ensures {α : Type} {off len : ℕ} {short : List UInt8 → Prop} [DecidablePred short]
    {e : List UInt8 → BufferError} {f : List UInt8 → BufferM α}
    {Q : α → CircularBufferHeader → W → Prop}
    (hin : cfg.queueOffset ≤ off ∧ off + len ≤ cfg.queueRegionSize) (hK : K w)
    (hf : ∀ bytes w', K w' → (f bytes).Ensures E Q (fun _ _ => K) h w') :
    (DataInterface.read off len >>= fun bytes => raiseIf (short bytes) (e bytes) >>= fun _ =>
      f bytes).Ensures E Q (fun _ _ => K) h w := by
  rw [DataInterface.read_then]
  intro w₁ hw₁
  obtain ⟨hpermits, hanswers⟩ := A.queue (.read off len) hin w₁ (A.stable.later hw₁ hK)
  refine ⟨hpermits, fun bytes w₂ ha => ?_⟩
  have hK₂ := hanswers bytes w₂ ha
  exact ensures_raiseIf_bind.mpr ⟨fun _ w₃ hw₃ => A.stable.later hw₃ hK₂, fun _ => hf bytes w₂ hK₂⟩

lemma wraparoundRead_ensures (hfit : cfg.Fits) (hgeo : Geometry cfg h) (rel len : ℕ) (hK : K w) :
    (wraparoundRead cfg rel len).Ensures E (fun _ h' w' => InRange cfg h' ∧ K w')
      (fun _ _ => K) h w := by
  have hsize := hfit.maxOffset_eq
  have hend : ∀ (bytes : List UInt8) p, p ≤ cfg.maxOffset → ∀ w, K w →
      (updateReadPtr (uint32 p) >>= fun _ => pure bytes).Ensures E
        (fun _ h' w' => InRange cfg h' ∧ K w') (fun _ _ => K) h w := by
    intro bytes p hp w hK
    rw [ensures_bind]
    refine (A.updateReadPtr_ensures hfit hgeo hp hK).mono ?_ (fun _ _ _ hX => hX)
    exact fun _ _ _ hin _ hw => ⟨hin.1, A.stable.later hw hin.2⟩
  by_cases hlarge : cfg.maxOffset < rel ∨ cfg.maxOffset < len
  · exact wraparoundRead_rejects hfit hgeo hlarge fun _ _ hw => A.stable.later hw hK
  obtain ⟨hrel, hlen⟩ := not_or.mp hlarge
  apply wraparoundRead_then hfit hgeo (not_lt.mp hrel) (not_lt.mp hlen)
  · intro hfull
    exact A.read_ensures (by omega) hK fun bytes w₁ hK₁ =>
      hend bytes _ (by split_ifs <;> omega) w₁ hK₁
  · intro n hpos hsum
    refine A.read_ensures (by omega) hK fun bytes w₁ hK₁ =>
      A.read_ensures (by omega) hK₁ fun wrapped w₂ hK₂ => ?_
    exact hend _ n (by omega) w₂ hK₂

lemma readEntry_keeps (hfit : cfg.Fits) :
    KeepsOr E (fun h w => InRange cfg h ∧ K w) (fun _ => K) (readEntry cfg) := by
  rintro h w ⟨hin, hK⟩
  rw [readEntry, ensures_bind, readEntryHeader, ensures_fetch_bind, ensures_bind]
  apply (A.wraparoundRead_ensures hfit hin.1 _ _ hK).mono ?_ (fun _ _ _ hX => hX)
  rintro bytes h₁ w₁ ⟨hin₁, hK₁⟩ w₂ hw₂
  refine ensures_fetch_bind.mpr (ensures_bind.mpr ?_)
  apply (A.wraparoundRead_ensures hfit hin₁.1 _ _ (A.stable.later hw₂ hK₁)).mono ?_
    (fun _ _ _ hX => hX)
  rintro entry h₂ w₃ ⟨hin₂, hK₃⟩
  refine ensures_raiseIf_bind.mpr ⟨fun _ w₄ hw₄ => A.stable.later hw₄ hK₃, fun _ w₄ hw₄ => ?_⟩
  exact ⟨hin₂, A.stable.later hw₄ hK₃⟩

lemma readEntries_keeps (hfit : cfg.Fits) (bytesToRead rounds byteRead : ℕ)
    (entryPairs : List EntryPair) :
    KeepsOr E (fun h w => InRange cfg h ∧ K w) (fun _ => K)
      (readEntries cfg bytesToRead rounds byteRead entryPairs) := by
  have hpure : ∀ es : List EntryPair, KeepsOr E (fun h w => InRange cfg h ∧ K w) (fun _ => K)
      (pure es : BufferM (List EntryPair)) :=
    fun es h w hw w' hlater => ⟨hw.1, A.stable.later hlater hw.2⟩
  induction rounds generalizing byteRead entryPairs with
  | zero => exact hpure entryPairs
  | succ rounds ih =>
    rw [readEntries]
    split_ifs
    · exact (A.readEntry_keeps hfit).bind fun entryPair => ih _ _
    · exact hpure entryPairs

end QueueAccess

def hostile (cfg : Config) : Environment DataInterface Unit where
  interferes _ _ := True
  permits _ := Harmless cfg
  answers _ _ _ _ := True

lemma hostile_queueAccess : QueueAccess cfg (hostile cfg) (fun _ => True) where
  stable _ _ _ _ := trivial
  queue _ hop _ _ := ⟨Or.inr hop, fun _ _ _ => trivial⟩

lemma readErrorLogs_harmless (hfit : cfg.Fits) (h : CircularBufferHeader) :
    (readErrorLogs cfg).Ensures (hostile cfg) (fun _ _ _ => True) (fun _ _ _ => True) h () := by
  refine readErrorLogs_ensures
    (readBufferHeader_ensures fun _ _ => ⟨Or.inl rfl, fun bytes _ _ _ _ => ?_⟩)
  split_ifs
  · refine ⟨fun _ => hfit, fun _ _ _ _ => trivial, fun _ _ _ _ => trivial, fun hacc _ => ?_⟩
    have hin : InRange cfg (.ofBytes bytes) := ⟨hacc.geometry, hacc.bmcReadPtr⟩
    exact (hostile_queueAccess.readEntries_keeps hfit _ _ _ _ _ _ ⟨hin, trivial⟩).mono
      (fun _ _ _ _ _ _ => by split_ifs) (fun _ _ _ _ => trivial)

def maxRounds (bytesToRead : ℕ) : ℕ :=
  (bytesToRead + (QueueEntryHeader.size - 1)) / QueueEntryHeader.size

lemma readEntries_rounds {bytesToRead rounds rounds' byteRead : ℕ} {entryPairs : List EntryPair}
    (h : bytesToRead ≤ byteRead + QueueEntryHeader.size * rounds)
    (h' : bytesToRead ≤ byteRead + QueueEntryHeader.size * rounds') :
    readEntries cfg bytesToRead rounds byteRead entryPairs =
      readEntries cfg bytesToRead rounds' byteRead entryPairs := by
  induction rounds generalizing rounds' byteRead entryPairs with
  | zero =>
    cases rounds' with
    | zero => rfl
    | succ rounds' => rw [readEntries, readEntries, if_neg (by omega)]
  | succ rounds ih =>
    cases rounds' with
    | zero => rw [readEntries, readEntries, if_neg (by omega)]
    | succ rounds' =>
      rw [Nat.mul_succ] at h h'
      rw [readEntries, readEntries]
      split_ifs
      · exact congrArg (readEntry cfg >>= ·) (funext fun entryPair => ih (by omega) (by omega))
      · rfl

structure EntryCalls where
  header : Option CircularBufferHeader
  calls : ℕ

def EntryCalls.observe (w : EntryCalls) : (op : DataOp) → DataInterface.Ans op → EntryCalls
  | .read offset length, bytes =>
    if offset = 0 ∧ length = CircularBufferHeader.size then
      { w with header := some (.ofBytes bytes) } else w
  | .write _ _, _ => w
  | .getMemoryRegionSize, _ => w

def EntryCalls.Bounded (cfg : Config) (w : EntryCalls) : Prop :=
  ∃ h, w.header = some h ∧ w.calls ≤ maxRounds (unread cfg h)

/-- A mark is a call of `readEntry`. It is permitted if the number of the calls stays bounded. -/
def countsCalls (cfg : Config) : Environment (marked DataInterface) EntryCalls where
  interferes _ _ := False
  permits w
    | some op => Harmless cfg op
    | none => EntryCalls.Bounded cfg { w with calls := w.calls + 1 }
  answers w
    | some op, ans, w' => w' = w.observe op ans
    | none, _, w' => w' = { w with calls := w.calls + 1 }

lemma countsCalls_later {w w' : EntryCalls} (h : (countsCalls cfg).Later w w') : w' = w :=
  Environment.later_eq (fun _ _ hs => hs) h

lemma countsCalls_queueAccess (w : EntryCalls) :
    QueueAccess cfg ((countsCalls cfg).restrict markedCalls) (· = w) where
  stable _ _ hs := hs.elim
  queue := by
    rintro op hop _ rfl
    refine ⟨Or.inr hop, ?_⟩
    rintro ans w' ⟨_, ha, rfl⟩
    refine ha.trans ?_
    cases op with
    | read offset length =>
      have hoffset : CircularBufferHeader.size ≤ offset := (Nat.le_add_right _ _).trans hop.1
      refine if_neg fun hheader => ?_
      rw [hheader.1] at hoffset
      exact absurd hoffset (by decide)
    | write => rfl
    | getMemoryRegionSize => rfl

lemma maxRounds_covers (bytesToRead : ℕ) :
    bytesToRead ≤ QueueEntryHeader.size * maxRounds bytesToRead := by
  simp only [maxRounds, QueueEntryHeader.size]
  omega

lemma markedReadEntries_bounded (hfit : cfg.Fits) {h₀ h : CircularBufferHeader}
    (hin : InRange cfg h) {calls : ℕ}
    (rounds : ℕ) {byteRead : ℕ} (entryPairs : List EntryPair)
    (hread : QueueEntryHeader.size * calls ≤ byteRead)
    (hcalls : calls ≤ maxRounds (unread cfg h₀)) :
    (markedReadEntries cfg (unread cfg h₀) rounds byteRead entryPairs).Ensures (countsCalls cfg)
      (fun _ _ => EntryCalls.Bounded cfg) (fun _ _ => EntryCalls.Bounded cfg) h
        ⟨some h₀, calls⟩ := by
  have hpure : ∀ {calls : ℕ} {h : CircularBufferHeader} (es : List EntryPair),
    calls ≤ maxRounds (unread cfg h₀) →
      (pure es : MarkedM (List EntryPair)).Ensures (countsCalls cfg)
      (fun _ _ => EntryCalls.Bounded cfg) (fun _ _ => EntryCalls.Bounded cfg) h ⟨some h₀, calls⟩ :=
    fun es hcalls w hw => countsCalls_later hw ▸ ⟨h₀, rfl, hcalls⟩
  induction rounds generalizing h calls byteRead entryPairs with
  | zero => exact hpure entryPairs hcalls
  | succ rounds ih =>
    rw [markedReadEntries]
    by_cases hlt : byteRead < unread cfg h₀
    swap
    · rw [if_neg hlt]
      exact hpure entryPairs hcalls
    have hcovers := maxRounds_covers (unread cfg h₀)
    simp only [QueueEntryHeader.size] at hread hcovers
    have hnext : calls + 1 ≤ maxRounds (unread cfg h₀) := by omega
    rw [if_pos hlt, ensures_bind, markedReadEntry, ensures_mark_bind]
    intro w hw
    obtain rfl := countsCalls_later hw
    refine ⟨⟨h₀, rfl, hnext⟩, ?_⟩
    rintro _ _ rfl
    refine ensures_withoutMarks.mpr
      (((countsCalls_queueAccess _).readEntry_keeps hfit _ _ ⟨hin, rfl⟩).mono ?_ ?_)
    · rintro entryPair h₁ _ ⟨hin₁, rfl⟩
      refine ih hin₁ _ ?_ hnext
      simp only [QueueEntryHeader.size]
      omega
    · rintro _ _ _ rfl
      exact ⟨h₀, rfl, hnext⟩

lemma getMaxOffset_ensures (hfit : cfg.Fits) {W : Type} {E : Environment DataInterface W}
    {h : CircularBufferHeader} {w : W} : (getMaxOffset cfg).Ensures E
      (fun n h' w' => E.Later w w' ∧ h' = h ∧ n = cfg.maxOffset ∧ Geometry cfg h)
        (fun _ _ w' => E.Later w w') h w := by
  rw [getMaxOffset, ensures_fetch_bind]
  refine ensures_raiseIf_bind.mpr
    ⟨fun _ _ hw => hw, fun hq => ensures_raiseIf_bind.mpr ⟨fun _ _ hw => hw, fun hu => ?_⟩⟩
  rw [not_not.mp hq, not_not.mp hu, hfit.sub_eq]
  exact fun _ hw => ⟨hw, rfl, rfl, not_not.mp hq, not_not.mp hu⟩

lemma markedReadErrorLogs_bounded (hfit : cfg.Fits) (h : CircularBufferHeader) :
    (markedReadErrorLogs cfg).Ensures (countsCalls cfg) (fun _ _ => EntryCalls.Bounded cfg)
      (fun _ _ => EntryCalls.Bounded cfg) h ⟨none, 0⟩ := by
  have hlater : ∀ {w w'}, ((countsCalls cfg).restrict markedCalls).Later w w' → w' = w :=
    fun hw => Environment.later_eq (fun _ _ hs => hs) hw
  have hfresh : ∀ h₀ : CircularBufferHeader, EntryCalls.Bounded cfg ⟨some h₀, 0⟩ :=
    fun h₀ => ⟨h₀, rfl, Nat.zero_le _⟩
  rw [markedReadErrorLogs, ensures_bind, ensures_withoutMarks]
  refine readBufferHeader_ensures fun w hw => ⟨Or.inl rfl, ?_⟩
  obtain rfl := hlater hw
  rintro bytes _ ⟨answer, rfl, hanswer⟩ w₁ hw₁
  obtain rfl : bytes = answer := hanswer.symm
  obtain rfl := hlater hw₁
  have hends : ∀ w₁, (countsCalls cfg).Later ⟨some (.ofBytes bytes), 0⟩ w₁ →
      EntryCalls.Bounded cfg w₁ :=
    fun _ hw => countsCalls_later hw ▸ hfresh _
  split_ifs
  swap
  · exact hfresh _
  change Proc.Ensures _ _ _ _ (CircularBufferHeader.ofBytes bytes)
    (EntryCalls.mk (some (.ofBytes bytes)) 0)
  generalize CircularBufferHeader.ofBytes bytes = h₀ at *
  rw [ensures_bind, ensures_withoutMarks]
  refine (getMaxOffset_ensures hfit).mono ?_ (fun e h₁ w hw => hlater hw ▸ hfresh _)
  rintro _ h₁ w ⟨hw, rfl, rfl, hgeo⟩
  obtain rfl := hlater hw
  rw [ensures_fetch_bind]
  refine ensures_raiseIf_bind.mpr
    ⟨fun _ => hends, fun _ => ensures_raiseIf_bind.mpr ⟨fun _ => hends, fun hptr => ?_⟩⟩
  by_cases heq : h₁.biosWritePtr = h₁.bmcReadPtr
  · rw [if_pos heq]
    exact hends
  have hunread : unread cfg h₁ = _ := if_neg heq
  rw [if_neg heq, ensures_bind, ← hunread]
  refine (markedReadEntries_bounded hfit ⟨hgeo, not_lt.mp hptr⟩ _ [] le_rfl (Nat.zero_le _)).mono ?_
    (fun _ _ _ hX => hX)
  intro es h₂ w hbounded
  rw [ensures_fetch_bind]
  exact ensures_raiseIf_bind.mpr
    ⟨fun _ _ hw => countsCalls_later hw ▸ hbounded, fun _ _ hw => countsCalls_later hw ▸ hbounded⟩

theorem readErrorLogs_hostile (hsize : cfg.queueRegionSize > cfg.ueRegionSize + 48)
    (hlt : cfg.queueRegionSize < 2 ^ 24) (h : CircularBufferHeader) :
    (readErrorLogs cfg).Ensures (hostile cfg) (fun _ _ _ => True) (fun _ _ _ => True) h () ∧
      (markedReadErrorLogs cfg).unmark = readErrorLogs cfg ∧
      (markedReadErrorLogs cfg).Ensures (countsCalls cfg) (fun _ _ => EntryCalls.Bounded cfg)
        (fun _ _ => EntryCalls.Bounded cfg) h ⟨none, 0⟩ ∧
      ∀ bytesToRead rounds, maxRounds bytesToRead ≤ rounds →
        readEntries cfg bytesToRead rounds 0 [] =
          readEntries cfg bytesToRead (maxRounds bytesToRead) 0 [] := by
  have hfit : cfg.Fits := ⟨by simp only [Config.queueOffset, CircularBufferHeader.size]; omega, hlt⟩
  refine ⟨readErrorLogs_harmless hfit h, unmark_markedReadErrorLogs cfg,
    markedReadErrorLogs_bounded hfit h, fun bytesToRead rounds hrounds => ?_⟩
  have hcovers := maxRounds_covers bytesToRead
  have hmore := Nat.mul_le_mul_left QueueEntryHeader.size hrounds
  exact readEntries_rounds (by omega) (by omega)

/-! The header announces fifteen bytes, and whatever else is read is zero. -/

def zerosConfig : Config := { smallConfig with queueRegionSize := 72 }

def answerZeros (w : EntryCalls) :
    (op : (marked DataInterface).Op) → (marked DataInterface).Ans op × EntryCalls
  | some (.read offset length) =>
    let bytes :=
      if offset = 0 then { initializedFromConfig zerosConfig with biosWritePtr := 15 }.toBytes
      else List.replicate length 0
    (bytes, w.observe (.read offset length) bytes)
  | some (.write _ bytes) => (bytes.length, w)
  | some .getMemoryRegionSize => (zerosConfig.queueRegionSize, w)
  | none => ((), { w with calls := w.calls + 1 })

lemma answerZeros_answers (w : EntryCalls) (op : (marked DataInterface).Op) :
    (countsCalls zerosConfig).answers w op (answerZeros w op).1 (answerZeros w op).2 := by
  rcases op with _ | (_ | _ | _) <;> rfl

theorem readErrorLogs_hostile_zeros :
    (markedReadErrorLogs zerosConfig).unmark = readErrorLogs zerosConfig ∧
      let ended := (markedReadErrorLogs zerosConfig .zero).run answerZeros ⟨none, 0⟩
      ended.1.1 = .error (.notIdentical 15 18) ∧ ended.2.calls = 3 ∧
        ended.2.Bounded zerosConfig ∧
        readEntries zerosConfig 15 15 0 [] = readEntries zerosConfig 15 3 0 [] := by
  obtain ⟨-, hunmark, hbounded, hrounds⟩ :=
    @readErrorLogs_hostile zerosConfig (by decide) (by decide) .zero
  exact ⟨hunmark, by decide +kernel, by decide +kernel,
    Ensures.keeps_run (I := fun _ => EntryCalls.Bounded zerosConfig) answerZeros_answers hbounded,
    hrounds 15 15 (by decide)⟩

end SmmErrorLogger.Buffer
