import SmmErrorLogger.Buffer.ErrorLogs
import SmmErrorLogger.Buffer.Initialization
import SmmErrorLogger.Library.Service

/-! The fields of the header that the BMC owns, and the operations of the buffer that leave the
cached ones equal to those in the shared memory. -/

namespace SmmErrorLogger.Buffer

open Library.Bytes Library.Interaction
open Library.Interaction.Proc

/-- The offsets of the fields of the BMC: `bmcInterfaceVersion`, and `magicNumber` to `bmcReadPtr`.
-/
def BmcOwned (i : ℕ) : Prop := i < 0x4 ∨ 0x8 ≤ i ∧ i < 0x24

structure Coherent (h g : CircularBufferHeader) : Prop where
  bmcInterfaceVersion : h.bmcInterfaceVersion = g.bmcInterfaceVersion
  magicNumber : h.magicNumber = g.magicNumber
  queueSize : h.queueSize = g.queueSize
  ueRegionSize : h.ueRegionSize = g.ueRegionSize
  bmcFlags : h.bmcFlags = g.bmcFlags
  bmcReadPtr : h.bmcReadPtr = g.bmcReadPtr

lemma Coherent.refl (h : CircularBufferHeader) : Coherent h h := ⟨rfl, rfl, rfl, rfl, rfl, rfl⟩

lemma Coherent.trans {h g k : CircularBufferHeader} (hg : Coherent h g) (hk : Coherent g k) :
    Coherent h k :=
  ⟨hg.1.trans hk.1, hg.2.trans hk.2, hg.3.trans hk.3, hg.4.trans hk.4, hg.5.trans hk.5,
    hg.6.trans hk.6⟩

lemma Coherent.withReadPtr {h g : CircularBufferHeader} (hg : Coherent h g) (p : ℕ) :
    Coherent { h with bmcReadPtr := p } { g with bmcReadPtr := p } :=
  { hg with bmcReadPtr := rfl }

lemma Coherent.withFlags {h g : CircularBufferHeader} (hg : Coherent h g) (f : UInt32) :
    Coherent { h with bmcFlags := f } { g with bmcFlags := f } :=
  { hg with bmcFlags := rfl }

lemma coherent_of_owned {m m' : Memory} (h : ∀ i, BmcOwned i → m' i = m i) :
    Coherent (headerAt m) (headerAt m') := by
  have hload : ∀ off len, (∀ i < len, BmcOwned (off + i)) → load m off len = load m' off len :=
    fun off len hin => load_congr (fun i hi => (h _ (hin i hi)).symm)
  have hmagic : ∀ i : Fin 4, load m (0x8 + 4 * i) 4 = load m' (0x8 + 4 * i) 4 :=
    fun i => hload _ _ (fun j hj => Or.inr (by omega))
  rw [headerAt_eq, headerAt_eq]
  constructor
  · exact congrArg (UInt32.ofNat ∘ ofLittleEndian) (hload _ _ fun i hi => Or.inl (by omega))
  · simp only [hmagic]
  · exact congrArg ofLittleEndian (hload _ _ fun i hi => Or.inr (by omega))
  · exact congrArg ofLittleEndian (hload _ _ fun i hi => Or.inr (by omega))
  · refine congrArg (UInt32.ofNat ∘ ofLittleEndian) (hload _ _ fun i hi => Or.inr ?_)
    simp only [CircularBufferHeader.bmcFlagsOffset]
    omega
  · refine congrArg ofLittleEndian (hload _ _ fun i hi => Or.inr ?_)
    simp only [CircularBufferHeader.bmcReadPtrOffset]
    omega

/-- What the BIOS may do to the region at any time. -/
structure BiosWrites (pci pci' : PciDataHandler) : Prop where
  regionSize : pci'.regionSize = pci.regionSize
  owned : ∀ i, BmcOwned i → pci'.mmap i = pci.mmap i

lemma BiosWrites.trans {pci pci' pci'' : PciDataHandler} (h : BiosWrites pci pci')
    (h' : BiosWrites pci' pci'') :
    BiosWrites pci pci'' :=
  ⟨h'.regionSize.trans h.regionSize, fun i hi => (h'.owned i hi).trans (h.owned i hi)⟩

lemma biosWrites_store {pci : PciDataHandler} {off : ℕ} {bs : List UInt8} (h : 0x24 ≤ off) :
    BiosWrites pci { pci with mmap := store pci.mmap off bs } where
  regionSize := rfl
  owned i hi := by
    apply store_outside
    rcases hi with hi | hi <;> omega

structure Cached (h : CircularBufferHeader) (pci : PciDataHandler) : Prop where
  region : CircularBufferHeader.size ≤ pci.regionSize.toNat
  coherent : Coherent h (headerAt pci.mmap)

lemma Cached.biosWrites {h : CircularBufferHeader} {pci pci' : PciDataHandler} (hc : Cached h pci)
    (hb : BiosWrites pci pci') : Cached h pci' :=
  ⟨hb.regionSize ▸ hc.region, hc.coherent.trans (coherent_of_owned hb.owned)⟩

section

variable {W : Type} {E : Environment DataInterface W} {s : WordSize} {region : W → PciDataHandler}
  {K K' : W → Prop}

/-- The calls are answered by a region in which the others leave the fields of the BMC alone. They
keep `K`, and so do reads and changes of the read pointer. -/
structure SharedRegion (s : WordSize) (E : Environment DataInterface W)
    (region : W → PciDataHandler) (K : W → Prop) : Prop where
  interferes : ∀ {w w'}, E.interferes w w' → BiosWrites (region w) (region w')
  answers : ∀ {w op ans w'}, E.answers w op ans w' → (region w).perform s op = (ans, region w')
  stable : E.Stable K
  read : ∀ {w} off len, K w → E.permits w (.read off len) ∧
    ∀ (bytes : List UInt8) w', E.answers w (.read off len) bytes w' → K w'
  readPtr : ∀ {w} p, K w →
    let op := DataOp.write CircularBufferHeader.bmcReadPtrOffset (littleEndian 3 p)
    E.permits w op ∧ ∀ (written : ℕ) w', E.answers w op written w' → K w'

def Kept (region : W → PciDataHandler) (K : W → Prop) (h : CircularBufferHeader) (w : W) : Prop :=
  Cached h (region w) ∧ K w

namespace SharedRegion

variable (R : SharedRegion s E region K) {h : CircularBufferHeader} {w : W}
include R

lemma cached_stable (h : CircularBufferHeader) : E.Stable (fun w => Cached h (region w)) :=
  fun _ _ hw hc => hc.biosWrites (R.interferes hw)

lemma kept_stable (h : CircularBufferHeader) : E.Stable (Kept region K h) :=
  fun _ _ hw hk => ⟨R.cached_stable h _ _ hw hk.1, R.stable _ _ hw hk.2⟩

lemma read_answer {off len : ℕ} {bytes : List UInt8} {w' : W}
    (ha : E.answers w (.read off len) bytes w') :
    bytes = (region w).read off len ∧ region w' = region w := by
  obtain ⟨hbytes, hregion⟩ := Prod.mk.inj (R.answers ha)
  exact ⟨hbytes.symm, hregion.symm⟩

lemma read_keeps (off len : ℕ) : Keeps E (Kept region K)
    (DataInterface.read off len : BufferM (List UInt8)) := by
  refine keeps_call R.kept_stable
    (fun h w hk => ⟨(R.read off len hk.2).1, fun bytes w' ha => ⟨?_, ?_⟩⟩)
  · rw [(R.read_answer ha).2]
    exact hk.1
  · exact (R.read off len hk.2).2 bytes w' ha

lemma readBufferHeader_reads {Q : CircularBufferHeader → W → Prop} (hQ : ∀ h, E.Stable (Q h))
    (hread : ∀ w, K w → ∀ (bytes : List UInt8) w',
      E.answers w (.read 0 CircularBufferHeader.size) bytes w' →
      Q (headerAt (region w).mmap) w') (hk : Kept region K h w) :
    readBufferHeader.Ensures E (fun _ h' w' => Kept region K h' w' ∧ Q h' w')
      (fun _ _ _ => False) h w := by
  apply Buffer.readBufferHeader_ensures
  intro w₁ hw₁
  have hk₁ := (R.kept_stable h).later hw₁ hk
  refine ⟨(R.read _ _ hk₁.2).1, fun bytes w₂ ha w₃ hw₃ => ?_⟩
  have hQ₂ := hread _ hk₁.2 _ _ ha
  obtain ⟨rfl, hregion⟩ := R.read_answer ha
  rw [PciDataHandler.read_within (by simpa using hk₁.1.region), if_pos load_length]
  refine ⟨(R.kept_stable _).later hw₃ ⟨⟨?_, ?_⟩, (R.read _ _ hk₁.2).2 _ _ ha⟩, (hQ _).later hw₃ hQ₂⟩
  · rw [hregion]
    exact hk₁.1.region
  · rw [hregion]
    exact .refl _

lemma readBufferHeader_ensures (hk : Kept region K h w) : readBufferHeader.Ensures E
    (fun _ h' w' => Kept region K h' w') (fun _ _ _ => False) h w :=
  (R.readBufferHeader_reads (Q := fun _ _ => True) (fun _ _ _ _ _ => trivial)
    (fun _ _ _ _ _ => trivial) hk).mono (fun _ _ _ hk' => hk'.1) (fun _ _ _ hf => hf)

lemma readBufferHeader_keeps : Keeps E (Kept region K) readBufferHeader :=
  fun _ _ hk => (R.readBufferHeader_ensures hk).mono (fun _ _ _ h' => h') (fun _ _ _ hf => hf.elim)

lemma write_answer (hc : Cached h (region w)) {off : ℕ} {bs : List UInt8} {written : ℕ} {w' : W}
    (hin : off + bs.length ≤ CircularBufferHeader.size)
    (ha : E.answers w (.write off bs) written w') :
    written = bs.length ∧ region w' = { region w with mmap := store (region w).mmap off bs } := by
  have hwrite : (region w).write s off bs = _ :=
    PciDataHandler.write_within (hin.trans hc.region) (by
    simp only [CircularBufferHeader.size] at hin
    omega)
  obtain ⟨hwritten, hregion⟩ := Prod.mk.inj (hwrite.symm.trans (R.answers ha))
  exact ⟨hwritten.symm, hregion.symm⟩

lemma updateReadPtr_keeps (p : ℕ) : Keeps E (Kept region K) (updateReadPtr p) := by
  intro h w hk
  have hlt : p &&& 0xffffff < 2 ^ 24 := Nat.and_lt_two_pow _ (by norm_num)
  rw [updateReadPtr, DataInterface.write_then]
  intro w₁ hw₁
  obtain ⟨hc, hK⟩ := (R.kept_stable h).later hw₁ hk
  refine ⟨(R.readPtr _ hK).1, fun written w₂ ha => ?_⟩
  obtain ⟨rfl, hregion⟩ :=
    R.write_answer hc
      (by simp [CircularBufferHeader.bmcReadPtrOffset, CircularBufferHeader.size]) ha
  refine ensures_raiseIf_bind.mpr ⟨fun hne => absurd (littleEndian_length _ _) hne, fun _ => ?_⟩
  rw [ensures_fetch_bind]
  refine ensures_put.mpr
    (fun w₃ hw₃ => (R.kept_stable _).later hw₃ ⟨⟨?_, ?_⟩, (R.readPtr _ hK).2 _ _ ha⟩)
  · rw [hregion]
    exact hc.region
  · rw [hregion, headerAt_store_bmcReadPtr, Nat.mod_eq_of_lt hlt]
    exact hc.coherent.withReadPtr _

lemma updateBmcFlags_ensures (hK' : E.Stable K') {f : UInt32}
    (hwrite : ∀ w, Kept region K h w →
      let op := DataOp.write CircularBufferHeader.bmcFlagsOffset (littleEndian 4 f.toNat)
      E.permits w op ∧ ∀ (written : ℕ) w', E.answers w op written w' → K' w')
    (hk : Kept region K h w) :
    (updateBmcFlags f).Ensures E (fun _ => Kept region K') (fun _ _ _ => False) h w := by
  have hstable : ∀ h, E.Stable (Kept region K' h) :=
    fun h _ _ hw hk => ⟨R.cached_stable h _ _ hw hk.1, hK' _ _ hw hk.2⟩
  rw [updateBmcFlags, DataInterface.write_then]
  intro w₁ hw₁
  have hk₁ := (R.kept_stable h).later hw₁ hk
  refine ⟨(hwrite w₁ hk₁).1, fun written w₂ ha => ?_⟩
  obtain ⟨rfl, hregion⟩ :=
    R.write_answer hk₁.1
      (by simp [CircularBufferHeader.bmcFlagsOffset, CircularBufferHeader.size]) ha
  refine ensures_raiseIf_bind.mpr ⟨fun hne => absurd (littleEndian_length _ _) hne, fun _ => ?_⟩
  rw [ensures_fetch_bind]
  refine ensures_put.mpr (fun w₃ hw₃ => (hstable _).later hw₃ ⟨⟨?_, ?_⟩, (hwrite w₁ hk₁).2 _ _ ha⟩)
  · rw [hregion]
    exact hk₁.1.region
  · rw [hregion, headerAt_store_bmcFlags]
    exact hk₁.1.coherent.withFlags _

variable (cfg : Config)

lemma getMaxOffset_keeps : Keeps E (Kept region K) (getMaxOffset cfg) :=
  keeps_fetch_bind fun _ => (keeps_raiseIf R.kept_stable _ _).bind fun _ =>
    (keeps_raiseIf R.kept_stable _ _).bind fun _ => keeps_pure R.kept_stable _

lemma getQueueOffset_keeps : Keeps E (Kept region K) (getQueueOffset cfg) :=
  keeps_fetch_bind fun _ => (keeps_raiseIf R.kept_stable _ _).bind fun _ =>
    keeps_pure R.kept_stable _

lemma wraparoundRead_keeps (rel len : ℕ) :
    Keeps E (Kept region K) (wraparoundRead cfg rel len) := by
  have hraiseIf : ∀ (c : Prop) [Decidable c] (e : BufferError),
      Keeps E (Kept region K) (raiseIf c e : BufferM Unit) :=
    fun c _ e => keeps_raiseIf R.kept_stable c e
  refine (R.getMaxOffset_keeps cfg).bind fun maxOffset => (hraiseIf _ _).bind fun _ =>
    (hraiseIf _ _).bind fun _ => ?_
  apply (R.getQueueOffset_keeps cfg).bind
  intro queueOffset
  refine (R.read_keeps _ _).bind fun bytesRead => (hraiseIf _ _).bind fun _ => ?_
  refine Keeps.bind (Keeps.ite ?_ (keeps_pure R.kept_stable _)) fun result =>
    (R.updateReadPtr_keeps _).bind fun _ => keeps_pure R.kept_stable _
  exact (R.read_keeps _ _).bind fun _ => (hraiseIf _ _).bind fun _ => keeps_pure R.kept_stable _

lemma readEntryHeader_keeps : Keeps E (Kept region K) (readEntryHeader cfg) :=
  keeps_fetch_bind fun _ => (R.wraparoundRead_keeps cfg _ _).bind fun _ =>
    keeps_pure R.kept_stable _

lemma readEntry_keeps : Keeps E (Kept region K) (readEntry cfg) :=
  (R.readEntryHeader_keeps cfg).bind fun _ => keeps_fetch_bind fun _ =>
    (R.wraparoundRead_keeps cfg _ _).bind fun _ =>
    (keeps_raiseIf R.kept_stable _ _).bind fun _ => keeps_pure R.kept_stable _

lemma readEntries_keeps (bytesToRead rounds byteRead : ℕ) (entryPairs : List EntryPair) :
    Keeps E (Kept region K) (readEntries cfg bytesToRead rounds byteRead entryPairs) := by
  induction rounds generalizing byteRead entryPairs with
  | zero => exact keeps_pure R.kept_stable _
  | succ rounds ih =>
    exact ((R.readEntry_keeps cfg).bind fun _ => ih _ _).ite (keeps_pure R.kept_stable _)

lemma readErrorLogs_keeps : Keeps E (Kept region K) (readErrorLogs cfg) := by
  refine R.readBufferHeader_keeps.bind fun _ => (R.getMaxOffset_keeps cfg).bind fun _ =>
    keeps_fetch_bind fun _ => ?_
  refine (keeps_raiseIf R.kept_stable _ _).bind fun _ =>
    (keeps_raiseIf R.kept_stable _ _).bind fun _ => ?_
  refine (keeps_pure R.kept_stable _).ite
    ((R.readEntries_keeps cfg _ _ _ _).bind fun _ => keeps_fetch_bind fun _ => ?_)
  exact (keeps_raiseIf R.kept_stable _ _).bind fun _ => keeps_pure R.kept_stable _

lemma readUeLogFromReservedRegion_keeps : Keeps E (Kept region K) readUeLogFromReservedRegion := by
  refine R.readBufferHeader_keeps.bind fun _ => keeps_fetch_bind fun _ => ?_
  refine (keeps_pure R.kept_stable _).ite
    ((keeps_pure R.kept_stable _).ite ((R.read_keeps _ _).bind fun _ => ?_))
  exact (keeps_pure R.kept_stable _).ite (keeps_raise R.kept_stable _)

end SharedRegion

end

end SmmErrorLogger.Buffer
