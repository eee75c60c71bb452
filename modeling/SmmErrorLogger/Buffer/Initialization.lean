import SmmErrorLogger.Buffer.QueueReader

namespace SmmErrorLogger.Buffer

open Library.Bytes Library.Interaction
open Library.Interaction.Proc

namespace CircularBufferHeader

structure InRange (h : CircularBufferHeader) : Prop where
  queueSize : h.queueSize < 2 ^ 24
  ueRegionSize : h.ueRegionSize < 2 ^ 16
  bmcReadPtr : h.bmcReadPtr < 2 ^ 24
  biosWritePtr : h.biosWritePtr < 2 ^ 24

lemma vector_toList {α : Type} (v : Vector α 4) : v.toList = [v[0], v[1], v[2], v[3]] := by
  apply List.ext_getElem (by simp)
  intro i hi _
  simp only [Vector.length_toList] at hi
  interval_cases i <;> simp

lemma vector_ofFn {α : Type} {f : Fin 4 → α} {v : Vector α 4} :
    Vector.ofFn f = v ↔ f 0 = v[0] ∧ f 1 = v[1] ∧ f 2 = v[2] ∧ f 3 = v[3] := by
  constructor
  · rintro rfl
    simp
  · rintro ⟨h₀, h₁, h₂, h₃⟩
    ext i hi
    interval_cases i <;> simpa

@[simp] lemma toBytes_length (h : CircularBufferHeader) :
    h.toBytes.length = CircularBufferHeader.size := by
  simp [toBytes, vector_toList, CircularBufferHeader.size]

lemma ofBytes_toBytes {h : CircularBufferHeader} (hr : h.InRange) : ofBytes h.toBytes = h := by
  have hword : ∀ (x : UInt32) (ys : List UInt8),
      UInt32.ofNat (field (littleEndian 4 x.toNat ++ ys) 0 4) = x := by
    intro x ys
    rw [field_first x.toNat_lt, UInt32.ofNat_toNat]
  have hq : ∀ ys, field (littleEndian 3 h.queueSize ++ ys) 0 3 = h.queueSize :=
    fun _ => field_first hr.queueSize
  have hu : ∀ ys, field (littleEndian 2 h.ueRegionSize ++ ys) 0 2 = h.ueRegionSize :=
    fun _ => field_first hr.ueRegionSize
  have hp : ∀ ys, field (littleEndian 3 h.bmcReadPtr ++ ys) 0 3 = h.bmcReadPtr :=
    fun _ => field_first hr.bmcReadPtr
  have hw : ∀ ys, field (littleEndian 3 h.biosWritePtr ++ ys) 0 3 = h.biosWritePtr :=
    fun _ => field_first hr.biosWritePtr
  cases h
  simp (disch := simp) [ofBytes, toBytes, vector_toList, vector_ofFn, field32, bmcFlagsOffset,
    bmcReadPtrOffset,
    biosFlagsOffset, biosWritePtrOffset, field_later, field_cons, byte_later, byte_cons, byte_first,
    hword, hq, hu, hp, hw]

lemma toBytes_bmcFlags (h : CircularBufferHeader) :
    byte h.toBytes bmcFlagsOffset = UInt8.ofNat h.bmcFlags.toNat := by
  cases h
  simp (disch := simp) [toBytes, bmcFlagsOffset, vector_toList, byte_later]
  rfl

end CircularBufferHeader

def initialized (bmcInterfaceVersion : UInt32) (queueSize ueRegionSize : UInt16)
    (magicNumber : Vector UInt32 4) : CircularBufferHeader :=
  { CircularBufferHeader.zero with
    bmcInterfaceVersion
    queueSize := queueSize.toNat
    ueRegionSize := ueRegionSize.toNat
    magicNumber }

section

variable {version : UInt32} {q u : UInt16} {magic : Vector UInt32 4}

lemma initialized_inRange (version : UInt32) (magic : Vector UInt32 4) :
    (initialized version q u magic).InRange where
  queueSize := q.toNat_lt.trans (by norm_num)
  ueRegionSize := u.toNat_lt
  bmcReadPtr := by norm_num [initialized, CircularBufferHeader.zero]
  biosWritePtr := by norm_num [initialized, CircularBufferHeader.zero]

lemma headerAt_store_toBytes {m : Memory} {h : CircularBufferHeader} (hr : h.InRange) :
    headerAt (store m 0 h.toBytes) = h := by
  rw [headerAt, ← h.toBytes_length, load_store_same, CircularBufferHeader.ofBytes_toBytes hr]

theorem initializeBuffer_ensures {W : Type} {E : Environment DataInterface W} {P₀ P₁ P₂ : W → Prop}
    (h₀ : E.Stable P₀) (h₁ : E.Stable P₁) (h₂ : E.Stable P₂)
    (hsize : ∀ w, P₀ w → E.permits w .getMemoryRegionSize ∧
      ∀ (n : ℕ) w', E.answers w .getMemoryRegionSize n w' → q.toNat ≤ n ∧ P₀ w')
    (herase : ∀ w, P₀ w → E.permits w (.write 0 (List.replicate q.toNat 0)) ∧
      ∀ (n : ℕ) w', E.answers w (.write 0 (List.replicate q.toNat 0)) n w' → n = q.toNat ∧ P₁ w')
    (hheader : ∀ w, P₁ w → E.permits w (.write 0 (initialized version q u magic).toBytes) ∧
      ∀ (n : ℕ) w', E.answers w (.write 0 (initialized version q u magic).toBytes) n w' →
        n = CircularBufferHeader.size ∧ P₂ w')
    {h : CircularBufferHeader} {w : W} (hw : P₀ w) :
    (initializeBuffer version q u magic).Ensures E
      (fun _ h' w' => h' = initialized version q u magic ∧ P₂ w') (fun _ _ _ => False) h w := by
  rw [initializeBuffer, DataInterface.getMemoryRegionSize_then]
  intro w₁ hw₁
  obtain ⟨hpermits, hanswers⟩ := hsize w₁ (h₀.later hw₁ hw)
  refine ⟨hpermits, fun n w₂ ha => ?_⟩
  obtain ⟨hle, hw₂⟩ := hanswers n w₂ ha
  refine ensures_raiseIf_bind.mpr ⟨fun hgt => absurd hle (not_le.mpr hgt), fun _ => ?_⟩
  rw [DataInterface.write_then]
  intro w₃ hw₃
  obtain ⟨hpermits, hanswers⟩ := herase w₃ (h₀.later hw₃ hw₂)
  refine ⟨hpermits, fun n w₄ ha => ?_⟩
  obtain ⟨hn, hw₄⟩ := hanswers n w₄ ha
  refine ensures_raiseIf_bind.mpr ⟨fun hne => absurd hn hne, fun _ => ?_⟩
  rw [DataInterface.write_then]
  intro w₅ hw₅
  obtain ⟨hpermits, hanswers⟩ := hheader w₅ (h₁.later hw₅ hw₄)
  refine ⟨hpermits, fun n w₆ ha => ?_⟩
  obtain ⟨hn, hw₆⟩ := hanswers n w₆ ha
  refine ensures_raiseIf_bind.mpr
    ⟨fun hne => absurd hn hne, fun _ => ensures_put.mpr fun w₇ hw₇ => ?_⟩
  exact ⟨rfl, h₂.later hw₇ hw₆⟩

theorem initializeBuffer_run (version : UInt32) (q u : UInt16) (magic : Vector UInt32 4)
    {s : WordSize} {pci : PciDataHandler} {h : CircularBufferHeader}
    (hq : q.toNat ≤ pci.regionSize.toNat)
    (hregion : CircularBufferHeader.size ≤ pci.regionSize.toNat) :
    (initializeBuffer version q u magic h).run (PciDataHandler.perform s) pci =
      ((.ok (), initialized version q u magic), { pci with
        mmap := store (store pci.mmap 0 (List.replicate q.toNat 0)) 0
          (initialized version q u magic).toBytes }) := by
  have hzeros : (List.replicate q.toNat (0 : UInt8)).length = q.toNat := List.length_replicate
  have hbytes := (initialized version q u magic).toBytes_length
  have hlt := q.toNat_lt
  have hens : (initializeBuffer version q u magic).Ensures (alone (PciDataHandler.perform s))
      (fun _ h' pci' => h' = initialized version q u magic ∧ pci' = { pci with
        mmap := store (store pci.mmap 0 (List.replicate q.toNat 0)) 0
          (initialized version q u magic).toBytes })
      (fun _ _ _ => False) h pci := by
    have hpci := alone_stable (S := DataInterface) (PciDataHandler.perform s) (· = pci)
    have hzeroed := alone_stable (S := DataInterface) (PciDataHandler.perform s)
      (· = { pci with mmap := store pci.mmap 0 (List.replicate q.toNat 0) })
    refine initializeBuffer_ensures hpci hzeroed (alone_stable _ _) ?_ ?_ ?_ rfl
    · rintro _ rfl
      refine ⟨trivial, ?_⟩
      rintro n _ ha
      obtain ⟨rfl, rfl⟩ := Prod.mk.inj ha
      exact ⟨hq, rfl⟩
    · rintro w rfl
      refine ⟨trivial, ?_⟩
      rintro n _ ha
      have hwrite : w.write s 0 (List.replicate q.toNat 0) = _ :=
        PciDataHandler.write_within (by omega) (by omega)
      obtain ⟨rfl, rfl⟩ := Prod.mk.inj (hwrite.symm.trans ha)
      exact ⟨hzeros, rfl⟩
    · rintro _ rfl
      refine ⟨trivial, ?_⟩
      rintro n _ ha
      have hwrite : PciDataHandler.write s
          { pci with mmap := store pci.mmap 0 (List.replicate q.toNat 0) } 0 _ = _ :=
        PciDataHandler.write_within
        (by rw [hbytes]; simpa using hregion) (by rw [hbytes]; norm_num [CircularBufferHeader.size])
      obtain ⟨rfl, rfl⟩ := Prod.mk.inj (hwrite.symm.trans ha)
      exact ⟨hbytes, rfl⟩
  obtain ⟨_, h', pci', hrun, rfl, rfl⟩ := hens.exists_run
  exact hrun

end

variable {cfg : Config} {pci : PciDataHandler} {h : CircularBufferHeader}

def initializedFromConfig (cfg : Config) : CircularBufferHeader :=
  initialized cfg.bmcInterfaceVersion (UInt16.ofNat cfg.queueRegionSize)
    (UInt16.ofNat cfg.ueRegionSize) cfg.magicNumber

structure Initialized (cfg : Config) (pci : PciDataHandler) (h : CircularBufferHeader) : Prop where
  queueSize : (UInt16.ofNat cfg.queueRegionSize).toNat ≤ pci.regionSize.toNat
  region : CircularBufferHeader.size ≤ pci.regionSize.toNat
  header : headerAt pci.mmap = initializedFromConfig cfg
  cached : h = initializedFromConfig cfg

lemma initializeFromConfig_initialized {h' : CircularBufferHeader} {pci' : PciDataHandler}
    (hrun : (initializeFromConfig cfg h).run (PciDataHandler.perform cfg.sizeT) pci =
      ((.ok (), h'), pci')) :
    Initialized cfg pci' h' := by
  have hens : (initializeFromConfig cfg).Ensures (alone (PciDataHandler.perform cfg.sizeT))
      (fun _ h' pci' => Initialized cfg pci' h') (fun _ _ _ => True) h pci := by
    by_cases hq : (UInt16.ofNat cfg.queueRegionSize).toNat ≤ pci.regionSize.toNat
    · by_cases hregion : CircularBufferHeader.size ≤ pci.regionSize.toNat
      · apply ensures_of_run (initializeBuffer_run _ _ _ _ hq hregion)
        refine ⟨hq, hregion, ?_, rfl⟩
        dsimp only
        rw [headerAt_store_toBytes (initialized_inRange _ _), initializedFromConfig]
      · have hlength := (initializedFromConfig cfg).toBytes_length
        have hwritten : ∀ pci' : PciDataHandler, pci'.regionSize = pci.regionSize →
            (pci'.write cfg.sizeT 0 (initializedFromConfig cfg).toBytes).1 ≠
            CircularBufferHeader.size := by
          intro pci' hsame
          rw [PciDataHandler.write_clamped (by rw [hsame, hlength]; exact not_le.mp hregion)
            (by rw [hlength]; norm_num [CircularBufferHeader.size]), hsame]
          exact (not_le.mp hregion).ne
        rw [initializeFromConfig, initializeBuffer, DataInterface.getMemoryRegionSize_alone]
        rw [ensures_raiseIf_bind]
        refine ⟨fun _ _ _ => trivial, fun _ => ?_⟩
        rw [DataInterface.write_then_alone, ensures_raiseIf_bind]
        refine ⟨fun _ _ _ => trivial, fun _ => ?_⟩
        rw [DataInterface.write_then_alone, ensures_raiseIf_bind]
        refine ⟨fun _ _ _ => trivial, fun hn => ?_⟩
        exact absurd (not_not.mp hn) (hwritten _ PciDataHandler.write_regionSize)
    · rw [initializeFromConfig, initializeBuffer, DataInterface.getMemoryRegionSize_alone]
      exact ensures_raiseIf_bind.mpr ⟨fun _ _ _ => trivial, fun hn => absurd (not_lt.mp hn) hq⟩
  exact Ensures.ends hens hrun

lemma initializedFromConfig_eq (hfit : cfg.queueOffset ≤ cfg.queueRegionSize)
    (hlt : cfg.queueRegionSize < 2 ^ 16) :
    initializedFromConfig cfg = { CircularBufferHeader.zero with
      bmcInterfaceVersion := cfg.bmcInterfaceVersion, queueSize := cfg.queueRegionSize,
      ueRegionSize := cfg.ueRegionSize, magicNumber := cfg.magicNumber } := by
  simp only [Config.queueOffset] at hfit
  rw [initializedFromConfig, initialized, UInt16.toNat_ofNat', UInt16.toNat_ofNat',
    Nat.mod_eq_of_lt hlt, Nat.mod_eq_of_lt (by omega)]

lemma initializedFromConfig_geometry (hfit : cfg.queueOffset ≤ cfg.queueRegionSize)
    (hlt : cfg.queueRegionSize < 2 ^ 16) : Geometry cfg (initializedFromConfig cfg) := by
  rw [initializedFromConfig_eq hfit hlt]
  exact ⟨rfl, rfl⟩

theorem initializeFromConfig_run (hfit : cfg.queueOffset ≤ cfg.queueRegionSize)
    (hlt : cfg.queueRegionSize < 2 ^ 16) (hregion : cfg.queueRegionSize ≤ pci.regionSize.toNat) :
    ∃ pci', (initializeFromConfig cfg h).run (PciDataHandler.perform cfg.sizeT) pci =
        ((.ok (), initializedFromConfig cfg), pci') ∧
      pci'.regionSize = pci.regionSize ∧ headerAt pci'.mmap = initializedFromConfig cfg ∧
      ∀ i, cfg.queueRegionSize ≤ i → pci'.mmap i = pci.mmap i := by
  have hq : (UInt16.ofNat cfg.queueRegionSize).toNat = cfg.queueRegionSize := by
    rw [UInt16.toNat_ofNat', Nat.mod_eq_of_lt hlt]
  have hsize : CircularBufferHeader.size ≤ cfg.queueRegionSize := (Nat.le_add_right _ _).trans hfit
  have hrun := initializeBuffer_run cfg.bmcInterfaceVersion (UInt16.ofNat cfg.queueRegionSize)
    (UInt16.ofNat cfg.ueRegionSize) cfg.magicNumber (h := h) (s := cfg.sizeT) (by rwa [hq])
    (hsize.trans hregion)
  have hlength := (initializedFromConfig cfg).toBytes_length
  rw [initializedFromConfig] at hlength
  have hzeros := List.length_replicate (n := (UInt16.ofNat cfg.queueRegionSize).toNat)
      (a := (0 : UInt8))
  refine ⟨_, hrun, rfl, ?_, fun i hi => ?_⟩
  · dsimp only
    exact headerAt_store_toBytes (initialized_inRange _ _)
  · dsimp only
    rw [store_outside (Or.inr (by omega)), store_outside (Or.inr (by omega))]

lemma initializeFromConfig_region (pci : PciDataHandler) (h : CircularBufferHeader)
    (hfit : cfg.queueOffset ≤ cfg.queueRegionSize) (hlt : cfg.queueRegionSize < 2 ^ 16)
    (hregion : cfg.queueRegionSize ≤ pci.regionSize.toNat) :
    Initialized cfg ((initializeFromConfig cfg h).run (PciDataHandler.perform cfg.sizeT) pci).2
      (initializedFromConfig cfg) := by
  obtain ⟨pci', hrun, -⟩ := initializeFromConfig_run (h := h) hfit hlt hregion
  rw [hrun]
  exact initializeFromConfig_initialized hrun

def smallConfig : Config where
  sizeT := .bits64
  bmcInterfaceVersion := 123
  queueRegionSize := 56
  ueRegionSize := 0
  magicNumber := .replicate 4 0

def smallRegion : PciDataHandler where
  regionSize := 56
  mmap := fun _ => 0

def initializedRegion : PciDataHandler :=
  ((initializeFromConfig smallConfig .zero).run (PciDataHandler.perform .bits64) smallRegion).2

end SmmErrorLogger.Buffer
