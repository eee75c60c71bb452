import SmmErrorLogger.Buffer.Initialization
import SmmErrorLogger.Buffer.Undisturbed

/-! `wraparoundRead` is reading modulo the queue, except for reading all of it from its very end. -/

namespace SmmErrorLogger.Buffer

open Library.Bytes Library.Interaction Library.Circular
open Library.Interaction.Proc

variable {cfg : Config} {pci : PciDataHandler} {h : CircularBufferHeader}

def MovesReadPtr (h : CircularBufferHeader) (pci : PciDataHandler) (p : ℕ)
    (h' : CircularBufferHeader) (pci' : PciDataHandler) : Prop :=
  h' = { h with bmcReadPtr := p } ∧ OnlyReadPtr pci p pci'

variable {α : Type} {Q : α → CircularBufferHeader → PciDataHandler → Prop}
  {X : BufferError → CircularBufferHeader → PciDataHandler → Prop}

lemma read_alone {off len : ℕ} {f : List UInt8 → BufferM α} (hin : off + len ≤ pci.regionSize.toNat)
    (hf : (f (load pci.mmap off len)).Ensures (undisturbed cfg) Q X h pci) :
    (DataInterface.read off len >>= f).Ensures (undisturbed cfg) Q X h pci := by
  apply call_alone.mpr
  change (f (pci.read off len)).Ensures _ _ _ h pci
  rwa [PciDataHandler.read_within hin]

lemma updateReadPtr_alone {p : ℕ} (hp : p < 2 ^ 24)
    (hin : CircularBufferHeader.size ≤ pci.regionSize.toNat) :
    (updateReadPtr (uint32 p)).Ensures (undisturbed cfg)
      (fun _ h' pci' => MovesReadPtr h pci p h' pci')
      (fun _ _ _ => False) h pci := by
  have hlen : (littleEndian 3 p).length = 3 := littleEndian_length 3 p
  have hfits : CircularBufferHeader.bmcReadPtrOffset + (littleEndian 3 p).length ≤
      pci.regionSize.toNat := by
    rw [hlen]
    simp only [CircularBufferHeader.size, CircularBufferHeader.bmcReadPtrOffset] at *
    omega
  rw [updateReadPtr, truncatedReadPtr_eq hp, DataInterface.write_alone hfits (by omega), hlen]
  refine ensures_raiseIf_bind.mpr ⟨fun hne => absurd rfl hne, fun _ => ?_⟩
  refine ensures_fetch_bind.mpr (alone_put.mpr ⟨rfl, rfl, fun i hi => ?_, ?_⟩)
  · exact store_outside (by rwa [hlen])
  · change (headerAt (store pci.mmap _ (littleEndian 3 p))).bmcReadPtr = p
    rw [headerAt_store_bmcReadPtr]
    exact Nat.mod_eq_of_lt hp

lemma wraparoundRead_within (pci : PciDataHandler) (hM : cfg.queueOffset < cfg.queueRegionSize)
    (hfit : cfg.Fits) (hgeo : Geometry cfg h)
    (hregion : cfg.queueRegionSize ≤ pci.regionSize.toNat) {rel len : ℕ}
    (hrel : rel ≤ cfg.maxOffset)
    (hlen : len ≤ cfg.maxOffset) :
    (wraparoundRead cfg rel len).Ensures (undisturbed cfg)
      (fun bytes h' pci' => bytes = queueWindow cfg pci.mmap rel len ∧ MovesReadPtr h pci
        (if rel = cfg.maxOffset ∧ len = cfg.maxOffset then cfg.maxOffset
          else (rel + len) % cfg.maxOffset) h' pci')
      (fun _ _ _ => False) h pci := by
  have hsize := hfit.maxOffset_eq
  have hlt := hfit.size_lt
  have hheader : CircularBufferHeader.size ≤ pci.regionSize.toNat := by
    simp only [Config.queueOffset] at hM
    omega
  have hend : ∀ bytes p, bytes = queueWindow cfg pci.mmap rel len → p ≤ cfg.maxOffset →
      (if rel = cfg.maxOffset ∧ len = cfg.maxOffset then cfg.maxOffset
        else (rel + len) % cfg.maxOffset) = p →
      (updateReadPtr (uint32 p) >>= fun _ => pure bytes).Ensures (undisturbed cfg)
        (fun bytes h' pci' => bytes = queueWindow cfg pci.mmap rel len ∧ MovesReadPtr h pci
          (if rel = cfg.maxOffset ∧ len = cfg.maxOffset then cfg.maxOffset
            else (rel + len) % cfg.maxOffset) h' pci')
        (fun _ _ _ => False) h pci := by
    rintro bytes p rfl hp hptr
    rw [ensures_bind, hptr]
    exact (updateReadPtr_alone (by omega) hheader).mono
      (fun _ _ _ hmoves => alone_pure.mpr ⟨rfl, hmoves⟩) (fun _ _ _ hX => hX)
  apply wraparoundRead_then hfit hgeo hrel hlen
  · intro hfull
    refine read_alone (by omega)
      (ensures_raiseIf_bind.mpr ⟨fun hne => absurd load_length hne, fun _ => ?_⟩)
    refine hend _ _ (queueWindow_straight hfull).symm (by split_ifs <;> omega) ?_
    rw [if_neg (by omega)]
    split_ifs with heq
    · rw [heq, Nat.mod_self]
    · exact Nat.mod_eq_of_lt (by omega)
  · intro n hpos hsum
    refine read_alone (by omega)
      (ensures_raiseIf_bind.mpr ⟨fun hne => absurd load_length hne, fun _ => ?_⟩)
    refine read_alone (by omega)
      (ensures_raiseIf_bind.mpr ⟨fun hne => absurd load_length.symm hne, fun _ => ?_⟩)
    refine hend _ n ?_ (by omega) ?_
    · rw [queueWindow_wrap hrel hlen (by omega), show len - (cfg.maxOffset - rel) = n by omega]
    · have hmod : (rel + len) % cfg.maxOffset = if n = cfg.maxOffset then 0 else n := by
        rw [hsum, Nat.add_mod_left]
        split_ifs with hlap
        · rw [hlap, Nat.mod_self]
        · exact Nat.mod_eq_of_lt (by omega)
      rw [hmod]
      split_ifs <;> omega

lemma wraparoundRead_beyond (pci : PciDataHandler) (hfit : cfg.Fits) (hgeo : Geometry cfg h)
    {rel len : ℕ} (hlarge : cfg.maxOffset < rel ∨ cfg.maxOffset < len) :
    (wraparoundRead cfg rel len).Ensures (undisturbed cfg) (fun _ _ _ => False)
      (fun _ h' pci' => h' = h ∧ pci' = pci) h pci :=
  wraparoundRead_rejects hfit hgeo hlarge fun _ _ hw => ⟨rfl, (alone_later _).mp hw⟩

structure ReadsModulo (cfg : Config) (pci : PciDataHandler) (h : CircularBufferHeader)
    (rel len : ℕ) : Prop where
  within : rel ≤ cfg.maxOffset → len ≤ cfg.maxOffset → ∃ h' pci',
    (wraparoundRead cfg rel len h).run (PciDataHandler.perform cfg.sizeT) pci =
      ((.ok ((List.range len).map fun i =>
        queueCell cfg pci.mmap ((rel + i) % cfg.maxOffset)), h'), pci') ∧
    MovesReadPtr h pci ((rel + len) % cfg.maxOffset) h' pci'
  beyond : cfg.maxOffset < rel ∨ cfg.maxOffset < len → ∃ e,
    (wraparoundRead cfg rel len h).run (PciDataHandler.perform cfg.sizeT) pci = ((.error e, h), pci)

theorem wraparoundRead_modulo_iff (hM : cfg.queueOffset < cfg.queueRegionSize)
    (hr : h.queueSize < 2 ^ 24)
    (hgeo : Geometry cfg h) (hregion : cfg.queueRegionSize ≤ pci.regionSize.toNat) (rel len : ℕ) :
    ReadsModulo cfg pci h rel len ↔ ¬ (rel = cfg.maxOffset ∧ len = cfg.maxOffset) := by
  have hfit : cfg.Fits := ⟨hM.le, hgeo.1 ▸ hr⟩
  have hsize := hfit.maxOffset_eq
  constructor
  · rintro ⟨hwithin, -⟩ ⟨hrel, hlen⟩
    have hens := wraparoundRead_within pci hM hfit hgeo hregion hrel.le hlen.le
    obtain ⟨h', pci', hrun, hh, -⟩ := hwithin hrel.le hlen.le
    obtain ⟨-, hh', -⟩ := hens.ends hrun
    have hptr := congrArg CircularBufferHeader.bmcReadPtr (hh.symm.trans hh')
    dsimp only at hptr
    rw [if_pos ⟨hrel, hlen⟩, hrel, hlen, Nat.add_mod_left, Nat.mod_self] at hptr
    omega
  · intro hcorner
    refine ⟨fun hrel hlen => ?_, fun hlarge => ?_⟩
    · obtain ⟨bytes, h', pci', hrun, rfl, hmoves⟩ :=
        (wraparoundRead_within pci hM hfit hgeo hregion hrel hlen).exists_run
      rw [if_neg hcorner] at hmoves
      exact ⟨h', pci', hrun, hmoves⟩
    · have hens := wraparoundRead_beyond pci hfit hgeo hlarge
      rcases hrun : (wraparoundRead cfg rel len h).run (PciDataHandler.perform cfg.sizeT) pci
        with ⟨⟨e | _, h'⟩, pci'⟩
      · obtain ⟨rfl, rfl⟩ := hens.ends hrun
        exact ⟨e, hrun⟩
      · exact (hens.ends hrun).elim

lemma smallConfig_geometry : Geometry smallConfig (initializedFromConfig smallConfig) := ⟨rfl, rfl⟩

theorem wraparoundRead_modulo_iff_small :
    ReadsModulo smallConfig smallRegion (initializedFromConfig smallConfig) 6 7 ↔
      ¬ (6 = smallConfig.maxOffset ∧ 7 = smallConfig.maxOffset) :=
  wraparoundRead_modulo_iff (by decide) (by decide) smallConfig_geometry (by decide) 6 7

/-- All eight bytes are read from the end of the queue on, and the pointer is left there. -/
theorem wraparoundRead_not_modulo :
    ¬ ∀ (cfg : Config) (pci : PciDataHandler) (h : CircularBufferHeader) (rel len : ℕ),
    cfg.queueOffset < cfg.queueRegionSize → h.queueSize < 2 ^ 24 → Geometry cfg h →
      cfg.queueRegionSize ≤ pci.regionSize.toNat → ReadsModulo cfg pci h rel len := by
  intro hall
  have hreads := hall smallConfig smallRegion (initializedFromConfig smallConfig) 8 8 (by decide)
    (by decide) smallConfig_geometry (by decide)
  obtain ⟨h', pci', hrun, hheader, -⟩ := hreads.within (by decide) (by decide)
  have hptr : ((wraparoundRead smallConfig 8 8 (initializedFromConfig smallConfig)).run
      (PciDataHandler.perform .bits64) smallRegion).1.2.bmcReadPtr = 8 := by decide +kernel
  have hsame := congrArg (·.1.2.bmcReadPtr) hrun
  dsimp only at hsame
  rw [hheader] at hsame
  have hzero := hsame.symm.trans hptr
  revert hzero
  decide

end SmmErrorLogger.Buffer
