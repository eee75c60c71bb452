import SmmErrorLogger.Buffer.ErrorLogs

namespace SmmErrorLogger.Buffer

open Library.Bytes Library.Interaction Library.Circular
open Library.Interaction.Proc

variable {cfg : Config} {pci : PciDataHandler}

abbrev undisturbed (cfg : Config) : Environment DataInterface PciDataHandler :=
  alone (PciDataHandler.perform cfg.sizeT)

structure OnlyReadPtr (pci : PciDataHandler) (p : ℕ) (pci' : PciDataHandler) : Prop where
  regionSize : pci'.regionSize = pci.regionSize
  frame : ∀ i, i < CircularBufferHeader.bmcReadPtrOffset ∨
    CircularBufferHeader.bmcReadPtrOffset + 3 ≤ i → pci'.mmap i = pci.mmap i
  bmcReadPtr : (headerAt pci'.mmap).bmcReadPtr = p

lemma undisturbed_reader (hfit : cfg.Fits) (hM : 0 < cfg.maxOffset) {start : ℕ} {Fails : Prop}
    {readable : ℕ → Prop} (hheader : CircularBufferHeader.size ≤ pci.regionSize.toNat)
    (hF : (∀ k, readable k → ∀ j < k,
      cfg.queueOffset + (start + j) % cfg.maxOffset < pci.regionSize.toNat) ∨ Fails) :
    Reader cfg (undisturbed cfg) pci.mmap (fun a => a < pci.regionSize.toNat) start readable Fails
      (fun _ p pci' => OnlyReadPtr pci p pci') where
  stable _ h := h.elim
  read := by
    intro c p n pci' off len hJ hr hcells
    refine ⟨trivial, ?_⟩
    rintro bytes _ ha
    obtain ⟨rfl, rfl⟩ := Prod.mk.inj ha
    refine ⟨hJ, ?_⟩
    rcases Nat.eq_zero_or_pos len with rfl | hlen
    · exact Or.inl ⟨by simp [PciDataHandler.read, load], by simp⟩
    have hsize := hfit.maxOffset_eq
    have hlt := hfit.size_lt
    obtain ⟨k, hkn, hk⟩ := hcells (len - 1) (by omega)
    obtain ⟨k₀, _, hk₀⟩ := hcells 0 hlen
    have hlast := Nat.mod_lt (start + c + k) hM
    have hsame : load pci'.mmap off len = load pci.mmap off len := by
      refine load_congr (fun i _ => hJ.frame _ (Or.inr ?_))
      simp only [Config.queueOffset, CircularBufferHeader.size,
        CircularBufferHeader.bmcReadPtrOffset] at *
      omega
    rw [← hsame, ← hJ.regionSize]
    by_cases hfull : (pci'.read off len).length = len
    · have hle := PciDataHandler.length_read_le hfull hlen (by omega)
      exact Or.inl ⟨PciDataHandler.read_full hfull (by omega), fun i hi => by omega⟩
    · refine Or.inr ⟨hfull, hF.resolve_left (fun hregion => hfull ?_)⟩
      have hin := hregion _ hr (c + k) (by omega)
      rw [← Nat.add_assoc] at hin
      rw [PciDataHandler.read_within (by rw [hJ.regionSize]; omega), load_length]
  write := by
    intro c p n p' pci' hJ _ hle _
    refine ⟨trivial, ?_⟩
    rintro written _ ha
    have hlen : (littleEndian 3 p').length = 3 := littleEndian_length 3 p'
    have hwrite : pci'.write cfg.sizeT CircularBufferHeader.bmcReadPtrOffset
        (littleEndian 3 p') = _ :=
      PciDataHandler.write_within (by
        rw [hJ.regionSize, hlen]
        simp only [CircularBufferHeader.size, CircularBufferHeader.bmcReadPtrOffset] at *
        omega) (by rw [hlen]; norm_num)
    obtain ⟨rfl, rfl⟩ := Prod.mk.inj (hwrite.symm.trans ha)
    refine Or.inl ⟨hlen, hJ.regionSize, fun i hi => ?_, ?_⟩
    · exact (store_outside (by rw [hlen]; exact hi)).trans (hJ.frame i hi)
    · have hsize := hfit.maxOffset_eq
      have hlt := hfit.size_lt
      change (headerAt (store pci'.mmap _ (littleEndian 3 p'))).bmcReadPtr = p'
      rw [headerAt_store_bmcReadPtr]
      exact Nat.mod_eq_of_lt (by omega)

lemma readBufferHeader_undisturbed {Q : Unit → CircularBufferHeader → PciDataHandler → Prop}
    {X : BufferError → CircularBufferHeader → PciDataHandler → Prop} {h : CircularBufferHeader}
    (hQ : CircularBufferHeader.size ≤ pci.regionSize.toNat → Q () (headerAt pci.mmap) pci)
    (hX : pci.regionSize.toNat < CircularBufferHeader.size → ∀ e, X e h pci) :
    readBufferHeader.Ensures (undisturbed cfg) Q X h pci := by
  refine readBufferHeader_ensures (fun w' hw => ⟨trivial, ?_⟩)
  obtain rfl := ((alone_later _).mp hw).symm
  rintro bytes _ ha w₃ hw₃
  obtain ⟨rfl, rfl⟩ := Prod.mk.inj ha
  obtain rfl := ((alone_later _).mp hw₃).symm
  have hsize : 0 + CircularBufferHeader.size < 2 ^ 32 := by norm_num [CircularBufferHeader.size]
  by_cases hfull : (pci.read 0 CircularBufferHeader.size).length = CircularBufferHeader.size
  · rw [if_pos hfull, PciDataHandler.read_full hfull hsize]
    have hle := PciDataHandler.length_read_le hfull
      (by norm_num [CircularBufferHeader.size]) hsize
    exact hQ (by simpa using hle)
  · rw [if_neg hfull]
    refine hX (not_le.mp fun hle => hfull ?_) _
    rw [PciDataHandler.read_within (by simpa using hle), load_length]

structure Parsed (cfg : Config) (pci : PciDataHandler) (es : List EntryPair) (p : ℕ) : Prop where
  parses : Parses cfg pci.mmap (headerAt pci.mmap).bmcReadPtr (unread cfg (headerAt pci.mmap)) 0 es
  le : p ≤ cfg.maxOffset
  pos : p % cfg.maxOffset = ((headerAt pci.mmap).bmcReadPtr + (batchBytes es).length) %
    cfg.maxOffset
  atEnd : p = cfg.maxOffset → (headerAt pci.mmap).bmcReadPtr = cfg.maxOffset
  none : es = [] → p = (headerAt pci.mmap).bmcReadPtr
  mapped : ∀ k < (batchBytes es).length,
    cfg.queueOffset + ((headerAt pci.mmap).bmcReadPtr + k) % cfg.maxOffset < pci.regionSize.toNat

theorem readErrorLogs_undisturbed (hsize : cfg.queueOffset ≤ cfg.queueRegionSize) {Fails : Prop}
    (readable : ℕ → Prop) {h : CircularBufferHeader}
    (hheader : CircularBufferHeader.size ≤ pci.regionSize.toNat ∨ Fails)
    (hacc : Accepted cfg (headerAt pci.mmap) ∨ Fails)
    (hregion : (∀ k, readable k → ∀ j < k, cfg.queueOffset +
      ((headerAt pci.mmap).bmcReadPtr + j) % cfg.maxOffset < pci.regionSize.toNat) ∨ Fails)
    (hready : Accepted cfg (headerAt pci.mmap) →
      Reader.Ready cfg pci.mmap (headerAt pci.mmap).bmcReadPtr
      (unread cfg (headerAt pci.mmap)) readable Fails 0)
    (hlands : ∀ es p, Parsed cfg pci es p →
      (headerAt pci.mmap).biosWritePtr = p ∨ Fails) :
    (readErrorLogs cfg).Ensures (undisturbed cfg)
      (fun es h' pci' => Accepted cfg (headerAt pci.mmap) ∧
        OnlyReadPtr pci (headerAt pci.mmap).biosWritePtr pci' ∧
        h'.bmcReadPtr = (headerAt pci.mmap).biosWritePtr ∧
        Parsed cfg pci es (headerAt pci.mmap).biosWritePtr)
      (fun _ _ _ => Fails) h pci := by
  refine readErrorLogs_ensures (readBufferHeader_undisturbed (fun hin => ?_)
    (fun hlt _ => hheader.resolve_left (not_le.mpr hlt)))
  have hfit : Geometry cfg (headerAt pci.mmap) → cfg.Fits := fun hgeo =>
    ⟨hsize, hgeo.1 ▸ CircularBufferHeader.ofBytes_queueSize_lt _⟩
  refine ⟨hfit, fun hn _ _ _ => hacc.resolve_left hn, ?_, ?_⟩
  · intro ha heq w' hw
    obtain rfl := (alone_later _).mp hw
    refine ⟨ha, ⟨rfl, fun _ _ => rfl, heq.symm⟩, heq.symm, ?_⟩
    exact ⟨.done (by simp [unread, heq]), ha.biosWritePtr, by simp [heq], fun he => heq ▸ he,
      fun _ => heq, by simp⟩
  · intro ha hne
    have hM : 0 < cfg.maxOffset := by
      have := ha.biosWritePtr
      have := ha.bmcReadPtr
      omega
    have R : Reader cfg (undisturbed cfg) pci.mmap _ _ _ _ _ :=
      undisturbed_reader (hfit ha.geometry) hM hin hregion
    have hto : ReadTo cfg (headerAt pci.mmap).bmcReadPtr (fun _ p pci' => OnlyReadPtr pci p pci')
        (headerAt pci.mmap) 0 (headerAt pci.mmap) pci :=
      ⟨ha.bmcReadPtr, rfl, rfl, rfl, fun _ _ => rfl, rfl⟩
    apply (R.readEntries_ensures (hfit ha.geometry) ha.geometry [] (by omega) (hready ha)
      hto).mono ?_ (fun _ _ _ hX => hX)
    rintro es h₁ w₁ ⟨_, rfl, hes, hend, hnone, hmapped, hto₁⟩ w₂ hw
    obtain rfl := (alone_later _).mp hw
    have hparsed : Parsed cfg pci es h₁.bmcReadPtr :=
      ⟨hes, hto₁.le, by simpa using hto₁.pos, fun he => (hend he).1, hnone, by simpa using hmapped⟩
    split_ifs with he
    · rw [he]
      exact ⟨ha, hto₁.world, rfl, hparsed⟩
    · exact (hlands es _ hparsed).resolve_left he

lemma readErrorLogs_parsed (hsize : cfg.queueOffset ≤ cfg.queueRegionSize)
    (h : CircularBufferHeader) :
    (readErrorLogs cfg).Ensures (undisturbed cfg)
      (fun es h' pci' => Accepted cfg (headerAt pci.mmap) ∧
        OnlyReadPtr pci (headerAt pci.mmap).biosWritePtr pci' ∧
        h'.bmcReadPtr = (headerAt pci.mmap).biosWritePtr ∧
        Parsed cfg pci es (headerAt pci.mmap).biosWritePtr)
      (fun _ _ _ => True) h pci :=
  readErrorLogs_undisturbed hsize (fun _ => True) (Or.inr trivial) (Or.inr trivial)
    (Or.inr trivial) (fun _ => Or.inl ⟨trivial, fun _ => trivial⟩) (fun _ _ _ => Or.inr trivial)

lemma unread_pos {h : CircularBufferHeader} (ha : Accepted cfg h)
    (hne : h.biosWritePtr ≠ h.bmcReadPtr) :
    (h.bmcReadPtr + unread cfg h = h.biosWritePtr ∨
      h.bmcReadPtr + unread cfg h = cfg.maxOffset + h.biosWritePtr) ∧ unread cfg h ≤ cfg.maxOffset ∧
      (unread cfg h = 0 → h.bmcReadPtr = cfg.maxOffset ∧ h.biosWritePtr = 0) := by
  have hw := ha.biosWritePtr
  have hr := ha.bmcReadPtr
  rw [unread, if_neg hne]
  split_ifs <;> omega

namespace Parsed

variable {es : List EntryPair} {p : ℕ}

lemma empty_iff (hp : Parsed cfg pci es p) : es = [] ↔ unread cfg (headerAt pci.mmap) = 0 := by
  cases hp.parses with
  | done h => exact ⟨fun _ => by omega, fun _ => rfl⟩
  | entry h => exact ⟨by simp, by omega⟩

lemma lands_iff (hM : 0 < cfg.maxOffset) (ha : Accepted cfg (headerAt pci.mmap))
    (hp : Parsed cfg pci es p)
    (hne : (headerAt pci.mmap).biosWritePtr ≠ (headerAt pci.mmap).bmcReadPtr) :
    (headerAt pci.mmap).biosWritePtr = p ↔ (headerAt pci.mmap).biosWritePtr < cfg.maxOffset ∧
      ¬ ((headerAt pci.mmap).bmcReadPtr = cfg.maxOffset ∧ (headerAt pci.mmap).biosWritePtr = 0) ∧
      (batchBytes es).length ≡ unread cfg (headerAt pci.mmap) [MOD cfg.maxOffset] := by
  obtain ⟨hlap, hle, hzero⟩ := unread_pos ha hne
  have hw := ha.biosWritePtr
  have hpos := hp.pos
  generalize (headerAt pci.mmap).biosWritePtr = bw at *
  generalize hrp : (headerAt pci.mmap).bmcReadPtr = r at *
  have htarget : (r + unread cfg (headerAt pci.mmap)) % cfg.maxOffset = bw % cfg.maxOffset := by
    rcases hlap with h | h <;> rw [h]
    exact Nat.add_mod_left _ _
  constructor
  · rintro rfl
    have hlt : bw ≠ cfg.maxOffset := fun he => hne (he.trans (hrp ▸ hp.atEnd he).symm)
    refine ⟨by omega, ?_, Nat.ModEq.add_left_cancel' r (hpos.symm.trans htarget.symm)⟩
    rintro ⟨hr, rfl⟩
    have hes := hp.empty_iff.mpr (by omega)
    exact hne (hrp ▸ hp.none hes)
  · rintro ⟨hlt, hcorner, hmod⟩
    have hp' : p % cfg.maxOffset = bw := by
      rw [hpos, ← Nat.mod_eq_of_lt hlt, ← htarget]
      exact Nat.ModEq.add_left r hmod
    have hple := hp.le
    rcases hple.eq_or_lt with rfl | hplt
    · rw [Nat.mod_self] at hp'
      exact (hcorner ⟨hrp ▸ hp.atEnd rfl, hp'.symm⟩).elim
    · rw [← hp', Nat.mod_eq_of_lt hplt]

lemma length_of_modEq (hp : Parsed cfg pci es p)
    (h : (batchBytes es).length ≡ unread cfg (headerAt pci.mmap) [MOD cfg.maxOffset]) :
    (batchBytes es).length = unread cfg (headerAt pci.mmap) ∨
      es ≠ [] ∧ (batchBytes es).length = unread cfg (headerAt pci.mmap) + cfg.maxOffset := by
  obtain ⟨hge, hlt⟩ := hp.parses.consumed
  obtain ⟨d, hd⟩ := Nat.exists_eq_add_of_le hge
  rw [Nat.zero_add] at hd hlt
  rcases hlt with rfl | hlt
  · exact Or.inl (by simp only [batchBytes_nil, List.length_nil] at *; omega)
  have hes : es ≠ [] → QueueEntryHeader.size ≤ cfg.maxOffset := by
    rcases hp.parses with - | ⟨-, hsize⟩
    · simp
    · exact fun _ => hsize
  by_cases hnil : es = []
  · obtain rfl := hnil
    exact Or.inl (by simpa using (hp.empty_iff.mp rfl).symm)
  have hdvd : cfg.maxOffset ∣ d := by
    rw [hd] at h
    exact Nat.modEq_zero_iff_dvd.mp (Nat.ModEq.add_left_cancel' _ h)
  obtain ⟨k, rfl⟩ := hdvd
  have hk : k < 2 := by
    by_contra hk
    have := Nat.mul_le_mul_left cfg.maxOffset (not_lt.mp hk)
    have := hes hnil
    omega
  interval_cases k
  · exact Or.inl (by omega)
  · exact Or.inr ⟨hnil, by omega⟩

end Parsed

end SmmErrorLogger.Buffer
