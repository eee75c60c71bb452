import SmmErrorLogger.Buffer.BufferImpl
import SmmErrorLogger.Buffer.HeaderMemory
import SmmErrorLogger.Library.Circular

/-! What `wraparoundRead` does to a queue whose unread bytes stay put while it runs. -/

namespace SmmErrorLogger

open Buffer

namespace Config

variable (cfg : Config)

def queueOffset : ℕ := CircularBufferHeader.size + cfg.ueRegionSize

def maxOffset : ℕ := cfg.queueRegionSize - cfg.ueRegionSize - CircularBufferHeader.size

structure Fits : Prop where
  regions : cfg.queueOffset ≤ cfg.queueRegionSize
  size_lt : cfg.queueRegionSize < 2 ^ 24

variable {cfg}

lemma Fits.maxOffset_eq (hfit : cfg.Fits) :
    cfg.queueOffset + cfg.maxOffset = cfg.queueRegionSize := by
  have := hfit.regions
  simp only [queueOffset, maxOffset] at *
  omega

lemma Fits.sub_eq (hfit : cfg.Fits) :
    cfg.sizeT.sub (cfg.sizeT.sub cfg.queueRegionSize cfg.ueRegionSize) CircularBufferHeader.size =
      cfg.maxOffset := by
  have hs := cfg.sizeT.modulus_ge
  have hr := hfit.regions
  have hl := hfit.size_lt
  simp only [queueOffset] at hr
  rw [WordSize.sub_of_le (a := cfg.queueRegionSize) (by omega) (by omega),
    WordSize.sub_of_le (by omega) (by omega), maxOffset]

end Config

namespace Buffer

open Library.Bytes Library.Interaction Library.Circular
open Library.Interaction.Proc

variable {cfg : Config} {W : Type}

def Geometry (cfg : Config) (h : CircularBufferHeader) : Prop :=
  h.queueSize = cfg.queueRegionSize ∧ h.ueRegionSize = cfg.ueRegionSize

section

variable {E : Environment DataInterface W} {α : Type} {Q : α → CircularBufferHeader → W → Prop}
  {X : BufferError → CircularBufferHeader → W → Prop} {h : CircularBufferHeader} {w : W}

lemma getMaxOffset_then (hfit : cfg.Fits) (hgeo : Geometry cfg h) {f : ℕ → BufferM α}
    (hf : (f cfg.maxOffset).Ensures E Q X h w) : (getMaxOffset cfg >>= f).Ensures E Q X h w := by
  rw [ensures_bind, getMaxOffset, ensures_fetch_bind]
  refine ensures_raiseIf_bind.mpr ⟨fun hc => absurd hgeo.1 hc, fun _ => ?_⟩
  refine ensures_raiseIf_bind.mpr ⟨fun hc => absurd hgeo.2 hc, fun _ => ?_⟩
  rw [hgeo.1, hgeo.2, hfit.sub_eq]
  exact fun w' hw => hf.later hw

lemma getQueueOffset_then (hgeo : Geometry cfg h) {f : ℕ → BufferM α}
    (hf : (f cfg.queueOffset).Ensures E Q X h w) :
    (getQueueOffset cfg >>= f).Ensures E Q X h w := by
  rw [ensures_bind, getQueueOffset, ensures_fetch_bind]
  refine ensures_raiseIf_bind.mpr ⟨fun hc => absurd hgeo.2 hc, fun _ => ?_⟩
  rw [hgeo.2]
  exact fun w' hw => hf.later hw

lemma wraparoundRead_rejects (hfit : cfg.Fits) (hgeo : Geometry cfg h) {rel len : ℕ}
    (hlarge : cfg.maxOffset < rel ∨ cfg.maxOffset < len)
    {Q : List UInt8 → CircularBufferHeader → W → Prop}
    (hX : ∀ e w', E.Later w w' → X e h w') : (wraparoundRead cfg rel len).Ensures E Q X h w := by
  rw [wraparoundRead]
  refine getMaxOffset_then hfit hgeo (ensures_raiseIf_bind.mpr ⟨fun _ => hX _, fun hrel => ?_⟩)
  exact ensures_raiseIf_bind.mpr ⟨fun _ => hX _, fun hlen => (hlarge.elim hrel hlen).elim⟩

lemma wraparoundRead_then (hfit : cfg.Fits) (hgeo : Geometry cfg h) {rel len : ℕ}
    (hrel : rel ≤ cfg.maxOffset)
    (hlen : len ≤ cfg.maxOffset) {Q : List UInt8 → CircularBufferHeader → W → Prop}
    (hstraight : rel + len ≤ cfg.maxOffset →
      (DataInterface.read (cfg.queueOffset + rel) len >>= fun bytes =>
        raiseIf (bytes.length ≠ len) (.shortRead bytes.length len) >>= fun _ =>
        updateReadPtr (uint32 (if rel + len = cfg.maxOffset then 0 else rel + len)) >>= fun _ =>
        pure bytes).Ensures E Q X h w)
    (hwraps : ∀ n, 0 < n → rel + len = cfg.maxOffset + n →
      (DataInterface.read (cfg.queueOffset + rel) (cfg.maxOffset - rel) >>= fun bytes =>
        raiseIf (bytes.length ≠ cfg.maxOffset - rel)
          (.shortRead bytes.length (cfg.maxOffset - rel)) >>= fun _ =>
        DataInterface.read cfg.queueOffset n >>= fun wrapped =>
        raiseIf (n ≠ wrapped.length) (.shortWrappedRead wrapped.length n) >>= fun _ =>
        updateReadPtr (uint32 n) >>= fun _ => pure (bytes ++ wrapped)).Ensures E Q X h w) :
    (wraparoundRead cfg rel len).Ensures E Q X h w := by
  have hsize := hfit.maxOffset_eq
  have hlt := hfit.size_lt
  rw [wraparoundRead]
  refine getMaxOffset_then hfit hgeo
    (ensures_raiseIf_bind.mpr ⟨fun hgt => absurd hrel (not_le.mpr hgt), fun _ => ?_⟩)
  refine ensures_raiseIf_bind.mpr
    ⟨fun hgt => absurd hlen (not_le.mpr hgt), fun _ => getQueueOffset_then hgeo ?_⟩
  dsimp only
  by_cases hfull : rel + len ≤ cfg.maxOffset
  · have hcall := hstraight hfull
    rw [if_neg (by omega), Nat.sub_zero, uint32_of_lt (by omega), uint32_of_lt (by omega)]
    rw [DataInterface.read_then] at hcall ⊢
    intro w₁ hw₁
    obtain ⟨hpermits, hanswers⟩ := hcall w₁ hw₁
    refine ⟨hpermits, fun bytes w₂ ha => ?_⟩
    have hrest := hanswers bytes w₂ ha
    rw [ensures_raiseIf_bind] at hrest ⊢
    exact ⟨hrest.1, fun hlength => hrest.2 hlength⟩
  · obtain ⟨n, hn⟩ := Nat.exists_eq_add_of_lt (not_le.mp hfull)
    have hcall := hwraps (n + 1) (Nat.succ_pos n) hn
    have hlater : len - (cfg.maxOffset - rel) = n + 1 := by omega
    have hfirst : len - (n + 1) = cfg.maxOffset - rel := by omega
    rw [if_pos (by omega), hlater, hfirst, uint32_of_lt (by omega), uint32_of_lt (by omega),
      uint32_of_lt (by omega), uint32_of_lt (by omega)]
    rw [DataInterface.read_then] at hcall ⊢
    intro w₁ hw₁
    obtain ⟨hpermits, hanswers⟩ := hcall w₁ hw₁
    refine ⟨hpermits, fun bytes w₂ ha => ?_⟩
    have hrest := hanswers bytes w₂ ha
    rw [ensures_raiseIf_bind] at hrest ⊢
    refine ⟨hrest.1, fun hlength => ?_⟩
    have hsecond := hrest.2 hlength
    rw [if_pos (Nat.succ_pos n), ensures_bind, DataInterface.read_then]
    rw [DataInterface.read_then] at hsecond
    intro w₃ hw₃
    obtain ⟨hpermits₃, hanswers₃⟩ := hsecond w₃ hw₃
    refine ⟨hpermits₃, fun wrapped w₄ ha₄ => ?_⟩
    have hend := hanswers₃ wrapped w₄ ha₄
    rw [ensures_raiseIf_bind] at hend ⊢
    exact ⟨hend.1, fun hlength => fun _ hw => (hend.2 hlength).later hw⟩

end

def queueCell (cfg : Config) (m : Memory) (i : ℕ) : UInt8 := m (cfg.queueOffset + i)

lemma queueCell_store_inside {m : Memory} {i : ℕ} {b : UInt8} :
    queueCell cfg (store m (cfg.queueOffset + i) [b]) = Function.update (queueCell cfg m) i b := by
  funext j
  by_cases hj : j = i
  · subst hj
    rw [Function.update_self, queueCell, store, if_pos (by simp)]
    simp
  · rw [Function.update_of_ne hj, queueCell, store_outside (by simp; omega)]
    rfl

def queueWindow (cfg : Config) (m : Memory) (start n : ℕ) : List UInt8 :=
  window (queueCell cfg m) cfg.maxOffset start n

/-- `J c p` holds when `c` bytes of a read that began at `start` are consumed and the read
pointer is `p`. What is still readable keeps the bytes it has in `m`, whatever the others
do. `Mapped` holds of the addresses that can be read, and `Fails` says whether an access may
fall short. -/
structure Reader (cfg : Config) (E : Environment DataInterface W) (m : Memory) (Mapped : ℕ → Prop)
    (start : ℕ) (readable : ℕ → Prop) (Fails : Prop) (J : ℕ → ℕ → W → Prop) : Prop where
  stable : ∀ {c p w w'}, J c p w → E.interferes w w' → J c p w'
  read : ∀ {c p n w off len}, J c p w → readable (c + n) →
    (∀ i < len, ∃ k < n, off + i = cfg.queueOffset + (start + c + k) % cfg.maxOffset) →
    E.permits w (.read off len) ∧ ∀ (bytes : List UInt8) w', E.answers w (.read off len) bytes w' →
      J c p w' ∧ ((bytes = load m off len ∧ ∀ i < len, Mapped (off + i)) ∨
        bytes.length ≠ len ∧ Fails)
  write : ∀ {c p n p' w}, J c p w → readable (c + n) → p' ≤ cfg.maxOffset →
    p' % cfg.maxOffset = (start + (c + n)) % cfg.maxOffset →
    let op := DataOp.write CircularBufferHeader.bmcReadPtrOffset (littleEndian 3 p')
    E.permits w op ∧ ∀ (written : ℕ) w', E.answers w op written w' →
      written = 3 ∧ J (c + n) p' w' ∨ written ≠ 3 ∧ Fails

/-- `c` bytes are consumed: the cached header differs from `h₀` in the read pointer only. -/
structure ReadTo (cfg : Config) (start : ℕ) (J : ℕ → ℕ → W → Prop) (h₀ : CircularBufferHeader)
    (c : ℕ) (h : CircularBufferHeader) (w : W) : Prop where
  le : h.bmcReadPtr ≤ cfg.maxOffset
  pos : h.bmcReadPtr % cfg.maxOffset = (start + c) % cfg.maxOffset
  cached : h = { h₀ with bmcReadPtr := h.bmcReadPtr }
  world : J c h.bmcReadPtr w

lemma ReadTo.geometry {start c : ℕ} {J : ℕ → ℕ → W → Prop} {h₀ h : CircularBufferHeader} {w : W}
    (hto : ReadTo cfg start J h₀ c h w) (hgeo : Geometry cfg h₀) : Geometry cfg h := by
  rw [hto.cached]
  exact hgeo

namespace Reader

variable {E : Environment DataInterface W} {m : Memory} {Mapped : ℕ → Prop} {start : ℕ}
  {readable : ℕ → Prop}
  {Fails : Prop} {J : ℕ → ℕ → W → Prop} {h₀ h : CircularBufferHeader} {w : W}

lemma later (R : Reader cfg E m Mapped start readable Fails J) {c p : ℕ} {w w' : W} (h : J c p w)
    (hw : E.Later w w') : J c p w' := by
  induction hw with
  | refl => exact h
  | tail _ hs ih => exact R.stable ih hs

lemma readTo_later (R : Reader cfg E m Mapped start readable Fails J) {c : ℕ} {w' : W}
    (hto : ReadTo cfg start J h₀ c h w) (hw : E.Later w w') : ReadTo cfg start J h₀ c h w' :=
  ⟨hto.le, hto.pos, hto.cached, R.later hto.world hw⟩

lemma updateReadPtr_ensures (R : Reader cfg E m Mapped start readable Fails J) (hfit : cfg.Fits)
    {c n p : ℕ} (hr : readable (c + n)) (hto : ReadTo cfg start J h₀ c h w)
    (hle : p ≤ cfg.maxOffset) (hp : p % cfg.maxOffset = (start + (c + n)) % cfg.maxOffset) :
    (updateReadPtr (uint32 p)).Ensures E
      (fun _ h' w' => h'.bmcReadPtr = p ∧ ReadTo cfg start J h₀ (c + n) h' w')
      (fun _ _ _ => Fails) h w := by
  have hlt : p < 2 ^ 24 := by
    have := hfit.size_lt
    have := hfit.maxOffset_eq
    omega
  rw [updateReadPtr, DataInterface.write_then, truncatedReadPtr_eq hlt]
  intro w' hw
  obtain ⟨hperm, hans⟩ := R.write (R.later hto.world hw) hr hle hp
  refine ⟨hperm, fun written w'' ha => ?_⟩
  rcases hans written w'' ha with ⟨rfl, hJ⟩ | ⟨hne, hf⟩
  · refine ensures_raiseIf_bind.mpr
      ⟨fun hne => absurd rfl hne, fun _ w₃ hw₃ => ⟨rfl, hle, hp, ?_, ?_⟩⟩
    · rw [hto.cached]
    · exact R.later hJ hw₃
  · exact ensures_raiseIf_bind.mpr ⟨fun _ _ _ => hf, fun he => absurd hne he⟩

lemma read_then (R : Reader cfg E m Mapped start readable Fails J) {α : Type} {c p n off len : ℕ}
    {Q : α → CircularBufferHeader → W → Prop}
    {e : List UInt8 → BufferError} {short : List UInt8 → Prop} [DecidablePred short]
    {f : List UInt8 → BufferM α}
    (hr : readable (c + n)) (hJ : J c p w) (hshort : ∀ bytes, short bytes ↔ bytes.length ≠ len)
    (hcells : ∀ i < len, ∃ k < n, off + i = cfg.queueOffset + (start + c + k) % cfg.maxOffset)
    (hf : ∀ w', J c p w' → (∀ i < len, Mapped (off + i)) →
      (f (load m off len)).Ensures E Q (fun _ _ _ => Fails) h w') :
    (DataInterface.read off len >>= fun bytes => raiseIf (short bytes) (e bytes) >>= fun _ =>
      f bytes).Ensures E Q (fun _ _ _ => Fails) h w := by
  rw [DataInterface.read_then]
  intro w' hw
  obtain ⟨hperm, hans⟩ := R.read (R.later hJ hw) hr hcells
  refine ⟨hperm, fun bytes w'' ha => ensures_raiseIf_bind.mpr ?_⟩
  rw [hshort]
  obtain ⟨hJ', ⟨rfl, hmapped⟩ | ⟨hne, hfail⟩⟩ := hans bytes w'' ha
  · exact ⟨fun hne => absurd load_length hne, fun _ => hf w'' hJ' hmapped⟩
  · exact ⟨fun _ _ _ => hfail, fun he => absurd hne he⟩

end Reader

@[simp] lemma queueWindow_length (m : Memory) (start n : ℕ) :
    (queueWindow cfg m start n).length = n :=
  window_length _ _

lemma queueWindow_add (m : Memory) (start a b : ℕ) : queueWindow cfg m start (a + b) =
    queueWindow cfg m start a ++ queueWindow cfg m (start + a) b :=
  window_add _ _ _

lemma queueWindow_mod (cfg : Config) (m : Memory) {a b : ℕ}
    (h : a % cfg.maxOffset = b % cfg.maxOffset) (n : ℕ) :
    queueWindow cfg m a n = queueWindow cfg m b n := by
  rw [queueWindow, ← window_mod, h, window_mod, queueWindow]

lemma queueWindow_straight {m : Memory} {rel n : ℕ} (h : rel + n ≤ cfg.maxOffset) :
    queueWindow cfg m rel n = load m (cfg.queueOffset + rel) n := by
  simp [queueWindow, window_straight h, load, queueCell, Nat.add_assoc]

lemma queueWindow_wrap {m : Memory} {rel n : ℕ} (hrel : rel ≤ cfg.maxOffset)
    (hn : n ≤ cfg.maxOffset) (h : cfg.maxOffset ≤ rel + n) :
    queueWindow cfg m rel n = load m (cfg.queueOffset + rel) (cfg.maxOffset - rel) ++
      load m cfg.queueOffset (n - (cfg.maxOffset - rel)) := by
  rw [queueWindow, window_wrap hrel h, window_straight (by omega)]
  simp [load, queueCell, Nat.add_assoc]

namespace Reader

variable {E : Environment DataInterface W} {m : Memory} {Mapped : ℕ → Prop} {start : ℕ}
  {readable : ℕ → Prop}
  {Fails : Prop} {J : ℕ → ℕ → W → Prop} {h₀ h : CircularBufferHeader} {w : W}

theorem wraparoundRead_ensures (R : Reader cfg E m Mapped start readable Fails J) (hfit : cfg.Fits)
    {c n : ℕ} (hgeo : Geometry cfg h₀) (hn : n ≤ cfg.maxOffset) (hr : readable (c + n))
    (hto : ReadTo cfg start J h₀ c h w) :
    (wraparoundRead cfg h.bmcReadPtr n).Ensures E
      (fun bytes h' w' => bytes = queueWindow cfg m (start + c) n ∧
        (∀ k < n, Mapped (cfg.queueOffset + (start + c + k) % cfg.maxOffset)) ∧
        (h'.bmcReadPtr = cfg.maxOffset → h.bmcReadPtr = cfg.maxOffset ∧ n = cfg.maxOffset) ∧
        ReadTo cfg start J h₀ (c + n) h' w')
      (fun _ _ _ => Fails) h w := by
  have hrel := hto.le
  generalize hptr : h.bmcReadPtr = rel at *
  have hshift : ∀ k, (start + c + k) % cfg.maxOffset = (rel + k) % cfg.maxOffset :=
    fun k => (Nat.ModEq.add_right k (hptr ▸ hto.pos)).symm
  have hend : ∀ w' bytes p, J c rel w' → bytes = queueWindow cfg m rel n →
      (∀ k < n, Mapped (cfg.queueOffset + (start + c + k) % cfg.maxOffset)) → p ≤ cfg.maxOffset →
      p % cfg.maxOffset = (rel + n) % cfg.maxOffset →
      (p = cfg.maxOffset → rel = cfg.maxOffset ∧ n = cfg.maxOffset) →
      (updateReadPtr (uint32 p) >>= fun _ => pure bytes).Ensures E
        (fun bytes h' w' => bytes = queueWindow cfg m (start + c) n ∧
          (∀ k < n, Mapped (cfg.queueOffset + (start + c + k) % cfg.maxOffset)) ∧
          (h'.bmcReadPtr = cfg.maxOffset → rel = cfg.maxOffset ∧ n = cfg.maxOffset) ∧
          ReadTo cfg start J h₀ (c + n) h' w')
        (fun _ _ _ => Fails) h w' := by
    rintro w' bytes p hJ rfl hmapped hle hp hM
    rw [← hshift, Nat.add_assoc] at hp
    rw [ensures_bind, queueWindow_mod cfg m (hptr ▸ hto.pos)]
    have hto' : ReadTo cfg start J h₀ c h w' := ⟨hto.le, hto.pos, hto.cached, hptr ▸ hJ⟩
    apply (R.updateReadPtr_ensures hfit hr hto' hle hp).mono ?_ (fun _ _ _ hX => hX)
    rintro _ h' w₁ ⟨rfl, hto₁⟩ w₂ hw
    exact ⟨rfl, hmapped, hM, R.readTo_later hto₁ hw⟩
  have hJ : J c rel w := hptr ▸ hto.world
  have hfirst : ∀ k, rel + k < cfg.maxOffset →
      cfg.queueOffset + rel + k = cfg.queueOffset + (start + c + k) % cfg.maxOffset := by
    intro k hk
    rw [hshift, Nat.mod_eq_of_lt hk, Nat.add_assoc]
  apply wraparoundRead_then hfit (hto.geometry hgeo) hrel hn
  · intro hfull
    refine R.read_then hr hJ (fun _ => Iff.rfl) (fun i hi => ⟨i, hi, hfirst i (by omega)⟩)
      (fun w' hJ' hmapped => ?_)
    refine hend w' _ _ hJ' (queueWindow_straight hfull).symm ?_
      (by split_ifs <;> omega) ?_ (by split_ifs <;> omega)
    · exact fun k hk => hfirst k (by omega) ▸ hmapped k hk
    · split_ifs with heq
      · rw [heq, Nat.mod_self, Nat.zero_mod]
      · rfl
  · intro n₂ hpos hsum
    have hsecond : ∀ i < n₂, cfg.queueOffset + i =
        cfg.queueOffset + (start + c + (cfg.maxOffset - rel + i)) % cfg.maxOffset := by
      intro i hi
      rw [hshift, show rel + (cfg.maxOffset - rel + i) = cfg.maxOffset +
        i by omega, Nat.add_mod_left, Nat.mod_eq_of_lt (by omega)]
    refine R.read_then hr hJ (fun _ => Iff.rfl) (fun i hi => ⟨i, by omega, hfirst i (by omega)⟩)
      (fun w₁ hJ₁ hmapped₁ => ?_)
    refine R.read_then hr hJ₁ (fun _ => ne_comm) (fun i hi => ⟨_, by omega, hsecond i hi⟩)
      (fun w₂ hJ₂ hmapped₂ => ?_)
    refine hend w₂ _ n₂ hJ₂ ?_ ?_ (by omega) ?_ (by omega)
    · rw [queueWindow_wrap hrel hn (by omega), show n - (cfg.maxOffset - rel) = n₂ by omega]
    · intro k hk
      by_cases hk₁ : k < cfg.maxOffset - rel
      · exact hfirst k (by omega) ▸ hmapped₁ k hk₁
      · obtain ⟨i, rfl⟩ := Nat.exists_eq_add_of_le (not_lt.mp hk₁)
        exact hsecond i (by omega) ▸ hmapped₂ i (by omega)
    · rw [hsum, Nat.add_mod_left]

end Reader

end Buffer

end SmmErrorLogger
