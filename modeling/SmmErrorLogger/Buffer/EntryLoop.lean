import SmmErrorLogger.Buffer.QueueParser

namespace SmmErrorLogger.Buffer.Reader

open Library.Bytes Library.Interaction Library.Circular
open Library.Interaction.Proc

variable {cfg : Config} {W : Type} {E : Environment DataInterface W} {m : Memory}
  {Mapped : ℕ → Prop} {start : ℕ} {readable : ℕ → Prop} {Fails : Prop} {J : ℕ → ℕ → W → Prop}
  {h₀ h : CircularBufferHeader} {w : W}

lemma readEntryHeader_ensures (R : Reader cfg E m Mapped start readable Fails J)
    (hfit : cfg.Fits) {c : ℕ}
    (hgeo : Geometry cfg h₀) (hsize : QueueEntryHeader.size ≤ cfg.maxOffset ∨ Fails)
    (hr : readable (c + QueueEntryHeader.size)) (hto : ReadTo cfg start J h₀ c h w) :
    (readEntryHeader cfg).Ensures E
      (fun header h' w' => header = (entryAt cfg m (start + c)).1 ∧
        QueueEntryHeader.size ≤ cfg.maxOffset ∧
        (∀ k < QueueEntryHeader.size, Mapped (cfg.queueOffset + (start + c + k) % cfg.maxOffset)) ∧
        (h'.bmcReadPtr = cfg.maxOffset →
          h.bmcReadPtr = cfg.maxOffset ∧ QueueEntryHeader.size = cfg.maxOffset) ∧
        ReadTo cfg start J h₀ (c + QueueEntryHeader.size) h' w')
      (fun _ _ _ => Fails) h w := by
  rw [readEntryHeader, ensures_fetch_bind, ensures_bind]
  by_cases hM : QueueEntryHeader.size ≤ cfg.maxOffset
  · apply (R.wraparoundRead_ensures hfit hgeo hM hr hto).mono ?_ (fun _ _ _ hX => hX)
    rintro _ h' w₁ ⟨rfl, hmapped, hend, hto₁⟩ w₂ hw₂
    exact ⟨rfl, hM, hmapped, hend, R.readTo_later hto₁ hw₂⟩
  · exact wraparoundRead_rejects hfit (hto.geometry hgeo) (Or.inr (by omega)) fun _ _ _ =>
      hsize.resolve_left hM

theorem readEntry_ensures (R : Reader cfg E m Mapped start readable Fails J)
    (hfit : cfg.Fits) {c : ℕ}
    (hgeo : Geometry cfg h₀) (hsize : QueueEntryHeader.size ≤ cfg.maxOffset ∨ Fails)
    (hlen : (entryAt cfg m (start + c)).2.length ≤ cfg.maxOffset ∨ Fails)
    (hxor : xorAll (entryBytes (entryAt cfg m (start + c))) = 0 ∨ Fails)
    (hr : readable (c + QueueEntryHeader.size))
    (hr' : readable (c + (entryBytes (entryAt cfg m (start + c))).length))
    (hto : ReadTo cfg start J h₀ c h w) :
    (readEntry cfg).Ensures E
      (fun e h' w' => e = entryAt cfg m (start + c) ∧ QueueEntryHeader.size ≤ cfg.maxOffset ∧
        e.2.length ≤ cfg.maxOffset ∧ xorAll (entryBytes e) = 0 ∧
        (∀ k < (entryBytes e).length, Mapped (cfg.queueOffset + (start + c + k) % cfg.maxOffset)) ∧
        (h'.bmcReadPtr = cfg.maxOffset →
          h.bmcReadPtr = cfg.maxOffset ∧ QueueEntryHeader.size = cfg.maxOffset) ∧
        ReadTo cfg start J h₀ (c + (entryBytes e).length) h' w')
      (fun _ _ _ => Fails) h w := by
  rw [readEntry, ensures_bind]
  apply (R.readEntryHeader_ensures hfit hgeo hsize hr hto).mono ?_ (fun _ _ _ hX => hX)
  rintro _ h₁ w₁ ⟨rfl, hM, hmapped₁, hend, hto₁⟩
  dsimp only
  rw [ensures_fetch_bind, ensures_bind]
  rw [entryBytes_length, ← Nat.add_assoc] at hr'
  rw [entryAt_size]
  by_cases hfits : (entryAt cfg m (start + c)).2.length ≤ cfg.maxOffset
  swap
  · exact wraparoundRead_rejects hfit (hto₁.geometry hgeo) (Or.inr (not_le.mp hfits)) fun _ _ _ =>
      hlen.resolve_left hfits
  apply (R.wraparoundRead_ensures hfit hgeo hfits hr' hto₁).mono ?_ (fun _ _ _ hX => hX)
  rintro _ h₂ w₂ ⟨rfl, hmapped₂, hend₂, hto₂⟩
  have hpayload : queueWindow cfg m (start + (c + QueueEntryHeader.size))
      (entryAt cfg m (start + c)).2.length = (entryAt cfg m (start + c)).2 := by
    rw [← entryAt_size, ← Nat.add_assoc]
    rfl
  rw [hpayload, checksum_eq]
  refine ensures_raiseIf_bind.mpr ⟨fun hne _ _ => hxor.resolve_left hne, fun hx w₃ hw₃ => ?_⟩
  refine ⟨rfl, hM, hfits, not_not.mp hx, fun k hk => ?_, fun hp => hend (hend₂ hp).1, ?_⟩
  · rw [entryBytes_length] at hk
    dsimp only at hk
    by_cases hk₁ : k < QueueEntryHeader.size
    · exact hmapped₁ k hk₁
    · obtain ⟨i, rfl⟩ := Nat.exists_eq_add_of_le (not_lt.mp hk₁)
      have hi := hmapped₂ i (by omega)
      rwa [← Nat.add_assoc, Nat.add_assoc] at hi
  · rw [entryBytes_length, ← Nat.add_assoc]
    exact R.readTo_later hto₂ hw₃

def Ready (cfg : Config) (m : Memory) (start bytesToRead : ℕ) (readable : ℕ → Prop) (Fails : Prop)
    (c : ℕ) : Prop :=
  (Fails ∧ ∀ k, readable k) ∨
    ∃ es, Parses cfg m start bytesToRead c es ∧ ∀ k ≤ c + (batchBytes es).length, readable k

lemma Ready.entry {bytesToRead c : ℕ} (h : Ready cfg m start bytesToRead readable Fails c)
    (hlt : c < bytesToRead) :
    (QueueEntryHeader.size ≤ cfg.maxOffset ∨ Fails) ∧
      ((entryAt cfg m (start + c)).2.length ≤ cfg.maxOffset ∨ Fails) ∧
      (xorAll (entryBytes (entryAt cfg m (start + c))) = 0 ∨ Fails) ∧
      readable (c + QueueEntryHeader.size) ∧
      readable (c + (entryBytes (entryAt cfg m (start + c))).length) ∧
      Ready cfg m start bytesToRead readable Fails
        (c + (entryBytes (entryAt cfg m (start + c))).length) := by
  rcases h with ⟨hF, hr⟩ | ⟨es, hes, hr⟩
  · exact ⟨Or.inr hF, Or.inr hF, Or.inr hF, hr _, hr _, Or.inl ⟨hF, hr⟩⟩
  · cases hes with
    | done hc => omega
    | entry _ hM hlen hx hes =>
      rw [batchBytes_cons, List.length_append] at hr
      refine ⟨Or.inl hM, Or.inl hlen, Or.inl hx, hr _ ?_, hr _ (by omega), Or.inr ⟨_, hes, ?_⟩⟩
      · rw [entryBytes_length]
        omega
      · exact fun k hk => hr k (by omega)

theorem readEntries_ensures (R : Reader cfg E m Mapped start readable Fails J) (hfit : cfg.Fits)
    (hgeo : Geometry cfg h₀) {bytesToRead rounds c : ℕ} (acc : List EntryPair)
    (hrounds : bytesToRead ≤ c + rounds)
    (hready : Ready cfg m start bytesToRead readable Fails c) (hto : ReadTo cfg start J h₀ c h w) :
    (readEntries cfg bytesToRead rounds c acc).Ensures E
      (fun result h' w' => ∃ es, result = acc ++ es ∧ Parses cfg m start bytesToRead c es ∧
        (h'.bmcReadPtr = cfg.maxOffset →
          h.bmcReadPtr = cfg.maxOffset ∧ (es = [] ∨ QueueEntryHeader.size = cfg.maxOffset)) ∧
        (es = [] → h'.bmcReadPtr = h.bmcReadPtr) ∧
        (∀ k < (batchBytes es).length, Mapped (cfg.queueOffset + (start + c + k) % cfg.maxOffset)) ∧
        ReadTo cfg start J h₀ (c + (batchBytes es).length) h' w')
      (fun _ _ _ => Fails) h w := by
  induction rounds generalizing c acc h w with
  | zero =>
    intro w' hw
    exact ⟨[], by simp, .done hrounds, fun hp => ⟨hp,
      Or.inl rfl⟩, fun _ => rfl, by simp, R.readTo_later hto hw⟩
  | succ rounds ih =>
    rw [readEntries]
    by_cases hlt : c < bytesToRead
    swap
    · rw [if_neg hlt]
      intro w' hw
      exact ⟨[], by simp, .done (by omega), fun hp => ⟨hp, Or.inl rfl⟩, fun _ => rfl, by simp,
        R.readTo_later hto hw⟩
    rw [if_pos hlt, ensures_bind]
    obtain ⟨hsize, hlen, hxor, hr, hr', hready'⟩ := hready.entry hlt
    apply (R.readEntry_ensures hfit hgeo hsize hlen hxor hr hr' hto).mono ?_ (fun _ _ _ hX => hX)
    rintro _ h₁ w₁ ⟨rfl, hM, hlen, hx, hmapped, hend, hto₁⟩
    rw [← entryBytes_length]
    have hpos : QueueEntryHeader.size ≤ (entryBytes (entryAt cfg m (start + c))).length := by
      rw [entryBytes_length]
      omega
    simp only [QueueEntryHeader.size] at hpos
    apply (ih _ (by omega) hready' hto₁).mono ?_ (fun _ _ _ hX => hX)
    rintro result h₂ w₂ ⟨es, rfl, hes, hend₂, -, hmapped₂, hto₂⟩
    refine ⟨entryAt cfg m (start + c) :: es,
      by simp, .entry hlt hM hlen hx hes, ?_, by simp, ?_, ?_⟩
    · exact fun hp => ⟨(hend (hend₂ hp).1).1, Or.inr (hend (hend₂ hp).1).2⟩
    · intro k hk
      rw [batchBytes_cons, List.length_append] at hk
      by_cases hk₁ : k < (entryBytes (entryAt cfg m (start + c))).length
      · exact hmapped k hk₁
      · obtain ⟨i, rfl⟩ := Nat.exists_eq_add_of_le (not_lt.mp hk₁)
        have hi := hmapped₂ i (by omega)
        rwa [← Nat.add_assoc, Nat.add_assoc] at hi
    · rw [batchBytes_cons, List.length_append, ← Nat.add_assoc]
      exact hto₂

end SmmErrorLogger.Buffer.Reader
