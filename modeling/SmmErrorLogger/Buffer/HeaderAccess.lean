import SmmErrorLogger.Buffer.ErrorLogs

/-! The operations that leave the queue alone. They look at the header and at the UE region, and
write the flags. -/

namespace SmmErrorLogger.Buffer

open Library.Bytes Library.Interaction
open Library.Interaction.Proc

variable {W : Type} {E : Environment DataInterface W} {K X : W → Prop} {readable : ℕ → Prop}

/-- Their calls keep `K`, or are cut short where `X` holds. The header tells a size that is
`readable`. -/
structure HeaderAccess (E : Environment DataInterface W) (readable : ℕ → Prop) (K X : W → Prop) :
    Prop where
  stable : E.Stable K
  cutShort_stable : E.Stable X
  header : ∀ w, K w → E.permits w (.read 0 CircularBufferHeader.size) ∧
    ∀ (bytes : List UInt8) w', E.answers w (.read 0 CircularBufferHeader.size) bytes w' →
      if bytes.length = CircularBufferHeader.size then
      readable (CircularBufferHeader.ofBytes bytes).ueRegionSize ∧ K w'
      else X w'
  ueRegion : ∀ n, readable n → ∀ w, K w → E.permits w (.read CircularBufferHeader.size n) ∧
    ∀ (bytes : List UInt8) w', E.answers w (.read CircularBufferHeader.size n) bytes w' →
      if bytes.length = n then K w' else X w'
  flags : ∀ (f : UInt32) w, K w →
    let op := DataOp.write CircularBufferHeader.bmcFlagsOffset (littleEndian 4 f.toNat)
    E.permits w op ∧ ∀ (written : ℕ) w', E.answers w op written w' →
      if written = 4 then K w' else X w'

namespace HeaderAccess

variable (A : HeaderAccess E readable K X) {h : CircularBufferHeader} {w : W}
include A

lemma readBufferHeader_ensures (hK : K w) : readBufferHeader.Ensures E
    (fun _ h' w' => readable h'.ueRegionSize ∧ K w') (fun _ _ => X) h w := by
  apply Buffer.readBufferHeader_ensures
  intro w₁ hw₁
  obtain ⟨hpermits, hanswers⟩ := A.header w₁ (A.stable.later hw₁ hK)
  refine ⟨hpermits, fun bytes w₂ ha w₃ hw₃ => ?_⟩
  have hread := hanswers bytes w₂ ha
  split_ifs at hread ⊢
  · exact ⟨hread.1, A.stable.later hw₃ hread.2⟩
  · exact A.cutShort_stable.later hw₃ hread

lemma updateBmcFlags_keeps (f : UInt32) :
    KeepsOr E (fun _ => K) (fun _ => X) (updateBmcFlags f) := by
  intro h w hK
  rw [updateBmcFlags, DataInterface.write_then]
  intro w₁ hw₁
  obtain ⟨hpermits, hanswers⟩ := A.flags f w₁ (A.stable.later hw₁ hK)
  refine ⟨hpermits, fun written w₂ ha => ?_⟩
  have hwritten := hanswers written w₂ ha
  refine ensures_raiseIf_bind.mpr ⟨fun hshort w₃ hw₃ => ?_, fun hfull => ?_⟩
  · rw [if_neg hshort] at hwritten
    exact A.cutShort_stable.later hw₃ hwritten
  · rw [if_pos (not_not.mp hfull)] at hwritten
    rw [ensures_fetch_bind]
    exact fun w₃ hw₃ => A.stable.later hw₃ hwritten

lemma readUeLogFromReservedRegion_keeps :
    KeepsOr E (fun _ => K) (fun _ => X) readUeLogFromReservedRegion := by
  intro h w hK
  rw [readUeLogFromReservedRegion, ensures_bind]
  apply (A.readBufferHeader_ensures hK).mono ?_ (fun _ _ _ hX => hX)
  rintro - h₁ w₁ ⟨hreadable, hK₁⟩
  rw [ensures_fetch_bind]
  by_cases hsize : h₁.ueRegionSize = 0
  · rw [if_pos hsize]
    exact fun w₂ hw₂ => A.stable.later hw₂ hK₁
  rw [if_neg hsize]
  by_cases hsame : (h₁.biosFlags ^^^ h₁.bmcFlags) &&& BufferFlags.ueSwitch = 0
  · rw [if_pos hsame]
    exact fun w₂ hw₂ => A.stable.later hw₂ hK₁
  rw [if_neg hsame, DataInterface.read_then]
  intro w₂ hw₂
  obtain ⟨hpermits, hanswers⟩ := A.ueRegion _ hreadable w₂ (A.stable.later hw₂ hK₁)
  refine ⟨hpermits, fun bytes w₃ ha => ?_⟩
  have hread := hanswers bytes w₃ ha
  split_ifs at hread ⊢
  · exact fun w₄ hw₄ => A.stable.later hw₄ hread
  · exact fun w₄ hw₄ => A.cutShort_stable.later hw₄ hread

lemma checkForOverflowAndAcknowledge_keeps :
    KeepsOr E (fun _ => K) (fun _ => X) checkForOverflowAndAcknowledge := by
  intro h w hK
  rw [checkForOverflowAndAcknowledge, ensures_bind]
  apply (A.readBufferHeader_ensures hK).mono ?_ (fun _ _ _ hX => hX)
  rintro - h₁ w₁ ⟨-, hK₁⟩
  rw [ensures_fetch_bind]
  split_ifs
  · rw [ensures_bind]
    exact (A.updateBmcFlags_keeps _ h₁ w₁ hK₁).mono (fun _ _ _ hK₂ _ hw => A.stable.later hw hK₂)
      (fun _ _ _ hX => hX)
  · exact fun w₂ hw₂ => A.stable.later hw₂ hK₁

end HeaderAccess

end SmmErrorLogger.Buffer
