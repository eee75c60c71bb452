import SmmErrorLogger.Buffer.EntryLoop

namespace SmmErrorLogger.Buffer

open Library.Bytes Library.Interaction Library.Circular
open Library.Interaction.Proc

variable {cfg : Config} {W : Type} {E : Environment DataInterface W}

def unread (cfg : Config) (h : CircularBufferHeader) : ℕ :=
  if h.biosWritePtr = h.bmcReadPtr then 0
  else if h.biosWritePtr > h.bmcReadPtr then h.biosWritePtr - h.bmcReadPtr
  else (cfg.maxOffset - h.bmcReadPtr) + h.biosWritePtr

structure Accepted (cfg : Config) (h : CircularBufferHeader) : Prop where
  geometry : Geometry cfg h
  biosWritePtr : h.biosWritePtr ≤ cfg.maxOffset
  bmcReadPtr : h.bmcReadPtr ≤ cfg.maxOffset

lemma readBufferHeader_ensures {Q : Unit → CircularBufferHeader → W → Prop}
    {X : BufferError → CircularBufferHeader → W → Prop} {h : CircularBufferHeader} {w : W}
    (hread : ∀ w', E.Later w w' → E.permits w' (.read 0 CircularBufferHeader.size) ∧
      ∀ (bytes : List UInt8) w'', E.answers w' (.read 0 CircularBufferHeader.size) bytes w'' →
        ∀ w₃, E.Later w'' w₃ →
          if bytes.length = CircularBufferHeader.size then Q () (.ofBytes bytes) w₃
          else X (.headerRead bytes.length CircularBufferHeader.size) h w₃) :
    readBufferHeader.Ensures E Q X h w := by
  rw [readBufferHeader, DataInterface.read_then]
  intro w' hw
  refine ⟨(hread w' hw).1, fun bytes w'' ha => ?_⟩
  have hbytes := (hread w' hw).2 bytes w'' ha
  refine ensures_raiseIf_bind.mpr ⟨fun hne w₃ hw₃ => ?_, fun he w₃ hw₃ => ?_⟩
  · have hX := hbytes w₃ hw₃
    rwa [if_neg hne] at hX
  · have hQ := hbytes w₃ hw₃
    rwa [if_pos (not_not.mp he)] at hQ

lemma getMaxOffset_rejects {α : Type} {Q : α → CircularBufferHeader → W → Prop}
    {X : BufferError → CircularBufferHeader → W → Prop} {h : CircularBufferHeader} {w : W}
    {f : ℕ → BufferM α} (hgeo : ¬ Geometry cfg h) (hX : ∀ e w', E.Later w w' → X e h w') :
    (getMaxOffset cfg >>= f).Ensures E Q X h w := by
  rw [ensures_bind, getMaxOffset, ensures_fetch_bind]
  refine ensures_raiseIf_bind.mpr ⟨fun _ => hX _, fun hq => ?_⟩
  exact ensures_raiseIf_bind.mpr
    ⟨fun _ => hX _, fun hu => (hgeo ⟨not_not.mp hq, not_not.mp hu⟩).elim⟩

theorem readErrorLogs_ensures {Q : List EntryPair → CircularBufferHeader → W → Prop}
    {X : BufferError → CircularBufferHeader → W → Prop} {h : CircularBufferHeader} {w : W}
    (hheader : readBufferHeader.Ensures E (fun _ h₀ w' =>
      (Geometry cfg h₀ → cfg.Fits) ∧ (¬ Accepted cfg h₀ → ∀ e w'', E.Later w' w'' → X e h₀ w'') ∧
      (Accepted cfg h₀ → h₀.biosWritePtr = h₀.bmcReadPtr → ∀ w'', E.Later w' w'' → Q [] h₀ w'') ∧
      (Accepted cfg h₀ → h₀.biosWritePtr ≠ h₀.bmcReadPtr →
        (readEntries cfg (unread cfg h₀) (unread cfg h₀) 0 []).Ensures E
          (fun es h₁ w₁ => ∀ w₂, E.Later w₁ w₂ → if h₀.biosWritePtr = h₁.bmcReadPtr then Q es h₁ w₂
            else X (.notIdentical h₀.biosWritePtr h₁.bmcReadPtr) h₁ w₂) X h₀ w')) X h w) :
    (readErrorLogs cfg).Ensures E Q X h w := by
  rw [readErrorLogs, ensures_bind]
  apply hheader.mono ?_ (fun _ _ _ hX => hX)
  rintro _ h₀ w' ⟨hfit, hrefused, hempty, hloop⟩
  by_cases hgeo : Geometry cfg h₀
  swap
  · exact getMaxOffset_rejects hgeo (hrefused (fun hacc => hgeo hacc.geometry))
  apply getMaxOffset_then (hfit hgeo) hgeo
  rw [ensures_fetch_bind]
  refine ensures_raiseIf_bind.mpr
    ⟨fun hgt => ?_, fun hw => ensures_raiseIf_bind.mpr ⟨fun hgt => ?_, fun hr => ?_⟩⟩
  · exact hrefused (fun hacc => absurd hacc.biosWritePtr (by omega)) _
  · exact hrefused (fun hacc => absurd hacc.bmcReadPtr (by omega)) _
  have hacc : Accepted cfg h₀ := ⟨hgeo, by omega, by omega⟩
  by_cases heq : h₀.biosWritePtr = h₀.bmcReadPtr
  · rw [if_pos heq]
    exact hempty hacc heq
  · have hunread : (if h₀.biosWritePtr > h₀.bmcReadPtr then h₀.biosWritePtr - h₀.bmcReadPtr
        else cfg.maxOffset - h₀.bmcReadPtr + h₀.biosWritePtr) = unread cfg h₀ := by
      rw [unread, if_neg heq]
    rw [if_neg heq]
    dsimp only
    rw [hunread, ensures_bind]
    apply (hloop hacc heq).mono ?_ (fun _ _ _ hX => hX)
    intro es h₁ w₁ hend
    rw [ensures_fetch_bind]
    refine ensures_raiseIf_bind.mpr ⟨fun hne w₂ hw₂ => ?_, fun he w₂ hw₂ => ?_⟩
    · have hX := hend w₂ hw₂
      rwa [if_neg hne] at hX
    · have hQ := hend w₂ hw₂
      rwa [if_pos (not_not.mp he)] at hQ

end SmmErrorLogger.Buffer
