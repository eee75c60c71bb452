import Mathlib.Data.FinEnum
import Mathlib.Data.Set.Card
import SmmErrorLogger.Rde.Requests

namespace SmmErrorLogger.Rde

namespace DictionaryManager

variable {m : DictionaryManager} {r : UInt32} {entry : DictionaryEntry} {data : List UInt8}

def validIds (m : DictionaryManager) : Set UInt32 :=
  {r | ∃ entry, m.dictionaries r = some entry ∧ entry.valid}

def Counted (m : DictionaryManager) : Prop := m.validDictionaryCount = UInt32.ofNat m.validIds.ncard

lemma mem_validIds (h : m.dictionaries r = some entry) : r ∈ m.validIds ↔ entry.valid := by
  constructor
  · rintro ⟨entry', h', hvalid⟩
    obtain rfl := Option.some.inj (h.symm.trans h')
    exact hvalid
  · exact fun hvalid => ⟨entry, h, hvalid⟩

lemma mem_validIds_iff : r ∈ m.validIds ↔ ∃ data, m.getDictionary r = some data := by
  constructor
  · rintro ⟨⟨valid, data⟩, h, rfl⟩
    exact ⟨data, getDictionary_eq_some.mpr h⟩
  · rintro ⟨data, h⟩
    exact ⟨_, getDictionary_eq_some.mp h, rfl⟩

section

variable {m' : DictionaryManager}
  (h : m'.dictionaries = Function.update m.dictionaries r (some entry))
include h

lemma validIds_update_valid (hvalid : entry.valid = true) : m'.validIds = insert r m.validIds := by
  ext x
  rw [Set.mem_insert_iff, validIds, Set.mem_ofPred_eq, h]
  by_cases hx : x = r
  · subst hx
    simp [hvalid]
  · simp [hx, validIds]

lemma validIds_update_invalid (hvalid : entry.valid = false) : m'.validIds = m.validIds \ {r} := by
  ext x
  rw [Set.mem_sdiff, Set.mem_singleton_iff, validIds, Set.mem_ofPred_eq, h]
  by_cases hx : x = r
  · subst hx
    simp [hvalid]
  · simp [hx, validIds]

end

lemma Counted.of_eq {m' : DictionaryManager} (hm : m.Counted)
    (hcount : m'.validDictionaryCount = m.validDictionaryCount)
    (hids : m'.validIds = m.validIds) : m'.Counted := by
  rw [Counted, hcount, hids]
  exact hm

lemma counted_empty : Counted empty := by
  have hids : validIds empty = ∅ := by
    ext r
    simp [validIds, empty]
  rw [Counted, hids, Set.ncard_empty]
  rfl

lemma Counted.invalidateDictionaryEntry (hm : m.Counted) (h : m.dictionaries r = some entry) :
    (m.invalidateDictionaryEntry r entry).Counted := by
  have hids : (m.invalidateDictionaryEntry r entry).validIds = m.validIds \ {r} :=
    validIds_update_invalid rfl rfl
  cases hvalid : entry.valid with
  | false =>
    have hnotMem : r ∉ m.validIds := fun hr => by simp [(mem_validIds h).mp hr] at hvalid
    refine hm.of_eq ?_ (hids.trans (Set.sdiff_singleton_eq_self hnotMem))
    simp [DictionaryManager.invalidateDictionaryEntry, hvalid]
  | true =>
    have hmem : r ∈ m.validIds := (mem_validIds h).mpr hvalid
    have hpos : 0 < m.validIds.ncard := (Set.ncard_pos (Set.toFinite _)).mpr ⟨r, hmem⟩
    rw [Counted, hids, Set.ncard_sdiff_singleton_of_mem hmem, UInt32.ofNat_sub hpos,
      ← show _ = UInt32.ofNat _ from hm]
    simp [DictionaryManager.invalidateDictionaryEntry, hvalid]

lemma Counted.validateDictionaryEntry (hm : m.Counted) (h : m.dictionaries r = some entry) :
    (m.validateDictionaryEntry r entry).Counted := by
  have hids : (m.validateDictionaryEntry r entry).validIds = insert r m.validIds :=
    validIds_update_valid rfl rfl
  cases hvalid : entry.valid with
  | false =>
    have hnotMem : r ∉ m.validIds := fun hr => by simp [(mem_validIds h).mp hr] at hvalid
    rw [Counted, hids, Set.ncard_insert_of_notMem hnotMem (Set.toFinite _), UInt32.ofNat_add,
      ← show _ = UInt32.ofNat _ from hm]
    simp [DictionaryManager.validateDictionaryEntry, hvalid]
  | true =>
    refine hm.of_eq ?_ (hids.trans (Set.insert_eq_of_mem ((mem_validIds h).mpr hvalid)))
    simp [DictionaryManager.validateDictionaryEntry, hvalid]

lemma Counted.store {entry' : DictionaryEntry} (hm : m.Counted) (hr : r ∉ m.validIds)
    (hvalid : entry'.valid = false) :
    Counted { m with dictionaries := Function.update m.dictionaries r (some entry') } :=
  hm.of_eq rfl ((validIds_update_invalid rfl hvalid).trans (Set.sdiff_singleton_eq_self hr))

lemma notMem_validIds_invalidate : r ∉ (m.invalidateDictionaryEntry r entry).validIds := by
  have hids : (m.invalidateDictionaryEntry r entry).validIds = m.validIds \ {r} :=
    validIds_update_invalid rfl rfl
  simp [hids]

lemma Counted.startDictionaryEntry (hm : m.Counted) : (m.startDictionaryEntry r data).Counted := by
  rw [DictionaryManager.startDictionaryEntry]
  cases h : m.dictionaries r with
  | none => exact hm.store (by simp [validIds, h]) rfl
  | some entry => exact (hm.invalidateDictionaryEntry h).store notMem_validIds_invalidate rfl

lemma Counted.markDataComplete (hm : m.Counted) : (m.markDataComplete r).2.Counted := by
  rw [DictionaryManager.markDataComplete]
  cases h : m.dictionaries r with
  | none => exact hm
  | some entry => exact hm.validateDictionaryEntry h

lemma Counted.addDictionaryData (hm : m.Counted) : (m.addDictionaryData r data).2.Counted := by
  rw [DictionaryManager.addDictionaryData]
  cases h : m.dictionaries r with
  | none => exact hm
  | some entry => exact (hm.invalidateDictionaryEntry h).store notMem_validIds_invalidate rfl

lemma counted_invalidateDictionaries : m.invalidateDictionaries.Counted := by
  have hids : m.invalidateDictionaries.validIds = ∅ := by
    ext r
    simp only [validIds, invalidateDictionaries, Set.mem_ofPred_eq,
      Set.mem_empty_iff_false, iff_false]
    rintro ⟨entry, h, hvalid⟩
    obtain ⟨entry', -, rfl⟩ := Option.map_eq_some_iff.mp h
    simp at hvalid
  rw [Counted, hids, Set.ncard_empty]
  rfl

lemma Counted.takeData {prev : UInt32} (hm : m.Counted) : (m.takeData prev r data).2.Counted := by
  rw [DictionaryManager.takeData]
  split_ifs
  · exact hm.markDataComplete.startDictionaryEntry
  · exact hm.addDictionaryData

lemma card_resourceId : Nat.card UInt32 = 2 ^ 32 := by
  rw [Nat.card_congr (FinEnum.equiv (α := UInt32)), Nat.card_fin, FinEnum.card_UInt32]

lemma Counted.toNat_getDictionaryCount (hm : m.Counted) (hnotAll : m.validIds ≠ Set.univ) :
    m.getDictionaryCount.toNat = m.validIds.ncard := by
  have hlt : m.validIds.ncard < 2 ^ 32 := by
    rw [← card_resourceId, ← Set.ncard_univ]
    exact Set.ncard_lt_ncard (Set.ssubset_univ_iff.mpr hnotAll)
  rw [getDictionaryCount, hm, UInt32.toNat_ofNat_of_lt' hlt]

lemma Counted.getDictionaryCount_univ (hm : m.Counted) (hall : m.validIds = Set.univ) :
    m.getDictionaryCount = 0 := by
  rw [getDictionaryCount, hm, hall, Set.ncard_univ, card_resourceId]
  rfl

lemma Counted.getDictionaryCount_pos (hm : m.Counted) (hsome : ∃ r, r ∈ m.validIds)
    (hnotAll : ∃ r, r ∉ m.validIds) :
    0 < m.getDictionaryCount := by
  obtain ⟨r, hr⟩ := hsome
  obtain ⟨r', hr'⟩ := hnotAll
  have hpos : 0 < m.validIds.ncard := (Set.ncard_pos (Set.toFinite _)).mpr ⟨r, hr⟩
  rw [UInt32.lt_iff_toNat_lt, hm.toNat_getDictionaryCount fun hall => hr' (hall ▸ Set.mem_univ r')]
  exact hpos

end DictionaryManager

variable {rcv : Receiver}

lemma Receiver.close_counted {closing : Closing} (h : rcv.dictionaryManager.Counted) :
    (rcv.close closing).2.dictionaryManager.Counted := by
  cases closing with
  | malformed => exact h
  | checksum value =>
    rw [Receiver.close]
    split_ifs
    · exact DictionaryManager.counted_invalidateDictionaries
    · exact h

theorem Receiver.accept_counted (h : rcv.dictionaryManager.Counted) (p : Packet) :
    (rcv.accept p).2.dictionaryManager.Counted := by
  cases p with
  | invalid => exact h
  | unknownFlag resourceId => exact h
  | start resourceId data => exact h.startDictionaryEntry
  | middle resourceId data =>
    rw [Receiver.accept]
    split_ifs
    · exact h
    · dsimp only
      split_ifs <;> exact h.takeData
  | finish resourceId data closing =>
    rw [Receiver.accept]
    split_ifs
    · exact h
    · dsimp only
      split_ifs
      · exact close_counted h.takeData.markDataComplete
      · exact h.takeData
  | startAndEnd resourceId data closing =>
    exact close_counted h.startDictionaryEntry.markDataComplete

lemma DictionaryManager.markDataComplete_valid {m : DictionaryManager} {r : UInt32}
    (h : (m.dictionaries r).isSome) :
    r ∈ (m.markDataComplete r).2.validIds := by
  obtain ⟨entry, hentry⟩ := Option.isSome_iff_exists.mp h
  refine ⟨{ entry with valid := true }, ?_, rfl⟩
  rw [markDataComplete_dictionaries, Function.update_self, hentry]
  rfl

lemma DictionaryManager.takeData_present {m : DictionaryManager} {prev r : UInt32}
    {data : List UInt8}
    (h : (m.takeData prev r data).1 = true) :
    ((m.takeData prev r data).2.dictionaries r).isSome := by
  rw [takeData] at h ⊢
  split_ifs at h ⊢ with hne
  · simp
  · rw [addDictionaryData_fst] at h
    simpa using h

/-- Whether a transfer has failed since the last one that succeeded: one with a wrong checksum, or
one that ended without a dictionary to add to. -/
def failedSince {ε : Type} (failed : Bool) (result : Except ε RdeDecodeStatus)
    (flagState : RdeDictTransferFlagState) : Bool :=
  match result with
  | .ok .rdeStopFlagReceived => false
  | .ok .rdeInvalidChecksum => true
  | .ok .rdeDictionaryError => failed || flagState = .rdeStateIdle
  | _ => failed

namespace Receiver

variable {ε : Type} {failed : Bool}

def Usable (r : Receiver) (failed : Bool) : Prop :=
  r.flagState = .rdeStateIdle → failed = false → r.dictionaryManager.validIds.Nonempty

lemma usable_failed (r : Receiver) : r.Usable true := fun _ hf => by cases hf

def UsableAfter (ε : Type) (failed : Bool) (after : RdeDecodeStatus × Receiver) : Prop :=
  after.2.Usable (failedSince failed (.ok after.1 : Except ε RdeDecodeStatus) after.2.flagState) ∧
    (after.1 = .rdeStopFlagReceived → after.2.dictionaryManager.validIds.Nonempty)

lemma close_usable {closing : Closing} (h : rcv.dictionaryManager.validIds.Nonempty) :
    UsableAfter ε failed (rcv.close closing) := by
  cases closing with
  | malformed => exact ⟨fun _ _ => h, fun _ => h⟩
  | checksum value =>
    rw [close]
    split_ifs
    · exact ⟨fun _ hf => by simp [failedSince] at hf, fun hs => by simp at hs⟩
    · exact ⟨fun _ _ => h, fun _ => h⟩

theorem accept_usable (h : rcv.Usable failed) (p : Packet) :
    UsableAfter ε failed (rcv.accept p) := by
  cases p with
  | invalid => exact ⟨h, fun hs => by simp [accept] at hs⟩
  | unknownFlag resourceId => exact ⟨h, fun hs => by simp [accept] at hs⟩
  | start resourceId data =>
    exact ⟨fun hidle => by simp [accept] at hidle, fun hs => by simp [accept] at hs⟩
  | middle resourceId data =>
    rw [accept]
    split_ifs with hidle
    · exact ⟨h, fun hs => by simp at hs⟩
    · obtain hstarted := not_not.mp hidle
      dsimp only
      split_ifs
      · exact ⟨fun hidle => by simp [hstarted] at hidle, fun hs => by simp at hs⟩
      · exact ⟨fun hidle => by simp [hstarted] at hidle, fun hs => by simp at hs⟩
  | finish resourceId data closing =>
    rw [accept]
    split_ifs with hidle
    · exact ⟨h, fun hs => by simp at hs⟩
    · dsimp only
      split_ifs with hadded
      · exact close_usable
          ⟨_, DictionaryManager.markDataComplete_valid (DictionaryManager.takeData_present hadded)⟩
      · exact ⟨fun _ hf => by simp [failedSince] at hf, fun hs => by simp at hs⟩
  | startAndEnd resourceId data closing =>
    exact close_usable ⟨_, DictionaryManager.markDataComplete_valid (by simp)⟩

end Receiver

section

variable {S ε : Type} {s : WordSize} {decoder : BejDecoder} {storer : ExternalStorerInterface S ε}
  {c : Span}
  {getDictionary : UInt32 → Option (List UInt8)} {exStorer : S} {failed : Bool}
  {flagState : RdeDictTransferFlagState}

lemma Request.serve_failedSince :
    failedSince failed ((Request.ofSpan s c getDictionary).serve decoder storer exStorer).1
      flagState = failed := by
  cases h : Request.ofSpan s c getDictionary with
  | answered status => rcases ofSpan_answered h with rfl | rfl | rfl | rfl | rfl <;> rfl
  | decode dictionaries encodedPldmBlock =>
    rw [serve]
    dsimp only
    split_ifs
    · rfl
    · generalize (storer.publishJson _ exStorer).1 = published
      rcases published with e | - | - <;> rfl

theorem decode_usable {h h' : RdeCommandHandler S} {command : Command}
    {result : Except ε RdeDecodeStatus}
    (hdecode : h.decode s decoder storer command = (result, h')) :
    (h.dictionaryManager.Counted → h'.dictionaryManager.Counted) ∧
      (h.receiver.Usable failed → h'.receiver.Usable (failedSince failed result h'.flagState)) ∧
      (result = .ok .rdeStopFlagReceived → h'.dictionaryManager.validIds.Nonempty) := by
  cases hp : command.packet s with
  | none =>
    rw [decode_request hp] at hdecode
    obtain ⟨rfl, rfl⟩ := Prod.mk.inj hdecode
    refine ⟨fun hc => hc, fun hu => ?_, fun hs => ?_⟩
    · rw [Request.serve_failedSince]
      exact hu
    · have hneutral : failedSince true
        ((Request.ofSpan s command.span h.dictionaryManager.getDictionary).serve
          decoder storer h.exStorer).1 h.flagState = true := Request.serve_failedSince
      rw [hs] at hneutral
      cases hneutral
  | some p =>
    rw [decode_packet hp] at hdecode
    obtain ⟨rfl, rfl⟩ := Prod.mk.inj hdecode
    refine ⟨fun hc => @Receiver.accept_counted h.receiver hc p,
      fun hu => (Receiver.accept_usable hu p).1, ?_⟩
    intro hs
    exact (Receiver.accept_usable (ε := ε) h.receiver.usable_failed p).2 (Except.ok.inj hs)

end

end SmmErrorLogger.Rde
