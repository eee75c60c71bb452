import SmmErrorLogger.Rde.Integrity

namespace SmmErrorLogger.Rde

open Library Library.Bytes Library.Interaction

def Packet.AddsTo (r : UInt32) : Packet → Prop
  | .middle x _ => x = r
  | .finish x _ _ => x = r
  | _ => False

namespace Receiver

structure Orphaned (r : UInt32) (rcv : Receiver) : Prop where
  flagState : rcv.flagState = .rdeStateStartRecvd
  prevDictResourceId : rcv.prevDictResourceId = r
  missing : rcv.dictionaryManager.dictionaries r = none

variable {rcv : Receiver} {r x : UInt32} {data : List UInt8} {p : Packet} {ps : List Packet}
  {closing : Closing}

lemma takeData_fst {m : DictionaryManager} {prev : UInt32} :
    (m.takeData prev x data).1 = true ↔ prev ≠ x ∨ (m.dictionaries x).isSome := by
  rw [DictionaryManager.takeData]
  split_ifs with hprev
  · exact iff_of_true rfl (Or.inl hprev)
  · rw [DictionaryManager.addDictionaryData_fst]
    simp [hprev]

lemma takeData_present {m : DictionaryManager} {prev : UInt32}
    (h : (m.takeData prev x data).1 = true) :
    ((m.takeData prev x data).2.dictionaries x).isSome := by
  rw [takeData_fst] at h
  rw [DictionaryManager.takeData]
  split_ifs with hprev
  · simp
  · rw [DictionaryManager.addDictionaryData_dictionaries, Function.update_self, Option.isSome_map]
    exact h.resolve_left hprev

lemma takeData_missing {m : DictionaryManager} {prev : UInt32}
    (h : (m.takeData prev x data).1 ≠ true) :
    prev = x ∧ m.dictionaries x = none ∧ (m.takeData prev x data).2 = m := by
  rw [Ne, takeData_fst, not_or, not_not, Option.not_isSome_iff_eq_none] at h
  obtain ⟨rfl, hnone⟩ := h
  refine ⟨rfl, hnone, ?_⟩
  rw [DictionaryManager.takeData, if_neg (by simp), DictionaryManager.addDictionaryData, hnone]

lemma close_status : (rcv.close closing).1 ≠ .rdeDictionaryError := by
  cases closing with
  | malformed => simp [close]
  | checksum value =>
    rw [close]
    split_ifs <;> simp

lemma close_flagState : (rcv.close closing).2.flagState = rcv.flagState := by
  cases closing with
  | malformed => rfl
  | checksum value =>
    rw [close]
    split_ifs <;> rfl

section Missing

variable {m : DictionaryManager} {prev crc : UInt32}

lemma accept_middle_missing (h : (m.takeData prev x data).1 ≠ true) :
    (⟨.rdeStateStartRecvd, prev, m, crc⟩ : Receiver).accept (.middle x data) =
      (.rdeDictionaryError, ⟨.rdeStateStartRecvd, prev, m, crc⟩) := by
  obtain ⟨rfl, -, hsame⟩ := takeData_missing h
  simp [accept, h, hsame]

lemma accept_finish_missing (h : (m.takeData prev x data).1 ≠ true) :
    (⟨.rdeStateStartRecvd, prev, m, crc⟩ : Receiver).accept (.finish x data closing) =
      (.rdeDictionaryError, ⟨.rdeStateIdle, prev, m, crc⟩) := by
  obtain ⟨rfl, -, hsame⟩ := takeData_missing h
  simp [accept, h, hsame]

lemma orphaned_iff_missing (data : List UInt8) :
    (⟨.rdeStateStartRecvd, prev, m, crc⟩ : Receiver).Orphaned x ↔
      (m.takeData prev x data).1 ≠ true := by
  constructor
  · intro h
    rw [Ne, takeData_fst]
    simp [show prev = x from h.prevDictResourceId, show m.dictionaries x = none from h.missing]
  · intro h
    obtain ⟨hprev, hnone, -⟩ := takeData_missing h
    exact ⟨rfl, hprev, hnone⟩

end Missing

lemma not_orphaned_idle (h : rcv.flagState = .rdeStateIdle) : ¬ rcv.Orphaned r :=
  fun horphaned => absurd (h.symm.trans horphaned.flagState) (by simp)

lemma accept_dictionaryError :
    (rcv.accept p).1 = .rdeDictionaryError ↔ ∃ r, rcv.Orphaned r ∧ p.AddsTo r := by
  obtain ⟨flagState, prev, m, crc⟩ := rcv
  cases p with
  | invalid => simp [accept, Packet.AddsTo]
  | unknownFlag x => simp [accept, Packet.AddsTo]
  | start x data => simp [accept, Packet.AddsTo]
  | startAndEnd x data closing => simp [accept, Packet.AddsTo, close_status]
  | middle x data =>
    simp only [Packet.AddsTo, exists_eq_right']
    cases flagState with
    | rdeStateIdle => simp [accept, not_orphaned_idle]
    | rdeStateStartRecvd =>
      rw [orphaned_iff_missing data]
      by_cases h : (m.takeData prev x data).1 = true
      · simp [accept_middle_taken h, h]
      · simp [accept_middle_missing h, h]
  | finish x data closing =>
    simp only [Packet.AddsTo, exists_eq_right']
    cases flagState with
    | rdeStateIdle => simp [accept, not_orphaned_idle]
    | rdeStateStartRecvd =>
      rw [orphaned_iff_missing data]
      by_cases h : (m.takeData prev x data).1 = true
      · simp [accept_finish_taken h, h, close_status]
      · simp [accept_finish_missing h, h]

lemma not_orphaned_present
    (h : (rcv.dictionaryManager.dictionaries rcv.prevDictResourceId).isSome) :
    ¬ rcv.Orphaned r := by
  intro horphaned
  rw [horphaned.prevDictResourceId, horphaned.missing] at h
  simp at h

lemma orphaned_accept : (rcv.accept p).2.Orphaned r ↔
    p = .unknownFlag r ∧ rcv.flagState = .rdeStateStartRecvd ∧
      rcv.dictionaryManager.dictionaries r = none ∨
      rcv.Orphaned r ∧ (p = .invalid ∨ ∃ data, p = .middle r data) := by
  obtain ⟨flagState, prev, m, crc⟩ := rcv
  cases p with
  | invalid => simp [accept]
  | unknownFlag x =>
    simp only [Packet.unknownFlag.injEq, reduceCtorEq, exists_const, or_self, and_false, or_false]
    constructor
    · intro h
      exact ⟨h.prevDictResourceId, h.flagState, h.missing⟩
    · rintro ⟨rfl, hstarted, hnone⟩
      exact ⟨hstarted, rfl, hnone⟩
  | start x data => simpa using not_orphaned_present (by simp [accept])
  | startAndEnd x data closing =>
    simpa using not_orphaned_idle close_flagState
  | middle x data =>
    cases flagState with
    | rdeStateIdle => simp [accept, not_orphaned_idle]
    | rdeStateStartRecvd =>
      by_cases h : (m.takeData prev x data).1 = true
      · rw [accept_middle_taken h]
        refine iff_of_false (not_orphaned_present (takeData_present h)) ?_
        rintro (⟨hp, -⟩ | ⟨horphaned, hp | ⟨data', hp⟩⟩)
        · cases hp
        · cases hp
        · obtain ⟨rfl, -⟩ := Packet.middle.inj hp
          exact (orphaned_iff_missing data).mp horphaned h
      · rw [accept_middle_missing h]
        obtain ⟨rfl, -⟩ := takeData_missing h
        simp only [reduceCtorEq, false_and, false_or, Packet.middle.injEq, exists_eq_right']
        exact ⟨fun horphaned => ⟨horphaned, horphaned.prevDictResourceId⟩, And.left⟩
  | finish x data closing =>
    refine iff_of_false (not_orphaned_idle ?_) (by simp)
    cases flagState with
    | rdeStateIdle => simp [accept]
    | rdeStateStartRecvd =>
      by_cases h : (m.takeData prev x data).1 = true
      · rw [accept_finish_taken h, close_flagState]
      · rw [accept_finish_missing h]

lemma orphaned_acceptAll (hidle : rcv.flagState = .rdeStateIdle) : (rcv.acceptAll ps).2.Orphaned r ↔
    ∃ before after, ps = before ++ .unknownFlag r :: after ∧
      (rcv.acceptAll before).2.flagState = .rdeStateStartRecvd ∧
      (rcv.acceptAll before).2.dictionaryManager.dictionaries r = none ∧
      ∀ q ∈ after, q = .invalid ∨ ∃ data, q = .middle r data := by
  induction ps using List.reverseRecOn with
  | nil => exact iff_of_false (not_orphaned_idle hidle) (by simp)
  | append_singleton ps p ih =>
    have hsnoc : (rcv.acceptAll (ps ++ [p])).2 = ((rcv.acceptAll ps).2.accept p).2 := by
      rw [acceptAll_append]
      rfl
    rw [hsnoc, orphaned_accept, ih]
    constructor
    · rintro (⟨rfl, hstarted, hnone⟩ | ⟨⟨before, after, rfl, hstarted, hnone, hafter⟩, hp⟩)
      · exact ⟨ps, [], rfl, hstarted, hnone, by simp⟩
      · refine ⟨before, after ++ [p], by simp, hstarted, hnone, ?_⟩
        intro q hq
        rcases List.mem_append.mp hq with hq | hq
        · exact hafter q hq
        · exact List.mem_singleton.mp hq ▸ hp
    · rintro ⟨before, after, hps, hstarted, hnone, hafter⟩
      rcases List.eq_nil_or_concat' after with rfl | ⟨after, q, rfl⟩
      · obtain ⟨rfl, hlast⟩ := List.append_inj' hps rfl
        exact Or.inl ⟨List.singleton_inj.mp hlast, hstarted, hnone⟩
      · rw [← List.cons_append, ← List.append_assoc] at hps
        obtain ⟨rfl, hlast⟩ := List.append_inj' hps rfl
        obtain rfl := List.singleton_inj.mp hlast
        exact Or.inr ⟨⟨before, after, rfl, hstarted, hnone,
          fun q' hq' => hafter q' (List.mem_append_left _ hq')⟩,
          hafter p (List.mem_append_right _ (List.mem_singleton_self p))⟩

end Receiver

variable {S ε : Type} {s : WordSize} {decoder : BejDecoder} {storer : ExternalStorerInterface S ε}

lemma Request.serve_not_dictionaryError {request : Request} {exStorer : S}
    (h : ∀ status, request = .answered status → status ≠ .rdeDictionaryError) :
    (request.serve decoder storer exStorer).1 ≠ .ok .rdeDictionaryError := by
  cases request with
  | answered status => exact fun heq => h status rfl (Except.ok.inj heq)
  | decode dictionaries encodedPldmBlock =>
    rw [serve]
    dsimp only
    split_ifs
    · simp
    · rcases (storer.publishJson (decoder dictionaries encodedPldmBlock).2 exStorer).1
        with e | - | - <;> simp [Except.map]

lemma decode_dictionaryError {h : RdeCommandHandler S} {c : Command} :
    (h.decode s decoder storer c).1 = .ok .rdeDictionaryError ↔
      ∃ p r, c.packet s = some p ∧ h.receiver.Orphaned r ∧ p.AddsTo r := by
  cases hp : c.packet s with
  | none =>
    rw [decode_request hp]
    refine iff_of_false (Request.serve_not_dictionaryError fun status hstatus => ?_) (by simp)
    rcases Request.ofSpan_answered hstatus with rfl | rfl | rfl | rfl | rfl <;> simp
  | some p =>
    rw [decode_packet hp, Except.ok.injEq, Receiver.accept_dictionaryError]
    simp

theorem decodeAll_dictionaryError (decoder : BejDecoder) (storer : ExternalStorerInterface S ε)
    (exStorer : S) (commands : List Command) (c : Command) :
    let fresh := RdeCommandHandler.fresh exStorer
    (fresh.decodeAll s decoder storer (commands ++ [c])).1.getLast? =
        some (.ok .rdeDictionaryError) ↔
      ∃ r p before after, c.packet s = some p ∧ p.AddsTo r ∧
        packets s commands = before ++ .unknownFlag r :: after ∧
        (fresh.receiver.acceptAll before).2.flagState = .rdeStateStartRecvd ∧
        (fresh.receiver.acceptAll before).2.dictionaryManager.dictionaries r = none ∧
        ∀ q ∈ after, q = .invalid ∨ ∃ data, q = .middle r data := by
  intro fresh
  have hidle : fresh.receiver.flagState = .rdeStateIdle := rfl
  rw [RdeCommandHandler.decodeAll, Machine.run_snoc, List.getLast?_concat, Option.some.injEq,
    decode_dictionaryError, ← RdeCommandHandler.decodeAll, decodeAll_receiver]
  constructor
  · rintro ⟨p, r, hp, horphaned, hadds⟩
    obtain ⟨before, after, hpackets, hrest⟩ := (Receiver.orphaned_acceptAll hidle).mp horphaned
    exact ⟨r, p, before, after, hp, hadds, hpackets, hrest⟩
  · rintro ⟨r, p, before, after, hp, hadds, hpackets, hrest⟩
    exact ⟨p, r, hp, (Receiver.orphaned_acceptAll hidle).mpr ⟨before, after, hpackets, hrest⟩,
      hadds⟩

end SmmErrorLogger.Rde
