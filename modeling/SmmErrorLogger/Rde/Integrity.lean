import SmmErrorLogger.Rde.RoundTrip

/-! The dictionaries in use are those of transfers that were closed with a matching checksum. -/

namespace SmmErrorLogger.Rde

open Library Library.Bytes

def sentFor (r : UInt32) (ps : List Piece) : List UInt8 :=
  (ps.filter (fun p => p.1 = r)).flatMap Prod.snd

/-- What has been received: the pieces of the transfer in progress, and the transfers that
were closed with a matching checksum. -/
structure Ledger where
  current : List Piece
  closed : List (List Piece)

namespace Ledger

def empty : Ledger := ⟨[], []⟩

def record (L : Ledger) (status : RdeDecodeStatus) : Packet → Ledger
  | .invalid => L
  | .unknownFlag _ => L
  | .start r data => { L with current := [(r, data)] }
  | .middle r data => if status = .rdeOk then { L with current := L.current ++ [(r, data)] } else L
  | .finish r data _ =>
    if status = .rdeStopFlagReceived then ⟨[], L.closed ++ [L.current ++ [(r, data)]]⟩
    else { L with current := [] }
  | .startAndEnd r data _ =>
    if status = .rdeStopFlagReceived then ⟨[], L.closed ++ [[(r, data)]]⟩
    else { L with current := [] }

def ids (L : Ledger) : List UInt32 := L.current.map Prod.fst

end Ledger

def Sanctioned (closed : List (List Piece)) (r : UInt32) (data : List UInt8) : Prop :=
  ∃ t ∈ closed, r ∈ t.map Prod.fst ∧ sentFor r t = data

variable {r x y : UInt32} {data : List UInt8} {ps : List Piece} {closed : List (List Piece)}

lemma sentFor_append_same : sentFor r (ps ++ [(r, data)]) = sentFor r ps ++ data := by
  simp [sentFor]

lemma sentFor_append_other (h : x ≠ r) : sentFor x (ps ++ [(r, data)]) = sentFor x ps := by
  simp [sentFor, h.symm]

lemma Sanctioned.mono (h : Sanctioned closed r data) (t : List Piece) :
    Sanctioned (closed ++ [t]) r data := by
  obtain ⟨t', ht', hdata⟩ := h
  exact ⟨t', List.mem_append_left _ ht', hdata⟩

lemma sanctioned_last {t : List Piece} (h : r ∈ t.map Prod.fst) :
    Sanctioned (closed ++ [t]) r (sentFor r t) :=
  ⟨t, by simp, h, rfl⟩

/-- The dictionary of `prev` is open, the others of the transfer are complete, and what else is
valid is sanctioned. -/
structure Underway (m : DictionaryManager) (prev : UInt32) (L : Ledger) : Prop where
  mem : prev ∈ L.ids
  unfinished : m.dictionaries prev = some ⟨false, sentFor prev L.current⟩
  complete : ∀ x ∈ L.ids, x ≠ prev → m.dictionaries x = some ⟨true, sentFor x L.current⟩
  others : ∀ x ∉ L.ids, ∀ d, m.dictionaries x = some ⟨true, d⟩ → Sanctioned L.closed x d

namespace Underway

variable {m : DictionaryManager} {prev : UInt32} {L : Ledger}

lemma ids_append : (⟨L.current ++ [(y, data)], L.closed⟩ : Ledger).ids = L.ids ++ [y] := by
  simp [Ledger.ids]

lemma added (h : Underway m prev L) : (m.takeData prev y data).1 = true := by
  rw [DictionaryManager.takeData]
  split_ifs with hy
  · rfl
  · obtain rfl := not_not.mp hy
    rw [DictionaryManager.addDictionaryData_fst, h.unfinished]
    rfl

lemma takeData (h : Underway m prev L) (hfresh : y ≠ prev → sentFor y L.current = []) :
    Underway (m.takeData prev y data).2 y ⟨L.current ++ [(y, data)], L.closed⟩ := by
  rw [DictionaryManager.takeData]
  split_ifs with hy
  · have hdictionaries : ((m.markDataComplete prev).2.startDictionaryEntry y data).dictionaries =
        Function.update (Function.update m.dictionaries prev (some ⟨true, sentFor prev L.current⟩))
          y (some ⟨false, data⟩) := by
      simp [h.unfinished]
    refine ⟨?_, ?_, ?_, ?_⟩
    · simp [ids_append]
    · rw [hdictionaries, Function.update_self, sentFor_append_same, hfresh (Ne.symm hy),
        List.nil_append]
    · intro x hx hne
      rw [hdictionaries, Function.update_of_ne hne, sentFor_append_other hne]
      by_cases hprev : x = prev
      · rw [hprev, Function.update_self]
      · rw [Function.update_of_ne hprev]
        exact h.complete x (by simpa [ids_append, hne] using hx) hprev
    · intro x hx d hd
      rw [ids_append, List.mem_append, not_or, List.mem_singleton] at hx
      have hprev : x ≠ prev := fun heq => hx.1 (heq ▸ h.mem)
      rw [hdictionaries, Function.update_of_ne hx.2, Function.update_of_ne hprev] at hd
      exact h.others x hx.1 d hd
  · obtain rfl := not_not.mp hy
    refine ⟨?_, ?_, ?_, ?_⟩
    · simp [ids_append]
    · simp [h.unfinished, sentFor_append_same]
    · intro x hx hne
      rw [DictionaryManager.addDictionaryData_dictionaries, Function.update_of_ne hne,
        sentFor_append_other hne]
      exact h.complete x (by simpa [ids_append, hne] using hx) hne
    · intro x hx d hd
      rw [ids_append, List.mem_append, not_or, List.mem_singleton] at hx
      rw [DictionaryManager.addDictionaryData_dictionaries, Function.update_of_ne hx.2] at hd
      exact h.others x hx.1 d hd

lemma sanctioned (h : Underway m prev L) {d : List UInt8}
    (hd : (m.markDataComplete prev).2.dictionaries x = some ⟨true, d⟩) :
    Sanctioned (L.closed ++ [L.current]) x d := by
  rw [DictionaryManager.markDataComplete_dictionaries, h.unfinished] at hd
  by_cases hx : x ∈ L.ids
  · rcases eq_or_ne x prev with rfl | hprev
    · rw [Function.update_self] at hd
      obtain rfl : sentFor x L.current = d := by simpa using hd
      exact sanctioned_last h.mem
    · rw [Function.update_of_ne hprev, h.complete x hx hprev] at hd
      obtain rfl : sentFor x L.current = d := by simpa using hd
      exact sanctioned_last hx
  · have hprev : x ≠ prev := fun heq => hx (heq ▸ h.mem)
    rw [Function.update_of_ne hprev] at hd
    exact (h.others x hx d hd).mono L.current

end Underway

structure Integrity (r : Receiver) (L : Ledger) : Prop where
  idle : r.flagState = .rdeStateIdle → ∀ x d, r.dictionaryManager.dictionaries x = some ⟨true, d⟩ →
    Sanctioned L.closed x d
  started : r.flagState = .rdeStateStartRecvd → Underway r.dictionaryManager r.prevDictResourceId L

def Mismatches (crc : UInt32) : Closing → Prop
  | .malformed => False
  | .checksum value => finalChecksum crc ≠ value

/-- The packet gives up no transfer with a complete dictionary, except that of `y`. -/
def AbandonsNothing (r : Receiver) (L : Ledger) (y : UInt32) : Prop :=
  r.flagState = .rdeStateStartRecvd → ∀ x ∈ L.ids, x = r.prevDictResourceId ∨ x = y

/-- A resource ID that comes back has not had data in the transfer. -/
def ReturnsToNothing (r : Receiver) (L : Ledger) (y : UInt32) : Prop :=
  y ≠ r.prevDictResourceId → sentFor y L.current = []

def Careful (r : Receiver) (L : Ledger) : Packet → Prop
  | .invalid => True
  | .unknownFlag y => r.flagState = .rdeStateStartRecvd → y = r.prevDictResourceId
  | .start y _ => AbandonsNothing r L y
  | .middle y _ => r.flagState = .rdeStateStartRecvd → ReturnsToNothing r L y
  | .finish y data closing => r.flagState = .rdeStateStartRecvd →
    Mismatches (updateCrc r.crc data) closing ∨ closing ≠ .malformed ∧ ReturnsToNothing r L y
  | .startAndEnd y data closing =>
    Mismatches (updateCrc 0xFFFFFFFF data) closing ∨ closing ≠ .malformed ∧ AbandonsNothing r L y

variable {rcv : Receiver} {L : Ledger}

lemma integrity_empty (crc : UInt32) (prev : UInt32) :
    Integrity ⟨.rdeStateIdle, prev, .empty, crc⟩ .empty where
  idle _ x d hd := by simp [DictionaryManager.empty] at hd
  started hstarted := by simp at hstarted

lemma Integrity.start (h : Integrity rcv L) (hcareful : AbandonsNothing rcv L y) :
    Underway (rcv.dictionaryManager.startDictionaryEntry y data) y ⟨[(y, data)], L.closed⟩ := by
  refine ⟨by simp [Ledger.ids], by simp [sentFor], ?_, ?_⟩
  · intro x hx hne
    simp [Ledger.ids, hne] at hx
  · intro x hx d hd
    have hne : x ≠ y := by simpa [Ledger.ids] using hx
    rw [DictionaryManager.startDictionaryEntry_dictionaries, Function.update_of_ne hne] at hd
    cases hstate : rcv.flagState with
    | rdeStateIdle => exact h.idle hstate x d hd
    | rdeStateStartRecvd =>
      have hunderway := h.started hstate
      by_cases hmem : x ∈ L.ids
      · obtain rfl := (hcareful hstate x hmem).resolve_right hne
        simp [hunderway.unfinished] at hd
      · exact hunderway.others x hmem d hd

lemma close_integrity {closing : Closing} {t : List Piece} (hidle : rcv.flagState = .rdeStateIdle)
    (hclosing : Mismatches rcv.crc closing ∨ closing ≠ .malformed ∧
      ∀ x d, rcv.dictionaryManager.dictionaries x = some ⟨true, d⟩ →
        Sanctioned (L.closed ++ [t]) x d) :
    Integrity (rcv.close closing).2
      (if (rcv.close closing).1 = .rdeStopFlagReceived then ⟨[], L.closed ++ [t]⟩
        else { L with current := [] }) := by
  cases closing with
  | malformed => exact (hclosing.resolve_left id).1.elim rfl
  | checksum value =>
    by_cases hcrc : finalChecksum rcv.crc ≠ value
    · rw [Receiver.close, if_pos hcrc]
      refine ⟨fun _ x d hd => ?_, fun hstarted => absurd (hidle.symm.trans hstarted) (by simp)⟩
      cases hentry : rcv.dictionaryManager.dictionaries x <;>
        simp [DictionaryManager.invalidateDictionaries, hentry] at hd
    · rw [Receiver.close, if_neg hcrc]
      exact ⟨fun _ => (hclosing.resolve_left hcrc).2,
        fun hstarted => absurd (hidle.symm.trans hstarted) (by simp)⟩

section Taken

variable {m : DictionaryManager} {prev : UInt32} {crc : UInt32}

lemma accept_middle_taken (hadded : (m.takeData prev y data).1 = true) :
    (⟨.rdeStateStartRecvd, prev, m, crc⟩ : Receiver).accept (.middle y data) =
      (.rdeOk, ⟨.rdeStateStartRecvd, y, (m.takeData prev y data).2, updateCrc crc data⟩) := by
  simp [Receiver.accept, hadded]

lemma accept_finish_taken {closing : Closing} (hadded : (m.takeData prev y data).1 = true) :
    (⟨.rdeStateStartRecvd, prev, m, crc⟩ : Receiver).accept (.finish y data closing) =
      (⟨.rdeStateIdle, y, ((m.takeData prev y data).2.markDataComplete y).2, updateCrc crc data⟩ :
        Receiver).close closing := by
  simp [Receiver.accept, hadded]

end Taken

theorem accept_integrity (h : Integrity rcv L) {p : Packet} (hcareful : Careful rcv L p) :
    Integrity (rcv.accept p).2 (L.record (rcv.accept p).1 p) := by
  obtain ⟨flagState, prev, m, crc⟩ := rcv
  cases p with
  | invalid => exact h
  | unknownFlag y =>
    refine ⟨h.idle, fun hstarted => ?_⟩
    obtain rfl := hcareful hstarted
    exact h.started hstarted
  | start y data =>
    exact ⟨fun hidle => by simp [Receiver.accept] at hidle, fun _ => h.start hcareful⟩
  | middle y data =>
    cases flagState with
    | rdeStateIdle =>
      exact ⟨fun _ => h.idle rfl, fun hstarted => by simp [Receiver.accept] at hstarted⟩
    | rdeStateStartRecvd =>
      rw [accept_middle_taken (h.started rfl).added]
      exact ⟨fun hidle => by simp at hidle, fun _ => (h.started rfl).takeData (hcareful rfl)⟩
  | finish y data closing =>
    cases flagState with
    | rdeStateIdle =>
      exact ⟨fun _ => h.idle rfl, fun hstarted => by simp [Receiver.accept] at hstarted⟩
    | rdeStateStartRecvd =>
      rw [accept_finish_taken (h.started rfl).added]
      refine close_integrity rfl ((hcareful rfl).imp_right (And.imp_right fun hfresh x d hd => ?_))
      exact ((h.started rfl).takeData hfresh).sanctioned hd
  | startAndEnd y data closing =>
    refine close_integrity rfl (hcareful.imp_right (And.imp_right fun habandons x d hd => ?_))
    exact (h.start habandons).sanctioned hd

section Run

open Library.Interaction

variable {S ε : Type} (s : WordSize) (decoder : BejDecoder) (storer : ExternalStorerInterface S ε)

def Ledger.follow (L : Ledger) (command : Command) (result : Except ε RdeDecodeStatus) : Ledger :=
  match command.packet s, result with
  | some p, .ok status => L.record status p
  | _, _ => L

def audited (state : RdeCommandHandler S × Ledger) (command : Command) :
    Except ε RdeDecodeStatus × RdeCommandHandler S × Ledger :=
  let (result, h) := state.1.decode s decoder storer command
  (result, h, state.2.follow s command result)

def CarefulCommand (state : RdeCommandHandler S × Ledger) (command : Command) : Prop :=
  ∀ p, command.packet s = some p → Careful state.1.receiver state.2 p

variable {s decoder storer}

lemma audited_bisimulation : Machine.Bisimulation (audited s decoder storer)
    (RdeCommandHandler.decode s decoder storer) (fun _ _ => True) (fun state h => state.1 = h) where
  answer := by
    rintro state _ command - rfl
    rfl
  next := by
    rintro state _ command - rfl
    rfl

lemma audited_integrity {state : RdeCommandHandler S × Ledger} {command : Command}
    (h : Integrity state.1.receiver state.2) (hcareful : CarefulCommand s state command) :
    Integrity (audited s decoder storer state command).2.1.receiver
      (audited s decoder storer state command).2.2 := by
  rw [audited]
  cases hp : command.packet s with
  | none =>
    simp only [decode_request hp, Ledger.follow, hp]
    exact h
  | some p =>
    simp only [decode_packet hp, Ledger.follow, hp]
    exact accept_integrity h (hcareful p hp)

theorem decodeAll_integrity (decoder : BejDecoder) (storer : ExternalStorerInterface S ε)
    (exStorer : S) (commands : List Command)
    (hcareful : Machine.Along (audited s decoder storer) (CarefulCommand s)
      (.fresh exStorer, .empty) commands) :
    let final := (Machine.run (audited s decoder storer) (.fresh exStorer, .empty) commands).2
    final.1 = ((RdeCommandHandler.fresh exStorer).decodeAll s decoder storer commands).2 ∧
      (final.1.flagState = .rdeStateIdle →
        ∀ r data, final.1.dictionaryManager.getDictionary r = some data →
          Sanctioned final.2.closed r data) := by
  intro final
  have hfinal : Integrity final.1.receiver final.2 :=
    Machine.run_invariant (I := fun state => Integrity state.1.receiver state.2)
      (fun _ _ hcareful h => audited_integrity h hcareful) hcareful (integrity_empty _ _)
  have hany : Machine.Along (audited s decoder storer) (fun _ _ => True)
      (.fresh exStorer, .empty) commands :=
    Machine.along_of_forall (fun _ _ => trivial)
  refine ⟨(audited_bisimulation.run hany rfl).2, fun hidle r data hdata => ?_⟩
  exact hfinal.idle hidle r data (DictionaryManager.getDictionary_eq_some.mp hdata)

def malformedEnd : List Command := [
  ⟨.ofList [0, 0, 5, 0, 0, 0, 1, 0, 0, 0, 1], .rdeMultiPartReceiveResponse⟩,
  ⟨.ofList [0, 2, 5, 0, 0, 0, 1, 0, 0, 0, 2], .rdeMultiPartReceiveResponse⟩]

theorem decodeAll_not_integrity :
    let final := (Machine.run (audited .bits64 (fun _ _ => (0, []))
      ⟨fun _ n => ((.ok true : Except Empty Bool), n)⟩) (.fresh (), .empty) malformedEnd).2
    final.1.flagState = .rdeStateIdle ∧ final.1.dictionaryManager.getDictionary 5 = some [1, 2] ∧
      ¬ Sanctioned final.2.closed 5 [1, 2] := by
  intro final
  have hclosed : final.2.closed = [] := by decide
  refine ⟨by decide, by decide, ?_⟩
  rintro ⟨t, ht, -⟩
  simp [hclosed] at ht

theorem decodeAll_integrity_twoDictionaries :
    let final := (Machine.run (audited .bits32 (fun _ _ => (0, []))
      ⟨fun _ n => ((.ok true : Except Empty Bool), n)⟩) (.fresh (), .empty)
        DictionaryTransfer.twoDictionariesCommands).2
    Machine.Along (audited .bits32 (fun _ _ => (0, []))
      ⟨fun _ n => ((.ok true : Except Empty Bool), n)⟩)
        (CarefulCommand .bits32) (.fresh (), .empty) DictionaryTransfer.twoDictionariesCommands ∧
      (final.1.flagState = .rdeStateIdle →
        ∀ r data, final.1.dictionaryManager.getDictionary r = some data →
        Sanctioned final.2.closed r data) := by
  have hcareful : Machine.Along (audited .bits32 (fun _ _ => (0, []))
      ⟨fun _ n => ((.ok true : Except Empty Bool), n)⟩) (CarefulCommand .bits32) (.fresh (), .empty)
      DictionaryTransfer.twoDictionariesCommands := by
    refine ⟨?_, ?_, ?_, ?_, trivial⟩
    · rintro _ ⟨⟩
      exact fun hstarted => absurd hstarted (by decide)
    · rintro _ ⟨⟩
    · rintro _ ⟨⟩
      exact fun _ hreturn => absurd rfl hreturn
    · rintro _ ⟨⟩
      exact fun _ => Or.inr ⟨by decide, fun _ => by decide⟩
  have hintegrity := decodeAll_integrity _ _ () _ hcareful
  exact ⟨hcareful, hintegrity.2⟩

end Run

end SmmErrorLogger.Rde
