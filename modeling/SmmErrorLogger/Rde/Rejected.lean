import SmmErrorLogger.Rde.RoundTrip

/-! Commands that are refused before any of their data is stored, and when they leave a trace. -/

namespace SmmErrorLogger.Rde

open Library Library.Bytes Library.Interaction

variable {S ε : Type} {s : WordSize} {decoder : BejDecoder} {storer : ExternalStorerInterface S ε}

def Receiver.Refuses (r : Receiver) : Packet → Prop
  | .invalid => True
  | .unknownFlag _ => True
  | .start _ _ => False
  | .middle _ _ => r.flagState = .rdeStateIdle
  | .finish _ _ _ => r.flagState = .rdeStateIdle
  | .startAndEnd _ _ _ => False

def Rejected (s : WordSize) (h : RdeCommandHandler S) (command : Command) : Prop :=
  match command.packet s with
  | some p => h.receiver.Refuses p
  | none =>
    let header := command.span.operationInitHeader
    command.span.size < RdeOperationInitReqHeader.size ∨ header.containsRequestPayload ∧
      command.span.size < (RdeOperationInitReqHeader.size + header.operationLocatorLength.toNat +
        header.requestPayloadLength.toNat) % s.modulus

def LeavesNoTrace (s : WordSize) (decoder : BejDecoder) (storer : ExternalStorerInterface S ε)
    (h : RdeCommandHandler S) (command : Command) : Prop :=
  ∀ commands,
    let received := (h.decode s decoder storer command).2.decodeAll s decoder storer commands
    let ignored := h.decodeAll s decoder storer commands
    received.1 = ignored.1 ∧
      (∀ r, received.2.dictionaryManager.dictionaries r =
        ignored.2.dictionaryManager.dictionaries r) ∧
      received.2.getDictionaryCount = ignored.2.getDictionaryCount

namespace DictionaryManager

variable {m : DictionaryManager} {r r' r'' : UInt32} {data : List UInt8}

def Vacant (m : DictionaryManager) (r : UInt32) : Prop := m.dictionaries r = some ⟨true, []⟩

def Interchangeable (m : DictionaryManager) (r r' : UInt32) : Prop :=
  r = r' ∨ m.Vacant r ∧ m.Vacant r'

lemma Interchangeable.trans (h : m.Interchangeable r r') (h' : m.Interchangeable r' r'') :
    m.Interchangeable r r'' := by
  rcases h with rfl | ⟨hr, hr'⟩
  · exact h'
  · rcases h' with rfl | ⟨-, hr''⟩
    · exact Or.inr ⟨hr, hr'⟩
    · exact Or.inr ⟨hr, hr''⟩

lemma takeData_vacant (h : m.Vacant r') :
    m.takeData r' r data = (true, m.startDictionaryEntry r data) := by
  rw [takeData]
  split_ifs with hr
  · have hcount : (m.markDataComplete r').2.validDictionaryCount = m.validDictionaryCount := by
      rw [markDataComplete, h]
      rfl
    have hdict : (m.markDataComplete r').2.dictionaries = m.dictionaries := by
      rw [markDataComplete_dictionaries, h, Option.map_some, ← h]
      exact Function.update_eq_self r' m.dictionaries
    rw [DictionaryManager.ext hcount hdict]
  · obtain rfl := not_not.mp hr
    rw [addDictionaryData, startDictionaryEntry, h]
    rfl

lemma takeData_interchangeable (h : m.Interchangeable r' r'') :
    m.takeData r' r data = m.takeData r'' r data := by
  rcases h with rfl | ⟨h', h''⟩
  · rfl
  · rw [takeData_vacant h', takeData_vacant h'']

lemma takeData_distinguishes (hne : r ≠ r')
    (hadded : (m.takeData r r [0]).1 = (m.takeData r' r [0]).1)
    (hdict : (m.takeData r r [0]).2.dictionaries = (m.takeData r' r [0]).2.dictionaries) :
    (∃ valid, m.dictionaries r = some ⟨valid, []⟩) ∧ ∀ entry, m.dictionaries r' = some entry →
      entry.valid := by
  rw [takeData, takeData, if_neg (not_not.mpr rfl), if_pos hne.symm] at hadded hdict
  rw [addDictionaryData_fst] at hadded
  obtain ⟨⟨valid, data⟩, hentry⟩ := Option.isSome_iff_exists.mp hadded
  simp only [addDictionaryData_dictionaries, startDictionaryEntry_dictionaries,
    markDataComplete_dictionaries, hentry] at hdict
  constructor
  · have hr := congrFun hdict r
    simp only [Function.update_self, Option.map_some, Option.some.injEq, DictionaryEntry.mk.injEq,
      true_and] at hr
    obtain rfl : data = [] := List.append_cancel_right (hr.trans (List.nil_append [0]).symm)
    exact ⟨valid, hentry⟩
  · intro entry hentry'
    have hr' := congrFun hdict r'
    rw [Function.update_of_ne hne.symm, Function.update_of_ne hne.symm,
      Function.update_self, hentry', Option.map_some, Option.some.injEq] at hr'
    exact congrArg DictionaryEntry.valid hr'

lemma interchangeable_of_takeData
    (h : ∀ x, (m.takeData r x [0]).1 = (m.takeData r' x [0]).1 ∧
      (m.takeData r x [0]).2.dictionaries = (m.takeData r' x [0]).2.dictionaries) :
      m.Interchangeable r r' := by
  by_cases hne : r = r'
  · exact Or.inl hne
  · obtain ⟨⟨valid, hr⟩, hvalid'⟩ := takeData_distinguishes hne (h r).1 (h r).2
    obtain ⟨⟨valid', hr'⟩, hvalid⟩ :=
      takeData_distinguishes (Ne.symm hne) (h r').1.symm (h r').2.symm
    obtain rfl : valid = true := hvalid _ hr
    obtain rfl : valid' = true := hvalid' _ hr'
    exact Or.inr ⟨hr, hr'⟩

end DictionaryManager

structure Receiver.Alike (r r' : Receiver) : Prop where
  flagState : r.flagState = r'.flagState
  dictionaryManager : r.dictionaryManager = r'.dictionaryManager
  crc : r.crc = r'.crc
  prev : r.flagState = .rdeStateIdle ∨
    r.dictionaryManager.Interchangeable r.prevDictResourceId r'.prevDictResourceId

namespace Receiver

variable {r r' r'' : Receiver}

lemma Alike.refl (r : Receiver) : r.Alike r := ⟨rfl, rfl, rfl, Or.inr (Or.inl rfl)⟩

lemma Alike.trans (h : r.Alike r') (h' : r'.Alike r'') : r.Alike r'' := by
  refine ⟨h.flagState.trans h'.flagState, h.dictionaryManager.trans h'.dictionaryManager,
    h.crc.trans h'.crc, ?_⟩
  rcases h.prev with hidle | hprev
  · exact Or.inl hidle
  · have hprev' := h'.prev
    rw [← h.flagState, ← h.dictionaryManager] at hprev'
    exact hprev'.imp_right hprev.trans

lemma Alike.accept (h : r.Alike r') (p : Packet) :
    (r.accept p).1 = (r'.accept p).1 ∧ (r.accept p).2.Alike (r'.accept p).2 := by
  obtain ⟨flagState, prev, m, crc⟩ := r
  obtain ⟨flagState', prev', m', crc'⟩ := r'
  obtain ⟨rfl, rfl, rfl, hprev⟩ := h
  have htake : flagState = .rdeStateStartRecvd → ∀ resourceId data,
      m.takeData prev resourceId data = m.takeData prev' resourceId data := by
    intro hstarted resourceId data
    refine DictionaryManager.takeData_interchangeable (hprev.resolve_left ?_)
    dsimp only
    rw [hstarted]
    simp
  cases p with
  | invalid => exact ⟨rfl, rfl, rfl, rfl, hprev⟩
  | unknownFlag resourceId => exact ⟨rfl, Alike.refl _⟩
  | start resourceId data => exact ⟨rfl, Alike.refl _⟩
  | startAndEnd resourceId data closing => exact ⟨rfl, Alike.refl _⟩
  | middle resourceId data =>
    cases flagState with
    | rdeStateIdle => exact ⟨rfl, Alike.refl _⟩
    | rdeStateStartRecvd =>
      simp only [Receiver.accept, htake rfl]
      exact ⟨trivial, Alike.refl _⟩
  | finish resourceId data closing =>
    cases flagState with
    | rdeStateIdle => exact ⟨rfl, Alike.refl _⟩
    | rdeStateStartRecvd =>
      simp only [Receiver.accept, htake rfl]
      exact ⟨trivial, Alike.refl _⟩

end Receiver

structure RdeCommandHandler.Alike (h h' : RdeCommandHandler S) : Prop where
  exStorer : h.exStorer = h'.exStorer
  receiver : h.receiver.Alike h'.receiver

variable {h h' h'' : RdeCommandHandler S} {command : Command}

lemma RdeCommandHandler.Alike.refl (h : RdeCommandHandler S) : h.Alike h := ⟨rfl, .refl _⟩

lemma RdeCommandHandler.Alike.trans (halike : h.Alike h') (halike' : h'.Alike h'') : h.Alike h'' :=
  ⟨halike.exStorer.trans halike'.exStorer, halike.receiver.trans halike'.receiver⟩

lemma RdeCommandHandler.Alike.decode (halike : h.Alike h') (command : Command) :
    (h.decode s decoder storer command).1 = (h'.decode s decoder storer command).1 ∧
      (h.decode s decoder storer command).2.Alike (h'.decode s decoder storer command).2 := by
  cases hp : command.packet s with
  | some p =>
    obtain ⟨hstatus, hreceiver⟩ := halike.receiver.accept p
    rw [decode_packet hp, decode_packet hp]
    exact ⟨congrArg Except.ok hstatus, halike.exStorer, hreceiver⟩
  | none =>
    have hmanager : h.dictionaryManager = h'.dictionaryManager := halike.receiver.dictionaryManager
    have hanswer : (Request.ofSpan s command.span h.dictionaryManager.getDictionary).serve
        decoder storer h.exStorer =
      (Request.ofSpan s command.span h'.dictionaryManager.getDictionary).serve
        decoder storer h'.exStorer := by
      rw [hmanager, halike.exStorer]
    rw [decode_request hp, decode_request hp]
    dsimp only
    exact ⟨congrArg Prod.fst hanswer, congrArg Prod.snd hanswer, halike.receiver⟩

theorem alike_bisimulation : Machine.Bisimulation (RdeCommandHandler.decode s decoder storer)
    (RdeCommandHandler.decode s decoder storer) (fun _ _ => True) RdeCommandHandler.Alike where
  answer _ halike := (halike.decode _).1
  next _ halike := (halike.decode _).2

lemma leavesNoTrace_of_alike (halike : (h.decode s decoder storer command).2.Alike h) :
    LeavesNoTrace s decoder storer h command := by
  intro commands
  have hany : Machine.Along (RdeCommandHandler.decode s decoder storer) (fun _ _ => True)
      (h.decode s decoder storer command).2 commands := Machine.along_of_forall (fun _ _ => trivial)
  obtain ⟨hresults, hfinal⟩ := alike_bisimulation.run hany halike
  have hmanager := hfinal.receiver.dictionaryManager
  refine ⟨hresults, fun r => ?_, ?_⟩
  · exact congrFun (congrArg DictionaryManager.dictionaries hmanager) r
  · exact congrArg DictionaryManager.validDictionaryCount hmanager

/-- An unknown transfer flag comes in the middle of a transfer, with a resource ID that makes a
difference. -/
def Pollutes (s : WordSize) (h : RdeCommandHandler S) (command : Command) : Prop :=
  ∃ r, command.packet s = some (.unknownFlag r) ∧ h.flagState = .rdeStateStartRecvd ∧
    ¬ h.dictionaryManager.Interchangeable r h.prevDictResourceId

lemma decode_rejected (decoder : BejDecoder) (storer : ExternalStorerInterface S ε)
    (hrejected : Rejected s h command) :
    ∃ r, (h.decode s decoder storer command).2 = { h with prevDictResourceId := r } ∧
      (r = h.prevDictResourceId ∨ h.flagState = .rdeStateIdle ∨
        command.packet s = some (.unknownFlag r)) := by
  rw [Rejected] at hrejected
  cases hp : command.packet s with
  | none =>
    rw [hp] at hrejected
    refine ⟨h.prevDictResourceId, ?_, Or.inl rfl⟩
    rw [decode_request hp, Request.ofSpan]
    dsimp only
    rcases hrejected with hsize | ⟨hpayload, hsize⟩
    · rw [if_pos hsize]
      rfl
    · split_ifs <;> rfl
  | some p =>
    rw [hp] at hrejected
    rw [decode_packet hp]
    cases p with
    | invalid => exact ⟨h.prevDictResourceId, rfl, Or.inl rfl⟩
    | start resourceId data => exact hrejected.elim
    | startAndEnd resourceId data closing => exact hrejected.elim
    | unknownFlag resourceId => exact ⟨resourceId, rfl, Or.inr (Or.inr rfl)⟩
    | middle resourceId data =>
      rw [Receiver.accept, if_pos (by rw [show h.receiver.flagState = _ from hrejected]; simp)]
      exact ⟨resourceId, rfl, Or.inr (Or.inl hrejected)⟩
    | finish resourceId data closing =>
      rw [Receiver.accept, if_pos (by rw [show h.receiver.flagState = _ from hrejected]; simp)]
      exact ⟨resourceId, rfl, Or.inr (Or.inl hrejected)⟩

lemma rejected_alike (hrejected : Rejected s h command) (hpollutes : ¬ Pollutes s h command) :
    (h.decode s decoder storer command).2.Alike h := by
  obtain ⟨r, hh, hr⟩ := decode_rejected decoder storer hrejected
  rw [hh]
  refine ⟨rfl, rfl, rfl, rfl, ?_⟩
  rcases hr with rfl | hidle | hp
  · exact Or.inr (Or.inl rfl)
  · exact Or.inl hidle
  · by_contra hprev
    obtain ⟨hflag, hdiffers⟩ := not_or.mp hprev
    refine hpollutes ⟨r, hp, ?_, hdiffers⟩
    cases hstate : h.flagState with
    | rdeStateIdle => exact absurd hstate hflag
    | rdeStateStartRecvd => rfl

open scoped Classical in
noncomputable def RdeCommandHandler.decodeKeeping (s : WordSize) (decoder : BejDecoder)
    (storer : ExternalStorerInterface S ε) (h : RdeCommandHandler S) (command : Command) :
    Except ε RdeDecodeStatus × RdeCommandHandler S :=
  let (result, h') := h.decode s decoder storer command
  (result, if Rejected s h command then { h' with prevDictResourceId := h.prevDictResourceId }
    else h')

lemma RdeCommandHandler.Alike.rejected (halike : h.Alike h') :
    Rejected s h command ↔ Rejected s h' command := by
  have hflag : h.receiver.flagState = h'.receiver.flagState := halike.receiver.flagState
  rw [Rejected, Rejected]
  cases command.packet s with
  | none => exact Iff.rfl
  | some p => cases p <;> simp only [Receiver.Refuses, hflag]

theorem keeping_bisimulation : Machine.Bisimulation (RdeCommandHandler.decode s decoder storer)
    (RdeCommandHandler.decodeKeeping s decoder storer) (fun h command => ¬ Pollutes s h command)
    RdeCommandHandler.Alike where
  answer _ halike := (halike.decode _).1
  next {h h' command} hpollutes halike := by
    rw [RdeCommandHandler.decodeKeeping]
    dsimp only
    split_ifs with hrejected
    · obtain ⟨r, hh, -⟩ := decode_rejected decoder storer hrejected
      rw [hh]
      exact (rejected_alike (halike.rejected.mpr hrejected) hpollutes).trans halike
    · exact (halike.decode command).2

theorem decodeAll_keeping {commands : List Command}
    (hpollutes : Machine.Along (RdeCommandHandler.decode s decoder storer)
      (fun h c => ¬ Pollutes s h c) h commands) :
    (Machine.run (RdeCommandHandler.decodeKeeping s decoder storer) h commands).1 =
        (h.decodeAll s decoder storer commands).1 ∧
      (Machine.run (RdeCommandHandler.decodeKeeping s decoder storer) h
          commands).2.dictionaryManager =
        (h.decodeAll s decoder storer commands).2.dictionaryManager := by
  obtain ⟨hresults, hfinal⟩ := keeping_bisimulation.run hpollutes (.refl h)
  exact ⟨hresults.symm, hfinal.receiver.dictionaryManager.symm⟩

lemma Span.bytes_ofList (bs : List UInt8) : (Span.ofList bs).bytes = bs := Span.load_ofList

def oneByte : Chunk := ⟨0, [0], by decide⟩

def middleCommand (r : UInt32) : Command :=
  ⟨.ofList (oneByte.message .rdeMRecFlagMiddle r []), .rdeMultiPartReceiveResponse⟩

lemma middleCommand_packet (r : UInt32) : (middleCommand r).packet s = some (.middle r [0]) := by
  have hsize : (middleCommand r).span.size < s.modulus := by
    have hlength : (middleCommand r).span.size = 11 := by
      simp [middleCommand, Span.ofList, Chunk.message, oneByte, MultipartReceiveResHeader.size]
    have hmodulus := s.modulus_ge
    omega
  exact (if_pos rfl).trans (congrArg some (ofSpan_message hsize (Span.bytes_ofList _)))

lemma Receiver.accept_middle {r : Receiver} (hflag : r.flagState = .rdeStateStartRecvd) (x : UInt32)
    (data : List UInt8) :
    (r.accept (.middle x data)).1 =
        (if (r.dictionaryManager.takeData r.prevDictResourceId x data).1 then .rdeOk
          else .rdeDictionaryError) ∧
      (r.accept (.middle x data)).2.dictionaryManager =
        (r.dictionaryManager.takeData r.prevDictResourceId x data).2 := by
  obtain ⟨flagState, prev, m, crc⟩ := r
  obtain rfl : flagState = .rdeStateStartRecvd := hflag
  simp only [Receiver.accept]
  rcases m.takeData prev x data with ⟨- | -, m'⟩ <;> exact ⟨rfl, rfl⟩

theorem rejected_leavesNoTrace_iff (decoder : BejDecoder) (storer : ExternalStorerInterface S ε)
    (h : RdeCommandHandler S) (command : Command) (hrejected : Rejected s h command) :
    LeavesNoTrace s decoder storer h command ↔ ¬ Pollutes s h command := by
  constructor
  · rintro htrace ⟨r, hp, hflag, hdiffers⟩
    have hpolluted : (h.decode s decoder storer command).2 =
        { h with prevDictResourceId := r } := by
      rw [decode_packet hp]
      rfl
    -- what a Middle command for any resource shows of the two handlers
    have hmiddle : ∀ x, (h.dictionaryManager.takeData r x [0]).1 =
          (h.dictionaryManager.takeData h.prevDictResourceId x [0]).1 ∧
        (h.dictionaryManager.takeData r x [0]).2.dictionaries =
          (h.dictionaryManager.takeData h.prevDictResourceId x [0]).2.dictionaries := by
      intro x
      obtain ⟨hresults, hdictionaries, -⟩ := htrace [middleCommand x]
      rw [hpolluted] at hresults hdictionaries
      simp only [RdeCommandHandler.decodeAll, Machine.run_cons, Machine.run_nil,
        decode_packet (middleCommand_packet x)] at hresults hdictionaries
      obtain ⟨hstatus, hmanager⟩ := Receiver.accept_middle (r := h.receiver) hflag x [0]
      obtain ⟨hstatus', hmanager'⟩ :=
        Receiver.accept_middle (r := { h.receiver with prevDictResourceId := r }) hflag x [0]
      constructor
      · have hinjective : ∀ added added' : Bool,
          (if added then RdeDecodeStatus.rdeOk else .rdeDictionaryError) =
            (if added' then .rdeOk else .rdeDictionaryError) → added = added' := by decide
        have hsame := Except.ok.inj (List.cons.inj hresults).1
        exact hinjective _ _ (hstatus'.symm.trans (hsame.trans hstatus))
      · have hdict := funext hdictionaries
        exact (congrArg DictionaryManager.dictionaries hmanager').symm.trans
          (hdict.trans (congrArg DictionaryManager.dictionaries hmanager))
    exact hdiffers (DictionaryManager.interchangeable_of_takeData fun x => hmiddle x)
  · exact fun hpollutes => leavesNoTrace_of_alike (rejected_alike hrejected hpollutes)

def startedHandler : RdeCommandHandler Unit :=
  ((RdeCommandHandler.fresh ()).decode .bits64 (fun _ _ => (0, []))
    ⟨fun _ n => ((.ok true : Except Empty Bool), n)⟩
    ⟨.ofList [0, 0, 5, 0, 0, 0, 1, 0, 0, 0, 1], .rdeMultiPartReceiveResponse⟩).2

def unknownFlagCommand : Command :=
  ⟨.ofList [0, 7, 9, 0, 0, 0, 0, 0, 0, 0], .rdeMultiPartReceiveResponse⟩

lemma unknownFlagCommand_rejected : Rejected .bits64 startedHandler unknownFlagCommand := by
  have hp : unknownFlagCommand.packet .bits64 = some (.unknownFlag 9) := by decide
  rw [Rejected, hp]
  trivial

theorem rejected_not_leavesNoTrace : Rejected .bits64 startedHandler unknownFlagCommand ∧
    ¬ LeavesNoTrace .bits64 (fun _ _ => (0, [])) ⟨fun _ n => ((.ok true : Except Empty Bool), n)⟩
      startedHandler unknownFlagCommand := by
  refine ⟨unknownFlagCommand_rejected, fun htrace => ?_⟩
  have hentry := (htrace [middleCommand 5]).2.1 5
  exact absurd hentry (by decide)

theorem rejected_leavesNoTrace_iff_unknownFlag :
    Rejected .bits64 startedHandler unknownFlagCommand ∧
    (LeavesNoTrace .bits64 (fun _ _ => (0, [])) ⟨fun _ n => ((.ok true : Except Empty Bool), n)⟩
      startedHandler unknownFlagCommand ↔ ¬ Pollutes .bits64 startedHandler unknownFlagCommand) :=
  ⟨unknownFlagCommand_rejected, rejected_leavesNoTrace_iff _ _ _ _ unknownFlagCommand_rejected⟩

end SmmErrorLogger.Rde
