import SmmErrorLogger.Library.Machine
import SmmErrorLogger.Rde.Packets

namespace SmmErrorLogger.Rde

open Library Library.Bytes Library.Interaction
open Library.Interaction.Proc

inductive Request
  | answered (status : RdeDecodeStatus)
  | decode (dictionaries : BejDictionaries) (encodedPldmBlock : List UInt8)

def Span.operationInitHeader (c : Span) : RdeOperationInitReqHeader :=
  .ofBytes (load c.data 0 RdeOperationInitReqHeader.size)

def BejDictionaries.of (schemaDict annotationDict : List UInt8) : BejDictionaries where
  schemaDictionary := schemaDict
  schemaDictionarySize := UInt32.ofNat schemaDict.length
  annotationDictionary := annotationDict
  annotationDictionarySize := UInt32.ofNat annotationDict.length

def Request.ofSpan (s : WordSize) (c : Span) (getDictionary : UInt32 → Option (List UInt8)) :
    Request :=
  let header := c.operationInitHeader
  if c.size < RdeOperationInitReqHeader.size then .answered .rdeInvalidCommand
  else if ¬ header.containsRequestPayload then .answered .rdeOk
  else if c.size < (RdeOperationInitReqHeader.size + header.operationLocatorLength.toNat +
      header.requestPayloadLength.toNat) % s.modulus then .answered .rdeInvalidCommand
  else if header.operationType ≠ rdeOpInitOperationUpdate then .answered .rdeUnsupportedOperation
  else if header.sendDataTransferHandle ≠ 0 then .answered .rdePayloadOverflow
  else match getDictionary header.resourceID, getDictionary annotationResourceId with
    | some schemaDict, some annotationDict => .decode (.of schemaDict annotationDict)
        (load c.data (RdeOperationInitReqHeader.size + header.operationLocatorLength.toNat)
          header.requestPayloadLength.toNat)
    | _, _ => .answered .rdeNoDictionary

variable {S ε : Type} {s : WordSize} {decoder : BejDecoder} {storer : ExternalStorerInterface S ε}

def Request.serve (decoder : BejDecoder) (storer : ExternalStorerInterface S ε) (exStorer : S) :
    Request → Except ε RdeDecodeStatus × S
  | .answered status => (.ok status, exStorer)
  | .decode dictionaries encodedPldmBlock =>
    let (status, output) := decoder dictionaries encodedPldmBlock
    if status ≠ 0 then (.ok .rdeBejDecodingError, exStorer)
    else
      let (published, exStorer) := storer.publishJson output exStorer
      (published.map (fun result => if result then .rdeOk else .rdeExternalStorerError), exStorer)

variable {c : Span} {h : RdeCommandHandler S}

lemma publishJson_eval {output : List UInt8} : (do
      let published ← publishJson (ε := ε) storer output
      if ¬ published then pure .rdeExternalStorerError
      else pure .rdeOk : HandlerM S ε RdeDecodeStatus).eval c.access h =
      ((storer.publishJson output h.exStorer).1.map
        (fun result => if result then .rdeOk else .rdeExternalStorerError),
        { h with exStorer := (storer.publishJson output h.exStorer).2 }) := by
  rw [eval_bind, publishJson, eval_fetch_bind]
  rcases storer.publishJson output h.exStorer with ⟨e | - | -, exStorer⟩ <;> rfl

theorem operationInitRequest_eval :
    (operationInitRequest s decoder storer c.size).eval c.access h =
      let answer :=
        (Request.ofSpan s c h.dictionaryManager.getDictionary).serve decoder storer h.exStorer
      (answer.1, { h with exStorer := answer.2 }) := by
  rw [operationInitRequest, Request.ofSpan]
  dsimp only
  by_cases hsize : c.size < RdeOperationInitReqHeader.size
  · rw [if_pos hsize, if_pos hsize]
    rfl
  rw [if_neg hsize, if_neg hsize, CommandBytes.eval_load_bind, ← Span.operationInitHeader]
  split_ifs with hpayload hlen htype hhandle
  · rfl
  · rfl
  · rfl
  swap
  · rfl
  rw [eval_fetch_bind]
  cases h.dictionaryManager.getDictionary c.operationInitHeader.resourceID with
  | none => rfl
  | some schemaDict =>
    dsimp only
    rw [DictionaryManager.getAnnotationDictionary]
    cases h.dictionaryManager.getDictionary annotationResourceId with
    | none => rfl
    | some annotationDict =>
      dsimp only
      rw [CommandBytes.eval_handOver_bind, Request.serve, BejDictionaries.of]
      dsimp only
      split_ifs
      · rfl
      · exact publishJson_eval

structure Command where
  span : Span
  type : RdeCommandType

def RdeCommandHandler.decode (s : WordSize) (decoder : BejDecoder)
    (storer : ExternalStorerInterface S ε)
    (h : RdeCommandHandler S) (command : Command) :
    Except ε RdeDecodeStatus × RdeCommandHandler S :=
  (decodeRdeCommand s decoder storer command.span.size command.type).eval command.span.access h

def Command.packet (s : WordSize) (command : Command) : Option Packet :=
  if command.type = .rdeMultiPartReceiveResponse then some (.ofSpan s command.span)
  else if command.type = .rdeOperationInitRequest then none
  else some .invalid

variable {command : Command}

lemma decode_packet {p : Packet} (hp : command.packet s = some p) :
    h.decode s decoder storer command =
      (.ok (h.receiver.accept p).1, (h.receiver.accept p).2.handler h.exStorer) := by
  rw [Command.packet] at hp
  rw [RdeCommandHandler.decode, decodeRdeCommand]
  split_ifs at hp ⊢ with hmulti
  · obtain rfl := Option.some.inj hp
    exact multiPartReceiveResp_eval
  · obtain rfl := Option.some.inj hp
    rfl

lemma decode_request (hp : command.packet s = none) :
    h.decode s decoder storer command =
      let answer :=
        (Request.ofSpan s command.span h.dictionaryManager.getDictionary).serve decoder storer
        h.exStorer
      (answer.1, { h with exStorer := answer.2 }) := by
  rw [Command.packet] at hp
  rw [RdeCommandHandler.decode, decodeRdeCommand]
  split_ifs at hp ⊢
  exact operationInitRequest_eval

section

variable {getDictionary : UInt32 → Option (List UInt8)}

lemma Request.ofSpan_answered {status : RdeDecodeStatus}
    (h : Request.ofSpan s c getDictionary = .answered status) :
    status = .rdeInvalidCommand ∨ status = .rdeOk ∨ status = .rdeUnsupportedOperation ∨
      status = .rdePayloadOverflow ∨ status = .rdeNoDictionary := by
  rw [Request.ofSpan] at h
  split_ifs at h
  · simp [← Request.answered.inj h]
  · simp [← Request.answered.inj h]
  · simp [← Request.answered.inj h]
  · simp [← Request.answered.inj h]
  · split at h
    · cases h
    · simp [← Request.answered.inj h]
  · simp [← Request.answered.inj h]

lemma Request.ofSpan_payload (hsize : RdeOperationInitReqHeader.size ≤ c.size)
    (hpayload : c.operationInitHeader.containsRequestPayload) :
    Request.ofSpan s c getDictionary ≠ .answered .rdeOk := by
  intro h
  rw [Request.ofSpan, if_neg (not_lt.mpr hsize), if_neg (not_not.mpr hpayload)] at h
  split_ifs at h
  · cases h
  · cases h
  · cases h
  · split at h <;> cases h

lemma Request.serve_published {dictionaries : BejDictionaries} {encodedPldmBlock : List UInt8}
    {exStorer : S}
    {status : RdeDecodeStatus} (hstatus : status = .rdeOk ∨ status = .rdeStopFlagReceived)
    (h : ((Request.decode dictionaries encodedPldmBlock).serve decoder storer exStorer).1 =
      .ok status) :
    (decoder dictionaries encodedPldmBlock).1 = 0 ∧
      (storer.publishJson (decoder dictionaries encodedPldmBlock).2 exStorer).1 = .ok true ∧
      ((Request.decode dictionaries encodedPldmBlock).serve decoder storer exStorer).2 =
        (storer.publishJson (decoder dictionaries encodedPldmBlock).2 exStorer).2 := by
  rw [serve] at h ⊢
  dsimp only at h ⊢
  split_ifs at h ⊢ with hdecoded
  · obtain rfl := Except.ok.inj h
    simp at hstatus
  · refine ⟨not_not.mp hdecoded, ?_, rfl⟩
    revert h
    generalize (storer.publishJson _ exStorer).1 = published
    rcases published with e | - | -
    · intro h
      cases h
    · intro h
      obtain rfl := Except.ok.inj h
      simp at hstatus
    · exact fun _ => rfl

theorem decode_published {h' : RdeCommandHandler S} {status : RdeDecodeStatus}
    (hsize : RdeOperationInitReqHeader.size ≤ c.size)
    (hpayload : c.operationInitHeader.containsRequestPayload)
    (hdecode : h.decode s decoder storer ⟨c, .rdeOperationInitRequest⟩ = (.ok status, h'))
    (hstatus : status = .rdeOk ∨ status = .rdeStopFlagReceived) :
    ∃ dictionaries encodedPldmBlock output, decoder dictionaries encodedPldmBlock = (0, output) ∧
      storer.publishJson output h.exStorer = (.ok true, h'.exStorer) := by
  have hpacket : Command.packet s ⟨c, .rdeOperationInitRequest⟩ = none := rfl
  rw [decode_request hpacket] at hdecode
  dsimp only at hdecode
  obtain ⟨hresult, rfl⟩ := Prod.mk.inj hdecode
  cases hrequest : Request.ofSpan s c h.dictionaryManager.getDictionary with
  | answered answer =>
    rw [hrequest] at hresult
    obtain rfl : answer = status := Except.ok.inj hresult
    rcases hstatus with rfl | rfl
    · exact absurd hrequest (Request.ofSpan_payload hsize hpayload)
    · simpa using Request.ofSpan_answered hrequest
  | decode dictionaries encodedPldmBlock =>
    rw [hrequest] at hresult
    obtain ⟨hdecoded, hpublished, hstorer⟩ := Request.serve_published hstatus hresult
    exact ⟨dictionaries, encodedPldmBlock, _, Prod.ext hdecoded rfl,
      Prod.ext hpublished hstorer.symm⟩

end

def RdeCommandHandler.decodeAll (s : WordSize) (decoder : BejDecoder)
    (storer : ExternalStorerInterface S ε) :
    RdeCommandHandler S → List Command → List (Except ε RdeDecodeStatus) × RdeCommandHandler S :=
  Machine.run (RdeCommandHandler.decode s decoder storer)

def Receiver.acceptAll : Receiver → List Packet → List RdeDecodeStatus × Receiver :=
  Machine.run accept

lemma Receiver.acceptAll_cons (r : Receiver) (p : Packet) (ps : List Packet) :
    r.acceptAll (p :: ps) =
      ((r.accept p).1 :: ((r.accept p).2.acceptAll ps).1, ((r.accept p).2.acceptAll ps).2) := rfl

lemma Receiver.acceptAll_append (r : Receiver) (ps qs : List Packet) : r.acceptAll (ps ++ qs) =
    ((r.acceptAll ps).1 ++ ((r.acceptAll ps).2.acceptAll qs).1,
      ((r.acceptAll ps).2.acceptAll qs).2) :=
  Machine.run_append

def packets (s : WordSize) (commands : List Command) : List Packet :=
  commands.filterMap (Command.packet s)

lemma decodeAll_receiver (commands : List Command) :
    (h.decodeAll s decoder storer commands).2.receiver =
      (h.receiver.acceptAll (packets s commands)).2 := by
  induction commands generalizing h with
  | nil => rfl
  | cons command commands ih =>
    rw [RdeCommandHandler.decodeAll, Machine.run_cons, packets, List.filterMap_cons]
    cases hp : command.packet s with
    | none =>
      rw [decode_request hp]
      exact ih
    | some p =>
      rw [decode_packet hp]
      exact ih

def multipartResults (commands : List Command) (results : List (Except ε RdeDecodeStatus)) :
    List (Except ε RdeDecodeStatus) :=
  ((commands.zip results).filter (fun p => p.1.type ≠ .rdeOperationInitRequest)).map Prod.snd

lemma Command.packet_eq_none :
    command.packet s = none ↔ command.type = .rdeOperationInitRequest := by
  rw [Command.packet]
  split_ifs with hmulti hinit
  · simp [hmulti]
  · simp [hinit]
  · simp [hinit]

lemma decodeAll_multipartResults (commands : List Command) :
    multipartResults commands (h.decodeAll s decoder storer commands).1 =
      (h.receiver.acceptAll (packets s commands)).1.map .ok := by
  induction commands generalizing h with
  | nil => rfl
  | cons command commands ih =>
    rw [RdeCommandHandler.decodeAll, Machine.run_cons, packets, List.filterMap_cons]
    cases hp : command.packet s with
    | none =>
      rw [decode_request hp, multipartResults, List.zip_cons_cons,
        List.filter_cons_of_neg (by simp [Command.packet_eq_none.mp hp])]
      exact ih
    | some p =>
      have htype : command.type ≠ .rdeOperationInitRequest := by
        rw [Ne, ← Command.packet_eq_none (s := s), hp]
        exact Option.some_ne_none p
      rw [decode_packet hp, multipartResults, List.zip_cons_cons,
        List.filter_cons_of_pos (by simpa using htype), List.map_cons]
      exact congrArg (List.cons _) ih

end SmmErrorLogger.Rde
