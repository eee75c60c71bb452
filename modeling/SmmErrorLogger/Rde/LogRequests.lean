import SmmErrorLogger.Rde.RoundTrip

namespace SmmErrorLogger.Rde

open Library Library.Bytes Library.Interaction

/-- An OperationInit request with a payload. The handler does not look at the ID of the operation,
at the other flags, at the locator, and at what comes behind the payload. -/
structure LogRequest where
  resourceId : UInt32
  operationId : UInt16
  flags : UInt8
  locator : List UInt8
  payload : List UInt8
  rest : List UInt8
  containsRequestPayload : (flags >>> 1) &&& 1 = 1
  locator_lt : locator.length < 2 ^ 8
  payload_lt : payload.length < 2 ^ 32

namespace LogRequest

def header (log : LogRequest) : List UInt8 :=
  littleEndian 4 log.resourceId.toNat ++ littleEndian 2 log.operationId.toNat ++
    [rdeOpInitOperationUpdate, log.flags] ++ littleEndian 4 0 ++ [UInt8.ofNat log.locator.length] ++
    littleEndian 4 log.payload.length

def message (log : LogRequest) : List UInt8 := log.header ++ log.locator ++ log.payload ++ log.rest

@[simp] lemma header_length (log : LogRequest) :
    log.header.length = RdeOperationInitReqHeader.size := by
  simp [header, RdeOperationInitReqHeader.size]

lemma ofBytes_header (log : LogRequest) : RdeOperationInitReqHeader.ofBytes log.header = {
    resourceID := log.resourceId
    operationID := log.operationId
    operationType := rdeOpInitOperationUpdate
    containsRequestPayload := true
    sendDataTransferHandle := 0
    operationLocatorLength := UInt8.ofNat log.locator.length
    requestPayloadLength := UInt32.ofNat log.payload.length } := by
  have hresource := log.resourceId.toNat_lt
  have hoperation := log.operationId.toNat_lt
  have hpayload : field (littleEndian 4 log.payload.length ++ []) 0 4 = log.payload.length :=
    field_first log.payload_lt
  rw [List.append_nil] at hpayload
  simp only [RdeOperationInitReqHeader.ofBytes, header, List.append_assoc, List.cons_append,
    List.nil_append]
  simp [field32, field16, field_first, field_later, field_cons, byte_later, byte_cons, byte_first,
    hresource, hoperation, hpayload, log.containsRequestPayload]

variable {s : WordSize} {c : Span} {log : LogRequest}

lemma size_message (h : c.bytes = log.message) : c.size =
    RdeOperationInitReqHeader.size + log.locator.length + log.payload.length + log.rest.length := by
  have hlength := congrArg List.length h
  simpa [Span.bytes, message, Nat.add_assoc] using hlength

lemma load_message (h : c.bytes = log.message) :
    load c.data 0 RdeOperationInitReqHeader.size = log.header ∧
      load c.data (RdeOperationInitReqHeader.size + log.locator.length) log.payload.length =
        log.payload := by
  have hload : load c.data 0
    (RdeOperationInitReqHeader.size + log.locator.length + log.payload.length +
      log.rest.length) = log.header ++ log.locator ++ log.payload ++ log.rest := by
    rw [← size_message h]
    exact h
  rw [load_add, load_add, load_add, Nat.zero_add, Nat.zero_add] at hload
  obtain ⟨hfront, -⟩ := List.append_inj hload (by simp)
  obtain ⟨hfront, hpayload⟩ := List.append_inj hfront (by simp)
  obtain ⟨hheader, -⟩ := List.append_inj hfront (by simp)
  exact ⟨hheader, hpayload⟩

def request (log : LogRequest) (getDictionary : UInt32 → Option (List UInt8)) : Request :=
  match getDictionary log.resourceId, getDictionary annotationResourceId with
  | some schemaDict, some annotationDict => .decode (.of schemaDict annotationDict) log.payload
  | _, _ => .answered .rdeNoDictionary

lemma ofSpan_message (hsize : c.size < s.modulus) (h : c.bytes = log.message)
    {getDictionary : UInt32 → Option (List UInt8)} :
    Request.ofSpan s c getDictionary = log.request getDictionary := by
  have hlength := size_message h
  have hlocator : (UInt8.ofNat log.locator.length).toNat = log.locator.length :=
    UInt8.toNat_ofNat_of_lt log.locator_lt
  have hpayload : (UInt32.ofNat log.payload.length).toNat = log.payload.length :=
    UInt32.toNat_ofNat_of_lt log.payload_lt
  have hheader : c.operationInitHeader = _ :=
    (congrArg _ (load_message h).1).trans log.ofBytes_header
  rw [Request.ofSpan, hheader]
  dsimp only
  rw [hlocator, hpayload, if_neg (by omega), if_neg (by simp), Nat.mod_eq_of_lt (by omega),
    if_neg (by omega), if_neg (by simp), if_neg (by simp), (load_message h).2]
  rfl

end LogRequest

inductive Exchange
  | dictionaries (t : DictionaryTransfer) (checksum : UInt32)
  | log (l : LogRequest)

def Exchange.messages : Exchange → List (List UInt8 × RdeCommandType)
  | .dictionaries t checksum =>
    (t.messages checksum).map (fun m => (m, .rdeMultiPartReceiveResponse))
  | .log l => [(l.message, .rdeOperationInitRequest)]

def Command.message (command : Command) : List UInt8 × RdeCommandType :=
  (command.span.bytes, command.type)

def DictionaryTransfer.getDictionary (t : DictionaryTransfer) (r : UInt32) : Option (List UInt8) :=
  (t.dictionaries.find? (fun d => d.resourceId = r)).map Dictionary.bytes

structure LogReceiver (S : Type) where
  getDictionary : UInt32 → Option (List UInt8)
  exStorer : S

variable {S ε : Type}

def RdeCommandHandler.logReceiver (h : RdeCommandHandler S) : LogReceiver S :=
  ⟨h.dictionaryManager.getDictionary, h.exStorer⟩

def LogReceiver.exchange (decoder : BejDecoder) (storer : ExternalStorerInterface S ε)
    (x : LogReceiver S) :
    Exchange → List (Except ε RdeDecodeStatus) × LogReceiver S
  | .dictionaries t checksum =>
    let accepted := List.replicate (t.chunks.length - 1) (.ok .rdeOk)
    if checksum.toBitVec = Crc.crc32 t.bytes then
      (accepted ++ [.ok .rdeStopFlagReceived],
        { x with getDictionary := fun r => t.getDictionary r <|> x.getDictionary r })
    else (accepted ++ [.ok .rdeInvalidChecksum], { x with getDictionary := fun _ => none })
  | .log l =>
    let (answer, exStorer) := (l.request x.getDictionary).serve decoder storer x.exStorer
    ([answer], { x with exStorer })

variable {s : WordSize} {decoder : BejDecoder} {storer : ExternalStorerInterface S ε}
  {h : RdeCommandHandler S} {commands : List Command}

lemma decodeAll_packets (hpackets : ∀ c ∈ commands, c.type ≠ .rdeOperationInitRequest) :
    h.decodeAll s decoder storer commands = ((h.receiver.acceptAll (packets s commands)).1.map .ok,
      (h.receiver.acceptAll (packets s commands)).2.handler h.exStorer) := by
  induction commands generalizing h with
  | nil => rfl
  | cons c commands ih =>
    obtain ⟨hc, hrest⟩ := List.forall_mem_cons.mp hpackets
    obtain ⟨p, hp⟩ : ∃ p, c.packet s = some p := by
      rwa [← Option.ne_none_iff_exists', Ne, Command.packet_eq_none]
    rw [packets, List.filterMap_cons_some hp, Receiver.acceptAll_cons, RdeCommandHandler.decodeAll,
      Machine.run_cons, decode_packet hp]
    have hih := ih (h := (h.receiver.accept p).2.handler h.exStorer) hrest
    rw [RdeCommandHandler.decodeAll] at hih
    rw [hih]
    rfl

namespace DictionaryTransfer

variable {t : DictionaryTransfer} {checksum : UInt32} {r : UInt32}

lemma getDictionary_listed {d : Dictionary} (hd : d ∈ t.dictionaries) :
    t.getDictionary d.resourceId = some d.bytes := by
  have hfind : t.dictionaries.find? (fun d' => d'.resourceId = d.resourceId) = some d := by
    obtain ⟨d', hd'⟩ : ∃ d', t.dictionaries.find? (fun d' => d'.resourceId = d.resourceId) =
        some d' := by
      rw [← Option.isSome_iff_exists, List.find?_isSome]
      exact ⟨d, hd, by simp⟩
    have hid : d'.resourceId = d.resourceId := by simpa using List.find?_some hd'
    rw [hd', List.inj_on_of_nodup_map t.distinct (List.mem_of_find?_eq_some hd') hd hid]
  rw [getDictionary, hfind, Option.map_some]

lemma getDictionary_other (hr : r ∉ t.dictionaries.map Dictionary.resourceId) :
    t.getDictionary r = none := by
  rw [getDictionary, Option.map_eq_none_iff, List.find?_eq_none]
  intro d hd
  simpa using fun hid : d.resourceId = r => hr (hid ▸ List.mem_map_of_mem hd)

lemma assembly_getDictionary (m : DictionaryManager) :
    (t.assembly m).finish.getDictionary r = (t.getDictionary r <|> m.getDictionary r) := by
  obtain ⟨hlisted, hothers⟩ := t.assembly_finish m
  by_cases hr : r ∈ t.dictionaries.map Dictionary.resourceId
  · obtain ⟨d, hd, rfl⟩ := List.mem_map.mp hr
    rw [getDictionary_listed hd]
    exact DictionaryManager.getDictionary_eq_some.mpr (hlisted d hd)
  · rw [getDictionary_other hr, DictionaryManager.getDictionary, hothers r hr]
    rfl

lemma sentBy_of_messages (hfits : ∀ c ∈ commands, c.span.size < s.modulus)
    (hsent : commands.map Command.message = (Exchange.dictionaries t checksum).messages) :
    (∀ c ∈ commands, c.type = .rdeMultiPartReceiveResponse) ∧ t.SentBy s checksum commands := by
  have htypes : ∀ c ∈ commands, c.type = .rdeMultiPartReceiveResponse := by
    intro c hc
    have hmem : c.message ∈ (Exchange.dictionaries t checksum).messages :=
      hsent ▸ List.mem_map_of_mem hc
    obtain ⟨m, -, hm⟩ := List.mem_map.mp hmem
    exact (congrArg Prod.snd hm).symm
  refine ⟨htypes, hfits, fun c hc => Or.inl (htypes c hc), ?_⟩
  rw [List.filter_eq_self.mpr (fun c hc => by simpa using htypes c hc)]
  simpa [Exchange.messages, Command.message, List.map_map, Function.comp_def]
    using congrArg (List.map Prod.fst) hsent

end DictionaryTransfer

lemma decodeAll_dictionaries {t : DictionaryTransfer} {checksum : UInt32}
    (hfits : ∀ c ∈ commands, c.span.size < s.modulus)
    (hsent : commands.map Command.message = (Exchange.dictionaries t checksum).messages) :
    (h.decodeAll s decoder storer commands).1 =
      (h.logReceiver.exchange decoder storer (.dictionaries t checksum)).1 ∧
      (h.decodeAll s decoder storer commands).2.logReceiver =
        (h.logReceiver.exchange decoder storer (.dictionaries t checksum)).2 := by
  obtain ⟨htypes, hsentBy⟩ := DictionaryTransfer.sentBy_of_messages hfits hsent
  have hreceived : h.decodeAll s decoder storer commands =
    ((List.replicate (t.chunks.length - 1) RdeDecodeStatus.rdeOk ++
      [(t.final h.receiver checksum).1]).map .ok,
      (t.final h.receiver checksum).2.handler h.exStorer) := by
    rw [decodeAll_packets (fun c hc => by simp [htypes c hc]), hsentBy.packets_eq,
      DictionaryTransfer.acceptAll_pieces]
    rfl
  rw [hreceived, List.map_append, List.map_replicate, List.map_singleton, LogReceiver.exchange]
  by_cases hmatch : checksum.toBitVec = Crc.crc32 t.bytes
  · rw [DictionaryTransfer.final_matching hmatch, if_pos hmatch]
    exact ⟨rfl, congrArg (LogReceiver.mk · h.exStorer)
      (funext fun _ => DictionaryTransfer.assembly_getDictionary _)⟩
  · obtain ⟨hlast, m, hm⟩ := DictionaryTransfer.final_mismatching (r := h.receiver) hmatch
    rw [hlast, if_neg hmatch, RdeCommandHandler.logReceiver, Receiver.handler, hm]
    exact ⟨rfl, congrArg (LogReceiver.mk · h.exStorer)
      (funext fun _ => DictionaryManager.getDictionary_invalidateDictionaries)⟩

lemma decodeAll_log {l : LogRequest} (hfits : ∀ c ∈ commands, c.span.size < s.modulus)
    (hsent : commands.map Command.message = (Exchange.log l).messages) :
    (h.decodeAll s decoder storer commands).1 = (h.logReceiver.exchange decoder storer (.log l)).1 ∧
      (h.decodeAll s decoder storer commands).2.logReceiver =
        (h.logReceiver.exchange decoder storer (.log l)).2 := by
  obtain ⟨c, rfl, hc⟩ := List.map_eq_singleton_iff.mp hsent
  obtain ⟨hbytes, htype⟩ := Prod.mk.inj hc
  rw [RdeCommandHandler.decodeAll, Machine.run_cons,
    decode_request (Command.packet_eq_none.mpr htype),
    LogRequest.ofSpan_message (hfits c List.mem_cons_self) hbytes]
  exact ⟨rfl, rfl⟩

lemma decodeAll_exchange (h : RdeCommandHandler S) (x : Exchange) (commands : List Command)
    (hfits : ∀ c ∈ commands, c.span.size < s.modulus)
    (hsent : commands.map Command.message = x.messages) :
    (h.decodeAll s decoder storer commands).1 = (h.logReceiver.exchange decoder storer x).1 ∧
      (h.decodeAll s decoder storer commands).2.logReceiver =
        (h.logReceiver.exchange decoder storer x).2 := by
  cases x with
  | dictionaries t checksum => exact decodeAll_dictionaries hfits hsent
  | log l => exact decodeAll_log hfits hsent

theorem decodeAll_exchanges (decoder : BejDecoder) (storer : ExternalStorerInterface S ε)
    (h : RdeCommandHandler S)
    (xs : List Exchange) (commands : List Command) (hfits : ∀ c ∈ commands, c.span.size < s.modulus)
    (hsent : commands.map Command.message = xs.flatMap Exchange.messages) :
    let received := Machine.run (LogReceiver.exchange decoder storer) h.logReceiver xs
    (h.decodeAll s decoder storer commands).1 = received.1.flatten ∧
      (h.decodeAll s decoder storer commands).2.logReceiver = received.2 :=
  Machine.run_encoded decodeAll_exchange hfits hsent

def schemaLog : LogRequest where
  resourceId := 5
  operationId := 7
  flags := 2
  locator := [1]
  payload := [8, 9]
  rest := [4]
  containsRequestPayload := by decide
  locator_lt := by decide
  payload_lt := by decide

def schemaLogCommand : Command :=
  ⟨.ofList [5, 0, 0, 0, 7, 0, 4, 2, 0, 0, 0, 0, 1, 2, 0, 0, 0, 1, 8, 9, 4],
    .rdeOperationInitRequest⟩

def twoDictionariesTransfer (last : UInt8) : List Command := [
  ⟨.ofList [0, 0, 5, 0, 0, 0, 1, 0, 0, 0, 1], .rdeMultiPartReceiveResponse⟩,
  ⟨.ofList [0, 1, 5, 0, 0, 0, 1, 0, 0, 0, 2], .rdeMultiPartReceiveResponse⟩,
  ⟨.ofList [0, 2, 0, 0, 0, 0, 1, 0, 0, 0, 3, 0x1d, 0x80, 0xbc, last], .rdeMultiPartReceiveResponse⟩]

def twoTransfers : List Exchange := [
  .dictionaries DictionaryTransfer.twoDictionaries 0x55bc801d, .log schemaLog,
  .dictionaries DictionaryTransfer.twoDictionaries 0x56bc801d, .log schemaLog]

def twoTransfersCommands : List Command :=
  twoDictionariesTransfer 0x55 ++ [schemaLogCommand] ++ twoDictionariesTransfer 0x56 ++
    [schemaLogCommand]

def schemaDecoder : BejDecoder :=
  fun dictionaries payload => (0, dictionaries.schemaDictionary ++ payload)

def listStorer : ExternalStorerInterface (List (List UInt8)) Empty :=
  ⟨fun output logs => (.ok true, logs ++ [output])⟩

theorem decodeAll_exchanges_twoTransfers :
    ∃ answered : List (Except Empty RdeDecodeStatus) × RdeCommandHandler _,
    answered = (RdeCommandHandler.fresh []).decodeAll .bits32 schemaDecoder listStorer
      twoTransfersCommands ∧
    answered.1.getLast? = some (.ok .rdeNoDictionary) ∧
      answered.2.logReceiver.exStorer = [[1, 2, 8, 9]] := by
  have hfits : ∀ c ∈ twoTransfersCommands, c.span.size < WordSize.bits32.modulus := by
    decide +kernel
  have hsent : twoTransfersCommands.map Command.message =
      twoTransfers.flatMap Exchange.messages := by decide +kernel
  have hanswered := decodeAll_exchanges schemaDecoder listStorer
    (.fresh []) twoTransfers twoTransfersCommands hfits hsent
  refine ⟨_, rfl, ?_⟩
  rw [hanswered.1, hanswered.2]
  exact ⟨by decide +kernel, by decide +kernel⟩

end SmmErrorLogger.Rde
