import SmmErrorLogger.Rde.Requests

/-! The parser stays inside the command unless a sum of declared lengths wraps around. -/

namespace SmmErrorLogger.Rde

open Library.Bytes Library.Interaction
open Library.Interaction.Proc

def Span.declared (c : Span) : RdeCommandType → ℕ × ℕ
  | .rdeMultiPartReceiveResponse =>
    (MultipartReceiveResHeader.size, c.multipartHeader.dataLengthBytes.toNat)
  | _ => (RdeOperationInitReqHeader.size + c.operationInitHeader.operationLocatorLength.toNat,
    c.operationInitHeader.requestPayloadLength.toNat)

def Command.Within (command : Command) : CommandAccess → Prop
  | .load offset length => offset + length ≤ command.span.size
  | .handOver offset length => offset + length ≤ command.span.size ∧
    (offset, length) = command.span.declared command.type

variable {S ε : Type} {s : WordSize} {decoder : BejDecoder} {storer : ExternalStorerInterface S ε}
  {command : Command} {h : RdeCommandHandler S}

def Stays {α : Type} (command : Command) (p : HandlerM S ε α) (h : RdeCommandHandler S) : Prop :=
  p.Ensures (fixed command.span.access command.Within) (fun _ _ _ => True) (fun _ _ _ => True) h ()

section Rules

variable {α β : Type} {offset length : ℕ}

lemma stays_pure {a : α} : Stays command (pure a : HandlerM S ε α) h := fixed_pure.mpr trivial

lemma stays_load_bind {f : List UInt8 → HandlerM S ε α} :
    Stays command (CommandBytes.load offset length >>= f) h ↔
      offset + length ≤ command.span.size ∧
        Stays command (f (load command.span.data offset length)) h :=
  fixed_call_bind

lemma stays_handOver_bind {f : List UInt8 → HandlerM S ε α} :
    Stays command (CommandBytes.handOver offset length >>= f) h ↔
      (offset + length ≤ command.span.size ∧
        (offset, length) = command.span.declared command.type) ∧
        Stays command (f (load command.span.data offset length)) h :=
  fixed_call_bind

lemma stays_fetch_bind {f : RdeCommandHandler S → HandlerM S ε α} :
    Stays command (fetch >>= f) h ↔ Stays command (f h) h := Iff.rfl

lemma stays_put_bind {h' : RdeCommandHandler S} {f : Unit → HandlerM S ε α} :
    Stays command (put h' >>= f) h ↔ Stays command (f ()) h' := Iff.rfl

lemma stays_bind {p : HandlerM S ε α} {f : α → HandlerM S ε β} (hf : ∀ a h, Stays command (f a) h) :
    Stays command (p >>= f) h ↔ Stays command p h := by
  rw [Stays, ensures_bind]
  constructor
  · exact fun hp => hp.mono (fun _ _ _ _ => trivial) (fun _ _ _ _ => trivial)
  · exact fun hp => hp.mono (fun a h' _ _ => hf a h') (fun _ _ _ _ => trivial)

lemma stays_publishJson {output : List UInt8} : Stays command (publishJson storer output) h := by
  rw [publishJson, stays_fetch_bind]
  dsimp only
  rw [stays_put_bind]
  cases (storer.publishJson output h.exStorer).1 with
  | ok => exact stays_pure
  | error => exact fixed_raise.mpr trivial

end Rules

lemma stays_handleCrc {c : Span} {type : RdeCommandType} {header : MultipartReceiveResHeader}
    (hsize : c.size < s.modulus)
    (hdata : MultipartReceiveResHeader.size + header.dataLengthBytes.toNat ≤ c.size) :
    Stays ⟨c, type⟩ (handleCrc (ε := ε) s c.size header) h := by
  rw [handleCrc]
  split_ifs with hexpected
  · exact stays_pure
  · refine stays_load_bind.mpr ⟨?_, stays_fetch_bind.mpr ?_⟩
    · rw [not_not] at hexpected
      have hmodulus := s.modulus_ge
      rcases Nat.lt_or_ge (MultipartReceiveResHeader.size + header.dataLengthBytes.toNat + 4)
        s.modulus with hlt | hge
      · exact (Nat.mod_eq_of_lt hlt).ge.trans hexpected.le
      · -- what remains of a sum that wraps around is smaller than a header
        rw [Nat.mod_eq_sub_mod hge, Nat.mod_eq_of_lt (by omega)] at hexpected
        omega
    · split_ifs
      · exact stays_put_bind.mpr stays_pure
      · exact stays_pure

section Multipart

variable {c : Span} {r : UInt32}

lemma stays_closing {p : HandlerM S ε RdeDecodeStatus} (hp : Stays command p h) : Stays command (do
    let ret ← p
    if ret ≠ .rdeOk then pure ret else pure .rdeStopFlagReceived) h := by
  refine (stays_bind fun ret h' => ?_).mpr hp
  split_ifs <;> exact stays_pure

lemma stays_payload_bind {α : Type} {f : List UInt8 → HandlerM S ε α}
    (hf : MultipartReceiveResHeader.size + c.multipartHeader.dataLengthBytes.toNat ≤ c.size →
      Stays ⟨c, .rdeMultiPartReceiveResponse⟩ (f c.payload) h) :
    Stays ⟨c, .rdeMultiPartReceiveResponse⟩
        (CommandBytes.handOver MultipartReceiveResHeader.size
          c.multipartHeader.dataLengthBytes.toNat >>= f) h ↔
      MultipartReceiveResHeader.size + c.multipartHeader.dataLengthBytes.toNat ≤ c.size := by
  rw [stays_handOver_bind]
  exact ⟨fun hstays => hstays.1.1, fun hdata => ⟨⟨hdata, rfl⟩, hf hdata⟩⟩

lemma stays_handleFlagStart :
    Stays ⟨c, .rdeMultiPartReceiveResponse⟩ (handleFlagStart (ε := ε) c.multipartHeader r) h ↔
      MultipartReceiveResHeader.size + c.multipartHeader.dataLengthBytes.toNat ≤ c.size := by
  rw [handleFlagStart]
  exact stays_payload_bind (fun _ => stays_fetch_bind.mpr stays_pure)

lemma stays_handleFlagMiddle :
    Stays ⟨c, .rdeMultiPartReceiveResponse⟩ (handleFlagMiddle (ε := ε) c.multipartHeader r) h ↔
      (h.flagState = .rdeStateStartRecvd →
        MultipartReceiveResHeader.size + c.multipartHeader.dataLengthBytes.toNat ≤ c.size) := by
  rw [handleFlagMiddle, stays_fetch_bind]
  split_ifs with hflag
  · exact iff_of_true stays_pure (fun hstarted => absurd hstarted hflag)
  · rw [forall_prop_of_true (not_not.mp hflag)]
    apply stays_payload_bind
    intro _
    dsimp only
    split_ifs <;> exact stays_put_bind.mpr stays_pure

lemma stays_handleFlagEnd (hsize : c.size < s.modulus) :
    Stays ⟨c, .rdeMultiPartReceiveResponse⟩
      (handleFlagEnd (ε := ε) s c.size c.multipartHeader r) h ↔ (h.flagState = .rdeStateStartRecvd →
        MultipartReceiveResHeader.size + c.multipartHeader.dataLengthBytes.toNat ≤ c.size) := by
  rw [handleFlagEnd, stays_fetch_bind]
  split_ifs with hflag
  · exact iff_of_true stays_pure (fun hstarted => absurd hstarted hflag)
  · rw [forall_prop_of_true (not_not.mp hflag), stays_put_bind]
    refine stays_payload_bind (fun hdata => stays_fetch_bind.mpr ?_)
    dsimp only
    split_ifs
    · exact stays_put_bind.mpr (stays_closing (stays_handleCrc hsize hdata))
    · exact stays_put_bind.mpr stays_pure

lemma stays_handleFlagStartAndEnd (hsize : c.size < s.modulus) :
    Stays ⟨c, .rdeMultiPartReceiveResponse⟩
        (handleFlagStartAndEnd (ε := ε) s c.size c.multipartHeader r) h ↔
      MultipartReceiveResHeader.size + c.multipartHeader.dataLengthBytes.toNat ≤ c.size := by
  rw [handleFlagStartAndEnd]
  refine stays_payload_bind (fun hdata => stays_fetch_bind.mpr ?_)
  exact stays_put_bind.mpr (stays_closing (stays_handleCrc hsize hdata))

def TakesData (flagState : RdeDictTransferFlagState) (transferFlag : UInt8) : Prop :=
  match RdeMultiReceiveTransferFlag.ofByte transferFlag with
  | some .rdeMRecFlagStart | some .rdeMRecFlagStartAndEnd => True
  | some .rdeMRecFlagMiddle | some .rdeMRecFlagEnd => flagState = .rdeStateStartRecvd
  | none => False

lemma stays_handleTransferFlag (hsize : c.size < s.modulus) :
    Stays ⟨c, .rdeMultiPartReceiveResponse⟩
      (handleTransferFlag (ε := ε) s c.size c.multipartHeader r) h ↔
      (TakesData h.flagState c.multipartHeader.transferFlag →
        MultipartReceiveResHeader.size + c.multipartHeader.dataLengthBytes.toNat ≤ c.size) := by
  rw [handleTransferFlag, TakesData]
  cases RdeMultiReceiveTransferFlag.ofByte c.multipartHeader.transferFlag with
  | none => exact iff_of_true stays_pure False.elim
  | some flag =>
    cases flag with
    | rdeMRecFlagStart =>
      rw [true_imp_iff]
      exact (stays_bind (fun _ _ => stays_pure)).trans stays_handleFlagStart
    | rdeMRecFlagMiddle => exact stays_handleFlagMiddle
    | rdeMRecFlagEnd => exact stays_handleFlagEnd hsize
    | rdeMRecFlagStartAndEnd =>
      rw [true_imp_iff]
      exact stays_handleFlagStartAndEnd hsize

end Multipart

lemma stays_thenRemember {p : HandlerM S ε RdeDecodeStatus} {r : UInt32} :
    Stays command (thenRemember p r) h ↔ Stays command p h :=
  stays_bind (fun _ _ => stays_fetch_bind.mpr (stays_put_bind.mpr stays_pure))

structure MultipartWraps (s : WordSize) (c : Span) (flagState : RdeDictTransferFlagState) :
    Prop where
  header : MultipartReceiveResHeader.size ≤ c.size
  wraps : s.modulus ≤ MultipartReceiveResHeader.size + c.multipartHeader.dataLengthBytes.toNat
  takes : TakesData flagState c.multipartHeader.transferFlag

variable {c : Span}

theorem stays_multiPartReceiveResp (hsize : c.size < s.modulus) :
    Stays ⟨c, .rdeMultiPartReceiveResponse⟩ (multiPartReceiveResp (ε := ε) s c.size) h ↔
      ¬ MultipartWraps s c h.flagState := by
  rw [multiPartReceiveResp]
  split_ifs with hheader
  · exact iff_of_true stays_pure (fun hwraps => hheader.not_ge hwraps.header)
  · rw [stays_load_bind, and_iff_right (by dsimp only; omega)]
    dsimp only
    rw [← Span.multipartHeader]
    have hmodulus := s.modulus_ge
    have hlength := c.multipartHeader.dataLengthBytes.toNat_lt
    rcases Nat.lt_or_ge (MultipartReceiveResHeader.size + c.multipartHeader.dataLengthBytes.toNat)
      s.modulus with hlt | hge
    · rw [Nat.mod_eq_of_lt hlt]
      refine iff_of_true ?_ (fun hwraps => hlt.not_ge hwraps.wraps)
      split_ifs with hdata
      · exact stays_pure
      · exact (stays_thenRemember.trans (stays_handleTransferFlag hsize)).mpr
          (fun _ => not_lt.mp hdata)
    · rw [Nat.mod_eq_sub_mod hge,
        Nat.mod_eq_of_lt (by simp only [MultipartReceiveResHeader.size]; omega),
        if_neg (by simp only [MultipartReceiveResHeader.size] at *; omega)]
      apply (stays_thenRemember.trans (stays_handleTransferFlag hsize)).trans
      constructor
      · exact fun hstays hwraps => (hsize.trans_le hge).not_ge (hstays hwraps.takes)
      · exact fun hwraps htakes => (hwraps ⟨not_lt.mp hheader, hge, htakes⟩).elim

structure OperationInitWraps (s : WordSize) (c : Span) (m : DictionaryManager) : Prop where
  header : RdeOperationInitReqHeader.size ≤ c.size
  payload : c.operationInitHeader.containsRequestPayload
  wraps : s.modulus ≤ RdeOperationInitReqHeader.size +
    c.operationInitHeader.operationLocatorLength.toNat +
    c.operationInitHeader.requestPayloadLength.toNat
  fits : (RdeOperationInitReqHeader.size + c.operationInitHeader.operationLocatorLength.toNat +
    c.operationInitHeader.requestPayloadLength.toNat) % s.modulus ≤ c.size
  update : c.operationInitHeader.operationType = rdeOpInitOperationUpdate
  whole : c.operationInitHeader.sendDataTransferHandle = 0
  schema : (m.getDictionary c.operationInitHeader.resourceID).isSome
  annotation : m.getAnnotationDictionary.isSome

lemma within_encodedPldmBlock (hsize : c.size < s.modulus)
    (hfits : (RdeOperationInitReqHeader.size + c.operationInitHeader.operationLocatorLength.toNat +
      c.operationInitHeader.requestPayloadLength.toNat) % s.modulus ≤ c.size) :
    RdeOperationInitReqHeader.size + c.operationInitHeader.operationLocatorLength.toNat +
        c.operationInitHeader.requestPayloadLength.toNat ≤ c.size ↔
      ¬ s.modulus ≤ RdeOperationInitReqHeader.size +
        c.operationInitHeader.operationLocatorLength.toNat +
        c.operationInitHeader.requestPayloadLength.toNat := by
  constructor
  · exact fun hle hge => (hle.trans_lt hsize).not_ge hge
  · intro hlt
    rwa [Nat.mod_eq_of_lt (not_le.mp hlt)] at hfits

theorem stays_operationInitRequest (hsize : c.size < s.modulus) :
    Stays ⟨c, .rdeOperationInitRequest⟩ (operationInitRequest s decoder storer c.size) h ↔
      ¬ OperationInitWraps s c h.dictionaryManager := by
  rw [operationInitRequest]
  split_ifs with hheader
  · exact iff_of_true stays_pure (fun hwraps => hheader.not_ge hwraps.header)
  rw [stays_load_bind, and_iff_right (by dsimp only; omega)]
  dsimp only
  rw [← Span.operationInitHeader]
  split_ifs with hpayload hfits htype hhandle
  · exact iff_of_true stays_pure (fun hwraps => hfits.not_ge hwraps.fits)
  · exact iff_of_true stays_pure (fun hwraps => htype hwraps.update)
  · exact iff_of_true stays_pure (fun hwraps => hhandle hwraps.whole)
  swap
  · exact iff_of_true stays_pure (fun hwraps => hpayload hwraps.payload)
  rw [stays_fetch_bind]
  cases hschema : h.dictionaryManager.getDictionary c.operationInitHeader.resourceID with
  | none => exact iff_of_true stays_pure (fun hwraps => by simpa [hschema] using hwraps.schema)
  | some schemaDict =>
    dsimp only
    cases hannotated : h.dictionaryManager.getAnnotationDictionary with
    | none =>
      exact iff_of_true stays_pure (fun hwraps => by simpa [hannotated] using hwraps.annotation)
    | some annotationDict =>
      dsimp only
      rw [stays_handOver_bind]
      have hwithin := within_encodedPldmBlock hsize (not_lt.mp hfits)
      constructor
      · exact fun hstays hwraps => hwithin.mp hstays.1.1 hwraps.wraps
      · intro hwraps
        refine ⟨⟨hwithin.mpr fun hge => hwraps ?_, rfl⟩, ?_⟩
        · exact ⟨not_lt.mp hheader, hpayload, hge, not_lt.mp hfits, not_not.mp htype,
            not_not.mp hhandle, by rw [hschema]; rfl, by rw [hannotated]; rfl⟩
        · dsimp only
          split_ifs
          · exact stays_pure
          · refine (stays_bind fun published h' => ?_).mpr stays_publishJson
            split_ifs <;> exact stays_pure

def Wraps (s : WordSize) (command : Command) (h : RdeCommandHandler S) : Prop :=
  match command.type with
  | .rdeMultiPartReceiveResponse => MultipartWraps s command.span h.flagState
  | .rdeOperationInitRequest => OperationInitWraps s command.span h.dictionaryManager
  | .unknown _ => False

theorem decodeRdeCommand_stays_iff (command : Command) (h : RdeCommandHandler S)
    (hsize : command.span.size < s.modulus) :
    Stays command (decodeRdeCommand s decoder storer command.span.size command.type) h ↔
      ¬ Wraps s command h := by
  obtain ⟨c, type⟩ := command
  cases type with
  | rdeMultiPartReceiveResponse => exact stays_multiPartReceiveResp hsize
  | rdeOperationInitRequest => exact stays_operationInitRequest hsize
  | unknown value => exact iff_of_true stays_pure (fun hwraps => hwraps)

theorem not_wraps_bits64 (command : Command) (h : RdeCommandHandler S) :
    ¬ Wraps .bits64 command h := by
  obtain ⟨c, type⟩ := command
  cases type with
  | rdeMultiPartReceiveResponse =>
    intro hwraps
    have hge := hwraps.wraps
    have hlength := c.multipartHeader.dataLengthBytes.toNat_lt
    simp only [WordSize.modulus, MultipartReceiveResHeader.size] at hge
    omega
  | rdeOperationInitRequest =>
    intro hwraps
    have hge := hwraps.wraps
    have hlocator := c.operationInitHeader.operationLocatorLength.toNat_lt
    have hlength := c.operationInitHeader.requestPayloadLength.toNat_lt
    simp only [WordSize.modulus, RdeOperationInitReqHeader.size] at hge
    omega
  | unknown value => exact fun hwraps => hwraps

def wrappingStart : Command where
  span := .ofList [0, 0, 5, 0, 0, 0, 0xF6, 0xFF, 0xFF, 0xFF]
  type := .rdeMultiPartReceiveResponse

lemma wrappingStart_wraps (h : RdeCommandHandler S) : Wraps .bits32 wrappingStart h :=
  ⟨by decide, by decide, show TakesData h.flagState 0 from trivial⟩

theorem decodeRdeCommand_not_stays :
    ¬ Stays wrappingStart (decodeRdeCommand .bits32 (fun _ _ => (0, []))
      ⟨fun _ n => ((.ok true : Except Empty Bool), n)⟩ wrappingStart.span.size wrappingStart.type)
      (.fresh ()) := by
  intro hstays
  exact (stays_multiPartReceiveResp (s := .bits32) (by decide)).mp hstays
    (wrappingStart_wraps (.fresh ()))

theorem decodeRdeCommand_stays_iff_wrappingStart :
    wrappingStart.span.size < WordSize.bits32.modulus ∧
      (Stays wrappingStart (decodeRdeCommand .bits32 (fun _ _ => (0, []))
        ⟨fun _ n => ((.ok true : Except Empty Bool), n)⟩ wrappingStart.span.size wrappingStart.type)
        (.fresh ()) ↔ ¬ Wraps .bits32 wrappingStart (.fresh ())) :=
  ⟨by decide, decodeRdeCommand_stays_iff wrappingStart (.fresh ()) (by decide)⟩

end SmmErrorLogger.Rde
