import SmmErrorLogger.Config
import SmmErrorLogger.Rde.Commands
import SmmErrorLogger.Rde.Crc
import SmmErrorLogger.Rde.DictionaryManager

namespace SmmErrorLogger.Rde

open Library.Bytes Library.Interaction
open Library.Interaction.Proc (fetch put raise)

structure RdeCommandHandler (S : Type) where
  flagState : RdeDictTransferFlagState
  exStorer : S
  prevDictResourceId : UInt32
  dictionaryManager : DictionaryManager
  crc : UInt32

def RdeCommandHandler.fresh {S : Type} (exStorer : S) : RdeCommandHandler S where
  flagState := .rdeStateIdle
  exStorer := exStorer
  prevDictResourceId := 0
  dictionaryManager := .empty
  crc := 0xFFFFFFFF

structure ExternalStorerInterface (S ε : Type) where
  publishJson : List UInt8 → S → Except ε Bool × S

structure BejDictionaries where
  schemaDictionary : List UInt8
  schemaDictionarySize : UInt32
  annotationDictionary : List UInt8
  annotationDictionarySize : UInt32

/-- The decoder of libbej: a status and the JSON text it decoded. -/
abbrev BejDecoder := BejDictionaries → List UInt8 → ℤ × List UInt8

abbrev HandlerM (S ε : Type) := Proc CommandBytes (RdeCommandHandler S) ε

section

variable {S ε : Type} (s : WordSize) (decoder : BejDecoder) (storer : ExternalStorerInterface S ε)

def publishJson (jsonStr : List UInt8) : HandlerM S ε Bool := do
  let handler ← fetch
  let (published, exStorer) := storer.publishJson jsonStr handler.exStorer
  put { handler with exStorer }
  match published with
  | .ok result => pure result
  | .error e => raise e

def operationInitRequest (size : ℕ) : HandlerM S ε RdeDecodeStatus :=
  if size < RdeOperationInitReqHeader.size then pure .rdeInvalidCommand
  else do
    let header :=
      RdeOperationInitReqHeader.ofBytes (← CommandBytes.load 0 RdeOperationInitReqHeader.size)
    -- Check if there is a payload. If not, we are not doing anything.
    if ¬ header.containsRequestPayload then pure .rdeOk
    else if size < (RdeOperationInitReqHeader.size + header.operationLocatorLength.toNat +
        header.requestPayloadLength.toNat) % s.modulus then pure .rdeInvalidCommand
    else if header.operationType ≠ rdeOpInitOperationUpdate then pure .rdeUnsupportedOperation
    else if header.sendDataTransferHandle ≠ 0 then pure .rdePayloadOverflow
    else do
      let handler ← fetch
      match handler.dictionaryManager.getDictionary header.resourceID with
      | none => pure .rdeNoDictionary
      | some schemaDict =>
        match handler.dictionaryManager.getAnnotationDictionary with
        | none => pure .rdeNoDictionary
        | some annotationDict => do
          let dictionaries : BejDictionaries := {
            schemaDictionary := schemaDict
            schemaDictionarySize := UInt32.ofNat schemaDict.length
            annotationDictionary := annotationDict
            annotationDictionarySize := UInt32.ofNat annotationDict.length }
          let encodedPldmBlock ← CommandBytes.handOver
            (RdeOperationInitReqHeader.size + header.operationLocatorLength.toNat)
            header.requestPayloadLength.toNat
          let (status, output) := decoder dictionaries encodedPldmBlock
          if status ≠ 0 then pure .rdeBejDecodingError
          else do
            let published ← publishJson storer output
            if ¬ published then pure .rdeExternalStorerError else pure .rdeOk

def handleCrc (size : ℕ) (header : MultipartReceiveResHeader) : HandlerM S ε RdeDecodeStatus :=
  if (MultipartReceiveResHeader.size + header.dataLengthBytes.toNat + 4) % s.modulus ≠ size then
    pure .rdeInvalidCommand
  else do
    let checksum := field32 (← CommandBytes.load
      (MultipartReceiveResHeader.size + header.dataLengthBytes.toNat) 4) 0
    let handler ← fetch
    if finalChecksum handler.crc ≠ checksum then do
      put { handler with dictionaryManager := handler.dictionaryManager.invalidateDictionaries }
      pure .rdeInvalidChecksum
    else pure .rdeOk

def handleFlagStart (header : MultipartReceiveResHeader) (resourceId : UInt32) :
    HandlerM S ε Unit := do
  let dataS ← CommandBytes.handOver MultipartReceiveResHeader.size header.dataLengthBytes.toNat
  let handler ← fetch
  put { handler with
    dictionaryManager := handler.dictionaryManager.startDictionaryEntry resourceId dataS
    crc := updateCrc 0xFFFFFFFF dataS
    flagState := .rdeStateStartRecvd }

/-- Where the resource ID changes, the previous dictionary is taken to be complete. The result
is false where there is no dictionary to add to. -/
def DictionaryManager.takeData (m : DictionaryManager) (prevDictResourceId resourceId : UInt32)
    (dataS : List UInt8) : Bool × DictionaryManager :=
  if prevDictResourceId ≠ resourceId then
    (true, ((m.markDataComplete prevDictResourceId).2).startDictionaryEntry resourceId dataS)
  else m.addDictionaryData resourceId dataS

def handleFlagMiddle (header : MultipartReceiveResHeader) (resourceId : UInt32) :
    HandlerM S ε RdeDecodeStatus := do
  let handler ← fetch
  if handler.flagState ≠ .rdeStateStartRecvd then pure .rdeInvalidPktOrder
  else do
    let dataS ← CommandBytes.handOver MultipartReceiveResHeader.size header.dataLengthBytes.toNat
    let (added, dictionaryManager) :=
      handler.dictionaryManager.takeData handler.prevDictResourceId resourceId dataS
    if ¬ added then do
      put { handler with dictionaryManager }
      pure .rdeDictionaryError
    else do
      put { handler with dictionaryManager, crc := updateCrc handler.crc dataS }
      pure .rdeOk

def handleFlagEnd (size : ℕ) (header : MultipartReceiveResHeader) (resourceId : UInt32) :
    HandlerM S ε RdeDecodeStatus := do
  let handler ← fetch
  if handler.flagState ≠ .rdeStateStartRecvd then pure .rdeInvalidPktOrder
  else do
    put { handler with flagState := .rdeStateIdle }
    let dataS ← CommandBytes.handOver MultipartReceiveResHeader.size header.dataLengthBytes.toNat
    let handler ← fetch
    let (added, dictionaryManager) :=
      handler.dictionaryManager.takeData handler.prevDictResourceId resourceId dataS
    if ¬ added then do
      put { handler with dictionaryManager }
      pure .rdeDictionaryError
    else do
      put { handler with
        dictionaryManager := (dictionaryManager.markDataComplete resourceId).2
        crc := updateCrc handler.crc dataS }
      let ret ← handleCrc s size header
      if ret ≠ .rdeOk then pure ret else pure .rdeStopFlagReceived

def handleFlagStartAndEnd (size : ℕ) (header : MultipartReceiveResHeader) (resourceId : UInt32) :
    HandlerM S ε RdeDecodeStatus := do
  let dataS ← CommandBytes.handOver MultipartReceiveResHeader.size header.dataLengthBytes.toNat
  let handler ← fetch
  let started := handler.dictionaryManager.startDictionaryEntry resourceId dataS
  put { handler with
    dictionaryManager := (started.markDataComplete resourceId).2
    flagState := .rdeStateIdle
    crc := updateCrc 0xFFFFFFFF dataS }
  let ret ← handleCrc s size header
  if ret ≠ .rdeOk then pure ret else pure .rdeStopFlagReceived

def handleTransferFlag (size : ℕ) (header : MultipartReceiveResHeader) (resourceId : UInt32) :
    HandlerM S ε RdeDecodeStatus :=
  match RdeMultiReceiveTransferFlag.ofByte header.transferFlag with
  | some .rdeMRecFlagStart => do
    handleFlagStart header resourceId
    pure .rdeOk
  | some .rdeMRecFlagMiddle => handleFlagMiddle header resourceId
  | some .rdeMRecFlagEnd => handleFlagEnd s size header resourceId
  | some .rdeMRecFlagStartAndEnd => handleFlagStartAndEnd s size header resourceId
  | none => pure .rdeInvalidCommand

def multiPartReceiveResp (size : ℕ) : HandlerM S ε RdeDecodeStatus :=
  if size < MultipartReceiveResHeader.size then pure .rdeInvalidCommand
  else do
    let header :=
      MultipartReceiveResHeader.ofBytes (← CommandBytes.load 0 MultipartReceiveResHeader.size)
    if size < (MultipartReceiveResHeader.size + header.dataLengthBytes.toNat) % s.modulus then
      pure .rdeInvalidCommand
    else do
      -- The BIOS uses this field to specify the resource ID of the dictionary data
      let resourceId := header.nextDataTransferHandle
      let ret ← handleTransferFlag s size header resourceId
      let handler ← fetch
      put { handler with prevDictResourceId := resourceId }
      pure ret

def decodeRdeCommand (size : ℕ) (type : RdeCommandType) : HandlerM S ε RdeDecodeStatus :=
  if type = .rdeMultiPartReceiveResponse then multiPartReceiveResp s size
  else if type = .rdeOperationInitRequest then operationInitRequest s decoder storer size
  else pure .rdeInvalidCommand

end

def RdeCommandHandler.getDictionaryCount {S : Type} (handler : RdeCommandHandler S) : UInt32 :=
  handler.dictionaryManager.getDictionaryCount

end SmmErrorLogger.Rde
