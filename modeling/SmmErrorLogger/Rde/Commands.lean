import SmmErrorLogger.Library.Bytes
import SmmErrorLogger.Library.Process

/-! The commands of the BIOS, their headers, and the accesses that their parser makes. -/

namespace SmmErrorLogger.Rde

open Library Library.Bytes Library.Interaction

/-- A value that the BIOS does not define may arrive too. -/
inductive RdeCommandType
  | rdeMultiPartReceiveResponse
  | rdeOperationInitRequest
  | unknown (value : UInt8)
  deriving DecidableEq

def RdeCommandType.ofByte (value : UInt8) : RdeCommandType :=
  if value = 1 then .rdeMultiPartReceiveResponse
  else if value = 2 then .rdeOperationInitRequest
  else .unknown value

inductive RdeDictTransferFlagState
  | rdeStateIdle
  | rdeStateStartRecvd
  deriving DecidableEq

inductive RdeDecodeStatus
  | rdeOk
  | rdeInvalidCommand
  | rdeUnsupportedOperation
  | rdeNoDictionary
  | rdePayloadOverflow
  | rdeBejDecodingError
  | rdeInvalidPktOrder
  | rdeDictionaryError
  | rdeFileCreationFailed
  | rdeExternalStorerError
  | rdeInvalidChecksum
  | rdeStopFlagReceived
  deriving DecidableEq

def rdeOpInitOperationUpdate : UInt8 := 4

inductive RdeMultiReceiveTransferFlag
  | rdeMRecFlagStart
  | rdeMRecFlagMiddle
  | rdeMRecFlagEnd
  | rdeMRecFlagStartAndEnd
  deriving DecidableEq

namespace RdeMultiReceiveTransferFlag

def toByte : RdeMultiReceiveTransferFlag → UInt8
  | rdeMRecFlagStart => 0
  | rdeMRecFlagMiddle => 1
  | rdeMRecFlagEnd => 2
  | rdeMRecFlagStartAndEnd => 3

def ofByte (value : UInt8) : Option RdeMultiReceiveTransferFlag :=
  if value = 0 then some rdeMRecFlagStart
  else if value = 1 then some rdeMRecFlagMiddle
  else if value = 2 then some rdeMRecFlagEnd
  else if value = 3 then some rdeMRecFlagStartAndEnd
  else none

lemma ofByte_toByte (flag : RdeMultiReceiveTransferFlag) : ofByte flag.toByte = some flag := by
  cases flag <;> rfl

end RdeMultiReceiveTransferFlag

structure RdeOperationInitReqHeader where
  resourceID : UInt32
  operationID : UInt16
  operationType : UInt8
  containsRequestPayload : Bool
  sendDataTransferHandle : UInt32
  operationLocatorLength : UInt8
  requestPayloadLength : UInt32

namespace RdeOperationInitReqHeader

def size : ℕ := 17

/-- The payload flag is the second of the bit fields behind `operationType`. -/
def ofBytes (bs : List UInt8) : RdeOperationInitReqHeader where
  resourceID := field32 bs 0
  operationID := field16 bs 4
  operationType := byte bs 6
  containsRequestPayload := (byte bs 7 >>> 1) &&& 1 = 1
  sendDataTransferHandle := field32 bs 8
  operationLocatorLength := byte bs 12
  requestPayloadLength := field32 bs 13

end RdeOperationInitReqHeader

structure MultipartReceiveResHeader where
  completionCode : UInt8
  transferFlag : UInt8
  nextDataTransferHandle : UInt32
  dataLengthBytes : UInt32

namespace MultipartReceiveResHeader

def size : ℕ := 10

def ofBytes (bs : List UInt8) : MultipartReceiveResHeader where
  completionCode := byte bs 0
  transferFlag := byte bs 1
  nextDataTransferHandle := field32 bs 2
  dataLengthBytes := field32 bs 6

def toBytes (h : MultipartReceiveResHeader) : List UInt8 :=
  [h.completionCode, h.transferFlag] ++ littleEndian 4 h.nextDataTransferHandle.toNat ++
    littleEndian 4 h.dataLengthBytes.toNat

@[simp] lemma toBytes_length (h : MultipartReceiveResHeader) : h.toBytes.length = size := by
  simp [toBytes, size]

end MultipartReceiveResHeader

/-- `data` is what stands from the first byte of the span on, behind its end too. -/
structure Span where
  data : Memory
  size : ℕ

def Span.ofList (bs : List UInt8) : Span := ⟨fun i => bs.getD i 0, bs.length⟩

lemma Span.load_ofList {bs : List UInt8} : load (ofList bs).data 0 (ofList bs).size = bs := by
  apply List.ext_getElem (by simp [ofList])
  intro i hi hi'
  simp [ofList, load, hi']

inductive CommandAccess
  | load (offset length : ℕ)
  | handOver (offset length : ℕ)

abbrev CommandBytes : Signature where
  Op := CommandAccess
  Ans _ := List UInt8

def Span.access (c : Span) : CommandAccess → List UInt8
  | .load offset length => load c.data offset length
  | .handOver offset length => load c.data offset length

namespace CommandBytes

variable {σ ε : Type}

def load (offset length : ℕ) : Proc CommandBytes σ ε (List UInt8) :=
  Proc.call (S := CommandBytes) (.load offset length)

def handOver (offset length : ℕ) : Proc CommandBytes σ ε (List UInt8) :=
  Proc.call (S := CommandBytes) (.handOver offset length)

variable {α : Type} {c : Span} {t : σ} {offset length : ℕ}
  {f : List UInt8 → Proc CommandBytes σ ε α}

@[simp] lemma eval_load_bind :
    (load offset length >>= f).eval c.access t =
      (f (Bytes.load c.data offset length)).eval c.access t := rfl

@[simp] lemma eval_handOver_bind :
    (handOver offset length >>= f).eval c.access t =
      (f (Bytes.load c.data offset length)).eval c.access t :=
  rfl

end CommandBytes

end SmmErrorLogger.Rde
