import SmmErrorLogger.Rde.Handler

/-! What a command says, apart from how it is laid out, and what the handler makes of it. -/

namespace SmmErrorLogger.Rde

open Library.Bytes Library.Interaction
open Library.Interaction.Proc

inductive Closing
  | malformed
  | checksum (value : UInt32)
  deriving DecidableEq

inductive Packet
  | invalid
  | unknownFlag (resourceId : UInt32)
  | start (resourceId : UInt32) (data : List UInt8)
  | middle (resourceId : UInt32) (data : List UInt8)
  | finish (resourceId : UInt32) (data : List UInt8) (closing : Closing)
  | startAndEnd (resourceId : UInt32) (data : List UInt8) (closing : Closing)
  deriving DecidableEq

def Span.multipartHeader (c : Span) : MultipartReceiveResHeader :=
  .ofBytes (load c.data 0 MultipartReceiveResHeader.size)

def Span.closing (s : WordSize) (c : Span) : Closing :=
  let dataLength := c.multipartHeader.dataLengthBytes.toNat
  if (MultipartReceiveResHeader.size + dataLength + 4) % s.modulus ≠ c.size then .malformed
  else .checksum (field32 (load c.data (MultipartReceiveResHeader.size + dataLength) 4) 0)

def Span.payload (c : Span) : List UInt8 :=
  load c.data MultipartReceiveResHeader.size c.multipartHeader.dataLengthBytes.toNat

def Packet.ofSpan (s : WordSize) (c : Span) : Packet :=
  if c.size < MultipartReceiveResHeader.size then .invalid
  else if c.size < (MultipartReceiveResHeader.size + c.multipartHeader.dataLengthBytes.toNat) %
    s.modulus then
    .invalid
  else
    let resourceId := c.multipartHeader.nextDataTransferHandle
    match RdeMultiReceiveTransferFlag.ofByte c.multipartHeader.transferFlag with
    | some .rdeMRecFlagStart => .start resourceId c.payload
    | some .rdeMRecFlagMiddle => .middle resourceId c.payload
    | some .rdeMRecFlagEnd => .finish resourceId c.payload (c.closing s)
    | some .rdeMRecFlagStartAndEnd => .startAndEnd resourceId c.payload (c.closing s)
    | none => .unknownFlag resourceId

structure Receiver where
  flagState : RdeDictTransferFlagState
  prevDictResourceId : UInt32
  dictionaryManager : DictionaryManager
  crc : UInt32

variable {S ε : Type}

def RdeCommandHandler.receiver (h : RdeCommandHandler S) : Receiver where
  flagState := h.flagState
  prevDictResourceId := h.prevDictResourceId
  dictionaryManager := h.dictionaryManager
  crc := h.crc

def Receiver.handler (r : Receiver) (exStorer : S) : RdeCommandHandler S where
  flagState := r.flagState
  exStorer := exStorer
  prevDictResourceId := r.prevDictResourceId
  dictionaryManager := r.dictionaryManager
  crc := r.crc

namespace Receiver

def close (r : Receiver) : Closing → RdeDecodeStatus × Receiver
  | .malformed => (.rdeInvalidCommand, r)
  | .checksum value =>
    if finalChecksum r.crc ≠ value then
      (.rdeInvalidChecksum,
        { r with dictionaryManager := r.dictionaryManager.invalidateDictionaries })
    else (.rdeStopFlagReceived, r)

def accept (r : Receiver) : Packet → RdeDecodeStatus × Receiver
  | .invalid => (.rdeInvalidCommand, r)
  | .unknownFlag resourceId => (.rdeInvalidCommand, { r with prevDictResourceId := resourceId })
  | .start resourceId data =>
    (.rdeOk, {
      flagState := .rdeStateStartRecvd
      prevDictResourceId := resourceId
      dictionaryManager := r.dictionaryManager.startDictionaryEntry resourceId data
      crc := updateCrc 0xFFFFFFFF data })
  | .middle resourceId data =>
    if r.flagState ≠ .rdeStateStartRecvd then
      (.rdeInvalidPktOrder, { r with prevDictResourceId := resourceId })
    else
      let (added, dictionaryManager) :=
        r.dictionaryManager.takeData r.prevDictResourceId resourceId data
      let r := { r with dictionaryManager, prevDictResourceId := resourceId }
      if ¬ added then (.rdeDictionaryError, r)
      else (.rdeOk, { r with crc := updateCrc r.crc data })
  | .finish resourceId data closing =>
    if r.flagState ≠ .rdeStateStartRecvd then
      (.rdeInvalidPktOrder, { r with prevDictResourceId := resourceId })
    else
      let (added, dictionaryManager) :=
        r.dictionaryManager.takeData r.prevDictResourceId resourceId data
      let r :=
        { r with dictionaryManager, flagState := .rdeStateIdle, prevDictResourceId := resourceId }
      if ¬ added then (.rdeDictionaryError, r)
      else
        close { r with
          dictionaryManager := (r.dictionaryManager.markDataComplete resourceId).2
          crc := updateCrc r.crc data } closing
  | .startAndEnd resourceId data closing =>
    close {
      flagState := .rdeStateIdle
      prevDictResourceId := resourceId
      dictionaryManager :=
        ((r.dictionaryManager.startDictionaryEntry resourceId data).markDataComplete resourceId).2
      crc := updateCrc 0xFFFFFFFF data } closing

end Receiver

variable {s : WordSize} {c : Span} {h : RdeCommandHandler S}

lemma handleCrc_eval : (handleCrc (S := S) s c.size c.multipartHeader >>= fun ret =>
      if ret ≠ .rdeOk then pure ret
      else (pure .rdeStopFlagReceived : HandlerM S ε RdeDecodeStatus)).eval c.access h =
    (.ok (h.receiver.close (c.closing s)).1,
      (h.receiver.close (c.closing s)).2.handler h.exStorer) := by
  rw [handleCrc, Span.closing]
  dsimp only
  split_ifs with hsize
  · rfl
  · by_cases hcrc : finalChecksum h.crc ≠ field32 (load c.data
        (MultipartReceiveResHeader.size + c.multipartHeader.dataLengthBytes.toNat) 4) 0
    · rw [eval_bind, CommandBytes.eval_load_bind, eval_fetch_bind, if_pos hcrc, Receiver.close]
      rw [if_pos (show finalChecksum h.receiver.crc ≠ _ from hcrc)]
      rfl
    · rw [eval_bind, CommandBytes.eval_load_bind, eval_fetch_bind, if_neg hcrc, Receiver.close]
      rw [if_neg (show ¬ finalChecksum h.receiver.crc ≠ _ from hcrc)]
      rfl

def thenRemember (p : HandlerM S ε RdeDecodeStatus) (resourceId : UInt32) :
    HandlerM S ε RdeDecodeStatus := do
  let ret ← p
  let handler ← fetch
  put { handler with prevDictResourceId := resourceId }
  pure ret

variable {r : UInt32}

lemma thenRemember_eval {p : HandlerM S ε RdeDecodeStatus} {ret : RdeDecodeStatus}
    {h' : RdeCommandHandler S} (hp : p.eval c.access h = (.ok ret, h')) :
    (thenRemember p r).eval c.access h = (.ok ret, { h' with prevDictResourceId := r }) := by
  rw [thenRemember, eval_bind, hp]
  rfl

lemma Receiver.close_remember (receiver : Receiver) (closing : Closing) :
    ({ receiver with prevDictResourceId := r } : Receiver).close closing =
      ((receiver.close closing).1,
        { (receiver.close closing).2 with prevDictResourceId := r }) := by
  cases closing with
  | malformed => rfl
  | checksum value =>
    rw [close, close]
    split_ifs <;> rfl

lemma handleFlagMiddle_eval :
    (thenRemember (handleFlagMiddle (S := S) c.multipartHeader r) r : HandlerM S ε _).eval
      c.access h = (.ok (h.receiver.accept (.middle r c.payload)).1,
        (h.receiver.accept (.middle r c.payload)).2.handler h.exStorer) := by
  rcases h with ⟨flagState, exStorer, prev, m, crc⟩
  cases flagState with
  | rdeStateIdle => rfl
  | rdeStateStartRecvd =>
    rw [thenRemember, handleFlagMiddle, eval_bind, eval_fetch_bind, if_neg (by simp),
      CommandBytes.eval_handOver_bind, ← Span.payload, Receiver.accept,
      if_neg (by simp [RdeCommandHandler.receiver])]
    dsimp only [RdeCommandHandler.receiver]
    rcases m.takeData prev r c.payload with ⟨- | -, m⟩ <;> rfl

lemma handleFlagEnd_eval :
    (thenRemember (handleFlagEnd (S := S) s c.size c.multipartHeader r) r : HandlerM S ε _).eval
      c.access h = (.ok (h.receiver.accept (.finish r c.payload (c.closing s))).1,
        (h.receiver.accept (.finish r c.payload (c.closing s))).2.handler h.exStorer) := by
  rcases h with ⟨flagState, exStorer, prev, m, crc⟩
  cases flagState with
  | rdeStateIdle => rfl
  | rdeStateStartRecvd =>
    rw [Receiver.accept, if_neg (by simp [RdeCommandHandler.receiver])]
    dsimp only [RdeCommandHandler.receiver]
    rcases htake : m.takeData prev r c.payload with ⟨- | -, m'⟩
    · rw [thenRemember, handleFlagEnd, eval_bind, eval_fetch_bind, if_neg (by simp), eval_put_bind,
        CommandBytes.eval_handOver_bind, ← Span.payload, eval_fetch_bind, htake]
      rfl
    · let taken : RdeCommandHandler S :=
        { flagState := .rdeStateIdle, exStorer, prevDictResourceId := prev,
          dictionaryManager := (m'.markDataComplete r).2, crc := updateCrc crc c.payload }
      have hend : (handleFlagEnd (S := S) (ε := ε) s c.size c.multipartHeader r).eval c.access
          ⟨.rdeStateStartRecvd, exStorer, prev, m, crc⟩ =
          (.ok (taken.receiver.close (c.closing s)).1,
            (taken.receiver.close (c.closing s)).2.handler exStorer) := by
        rw [handleFlagEnd, eval_fetch_bind, if_neg (by simp), eval_put_bind,
          CommandBytes.eval_handOver_bind, ← Span.payload, eval_fetch_bind, htake]
        exact handleCrc_eval
      have hclose := Receiver.close_remember (r := r) taken.receiver (c.closing s)
      rw [thenRemember_eval hend, if_neg (by simp)]
      exact congrArg (fun result => (Except.ok result.1, result.2.handler exStorer)) hclose.symm

lemma handleFlagStartAndEnd_eval :
    (thenRemember (handleFlagStartAndEnd (S := S) s c.size c.multipartHeader r) r :
      HandlerM S ε _).eval c.access h =
      (.ok (h.receiver.accept (.startAndEnd r c.payload (c.closing s))).1,
        (h.receiver.accept (.startAndEnd r c.payload (c.closing s))).2.handler h.exStorer) := by
  let started : RdeCommandHandler S :=
    { h with
      dictionaryManager :=
        ((h.dictionaryManager.startDictionaryEntry r c.payload).markDataComplete r).2
      flagState := .rdeStateIdle
      crc := updateCrc 0xFFFFFFFF c.payload }
  have hend :
      (handleFlagStartAndEnd (S := S) (ε := ε) s c.size c.multipartHeader r).eval c.access h =
      (.ok (started.receiver.close (c.closing s)).1,
        (started.receiver.close (c.closing s)).2.handler h.exStorer) :=
    handleCrc_eval
  have hclose := Receiver.close_remember (r := r) started.receiver (c.closing s)
  rw [thenRemember_eval hend]
  exact congrArg (fun result => (Except.ok result.1, result.2.handler h.exStorer)) hclose.symm

theorem multiPartReceiveResp_eval :
    (multiPartReceiveResp (S := S) (ε := ε) s c.size).eval c.access h =
      (.ok (h.receiver.accept (.ofSpan s c)).1,
        (h.receiver.accept (.ofSpan s c)).2.handler h.exStorer) := by
  rw [multiPartReceiveResp, Packet.ofSpan]
  split_ifs with hsize hlen
  · rfl
  · rw [CommandBytes.eval_load_bind, ← Span.multipartHeader, if_pos hlen]
    rfl
  · rw [CommandBytes.eval_load_bind, ← Span.multipartHeader, if_neg hlen]
    change (thenRemember (handleTransferFlag s c.size c.multipartHeader _) _).eval c.access h = _
    rw [handleTransferFlag]
    cases RdeMultiReceiveTransferFlag.ofByte c.multipartHeader.transferFlag with
    | none => rfl
    | some flag =>
      cases flag with
      | rdeMRecFlagStart => rfl
      | rdeMRecFlagMiddle => exact handleFlagMiddle_eval
      | rdeMRecFlagEnd => exact handleFlagEnd_eval
      | rdeMRecFlagStartAndEnd => exact handleFlagStartAndEnd_eval

end SmmErrorLogger.Rde
