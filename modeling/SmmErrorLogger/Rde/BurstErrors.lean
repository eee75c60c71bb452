import SmmErrorLogger.Rde.RoundTrip

namespace SmmErrorLogger.Rde

open Library Library.Bytes

def Burst (n : ℕ) (bytes altered : List UInt8) : Prop :=
  ∃ pre old new post, bytes = pre ++ old ++ post ∧ altered = pre ++ new ++ post ∧
    old.length = new.length ∧ old.length ≤ n ∧ old ≠ new

def Span.Closes (c : Span) : Prop :=
  RdeMultiReceiveTransferFlag.ofByte c.multipartHeader.transferFlag = some .rdeMRecFlagEnd ∨
    RdeMultiReceiveTransferFlag.ofByte c.multipartHeader.transferFlag = some .rdeMRecFlagStartAndEnd

instance (c : Span) : Decidable c.Closes := inferInstanceAs (Decidable (_ ∨ _))

structure Command.SameButData (command altered : Command) : Prop where
  type : altered.type = command.type
  size : altered.span.size = command.span.size
  header : load altered.span.data 0 MultipartReceiveResHeader.size =
    load command.span.data 0 MultipartReceiveResHeader.size
  checksum : command.span.Closes →
    let offset :=
      MultipartReceiveResHeader.size + command.span.multipartHeader.dataLengthBytes.toNat
    load altered.span.data offset 4 = load command.span.data offset 4

namespace Packet

def data : Packet → List UInt8
  | .invalid => []
  | .unknownFlag _ => []
  | .start _ data => data
  | .middle _ data => data
  | .finish _ data _ => data
  | .startAndEnd _ data _ => data

inductive SameButData : Packet → Packet → Prop
  | invalid : SameButData .invalid .invalid
  | unknownFlag {r : UInt32} : SameButData (.unknownFlag r) (.unknownFlag r)
  | start {r : UInt32} {data altered : List UInt8} : SameButData (.start r data) (.start r altered)
  | middle {r : UInt32} {data altered : List UInt8} :
    SameButData (.middle r data) (.middle r altered)
  | finish {r : UInt32} {data altered : List UInt8} {closing : Closing} :
      SameButData (.finish r data closing) (.finish r altered closing)
  | startAndEnd {r : UInt32} {data altered : List UInt8} {closing : Closing} :
      SameButData (.startAndEnd r data closing) (.startAndEnd r altered closing)

end Packet

variable {s : WordSize} {command altered : Command} {commands alteredCommands : List Command}
  {closing : Closing} {ps : List Piece}

lemma Command.SameButData.ofSpan (h : command.SameButData altered) :
    (Packet.ofSpan s command.span).SameButData (Packet.ofSpan s altered.span) := by
  have hheader : altered.span.multipartHeader = command.span.multipartHeader := by
    rw [Span.multipartHeader, Span.multipartHeader, h.header]
  have hclosing : command.span.Closes → altered.span.closing s = command.span.closing s := by
    intro hcloses
    have hchecksum := h.checksum hcloses
    dsimp only at hchecksum
    rw [Span.closing, Span.closing, hheader, h.size, hchecksum]
  rw [Packet.ofSpan, Packet.ofSpan, hheader, h.size]
  split_ifs
  · exact .invalid
  · exact .invalid
  cases hflag : RdeMultiReceiveTransferFlag.ofByte command.span.multipartHeader.transferFlag with
  | none => exact .unknownFlag
  | some flag =>
    cases flag with
    | rdeMRecFlagStart => exact .start
    | rdeMRecFlagMiddle => exact .middle
    | rdeMRecFlagEnd =>
      dsimp only
      rw [hclosing (Or.inl hflag)]
      exact .finish
    | rdeMRecFlagStartAndEnd =>
      dsimp only
      rw [hclosing (Or.inr hflag)]
      exact .startAndEnd

lemma packets_sameButData (h : List.Forall₂ Command.SameButData commands alteredCommands) :
    List.Forall₂ Packet.SameButData (packets s commands) (packets s alteredCommands) := by
  induction h with
  | nil => exact .nil
  | @cons command altered commands alteredCommands hsame hrest ih =>
    rw [packets] at ih ⊢
    rw [packets, List.filterMap_cons, List.filterMap_cons]
    have htype := hsame.type
    by_cases hmulti : command.type = .rdeMultiPartReceiveResponse
    · rw [Command.packet, Command.packet, if_pos hmulti, if_pos (htype.trans hmulti)]
      exact .cons hsame.ofSpan ih
    · have haltered : altered.type ≠ .rdeMultiPartReceiveResponse :=
        fun h => hmulti (htype.symm.trans h)
      rw [Command.packet, Command.packet, if_neg hmulti, if_neg haltered, htype]
      by_cases hinit : command.type = .rdeOperationInitRequest
      · rw [if_pos hinit]
        exact ih
      · rw [if_neg hinit]
        exact .cons .invalid ih

lemma laterPackets_altered {altered : List Packet}
    (h : List.Forall₂ Packet.SameButData (laterPackets closing ps) altered) :
    ∃ ps', altered = laterPackets closing ps' ∧ (ps' = [] ↔ ps = []) := by
  induction ps generalizing altered with
  | nil =>
    cases h
    exact ⟨[], rfl, Iff.rfl⟩
  | cons p ps ih =>
    cases ps with
    | nil =>
      obtain ⟨_, _, hfirst, hnil, rfl⟩ := List.forall₂_cons_left_iff.mp h
      cases hnil
      cases hfirst
      case finish data => exact ⟨[(p.1, data)], rfl, by simp⟩
    | cons q ps =>
      obtain ⟨_, rest, hfirst, hrest, rfl⟩ := List.forall₂_cons_left_iff.mp h
      obtain ⟨ps', rfl, hnil⟩ := ih hrest
      cases hfirst
      case middle data =>
        cases ps' with
        | nil => exact absurd (hnil.mp rfl) (by simp)
        | cons q' ps' => exact ⟨(p.1, data) :: q' :: ps', rfl, by simp⟩

lemma transferPackets_altered {altered : List Packet}
    (h : List.Forall₂ Packet.SameButData (transferPackets closing ps) altered) :
    ∃ ps', altered = transferPackets closing ps' ∧ (ps' = [] ↔ ps = []) := by
  cases ps with
  | nil =>
    cases h
    exact ⟨[], rfl, Iff.rfl⟩
  | cons p ps =>
    cases ps with
    | nil =>
      obtain ⟨_, _, hfirst, hnil, rfl⟩ := List.forall₂_cons_left_iff.mp h
      cases hnil
      cases hfirst
      case startAndEnd data => exact ⟨[(p.1, data)], rfl, by simp⟩
    | cons q ps =>
      obtain ⟨_, rest, hfirst, hrest, rfl⟩ := List.forall₂_cons_left_iff.mp h
      change List.Forall₂ Packet.SameButData (laterPackets closing (q :: ps)) rest at hrest
      obtain ⟨ps', rfl, hnil⟩ := laterPackets_altered hrest
      cases hfirst
      case start data =>
        cases ps' with
        | nil => exact absurd (hnil.mp rfl) (by simp)
        | cons q' ps' => exact ⟨(p.1, data) :: q' :: ps', rfl, by simp⟩

lemma laterPackets_data : (laterPackets closing ps).flatMap Packet.data = pieceBytes ps := by
  induction ps with
  | nil => rfl
  | cons p ps ih =>
    cases ps with
    | nil => rfl
    | cons q ps => exact congrArg (p.2 ++ ·) ih

lemma transferPackets_data : (transferPackets closing ps).flatMap Packet.data = pieceBytes ps := by
  cases ps with
  | nil => rfl
  | cons p ps =>
    cases ps with
    | nil => rfl
    | cons q ps =>
      have hlater : (laterPackets closing (q :: ps)).flatMap Packet.data = _ := laterPackets_data
      exact congrArg (p.2 ++ ·) hlater

def transferData (s : WordSize) (commands : List Command) : List UInt8 :=
  (packets s commands).flatMap Packet.data

variable {S ε : Type} (decoder : BejDecoder) (storer : ExternalStorerInterface S ε)
  (h : RdeCommandHandler S)

lemma decodeAll_last {p : Piece}
    (htransfer : packets s commands = transferPackets closing (p :: ps)) :
    let final := (Receiver.received (ps.foldl Assembly.absorb (h.dictionaryManager, p))
      (updateCrc 0xFFFFFFFF (transferData s commands))).close closing
    (multipartResults commands (h.decodeAll s decoder storer commands).1).getLast? =
        some (.ok final.1) ∧
      (h.decodeAll s decoder storer commands).2.receiver = final.2 := by
  intro final
  have hdata : transferData s commands = pieceBytes (p :: ps) := by
    rw [transferData, htransfer, transferPackets_data]
  have haccept : h.receiver.acceptAll (transferPackets closing (p :: ps)) = _ :=
    acceptAll_transferPackets
  rw [decodeAll_multipartResults, decodeAll_receiver, htransfer, haccept, ← hdata]
  refine ⟨?_, rfl⟩
  rw [List.map_append, List.map_singleton, List.getLast?_append, List.getLast?_singleton,
    Option.some_or]
  rfl

lemma Receiver.close_stopFlag {r : Receiver} (hclose : (r.close closing).1 = .rdeStopFlagReceived) :
    closing = .checksum (finalChecksum r.crc) := by
  cases closing with
  | malformed => cases hclose
  | checksum value =>
    rw [close] at hclose
    split_ifs at hclose with hcrc
    rw [not_not.mp hcrc]

theorem decodeAll_burst {commands altered : List Command}
    (htransfer : packets s commands = transferPackets closing ps)
    (hclosed : (multipartResults commands (h.decodeAll s decoder storer commands).1).getLast? =
      some (.ok .rdeStopFlagReceived))
    (hsame : List.Forall₂ Command.SameButData commands altered)
    (hburst : Burst 4 (transferData s commands) (transferData s altered)) :
    (multipartResults altered (h.decodeAll s decoder storer altered).1).getLast? = some
      (.ok .rdeInvalidChecksum) ∧
      ∀ r, (h.decodeAll s decoder storer altered).2.dictionaryManager.getDictionary r = none := by
  obtain ⟨pre, old, new, post, hdata, haltered, hlength, hle, hne⟩ := hburst
  have hcrc : updateCrc 0xFFFFFFFF (transferData s commands) ≠ updateCrc 0xFFFFFFFF
      (transferData s altered) := by
    rw [hdata, haltered]
    exact updateCrc_burst hlength hle hne
  obtain ⟨ps', haltered', hnil⟩ := transferPackets_altered (htransfer ▸ packets_sameButData hsame)
  cases ps with
  | nil =>
    rw [decodeAll_multipartResults, htransfer] at hclosed
    cases hclosed
  | cons p ps =>
    obtain ⟨p', ps', rfl⟩ :=
      List.exists_cons_of_ne_nil (fun hps => List.cons_ne_nil _ _ (hnil.mp hps))
    obtain ⟨hlast, -⟩ := decodeAll_last decoder storer h htransfer
    have hstop := Except.ok.inj (Option.some.inj (hlast.symm.trans hclosed))
    obtain rfl := Receiver.close_stopFlag hstop
    obtain ⟨hlast', hreceiver⟩ := decodeAll_last decoder storer h haltered'
    have hwrong : ∀ x : Assembly,
      (Receiver.received x (updateCrc 0xFFFFFFFF (transferData s altered))).close
        (.checksum (finalChecksum (updateCrc 0xFFFFFFFF (transferData s commands)))) =
        (.rdeInvalidChecksum,
          { Receiver.received x (updateCrc 0xFFFFFFFF (transferData s altered)) with
            dictionaryManager := x.finish.invalidateDictionaries }) :=
      fun x => if_pos fun heq => hcrc (finalChecksum_inj.mp heq).symm
    refine ⟨hlast'.trans (congrArg (fun result => some (Except.ok (Prod.fst result))) (hwrong _)),
      fun r => ?_⟩
    have hmanager :=
      congrArg Receiver.dictionaryManager (hreceiver.trans (congrArg Prod.snd (hwrong _)))
    change (h.decodeAll s decoder storer altered).2.dictionaryManager = _ at hmanager
    rw [hmanager]
    exact DictionaryManager.getDictionary_invalidateDictionaries

def otherBytesCommands : List Command := [
  ⟨.ofList [0, 0, 5, 0, 0, 0, 1, 0, 0, 0, 9], .rdeMultiPartReceiveResponse⟩,
  ⟨.ofList [], .rdeOperationInitRequest⟩,
  ⟨.ofList [0, 1, 5, 0, 0, 0, 1, 0, 0, 0, 8], .rdeMultiPartReceiveResponse⟩,
  ⟨.ofList [0, 2, 0, 0, 0, 0, 1, 0, 0, 0, 3, 0x1d, 0x80, 0xbc, 0x55], .rdeMultiPartReceiveResponse⟩]

lemma alteredCommands_sameButData :
    List.Forall₂ Command.SameButData DictionaryTransfer.twoDictionariesCommands
      otherBytesCommands :=
  .cons ⟨rfl, rfl, by decide, fun hcloses => absurd hcloses (by decide)⟩ <|
    .cons ⟨rfl, rfl, by decide, fun _ => by decide⟩ <|
      .cons ⟨rfl, rfl, by decide, fun hcloses => absurd hcloses (by decide)⟩ <|
        .cons ⟨rfl, rfl, by decide, fun _ => by decide⟩ .nil

theorem decodeAll_burst_twoBytes :
    let altered := (RdeCommandHandler.fresh ()).decodeAll .bits32 (fun _ _ => (0, []))
      ⟨fun _ n => ((.ok true : Except Empty Bool), n)⟩ otherBytesCommands
    (multipartResults otherBytesCommands altered.1).getLast? = some (.ok .rdeInvalidChecksum) ∧
      ∀ r, altered.2.dictionaryManager.getDictionary r = none := by
  have htransfer : packets .bits32 DictionaryTransfer.twoDictionariesCommands =
      transferPackets (.checksum 0x55bc801d) [(5, [1]), (5, [2]), (0, [3])] := by decide
  refine decodeAll_burst _ _ _ htransfer ?_ alteredCommands_sameButData ?_
  · have hlast := (decodeAll_last (fun _ _ => (0, []))
      ⟨fun _ n => ((.ok true : Except Empty Bool), n)⟩ (.fresh ()) htransfer).1
    rw [hlast]
    exact congrArg (fun status => some (Except.ok status)) (by decide +kernel)
  · exact ⟨[], [1, 2], [9, 8], [3], by decide, by decide, rfl, by decide, by decide⟩

end SmmErrorLogger.Rde
