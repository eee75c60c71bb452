import SmmErrorLogger.Library.CrcPeriod
import SmmErrorLogger.Rde.BurstErrors

namespace SmmErrorLogger.Rde

open Library Library.Crc

/-- `distance` is how far the two bits are from each other, in the order in which they are taken in.
-/
def TwoBits (distance : ℕ) (bytes altered : List UInt8) : Prop :=
  ∃ pre b mid b' post, bytes.flatMap bits = pre ++ b :: (mid ++ b' :: post) ∧
    altered.flatMap bits = pre ++ (!b) :: (mid ++ (!b') :: post) ∧ distance = mid.length + 1

lemma updateCrc_twoBits {crc : UInt32} {distance : ℕ} {bytes altered : List UInt8}
    (h : TwoBits distance bytes altered) :
    updateCrc crc altered = updateCrc crc bytes ↔ 2 ^ 32 - 1 ∣ distance := by
  obtain ⟨pre, b, mid, b', post, hbytes, haltered, rfl⟩ := h
  have hpoly : BitVec.msb (0xedb88320 : BitVec 32) = true := by decide
  rw [← UInt32.toBitVec_inj, updateCrc_eq, updateCrc_eq, hbytes, haltered, remainder_twoBits hpoly,
    crc32_period]

lemma Receiver.close_sameCrc {r : Receiver} {crc : UInt32} (h : r.crc = crc) :
    (r.close (.checksum (finalChecksum crc))).1 = .rdeStopFlagReceived := by
  rw [close, if_neg (not_not.mpr (finalChecksum_inj.mpr h))]

lemma Receiver.close_otherCrc {r : Receiver} {crc : UInt32} (h : r.crc ≠ crc) :
    (r.close (.checksum (finalChecksum crc))).1 = .rdeInvalidChecksum ∧
      ∀ x, (r.close (.checksum (finalChecksum crc))).2.dictionaryManager.getDictionary x =
        none := by
  rw [close, if_pos (finalChecksum_inj.not.mpr h)]
  exact ⟨rfl, fun _ => DictionaryManager.getDictionary_invalidateDictionaries⟩

variable {S ε : Type} (decoder : BejDecoder) (storer : ExternalStorerInterface S ε)
  (h : RdeCommandHandler S)
  {s : WordSize} {commands altered : List Command} {closing : Closing} {ps : List Piece}

lemma decodeAll_sameButData (htransfer : packets s commands = transferPackets closing ps)
    (hclosed : (multipartResults commands (h.decodeAll s decoder storer commands).1).getLast? =
      some (.ok .rdeStopFlagReceived))
    (hsame : List.Forall₂ Command.SameButData commands altered) :
    let last := (multipartResults altered (h.decodeAll s decoder storer altered).1).getLast?
    let crc := updateCrc 0xFFFFFFFF
    (crc (transferData s altered) = crc (transferData s commands) →
      last = some (.ok .rdeStopFlagReceived)) ∧
      (crc (transferData s altered) ≠ crc (transferData s commands) →
        last = some (.ok .rdeInvalidChecksum) ∧
        ∀ r, (h.decodeAll s decoder storer altered).2.dictionaryManager.getDictionary r =
          none) := by
  intro last crc
  obtain ⟨ps', haltered', hnil⟩ := transferPackets_altered (htransfer ▸ packets_sameButData hsame)
  cases ps with
  | nil =>
    rw [decodeAll_multipartResults, htransfer] at hclosed
    cases hclosed
  | cons p ps =>
    obtain ⟨p', ps', rfl⟩ :=
      List.exists_cons_of_ne_nil (fun hps => List.cons_ne_nil _ _ (hnil.mp hps))
    obtain ⟨hlast, -⟩ := decodeAll_last decoder storer h htransfer
    obtain rfl :=
      Receiver.close_stopFlag (Except.ok.inj (Option.some.inj (hlast.symm.trans hclosed)))
    obtain ⟨hlast', hreceiver⟩ := decodeAll_last decoder storer h haltered'
    generalize ps'.foldl Assembly.absorb (h.dictionaryManager, p') = x at hlast' hreceiver
    constructor
    · intro hcrc
      exact hlast'.trans (congrArg (fun status => some (Except.ok status))
        (Receiver.close_sameCrc hcrc))
    · intro hcrc
      obtain ⟨hwrong, hnone⟩ :=
        Receiver.close_otherCrc (r := Receiver.received x (crc (transferData s altered))) hcrc
      refine ⟨hlast'.trans (congrArg (fun status => some (Except.ok status)) hwrong), fun r => ?_⟩
      have hmanager : (h.decodeAll s decoder storer altered).2.dictionaryManager = _ :=
        congrArg Receiver.dictionaryManager hreceiver
      rw [hmanager]
      exact hnone r

theorem decodeAll_twoBits (htransfer : packets s commands = transferPackets closing ps)
    (hclosed : (multipartResults commands (h.decodeAll s decoder storer commands).1).getLast? =
      some (.ok .rdeStopFlagReceived))
    (hsame : List.Forall₂ Command.SameButData commands altered) {distance : ℕ}
    (hbits : TwoBits distance (transferData s commands) (transferData s altered)) :
    let last := (multipartResults altered (h.decodeAll s decoder storer altered).1).getLast?
    (last = some (.ok .rdeStopFlagReceived) ↔ 2 ^ 32 - 1 ∣ distance) ∧
      (¬ 2 ^ 32 - 1 ∣ distance → last = some (.ok .rdeInvalidChecksum) ∧
        ∀ r, (h.decodeAll s decoder storer altered).2.dictionaryManager.getDictionary r =
          none) := by
  intro last
  obtain ⟨hequal, hdiffer⟩ := decodeAll_sameButData decoder storer h htransfer hclosed hsame
  rw [updateCrc_twoBits hbits] at hequal
  rw [Ne, updateCrc_twoBits hbits] at hdiffer
  refine ⟨⟨fun hstop => ?_, hequal⟩, hdiffer⟩
  by_contra hdvd
  have hwrong := (hdiffer hdvd).1.symm.trans hstop
  simp at hwrong

def twoBitsCommands : List Command := [
  ⟨.ofList [0, 0, 5, 0, 0, 0, 1, 0, 0, 0, 0], .rdeMultiPartReceiveResponse⟩,
  ⟨.ofList [], .rdeOperationInitRequest⟩,
  ⟨.ofList [0, 1, 5, 0, 0, 0, 1, 0, 0, 0, 2], .rdeMultiPartReceiveResponse⟩,
  ⟨.ofList [0, 2, 0, 0, 0, 0, 1, 0, 0, 0, 0x83, 0x1d, 0x80, 0xbc, 0x55],
    .rdeMultiPartReceiveResponse⟩]

lemma twoBitsCommands_sameButData :
    List.Forall₂ Command.SameButData DictionaryTransfer.twoDictionariesCommands twoBitsCommands :=
  .cons ⟨rfl, rfl, by decide, fun hcloses => absurd hcloses (by decide)⟩ <|
    .cons ⟨rfl, rfl, by decide, fun _ => by decide⟩ <|
      .cons ⟨rfl, rfl, by decide, fun hcloses => absurd hcloses (by decide)⟩ <|
        .cons ⟨rfl, rfl, by decide, fun _ => by decide⟩ .nil

theorem decodeAll_twoBits_threeBytes :
    let altered := (RdeCommandHandler.fresh ()).decodeAll .bits32 (fun _ _ => (0, []))
      ⟨fun _ n => ((.ok true : Except Empty Bool), n)⟩ twoBitsCommands
    (multipartResults twoBitsCommands altered.1).getLast? = some (.ok .rdeInvalidChecksum) ∧
      ∀ r, altered.2.dictionaryManager.getDictionary r = none := by
  have htransfer : packets .bits32 DictionaryTransfer.twoDictionariesCommands =
      transferPackets (.checksum 0x55bc801d) [(5, [1]), (5, [2]), (0, [3])] := by decide
  have hbits : TwoBits 23 (transferData .bits32 DictionaryTransfer.twoDictionariesCommands)
      (transferData .bits32 twoBitsCommands) :=
    ⟨[], true, (bits 1).tail ++ bits 2 ++ (bits 3).dropLast, false, [],
      by decide, by decide, by decide⟩
  refine (decodeAll_twoBits _ _ _ htransfer ?_ twoBitsCommands_sameButData hbits).2 (by decide)
  have hlast := (decodeAll_last (fun _ _ => (0, []))
    ⟨fun _ n => ((.ok true : Except Empty Bool), n)⟩ (.fresh ()) htransfer).1
  rw [hlast]
  exact congrArg (fun status => some (Except.ok status)) (by decide +kernel)

end SmmErrorLogger.Rde
