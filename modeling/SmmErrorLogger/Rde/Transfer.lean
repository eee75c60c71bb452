import SmmErrorLogger.Library.Parts
import SmmErrorLogger.Rde.Requests

namespace SmmErrorLogger.Rde

open Library.Parts

abbrev Piece := UInt32 × List UInt8

namespace DictionaryManager

variable {m : DictionaryManager} {r : UInt32} {b c : List UInt8}

def receive (m : DictionaryManager) (p : Piece) : DictionaryManager :=
  ((m.startDictionaryEntry p.1 p.2).markDataComplete p.1).2

lemma receive_dictionaries {p : Piece} :
    (m.receive p).dictionaries = Function.update m.dictionaries p.1 (some ⟨true, p.2⟩) := by
  simp [receive]

lemma addDictionaryData_start : (m.startDictionaryEntry r b).addDictionaryData r c =
    (true, m.startDictionaryEntry r (b ++ c)) := by
  have hentry : (m.startDictionaryEntry r b).dictionaries r = some ⟨false, b⟩ := by simp
  have hcount : (m.startDictionaryEntry r b).validDictionaryCount =
      (m.startDictionaryEntry r (b ++ c)).validDictionaryCount := by
    cases h : m.dictionaries r <;> simp [startDictionaryEntry, h]
  rw [addDictionaryData, hentry]
  refine Prod.ext rfl (DictionaryManager.ext hcount ?_)
  simp [invalidateDictionaryEntry]

end DictionaryManager

/-- The dictionary that is being received, and the manager without it. -/
abbrev Assembly := DictionaryManager × Piece

namespace Assembly

def finish (x : Assembly) : DictionaryManager := x.1.receive x.2

def absorb (x : Assembly) (p : Piece) : Assembly :=
  if x.2.1 = p.1 then (x.1, p.1, x.2.2 ++ p.2) else (x.finish, p)

variable {x : Assembly}

lemma absorb_nil (m : DictionaryManager) (r : UInt32) (b : List UInt8) :
    absorb (m, (r, [])) (r, b) = (m, (r, b)) := by
  simp [absorb]

lemma absorb_append (r : UInt32) (b c : List UInt8) :
    (x.absorb (r, b)).absorb (r, c) = x.absorb (r, b ++ c) := by
  by_cases h : x.2.1 = r
  · simp [absorb, h]
  · simp [absorb, h]

lemma foldl_absorb_chunks (r : UInt32) (b : List UInt8) (chunks : List (List UInt8)) :
    (chunks.map (Prod.mk r)).foldl absorb (x.absorb (r, b)) = x.absorb
      (r, b ++ chunks.flatten) := by
  induction chunks generalizing b with
  | nil => simp
  | cons c chunks ih =>
    rw [List.map_cons, List.foldl_cons, absorb_append, ih, List.flatten_cons, List.append_assoc]

lemma finish_foldl_absorb (ps : List Piece) (hnodup : ((x.2 :: ps).map Prod.fst).Nodup) :
    (∀ p ∈ x.2 :: ps, (ps.foldl absorb x).finish.dictionaries p.1 = some ⟨true, p.2⟩) ∧
      ∀ r ∉ (x.2 :: ps).map Prod.fst,
        (ps.foldl absorb x).finish.dictionaries r = x.1.dictionaries r := by
  induction ps generalizing x with
  | nil =>
    constructor
    · intro p hp
      rw [List.mem_singleton.mp hp, List.foldl_nil, finish, DictionaryManager.receive_dictionaries,
        Function.update_self]
    · intro r hr
      rw [List.foldl_nil, finish, DictionaryManager.receive_dictionaries,
        Function.update_of_ne (by simpa using hr)]
  | cons q ps ih =>
    obtain ⟨hx, hps⟩ := List.nodup_cons.mp hnodup
    have habsorb : x.absorb q = (x.finish, q) := if_neg (fun h => hx (by simp [h]))
    obtain ⟨hlisted, hothers⟩ := ih (x := (x.finish, q)) hps
    rw [List.foldl_cons, habsorb]
    constructor
    · intro p hp
      rcases List.mem_cons.mp hp with rfl | hp
      · rw [hothers _ hx, finish, DictionaryManager.receive_dictionaries, Function.update_self]
      · exact hlisted p hp
    · intro r hr
      rw [List.map_cons, List.mem_cons, not_or] at hr
      rw [hothers r hr.2, finish, DictionaryManager.receive_dictionaries,
        Function.update_of_ne hr.1]

end Assembly

namespace Receiver

def receiving (x : Assembly) (crc : UInt32) : Receiver where
  flagState := .rdeStateStartRecvd
  prevDictResourceId := x.2.1
  dictionaryManager := x.1.startDictionaryEntry x.2.1 x.2.2
  crc := crc

def received (x : Assembly) (crc : UInt32) : Receiver where
  flagState := .rdeStateIdle
  prevDictResourceId := x.2.1
  dictionaryManager := x.finish
  crc := crc

variable {x : Assembly} {crc : UInt32} {p : Piece} {closing : Closing}

lemma takeData_receiving : (x.1.startDictionaryEntry x.2.1 x.2.2).takeData x.2.1 p.1 p.2 =
    (true, (x.absorb p).1.startDictionaryEntry (x.absorb p).2.1 (x.absorb p).2.2) := by
  rw [DictionaryManager.takeData, Assembly.absorb]
  by_cases h : x.2.1 = p.1
  · rw [if_neg (not_not.mpr h), if_pos h, h, DictionaryManager.addDictionaryData_start]
  · rw [if_pos h, if_neg h]
    rfl

lemma absorb_id : (x.absorb p).2.1 = p.1 := by
  rw [Assembly.absorb]
  split_ifs <;> rfl

lemma accept_middle_receiving : (receiving x crc).accept (.middle p.1 p.2) =
    (.rdeOk, receiving (x.absorb p) (updateCrc crc p.2)) := by
  rw [accept, if_neg (by simp [receiving])]
  dsimp only [receiving]
  rw [takeData_receiving, absorb_id]
  rfl

lemma accept_finish_receiving : (receiving x crc).accept (.finish p.1 p.2 closing) =
    (received (x.absorb p) (updateCrc crc p.2)).close closing := by
  rw [accept, if_neg (by simp [receiving])]
  dsimp only [receiving]
  rw [takeData_receiving, received, Assembly.finish, DictionaryManager.receive, absorb_id]
  rfl

end Receiver

def laterPackets (closing : Closing) : List Piece → List Packet :=
  laterParts (fun p => .middle p.1 p.2) (fun p => .finish p.1 p.2 closing)

def transferPackets (closing : Closing) : List Piece → List Packet :=
  parts (fun p => .start p.1 p.2) (fun p => .middle p.1 p.2) (fun p => .finish p.1 p.2 closing)
    (fun p => .startAndEnd p.1 p.2 closing)

def pieceBytes (ps : List Piece) : List UInt8 := ps.flatMap Prod.snd

variable {closing : Closing}

lemma acceptAll_laterPackets {x : Assembly} {crc : UInt32} {p : Piece} {ps : List Piece} :
    (Receiver.receiving x crc).acceptAll (laterPackets closing (p :: ps)) =
      let final := (Receiver.received ((p :: ps).foldl Assembly.absorb x)
        (updateCrc crc (pieceBytes (p :: ps)))).close closing
      (List.replicate ps.length .rdeOk ++ [final.1], final.2) := by
  induction ps generalizing x crc p with
  | nil =>
    rw [laterPackets, laterParts, Receiver.acceptAll_cons, Receiver.accept_finish_receiving]
    simp [pieceBytes, Receiver.acceptAll]
  | cons q ps ih =>
    rw [laterPackets, laterParts, Receiver.acceptAll_cons, Receiver.accept_middle_receiving,
      ← laterPackets]
    dsimp only
    rw [ih, ← updateCrc_append]
    rfl

theorem acceptAll_transferPackets {r : Receiver} {p : Piece} {ps : List Piece} :
    r.acceptAll (transferPackets closing (p :: ps)) =
      let final := (Receiver.received (ps.foldl Assembly.absorb (r.dictionaryManager, p))
        (updateCrc 0xFFFFFFFF (pieceBytes (p :: ps)))).close closing
      (List.replicate ps.length .rdeOk ++ [final.1], final.2) := by
  cases ps with
  | nil =>
    rw [pieceBytes, List.flatMap_singleton]
    rfl
  | cons q ps =>
    have hstart : r.accept (.start p.1 p.2) =
        (.rdeOk, .receiving (r.dictionaryManager, p) (updateCrc 0xFFFFFFFF p.2)) := rfl
    rw [transferPackets, parts, Receiver.acceptAll_cons, hstart, ← laterPackets]
    dsimp only
    rw [acceptAll_laterPackets, ← updateCrc_append]
    rfl

end SmmErrorLogger.Rde
