import SmmErrorLogger.Buffer.BufferImpl
import SmmErrorLogger.Library.Marks

/-! `readErrorLogs` with a mark at every call of `readEntry`. -/

namespace SmmErrorLogger.Buffer

open Library.Interaction
open Library.Interaction.Proc

abbrev MarkedM := Proc (marked DataInterface) CircularBufferHeader BufferError

variable (cfg : Config)

def markedReadEntry : MarkedM EntryPair := do
  mark
  (readEntry cfg).withoutMarks

def markedReadEntries (bytesToRead : ℕ) : ℕ → ℕ → List EntryPair → MarkedM (List EntryPair)
  | 0, _, entryPairs => pure entryPairs
  | rounds + 1, byteRead, entryPairs => do
    if byteRead < bytesToRead then
      let entryPair ← markedReadEntry cfg
      markedReadEntries bytesToRead rounds (byteRead + (QueueEntryHeader.size + entryPair.2.length))
        (entryPairs ++ [entryPair])
    else
      pure entryPairs

def markedReadErrorLogs : MarkedM (List EntryPair) := do
  readBufferHeader.withoutMarks
  let maxOffset ← (getMaxOffset cfg).withoutMarks
  let cachedBufferHeader ← fetch
  let currentBiosWritePtr := cachedBufferHeader.biosWritePtr
  raiseIf (currentBiosWritePtr > maxOffset) (.biosWritePtr currentBiosWritePtr maxOffset)
  let currentReadPtr := cachedBufferHeader.bmcReadPtr
  raiseIf (currentReadPtr > maxOffset) (.readPtr currentReadPtr maxOffset)
  if currentBiosWritePtr = currentReadPtr then
    pure []
  else
    let bytesToRead := if currentBiosWritePtr > currentReadPtr
      then currentBiosWritePtr - currentReadPtr
      else (maxOffset - currentReadPtr) + currentBiosWritePtr
    let entryPairs ← markedReadEntries cfg bytesToRead bytesToRead 0 []
    let cachedBufferHeader ← fetch
    raiseIf (currentBiosWritePtr ≠ cachedBufferHeader.bmcReadPtr)
      (.notIdentical currentBiosWritePtr cachedBufferHeader.bmcReadPtr)
    pure entryPairs

lemma unmark_markedReadEntry : (markedReadEntry cfg).unmark = readEntry cfg :=
  (unmark_mark_bind _).trans (unmark_withoutMarks _)

lemma unmark_markedReadEntries (bytesToRead rounds byteRead : ℕ) (entryPairs : List EntryPair) :
    (markedReadEntries cfg bytesToRead rounds byteRead entryPairs).unmark =
      readEntries cfg bytesToRead rounds byteRead entryPairs := by
  induction rounds generalizing byteRead entryPairs with
  | zero => rfl
  | succ rounds ih => simp [markedReadEntries, readEntries, unmark_markedReadEntry, ih]

theorem unmark_markedReadErrorLogs : (markedReadErrorLogs cfg).unmark = readErrorLogs cfg := by
  simp [markedReadErrorLogs, readErrorLogs, unmark_markedReadEntries]

end SmmErrorLogger.Buffer
