import SmmErrorLogger.Buffer.Header
import SmmErrorLogger.Buffer.PciHandler
import SmmErrorLogger.Library.Process

/-! The operations of the buffer. Each is a process over the data interface whose private
state is the cached header. -/

namespace SmmErrorLogger.Buffer

open Library.Bytes Library.Interaction
open Library.Interaction.Proc (fetch put raise raiseIf)

/-- The places that throw, with the values their messages print. -/
inductive BufferError
  | queueTooBig (queueSize memoryRegionSize : ℕ)
  | onlyErased (byteWritten : ℕ)
  | onlyWroteHeader (byteWritten : ℕ)
  | headerRead (bytesRead headerSize : ℕ)
  | updateReadPtr (writtenSize expected : ℕ)
  | updateBmcFlags (writtenSize expected : ℕ)
  | relativeOffset (relativeOffset maxOffset : ℕ)
  | length (length maxOffset : ℕ)
  | shortRead (bytesRead requested : ℕ)
  | shortWrappedRead (bytesRead requested : ℕ)
  | ueLog (expected got : ℕ)
  | checksum (checksum : UInt8)
  | biosWritePtr (currentBiosWritePtr maxOffset : ℕ)
  | readPtr (currentReadPtr maxOffset : ℕ)
  | notIdentical (currentBiosWritePtr currentReadPtr : ℕ)
  | queueSize (function : String) (queueSize compiled : ℕ)
  | ueRegionSize (function : String) (ueRegionSize compiled : ℕ)
  deriving DecidableEq

def BufferError.what : BufferError → String
  | .queueTooBig q m => s!"[initialize] Proposed queue size '{q}' is bigger than the BMC's " ++
      s!"allocated MMIO region of '{m}'"
  | .onlyErased n => s!"[initialize] Only erased '{n}'"
  | .onlyWroteHeader n => s!"[initialize] Only wrote '{n}' bytes of the header"
  | .headerRead n e => s!"Buffer header read only read '{n}', expected '{e}'"
  | .updateReadPtr n e => s!"[updateReadPtr] Wrote '{n}' bytes, instead of expected '{e}'"
  | .updateBmcFlags n e => s!"[updateBmcFlags] Wrote '{n}' bytes, instead of expected '{e}'"
  | .relativeOffset r m => s!"[wraparoundRead] relativeOffset '{r}' was bigger than maxOffset '{m}'"
  | .length l m => s!"[wraparoundRead] length '{l}' was bigger than maxOffset '{m}'"
  | .shortRead n e => s!"[wraparoundRead] Read '{n}' which was not the requested length of '{e}'"
  | .shortWrappedRead n e => s!"[wraparoundRead] Buffer wrapped around but read '{n}' which was " ++
      s!"not the requested lenght of '{e}'"
  | .ueLog e n => s!"Failed to read full UE log. Expected {e}, got {n}"
  | .checksum c => s!"[readEntry] Checksum was '{c}', expected '0'"
  | .biosWritePtr p m => s!"[readErrorLogs] currentBiosWritePtr was '{p}' which was bigger than " ++
      s!"maxOffset '{m}'"
  | .readPtr p m =>
    s!"[readErrorLogs] currentReadPtr was '{p}' which was bigger than maxOffset '{m}'"
  | .notIdentical p r => s!"[readErrorLogs] biosWritePtr '{p}' and bmcReaddPtr '{r}' are not " ++
      "identical after reading through all the logs"
  | .queueSize f q c => s!"[{f}] runtime queueSize '{q}' did not match compile-time queueSize " ++
      s!"'{c}'. This indicates that the buffer was corrupted"
  | .ueRegionSize f u c => s!"[{f}] runtime ueRegionSize '{u}' did not match compile-time " ++
      s!"ueRegionSize '{c}'. This indicates that the buffer was corrupted"

abbrev BufferM := Proc DataInterface CircularBufferHeader BufferError

def initializeBuffer (bmcInterfaceVersion : UInt32) (queueSize ueRegionSize : UInt16)
    (magicNumber : Vector UInt32 4) : BufferM Unit := do
  let memoryRegionSize ← DataInterface.getMemoryRegionSize
  raiseIf (queueSize.toNat > memoryRegionSize) (.queueTooBig queueSize.toNat memoryRegionSize)
  -- Initialize the whole buffer with 0x00
  let byteWritten ← DataInterface.write 0 (List.replicate queueSize.toNat 0)
  raiseIf (byteWritten ≠ queueSize.toNat) (.onlyErased byteWritten)
  let initializationHeader := { CircularBufferHeader.zero with
    bmcInterfaceVersion
    queueSize := queueSize.toNat
    ueRegionSize := ueRegionSize.toNat
    magicNumber }
  let byteWritten ← DataInterface.write 0 initializationHeader.toBytes
  raiseIf (byteWritten ≠ CircularBufferHeader.size) (.onlyWroteHeader byteWritten)
  put initializationHeader

/-- The constants that `main` and `readLoop` initialize the buffer with. -/
def initializeFromConfig (cfg : Config) : BufferM Unit :=
  initializeBuffer cfg.bmcInterfaceVersion (UInt16.ofNat cfg.queueRegionSize)
    (UInt16.ofNat cfg.ueRegionSize) cfg.magicNumber

def readBufferHeader : BufferM Unit := do
  let bytesRead ← DataInterface.read 0 CircularBufferHeader.size
  raiseIf (bytesRead.length ≠ CircularBufferHeader.size)
    (.headerRead bytesRead.length CircularBufferHeader.size)
  put (.ofBytes bytesRead)

def updateReadPtr (newReadPtr : ℕ) : BufferM Unit := do
  let truncatedReadPtr := newReadPtr &&& 0xffffff
  let writtenSize ← DataInterface.write CircularBufferHeader.bmcReadPtrOffset
    (littleEndian 3 truncatedReadPtr)
  raiseIf (writtenSize ≠ 3) (.updateReadPtr writtenSize 3)
  let cachedBufferHeader ← fetch
  put { cachedBufferHeader with bmcReadPtr := truncatedReadPtr }

lemma truncatedReadPtr_eq {p : ℕ} (hp : p < 2 ^ 24) : uint32 p &&& 0xffffff = p := by
  rw [uint32_of_lt (by omega), Nat.and_two_pow_sub_one_eq_mod _ 24, Nat.mod_eq_of_lt hp]

def updateBmcFlags (newBmcFlag : UInt32) : BufferM Unit := do
  let writtenSize ← DataInterface.write CircularBufferHeader.bmcFlagsOffset
    (littleEndian 4 newBmcFlag.toNat)
  raiseIf (writtenSize ≠ 4) (.updateBmcFlags writtenSize 4)
  let cachedBufferHeader ← fetch
  put { cachedBufferHeader with bmcFlags := newBmcFlag }

section

variable (cfg : Config)

def getMaxOffset : BufferM ℕ := do
  let cachedBufferHeader ← fetch
  let queueSize := cachedBufferHeader.queueSize
  let ueRegionSize := cachedBufferHeader.ueRegionSize
  raiseIf (queueSize ≠ cfg.queueRegionSize)
    (.queueSize "getMaxOffset" queueSize cfg.queueRegionSize)
  raiseIf (ueRegionSize ≠ cfg.ueRegionSize)
    (.ueRegionSize "getMaxOffset" ueRegionSize cfg.ueRegionSize)
  pure (cfg.sizeT.sub (cfg.sizeT.sub queueSize ueRegionSize) CircularBufferHeader.size)

def getQueueOffset : BufferM ℕ := do
  let cachedBufferHeader ← fetch
  let ueRegionSize := cachedBufferHeader.ueRegionSize
  raiseIf (ueRegionSize ≠ cfg.ueRegionSize)
    (.ueRegionSize "getQueueOffset" ueRegionSize cfg.ueRegionSize)
  pure (CircularBufferHeader.size + ueRegionSize)

def wraparoundRead (relativeOffset length : ℕ) : BufferM (List UInt8) := do
  let maxOffset ← getMaxOffset cfg
  raiseIf (relativeOffset > maxOffset) (.relativeOffset relativeOffset maxOffset)
  raiseIf (length > maxOffset) (.length length maxOffset)
  -- Do a calculation to see if the read will wraparound
  let queueOffset ← getQueueOffset cfg
  let writableSpace := maxOffset - relativeOffset
  let numWraparoundBytesToRead := if length > writableSpace then length - writableSpace else 0
  let numBytesToReadTillQueueEnd := length - numWraparoundBytesToRead
  let bytesRead ← DataInterface.read (uint32 (queueOffset + relativeOffset))
    (uint32 numBytesToReadTillQueueEnd)
  raiseIf (bytesRead.length ≠ numBytesToReadTillQueueEnd)
    (.shortRead bytesRead.length numBytesToReadTillQueueEnd)
  let updatedReadPtr := relativeOffset + numBytesToReadTillQueueEnd
  -- a read up to the end of the queue puts the pointer back to 0
  let updatedReadPtr := if updatedReadPtr = maxOffset then 0 else updatedReadPtr
  let (bytesRead, updatedReadPtr) ← (
    if numWraparoundBytesToRead > 0 then do
      let wrappedBytesRead ← DataInterface.read (uint32 queueOffset)
        (uint32 numWraparoundBytesToRead)
      raiseIf (numWraparoundBytesToRead ≠ wrappedBytesRead.length)
        (.shortWrappedRead wrappedBytesRead.length numWraparoundBytesToRead)
      pure (bytesRead ++ wrappedBytesRead, numWraparoundBytesToRead)
    else
      pure (bytesRead, updatedReadPtr))
  updateReadPtr (uint32 updatedReadPtr)
  pure bytesRead

def readEntryHeader : BufferM QueueEntryHeader := do
  let cachedBufferHeader ← fetch
  let bytesRead ← wraparoundRead cfg cachedBufferHeader.bmcReadPtr QueueEntryHeader.size
  pure (.ofBytes bytesRead)

/-- `std::accumulate(first, last, 0, std::bit_xor<void>())`: the fold is over `int`. -/
def accumulateXor (bytes : List UInt8) : ℕ := bytes.foldl (fun acc b => acc ^^^ b.toNat) 0

def readEntry : BufferM EntryPair := do
  let entryHeader ← readEntryHeader cfg
  let entrySize := entryHeader.entrySize.toNat
  let cachedBufferHeader ← fetch
  let entry ← wraparoundRead cfg cachedBufferHeader.bmcReadPtr entrySize
  let checksum := UInt8.ofNat (accumulateXor entryHeader.toBytes ^^^ accumulateXor entry)
  raiseIf (checksum ≠ 0) (.checksum checksum)
  pure (entryHeader, entry)

/-- The `while (byteRead < bytesToRead)` loop of `readErrorLogs`. Every round reads at least
the six bytes of an entry header, so `bytesToRead` rounds are always enough. -/
def readEntries (bytesToRead : ℕ) : ℕ → ℕ → List EntryPair → BufferM (List EntryPair)
  | 0, _, entryPairs => pure entryPairs
  | rounds + 1, byteRead, entryPairs => do
    if byteRead < bytesToRead then
      let entryPair ← readEntry cfg
      readEntries bytesToRead rounds (byteRead + (QueueEntryHeader.size + entryPair.2.length))
        (entryPairs ++ [entryPair])
    else
      pure entryPairs

def readErrorLogs : BufferM (List EntryPair) := do
  readBufferHeader
  let maxOffset ← getMaxOffset cfg
  let cachedBufferHeader ← fetch
  let currentBiosWritePtr := cachedBufferHeader.biosWritePtr
  raiseIf (currentBiosWritePtr > maxOffset) (.biosWritePtr currentBiosWritePtr maxOffset)
  let currentReadPtr := cachedBufferHeader.bmcReadPtr
  raiseIf (currentReadPtr > maxOffset) (.readPtr currentReadPtr maxOffset)
  if currentBiosWritePtr = currentReadPtr then
    -- No new payload was detected, return an empty vector gracefully
    pure []
  else
    let bytesToRead := if currentBiosWritePtr > currentReadPtr
      then currentBiosWritePtr - currentReadPtr
      else (maxOffset - currentReadPtr) + currentBiosWritePtr
    let entryPairs ← readEntries cfg bytesToRead bytesToRead 0 []
    -- readEntry() updates cachedBufferHeader.bmcReadPtr
    let cachedBufferHeader ← fetch
    raiseIf (currentBiosWritePtr ≠ cachedBufferHeader.bmcReadPtr)
      (.notIdentical currentBiosWritePtr cachedBufferHeader.bmcReadPtr)
    pure entryPairs

end

def readUeLogFromReservedRegion : BufferM (List UInt8) := do
  readBufferHeader
  let cachedBufferHeader ← fetch
  let currentUeRegionSize := cachedBufferHeader.ueRegionSize
  if currentUeRegionSize = 0 then
    pure []
  else if (cachedBufferHeader.biosFlags ^^^ cachedBufferHeader.bmcFlags) &&&
    BufferFlags.ueSwitch = 0 then
    pure []
  else
    let ueLogData ← DataInterface.read CircularBufferHeader.size currentUeRegionSize
    if ueLogData.length = currentUeRegionSize then
      pure ueLogData
    else
      raise (.ueLog currentUeRegionSize ueLogData.length)

def checkForOverflowAndAcknowledge : BufferM Bool := do
  readBufferHeader
  let cachedBufferHeader ← fetch
  if (cachedBufferHeader.biosFlags ^^^ cachedBufferHeader.bmcFlags) &&&
    BufferFlags.overflow ≠ 0 then
    updateBmcFlags (cachedBufferHeader.bmcFlags ^^^ BufferFlags.overflow)
    pure true
  else
    pure false

end SmmErrorLogger.Buffer
