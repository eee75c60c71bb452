import SmmErrorLogger.Config
import SmmErrorLogger.Library.Bytes

namespace SmmErrorLogger.Buffer

open Library.Bytes

def BufferFlags.ueSwitch : UInt32 := (1 : UInt32) <<< 0
def BufferFlags.overflow : UInt32 := (1 : UInt32) <<< 1
def BmcFlags.ready : UInt32 := (1 : UInt32) <<< 2

structure CircularBufferHeader where
  bmcInterfaceVersion : UInt32
  biosInterfaceVersion : UInt32
  magicNumber : Vector UInt32 4
  queueSize : ℕ
  ueRegionSize : ℕ
  bmcFlags : UInt32
  bmcReadPtr : ℕ
  reserved1 : Vector UInt8 4
  biosFlags : UInt32
  biosWritePtr : ℕ
  reserved2 : UInt8
  deriving DecidableEq

structure QueueEntryHeader where
  sequenceId : UInt16
  entrySize : UInt16
  checksum : UInt8
  rdeCommandType : UInt8
  deriving DecidableEq

abbrev EntryPair := QueueEntryHeader × List UInt8

namespace CircularBufferHeader

def size : ℕ := 0x30

def bmcFlagsOffset : ℕ := 0x1d
def bmcReadPtrOffset : ℕ := 0x21
def biosFlagsOffset : ℕ := 0x28
def biosWritePtrOffset : ℕ := 0x2c

def ofBytes (bs : List UInt8) : CircularBufferHeader where
  bmcInterfaceVersion := field32 bs 0x0
  biosInterfaceVersion := field32 bs 0x4
  magicNumber := .ofFn (fun i => field32 bs (0x8 + 4 * i))
  queueSize := field bs 0x18 3
  ueRegionSize := field bs 0x1b 2
  bmcFlags := field32 bs bmcFlagsOffset
  bmcReadPtr := field bs bmcReadPtrOffset 3
  reserved1 := .ofFn (fun i => byte bs (0x24 + i))
  biosFlags := field32 bs biosFlagsOffset
  biosWritePtr := field bs biosWritePtrOffset 3
  reserved2 := byte bs 0x2f

def toBytes (h : CircularBufferHeader) : List UInt8 :=
  littleEndian 4 h.bmcInterfaceVersion.toNat ++ littleEndian 4 h.biosInterfaceVersion.toNat ++
    h.magicNumber.toList.flatMap (fun n => littleEndian 4 n.toNat) ++ littleEndian 3 h.queueSize ++
    littleEndian 2 h.ueRegionSize ++ littleEndian 4 h.bmcFlags.toNat ++
    littleEndian 3 h.bmcReadPtr ++ h.reserved1.toList ++ littleEndian 4 h.biosFlags.toNat ++
    littleEndian 3 h.biosWritePtr ++ [h.reserved2]

def zero : CircularBufferHeader where
  bmcInterfaceVersion := 0
  biosInterfaceVersion := 0
  magicNumber := .replicate 4 0
  queueSize := 0
  ueRegionSize := 0
  bmcFlags := 0
  bmcReadPtr := 0
  reserved1 := .replicate 4 0
  biosFlags := 0
  biosWritePtr := 0
  reserved2 := 0

end CircularBufferHeader

namespace QueueEntryHeader

def size : ℕ := 0x6

def ofBytes (bs : List UInt8) : QueueEntryHeader where
  sequenceId := field16 bs 0x0
  entrySize := field16 bs 0x2
  checksum := byte bs 0x4
  rdeCommandType := byte bs 0x5

def toBytes (h : QueueEntryHeader) : List UInt8 :=
  littleEndian 2 h.sequenceId.toNat ++ littleEndian 2 h.entrySize.toNat ++
    [h.checksum, h.rdeCommandType]

end QueueEntryHeader

end SmmErrorLogger.Buffer
