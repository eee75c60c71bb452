import SmmErrorLogger.Library.Interaction
import SmmErrorLogger.Library.Process
import SmmErrorLogger.Library.Service
import SmmErrorLogger.Library.Bytes
import SmmErrorLogger.Library.Calls
import SmmErrorLogger.Library.Circular
import SmmErrorLogger.Library.Flags
import SmmErrorLogger.Buffer.BufferImpl
import SmmErrorLogger.Buffer.ErrorLogs
import SmmErrorLogger.Buffer.Undisturbed
import SmmErrorLogger.Buffer.Soundness
import SmmErrorLogger.Buffer.Completeness
import SmmErrorLogger.Buffer.Initialization
import SmmErrorLogger.Buffer.SharedQueue
import SmmErrorLogger.Buffer.Fifo
import SmmErrorLogger.Buffer.HeaderAccess
import SmmErrorLogger.Buffer.WraparoundRead
import SmmErrorLogger.Buffer.Corruption
import SmmErrorLogger.Buffer.Coherence
import SmmErrorLogger.Buffer.Ownership
import SmmErrorLogger.Buffer.Hostile
import SmmErrorLogger.Buffer.Clamping
import SmmErrorLogger.Library.Crc
import SmmErrorLogger.Rde.Crc
import SmmErrorLogger.Rde.Commands
import SmmErrorLogger.Rde.DictionaryManager
import SmmErrorLogger.Rde.DictionaryCount
import SmmErrorLogger.Rde.DictionaryHistory
import SmmErrorLogger.Rde.Handler
import SmmErrorLogger.Rde.Packets
import SmmErrorLogger.Rde.Requests
import SmmErrorLogger.Rde.Bounds
import SmmErrorLogger.Library.Machine
import SmmErrorLogger.Library.Marks
import SmmErrorLogger.Library.Parts
import SmmErrorLogger.Library.Journal
import SmmErrorLogger.Library.Paths
import SmmErrorLogger.Rde.Transfer
import SmmErrorLogger.Rde.RoundTrip
import SmmErrorLogger.Rde.LogRequests
import SmmErrorLogger.Rde.BurstErrors
import SmmErrorLogger.Library.CrcPeriod
import SmmErrorLogger.Rde.TwoBitErrors
import SmmErrorLogger.Rde.Rejected
import SmmErrorLogger.Rde.Integrity
import SmmErrorLogger.Rde.DictionaryErrors
import SmmErrorLogger.Storer.Json
import SmmErrorLogger.Storer.FileInterface
import SmmErrorLogger.Storer.Storage
import SmmErrorLogger.Storer.Publication
import SmmErrorLogger.Storer.LogService
import SmmErrorLogger.Storer.Retention
import SmmErrorLogger.Storer.RetentionPolicy
import SmmErrorLogger.Storer.Notifier
import SmmErrorLogger.Storer.FileWriter
import SmmErrorLogger.Storer.Containment
import SmmErrorLogger.Storer.FileStorer
import SmmErrorLogger.ReadLoop.Loop
import SmmErrorLogger.ReadLoop.Recovery
import SmmErrorLogger.ReadLoop.Invariant
import SmmErrorLogger.ReadLoop.System
import SmmErrorLogger.ReadLoop.ReadyBit
import SmmErrorLogger.ReadLoop.UeStorage
import SmmErrorLogger.ReadLoop.Handshake
import SmmErrorLogger.ReadLoop.HandshakeLoop
import SmmErrorLogger.ReadLoop.Pipeline
import SmmErrorLogger.ReadLoop.Delivery
import SmmErrorLogger.ReadLoop.CatchUp
import SmmErrorLogger.ReadLoop.HostileLoop
import SmmErrorLogger.ReadLoop.CallBound
import SmmErrorLogger.ReadLoop.DictionaryArrival
import SmmErrorLogger.ReadLoop.LogArrival
