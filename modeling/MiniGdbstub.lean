import MiniGdbstub.Library.Block
import MiniGdbstub.Library.CString
import MiniGdbstub.Library.HexFields
import MiniGdbstub.Library.Framing
import MiniGdbstub.Library.Machine
import MiniGdbstub.Library.Program
import MiniGdbstub.Library.Layout
import MiniGdbstub.Library.LinkedList
import MiniGdbstub.Library.ByteMap
import MiniGdbstub.Library.Mutex
import MiniGdbstub.Library.Monitor
import MiniGdbstub.Library.Numerals
import MiniGdbstub.Library.TextArray
import MiniGdbstub.Library.RunLength
import MiniGdbstub.Library.Heap
import MiniGdbstub.Packet
import MiniGdbstub.FirstPacket
import MiniGdbstub.Reader
import MiniGdbstub.BufferGrowth
import MiniGdbstub.SendLoop
import MiniGdbstub.Translate
import MiniGdbstub.Checksums
import MiniGdbstub.Stub
import MiniGdbstub.FrameRoundTrip
import MiniGdbstub.Handlers
import MiniGdbstub.RegisterWrite
import MiniGdbstub.RegisterFormat
import MiniGdbstub.WriteRequests
import MiniGdbstub.MalformedWrites
import MiniGdbstub.MemoryRequests
import MiniGdbstub.SingleWrites
import MiniGdbstub.WritePaths
import MiniGdbstub.ReadBack
import MiniGdbstub.Transfer
import MiniGdbstub.TransferBounds
import MiniGdbstub.Replies
import MiniGdbstub.Session
import MiniGdbstub.LinkedQueue
import MiniGdbstub.Disconnect
import MiniGdbstub.Acknowledgements
import MiniGdbstub.Emulator
import MiniGdbstub.Interrupt
import MiniGdbstub.LockStep
import MiniGdbstub.WakeUps
import MiniGdbstub.TwoRuns
import MiniGdbstub.CorruptedPackets
import MiniGdbstub.Aborts
import MiniGdbstub.ThreadIds
import MiniGdbstub.ReplySizes
import MiniGdbstub.PlainReplies
import MiniGdbstub.RequestForms
import MiniGdbstub.Refusals
import MiniGdbstub.ObligingTargets
import MiniGdbstub.MalformedRequests
import MiniGdbstub.MissingOperations
import MiniGdbstub.ErrorReplies
import MiniGdbstub.WireReplies
import MiniGdbstub.RegisterBuffer
import MiniGdbstub.InPlace
import MiniGdbstub.Codecs
import MiniGdbstub.TargetBounds
import MiniGdbstub.Library.Rv64i
import MiniGdbstub.Instructions
import MiniGdbstub.InstructionSet
import MiniGdbstub.LoadsStores
import MiniGdbstub.Debugging
import MiniGdbstub.Breakpoints
import MiniGdbstub.ZeroRegister
import MiniGdbstub.Library.Loop
import MiniGdbstub.Continue
import MiniGdbstub.ProgramRuns
import MiniGdbstub.SingleSteps
import MiniGdbstub.RemoteCalls
import MiniGdbstub.RegisterCalls
import MiniGdbstub.RemoteSession
import MiniGdbstub.ClientView
import MiniGdbstub.Serving
import MiniGdbstub.Server
import MiniGdbstub.RemoteEmulator
import MiniGdbstub.SavedPointer
import MiniGdbstub.Closing
import MiniGdbstub.Lifetime
import MiniGdbstub.Wire
import MiniGdbstub.SendReturns
