import VirtualDualSense.Lib.Runs
import VirtualDualSense.Lib.Transducer
import VirtualDualSense.Protocol.PcmAudioExtractor
import VirtualDualSense.Protocol.PcmChunking
import VirtualDualSense.Lib.Words
import VirtualDualSense.Protocol.Frames
import VirtualDualSense.Usb.Descriptors
import VirtualDualSense.UsbIp.Wire
import VirtualDualSense.UsbIp.CmdSubmit
import VirtualDualSense.UsbIp.ReplyFraming
import VirtualDualSense.UsbIp.IsoFraming
import VirtualDualSense.UsbIp.Session
import VirtualDualSense.UsbIp.Unlink
import VirtualDualSense.UsbIp.FeatureReply
import VirtualDualSense.Lib.Buffers
import VirtualDualSense.Protocol.Checksum
import VirtualDualSense.Protocol.OutputState
import VirtualDualSense.Protocol.PowerSave
import VirtualDualSense.Protocol.BtPackets
import VirtualDualSense.Linux.Daemon
import VirtualDualSense.Linux.MicMute
import VirtualDualSense.Win32.Bridge
import VirtualDualSense.Win32.LastSentState
import VirtualDualSense.Hcd.Sections
import VirtualDualSense.Hcd.Threads
import VirtualDualSense.Hcd.Filing
import VirtualDualSense.Hcd.Lifecycle
import VirtualDualSense.Hcd.Queues
import VirtualDualSense.Hcd.AtomicRuns
import VirtualDualSense.Hcd.Disconnect
import VirtualDualSense.Linux.Convergence
import VirtualDualSense.Lib.Ledgers
import VirtualDualSense.Win32.ChunkQueue
import VirtualDualSense.Hcd.CompletionOrder
import VirtualDualSense.Config.Controllers
import VirtualDualSense.Win32.Supervisor
import VirtualDualSense.Win32.Retry
import VirtualDualSense.UsbIp.PipeReader
import VirtualDualSense.Win32.HidPaths
import VirtualDualSense.Win32.HidTransport
import VirtualDualSense.Win32.HandleCoherence
import VirtualDualSense.Lib.Blocks
import VirtualDualSense.Lib.Packets
import VirtualDualSense.Hcd.MicQueue
import VirtualDualSense.UsbIp.MicBuffer
import VirtualDualSense.Lib.DueQueue
import VirtualDualSense.UsbIp.IsoPacing
import VirtualDualSense.UsbIp.ReplyOwners
import VirtualDualSense.Lib.Fragments
import VirtualDualSense.UsbIp.Receive
import VirtualDualSense.UsbIp.AudioOut
import VirtualDualSense.Linux.PacketErrors
import VirtualDualSense.Linux.PortSync
import VirtualDualSense.Lib.Holders
import VirtualDualSense.Linux.Assignment
import VirtualDualSense.Win32.Workers
import VirtualDualSense.Hcd.DeviceStatus
import VirtualDualSense.Hcd.PortConsistency
import VirtualDualSense.Hcd.SessionReset
import VirtualDualSense.Config.Jsonl
import VirtualDualSense.Config.Database
import VirtualDualSense.Config.Control
import VirtualDualSense.Config.ControlAtomicity
import VirtualDualSense.Config.Vdsctl
import VirtualDualSense.Transports.SetReport
import VirtualDualSense.Hcd.FeatureReads
import VirtualDualSense.Hcd.FeatureReplies
import VirtualDualSense.Lib.Crc
import VirtualDualSense.Protocol.ReportChecksums
import VirtualDualSense.Transports.FeatureUnits
import VirtualDualSense.Win32.OutputQueue
import VirtualDualSense.Win32.TestCommands
import VirtualDualSense.UsbIp.Teardown
import VirtualDualSense.UsbIp.Joins
import VirtualDualSense.Linux.FeatureRelay
import VirtualDualSense.Linux.FeatureFreshness
import VirtualDualSense.Protocol.OutputBytes
import VirtualDualSense.Protocol.OutputInvariant
import VirtualDualSense.Protocol.OutputFrame
import VirtualDualSense.Protocol.HostSettings
import VirtualDualSense.Lib.Ranges
import VirtualDualSense.Protocol.Resamplers
import VirtualDualSense.Hcd.IsoOutStream
import VirtualDualSense.Config.Modalias
import VirtualDualSense.Lib.Grammars
import VirtualDualSense.Config.JsonlGrammar
import VirtualDualSense.Win32.BuiltPackets
import VirtualDualSense.Lib.Pacers
import VirtualDualSense.Win32.SendPacing
import VirtualDualSense.Hcd.IsoSchedule
import VirtualDualSense.Hcd.TimedUrbs
import VirtualDualSense.Config.RecordLines
import VirtualDualSense.Lib.Refinements
import VirtualDualSense.Lib.Rings
import VirtualDualSense.WinDrv.ByteRings
import VirtualDualSense.WinDrv.ControlReads
import VirtualDualSense.WinDrv.DelayedUrbs
import VirtualDualSense.Lib.Directories
import VirtualDualSense.Lib.Replacements
import VirtualDualSense.Config.Storage
import VirtualDualSense.Config.StorageRuns
import VirtualDualSense.Config.StorageRequests
import VirtualDualSense.Lib.Firsts
import VirtualDualSense.WinDrv.FilterDevices
import VirtualDualSense.WinDrv.FilterChanges
import VirtualDualSense.WinDrv.FilterRuns
import VirtualDualSense.WinDrv.FilterPaths
import VirtualDualSense.Lib.Framings
import VirtualDualSense.Lib.LittleEndian
import VirtualDualSense.Protocol.FrameStreams
import VirtualDualSense.WinDrv.FrameReads
import VirtualDualSense.Transports.FramePipes
import VirtualDualSense.WinDrv.ControlWrites
import VirtualDualSense.WinDrv.IsoIn
import VirtualDualSense.Win32.ControlPipe
import VirtualDualSense.Win32.ControlPipeRuns
import VirtualDualSense.WinDrv.PortBindings
