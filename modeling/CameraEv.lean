import CameraEv.Lib.Exec
import CameraEv.Lib.RingWindow
import CameraEv.Lib.Trace
import CameraEv.Lib.LittleEndian
import CameraEv.Lib.Decimal
import CameraEv.Lib.Win32
import CameraEv.Lib.Census
import CameraEv.Common.QueueMemory
import CameraEv.Common.QueueFifo
import CameraEv.Common.QueueAttach
import CameraEv.Network.PacketDefine
import CameraEv.Network.PacketLayout
import CameraEv.Network.PacketRoundTrip
import CameraEv.Network.PacketOverflow
import CameraEv.Network.PacketStruct
import CameraEv.Network.PacketStructRoundTrip
import CameraEv.Network.SyncQueueCallbacks
import CameraEv.Common.SyncSharedMemory
import CameraEv.Common.SyncExclusion
import CameraEv.Common.SyncMoves
import CameraEv.Common.SyncTokens
import CameraEv.Common.SyncDelivery
import CameraEv.Common.SyncFailedCall
import CameraEv.Common.SyncClear
import CameraEv.Common.TimerLockerManager
import CameraEv.Decoder.DecoderDefine
import CameraEv.Decoder.DecoderTimers
import CameraEv.Decoder.DecoderQueues
import CameraEv.Live555.RtspCallback
import CameraEv.Live555.SubsessionSinks
import CameraEv.Lib.Resources
import CameraEv.Decoder.ScalerCache
import CameraEv.Network.PacketReread
import CameraEv.Session.SessionRtsp
import CameraEv.Network.PacketCanonical
import CameraEv.Common.InnerThread
import CameraEv.Stream.Streamer
import CameraEv.Camera.CameraStreams
import CameraEv.Camera.CheckStream
import CameraEv.Network.SendWorkerManager
import CameraEv.Camera.CameraPackets
import CameraEv.Network.SendWorkerRace
import CameraEv.Decoder.DecoderBuffers
import CameraEv.Network.AnalyzeLoop
import CameraEv.Network.AnalyzeReads
import CameraEv.Network.IntegerFields
import CameraEv.Network.WriterBounds
import CameraEv.Network.PacketFields
import CameraEv.Camera.OnRecvWorker
import CameraEv.Lib.Answers
import CameraEv.Common.QueueClear
import CameraEv.Common.QueueReinitialize
import CameraEv.Common.QueueDirect
import CameraEv.Common.Locker
import CameraEv.Session.StopRequest
import CameraEv.Lib.KeyedList
import CameraEv.Common.TimerLists
import CameraEv.Common.TimerRequests
import CameraEv.Common.TimerTicks
import CameraEv.Lib.Handles
import CameraEv.Common.TimerWinmm
import CameraEv.Lib.Words
import CameraEv.Lib.Occurrences
import CameraEv.Common.StringUtil
import CameraEv.Live555.H264Sink
import CameraEv.Lib.CheckedInt
import CameraEv.Decoder.BufferSizes
import CameraEv.Decoder.FrameDelivery
import CameraEv.Decoder.ConvertedFrames
import CameraEv.Common.TimerSlots
import CameraEv.Decoder.DecodingFps
import CameraEv.Common.RepeatWorkProc
import CameraEv.Common.RepeatTimers
import CameraEv.Camera.SystemInfo
import CameraEv.Network.PacketChannel
import CameraEv.Lib.SerialNumber
import CameraEv.Live555.ReorderingPacketBuffer
import CameraEv.Live555.H264VideoRTPSource
import CameraEv.Live555.RtpSimulation
import CameraEv.Lib.BigEndian
import CameraEv.Live555.RtpHeader
import CameraEv.Live555.H264Packetization
import CameraEv.Live555.H264Reassembly
import CameraEv.Live555.RtpDelivery
import CameraEv.Common.CmdLineParser
import CameraEv.Lib.NamedEvents
import CameraEv.Application
import CameraEv.Lib.Arrivals
import CameraEv.Live555.RTPInterface
import CameraEv.Live555.TcpItems
import CameraEv.Live555.TcpFraming
import CameraEv.Live555.RtpOverTcp
import CameraEv.Live555.SpropParameterSets
import CameraEv.Live555.VideoFrames
import CameraEv.Live555.RtpMemory
import CameraEv.Live555.H264Aggregation
