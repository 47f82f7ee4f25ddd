import CameraEv.Network.PacketDefine

/-!
# The packet types: `PacketStruct` and its six classes

Each class keeps its own `writer` and `reader`, with the keys in the source's
order. `PacketStruct` is the object behind the base pointer: its constructor is
the dynamic type. The base class's `type` member is left out, nothing reads it.
-/

namespace CameraEv

open Exec CPacketDefine

/-- `PACKEK_TYPE`. -/
inductive PacketType where
  | none
  | frame
  | processInfoReq
  | processInfo
  | streamInfo
  | streamRequest
  | streamStatus
  deriving DecidableEq, Repr

/-! ## `Packet_Frame` -/

/-- `frameBuffer` is the memory that `frame_buffer` points to, empty for a null pointer. -/
structure PacketFrame where
  cameraGuid : List UInt8 := []
  streamIndex : Int32 := 0
  orderNum : Int32 := 0
  streamWidth : Int32 := 0
  streamHeight : Int32 := 0
  frameType : Int32 := 0
  framePixelFormat : Int32 := 0
  frameWidth : Int32 := 0
  frameHeight : Int32 := 0
  vcodecId : Int32 := 0
  frameBuffer : List UInt8 := []
  frameBufferLen : Int32 := 0
  deriving DecidableEq

namespace PacketFrame

def packetTypeStr : List UInt8 := ascii "PACKEK_TYPE_FRAME"

def writer (p : PacketFrame) (w : CPacketWriter) : Exec (Nat × CPacketWriter) := do
  let (_, w) ← w.start packetTypeStr
  let (_, w) ← w.writeString (ascii "GUID") p.cameraGuid
  let (_, w) ← w.writeInt32 (ascii "StreamIndex") p.streamIndex
  let (_, w) ← w.writeInt32 (ascii "OrderNum") p.orderNum
  let (_, w) ← w.writeInt32 (ascii "SWidth") p.streamWidth
  let (_, w) ← w.writeInt32 (ascii "SHeight") p.streamHeight
  let (_, w) ← w.writeInt32 (ascii "FrameType") p.frameType
  let (_, w) ← w.writeInt32 (ascii "FPixelFormat") p.framePixelFormat
  let (_, w) ← w.writeInt32 (ascii "FWidth") p.frameWidth
  let (_, w) ← w.writeInt32 (ascii "FHeight") p.frameHeight
  let (_, w) ← w.writeInt32 (ascii "VCodecId") p.vcodecId
  let (_, w) ← w.writeData (ascii "FrameData") p.frameBuffer p.frameBufferLen.toInt
  let (_, w) ← w.end'
  return (0, w)

def reader (p : PacketFrame) (r : CPacketReader) : Exec (Nat × PacketFrame) := do
  let (_, cameraGuid) ← r.readString (ascii "GUID") p.cameraGuid
  let (_, streamIndex) ← r.readInt32 (ascii "StreamIndex") p.streamIndex
  let (_, orderNum) ← r.readInt32 (ascii "OrderNum") p.orderNum
  let (_, streamWidth) ← r.readInt32 (ascii "SWidth") p.streamWidth
  let (_, streamHeight) ← r.readInt32 (ascii "SHeight") p.streamHeight
  let (_, frameType) ← r.readInt32 (ascii "FrameType") p.frameType
  let (_, framePixelFormat) ← r.readInt32 (ascii "FPixelFormat") p.framePixelFormat
  let (_, frameWidth) ← r.readInt32 (ascii "FWidth") p.frameWidth
  let (_, frameHeight) ← r.readInt32 (ascii "FHeight") p.frameHeight
  let (_, vcodecId) ← r.readInt32 (ascii "VCodecId") p.vcodecId
  let frameBufferLen := Int32.ofInt (r.readLength (ascii "FrameData"))
  let (_, frameBuffer) := r.readPointer (ascii "FrameData") p.frameBuffer
  return (0, { p with
    cameraGuid, streamIndex, orderNum, streamWidth, streamHeight, frameType, framePixelFormat
    frameWidth, frameHeight, vcodecId, frameBuffer, frameBufferLen })

end PacketFrame

/-! ## `Packet_ProcessInfoReq` -/

structure PacketProcessInfoReq where
  queueName : List UInt8 := []
  syncCount : Int32 := 3
  deriving DecidableEq

namespace PacketProcessInfoReq

def packetTypeStr : List UInt8 := ascii "PACKEK_TYPE_PROCESS_INFO_REQ"

def writer (p : PacketProcessInfoReq) (w : CPacketWriter) : Exec (Nat × CPacketWriter) := do
  let (_, w) ← w.start packetTypeStr
  let (_, w) ← w.writeString (ascii "QueueName") p.queueName
  let (_, w) ← w.writeInt32 (ascii "SyncCount") p.syncCount
  let (_, w) ← w.end'
  return (0, w)

def reader (p : PacketProcessInfoReq) (r : CPacketReader) : Exec (Nat × PacketProcessInfoReq) := do
  let (_, queueName) ← r.readString (ascii "QueueName") p.queueName
  let (_, syncCount) ← r.readInt32 (ascii "SyncCount") p.syncCount
  return (0, { p with queueName, syncCount })

end PacketProcessInfoReq

/-! ## `Packet_ProcessInfo` -/

structure PacketProcessInfo where
  processName : List UInt8 := []
  processId : Int32 := 0
  packetVersion : List UInt8 := []
  deriving DecidableEq

namespace PacketProcessInfo

def packetTypeStr : List UInt8 := ascii "PACKEK_TYPE_PROCESS_INFO"

def writer (p : PacketProcessInfo) (w : CPacketWriter) : Exec (Nat × CPacketWriter) := do
  let (_, w) ← w.start packetTypeStr
  let (_, w) ← w.writeString (ascii "Name") p.processName
  let (_, w) ← w.writeInt32 (ascii "PID") p.processId
  let (_, w) ← w.writeString (ascii "PacketVersion") p.packetVersion
  let (_, w) ← w.end'
  return (0, w)

def reader (p : PacketProcessInfo) (r : CPacketReader) : Exec (Nat × PacketProcessInfo) := do
  let (_, processName) ← r.readString (ascii "Name") p.processName
  let (_, processId) ← r.readInt32 (ascii "PID") p.processId
  let (_, packetVersion) ← r.readString (ascii "PacketVersion") p.packetVersion
  return (0, { p with processName, processId, packetVersion })

end PacketProcessInfo

/-! ## `Packet_StreamInfo` -/

structure PacketStreamInfo where
  setupFile : List UInt8 := []
  deriving DecidableEq

namespace PacketStreamInfo

def packetTypeStr : List UInt8 := ascii "PACKEK_TYPE_STREAM_INFO"

def writer (p : PacketStreamInfo) (w : CPacketWriter) : Exec (Nat × CPacketWriter) := do
  let (_, w) ← w.start packetTypeStr
  let (_, w) ← w.writeString (ascii "SetupFile") p.setupFile
  let (_, w) ← w.end'
  return (0, w)

def reader (p : PacketStreamInfo) (r : CPacketReader) : Exec (Nat × PacketStreamInfo) := do
  let (_, setupFile) ← r.readString (ascii "SetupFile") p.setupFile
  return (0, { p with setupFile })

end PacketStreamInfo

/-! ## `Packet_StreamRequest` -/

structure PacketStreamRequest where
  queueName : List UInt8 := []
  streamIndex : Int32 := 0
  videoStreaming : Bool := true
  frameType : Int32 := 0
  pixelFormat : Int32 := 0
  width : Int32 := 0
  height : Int32 := 0
  deriving DecidableEq

namespace PacketStreamRequest

def packetTypeStr : List UInt8 := ascii "PACKEK_TYPE_STREAM_REQUEST"

def writer (p : PacketStreamRequest) (w : CPacketWriter) : Exec (Nat × CPacketWriter) := do
  let (_, w) ← w.start packetTypeStr
  let (_, w) ← w.writeString (ascii "QueueName") p.queueName
  let (_, w) ← w.writeInt32 (ascii "StreamIndex") p.streamIndex
  let (_, w) ← w.writeBool (ascii "VideoStreaming") p.videoStreaming
  let (_, w) ← w.writeInt32 (ascii "FrameType") p.frameType
  let (_, w) ← w.writeInt32 (ascii "PixelFormat") p.pixelFormat
  let (_, w) ← w.writeInt32 (ascii "Width") p.width
  let (_, w) ← w.writeInt32 (ascii "Height") p.height
  let (_, w) ← w.end'
  return (0, w)

def reader (p : PacketStreamRequest) (r : CPacketReader) : Exec (Nat × PacketStreamRequest) := do
  let (_, queueName) ← r.readString (ascii "QueueName") p.queueName
  let (_, streamIndex) ← r.readInt32 (ascii "StreamIndex") p.streamIndex
  let (_, videoStreaming) ← r.readBool (ascii "VideoStreaming") p.videoStreaming
  let (_, frameType) ← r.readInt32 (ascii "FrameType") p.frameType
  let (_, pixelFormat) ← r.readInt32 (ascii "PixelFormat") p.pixelFormat
  let (_, width) ← r.readInt32 (ascii "Width") p.width
  let (_, height) ← r.readInt32 (ascii "Height") p.height
  return (0, { p with queueName, streamIndex, videoStreaming, frameType, pixelFormat, width, height })

end PacketStreamRequest

/-! ## `Packet_StreamStatus` -/

structure PacketStreamStatus where
  streamIndex : Int32 := 0
  status : Int32 := 0
  deriving DecidableEq

namespace PacketStreamStatus

def packetTypeStr : List UInt8 := ascii "PACKEK_TYPE_STREAM_STATUS"

def writer (p : PacketStreamStatus) (w : CPacketWriter) : Exec (Nat × CPacketWriter) := do
  let (_, w) ← w.start packetTypeStr
  let (_, w) ← w.writeInt32 (ascii "StreamIndex") p.streamIndex
  let (_, w) ← w.writeInt32 (ascii "Status") p.status
  let (_, w) ← w.end'
  return (0, w)

def reader (p : PacketStreamStatus) (r : CPacketReader) : Exec (Nat × PacketStreamStatus) := do
  let (_, streamIndex) ← r.readInt32 (ascii "StreamIndex") p.streamIndex
  let (_, status) ← r.readInt32 (ascii "Status") p.status
  return (0, { p with streamIndex, status })

end PacketStreamStatus

/-! ## `PacketStruct` -/

inductive PacketStruct where
  | frame (p : PacketFrame)
  | processInfoReq (p : PacketProcessInfoReq)
  | processInfo (p : PacketProcessInfo)
  | streamInfo (p : PacketStreamInfo)
  | streamRequest (p : PacketStreamRequest)
  | streamStatus (p : PacketStreamStatus)
  deriving DecidableEq

namespace PacketStruct

def packetType : PacketStruct → PacketType
  | frame _ => .frame
  | processInfoReq _ => .processInfoReq
  | processInfo _ => .processInfo
  | streamInfo _ => .streamInfo
  | streamRequest _ => .streamRequest
  | streamStatus _ => .streamStatus

def packetTypeStr : PacketStruct → List UInt8
  | frame _ => PacketFrame.packetTypeStr
  | processInfoReq _ => PacketProcessInfoReq.packetTypeStr
  | processInfo _ => PacketProcessInfo.packetTypeStr
  | streamInfo _ => PacketStreamInfo.packetTypeStr
  | streamRequest _ => PacketStreamRequest.packetTypeStr
  | streamStatus _ => PacketStreamStatus.packetTypeStr

def writer (w : CPacketWriter) : PacketStruct → Exec (Nat × CPacketWriter)
  | frame p => p.writer w
  | processInfoReq p => p.writer w
  | processInfo p => p.writer w
  | streamInfo p => p.writer w
  | streamRequest p => p.writer w
  | streamStatus p => p.writer w

def reader (r : CPacketReader) : PacketStruct → Exec (Nat × PacketStruct)
  | frame p => do let (ret, p) ← p.reader r; return (ret, frame p)
  | processInfoReq p => do let (ret, p) ← p.reader r; return (ret, processInfoReq p)
  | processInfo p => do let (ret, p) ← p.reader r; return (ret, processInfo p)
  | streamInfo p => do let (ret, p) ← p.reader r; return (ret, streamInfo p)
  | streamRequest p => do let (ret, p) ← p.reader r; return (ret, streamRequest p)
  | streamStatus p => do let (ret, p) ← p.reader r; return (ret, streamStatus p)

/-- `CreateFactory(const std::string& name)`. -/
def createFactory (name : List UInt8) : Option PacketStruct :=
  if ascii "PACKEK_TYPE_FRAME" = name then some (frame {})
  else if ascii "PACKEK_TYPE_PROCESS_INFO_REQ" = name then some (processInfoReq {})
  else if ascii "PACKEK_TYPE_PROCESS_INFO" = name then some (processInfo {})
  else if ascii "PACKEK_TYPE_STREAM_INFO" = name then some (streamInfo {})
  else if ascii "PACKEK_TYPE_STREAM_REQUEST" = name then some (streamRequest {})
  else if ascii "PACKEK_TYPE_STREAM_STATUS" = name then some (streamStatus {})
  else none

/-- `CreateFactory(PACKEK_TYPE type)`. -/
def createFactoryOfType : PacketType → Option PacketStruct
  | .frame => some (frame {})
  | .processInfoReq => some (processInfoReq {})
  | .processInfo => some (processInfo {})
  | .streamInfo => some (streamInfo {})
  | .streamRequest => some (streamRequest {})
  | .streamStatus => some (streamStatus {})
  | .none => none

end PacketStruct

end CameraEv
