import CameraEv.Lib.Arrivals
import CameraEv.Lib.BigEndian

/-!
# `RTPInterface`: packets out of the RTSP connection

With RTP over TCP the packets of all the channels come in between the bytes of the
RTSP answers: a `$`, the channel, two bytes of size and the packet. The socket is
read a byte at a time up to the packet, and whoever has the channel reads the packet,
as far as it has arrived.

The socket is what its reads find (`Arrivals`). That it is closed or fails, and that
channels are registered or given up while it is read, are left out.
-/

namespace CameraEv

open Arrivals

/-- `fOwner`, with what it has read of a packet. -/
inductive Medium where
  /-- A `MultiFramedRTPSource` and its `fPacketReadInProgress`. -/
  | rtpSource (packetReadInProgress : Option (List UInt8))
  /-- A `RTCPInstance` and the first `fNumBytesAlreadyRead` bytes of its `fInBuf`. -/
  | rtcpInstance (inBuf : List UInt8)

structure RTPInterface where
  nextTCPReadSize : Nat := 0
  /-- `fNextTCPReadStreamSocketNum` is that of the connection. -/
  nextTCPReadStreamSocket : Bool := false
  /-- `fReadHandlerProc` has been set. -/
  readHandlerProc : Bool
  owner : Medium

namespace RTPInterface

def MAX_PACKET_SIZE : Nat := 65536

def maxRTCPPacketSize : Nat := 1456

/-- What `handleRead` returns: `readSuccess`, the bytes, and `packetReadWasIncomplete`. -/
structure HandleRead where
  readSuccess : Bool
  bytes : List UInt8
  packetReadWasIncomplete : Bool

def totBytesToRead (r : RTPInterface) (bufferMaxSize : Nat) : Nat :=
  if bufferMaxSize < r.nextTCPReadSize then bufferMaxSize else r.nextTCPReadSize

def handleRead (r : RTPInterface) (bufferMaxSize : Nat) (socket : List (List UInt8)) :
    HandleRead × RTPInterface × List (List UInt8) :=
  if !r.nextTCPReadStreamSocket then
    -- the datagram socket was closed by `setStreamSocket`
    (⟨false, [], false⟩, r, socket)
  else
    let (bytes, socket) := readUpTo (r.totBytesToRead bufferMaxSize) socket
    let nextTCPReadSize := r.nextTCPReadSize - bytes.length
    if nextTCPReadSize = 0 then
      (⟨true, bytes, false⟩, { r with nextTCPReadSize, nextTCPReadStreamSocket := false }, socket)
    else (⟨true, bytes, true⟩, { r with nextTCPReadSize }, socket)

/-- `MultiFramedRTPSource::networkReadHandler1` up to the packet, and `BufferedPacket::fillInData`. -/
def networkReadHandler (r : RTPInterface) (packetReadInProgress : Option (List UInt8)) (socket : List (List UInt8)) :
    Option (List UInt8) × RTPInterface × List (List UInt8) :=
  let buf := packetReadInProgress.getD []
  let maxBytesToRead := MAX_PACKET_SIZE - buf.length
  if maxBytesToRead = 0 then (none, { r with owner := .rtpSource none }, socket)
  else
    let (result, r, socket) := r.handleRead maxBytesToRead socket
    if !result.readSuccess then (none, { r with owner := .rtpSource none }, socket)
    else if result.packetReadWasIncomplete then
      (none, { r with owner := .rtpSource (some (buf ++ result.bytes)) }, socket)
    else (some (buf ++ result.bytes), { r with owner := .rtpSource none }, socket)

/-- `RTCPInstance::incomingReportHandler1` up to the packet. -/
def incomingReportHandler (r : RTPInterface) (inBuf : List UInt8) (socket : List (List UInt8)) :
    Option (List UInt8) × RTPInterface × List (List UInt8) :=
  if maxRTCPPacketSize ≤ inBuf.length then (none, r, socket)
  else
    let (result, r, socket) := r.handleRead (maxRTCPPacketSize - inBuf.length) socket
    if result.packetReadWasIncomplete then (none, { r with owner := .rtcpInstance (inBuf ++ result.bytes) }, socket)
    else if !result.readSuccess then (none, { r with owner := .rtcpInstance [] }, socket)
    else (some (inBuf ++ result.bytes), { r with owner := .rtcpInstance [] }, socket)

/-- `fReadHandlerProc(fOwner, mask)`. -/
def callReadHandler (r : RTPInterface) (socket : List (List UInt8)) :
    Option (List UInt8) × RTPInterface × List (List UInt8) :=
  match r.owner with
  | .rtpSource packetReadInProgress => r.networkReadHandler packetReadInProgress socket
  | .rtcpInstance inBuf => r.incomingReportHandler inBuf socket

end RTPInterface

/-- `fTCPReadingState`. -/
inductive TCPReadingState where
  | AWAITING_DOLLAR
  | AWAITING_STREAM_CHANNEL_ID
  | AWAITING_SIZE1
  | AWAITING_SIZE2
  | AWAITING_PACKET_DATA
  deriving DecidableEq

/-- What is passed on. -/
inductive Passed where
  /-- To the handler of RTSP bytes. -/
  | requestByte (c : UInt8)
  /-- A packet to whoever has the channel. -/
  | packet (streamChannelId : UInt8) (packet : List UInt8)
  deriving DecidableEq

structure SocketDescriptor where
  tcpReadingState : TCPReadingState := .AWAITING_DOLLAR
  streamChannelId : UInt8 := 0
  sizeByte1 : UInt8 := 0
  /-- `fSubChannelHashTable`. -/
  subChannel : UInt8 → Option RTPInterface
  /-- What the reads of the socket find. -/
  socket : List (List UInt8)
  passed : List Passed := []

namespace SocketDescriptor

def setChannel (d : SocketDescriptor) (streamChannelId : UInt8) (r : RTPInterface) : SocketDescriptor :=
  { d with subChannel := Function.update d.subChannel streamChannelId (some r) }

/-- The byte that has been read, outside a packet. -/
def readByte (d : SocketDescriptor) (c : UInt8) : SocketDescriptor :=
  match d.tcpReadingState with
  | .AWAITING_DOLLAR =>
    if c = 36 then { d with tcpReadingState := .AWAITING_STREAM_CHANNEL_ID }
    else if c ≠ 0xFF ∧ c ≠ 0xFE then { d with passed := d.passed ++ [.requestByte c] }
    else d
  | .AWAITING_STREAM_CHANNEL_ID =>
    match d.subChannel c with
    | some _ => { d with streamChannelId := c, tcpReadingState := .AWAITING_SIZE1 }
    | none => { d with tcpReadingState := .AWAITING_DOLLAR }
  | .AWAITING_SIZE1 => { d with sizeByte1 := c, tcpReadingState := .AWAITING_SIZE2 }
  | .AWAITING_SIZE2 =>
    let size := d.sizeByte1.toNat * 2 ^ 8 + c.toNat
    let d := match d.subChannel d.streamChannelId with
      | some r => d.setChannel d.streamChannelId { r with nextTCPReadSize := size, nextTCPReadStreamSocket := true }
      | none => d
    { d with tcpReadingState := .AWAITING_PACKET_DATA }
  | .AWAITING_PACKET_DATA => d

/-- The case `AWAITING_PACKET_DATA`, with `callAgain`. -/
def readPacketData (d : SocketDescriptor) : Bool × SocketDescriptor :=
  match d.subChannel d.streamChannelId with
  | some r =>
    if r.nextTCPReadSize = 0 then (false, { d with tcpReadingState := .AWAITING_DOLLAR })
    else if r.readHandlerProc then
      let (packet, r, socket) := r.callReadHandler d.socket
      (false, { d.setChannel d.streamChannelId r with
        socket, passed := d.passed ++ packet.toList.map (.packet d.streamChannelId) })
    else
      match read 1 d.socket with
      | (_ :: _, socket) =>
        (true, { d.setChannel d.streamChannelId { r with nextTCPReadSize := r.nextTCPReadSize - 1 } with socket })
      | ([], socket) => (false, { d with socket })
  | none => (false, { d with tcpReadingState := .AWAITING_DOLLAR })

def tcpReadHandler1 (d : SocketDescriptor) : Bool × SocketDescriptor :=
  if d.tcpReadingState = .AWAITING_PACKET_DATA then d.readPacketData
  else
    match read 1 d.socket with
    | (c :: _, socket) => (true, { d with socket }.readByte c)
    | ([], socket) => (false, { d with socket })

/-- `count` more calls, as long as the handler asks for one. -/
def callAgain : Nat → SocketDescriptor → SocketDescriptor
  | 0, d => d
  | count + 1, d =>
    let (again, d) := d.tcpReadHandler1
    if again then callAgain count d else d

def tcpReadHandler (d : SocketDescriptor) : SocketDescriptor := callAgain 2000 d

end SocketDescriptor

end CameraEv
