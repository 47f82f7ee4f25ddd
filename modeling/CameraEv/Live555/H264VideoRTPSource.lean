import CameraEv.Lib.Trace
import CameraEv.Live555.ReorderingPacketBuffer
import CameraEv.Live555.RtpHeader

/-!
# `H264VideoRTPSource`: NAL units out of RTP packets

`MultiFramedRTPSource` with the two functions that `H264VideoRTPSource` and its
packets override. A datagram is checked, stored in the reordering buffer, and the
packets that are due are taken apart into the client's buffer until a NAL unit is
complete. The client then takes it and asks for the next one, at once when no
packet is waiting and from the event loop otherwise.

The clock is read once for each event. The presentation time is what the reception
statistics make of the packet, and is an input here, as are the bytes that the
memory of a packet holds behind those that were received. Reads over TCP that end
inside a packet are left out.
-/

namespace CameraEv

open Exec SerialNumber

namespace BufferedPacket

variable {σ : Type}

def dataSize (p : BufferedPacket σ) : Nat := p.tail - p.head

def data (p : BufferedPacket σ) : List UInt8 := (p.buf.drop p.head).take p.dataSize

def hasUsableData (p : BufferedPacket σ) : Bool := p.head < p.tail

def skip (p : BufferedPacket σ) (numBytes : Nat) : BufferedPacket σ :=
  { p with head := if p.tail < p.head + numBytes then p.tail else p.head + numBytes }

/-- `H264BufferedPacket::nextEnclosedFrameSize`: how far `framePtr` is moved, and the size. -/
def nextEnclosedFrameSize (curPacketNALUnitType : UInt8) (data : List UInt8) : Nat × Nat :=
  let nalu (header : Nat) : Nat × Nat := match data with
    | first :: second :: _ =>
      if data.length < header then (0, 0)
      else
        let resultNALUSize := first.toNat * 2 ^ 8 + second.toNat
        (header, if resultNALUSize ≤ data.length then resultNALUSize else data.length)
    | _ => (0, 0)
  if curPacketNALUnitType = 24 ∨ curPacketNALUnitType = 25 then nalu 2
  else if curPacketNALUnitType = 26 then nalu 5
  else if curPacketNALUnitType = 27 then nalu 6
  else (0, data.length)

/-- The bytes that are copied, `bytesTruncated`, and the packet without the frame. -/
def use (p : BufferedPacket σ) (curPacketNALUnitType : UInt8) (toSize bytesTruncated : Nat) :
    Exec (List UInt8 × Nat × BufferedPacket σ) := do
  let (offset, frameSize) := nextEnclosedFrameSize curPacketNALUnitType p.data
  let bytes ← load p.buf (p.head + offset) (if toSize < frameSize then toSize else frameSize)
  let bytesTruncated := if toSize < frameSize then bytesTruncated + (frameSize - toSize) else 0
  return (bytes, bytesTruncated, { p with head := p.head + offset + frameSize, useCount := p.useCount + 1 })

end BufferedPacket

/-- What the client's `afterGettingFunc` is called with, and the marker bit that it asks for. -/
structure Delivered where
  frame : List UInt8
  numTruncatedBytes : Nat
  presentationTime : Timeval
  curPacketMarkerBit : Bool
  deriving DecidableEq

/-- `frame` are the `fFrameSize` bytes from `fSavedTo` on. `delivered` and `released` record the calls of the client and
the packets that were taken off the reordering buffer. -/
structure H264VideoRTPSource (σ : Type) where
  reorderingBuffer : ReorderingPacketBuffer σ
  lastReceivedSSRC : Nat := 0
  currentPacketBeginsFrame : Bool := true
  currentPacketCompletesFrame : Bool := true
  needDelivery : Bool := false
  packetLossInFragmentedFrame : Bool := false
  savedMaxSize : Nat := 0
  frame : List UInt8 := []
  maxSize : Nat := 0
  numTruncatedBytes : Nat := 0
  curPacketNALUnitType : UInt8 := 0
  presentationTime : Timeval := ⟨0, 0⟩
  curPacketMarkerBit : Bool := false
  /-- `nextTask()`: the client is going to be called from the event loop. -/
  scheduled : Bool := false
  delivered : List Delivered := []
  released : List σ := []

namespace H264VideoRTPSource

section Code

variable {σ : Type}

/-- The result, and the packet behind its special header, which for the first fragment is the header of the NAL unit. -/
def processSpecialHeader (s : H264VideoRTPSource σ) (p : BufferedPacket σ) :
    Bool × H264VideoRTPSource σ × BufferedPacket σ :=
  match p.data with
  | [] => (false, s, p)
  | first :: rest =>
    let unitType := first &&& 0x1F
    let s := { s with curPacketNALUnitType := unitType }
    if unitType = 24 then (true, s, p.skip 1)
    else if unitType = 25 ∨ unitType = 26 ∨ unitType = 27 then (true, s, p.skip 3)
    else if unitType = 28 ∨ unitType = 29 then match rest with
      | [] => (false, s, p)
      | second :: _ =>
        let s := { s with currentPacketCompletesFrame := second &&& 0x40 ≠ 0 }
        if second &&& 0x80 ≠ 0 then
          let buf := p.buf.set (p.head + 1) ((first &&& 0xE0) ||| (second &&& 0x1F))
          (true, { s with currentPacketBeginsFrame := true }, { p with buf }.skip 1)
        else (true, { s with currentPacketBeginsFrame := false }, p.skip 2)
    else (true, { s with currentPacketBeginsFrame := true, currentPacketCompletesFrame := true }, p)

/-- `fTo = fSavedTo; fMaxSize = fSavedMaxSize; fFrameSize = 0`. -/
def forget (s : H264VideoRTPSource σ) : H264VideoRTPSource σ := { s with frame := [], maxSize := s.savedMaxSize }

/-- The part of `doGetNextFrame1` that keeps incomplete frames from the client. -/
def noteLoss (s : H264VideoRTPSource σ) (packetLossPrecededThis : Bool) : H264VideoRTPSource σ :=
  if s.currentPacketBeginsFrame then
    let s := if packetLossPrecededThis ∨ s.packetLossInFragmentedFrame then s.forget else s
    { s with packetLossInFragmentedFrame := false }
  else if packetLossPrecededThis then { s with packetLossInFragmentedFrame := true }
  else s

/-- What `use` leaves in the source's members. -/
def took (s : H264VideoRTPSource σ) (p : BufferedPacket σ) (bytes : List UInt8) (numTruncatedBytes : Nat) :
    H264VideoRTPSource σ :=
  { s with
    frame := s.frame ++ bytes, numTruncatedBytes, presentationTime := p.presentationTime
    curPacketMarkerBit := p.rtpMarkerBit }

variable (N : Counters σ)

def releaseUsedPacket (s : H264VideoRTPSource σ) (p : BufferedPacket σ) : H264VideoRTPSource σ :=
  { s with reorderingBuffer := s.reorderingBuffer.releaseUsedPacket N, released := s.released ++ [p.rtpSeqNo] }

/-- The packet at the head stays until its data are used up. -/
def putBack (s : H264VideoRTPSource σ) (p : BufferedPacket σ) : H264VideoRTPSource σ :=
  if p.hasUsableData then
    let packets := p :: s.reorderingBuffer.packets.tail
    { s with reorderingBuffer := { s.reorderingBuffer with packets } }
  else s.releaseUsedPacket N p

/-- `FramedSource::getNextFrame` and `doGetNextFrame`, up to `doGetNextFrame1`; `client` is the size of the buffer. -/
def getNextFrame (s : H264VideoRTPSource σ) (client : Nat) : H264VideoRTPSource σ :=
  { s with savedMaxSize := client, maxSize := client, frame := [], numTruncatedBytes := 0, needDelivery := true }

/-- `FramedSource::afterGetting`: the client takes the frame and asks for the next one. -/
def afterGetting (s : H264VideoRTPSource σ) (client : Nat) : H264VideoRTPSource σ :=
  let taken : Delivered := ⟨s.frame, s.numTruncatedBytes, s.presentationTime, s.curPacketMarkerBit⟩
  { s with scheduled := false, delivered := s.delivered ++ [taken] }.getNextFrame client

/-- `doGetNextFrame1` behind `use`. -/
def complete (s : H264VideoRTPSource σ) (client bytesUsed : Nat) : H264VideoRTPSource σ :=
  if s.currentPacketCompletesFrame ∧ 0 < s.frame.length then
    if s.reorderingBuffer.packets.isEmpty then s.afterGetting client else { s with scheduled := true }
  else { s with maxSize := s.maxSize - bytesUsed, needDelivery := true }

/-- A round of the loop of `doGetNextFrame1` behind the special header. -/
def usePacket (s : H264VideoRTPSource σ) (client : Nat) (p : BufferedPacket σ) (packetLossPrecededThis : Bool) :
    Exec (H264VideoRTPSource σ) :=
  let s := s.noteLoss packetLossPrecededThis
  if s.packetLossInFragmentedFrame then return { s.releaseUsedPacket N p with needDelivery := true }
  else do
    let (bytes, numTruncatedBytes, q) ← p.use s.curPacketNALUnitType s.maxSize s.numTruncatedBytes
    return ((s.took p bytes numTruncatedBytes).putBack N q).complete client bytes.length

/-- A round of the loop of `doGetNextFrame1`, for the packet at the head. -/
def round (client : Nat) (s : H264VideoRTPSource σ) (p : BufferedPacket σ) (packetLossPrecededThis : Bool) :
    Exec (H264VideoRTPSource σ) :=
  let s := { s with needDelivery := false }
  if p.useCount = 0 then match s.processSpecialHeader p with
    | (true, s, p) => s.usePacket N client p packetLossPrecededThis
    | (false, s, p) => return { s.releaseUsedPacket N p with needDelivery := true }
  else s.usePacket N client p packetLossPrecededThis

variable [DecidableEq σ]

def doGetNextFrame1 (client : Nat) : Nat → H264VideoRTPSource σ → Int → Exec (H264VideoRTPSource σ)
  | 0, _, _ => throw .fuel
  | fuel + 1, s, timeNow =>
    if s.needDelivery then
      match s.reorderingBuffer.getNextCompletedPacket timeNow with
      | none => return s
      | some ((p, packetLossPrecededThis), reorderingBuffer) => do
        let s ← round N client { s with reorderingBuffer } p packetLossPrecededThis
        doGetNextFrame1 client fuel s timeNow
    else return s

/-- The packets of another SSRC are counted anew. -/
def noteSSRC (s : H264VideoRTPSource σ) (rtpSSRC : Nat) : H264VideoRTPSource σ :=
  if rtpSSRC ≠ s.lastReceivedSSRC then { s with
      lastReceivedSSRC := rtpSSRC, reorderingBuffer := { s.reorderingBuffer with haveSeenFirstPacket := false } }
  else s

/-- `networkReadHandler1` behind the checks of the RTP header. -/
def received (client fuel : Nat) (s : H264VideoRTPSource σ) (rtpSSRC : Nat) (p : BufferedPacket σ) (timeNow : Int) :
    Exec (H264VideoRTPSource σ) := do
  let s := s.noteSSRC rtpSSRC
  let (_, reorderingBuffer) ← s.reorderingBuffer.storePacket N p
  doGetNextFrame1 N client fuel { s with reorderingBuffer } timeNow

/-- The delayed task, if there is one. -/
def runTask (client fuel : Nat) (s : H264VideoRTPSource σ) (timeNow : Int) : Exec (H264VideoRTPSource σ) :=
  if s.scheduled then doGetNextFrame1 N client fuel (s.afterGetting client) timeNow else return s

end Code

/-! ## The event loop -/

/-- What happens to the source. -/
inductive Input where
  /-- `data` is received, with `behind` in the rest of the packet's memory. -/
  | datagram (data behind : List UInt8) (presentationTime : Timeval) (timeReceived timeNow : Int)
  /-- The event loop gets to the delayed task. -/
  | task (timeNow : Int)

def step (rtpPayloadFormat client fuel : Nat) (s : H264VideoRTPSource UInt16) :
    Input → Option (H264VideoRTPSource UInt16)
  | .datagram data behind presentationTime timeReceived timeNow => match readHeader rtpPayloadFormat data with
    | some h => (received rtp client fuel s h.rtpSSRC
        { buf := data ++ behind, head := h.head, tail := h.tail, rtpSeqNo := h.rtpSeqNo, presentationTime
          rtpMarkerBit := h.rtpMarkerBit, timeReceived } timeNow).toOption
    | none => (doGetNextFrame1 rtp client fuel s timeNow).toOption
  | .task timeNow => (runTask rtp client fuel s timeNow).toOption

/-- A new source behind `setPacketReorderingThresholdTime`, whose client has asked for its first frame. -/
def playing {σ : Type} (thresholdTime client : Nat) (nextExpectedSeqNo : σ) : H264VideoRTPSource σ :=
  getNextFrame { reorderingBuffer := { thresholdTime, nextExpectedSeqNo } } client

end H264VideoRTPSource

end CameraEv
