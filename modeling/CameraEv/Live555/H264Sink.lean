import CameraEv.Decoder.DecoderDefine
import CameraEv.Lib.Words

/-!
# `H264Sink`: access units from NAL units

The source hands over one NAL unit after the other, the last one of an access unit
with the marker bit. The sink appends each to `m_received_buffer`, and at the
marker hands the buffer on as a frame and empties it. An `append` for which there
is no room changes nothing, and nobody asks.

`accessUnits` is the sequence of packets cut at the markers. What the sink delivers
for an access unit depends on that unit alone (`receive_eq`), so that a property of
all frames is one of each access unit.
-/

namespace CameraEv

/-- `g_rtp_packet_buffer_size`. -/
def rtpPacketBufferSize : Nat := 425984

/-- `g_H264StartCode`. -/
def h264StartCode : List UInt8 := [0, 0, 0, 1]

/-! ## `array_ex` -/

/-- The bytes up to `m_len`. -/
structure ArrayEx (N : Nat) where
  bytes : List UInt8
  room : bytes.length ≤ N

namespace ArrayEx

variable {N : Nat}

def clear : ArrayEx N := ⟨[], Nat.zero_le N⟩

def len (a : ArrayEx N) : Nat := a.bytes.length

theorem room_append {a b : List UInt8} (h : ¬ N < a.length + b.length) : (a ++ b).length ≤ N := by
  rw [List.length_append]
  exact not_lt.1 h

/-- The result and the array. -/
def append (a : ArrayEx N) (buffer : List UInt8) : Nat × ArrayEx N :=
  if h : N < a.len + buffer.length then (0, a)
  else (a.len + buffer.length, ⟨a.bytes ++ buffer, room_append h⟩)

theorem append_of_fits {a : ArrayEx N} {buffer : List UInt8} (fits : a.len + buffer.length ≤ N) :
    (a.append buffer).2.bytes = a.bytes ++ buffer := by
  unfold append
  rw [dif_neg (not_lt.2 fits)]

end ArrayEx

/-! ## The sink -/

/-- A NAL unit, with its header byte and no longer than the buffer of the sink. -/
structure Nal where
  bytes : List UInt8
  nonempty : bytes ≠ []
  small : bytes.length ≤ rtpPacketBufferSize

/-- `nal_unit_type`. -/
def Nal.unitType (nal : Nal) : UInt8 := nal.bytes.head nal.nonempty &&& 0x1F

structure SessionVideoFrame where
  codecId : Int32 := 0
  sBufSize : Int32 := 0
  sBuffer : List UInt8 := []
  keyFrame : Bool := false
  timestamp : Timeval
  deriving DecidableEq

/-- `callback` is whether there are a session and its `callback_video_frame_received`. -/
structure H264Sink where
  headerBuffer : ArrayEx 1024
  rtpPacketBuffer : List UInt8
  receivedBuffer : ArrayEx (rtpPacketBufferSize + 32)
  callback : Bool

namespace H264Sink

/-- The body of the loop of `setSpropRecords`. -/
def appendRecord (header : ArrayEx 1024) (record : List UInt8) : ArrayEx 1024 :=
  match record with
  | [] => header
  | first :: _ =>
    if first &&& 0x1F = 7 ∨ first &&& 0x1F = 8 then ((header.append h264StartCode).2.append record).2 else header

/-- The records of the session description, if it has any; the result is whether there is a header. -/
def setSpropRecords (records : Option (List (List UInt8))) : Bool × ArrayEx 1024 :=
  let header := match records with
    | none => .clear
    | some records => records.foldl appendRecord .clear
  (0 < header.len, header)

/-- The first byte of `m_rtp_packet_buffer`; the packet that is passed is not looked at. -/
def isKeyFrame (s : H264Sink) : Bool := s.rtpPacketBuffer.headD 0 &&& 0x1F = 5

def appendPacket (s : H264Sink) (data : List UInt8) : H264Sink :=
  { s with receivedBuffer := (s.receivedBuffer.append data).2 }

def appendH264HeaderPacket (s : H264Sink) : H264Sink := s.appendPacket s.headerBuffer.bytes

def appendH264BodyPacket (s : H264Sink) (recvPacketSize : Nat) : H264Sink :=
  (s.appendPacket h264StartCode).appendPacket (s.rtpPacketBuffer.take recvPacketSize)

/-- What `getNextFrame` does when a packet has come: its bytes are at the start of the buffer. -/
def getNextFrame (s : H264Sink) (packet : List UInt8) : H264Sink :=
  { s with rtpPacketBuffer := packet ++ s.rtpPacketBuffer.drop packet.length }

/-- `curPacketMarkerBit` is nothing when there is no RTP source. -/
def afterGettingFrame (s : H264Sink) (recvPacketSize : Nat) (curPacketMarkerBit : Option Bool) (presentationTime : Timeval) :
    Option SessionVideoFrame × H264Sink :=
  let keyFrame := s.isKeyFrame
  match curPacketMarkerBit with
  | none => (none, s)
  | some isPacketFinished =>
    let s := if isPacketFinished then s.appendH264HeaderPacket else s
    let s := s.appendH264BodyPacket recvPacketSize
    if isPacketFinished then
      let videoFrame : SessionVideoFrame := {
        keyFrame, codecId := vcodecIdH264, sBuffer := s.receivedBuffer.bytes,
        sBufSize := Int32.ofNat s.receivedBuffer.len, timestamp := presentationTime }
      (if s.callback then some videoFrame else none, { s with receivedBuffer := .clear })
    else (none, s)

/-- A NAL unit as the source hands it over. -/
structure Packet where
  nal : Nal
  marker : Bool
  presentationTime : Timeval

def receivePacket (s : H264Sink) (p : Packet) : Option SessionVideoFrame × H264Sink :=
  (s.getNextFrame p.nal.bytes).afterGettingFrame p.nal.bytes.length (some p.marker) p.presentationTime

/-- The frames that are delivered, and the sink. -/
def receive (s : H264Sink) : List Packet → List SessionVideoFrame × H264Sink
  | [] => ([], s)
  | p :: ps => ((s.receivePacket p).1.toList ++ ((s.receivePacket p).2.receive ps).1, ((s.receivePacket p).2.receive ps).2)

/-- A sink with its header, whatever is in the memory of `m_rtp_packet_buffer`. -/
def start (header : ArrayEx 1024) (memory : List UInt8) : H264Sink where
  headerBuffer := header
  rtpPacketBuffer := memory
  receivedBuffer := .clear
  callback := true

/-! ## Access units -/

/-- The NAL units from one marker to the next. -/
structure AccessUnit where
  earlier : List Nal
  marked : Nal
  presentationTime : Timeval

def AccessUnit.units (au : AccessUnit) : List Nal := au.earlier ++ [au.marked]

/-- The packets cut at the markers, behind the units that have come before. -/
def accessUnits (earlier : List Nal) : List Packet → List AccessUnit
  | [] => []
  | p :: ps =>
    if p.marker then ⟨earlier, p.nal, p.presentationTime⟩ :: accessUnits [] ps else accessUnits (earlier ++ [p.nal]) ps

/-- Start code and NAL unit, one after the other. -/
def annexB (units : List Nal) : List UInt8 := units.flatMap fun nal => h264StartCode ++ nal.bytes

theorem length_accessUnits (earlier : List Nal) (ps : List Packet) :
    (accessUnits earlier ps).length = ps.countP fun p => p.marker := by
  induction ps generalizing earlier with
  | nil => rfl
  | cons p ps ih =>
    simp only [accessUnits, List.countP_cons]
    split
    · rw [List.length_cons, ih]
    · rw [ih, Nat.add_zero]

/-- What the sink appends for a NAL unit. -/
def appendNal (a : ArrayEx (rtpPacketBufferSize + 32)) (nal : Nal) : ArrayEx (rtpPacketBufferSize + 32) :=
  ((a.append h264StartCode).2.append nal.bytes).2

/-- What is in `m_received_buffer` before the marker. -/
def pending (earlier : List Nal) : ArrayEx (rtpPacketBufferSize + 32) := earlier.foldl appendNal .clear

/-- What is in `m_received_buffer` at the marker: the header comes before the last NAL unit. -/
def assembled (header : ArrayEx 1024) (au : AccessUnit) : ArrayEx (rtpPacketBufferSize + 32) :=
  appendNal ((pending au.earlier).append header.bytes).2 au.marked

/-- The frame that is delivered for an access unit. -/
def delivered (header : ArrayEx 1024) (au : AccessUnit) : SessionVideoFrame where
  codecId := vcodecIdH264
  sBufSize := Int32.ofNat (assembled header au).len
  sBuffer := (assembled header au).bytes
  keyFrame := au.marked.unitType = 5
  timestamp := au.presentationTime

section Receive

variable {s : H264Sink} {p : Packet} {earlier : List Nal} {ps : List Packet}

theorem isKeyFrame_getNextFrame (s : H264Sink) (nal : Nal) :
    (s.getNextFrame nal.bytes).isKeyFrame = decide (nal.unitType = 5) := by
  obtain ⟨bytes, nonempty, small⟩ := nal
  cases bytes with
  | nil => exact absurd rfl nonempty
  | cons first rest => rfl

theorem appendH264BodyPacket_eq (s : H264Sink) (nal : Nal) :
    (s.getNextFrame nal.bytes).appendH264BodyPacket nal.bytes.length =
      { s.getNextFrame nal.bytes with receivedBuffer := appendNal s.receivedBuffer nal } := by
  have packet : (nal.bytes ++ s.rtpPacketBuffer.drop nal.bytes.length).take nal.bytes.length = nal.bytes :=
    List.take_left' rfl
  simp only [appendH264BodyPacket, appendPacket, getNextFrame, packet, appendNal]

/-- A packet in the middle of an access unit. -/
theorem receivePacket_unmarked (unmarked : p.marker = false) :
    s.receivePacket p =
      (none, { s.getNextFrame p.nal.bytes with receivedBuffer := appendNal s.receivedBuffer p.nal }) := by
  simp only [receivePacket, afterGettingFrame, unmarked, Bool.false_eq_true, if_false, appendH264BodyPacket_eq]

/-- The packet that ends an access unit. -/
theorem receivePacket_marked (marked : p.marker = true) (listens : s.callback = true)
    (received : s.receivedBuffer = pending earlier) :
    s.receivePacket p = (some (delivered s.headerBuffer ⟨earlier, p.nal, p.presentationTime⟩),
      { s.getNextFrame p.nal.bytes with receivedBuffer := .clear }) := by
  have header : (s.getNextFrame p.nal.bytes).appendH264HeaderPacket =
      { s with receivedBuffer := (s.receivedBuffer.append s.headerBuffer.bytes).2 }.getNextFrame p.nal.bytes := rfl
  have callback : (s.getNextFrame p.nal.bytes).callback = true := listens
  simp only [receivePacket, afterGettingFrame, marked, if_true, header, appendH264BodyPacket_eq, received]
  rw [isKeyFrame_getNextFrame]
  simp only [getNextFrame, listens, if_true]
  rfl

/-- **What the sink delivers**: for each access unit its frame, whatever came before it. -/
theorem receive_eq (listens : s.callback = true) (received : s.receivedBuffer = pending earlier) :
    (s.receive ps).1 = (accessUnits earlier ps).map (delivered s.headerBuffer) := by
  induction ps generalizing s earlier with
  | nil => rfl
  | cons p ps ih =>
    cases marked : p.marker with
    | true =>
      simp only [receive, receivePacket_marked marked listens received, accessUnits, marked, if_true, List.map_cons]
      exact congrArg _ (ih listens rfl)
    | false =>
      simp only [receive, receivePacket_unmarked marked, accessUnits, marked, Bool.false_eq_true, if_false]
      refine @ih _ (earlier ++ [p.nal]) listens ?_
      show appendNal s.receivedBuffer p.nal = _
      rw [received, pending, pending, List.foldl_append]
      rfl

/-- A property of every frame with its access unit is one of every access unit. -/
theorem forall_delivered (header : ArrayEx 1024) (memory : List UInt8) (ps : List Packet)
    (R : AccessUnit → SessionVideoFrame → Prop) :
    List.Forall₂ R (accessUnits [] ps) ((start header memory).receive ps).1 ↔
      ∀ au ∈ accessUnits [] ps, R au (delivered header au) := by
  rw [@receive_eq (start header memory) [] ps rfl rfl, List.forall₂_map_right_iff, List.forall₂_same]
  rfl

end Receive

/-! ## Access units that fit -/

/-- The capacity of `m_received_buffer`. -/
def capacity : Nat := rtpPacketBufferSize + 32

/-- The header and the NAL units of an access unit have room in `m_received_buffer`. -/
def Fits (header : ArrayEx 1024) (au : AccessUnit) : Prop := header.len + (annexB au.units).length ≤ capacity

instance (header : ArrayEx 1024) (au : AccessUnit) : Decidable (Fits header au) := Nat.decLe _ _

section Fitting

variable {header : ArrayEx 1024} {au : AccessUnit} {a : ArrayEx (rtpPacketBufferSize + 32)} {nal : Nal} {units : List Nal}

theorem annexB_append (units units' : List Nal) : annexB (units ++ units') = annexB units ++ annexB units' :=
  List.flatMap_append

theorem annexB_singleton (nal : Nal) : annexB [nal] = h264StartCode ++ nal.bytes := List.flatMap_singleton ..

theorem appendNal_of_fits (fits : a.len + (annexB [nal]).length ≤ capacity) :
    (appendNal a nal).bytes = a.bytes ++ annexB [nal] := by
  rw [annexB_singleton, List.length_append] at fits
  have code : (a.append h264StartCode).2.bytes = a.bytes ++ h264StartCode :=
    ArrayEx.append_of_fits (by unfold capacity at fits; omega)
  rw [appendNal, ArrayEx.append_of_fits, code, annexB_singleton, List.append_assoc]
  rw [ArrayEx.len, code, List.length_append]
  unfold capacity ArrayEx.len at fits
  omega

theorem foldl_appendNal_of_fits (fits : a.len + (annexB units).length ≤ capacity) :
    (units.foldl appendNal a).bytes = a.bytes ++ annexB units := by
  induction units generalizing a with
  | nil => exact (List.append_nil _).symm
  | cons nal units ih =>
    have split : annexB (nal :: units) = annexB [nal] ++ annexB units := annexB_append [nal] units
    rw [split, List.length_append] at fits
    have first : (appendNal a nal).bytes = a.bytes ++ annexB [nal] := appendNal_of_fits (by omega)
    rw [List.foldl_cons, ih, first, split, List.append_assoc]
    rw [ArrayEx.len, first, List.length_append]
    unfold ArrayEx.len at fits
    omega

/-- The bytes of the frame: the header stands before the last NAL unit. -/
theorem assembled_of_fits (fits : Fits header au) :
    (assembled header au).bytes = annexB au.earlier ++ header.bytes ++ annexB [au.marked] := by
  rw [Fits, AccessUnit.units, annexB_append, List.length_append] at fits
  have before : (pending au.earlier).bytes = annexB au.earlier :=
    foldl_appendNal_of_fits (by show 0 + _ ≤ _; omega)
  have both : ((pending au.earlier).append header.bytes).2.bytes = annexB au.earlier ++ header.bytes := by
    rw [ArrayEx.append_of_fits, before]
    rw [ArrayEx.len, before]
    unfold ArrayEx.len capacity at fits
    omega
  rw [assembled, appendNal_of_fits, both]
  rw [ArrayEx.len, both, List.length_append]
  unfold ArrayEx.len at fits
  omega

end Fitting

/-! ## Where the header stands -/

/-- **The header comes first** in every frame exactly where, in every access unit, the header and what comes before the
marked NAL unit are repetitions of one byte string: there is no header, or the access unit has one NAL unit, or the
units before the last are the parameter sets again. Every marker is one frame in any case. -/
theorem header_first_iff (header : ArrayEx 1024) (memory : List UInt8) (packets : List Packet)
    (fits : ∀ au ∈ accessUnits [] packets, Fits header au) :
    ((start header memory).receive packets).1.length = packets.countP (fun p => p.marker) ∧
      (List.Forall₂ (fun au frame => frame.sBuffer = header.bytes ++ annexB au.units) (accessUnits [] packets)
          ((start header memory).receive packets).1 ↔
        ∀ au ∈ accessUnits [] packets, Words.Repeat header.bytes (annexB au.earlier)) := by
  constructor
  · rw [@receive_eq (start header memory) [] packets rfl rfl, List.length_map, length_accessUnits]
  · rw [forall_delivered]
    refine forall₂_congr fun au mem => ?_
    have bytes : (delivered header au).sBuffer = annexB au.earlier ++ header.bytes ++ annexB [au.marked] :=
      assembled_of_fits (fits au mem)
    rw [bytes, AccessUnit.units, annexB_append, ← List.append_assoc, List.append_cancel_right_eq, ← Words.append_comm_iff]
    exact eq_comm

/-- A NAL unit of one byte. -/
def oneByte (byte : UInt8) : Nal := ⟨[byte], List.cons_ne_nil _ _, Nat.le_of_ble_eq_true rfl⟩

/-- An access unit of two NAL units. -/
def twoUnits (first second : UInt8) : List Packet := [⟨oneByte first, false, ⟨0, 0⟩⟩, ⟨oneByte second, true, ⟨0, 0⟩⟩]

/-- The parameter sets that the session description gives, here an SPS of one byte. -/
def spsHeader : ArrayEx 1024 := (setSpropRecords (some [[0x67]])).2

theorem header_first_two_slices :
    ((start spsHeader []).receive (twoUnits 0x65 0x41)).1.length = 1 ∧
      (List.Forall₂ (fun au frame => frame.sBuffer = spsHeader.bytes ++ annexB au.units)
          (accessUnits [] (twoUnits 0x65 0x41)) ((start spsHeader []).receive (twoUnits 0x65 0x41)).1 ↔
        ∀ au ∈ accessUnits [] (twoUnits 0x65 0x41), Words.Repeat spsHeader.bytes (annexB au.earlier)) :=
  header_first_iff spsHeader [] (twoUnits 0x65 0x41) (by decide +kernel)

/-- Two slices: the parameter sets come after the first. -/
theorem header_behind_first_slice :
    ((start spsHeader []).receive (twoUnits 0x65 0x41)).1.map SessionVideoFrame.sBuffer =
        [[0, 0, 0, 1, 0x65, 0, 0, 0, 1, 0x67, 0, 0, 0, 1, 0x41]] ∧
      ¬ List.Forall₂ (fun au frame => frame.sBuffer = spsHeader.bytes ++ annexB au.units) (accessUnits [] (twoUnits 0x65 0x41))
        ((start spsHeader []).receive (twoUnits 0x65 0x41)).1 := by
  refine ⟨by decide +kernel, ?_⟩
  intro h
  cases h with
  | cons first _ => exact absurd first (by decide +kernel)

/-! ## Access units that do not fit -/

/-- A frame of whole units: the NAL units of the access unit, with the header somewhere between them. -/
def Whole (header : ArrayEx 1024) (au : AccessUnit) (frame : SessionVideoFrame) : Prop :=
  ∃ before after, au.units = before ++ after ∧ frame.sBuffer = annexB before ++ header.bytes ++ annexB after

theorem whole_iff {header : ArrayEx 1024} {au : AccessUnit} : Whole header au (delivered header au) ↔ Fits header au := by
  constructor
  · rintro ⟨before, after, units, bytes⟩
    have room := (assembled header au).room
    rw [show (assembled header au).bytes = _ from bytes] at room
    rw [Fits, units, annexB_append]
    simp only [List.length_append] at room ⊢
    unfold ArrayEx.len capacity
    omega
  · exact fun fits => ⟨au.earlier, [au.marked], rfl, assembled_of_fits fits⟩

/-- **Frames are whole** exactly where the header and the NAL units of every access unit fit: one that does not fit is
delivered without the pieces for which there was no room. -/
theorem frames_whole_iff (header : ArrayEx 1024) (memory : List UInt8) (packets : List Packet) :
    List.Forall₂ (Whole header) (accessUnits [] packets) ((start header memory).receive packets).1 ↔
      ∀ au ∈ accessUnits [] packets, Fits header au := by
  rw [forall_delivered]
  exact forall₂_congr fun au mem => whole_iff

/-- Parameter sets of 29 bytes. -/
theorem longHeader_room : (h264StartCode ++ List.replicate 25 0x67).length ≤ 1024 := by decide

def longHeader : ArrayEx 1024 := ⟨h264StartCode ++ List.replicate 25 0x67, longHeader_room⟩

theorem longestNal_small : ((0x65 : UInt8) :: List.replicate 425983 0).length ≤ rtpPacketBufferSize := by
  rw [List.length_cons, List.length_replicate, rtpPacketBufferSize]

/-- A NAL unit that fills `m_rtp_packet_buffer`. -/
def longestNal : Nal := ⟨0x65 :: List.replicate 425983 0, List.cons_ne_nil _ _, longestNal_small⟩

/-- An access unit of one NAL unit that is too long for the frame buffer. -/
theorem unit_left_out {header : ArrayEx 1024} {nal : Nal} {time : Timeval}
    (long : capacity < header.len + (4 + nal.bytes.length)) (memory : List UInt8) :
    ¬ List.Forall₂ (Whole header) (accessUnits [] [⟨nal, true, time⟩])
      ((start header memory).receive [⟨nal, true, time⟩]).1 := by
  rw [forall_delivered]
  intro whole
  have fits : Fits header ⟨[], nal, time⟩ := whole_iff.1 (whole _ (List.mem_singleton_self _))
  have unit : (annexB [nal]).length = 4 + nal.bytes.length := by
    rw [annexB_singleton, List.length_append]
    rfl
  simp only [Fits, AccessUnit.units, List.nil_append, unit] at fits
  omega

/-- Header, start code and NAL unit are one byte too many: the frame has a start code and no NAL unit behind it. -/
theorem longest_nal_left_out : ¬ List.Forall₂ (Whole longHeader) (accessUnits [] [⟨longestNal, true, ⟨0, 0⟩⟩])
    ((start longHeader []).receive [⟨longestNal, true, ⟨0, 0⟩⟩]).1 := by
  apply unit_left_out
  have header : longHeader.len = 29 := rfl
  have unit : longestNal.bytes.length = 425984 := by
    rw [longestNal, List.length_cons, List.length_replicate]
  rw [header, unit, capacity, rtpPacketBufferSize]
  omega

/-! ## The key-frame flag -/

/-- **The flag covers the access unit** exactly where the marked NAL unit is a slice of an IDR picture whenever one of the
access unit is. -/
theorem key_frame_iff (header : ArrayEx 1024) (memory : List UInt8) (packets : List Packet) :
    List.Forall₂ (fun au frame => frame.keyFrame = true ↔ ∃ nal ∈ au.units, nal.unitType = 5) (accessUnits [] packets)
        ((start header memory).receive packets).1 ↔
      ∀ au ∈ accessUnits [] packets, (∃ nal ∈ au.units, nal.unitType = 5) → au.marked.unitType = 5 := by
  rw [forall_delivered]
  refine forall₂_congr fun au mem => ?_
  rw [delivered, decide_eq_true_eq]
  refine ⟨Iff.mpr, fun last => ⟨fun marked => ⟨au.marked, ?_, marked⟩, last⟩⟩
  exact List.mem_append_right _ (List.mem_singleton_self _)

/-- A slice of an IDR picture with an SEI unit behind it. -/
theorem key_frame_missed : ¬ List.Forall₂ (fun au frame => frame.keyFrame = true ↔ ∃ nal ∈ au.units, nal.unitType = 5)
    (accessUnits [] (twoUnits 0x65 0x06)) ((start spsHeader []).receive (twoUnits 0x65 0x06)).1 := by
  intro h
  cases h with
  | cons first _ =>
    have key := first.2 ⟨oneByte 0x65, List.mem_cons_self, by decide⟩
    exact absurd key (by decide +kernel)

end H264Sink

end CameraEv
