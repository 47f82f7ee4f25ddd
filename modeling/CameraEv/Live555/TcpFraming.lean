import CameraEv.Live555.TcpItems

/-!
# Reading the RTSP connection

Whatever pieces the stream arrives in, what the handler passes on are the items of
the stream. Between two calls it stands in an item of which it has read a part
(`Stands`); a call goes on in the item or to the next one (`Advances`). A packet that
is too long for the buffer of its `RTCPInstance` is never read to its end, and
nothing behind it is (`Stuck`).
-/

namespace CameraEv

open Arrivals TcpFraming

/-! ## Where the handler stands -/

namespace RTPInterface

def buf (r : RTPInterface) : List UInt8 :=
  match r.owner with
  | .rtpSource packetReadInProgress => packetReadInProgress.getD []
  | .rtcpInstance inBuf => inBuf

def channel (r : RTPInterface) : Channel where
  readHandlerProc := r.readHandlerProc
  rtcp := match r.owner with
    | .rtpSource _ => false
    | .rtcpInstance _ => true

variable {r : RTPInterface} {socket : List (List UInt8)}

/-- What the handler of a channel with room in its buffer does: it reads as much of the packet as is there and fits. -/
inductive Reads (r : RTPInterface) (socket : List (List UInt8)) (n : Nat) :
    Option (List UInt8) × RTPInterface × List (List UInt8) → Prop
  | part {r'} (channel : r'.channel = r.channel)
      (size : r'.nextTCPReadSize + (readUpTo n socket).1.length = r.nextTCPReadSize)
      (left : r'.nextTCPReadSize ≠ 0) (tcp : r'.nextTCPReadStreamSocket = true)
      (buf : r'.buf = r.buf ++ (readUpTo n socket).1) : Reads r socket n (none, r', (readUpTo n socket).2)
  | whole {r'} (channel : r'.channel = r.channel) (size : (readUpTo n socket).1.length = r.nextTCPReadSize)
      (none' : r'.nextTCPReadSize = 0) (buf : r'.buf = []) :
      Reads r socket n (some (r.buf ++ (readUpTo n socket).1), r', (readUpTo n socket).2)

theorem handleRead_tcp (tcp : r.nextTCPReadStreamSocket = true) (bufferMaxSize : Nat) :
    let found := readUpTo (r.totBytesToRead bufferMaxSize) socket
    let left := r.nextTCPReadSize - found.1.length
    r.handleRead bufferMaxSize socket =
      (⟨true, found.1, decide (left ≠ 0)⟩,
        { r with nextTCPReadSize := left, nextTCPReadStreamSocket := decide (left ≠ 0) }, found.2) := by
  unfold handleRead
  rw [tcp]
  dsimp only
  split
  · rename_i no
    cases no
  · split
    · rename_i all
      simp [all]
    · rename_i more
      simp [more]

theorem callReadHandler_reads (tcp : r.nextTCPReadStreamSocket = true) (left : r.nextTCPReadSize ≠ 0)
    (room : r.buf.length < r.channel.bufferSize) :
    ∃ n, 0 < n ∧ r.buf.length + n ≤ r.channel.bufferSize ∧ Reads r socket n (r.callReadHandler socket) := by
  obtain ⟨n, tot⟩ : ∃ n, r.totBytesToRead (r.channel.bufferSize - r.buf.length) = n := ⟨_, rfl⟩
  have bound : n ≤ r.channel.bufferSize - r.buf.length ∧ n ≤ r.nextTCPReadSize ∧ 0 < n := by
    rw [← tot, totBytesToRead]
    split <;> omega
  have found := @handleRead_tcp r socket tcp (r.channel.bufferSize - r.buf.length)
  rw [tot] at found
  have short : (readUpTo n socket).1.length ≤ n := length_readUpTo_le
  refine ⟨n, bound.2.2, by omega, ?_⟩
  unfold callReadHandler
  cases owner : r.owner with
  | rtpSource packetReadInProgress =>
    have buf : r.buf = packetReadInProgress.getD [] := by rw [RTPInterface.buf, owner]
    have size : r.channel.bufferSize = MAX_PACKET_SIZE := by simp [channel, owner, Channel.bufferSize]
    simp only [networkReadHandler, ← buf, ← size]
    rw [if_neg (by omega), found]
    by_cases all : r.nextTCPReadSize - (readUpTo n socket).1.length = 0
    · simp only [all]
      exact .whole (by simp [channel, owner]) (by omega) rfl rfl
    · have size : r.nextTCPReadSize - (readUpTo n socket).1.length + (readUpTo n socket).1.length = r.nextTCPReadSize :=
        Nat.sub_add_cancel (by omega)
      simp only [ne_eq, all, not_false_eq_true, decide_true]
      exact .part (by simp [channel, owner]) size all rfl rfl
  | rtcpInstance inBuf =>
    have buf : r.buf = inBuf := by rw [RTPInterface.buf, owner]
    have size : r.channel.bufferSize = maxRTCPPacketSize := by simp [channel, owner, Channel.bufferSize]
    simp only [incomingReportHandler, ← buf, ← size]
    rw [if_neg (by omega), found]
    by_cases all : r.nextTCPReadSize - (readUpTo n socket).1.length = 0
    · simp only [all]
      exact .whole (by simp [channel, owner]) (by omega) rfl rfl
    · have size : r.nextTCPReadSize - (readUpTo n socket).1.length + (readUpTo n socket).1.length = r.nextTCPReadSize :=
        Nat.sub_add_cancel (by omega)
      simp only [ne_eq, all, not_false_eq_true, decide_true]
      exact .part (by simp [channel, owner]) size all rfl rfl

/-- A `RTCPInstance` whose buffer is full reads no more. -/
theorem callReadHandler_full (full : r.channel.bufferSize ≤ r.buf.length) (rtcp : r.channel.rtcp = true) :
    r.callReadHandler socket = (none, r, socket) := by
  unfold callReadHandler
  cases owner : r.owner with
  | rtpSource packetReadInProgress => simp [channel, owner] at rtcp
  | rtcpInstance inBuf =>
    have buf : r.buf = inBuf := by rw [RTPInterface.buf, owner]
    have size : r.channel.bufferSize = maxRTCPPacketSize := by simp [channel, owner, Channel.bufferSize]
    rw [buf, size] at full
    simp [incomingReportHandler, full]

/-- Between packets. -/
structure IsIdle (r : RTPInterface) (c : Channel) : Prop where
  channel : r.channel = c
  size : r.nextTCPReadSize = 0
  buf : r.buf = []

theorem isIdle_interface (c : Channel) : IsIdle c.interface c := by
  obtain ⟨reads, rtcp⟩ := c
  cases rtcp <;> exact ⟨rfl, rfl, rfl⟩

end RTPInterface

namespace TcpFraming

section Run

variable (channels : UInt8 → Option Channel)

/-- The channels other than that one are between packets. -/
def QuietBut (subChannel : UInt8 → Option RTPInterface) (ch : UInt8) : Prop :=
  ∀ ch', ch' ≠ ch → Option.Rel RTPInterface.IsIdle (subChannel ch') (channels ch')

def Quiet (subChannel : UInt8 → Option RTPInterface) : Prop :=
  ∀ ch, Option.Rel RTPInterface.IsIdle (subChannel ch) (channels ch)

/-- The descriptor of a socket on which those channels have been registered. -/
def opened (socket : List (List UInt8)) : SocketDescriptor where
  subChannel ch := (channels ch).map Channel.interface
  socket

/-- Inside a packet of the channel, of which `got` has been read. -/
structure InPacket (d : SocketDescriptor) (r : RTPInterface) (hi lo : UInt8) (got : List UInt8) : Prop where
  state : d.tcpReadingState = .AWAITING_PACKET_DATA
  here : d.subChannel d.streamChannelId = some r
  channel : channels d.streamChannelId = some r.channel
  quiet : QuietBut channels d.subChannel d.streamChannelId
  size : got.length + r.nextTCPReadSize = BigEndian.decode [hi, lo]
  left : r.nextTCPReadSize ≠ 0
  reads : r.readHandlerProc = true → r.buf = got ∧ r.nextTCPReadStreamSocket = true ∧ got.length ≤ r.channel.bufferSize
  skips : r.readHandlerProc = false → r.buf = []

theorem InPacket.known {d : SocketDescriptor} {r : RTPInterface} {hi lo : UInt8} {got : List UInt8}
    (inside : InPacket channels d r hi lo got) : channels d.streamChannelId ≠ none := by
  rw [inside.channel]
  exact Option.some_ne_none _

/-- What has been read of the item that the handler is at. -/
inductive Stands (d : SocketDescriptor) : List UInt8 → Prop
  | dollar (state : d.tcpReadingState = .AWAITING_DOLLAR) (quiet : Quiet channels d.subChannel) : Stands d []
  | streamChannelId (state : d.tcpReadingState = .AWAITING_STREAM_CHANNEL_ID) (quiet : Quiet channels d.subChannel) :
      Stands d [36]
  | size1 (state : d.tcpReadingState = .AWAITING_SIZE1) (quiet : Quiet channels d.subChannel)
      (known : channels d.streamChannelId ≠ none) : Stands d [36, d.streamChannelId]
  | size2 (state : d.tcpReadingState = .AWAITING_SIZE2) (quiet : Quiet channels d.subChannel)
      (known : channels d.streamChannelId ≠ none) : Stands d [36, d.streamChannelId, d.sizeByte1]
  /-- The packet has been read. -/
  | behind (state : d.tcpReadingState = .AWAITING_PACKET_DATA) (quiet : Quiet channels d.subChannel)
      (known : channels d.streamChannelId ≠ none) : Stands d []
  | packet {r hi lo got} (inside : InPacket channels d r hi lo got) :
      Stands d (36 :: d.streamChannelId :: hi :: lo :: got)

/-- What the step does to the stream that is left: nothing is lost of an item, or the item is passed on. -/
inductive Advances (d d' : SocketDescriptor) (pre pre' : List UInt8) : Prop
  | on (stream : pre' ++ d'.socket.flatten = pre ++ d.socket.flatten) (passed : d'.passed = d.passed)
  | past {i : Item} (valid : i.Valid channels) (fits : i.tooLong channels = false)
      (stream : pre ++ d.socket.flatten = i.bytes ++ (pre' ++ d'.socket.flatten))
      (passed : d'.passed = d.passed ++ i.passed channels)

/-- A packet fills the buffer, and there is more of it. -/
def Stuck (d : SocketDescriptor) : Prop :=
  d.tcpReadingState = .AWAITING_PACKET_DATA ∧ ∃ r, d.subChannel d.streamChannelId = some r ∧
    r.readHandlerProc = true ∧ r.nextTCPReadSize ≠ 0 ∧ r.channel.rtcp = true ∧ r.channel.bufferSize ≤ r.buf.length

/-- What is left to be done. -/
def weight (d : SocketDescriptor) : Nat :=
  2 * pending d.socket + if d.tcpReadingState = .AWAITING_PACKET_DATA then 1 else 0

/-- What one call of the handler does. -/
structure Moves (d d' : SocketDescriptor) (pre pre' : List UInt8) : Prop where
  stands : Stands channels d' pre'
  advances : Advances channels d d' pre pre'
  less : pending d'.socket ≤ pending d.socket
  progress : d.socket = [] ∨ Stuck d ∨ weight d' < weight d

variable {channels}

theorem stuck_step {d : SocketDescriptor} (stuck : Stuck d) : d.tcpReadHandler1 = (false, d) := by
  obtain ⟨state, r, here, reads, left, rtcp, full⟩ := stuck
  have same : d.setChannel d.streamChannelId r = d := by
    simp [SocketDescriptor.setChannel, ← here]
  unfold SocketDescriptor.tcpReadHandler1
  rw [if_pos state]
  simp [SocketDescriptor.readPacketData, here, left, reads, RTPInterface.callReadHandler_full full rtcp, same]

/-- Where the handler stands does not depend on what the socket holds. -/
theorem Stands.congr {d d' : SocketDescriptor} {pre : List UInt8} (stands : Stands channels d pre)
    (state : d'.tcpReadingState = d.tcpReadingState) (ch : d'.streamChannelId = d.streamChannelId)
    (size : d'.sizeByte1 = d.sizeByte1) (sub : d'.subChannel = d.subChannel) : Stands channels d' pre := by
  obtain ⟨state', ch', size', sub', socket', passed'⟩ := d'
  subst state ch size sub
  cases stands with
  | dollar state quiet => exact .dollar state quiet
  | streamChannelId state quiet => exact .streamChannelId state quiet
  | size1 state quiet known => exact .size1 state quiet known
  | size2 state quiet known => exact .size2 state quiet known
  | behind state quiet known => exact .behind state quiet known
  | packet inside =>
    exact .packet ⟨inside.state, inside.here, inside.channel, inside.quiet, inside.size, inside.left, inside.reads,
      inside.skips⟩

theorem Quiet.known {sub : UInt8 → Option RTPInterface} (quiet : Quiet channels sub) (ch : UInt8) :
    sub ch = none ↔ channels ch = none := by
  have rel := quiet ch
  generalize sub ch = r at *
  generalize channels ch = c at *
  cases rel <;> simp

theorem Quiet.exists_idle {sub : UInt8 → Option RTPInterface} (quiet : Quiet channels sub) {ch : UInt8}
    (known : channels ch ≠ none) : ∃ r c, sub ch = some r ∧ channels ch = some c ∧ r.IsIdle c := by
  have rel := quiet ch
  generalize sub ch = r at *
  generalize channels ch = c at *
  cases rel with
  | some idle => exact ⟨_, _, rfl, rfl, idle⟩
  | none => exact absurd rfl known

theorem QuietBut.update {sub : UInt8 → Option RTPInterface} {ch : UInt8} (quiet : QuietBut channels sub ch)
    (r : Option RTPInterface) : QuietBut channels (Function.update sub ch r) ch := by
  intro ch' other
  rw [Function.update_of_ne other]
  exact quiet ch' other

theorem QuietBut.quiet {sub : UInt8 → Option RTPInterface} {ch : UInt8} (quiet : QuietBut channels sub ch)
    {r : RTPInterface} {c : Channel} (here : sub ch = some r) (known : channels ch = some c) (idle : r.IsIdle c) :
    Quiet channels sub := by
  intro ch'
  by_cases same : ch' = ch
  · subst same
    rw [here, known]
    exact .some idle
  · exact quiet ch' same

theorem passed_empty {ch : UInt8} : Item.passed channels (.packet ch []) = [] := by
  simp only [Item.passed]
  cases channels ch <;> simp

theorem tooLong_empty {ch : UInt8} : Item.tooLong channels (.packet ch []) = false := by
  simp only [Item.tooLong]
  cases channels ch <;> simp

/-- A byte outside a packet. -/
theorem Stands.readByte {d : SocketDescriptor} {pre : List UInt8} (stands : Stands channels d pre)
    (outside : d.tcpReadingState ≠ .AWAITING_PACKET_DATA) {c : UInt8} {rest : List (List UInt8)}
    (stream : d.socket.flatten = c :: rest.flatten) :
    ∃ pre', Stands channels ({ d with socket := rest }.readByte c) pre' ∧
      Advances channels d ({ d with socket := rest }.readByte c) pre pre' ∧
      ({ d with socket := rest }.readByte c).socket = rest := by
  unfold SocketDescriptor.readByte
  cases stands with
  | dollar state quiet =>
    simp only [state]
    by_cases dollar : c = 36
    · subst dollar
      exact ⟨[36], .streamChannelId rfl quiet, .on (by simp [stream]) rfl, rfl⟩
    · rw [if_neg dollar]
      refine ⟨[], ?_, .past (i := .requestByte c) dollar rfl (by split <;> simp [stream, Item.bytes]) ?_, ?_⟩
      · split <;> exact .dollar rfl quiet
      · simp only [Item.passed]
        split <;> simp
      · split <;> rfl
  | streamChannelId state quiet =>
    simp only [state]
    cases known : d.subChannel c with
    | some r =>
      have known : channels c ≠ none := by simp [← quiet.known, known]
      exact ⟨[36, c], .size1 rfl quiet known, .on (by simp [stream]) rfl, rfl⟩
    | none =>
      exact ⟨[], .dollar rfl quiet, .past (i := .stray c) ((quiet.known c).1 known) rfl (by simp [stream, Item.bytes])
        (by simp [Item.passed]), rfl⟩
  | size1 state quiet known =>
    simp only [state]
    exact ⟨[36, d.streamChannelId, c], .size2 rfl quiet known, .on (by simp [stream]) rfl, trivial⟩
  | size2 state quiet known =>
    simp only [state]
    obtain ⟨r, ch, here, channel, idle⟩ := quiet.exists_idle known
    have others : QuietBut channels d.subChannel d.streamChannelId := fun ch' _ => quiet ch'
    have size : BigEndian.decode [d.sizeByte1, c] = d.sizeByte1.toNat * 2 ^ 8 + c.toNat := by simp [BigEndian.decode]
    simp only [here, SocketDescriptor.setChannel, ← size]
    by_cases empty : BigEndian.decode [d.sizeByte1, c] = 0
    · have pair : BigEndian.encode 2 0 = [d.sizeByte1, c] := by rw [← empty, encode_decode_pair]
      refine ⟨[], .behind rfl ?_ known, .past (i := .packet d.streamChannelId []) ⟨known, by decide⟩ tooLong_empty
        ?_ ?_, trivial⟩
      · exact (others.update _).quiet (Function.update_self _ _ _) channel ⟨idle.channel, empty, idle.buf⟩
      · simp [Item.bytes, pair, stream]
      · simp [passed_empty]
    · refine ⟨[36, d.streamChannelId, d.sizeByte1, c], ?_, .on (by simp [stream]) rfl, trivial⟩
      exact .packet ⟨rfl, Function.update_self _ _ _, channel.trans (congrArg some idle.channel.symm), others.update _,
        Nat.zero_add _, empty, fun _ => ⟨idle.buf, rfl, Nat.zero_le _⟩, fun _ => idle.buf⟩
  | behind state => exact absurd state outside
  | packet inside => exact absurd inside.state outside

theorem stream_packet {ch hi lo : UInt8} {got bytes : List UInt8} {rest : List (List UInt8)} {stream : List UInt8}
    (found : bytes ++ rest.flatten = stream) (whole : (got ++ bytes).length = BigEndian.decode [hi, lo]) :
    36 :: ch :: hi :: lo :: got ++ stream = (Item.packet ch (got ++ bytes)).bytes ++ ([] ++ rest.flatten) := by
  simp [Item.bytes, whole, encode_decode_pair, ← found, -List.length_append]

theorem passed_packet {ch : UInt8} {c : Channel} (known : channels ch = some c) (reads : c.readHandlerProc = true)
    {data : List UInt8} (some' : data ≠ []) : Item.passed channels (.packet ch data) = [.packet ch data] := by
  simp [Item.passed, known, reads, some']

theorem tooLong_iff {ch : UInt8} {c : Channel} (known : channels ch = some c) {data : List UInt8} :
    Item.tooLong channels (.packet ch data) = true ↔ c.readHandlerProc = true ∧ c.bufferSize < data.length := by
  simp [Item.tooLong, known]

theorem weight_lt {d d' : SocketDescriptor} (inside : d.tcpReadingState = .AWAITING_PACKET_DATA)
    (progress : d.socket = [] ∨ pending d'.socket < pending d.socket) :
    d.socket = [] ∨ Stuck d ∨ weight d' < weight d := by
  rcases progress with empty | progress
  · exact .inl empty
  · refine .inr (.inr ?_)
    rw [weight, weight, if_pos inside]
    split <;> omega

namespace InPacket

variable {d : SocketDescriptor} {r : RTPInterface} {hi lo : UInt8} {got : List UInt8}

/-- The handler of the channel reads on. -/
theorem moves_reads (inside : InPacket channels d r hi lo got) (reads : r.readHandlerProc = true)
    (room : r.buf.length < r.channel.bufferSize) :
    ∃ pre', Moves channels d d.readPacketData.2 (36 :: d.streamChannelId :: hi :: lo :: got) pre' := by
  obtain ⟨buf, tcp, fits⟩ := inside.reads reads
  obtain ⟨n, pos, bound, result⟩ := @RTPInterface.callReadHandler_reads r d.socket tcp inside.left room
  have moved : d.readPacketData.2 = { d.setChannel d.streamChannelId (r.callReadHandler d.socket).2.1 with
      socket := (r.callReadHandler d.socket).2.2
      passed := d.passed ++ (r.callReadHandler d.socket).1.toList.map (.packet d.streamChannelId) } := by
    simp [SocketDescriptor.readPacketData, inside.here, inside.left, reads]
  have all := readUpTo_append (n := n) (s := d.socket)
  have few : (readUpTo n d.socket).1.length ≤ n := length_readUpTo_le
  have less : pending (readUpTo n d.socket).2 ≤ pending d.socket := pending_readUpTo_le pos
  have progress : d.socket = [] ∨ pending (readUpTo n d.socket).2 < pending d.socket :=
    or_iff_not_imp_left.2 (pending_readUpTo pos)
  have size := inside.size
  have known : channels d.streamChannelId ≠ none := inside.known
  rw [moved]
  generalize r.callReadHandler d.socket = out at result
  cases result with
  | @part r' channel' size' left' tcp' buf' =>
    have same : r'.readHandlerProc = r.readHandlerProc := congrArg Channel.readHandlerProc channel'
    refine ⟨36 :: d.streamChannelId :: hi :: lo :: (got ++ (readUpTo n d.socket).1), .packet (r := r') ?_, .on ?_ ?_,
      less, weight_lt inside.state progress⟩
    · refine ⟨inside.state, Function.update_self _ _ _, inside.channel.trans (congrArg some channel'.symm),
        inside.quiet.update _, ?_, left', fun _ => ⟨buf'.trans (by rw [buf]), tcp', ?_⟩, fun no => ?_⟩
      · rw [List.length_append, Nat.add_assoc, Nat.add_comm _ r'.nextTCPReadSize, size', size]
      · rw [List.length_append, channel', ← buf]
        omega
      · rw [same, reads] at no
        cases no
    · simp [← all]
    · simp
  | @whole r' channel' size' none' buf' =>
    have length : (got ++ (readUpTo n d.socket).1).length = BigEndian.decode [hi, lo] := by
      rw [List.length_append]
      omega
    refine ⟨[], .behind inside.state ?_ ?_, .past (i := .packet d.streamChannelId (got ++ (readUpTo n d.socket).1)) ?_
      ?_ (stream_packet all length) ?_, less, weight_lt inside.state progress⟩
    · exact (inside.quiet.update _).quiet (Function.update_self _ _ _) inside.channel ⟨channel', none', buf'⟩
    · exact known
    · refine ⟨known, ?_⟩
      rw [length]
      exact decode_pair_lt hi lo
    · rw [← Bool.not_eq_true, tooLong_iff inside.channel, List.length_append, ← buf]
      omega
    · have some' : got ++ (readUpTo n d.socket).1 ≠ [] := fun empty => by
        have left := inside.left
        rw [empty, List.length_nil] at length
        omega
      rw [passed_packet inside.channel reads some', buf]
      rfl

/-- A packet for which there is no room: that of a `RTCPInstance`. -/
theorem moves_full (inside : InPacket channels d r hi lo got) (reads : r.readHandlerProc = true)
    (full : r.channel.bufferSize ≤ r.buf.length) :
    ∃ pre', Moves channels d d.readPacketData.2 (36 :: d.streamChannelId :: hi :: lo :: got) pre' := by
  have short := decode_pair_lt hi lo
  have size := inside.size
  have rtcp : r.channel.rtcp = true := by
    by_contra no
    have source : r.channel.bufferSize = 65536 := by simp [Channel.bufferSize, no, RTPInterface.MAX_PACKET_SIZE]
    rw [(inside.reads reads).1] at full
    omega
  have stuck : Stuck d := ⟨inside.state, r, inside.here, reads, inside.left, rtcp, full⟩
  have moved : d.readPacketData = (false, d) := by
    have same := stuck_step stuck
    rwa [SocketDescriptor.tcpReadHandler1, if_pos inside.state] at same
  rw [moved]
  exact ⟨_, .packet inside, .on rfl rfl, Nat.le_refl _, .inr (.inl stuck)⟩

/-- Nobody reads the channel: a byte is skipped. -/
theorem moves_skips (inside : InPacket channels d r hi lo got) (skips : r.readHandlerProc = false) :
    ∃ pre', Moves channels d d.readPacketData.2 (36 :: d.streamChannelId :: hi :: lo :: got) pre' := by
  have size := inside.size
  have left := inside.left
  have known : channels d.streamChannelId ≠ none := inside.known
  obtain ⟨found, rest, read, less, progress, ⟨rfl, stream⟩ | ⟨c, rfl, stream⟩⟩ := read_one d.socket
  · have moved : d.readPacketData.2 = { d with socket := rest } := by
      simp [SocketDescriptor.readPacketData, inside.here, left, skips, read]
    rw [moved]
    exact ⟨_, (Stands.packet inside).congr rfl rfl rfl rfl, .on (by simp [stream]) rfl, less,
      weight_lt inside.state progress⟩
  · obtain ⟨r', skipped⟩ : ∃ r', r' = { r with nextTCPReadSize := r.nextTCPReadSize - 1 } := ⟨_, rfl⟩
    have moved : d.readPacketData.2 = { d.setChannel d.streamChannelId r' with socket := rest } := by
      simp [SocketDescriptor.readPacketData, inside.here, left, skips, read, skipped]
    have channel' : r'.channel = r.channel := by rw [skipped]; rfl
    have buf' : r'.buf = [] := by rw [skipped]; exact inside.skips skips
    have size' : r'.nextTCPReadSize = r.nextTCPReadSize - 1 := by rw [skipped]
    rw [moved]
    by_cases last : r'.nextTCPReadSize = 0
    · have length : (got ++ [c]).length = BigEndian.decode [hi, lo] := by
        rw [List.length_append, List.length_singleton]
        omega
      refine ⟨[], .behind inside.state ?_ known, .past (i := .packet d.streamChannelId (got ++ [c])) ⟨known, ?_⟩ ?_
        (stream_packet stream.symm length) ?_, less, weight_lt inside.state progress⟩
      · exact (inside.quiet.update _).quiet (Function.update_self _ _ _) inside.channel ⟨channel', last, buf'⟩
      · rw [length]
        exact decode_pair_lt hi lo
      · rw [← Bool.not_eq_true, tooLong_iff inside.channel]
        exact fun yes => nomatch skips.symm.trans yes.1
      · simp [Item.passed, inside.channel, skips, RTPInterface.channel, SocketDescriptor.setChannel]
    · refine ⟨36 :: d.streamChannelId :: hi :: lo :: (got ++ [c]), .packet (r := r') ?_, .on (by simp [stream]) rfl,
        less, weight_lt inside.state progress⟩
      refine ⟨inside.state, Function.update_self _ _ _, inside.channel.trans (congrArg some channel'.symm),
        inside.quiet.update _, ?_, last, fun reads => ?_, fun _ => buf'⟩
      · rw [List.length_append, List.length_singleton]
        omega
      · rw [skipped] at reads
        cases skips.symm.trans reads

end InPacket

/-- Where the handler stands in a packet, or behind it. -/
theorem Stands.readPacketData {d : SocketDescriptor} {pre : List UInt8} (stands : Stands channels d pre)
    (state : d.tcpReadingState = .AWAITING_PACKET_DATA) : ∃ pre', Moves channels d d.readPacketData.2 pre pre' := by
  cases stands with
  | dollar outside | streamChannelId outside | size1 outside | size2 outside => simp [outside] at state
  | behind _ quiet known =>
    obtain ⟨r, c, here, channel, idle⟩ := quiet.exists_idle known
    have moved : d.readPacketData.2 = { d with tcpReadingState := .AWAITING_DOLLAR } := by
      simp [SocketDescriptor.readPacketData, here, idle.size]
    rw [moved]
    exact ⟨[], .dollar rfl quiet, .on rfl rfl, Nat.le_refl _, .inr (.inr (by simp [weight, state]))⟩
  | @packet r hi lo got inside =>
    cases reads : r.readHandlerProc with
    | false => exact inside.moves_skips reads
    | true =>
      by_cases room : r.buf.length < r.channel.bufferSize
      · exact inside.moves_reads reads room
      · exact inside.moves_full reads (Nat.not_lt.1 room)

/-- **One call of the handler.** -/
theorem Stands.step {d : SocketDescriptor} {pre : List UInt8} (stands : Stands channels d pre) :
    ∃ pre', Moves channels d d.tcpReadHandler1.2 pre pre' := by
  by_cases inside : d.tcpReadingState = .AWAITING_PACKET_DATA
  · rw [SocketDescriptor.tcpReadHandler1, if_pos inside]
    exact stands.readPacketData inside
  · obtain ⟨found, rest, read, less, progress, ⟨rfl, stream⟩ | ⟨c, rfl, stream⟩⟩ := read_one d.socket
    · have moved : d.tcpReadHandler1.2 = { d with socket := rest } := by
        simp [SocketDescriptor.tcpReadHandler1, inside, read]
      rw [moved]
      refine ⟨pre, stands.congr rfl rfl rfl rfl, .on (by simp [stream]) rfl, less, ?_⟩
      rcases progress with empty | progress
      · exact .inl empty
      · exact .inr (.inr (by simp only [weight]; omega))
    · have moved : d.tcpReadHandler1.2 = { d with socket := rest }.readByte c := by
        simp [SocketDescriptor.tcpReadHandler1, inside, read]
      rw [moved]
      obtain ⟨pre', stands', advances, left⟩ := stands.readByte inside stream
      refine ⟨pre', stands', advances, by rw [left]; exact less, ?_⟩
      rcases progress with empty | progress
      · exact .inl empty
      · refine .inr (.inr ?_)
        rw [weight, weight, left, if_neg inside]
        split <;> omega

/-- Nothing is left to be read, or nothing will be. -/
def Over (d : SocketDescriptor) : Prop := d.socket = [] ∨ Stuck d

/-- What is passed on in all, as far as `d` has it. -/
def Total (channels : UInt8 → Option Channel) (total : List Passed) (d : SocketDescriptor) : Prop :=
  ∃ pre, Stands channels d pre ∧
    ∀ items rest, Splits channels (pre ++ d.socket.flatten) items rest → d.passed ++ passedOn channels items = total

theorem Total.step {d : SocketDescriptor} {total : List Passed} (inv : Total channels total d) :
    Total channels total d.tcpReadHandler1.2 ∧ (Over d → Over d.tcpReadHandler1.2) ∧
      (Over d ∨ weight d.tcpReadHandler1.2 < weight d) := by
  obtain ⟨pre, stands, passed⟩ := inv
  obtain ⟨pre', moves⟩ := stands.step
  refine ⟨⟨pre', moves.stands, fun items rest splits => ?_⟩, fun done => ?_, ?_⟩
  · cases moves.advances with
    | on stream same =>
      rw [same]
      exact passed items rest (stream ▸ splits)
    | @past i valid fits stream same =>
      have whole : Splits channels (pre ++ d.socket.flatten) (i :: items) rest :=
        ⟨List.forall_mem_cons.2 ⟨valid, splits.valid⟩, splits.incomplete, by
          rw [List.flatMap_cons, List.append_assoc, splits.stream, stream]⟩
      rw [same, List.append_assoc, ← passedOn_cons fits]
      exact passed _ _ whole
  · rcases done with empty | stuck
    · have less := moves.less
      rw [empty] at less
      exact .inl (eq_nil_of_pending less)
    · rw [stuck_step stuck]
      exact .inr stuck
  · rcases moves.progress with empty | stuck | less
    · exact .inl (.inl empty)
    · exact .inl (.inr stuck)
    · exact .inr less

theorem Total.callAgain {total : List Passed} (count : Nat) {d : SocketDescriptor} (inv : Total channels total d) :
    Total channels total (d.callAgain count) ∧ (Over d → Over (d.callAgain count)) ∧
      (Over (d.callAgain count) ∨ count = 0 ∧ d.callAgain count = d ∨ weight (d.callAgain count) < weight d) := by
  induction count generalizing d with
  | zero => exact ⟨inv, id, .inr (.inl ⟨rfl, rfl⟩)⟩
  | succ count ih =>
    obtain ⟨inv', stays, progress⟩ := inv.step
    have first : Over d.tcpReadHandler1.2 ∨ weight d.tcpReadHandler1.2 < weight d := progress.imp_left stays
    rw [SocketDescriptor.callAgain]
    dsimp only
    split
    · obtain ⟨inv'', stays', progress'⟩ := ih inv'
      refine ⟨inv'', fun done => stays' (stays done), ?_⟩
      rcases first with done | less
      · exact .inl (stays' done)
      · rcases progress' with done | ⟨-, same⟩ | less'
        · exact .inl done
        · exact .inr (.inr (by rw [same]; exact less))
        · exact .inr (.inr (less'.trans less))
    · exact ⟨inv', stays, first.imp_right .inr⟩

theorem Total.tcpReadHandler {total : List Passed} {d : SocketDescriptor} (inv : Total channels total d) :
    Total channels total d.tcpReadHandler ∧ (Over d → Over d.tcpReadHandler) ∧
      (Over d.tcpReadHandler ∨ weight d.tcpReadHandler < weight d) := by
  obtain ⟨inv', stays, done | ⟨no, -⟩ | less⟩ := inv.callAgain 2000
  · exact ⟨inv', stays, .inl done⟩
  · cases no
  · exact ⟨inv', stays, .inr less⟩

/-- After `n` calls. -/
theorem Total.iterate {total : List Passed} {d : SocketDescriptor} (inv : Total channels total d) (n : Nat) :
    Total channels total (SocketDescriptor.tcpReadHandler^[n] d) ∧
      (Over (SocketDescriptor.tcpReadHandler^[n] d) ∨
        weight (SocketDescriptor.tcpReadHandler^[n] d) + n ≤ weight d) := by
  induction n with
  | zero => exact ⟨inv, .inr (Nat.le_refl _)⟩
  | succ n ih =>
    obtain ⟨inv', before⟩ := ih
    obtain ⟨inv'', stays, progress⟩ := inv'.tcpReadHandler
    rw [Function.iterate_succ_apply']
    refine ⟨inv'', ?_⟩
    rcases before with done | before
    · exact .inl (stays done)
    · rcases progress with done | less
      · exact .inl done
      · exact .inr (by omega)

/-- What has been read of an item is not one. -/
theorem Stands.incomplete {d : SocketDescriptor} {pre : List UInt8} (stands : Stands channels d pre) :
    front channels pre = none := by
  cases stands with
  | dollar | behind => rfl
  | streamChannelId => rfl
  | size1 _ _ known | size2 _ _ known => simp [front, known]
  | packet inside =>
    have known : channels d.streamChannelId ≠ none := inside.known
    have size := inside.size
    have left := inside.left
    simp only [front, known]
    simp
    omega

/-- The packet that fills the buffer is too long. -/
theorem Stands.tooLong {d : SocketDescriptor} {pre stream rest : List UInt8} (stands : Stands channels d pre)
    (stuck : Stuck d) {i : Item} (first : front channels (pre ++ stream) = some (i, rest)) :
    i.tooLong channels = true := by
  obtain ⟨state, r, here, reads, left, rtcp, full⟩ := stuck
  cases stands with
  | dollar outside | streamChannelId outside | size1 outside | size2 outside => simp [outside] at state
  | behind _ quiet known =>
    obtain ⟨r', c, here', _, idle⟩ := quiet.exists_idle known
    obtain rfl := Option.some.inj (here.symm.trans here')
    exact absurd idle.size left
  | @packet r' hi lo got inside =>
    obtain rfl := Option.some.inj (here.symm.trans inside.here)
    have known : channels d.streamChannelId ≠ none := inside.known
    have size := inside.size
    rw [(inside.reads reads).1] at full
    simp only [front, known, List.cons_append] at first
    simp only [ne_eq, not_true_eq_false, if_false] at first
    split at first
    · rename_i whole
      cases first
      rw [tooLong_iff inside.channel, List.length_take_of_le whole]
      exact ⟨reads, by omega⟩
    · cases first

theorem Total.passed_of_over {total : List Passed} {d : SocketDescriptor} (inv : Total channels total d)
    (done : Over d) : d.passed = total := by
  obtain ⟨pre, stands, passed⟩ := inv
  rcases done with empty | ⟨state, r, here, reads, left, rtcp, full⟩
  · have nothing : Splits channels (pre ++ d.socket.flatten) [] pre :=
      ⟨nofun, stands.incomplete, by simp [empty]⟩
    simpa [passedOn] using passed _ _ nothing
  · obtain ⟨items, rest, splits⟩ := exists_splits channels (pre ++ d.socket.flatten)
    have nothing : passedOn channels items = [] := by
      cases items with
      | nil => rfl
      | cons i items =>
        have long := stands.tooLong ⟨state, r, here, reads, left, rtcp, full⟩ splits.cons_inv
        simp [passedOn, long]
    simpa [nothing] using passed _ _ splits

theorem total_opened {socket : List (List UInt8)} {items : List Item} {rest : List UInt8}
    (splits : Splits channels socket.flatten items rest) :
    Total channels (passedOn channels items) (opened channels socket) := by
  refine ⟨[], .dollar rfl fun ch => ?_, fun items' rest' splits' => ?_⟩
  · simp only [opened]
    cases channels ch with
    | none => exact .none
    | some c => exact .some (RTPInterface.isIdle_interface c)
  · obtain ⟨rfl, rfl⟩ := splits.unique splits'
    rfl

theorem passed_initial {socket : List (List UInt8)} {items : List Item} {rest : List UInt8}
    (splits : Splits channels socket.flatten items rest) (n : Nat) :
    (SocketDescriptor.tcpReadHandler^[n] (opened channels socket)).passed <+: passedOn channels items := by
  obtain ⟨pre, -, passed⟩ := ((total_opened splits).iterate n).1
  obtain ⟨items', rest', splits'⟩ := exists_splits channels
    (pre ++ (SocketDescriptor.tcpReadHandler^[n] (opened channels socket)).socket.flatten)
  exact ⟨_, passed items' rest' splits'⟩

theorem passed_of_enough {socket : List (List UInt8)} {items : List Item} {rest : List UInt8}
    (splits : Splits channels socket.flatten items rest) {n : Nat} (enough : 2 * pending socket < n) :
    (SocketDescriptor.tcpReadHandler^[n] (opened channels socket)).passed = passedOn channels items := by
  obtain ⟨inv, done | less⟩ := (total_opened splits).iterate n
  · exact inv.passed_of_over done
  · have start : weight (opened channels socket) = 2 * pending socket := by simp [weight, opened]
    omega

/-- **What is passed on, whatever pieces the stream arrives in**: the RTSP bytes and the packets of the channels that
read, in their order, each once and whole, up to the first packet that does not fit into the buffer of its channel.
After two calls for each byte and each read nothing is left to come. -/
theorem passed_in_order (channels : UInt8 → Option Channel) (socket : List (List UInt8)) {items : List Item}
    {rest : List UInt8} (splits : Splits channels socket.flatten items rest) :
    (∀ n, (SocketDescriptor.tcpReadHandler^[n] (opened channels socket)).passed <+: passedOn channels items) ∧
      ∀ n, 2 * pending socket < n →
        (SocketDescriptor.tcpReadHandler^[n] (opened channels socket)).passed = passedOn channels items :=
  ⟨passed_initial splits, fun _ => passed_of_enough splits⟩

/-- A channel of a source, one of a `RTCPInstance`, and one that nobody reads. -/
def exampleChannels (ch : UInt8) : Option Channel :=
  if ch = 0 then some ⟨true, false⟩
  else if ch = 1 then some ⟨true, true⟩
  else if ch = 2 then some ⟨false, false⟩
  else none

/-- The pieces end in a header, in a packet and between them, and the last one in a packet that does not end. -/
def examplePieces : List (List UInt8) :=
  [[82, 36], [0, 0], [], [3, 10], [11, 12, 36, 9, 36, 2, 0], [1, 7, 36, 1, 0, 1, 20, 36, 0, 0, 5, 13]]

theorem splits_example : Splits exampleChannels examplePieces.flatten
    [.requestByte 82, .packet 0 [10, 11, 12], .stray 9, .packet 2 [7], .packet 1 [20]] [36, 0, 0, 5, 13] :=
  ⟨by decide, by decide, by decide⟩

theorem passed_in_order_pieces :
    (SocketDescriptor.tcpReadHandler^[2 * pending examplePieces + 1] (opened exampleChannels examplePieces)).passed =
      [.requestByte 82, .packet 0 [10, 11, 12], .packet 1 [20]] :=
  (passed_in_order exampleChannels examplePieces splits_example).2 _ (Nat.lt_succ_self _)

/-! ## Packets that do not fit -/

theorem Item.tooLong_eq_true {i : Item} (valid : i.Valid channels) : i.tooLong channels = true ↔
    ∃ ch data c, i = .packet ch data ∧ channels ch = some c ∧ c.readHandlerProc = true ∧ c.rtcp = true ∧
      RTPInterface.maxRTCPPacketSize < data.length := by
  cases i with
  | requestByte c | stray c => simp [Item.tooLong]
  | packet ch data =>
    obtain ⟨known, short⟩ : channels ch ≠ none ∧ data.length < 2 ^ 16 := valid
    obtain ⟨c, channel⟩ := Option.ne_none_iff_exists'.1 known
    rw [tooLong_iff channel]
    constructor
    · rintro ⟨reads, more⟩
      have rtcp : c.rtcp = true := by
        by_contra no
        simp only [Channel.bufferSize, no, RTPInterface.MAX_PACKET_SIZE] at more
        simp at more
        omega
      refine ⟨ch, data, c, rfl, channel, reads, rtcp, ?_⟩
      simpa only [Channel.bufferSize, rtcp, if_true] using more
    · rintro ⟨_, _, c', same, channel', reads, rtcp, more⟩
      cases same
      cases channel.symm.trans channel'
      exact ⟨reads, by simpa only [Channel.bufferSize, rtcp, if_true] using more⟩

theorem Item.passed_ne_nil {i : Item} (long : i.tooLong channels = true) : i.passed channels ≠ [] := by
  cases i with
  | requestByte c | stray c => cases long
  | packet ch data =>
    cases channel : channels ch with
    | none => simp [Item.tooLong, channel] at long
    | some c =>
      obtain ⟨reads, more⟩ := (tooLong_iff channel).1 long
      rw [passed_packet channel reads (List.ne_nil_of_length_pos (by omega))]
      exact List.cons_ne_nil _ _

theorem passedOn_eq_iff {items : List Item} :
    passedOn channels items = items.flatMap (Item.passed channels) ↔ ∀ i ∈ items, i.tooLong channels = false := by
  induction items with
  | nil => simp [passedOn]
  | cons i items ih =>
    rw [List.forall_mem_cons, ← ih]
    cases long : i.tooLong channels with
    | true =>
      have none : passedOn channels (i :: items) = [] := by simp [passedOn, long]
      have some' := Item.passed_ne_nil long
      simp [none, some']
    | false =>
      rw [passedOn_cons long, List.flatMap_cons, List.append_right_inj]
      simp

theorem passedOn_initial {items : List Item} :
    passedOn channels items <+: items.flatMap (Item.passed channels) :=
  (List.takeWhile_prefix _).flatMap _

/-- Nothing is to be passed on of a packet that is too long, or of what is behind it. -/
theorem passedOn_before {before behind : List Item} {i : Item} (long : i.tooLong channels = true) :
    passedOn channels (before ++ i :: behind) <+: before.flatMap (Item.passed channels) := by
  induction before with
  | nil => simp [passedOn, long]
  | cons j before ih =>
    cases first : j.tooLong channels with
    | true => simp [passedOn, first]
    | false =>
      rw [List.cons_append, passedOn_cons first, List.flatMap_cons]
      exact (List.prefix_append_right_inj _).2 ih

theorem Item.eq_of_mem_passed {i : Item} {ch : UInt8} {data : List UInt8} (mem : .packet ch data ∈ i.passed channels) :
    i = .packet ch data := by
  cases i with
  | requestByte c =>
    simp only [Item.passed] at mem
    split at mem <;> simp at mem
  | stray c => cases mem
  | packet ch' data' =>
    simp only [Item.passed] at mem
    split at mem
    · split at mem
      · obtain ⟨rfl, rfl⟩ := Passed.packet.inj (List.mem_singleton.1 mem)
        rfl
      · cases mem
    · cases mem

theorem not_mem_passedOn {items : List Item} {ch : UInt8} {data : List UInt8}
    (long : (Item.packet ch data).tooLong channels = true) : .packet ch data ∉ passedOn channels items := by
  intro mem
  obtain ⟨i, taken, passed⟩ := List.mem_flatMap.1 mem
  have fits := List.all_eq_true.1 List.all_takeWhile i taken
  rw [Item.eq_of_mem_passed passed, long] at fits
  cases fits

/-- **Everything is passed on exactly if no RTCP packet is longer than its buffer**: the packets of a source always
fit. However often the connection is read, a longer one is not passed on, nor is anything behind it. -/
theorem all_passed_iff (channels : UInt8 → Option Channel) (socket : List (List UInt8)) {items : List Item}
    {rest : List UInt8} (splits : Splits channels socket.flatten items rest) :
    ((∃ n, (SocketDescriptor.tcpReadHandler^[n] (opened channels socket)).passed =
        items.flatMap (Item.passed channels)) ↔
      ∀ ch data c, .packet ch data ∈ items → channels ch = some c → c.readHandlerProc = true → c.rtcp = true →
        data.length ≤ RTPInterface.maxRTCPPacketSize) ∧
    ∀ before ch data c behind, items = before ++ .packet ch data :: behind → channels ch = some c →
      c.readHandlerProc = true → c.rtcp = true → RTPInterface.maxRTCPPacketSize < data.length → ∀ n,
        .packet ch data ∉ (SocketDescriptor.tcpReadHandler^[n] (opened channels socket)).passed ∧
        (SocketDescriptor.tcpReadHandler^[n] (opened channels socket)).passed <+:
          before.flatMap (Item.passed channels) := by
  have fit : (∀ i ∈ items, i.tooLong channels = false) ↔ ∀ ch data c, .packet ch data ∈ items →
      channels ch = some c → c.readHandlerProc = true → c.rtcp = true →
        data.length ≤ RTPInterface.maxRTCPPacketSize := by
    constructor
    · intro fits ch data c mem channel reads rtcp
      by_contra long
      have no := fits _ mem
      have yes := (Item.tooLong_eq_true (splits.valid _ mem)).2
        ⟨ch, data, c, rfl, channel, reads, rtcp, Nat.not_le.1 long⟩
      cases no.symm.trans yes
    · intro short i mem
      by_contra long
      rw [Bool.not_eq_false] at long
      obtain ⟨ch, data, c, rfl, channel, reads, rtcp, more⟩ := (Item.tooLong_eq_true (splits.valid _ mem)).1 long
      exact absurd (short ch data c mem channel reads rtcp) (Nat.not_le.2 more)
  constructor
  · rw [← fit, ← passedOn_eq_iff]
    constructor
    · rintro ⟨n, all⟩
      have sofar := passed_initial splits n
      rw [all] at sofar
      exact passedOn_initial.eq_of_length_le sofar.length_le
    · intro all
      exact ⟨2 * pending socket + 1, (passed_of_enough splits (Nat.lt_succ_self _)).trans all⟩
  · rintro before ch data c behind rfl channel reads rtcp more n
    have long : (Item.packet ch data).tooLong channels = true :=
      (Item.tooLong_eq_true (splits.valid _ (List.mem_append_right _ List.mem_cons_self))).2
        ⟨ch, data, c, rfl, channel, reads, rtcp, more⟩
    have sofar := passed_initial splits n
    exact ⟨fun mem => not_mem_passedOn long (sofar.subset mem), sofar.trans (passedOn_before long)⟩

/-- An RTCP packet that is a byte too long, and a packet of a source behind it. -/
def exampleLong : List Item := [.packet 1 (List.replicate 1457 0), .packet 0 [7]]

theorem all_passed_iff_long :
    (¬ ∃ n, (SocketDescriptor.tcpReadHandler^[n] (opened exampleChannels [exampleLong.flatMap Item.bytes])).passed =
      exampleLong.flatMap (Item.passed exampleChannels)) ∧
    ∀ n, (SocketDescriptor.tcpReadHandler^[n] (opened exampleChannels [exampleLong.flatMap Item.bytes])).passed = [] := by
  have splits : Splits exampleChannels [exampleLong.flatMap Item.bytes].flatten exampleLong [] :=
    ⟨List.forall_mem_cons.2 ⟨⟨by decide, by rw [List.length_replicate]; decide⟩, by decide⟩, rfl, by simp⟩
  obtain ⟨all, stalls⟩ := all_passed_iff exampleChannels _ splits
  constructor
  · rw [all]
    intro fits
    have short := fits 1 _ ⟨true, true⟩ List.mem_cons_self rfl rfl rfl
    rw [List.length_replicate] at short
    exact absurd short (by decide)
  · intro n
    have long : RTPInterface.maxRTCPPacketSize < (List.replicate 1457 (0 : UInt8)).length := by
      rw [List.length_replicate]
      decide
    exact List.prefix_nil.1 (stalls [] 1 _ ⟨true, true⟩ [.packet 0 [7]] rfl rfl rfl rfl long n).2

end Run

end TcpFraming

end CameraEv
