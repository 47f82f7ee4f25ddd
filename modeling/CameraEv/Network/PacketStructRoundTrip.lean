import CameraEv.Network.PacketOverflow
import CameraEv.Network.PacketStruct

/-!
# Sending a `PacketStruct` and reading it back

`blocks` lists what a packet's `writer` writes. Where the bytes of these blocks
fit the writer's buffer, the reader's keys find the same blocks and the object
that the factory builds gets the sender's fields. `End` stores its four bytes
without asking for room, so there are objects whose packet does not fit.
-/

namespace CameraEv

open Exec CPacketDefine CPacketReader

/-! ## Reading one field -/

section Fields

variable {r : CPacketReader} {blocks : List Block} {data : List UInt8} (key : List UInt8)

theorem readString_spec (reads : List.Forall₂ BlockItem.Reads r.blockItems blocks)
    (found : (blocks.find? fun b => key = b.1) = some (key, data)) (old : List UInt8) :
    r.readString key old = .ok (0, data ++ old) := by
  have search := find_reads reads key
  simp only [found] at search
  obtain ⟨item, item_found, h⟩ := search
  have length : item.length = data.length := h.length
  have bytes : load item.data 0 item.length.toNat = .ok data := by
    have taken : item.data.take data.length = data := h.data
    have room : data.length ≤ item.data.length := by
      have := congrArg List.length taken
      simp only [List.length_take] at this
      omega
    rw [length, Int.toNat_natCast, load_eq (by omega), List.drop_zero, taken]
  have nonneg : ¬ item.length < 0 := by omega
  simp only [readString, readItem, item_found, if_neg nonneg, bytes, ok_bind, pure_eq_ok]

theorem stoi_intText (x : Int32) : CPacketReader.stoi (Decimal.intText x.toInt) = .ok x := by
  have lo := Int32.le_toInt x
  have hi := Int32.toInt_lt x
  simp only [CPacketReader.stoi, Decimal.stoi_intText lo hi, Int32.ofInt_toInt, pure_eq_ok]

theorem readInt32_spec {x : Int32} (reads : List.Forall₂ BlockItem.Reads r.blockItems blocks)
    (found : (blocks.find? fun b => key = b.1) = some (key, Decimal.intText x.toInt)) (old : Int32) :
    r.readInt32 key old = .ok (0, x) := by
  simp only [readInt32, readString_spec key reads found, ok_bind, List.append_nil, stoi_intText, pure_eq_ok]

theorem readBool_spec {x : Bool} (reads : List.Forall₂ BlockItem.Reads r.blockItems blocks)
    (found : (blocks.find? fun b => key = b.1) = some (key, Decimal.intText (if x then 1 else 0))) (old : Bool) :
    r.readBool key old = .ok (0, x) := by
  have parsed : CPacketReader.stoi (Decimal.intText (if x then 1 else 0)) = .ok (if x then 1 else 0) := by
    cases x
    · exact stoi_intText 0
    · exact stoi_intText 1
  simp only [readBool, readString_spec key reads found, ok_bind, List.append_nil, parsed, pure_eq_ok]
  cases x <;> rfl

theorem readLength_spec (reads : List.Forall₂ BlockItem.Reads r.blockItems blocks)
    (found : (blocks.find? fun b => key = b.1) = some (key, data)) : r.readLength key = data.length := by
  have search := find_reads reads key
  simp only [found] at search
  obtain ⟨item, item_found, h⟩ := search
  simp only [readLength, readItem, item_found, h.length]

theorem readPointer_spec (reads : List.Forall₂ BlockItem.Reads r.blockItems blocks)
    (found : (blocks.find? fun b => key = b.1) = some (key, data)) :
    ∃ pointer, (∀ old, r.readPointer key old = (0, pointer)) ∧ pointer.take data.length = data := by
  have search := find_reads reads key
  simp only [found] at search
  obtain ⟨item, item_found, h⟩ := search
  exact ⟨item.data, fun old => by simp only [readPointer, readItem, item_found], h.data⟩

end Fields

/-! ## What a packet's writer writes -/

/-- The frame's bytes. -/
def PacketFrame.frameBytes (p : PacketFrame) : List UInt8 := p.frameBuffer.take p.frameBufferLen.toInt.toNat

namespace PacketStruct

/-- The blocks of a packet, in the order in which its `writer` writes them. -/
def blocks : PacketStruct → List Block
  | frame p =>
    [(ascii "GUID", p.cameraGuid), (ascii "StreamIndex", Decimal.intText p.streamIndex.toInt),
      (ascii "OrderNum", Decimal.intText p.orderNum.toInt), (ascii "SWidth", Decimal.intText p.streamWidth.toInt),
      (ascii "SHeight", Decimal.intText p.streamHeight.toInt), (ascii "FrameType", Decimal.intText p.frameType.toInt),
      (ascii "FPixelFormat", Decimal.intText p.framePixelFormat.toInt),
      (ascii "FWidth", Decimal.intText p.frameWidth.toInt), (ascii "FHeight", Decimal.intText p.frameHeight.toInt),
      (ascii "VCodecId", Decimal.intText p.vcodecId.toInt), (ascii "FrameData", p.frameBytes)]
  | processInfoReq p =>
    [(ascii "QueueName", p.queueName), (ascii "SyncCount", Decimal.intText p.syncCount.toInt)]
  | processInfo p =>
    [(ascii "Name", p.processName), (ascii "PID", Decimal.intText p.processId.toInt),
      (ascii "PacketVersion", p.packetVersion)]
  | streamInfo p => [(ascii "SetupFile", p.setupFile)]
  | streamRequest p =>
    [(ascii "QueueName", p.queueName), (ascii "StreamIndex", Decimal.intText p.streamIndex.toInt),
      (ascii "VideoStreaming", Decimal.intText (if p.videoStreaming then 1 else 0)),
      (ascii "FrameType", Decimal.intText p.frameType.toInt), (ascii "PixelFormat", Decimal.intText p.pixelFormat.toInt),
      (ascii "Width", Decimal.intText p.width.toInt), (ascii "Height", Decimal.intText p.height.toInt)]
  | streamStatus p =>
    [(ascii "StreamIndex", Decimal.intText p.streamIndex.toInt), (ascii "Status", Decimal.intText p.status.toInt)]

/-- The keys of each packet type. -/
def keys : PacketType → List (List UInt8)
  | .none => []
  | .frame =>
    [ascii "GUID", ascii "StreamIndex", ascii "OrderNum", ascii "SWidth", ascii "SHeight", ascii "FrameType",
      ascii "FPixelFormat", ascii "FWidth", ascii "FHeight", ascii "VCodecId", ascii "FrameData"]
  | .processInfoReq => [ascii "QueueName", ascii "SyncCount"]
  | .processInfo => [ascii "Name", ascii "PID", ascii "PacketVersion"]
  | .streamInfo => [ascii "SetupFile"]
  | .streamRequest =>
    [ascii "QueueName", ascii "StreamIndex", ascii "VideoStreaming", ascii "FrameType", ascii "PixelFormat",
      ascii "Width", ascii "Height"]
  | .streamStatus => [ascii "StreamIndex", ascii "Status"]

theorem map_fst_blocks (p : PacketStruct) : p.blocks.map Prod.fst = keys p.packetType := by
  cases p <;> rfl

theorem wellNamed_of_mem_blocks {p : PacketStruct} {b : Block} (h : b ∈ p.blocks) : WellNamed b := by
  have named : ∀ t, ∀ key ∈ keys t, key ≠ [] ∧ getBlockDataDelimiter ∉ key := by
    intro t
    cases t <;> decide
  have key : b.1 ∈ keys p.packetType := map_fst_blocks p ▸ List.mem_map_of_mem h
  exact ⟨(named _ _ key).1, (named _ _ key).2⟩

theorem length_key_le {p : PacketStruct} {b : Block} (h : b ∈ p.blocks) : b.1.length ≤ 14 := by
  have short : ∀ t, ∀ key ∈ keys t, key.length ≤ 14 := by
    intro t
    cases t <;> decide
  exact short p.packetType _ (map_fst_blocks p ▸ List.mem_map_of_mem h)

theorem length_blocks_le (p : PacketStruct) : p.blocks.length ≤ 11 := by
  cases p <;> simp [blocks]

theorem packetTypeStr_named (p : PacketStruct) :
    p.packetTypeStr ≠ [] ∧ getStartBlockDelimiter ∉ p.packetTypeStr ∧ p.packetTypeStr.length ≤ 28 := by
  cases p <;> simp only [packetTypeStr] <;> decide

/-- The sender can read the frame's bytes through its pointer. -/
def Readable : PacketStruct → Prop
  | frame p => 0 ≤ p.frameBufferLen.toInt ∧ p.frameBufferLen.toInt ≤ p.frameBuffer.length
  | _ => True

/-- Every written field; of the pointer, the bytes that it gives access to. -/
def fields : PacketStruct → PacketStruct
  | frame p => frame { p with frameBuffer := p.frameBytes }
  | p => p

theorem writer_eq {p : PacketStruct} (readable : p.Readable) (w : CPacketWriter) :
    p.writer w = (do let (_, w) ← writePacket w p.packetTypeStr p.blocks; return (0, w)) := by
  cases p with
  | frame p =>
    simp only [writer, PacketFrame.writer, writePacket, blocks, packetTypeStr, CPacketWriter.writeInt32,
      CPacketWriter.writeData_eq _ _ readable.1 readable.2, PacketFrame.frameBytes, List.foldlM_cons,
      List.foldlM_nil, bind_assoc, pure_bind]
  | _ =>
    simp only [writer, PacketProcessInfoReq.writer, PacketProcessInfo.writer, PacketStreamInfo.writer,
      PacketStreamRequest.writer, PacketStreamStatus.writer, writePacket, blocks, packetTypeStr,
      CPacketWriter.writeInt32, CPacketWriter.writeBool, List.foldlM_cons, List.foldlM_nil, bind_assoc, pure_bind]

/-! ## The round trip -/

/-- `Writer`, `DoAnalyze` on the bytes up to `GetPos()`, `CreateFactory(GetReadMainName())` and
`Reader` on the new object. Nothing is returned where the factory returns a null pointer. -/
def roundTrip (fuel : Nat) (w : CPacketWriter) (r : CPacketReader) (p : PacketStruct) : Exec (Option PacketStruct) := do
  let (_, w) ← p.writer w
  let (_, r) ← r.doAnalyze fuel ((w.buffer.getD []).take w.pos) (toInt32 w.pos)
  match createFactory r.getReadMainName with
  | none => return none
  | some q => do
    let (_, q) ← q.reader r
    return some q

/-- The round trip returns an object of the sender's dynamic type with the sender's fields. -/
def RoundTrips (fuel : Nat) (w : CPacketWriter) (r : CPacketReader) (p : PacketStruct) : Prop :=
  ∃ q, p.roundTrip fuel w r = .ok (some q) ∧ q.packetType = p.packetType ∧ q.fields = p.fields

/-- The two factories agree on the names and the types of the classes. -/
theorem createFactory_packetTypeStr (p : PacketStruct) :
    createFactory p.packetTypeStr = createFactoryOfType p.packetType := by
  cases p <;> simp only [packetTypeStr, packetType] <;> decide

theorem length_frameBytes {p : PacketFrame} (readable : (frame p).Readable) :
    (p.frameBytes.length : Int) = p.frameBufferLen.toInt := by
  obtain ⟨lo, hi⟩ := readable
  simp only [PacketFrame.frameBytes, List.length_take]
  omega

/-- The fields as a reader has them: a frame's pointer goes into the block. -/
def readBy (r : CPacketReader) : PacketStruct → PacketStruct
  | frame p => frame { p with frameBuffer := (r.readPointer (ascii "FrameData") []).2 }
  | p => p

/-- What becomes of an object `s` when the fields of `p` are read into it: each text goes before the one that is there. -/
def onto : PacketStruct → PacketStruct → PacketStruct
  | frame p, frame s => frame { p with cameraGuid := p.cameraGuid ++ s.cameraGuid }
  | processInfoReq p, processInfoReq s => processInfoReq { p with queueName := p.queueName ++ s.queueName }
  | processInfo p, processInfo s => processInfo { p with
      processName := p.processName ++ s.processName
      packetVersion := p.packetVersion ++ s.packetVersion }
  | streamInfo p, streamInfo s => streamInfo { p with setupFile := p.setupFile ++ s.setupFile }
  | streamRequest p, streamRequest s => streamRequest { p with queueName := p.queueName ++ s.queueName }
  | p, _ => p

/-- Each class's `reader` finds every field among the blocks of its `writer`, whatever the object has. -/
theorem reader_onto {r : CPacketReader} {p s : PacketStruct} (readable : p.Readable)
    (reads : List.Forall₂ BlockItem.Reads r.blockItems p.blocks) (type : s.packetType = p.packetType) :
    s.reader r = .ok (0, (p.readBy r).onto s) := by
  cases p with
  | frame p =>
    cases s with
    | frame s =>
      obtain ⟨pointer, found, -⟩ := readPointer_spec (ascii "FrameData") reads rfl
      have length : r.readLength (ascii "FrameData") = p.frameBufferLen.toInt :=
        (readLength_spec (ascii "FrameData") reads rfl).trans (length_frameBytes readable)
      simp only [reader, PacketFrame.reader, readString_spec (ascii "GUID") reads rfl,
        readInt32_spec (ascii "StreamIndex") reads rfl, readInt32_spec (ascii "OrderNum") reads rfl,
        readInt32_spec (ascii "SWidth") reads rfl, readInt32_spec (ascii "SHeight") reads rfl,
        readInt32_spec (ascii "FrameType") reads rfl, readInt32_spec (ascii "FPixelFormat") reads rfl,
        readInt32_spec (ascii "FWidth") reads rfl, readInt32_spec (ascii "FHeight") reads rfl,
        readInt32_spec (ascii "VCodecId") reads rfl, length, found, ok_bind, pure_eq_ok, Int32.ofInt_toInt, readBy, onto]
    | _ => cases type
  | processInfoReq p =>
    cases s with
    | processInfoReq s =>
      simp only [reader, PacketProcessInfoReq.reader, readString_spec (ascii "QueueName") reads rfl,
        readInt32_spec (ascii "SyncCount") reads rfl, ok_bind, pure_eq_ok]
      rfl
    | _ => cases type
  | processInfo p =>
    cases s with
    | processInfo s =>
      simp only [reader, PacketProcessInfo.reader, readString_spec (ascii "Name") reads rfl,
        readInt32_spec (ascii "PID") reads rfl, readString_spec (ascii "PacketVersion") reads rfl, ok_bind, pure_eq_ok]
      rfl
    | _ => cases type
  | streamInfo p =>
    cases s with
    | streamInfo s =>
      simp only [reader, PacketStreamInfo.reader, readString_spec (ascii "SetupFile") reads rfl, ok_bind, pure_eq_ok]
      rfl
    | _ => cases type
  | streamRequest p =>
    cases s with
    | streamRequest s =>
      simp only [reader, PacketStreamRequest.reader, readString_spec (ascii "QueueName") reads rfl,
        readInt32_spec (ascii "StreamIndex") reads rfl, readBool_spec (ascii "VideoStreaming") reads rfl,
        readInt32_spec (ascii "FrameType") reads rfl, readInt32_spec (ascii "PixelFormat") reads rfl,
        readInt32_spec (ascii "Width") reads rfl, readInt32_spec (ascii "Height") reads rfl, ok_bind, pure_eq_ok]
      rfl
    | _ => cases type
  | streamStatus p =>
    cases s with
    | streamStatus s =>
      simp only [reader, PacketStreamStatus.reader, readInt32_spec (ascii "StreamIndex") reads rfl,
        readInt32_spec (ascii "Status") reads rfl, ok_bind, pure_eq_ok]
      rfl
    | _ => cases type

/-- The bytes of a frame are behind the reader's pointer. -/
theorem fields_readBy {r : CPacketReader} {p : PacketStruct} (readable : p.Readable)
    (reads : List.Forall₂ BlockItem.Reads r.blockItems p.blocks) : (p.readBy r).fields = p.fields := by
  cases p with
  | frame p =>
    obtain ⟨pointer, found, bytes⟩ := readPointer_spec (ascii "FrameData") reads rfl
    have same : pointer.take p.frameBufferLen.toInt.toNat = p.frameBytes := by
      rw [← length_frameBytes readable, Int.toNat_natCast]
      exact bytes
    simp only [readBy, found, fields, PacketFrame.frameBytes] at same ⊢
    rw [same]
  | _ => rfl

/-- A new object gets the sender's fields. -/
theorem reader_spec {r : CPacketReader} {p : PacketStruct} (readable : p.Readable)
    (reads : List.Forall₂ BlockItem.Reads r.blockItems p.blocks) :
    ∃ fresh q, createFactoryOfType p.packetType = some fresh ∧ fresh.reader r = .ok (0, q) ∧
      q.packetType = p.packetType ∧ q.fields = p.fields := by
  have new : ∃ fresh, createFactoryOfType p.packetType = some fresh ∧ fresh.packetType = p.packetType ∧
      (p.readBy r).onto fresh = p.readBy r := by
    cases p <;> exact ⟨_, rfl, rfl, by simp only [readBy, onto, List.append_nil]⟩
  obtain ⟨fresh, made, type, same⟩ := new
  refine ⟨fresh, p.readBy r, made, ?_, ?_, fields_readBy readable reads⟩
  · rw [reader_onto readable reads type, same]
  · cases p <;> rfl

/-- The bytes of a written packet up to the cursor. -/
theorem written_bytes {p : PacketStruct} {w w' : CPacketWriter} {buffer : List UInt8} (hw : w.buffer = some buffer)
    {ret : Int} (wrote : writePacket w p.packetTypeStr p.blocks = .ok (ret, w')) :
    w'.pos = packetLength p.packetTypeStr p.blocks ∧
      (w'.buffer.getD []).take w'.pos = encodePacket p.packetTypeStr p.blocks := by
  obtain ⟨-, -, pos, rest, same, -⟩ := (writePacket_spec hw _ _).sound wrote
  have len : w'.pos = packetLength p.packetTypeStr p.blocks := by
    rw [show w'.pos = _ from pos, length_encodePacket]
  refine ⟨len, ?_⟩
  rw [len, show w'.buffer = some _ from same, Option.getD_some, ← length_encodePacket, List.take_left]

/-- The analysis of a packet whose length is an `int` finds its blocks. -/
theorem doAnalyze_packet {p : PacketStruct} (small : packetLength p.packetTypeStr p.blocks < 2 ^ 31) {fuel : Nat}
    (fueled : 11 < fuel) (r : CPacketReader) :
    r.doAnalyze fuel (encodePacket p.packetTypeStr p.blocks) (toInt32 (packetLength p.packetTypeStr p.blocks)) =
      .ok (0, { mainName := p.packetTypeStr, blockItems := recorded (etx ++ []) p.blocks }) := by
  obtain ⟨nonempty, delimited, -⟩ := packetTypeStr_named p
  have analyzed := doAnalyze_spec nonempty delimited (fun b => wellNamed_of_mem_blocks) small
    (Nat.lt_of_le_of_lt (length_blocks_le p) fueled) r []
  rw [List.append_nil] at analyzed
  rw [toInt32_eq (by omega) (by omega), analyzed]

/-- What a round trip's run is made of. The bytes up to the cursor are the packet. -/
theorem roundTrip_run {p : PacketStruct} (readable : p.Readable) {w w' : CPacketWriter} {buffer : List UInt8}
    (hw : w.buffer = some buffer) {ret : Int} (wrote : writePacket w p.packetTypeStr p.blocks = .ok (ret, w'))
    (fuel : Nat) (r : CPacketReader) :
    p.roundTrip fuel w r = (do
      let (_, r) ← r.doAnalyze fuel (encodePacket p.packetTypeStr p.blocks)
        (toInt32 (packetLength p.packetTypeStr p.blocks))
      match createFactory r.getReadMainName with
      | none => return none
      | some q => do
        let (_, q) ← q.reader r
        return some q) := by
  obtain ⟨len, bytes⟩ := written_bytes hw wrote
  simp only [roundTrip, writer_eq readable, wrote, ok_bind, pure_eq_ok, bytes]
  rw [len]

theorem roundTrips_of_fits {p : PacketStruct} (readable : p.Readable) {w : CPacketWriter} {buffer : List UInt8}
    (hw : w.buffer = some buffer) (fits : Fits buffer.length p.packetTypeStr p.blocks)
    (small : packetLength p.packetTypeStr p.blocks < 2 ^ 31) {fuel : Nat} (fueled : 11 < fuel) (r : CPacketReader) :
    p.RoundTrips fuel w r := by
  obtain ⟨⟨ret, w'⟩, wrote⟩ := (writePacket_spec hw _ _).returns fits
  obtain ⟨fresh, q, made, read, same_type, same_fields⟩ := reader_spec
    (r := { mainName := p.packetTypeStr, blockItems := recorded (etx ++ []) p.blocks }) readable (recorded_reads _ _)
  refine ⟨q, ?_, same_type, same_fields⟩
  rw [roundTrip_run readable hw wrote, doAnalyze_packet small fueled r, ok_bind]
  simp only [getReadMainName, createFactory_packetTypeStr, made, read, ok_bind, pure_eq_ok]

/-! ## The packets that come back are those that fit -/

/-- The lengths of a packet's strings and of its frame. -/
def stringsLength : PacketStruct → Nat
  | frame p => p.cameraGuid.length + p.frameBytes.length
  | processInfoReq p => p.queueName.length
  | processInfo p => p.processName.length + p.packetVersion.length
  | streamInfo p => p.setupFile.length
  | streamRequest p => p.queueName.length
  | streamStatus _ => 0

theorem sum_blockLength (blocks : List Block) :
    (blocks.map blockLength).sum =
      5 * blocks.length + ((blocks.map Prod.fst).map List.length).sum + ((blocks.map Prod.snd).map List.length).sum := by
  induction blocks with
  | nil => rfl
  | cons b blocks ih =>
    simp only [List.map_cons, List.sum_cons, List.length_cons, ih, blockLength]
    omega

theorem length_int_le (x : Int32) : (Decimal.intText x.toInt).length ≤ 11 :=
  Decimal.length_intText_le (Int32.le_toInt x) (Int32.toInt_lt x)

theorem sum_data_le (p : PacketStruct) : ((p.blocks.map Prod.snd).map List.length).sum ≤ 99 + p.stringsLength := by
  have flag : ∀ b : Bool, (Decimal.intText (if b then 1 else 0)).length ≤ 11 := by decide
  cases p with
  | frame p =>
    have h₁ := length_int_le p.streamIndex
    have h₂ := length_int_le p.orderNum
    have h₃ := length_int_le p.streamWidth
    have h₄ := length_int_le p.streamHeight
    have h₅ := length_int_le p.frameType
    have h₆ := length_int_le p.framePixelFormat
    have h₇ := length_int_le p.frameWidth
    have h₈ := length_int_le p.frameHeight
    have h₉ := length_int_le p.vcodecId
    simp only [blocks, stringsLength, List.map_cons, List.map_nil, List.sum_cons, List.sum_nil]
    omega
  | processInfoReq p =>
    have := length_int_le p.syncCount
    simp only [blocks, stringsLength, List.map_cons, List.map_nil, List.sum_cons, List.sum_nil]
    omega
  | processInfo p =>
    have := length_int_le p.processId
    simp only [blocks, stringsLength, List.map_cons, List.map_nil, List.sum_cons, List.sum_nil]
    omega
  | streamInfo p =>
    simp only [blocks, stringsLength, List.map_cons, List.map_nil, List.sum_cons, List.sum_nil]
    omega
  | streamRequest p =>
    have h₁ := length_int_le p.streamIndex
    have h₂ := flag p.videoStreaming
    have h₃ := length_int_le p.frameType
    have h₄ := length_int_le p.pixelFormat
    have h₅ := length_int_le p.width
    have h₆ := length_int_le p.height
    simp only [blocks, stringsLength, List.map_cons, List.map_nil, List.sum_cons, List.sum_nil]
    omega
  | streamStatus p =>
    have h₁ := length_int_le p.streamIndex
    have h₂ := length_int_le p.status
    simp only [blocks, stringsLength, List.map_cons, List.map_nil, List.sum_cons, List.sum_nil]
    omega

/-- Names, keys, numbers and framing take less than three hundred bytes. -/
theorem packetLength_le (p : PacketStruct) : packetLength p.packetTypeStr p.blocks ≤ 300 + p.stringsLength := by
  have keys_length : ∀ t, ((keys t).map List.length).sum ≤ 100 := by
    intro t
    cases t <;> decide
  have named := (packetTypeStr_named p).2.2
  have count := length_blocks_le p
  have short := keys_length p.packetType
  have data := sum_data_le p
  rw [packetLength, sum_blockLength, map_fst_blocks]
  omega

/-- Two strings that together fill 32 bits: the reader finds at most the first. -/
theorem only_first {p : PacketStruct} {b : Block} {blocks : List Block} (first : p.blocks = b :: blocks)
    (first_lo : 2 ^ 30 ≤ b.2.length) (first_hi : b.2.length < 2 ^ 31) (strings : p.stringsLength < 2 ^ 32)
    (huge : 2 ^ 32 ≤ packetLength p.packetTypeStr p.blocks) {r r' : CPacketReader} {fuel code : Nat} {len : Int}
    (ran : r.doAnalyze fuel (encodePacket p.packetTypeStr p.blocks) len = .ok (code, r')) :
    ∀ item ∈ r'.blockItems, item.name = b.1 := by
  obtain ⟨nonempty, delimited, short⟩ := packetTypeStr_named p
  have member : b ∈ p.blocks := first ▸ List.mem_cons_self
  have key := length_key_le member
  have total := packetLength_le p
  exact doAnalyze_overflow first nonempty delimited (by omega) (wellNamed_of_mem_blocks member) huge (by omega) first_lo
    first_hi (by omega) ran

/-- What the reader of a frame does with its first field and with its frame. -/
theorem PacketFrame.reader_ends {p q : PacketFrame} {r : CPacketReader} {ret : Nat} (read : p.reader r = .ok (ret, q)) :
    (∃ code, r.readString (ascii "GUID") p.cameraGuid = .ok (code, q.cameraGuid)) ∧
      q.frameBufferLen = Int32.ofInt (r.readLength (ascii "FrameData")) := by
  simp only [PacketFrame.reader, bind_eq_ok, pure_eq_ok, Except.ok.injEq, Prod.mk.injEq] at read
  obtain ⟨⟨code, guid⟩, got, _, -, _, -, _, -, _, -, _, -, _, -, _, -, _, -, _, -, -, rfl⟩ := read
  exact ⟨⟨code, got⟩, rfl⟩

/-- An object whose packet is read back has a packet below `2 ^ 31` bytes. -/
theorem small_of_reads {p fresh q : PacketStruct} (readable : p.Readable) {r r' : CPacketReader}
    {fuel code ret : Nat} (ran : r.doAnalyze fuel (encodePacket p.packetTypeStr p.blocks)
      (toInt32 (packetLength p.packetTypeStr p.blocks)) = .ok (code, r'))
    (made : createFactoryOfType p.packetType = some fresh) (read : fresh.reader r' = .ok (ret, q))
    (same : q.fields = p.fields) : packetLength p.packetTypeStr p.blocks < 2 ^ 31 := by
  have short := doAnalyze_length_lt ran
  have total := packetLength_le p
  have apart : ¬ (2 ^ 31 ≤ packetLength p.packetTypeStr p.blocks ∧ packetLength p.packetTypeStr p.blocks < 2 ^ 32) := by
    rintro ⟨lo, hi⟩
    rw [← List.append_nil (encodePacket _ _), toInt32_wrap (by omega) (by omega), doAnalyze_negative (by omega)] at ran
    cases ran
  suffices packetLength p.packetTypeStr p.blocks < 2 ^ 32 by omega
  cases p with
  | frame p =>
    cases made
    simp only [reader, bind_eq_ok, pure_eq_ok, Except.ok.injEq, Prod.mk.injEq] at read
    obtain ⟨⟨_, q⟩, read, -, rfl⟩ := read
    obtain ⟨⟨_, gotGuid⟩, gotLength⟩ := PacketFrame.reader_ends read
    simp only [fields, frame.injEq, PacketFrame.mk.injEq] at same
    obtain ⟨guid, -, -, -, -, -, -, -, -, -, -, length⟩ := same
    have guid_lt := readString_length_lt short gotGuid
    have frame_eq := length_frameBytes readable
    have frame_lt := Int32.toInt_lt p.frameBufferLen
    rw [guid] at guid_lt
    simp only [stringsLength] at total
    by_contra huge
    have only := only_first (p := frame p) rfl (show 2 ^ 30 ≤ p.cameraGuid.length by omega) guid_lt
      (by simp only [stringsLength]; omega) (by omega) ran
    have missing := find_missing only (show ascii "FrameData" ≠ ascii "GUID" by decide)
    simp only [readLength, readItem, missing] at gotLength
    rw [← length, gotLength] at frame_eq
    have zero : (Int32.ofInt 0).toInt = 0 := by decide
    omega
  | processInfoReq p =>
    cases made
    simp only [reader, PacketProcessInfoReq.reader, bind_eq_ok, pure_eq_ok, Except.ok.injEq, Prod.mk.injEq] at read
    obtain ⟨_, ⟨_, got, _, -, rfl⟩, -, rfl⟩ := read
    have bound := readString_length_lt short got
    have queueName := congrArg PacketProcessInfoReq.queueName (processInfoReq.inj same)
    simp only [stringsLength, ← queueName] at total
    omega
  | processInfo p =>
    cases made
    simp only [reader, PacketProcessInfo.reader, bind_eq_ok, pure_eq_ok, Except.ok.injEq, Prod.mk.injEq] at read
    obtain ⟨_, ⟨⟨_, name⟩, gotName, _, -, ⟨_, version⟩, gotVersion, rfl⟩, -, rfl⟩ := read
    have name_lt := readString_length_lt short gotName
    have version_lt := readString_length_lt short gotVersion
    obtain rfl : name = p.processName := congrArg PacketProcessInfo.processName (processInfo.inj same)
    obtain rfl : version = p.packetVersion := congrArg PacketProcessInfo.packetVersion (processInfo.inj same)
    simp only [stringsLength] at total
    by_contra huge
    have only := only_first (p := processInfo p) rfl (show 2 ^ 30 ≤ p.processName.length by omega) name_lt
      (by simp only [stringsLength]; omega) (by omega) ran
    have missing := find_missing only (show ascii "PacketVersion" ≠ ascii "Name" by decide)
    simp only [readString, readItem, missing, pure_eq_ok, Except.ok.injEq, Prod.mk.injEq] at gotVersion
    rw [← gotVersion.2, List.length_nil] at total
    omega
  | streamInfo p =>
    cases made
    simp only [reader, PacketStreamInfo.reader, bind_eq_ok, pure_eq_ok, Except.ok.injEq, Prod.mk.injEq] at read
    obtain ⟨_, ⟨_, got, rfl⟩, -, rfl⟩ := read
    have bound := readString_length_lt short got
    have setupFile := congrArg PacketStreamInfo.setupFile (streamInfo.inj same)
    simp only [stringsLength, ← setupFile] at total
    omega
  | streamRequest p =>
    cases made
    simp only [reader, PacketStreamRequest.reader, bind_eq_ok, pure_eq_ok, Except.ok.injEq, Prod.mk.injEq] at read
    obtain ⟨_, ⟨_, got, _, -, _, -, _, -, _, -, _, -, _, -, rfl⟩, -, rfl⟩ := read
    have bound := readString_length_lt short got
    have queueName := congrArg PacketStreamRequest.queueName (streamRequest.inj same)
    simp only [stringsLength, ← queueName] at total
    omega
  | streamStatus p =>
    simp only [stringsLength] at total
    omega

/-- The factory makes new objects. -/
theorem createFactory_fresh {name : List UInt8} {fresh : PacketStruct} (made : createFactory name = some fresh) :
    createFactoryOfType fresh.packetType = some fresh := by
  unfold createFactory at made
  split_ifs at made <;> cases made <;> rfl

theorem packetType_reader {p q : PacketStruct} {r : CPacketReader} {ret : Nat} (read : p.reader r = .ok (ret, q)) :
    q.packetType = p.packetType := by
  cases p <;>
  · simp only [reader, bind_eq_ok, pure_eq_ok, Except.ok.injEq, Prod.mk.injEq] at read
    obtain ⟨_, -, -, rfl⟩ := read
    rfl

/-- A packet comes back exactly when `End` finds room for its mark and the packet's length is an `int`. -/
theorem roundTrips_iff {p : PacketStruct} (readable : p.Readable) {w : CPacketWriter} {buffer : List UInt8}
    (hw : w.buffer = some buffer) {fuel : Nat} (fueled : 11 < fuel) (r : CPacketReader) :
    p.RoundTrips fuel w r ↔
      packetLength p.packetTypeStr p.blocks ≤ finalSize buffer.length p.packetTypeStr p.blocks ∧
        packetLength p.packetTypeStr p.blocks < 2 ^ 31 := by
  constructor
  · rintro ⟨q, ran, same_type, same⟩
    have wrote : ∃ ret w', writePacket w p.packetTypeStr p.blocks = .ok (ret, w') := by
      simp only [roundTrip, writer_eq readable, bind_eq_ok] at ran
      obtain ⟨_, ⟨⟨ret, w'⟩, wrote, -⟩, -⟩ := ran
      exact ⟨ret, w', wrote⟩
    obtain ⟨ret, w', wrote⟩ := wrote
    rw [roundTrip_run readable hw wrote, bind_eq_ok] at ran
    obtain ⟨⟨code, r'⟩, analyzed, ran⟩ := ran
    refine ⟨((writePacket_spec hw _ _).sound wrote).1.finish, ?_⟩
    cases made : createFactory r'.getReadMainName with
    | none =>
      simp only [made] at ran
      cases ran
    | some fresh =>
      simp only [made, bind_eq_ok, pure_eq_ok, Except.ok.injEq, Option.some.injEq] at ran
      obtain ⟨⟨ret, q⟩, read, rfl⟩ := ran
      have made' := createFactory_fresh made
      rw [← packetType_reader read, same_type] at made'
      exact small_of_reads readable analyzed made' read same
  · rintro ⟨finish, small⟩
    have named := (packetTypeStr_named p).2.2
    refine roundTrips_of_fits readable hw ⟨by omega, ?_, finish⟩ small fueled r
    refine CPacketWriter.blocksFit_of_small (by omega) ?_
    simp only [packetLength] at small
    omega

/-- **End-to-end round trip of the packet types.** Every object with a readable frame comes back
as an object of its type with its fields, exactly when its packet is no longer than the buffer
after the last `Write` and below `2 ^ 31` bytes; the two factories always agree. -/
theorem message_round_trip (p : PacketStruct) (readable : p.Readable) (w : CPacketWriter) (buffer : List UInt8)
    (hw : w.buffer = some buffer) (fuel : Nat) (fueled : 11 < fuel) (r : CPacketReader) :
    (p.RoundTrips fuel w r ↔
      packetLength p.packetTypeStr p.blocks ≤ finalSize buffer.length p.packetTypeStr p.blocks ∧
        packetLength p.packetTypeStr p.blocks < 2 ^ 31) ∧
    createFactory p.packetTypeStr = createFactoryOfType p.packetType :=
  ⟨roundTrips_iff readable hw fueled r, createFactory_packetTypeStr p⟩

/-- A frame sent through a new buffer. -/
theorem message_round_trip_frame :
    RoundTrips 12 ⟨0, some []⟩ {}
      (frame { cameraGuid := [58, 0], orderNum := -7, frameBuffer := [1, 2, 3, 4], frameBufferLen := 3 }) :=
  (message_round_trip
    (frame { cameraGuid := [58, 0], orderNum := -7, frameBuffer := [1, 2, 3, 4], frameBufferLen := 3 })
    ⟨by decide, by decide⟩ ⟨0, some []⟩ [] rfl 12 (by decide) {}).1.2 (by decide)

/-- A setup file of 978 bytes: its block fills a new buffer of 1024 bytes, and `End` stores behind it. -/
theorem message_round_trip_overflow :
    ¬ RoundTrips 12 ⟨0, some []⟩ {} (streamInfo { setupFile := List.replicate 978 65 }) := by
  have name : PacketStreamInfo.packetTypeStr.length = 23 := by decide
  have key : (ascii "SetupFile").length = 9 := by decide
  rw [roundTrips_iff (by trivial) rfl (by decide)]
  simp only [packetLength, finalSize, grownAll, blocks, blockLength, packetTypeStr, name, key, List.map_cons,
    List.map_nil, List.sum_cons, List.sum_nil, List.length_replicate, List.length_nil]
  decide

end PacketStruct

end CameraEv
