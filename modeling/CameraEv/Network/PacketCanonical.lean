import CameraEv.Network.PacketRoundTrip

/-!
# The documented layout

`PacketLayout` is the layout comment of the packet's header file as a grammar,
which neither the writer nor the reader appears in. A string of the layout is
the encoding of its parts (`PacketLayout.encoded`), so the reader's result is
known, and writing that result with a writer gives the string back where the
writer's buffer has room for it.
-/

namespace CameraEv

open Exec CPacketDefine

/-- The block items of a packet, with the names and the data of `blocks`. -/
inductive BlockLayout : List Block → List UInt8 → Prop where
  | nil : BlockLayout [] []
  | block {blocks : List Block} {bytes field name data : List UInt8} (width : field.length = 4)
      (counts : LittleEndian.decode field = 4 + name.length + 1 + data.length) (nonempty : name ≠ [])
      (delimited : getBlockDataDelimiter ∉ name) (rest : BlockLayout blocks bytes) :
      BlockLayout ((name, data) :: blocks) (field ++ (name ++ getBlockDataDelimiter :: data) ++ bytes)

/-- The sections of a packet, one behind the other. -/
structure PacketLayout (name : List UInt8) (blocks : List Block) (packet : List UInt8) : Prop where
  sections : ∃ field items, packet = stx ++ (field ++ (name ++ getStartBlockDelimiter :: items ++ etx)) ∧
    field.length = 4 ∧ LittleEndian.decode field = packet.length ∧ BlockLayout blocks items
  small : packet.length < 2 ^ 31
  nonempty : name ≠ []
  delimited : getStartBlockDelimiter ∉ name

section Layout

variable {name packet bytes : List UInt8} {blocks : List Block}

/-- A length field is the encoding of the number it holds. -/
theorem field_eq {field : List UInt8} {n : Nat} (width : field.length = 4) (counts : LittleEndian.decode field = n) :
    field = LittleEndian.encode 4 n := by
  rw [← counts, ← width, LittleEndian.encode_decode]

theorem BlockLayout.encoded (layout : BlockLayout blocks bytes) : bytes = blocks.flatMap encodeBlock := by
  induction layout with
  | nil => rfl
  | @block blocks bytes field name data width counts nonempty delimited rest ih =>
    have length : blockLength (name, data) = 4 + name.length + 1 + data.length := by
      simp only [blockLength]
      omega
    rw [List.flatMap_cons, ← ih, encodeBlock, length, ← field_eq width counts]

theorem BlockLayout.named (layout : BlockLayout blocks bytes) : ∀ b ∈ blocks, WellNamed b := by
  induction layout with
  | nil => simp
  | block width counts nonempty delimited rest ih =>
    intro b mem
    rcases List.mem_cons.1 mem with rfl | mem
    · exact ⟨nonempty, delimited⟩
    · exact ih b mem

/-- A string of the layout is determined by its name and its blocks. -/
theorem PacketLayout.encoded (layout : PacketLayout name blocks packet) :
    packet = encodePacket name blocks ∧ packetLength name blocks = packet.length := by
  obtain ⟨field, items, packet_eq, width, counts, items_layout⟩ := layout.sections
  have length : packetLength name blocks = packet.length := by
    rw [packet_eq, items_layout.encoded]
    simp only [packetLength, List.length_append, List.length_cons, length_encodeBlocks, width, stx, etx, List.length_nil]
    omega
  refine ⟨?_, length⟩
  rw [encodePacket, encodeBody, length, ← field_eq width counts, ← items_layout.encoded]
  exact packet_eq

theorem blockLayout_encode (named : ∀ b ∈ blocks, WellNamed b) (small : (blocks.map blockLength).sum < 2 ^ 32) :
    BlockLayout blocks (blocks.flatMap encodeBlock) := by
  induction blocks with
  | nil => exact .nil
  | cons b blocks ih =>
    simp only [List.map_cons, List.sum_cons] at small
    obtain ⟨nonempty, delimited⟩ := named b List.mem_cons_self
    refine .block (LittleEndian.length_encode 4 (blockLength b)) ?_ nonempty delimited
      (ih (fun c mem => named c (List.mem_cons_of_mem b mem)) (by omega))
    rw [LittleEndian.decode_encode, Nat.mod_eq_of_lt (show blockLength b < 256 ^ 4 by omega), blockLength]
    omega

/-- Every encoding of well-named parts is of the layout. -/
theorem packetLayout_encode (nonempty : name ≠ []) (delimited : getStartBlockDelimiter ∉ name)
    (named : ∀ b ∈ blocks, WellNamed b) (small : packetLength name blocks < 2 ^ 31) :
    PacketLayout name blocks (encodePacket name blocks) := by
  refine ⟨⟨_, _, rfl, LittleEndian.length_encode 4 _, ?_, ?_⟩, ?_, nonempty, delimited⟩
  · rw [LittleEndian.decode_encode, length_encodePacket]
    exact Nat.mod_eq_of_lt (show packetLength name blocks < 256 ^ 4 by omega)
  · refine blockLayout_encode named ?_
    simp only [packetLength] at small
    omega
  · rwa [length_encodePacket]

end Layout

/-! ## The reader's items -/

/-- The items lie one behind the other from `pos` to `stop`: a length field, the name, the delimiter and the data. -/
def Tiles (packet : List UInt8) : Nat → List BlockItem → Nat → Prop
  | pos, [], stop => pos = stop
  | pos, item :: items, stop =>
    item.data = packet.drop (pos + 4 + item.name.length + 1) ∧ 0 ≤ item.length ∧
      Tiles packet (pos + 4 + item.name.length + 1 + item.length.toNat) items stop

theorem tiles_recorded {front back : List UInt8} {blocks : List Block} {pos stop : Nat} (start : pos = front.length)
    (finish : stop = pos + (blocks.map blockLength).sum) :
    Tiles (front ++ (blocks.flatMap encodeBlock ++ back)) pos (CPacketReader.recorded back blocks) stop := by
  induction blocks generalizing front pos with
  | nil => simpa [Tiles, CPacketReader.recorded] using finish.symm
  | cons b blocks ih =>
    simp only [List.map_cons, List.sum_cons] at finish
    have header : (front ++ (LittleEndian.encode 4 (blockLength b) ++ (b.1 ++ [getBlockDataDelimiter]))).length =
        pos + 4 + b.1.length + 1 := by
      simp only [List.length_append, LittleEndian.length_encode, List.length_singleton, start]
      omega
    have parts : front ++ ((b :: blocks).flatMap encodeBlock ++ back) =
        (front ++ (LittleEndian.encode 4 (blockLength b) ++ (b.1 ++ [getBlockDataDelimiter]))) ++
          (b.2 ++ (blocks.flatMap encodeBlock ++ back)) := by
      simp only [List.flatMap_cons, encodeBlock, List.append_assoc, List.cons_append, List.nil_append]
    have next := @ih (front ++ encodeBlock b) (pos + blockLength b)
      (by rw [List.length_append, length_encodeBlock, start]) (by omega)
    refine ⟨?_, Int.natCast_nonneg _, ?_⟩
    · rw [parts, ← header, List.drop_left]
    · rw [Int.toNat_natCast, show pos + 4 + b.1.length + 1 + b.2.length = pos + blockLength b by
        simp only [blockLength]
        omega]
      simpa only [List.flatMap_cons, List.append_assoc] using next

/-- Writing what a reader holds: `Start`, a `Write` for each item and `End`. -/
def rewrite (w : CPacketWriter) (r : CPacketReader) : Exec (Int × CPacketWriter) := do
  let (_, w) ← w.start r.mainName
  let w ← r.blockItems.foldlM (fun w item => do return (← w.writeData item.name item.data item.length).2) w
  w.end'

theorem rewrite_eq {items : List BlockItem} {blocks : List Block} (reads : List.Forall₂ BlockItem.Reads items blocks)
    (w : CPacketWriter) (name : List UInt8) :
    rewrite w { mainName := name, blockItems := items } = writePacket w name blocks := by
  have same (w : CPacketWriter) :
      items.foldlM (fun w item => do return (← w.writeData item.name item.data item.length).2) w =
        blocks.foldlM (fun w b => do return (← w.writeString b.1 b.2).2) w := by
    induction reads generalizing w with
    | nil => rfl
    | @cons item b items blocks head reads ih =>
      have within : b.2.length ≤ item.data.length := by
        have length := congrArg List.length head.data
        rw [List.length_take] at length
        omega
      have whole : load item.data 0 b.2.length = .ok b.2 := by
        rw [load_eq (by omega), List.drop_zero, head.data]
      have one : w.writeData item.name item.data item.length = w.writeString b.1 b.2 := by
        simp only [CPacketWriter.writeData, CPacketWriter.writeString, head.name, head.length, Int.natCast_nonneg,
          if_true, Int.toNat_natCast, whole, pure_eq_ok]
      simp only [List.foldlM_cons, one, ih]
  simp only [rewrite, writePacket, same]

/-! ## The room in the writer's buffer -/

/-- The room behind the cursor at `End`: a `Write` uses up the room when its block fits there, and
otherwise gets exactly the block's length more. -/
def roomAtEnd : Nat → List Block → Nat
  | room, [] => room
  | room, b :: blocks => roomAtEnd (if blockLength b ≤ room then room - blockLength b else room) blocks

theorem grownAll_eq {blocks : List Block} {size pos : Nat} (inside : pos ≤ size)
    (small : pos + (blocks.map blockLength).sum < 2 ^ 32) :
    grownAll size pos blocks = pos + (blocks.map blockLength).sum + roomAtEnd (size - pos) blocks := by
  induction blocks generalizing size pos with
  | nil =>
    simp only [grownAll, List.map_nil, List.sum_nil, roomAtEnd]
    omega
  | cons b blocks ih =>
    simp only [List.map_cons, List.sum_cons] at small ⊢
    have len : toUInt32 (blockLength b) = blockLength b := by
      rw [toUInt32_natCast, Nat.mod_eq_of_lt (by omega)]
    have room := CPacketWriter.grown_le inside (blockLength b)
    have left : grown size pos (blockLength b) - (pos + blockLength b) =
        if blockLength b ≤ size - pos then size - pos - blockLength b else size - pos := by
      unfold grown
      split <;> split <;> omega
    rw [grownAll, len, ih room (by omega), left, roomAtEnd]
    omega

/-- The stores of a small packet land in the buffer when the head fits and `End` finds room for its mark. -/
theorem fits_iff {size : Nat} {name : List UInt8} {blocks : List Block} (small : packetLength name blocks < 2 ^ 32) :
    Fits size name blocks ↔
      9 + name.length ≤ max size 1024 ∧ 4 ≤ roomAtEnd (max size 1024 - (9 + name.length)) blocks := by
  have sum : 9 + name.length + (blocks.map blockLength).sum < 2 ^ 32 := by
    simp only [packetLength] at small
    omega
  constructor
  · rintro ⟨start, -, finish⟩
    refine ⟨start, ?_⟩
    rw [finalSize, grownAll_eq start sum, packetLength] at finish
    omega
  · rintro ⟨start, room⟩
    refine ⟨start, CPacketWriter.blocksFit_of_small start sum, ?_⟩
    rw [finalSize, grownAll_eq start sum, packetLength]
    omega

/-! ## Encode undoes decode -/

/-- The main name and the items' names and data. -/
def CPacketReader.content (r : CPacketReader) : List UInt8 × List Block :=
  (r.mainName, r.blockItems.map fun item => (item.name, item.data.take item.length.toNat))

/-- Writing what the reader holds gives the packet again. -/
def Reproduces (w : CPacketWriter) (r : CPacketReader) (packet : List UInt8) : Prop :=
  ∃ ret w' buffer, rewrite w r = .ok (ret, w') ∧ w'.buffer = some buffer ∧ w'.pos = packet.length ∧
    buffer.take w'.pos = packet

theorem content_recorded (name back : List UInt8) (blocks : List Block) :
    CPacketReader.content { mainName := name, blockItems := CPacketReader.recorded back blocks } = (name, blocks) := by
  have same : (CPacketReader.recorded back blocks).map (fun item => (item.name, item.data.take item.length.toNat)) =
      blocks := by
    induction blocks with
    | nil => rfl
    | cons b blocks ih =>
      rw [CPacketReader.recorded, List.map_cons, ih, Int.toNat_natCast, List.take_left' rfl]
  rw [CPacketReader.content, same]

theorem reproduces_iff {w : CPacketWriter} {previous : List UInt8} (hw : w.buffer = some previous)
    {name : List UInt8} {blocks : List Block} (back : List UInt8) :
    Reproduces w { mainName := name, blockItems := CPacketReader.recorded back blocks } (encodePacket name blocks) ↔
      Fits previous.length name blocks := by
  rw [Reproduces, rewrite_eq (CPacketReader.recorded_reads back blocks)]
  have written := writePacket_spec hw name blocks
  constructor
  · rintro ⟨ret, w', buffer, ran, -⟩
    exact (written.sound ran).1
  · intro fits
    obtain ⟨⟨ret, w'⟩, ran⟩ := written.returns fits
    obtain ⟨-, -, pos, rest, same, -⟩ := written.sound ran
    exact ⟨ret, w', _, ran, same, pos, by rw [show w'.pos = _ from pos, List.take_left]⟩

/-- What the reader holds after a string of the layout, whatever follows the string. -/
theorem PacketLayout.analyzed {name packet : List UInt8} {blocks : List Block} (layout : PacketLayout name blocks packet)
    {fuel : Nat} (fueled : blocks.length < fuel) (r : CPacketReader) (rest : List UInt8) :
    r.doAnalyze fuel (packet ++ rest) packet.length =
      .ok (0, { mainName := name, blockItems := CPacketReader.recorded (etx ++ rest) blocks }) := by
  obtain ⟨packet_eq, length⟩ := layout.encoded
  obtain ⟨field, items, -, -, -, items_layout⟩ := layout.sections
  have small := layout.small
  rw [← length] at small
  have analyzed := CPacketReader.doAnalyze_spec layout.nonempty layout.delimited items_layout.named small fueled r rest
  rwa [length, ← packet_eq] at analyzed

/-- **Encode undoes decode.** A string of the documented layout is read back as its name and its blocks, as
items that tile the space between the name's end and the end mark, and no other string of the layout has that
content. Writing the content gives the string, exactly where `Start` and `End`, which store without a look at
the buffer's size, stay inside the buffer. -/
theorem packet_encode_decode {name packet : List UInt8} {blocks : List Block} (layout : PacketLayout name blocks packet)
    (rest : List UInt8) (r : CPacketReader) {fuel : Nat} (fueled : blocks.length < fuel) (w : CPacketWriter)
    (previous : List UInt8) (hw : w.buffer = some previous) :
    ∃ r', r.doAnalyze fuel (packet ++ rest) packet.length = .ok (0, r') ∧ r'.content = (name, blocks) ∧
      Tiles (packet ++ rest) (9 + name.length) r'.blockItems (packet.length - 4) ∧
      (Reproduces w r' packet ↔
        9 + name.length ≤ max previous.length 1024 ∧
          4 ≤ roomAtEnd (max previous.length 1024 - (9 + name.length)) blocks) ∧
      ∀ name₂ blocks₂ packet₂ fuel₂ r₂ r₂', PacketLayout name₂ blocks₂ packet₂ → blocks₂.length < fuel₂ →
        CPacketReader.doAnalyze fuel₂ r₂ packet₂ packet₂.length = .ok (0, r₂') → r₂'.content = r'.content →
          packet₂ = packet := by
  obtain ⟨packet_eq, length⟩ := layout.encoded
  refine ⟨_, layout.analyzed fueled r rest, content_recorded name (etx ++ rest) blocks, ?_, ?_, ?_⟩
  · have head : (stx ++ LittleEndian.encode 4 (packetLength name blocks) ++ name ++ [getStartBlockDelimiter]).length =
        9 + name.length := by
      simp only [List.length_append, LittleEndian.length_encode, stx, List.length_cons, List.length_nil]
      omega
    rw [← length, packet_eq, encodePacket_blocks]
    refine tiles_recorded head.symm ?_
    simp only [packetLength]
    omega
  · rw [packet_eq, reproduces_iff hw]
    apply fits_iff
    rw [length]
    exact layout.small.trans (by decide)
  · intro name₂ blocks₂ packet₂ fuel₂ r₂ r₂' layout₂ fueled₂ ran same
    have known := layout₂.analyzed fueled₂ r₂ []
    rw [List.append_nil, ran] at known
    obtain rfl := (Prod.mk.inj (Except.ok.inj known)).2
    rw [content_recorded, content_recorded] at same
    obtain ⟨rfl, rfl⟩ := Prod.mk.inj same
    rw [packet_eq, layout₂.encoded.1]

/-- Two blocks of one name, with a delimiter and a NUL in the data, through a new writer. -/
theorem packet_encode_decode_fresh :
    let packet := encodePacket [65, 58] [([107], [58, 0]), ([107], [])]
    ∃ r', CPacketReader.doAnalyze 3 {} packet packet.length = .ok (0, r') ∧ Reproduces ⟨0, some []⟩ r' packet := by
  intro packet
  have layout : PacketLayout [65, 58] [([107], [58, 0]), ([107], [])] packet := by
    apply packetLayout_encode (by decide) (by decide) ?_ (by decide)
    intro b mem
    simp only [List.mem_cons, List.not_mem_nil, or_false] at mem
    rcases mem with rfl | rfl <;> exact ⟨by decide, by decide⟩
  obtain ⟨r', ran, -, -, reproduced, -⟩ :=
    packet_encode_decode layout [] {} (show 2 < 3 by decide) ⟨0, some []⟩ [] rfl
  rw [List.append_nil] at ran
  exact ⟨r', ran, reproduced.2 (by decide)⟩

/-- A block that fills the buffer of a new writer to its 1024 bytes: `End` stores behind it. -/
theorem packet_encode_decode_full :
    let packet := encodePacket [65] [([107], List.replicate 1008 0)]
    PacketLayout [65] [([107], List.replicate 1008 0)] packet ∧
      ∃ r', CPacketReader.doAnalyze 2 {} packet packet.length = .ok (0, r') ∧ ¬ Reproduces ⟨0, some []⟩ r' packet := by
  intro packet
  have layout : PacketLayout [65] [([107], List.replicate 1008 0)] packet := by
    apply packetLayout_encode (by decide) (by decide) ?_ ?_
    · intro b mem
      obtain rfl := List.mem_singleton.1 mem
      exact ⟨by decide, by decide⟩
    · simp only [packetLength, blockLength, List.map_cons, List.map_nil, List.sum_cons, List.sum_nil,
        List.length_replicate]
      decide
  have ran := layout.analyzed (show 1 < 2 by decide) {} []
  rw [List.append_nil] at ran
  refine ⟨layout, _, ran, ?_⟩
  rw [reproduces_iff (show (⟨0, some []⟩ : CPacketWriter).buffer = some [] from rfl), fits_iff]
  · simp only [roomAtEnd, blockLength, List.length_replicate]
    decide
  · simp only [packetLength, blockLength, List.map_cons, List.map_nil, List.sum_cons, List.sum_nil,
      List.length_replicate]
    decide

end CameraEv
