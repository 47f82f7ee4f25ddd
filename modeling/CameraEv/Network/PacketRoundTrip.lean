import CameraEv.Network.PacketLayout

/-!
# Reading a written packet

The reader finds the main name and the blocks in every memory that starts with
the bytes of a packet (`doAnalyze_spec`). That statement does not mention the
writer; the round trip composes it with `writePacket_spec`.
-/

namespace CameraEv

open Exec CPacketDefine

/-! ## The reader -/

/-- A block name that a reader can find the end of. -/
structure WellNamed (b : Block) : Prop where
  nonempty : b.1 ≠ []
  delimited : getBlockDataDelimiter ∉ b.1

/-- The item names the block and points to its data. -/
structure CPacketDefine.BlockItem.Reads (item : BlockItem) (b : Block) : Prop where
  name : item.name = b.1
  length : item.length = b.2.length
  data : item.data.take b.2.length = b.2

namespace CPacketDefine

theorem pointer_append {front back : List UInt8} {pos : Int} (h : pos = front.length) :
    pointer (front ++ back) pos = .ok back := by
  subst h
  have inside : (0 : Int) ≤ front.length ∧ (front.length : Int) ≤ (front ++ back).length := by
    simp only [List.length_append]
    omega
  simp only [pointer, if_pos inside, Int.toNat_natCast, List.drop_left, pure_eq_ok]

theorem sameBytes_append (bytes mem : List UInt8) : sameBytes (bytes ++ mem) bytes = .ok true := by
  induction bytes with
  | nil => cases mem <;> rfl
  | cons b bytes ih => simpa only [List.cons_append, sameBytes, ne_eq, not_true_eq_false, if_false] using ih

theorem takeName_append {stop : UInt8} {name : List UInt8} (nonempty : name ≠ []) (delimited : stop ∉ name)
    (mem : List UInt8) : takeName stop (name ++ stop :: mem) = .ok name := by
  induction name with
  | nil => exact absurd rfl nonempty
  | cons b name ih =>
    cases name with
    | nil => simp only [List.cons_append, List.nil_append, takeName, ne_eq, not_true_eq_false, if_false, pure_eq_ok]
    | cons c name =>
      have rest := ih (by simp) fun h => delimited (List.mem_cons_of_mem b h)
      have differs : c ≠ stop := fun h => delimited (by simp [h])
      simp only [List.cons_append] at rest
      simp only [List.cons_append, takeName, differs, ne_eq, not_false_eq_true, if_true, rest, ok_bind, pure_eq_ok]

theorem load_encode (n : Nat) (mem : List UInt8) :
    load (LittleEndian.encode 4 n ++ mem) 0 4 = .ok (LittleEndian.encode 4 n) := by
  rw [load_eq (by simp only [List.length_append, LittleEndian.length_encode]; omega), List.drop_zero,
    List.take_left' (LittleEndian.length_encode 4 n)]

theorem getBlockLength_encodeBlock {b : Block} (small : blockLength b < 2 ^ 32) (mem : List UInt8) :
    getBlockLength (encodeBlock b ++ mem) = .ok (blockLength b) := by
  simp only [getBlockLength, encodeBlock, List.append_assoc, getSizeBlockLength, load_encode, ok_bind,
    LittleEndian.decode_encode, pure_eq_ok]
  rw [Nat.mod_eq_of_lt (show blockLength b < 256 ^ 4 from small)]

theorem getBlock_encodeBlock {b : Block} (named : WellNamed b) (small : blockLength b < 2 ^ 32) (mem : List UInt8) :
    getBlock (encodeBlock b ++ mem) = .ok { name := b.1, data := b.2 ++ mem, length := toInt32 b.2.length } := by
  have rest : encodeBlock b ++ mem =
      LittleEndian.encode 4 (blockLength b) ++ (b.1 ++ getBlockDataDelimiter :: (b.2 ++ mem)) := by
    simp only [encodeBlock, List.append_assoc, List.cons_append]
  have toName : pointer (encodeBlock b ++ mem) getSizeBlockLength =
      .ok (b.1 ++ getBlockDataDelimiter :: (b.2 ++ mem)) := by
    rw [rest]
    exact pointer_append (by rw [LittleEndian.length_encode]; rfl)
  have toData : pointer (encodeBlock b ++ mem) (getSizeBlockLength + b.1.length + 1 : Nat) = .ok (b.2 ++ mem) := by
    rw [rest, ← List.append_assoc, ← List.singleton_append, ← List.append_assoc]
    refine pointer_append ?_
    simp only [List.length_append, LittleEndian.length_encode, List.length_singleton, getSizeBlockLength]
  have dataLength : (blockLength b : Int) - (getSizeBlockLength + 1 + b.1.length : Nat) = b.2.length := by
    simp only [blockLength, getSizeBlockLength]
    omega
  simp only [getBlock, getBlockLength_encodeBlock small, ok_bind, toName,
    takeName_append named.nonempty named.delimited, toData, dataLength, pure_eq_ok]

section Packet

variable (name : List UInt8) (blocks : List Block) (rest : List UInt8)

/-- The packet up to its main name. -/
theorem encodePacket_name : encodePacket name blocks ++ rest =
    (stx ++ LittleEndian.encode 4 (packetLength name blocks)) ++
      (name ++ getStartBlockDelimiter :: (blocks.flatMap encodeBlock ++ (etx ++ rest))) := by
  simp only [encodePacket, encodeBody, List.append_assoc, List.cons_append]

/-- The packet up to its first block. -/
theorem encodePacket_blocks : encodePacket name blocks ++ rest =
    (stx ++ LittleEndian.encode 4 (packetLength name blocks) ++ name ++ [getStartBlockDelimiter]) ++
      (blocks.flatMap encodeBlock ++ (etx ++ rest)) := by
  simp only [encodePacket_name, List.append_assoc, List.cons_append, List.nil_append]

/-- The packet up to its end mark. -/
theorem encodePacket_end : encodePacket name blocks ++ rest =
    (stx ++ LittleEndian.encode 4 (packetLength name blocks) ++ encodeBody name blocks) ++ (etx ++ rest) := by
  simp only [encodePacket, List.append_assoc]

theorem hasSTX_encodePacket : hasSTX (encodePacket name blocks ++ rest) = .ok true := by
  simp only [encodePacket_name, List.append_assoc]
  exact sameBytes_append stx _

theorem hasETX_encodePacket : hasETX (encodePacket name blocks ++ rest) (packetLength name blocks) = .ok true := by
  rw [hasETX, encodePacket_end, pointer_append]
  · exact sameBytes_append etx rest
  · simp only [getPosETX, getSizeETX, packetLength, List.length_append, LittleEndian.length_encode, length_encodeBody,
      stx, etx, List.length_cons, List.length_nil]
    omega

/-- The length field keeps the packet's length modulo `2 ^ 32`. -/
theorem getMainLength_encodePacket :
    getMainLength (encodePacket name blocks ++ rest) = .ok (packetLength name blocks % 2 ^ 32) := by
  have field : load (encodePacket name blocks ++ rest) getPosMainLength getSizeMainLength =
      .ok (LittleEndian.encode 4 (packetLength name blocks)) := by
    rw [load_eq]
    · rw [encodePacket_name, List.append_assoc]
      exact congrArg _ (List.take_left' (LittleEndian.length_encode 4 _))
    · simp only [List.length_append, length_encodePacket, packetLength, getPosMainLength, getPosSTX, getSizeSTX, stx,
        getSizeMainLength, List.length_cons, List.length_nil]
      omega
  simp only [getMainLength, field, ok_bind, LittleEndian.decode_encode, pure_eq_ok]
  rfl

theorem getMainName_encodePacket (nonempty : name ≠ []) (delimited : getStartBlockDelimiter ∉ name) :
    getMainName (encodePacket name blocks ++ rest) = .ok name := by
  rw [getMainName, encodePacket_name, pointer_append]
  · exact takeName_append nonempty delimited _
  · simp only [List.length_append, LittleEndian.length_encode]
    rfl

end Packet

end CPacketDefine

namespace CPacketReader

/-- The items of `blocks` in front of `back`: each points to its data and all that is behind it. -/
def recorded (back : List UInt8) : List Block → List BlockItem
  | [] => []
  | b :: blocks =>
    { name := b.1, data := b.2 ++ (blocks.flatMap encodeBlock ++ back), length := b.2.length } :: recorded back blocks

theorem recorded_reads (back : List UInt8) (blocks : List Block) :
    List.Forall₂ BlockItem.Reads (recorded back blocks) blocks := by
  induction blocks with
  | nil => exact .nil
  | cons b blocks ih => exact .cons ⟨rfl, rfl, List.take_left' rfl⟩ ih

/-- The block loop, from the first of `blocks` to the end mark. -/
theorem analyzeBlocks_spec {front back : List UInt8} {blocks : List Block} {nEndPos : Int} {fuel : Nat}
    (named : ∀ b ∈ blocks, WellNamed b) (fueled : blocks.length < fuel)
    (finish : nEndPos = front.length + (blocks.map blockLength).sum) (small : nEndPos < 2 ^ 31)
    (items : List BlockItem) :
    analyzeBlocks (front ++ (blocks.flatMap encodeBlock ++ back)) nEndPos fuel front.length items =
      .ok (items ++ recorded back blocks) := by
  induction blocks generalizing front fuel items with
  | nil =>
    obtain ⟨fuel, rfl⟩ := Nat.exists_eq_succ_of_ne_zero (show fuel ≠ 0 by omega)
    have done : ¬ (front.length : Int) < nEndPos := by
      simp only [List.map_nil, List.sum_nil] at finish
      omega
    simp only [analyzeBlocks, if_neg done, pure_eq_ok, recorded, List.append_nil]
  | cons b blocks ih =>
    obtain ⟨fuel, rfl⟩ := Nat.exists_eq_succ_of_ne_zero (show fuel ≠ 0 by omega)
    simp only [List.map_cons, List.sum_cons] at finish
    have positive : 5 ≤ blockLength b := by
      simp only [blockLength]
      omega
    have next : toInt32 (front.length + blockLength b) = (front ++ encodeBlock b).length := by
      rw [toInt32_eq (by omega) (by omega), List.length_append, length_encodeBlock]
      rfl
    let item : BlockItem := { name := b.1, data := b.2 ++ (blocks.flatMap encodeBlock ++ back), length := b.2.length }
    have dataLength : toInt32 b.2.length = b.2.length := by
      simp only [blockLength] at positive finish
      exact toInt32_eq (by omega) (by omega)
    have finish' : nEndPos = (front ++ encodeBlock b).length + (blocks.map blockLength).sum := by
      simp only [List.length_append, length_encodeBlock]
      omega
    have rest := ih (fun c h => named c (List.mem_cons_of_mem b h)) (Nat.lt_of_succ_lt_succ fueled) finish'
      (items ++ [item])
    simp only [analyzeBlocks, if_pos (show (front.length : Int) < nEndPos by omega), List.flatMap_cons,
      List.append_assoc, pointer_append rfl, ok_bind, getBlockLength_encodeBlock (show blockLength b < 2 ^ 32 by omega),
      getBlock_encodeBlock (named b List.mem_cons_self) (show blockLength b < 2 ^ 32 by omega), dataLength, next]
    simpa only [recorded, item, List.append_assoc, List.singleton_append] using rest

/-- The reader finds the main name and the blocks in every memory that starts with the packet. -/
theorem doAnalyze_spec {name : List UInt8} {blocks : List Block} {fuel : Nat} (nonempty : name ≠ [])
    (delimited : getStartBlockDelimiter ∉ name) (named : ∀ b ∈ blocks, WellNamed b)
    (small : packetLength name blocks < 2 ^ 31) (fueled : blocks.length < fuel) (r : CPacketReader)
    (rest : List UInt8) :
    r.doAnalyze fuel (encodePacket name blocks ++ rest) (packetLength name blocks) =
      .ok (0, { mainName := name, blockItems := recorded (etx ++ rest) blocks }) := by
  have head : (stx ++ LittleEndian.encode 4 (packetLength name blocks) ++ name ++ [getStartBlockDelimiter]).length =
      9 + name.length := by
    simp only [List.length_append, LittleEndian.length_encode, stx, List.length_cons, List.length_nil]
    omega
  have finish : toInt32 (getPosSTX + packetLength name blocks - getSizeETX) =
      (9 + name.length : Nat) + (blocks.map blockLength).sum := by
    simp only [getPosSTX, getSizeETX, etx, List.length_cons, List.length_nil, packetLength] at small ⊢
    rw [toInt32_eq (by omega) (by omega)]
    omega
  have first : toInt32 (getPosMainName + name.length + 1) = (9 + name.length : Nat) := by
    simp only [getPosMainName, getPosMainLength, getPosSTX, getSizeSTX, stx, getSizeMainLength, List.length_cons,
      List.length_nil, packetLength] at small ⊢
    rw [toInt32_eq (by omega) (by omega)]
    omega
  have loop := @analyzeBlocks_spec _ (etx ++ rest) blocks _ fuel named fueled
    (finish.trans (congrArg (fun n : Nat => (n : Int) + (blocks.map blockLength).sum) head.symm)) (toInt32_lt _) []
  rw [← encodePacket_blocks, head, finish] at loop
  have named' : name.isEmpty = false := by simpa using nonempty
  simp only [doAnalyze, clear, hasSTX_encodePacket, hasETX_encodePacket, getMainName_encodePacket name blocks rest
    nonempty delimited, getMainLength_encodePacket name blocks rest, Nat.mod_eq_of_lt (show packetLength name blocks < 2 ^ 32 by omega),
    ok_bind, Bool.not_true,
    Bool.false_eq_true, if_false, named', finish, first, loop, pure_eq_ok, List.nil_append]

/-- Searching the items for a name finds the item of the first block of that name. -/
theorem find_reads {items : List BlockItem} {blocks : List Block} (reads : List.Forall₂ BlockItem.Reads items blocks)
    (name : List UInt8) :
    match blocks.find? fun b => name = b.1 with
    | some b => ∃ item, (items.find? fun item => name = item.name) = some item ∧ item.Reads b
    | none => (items.find? fun item => name = item.name) = none := by
  induction reads with
  | nil => rfl
  | @cons item b items blocks h reads ih =>
    by_cases found : name = b.1
    · have found' : name = item.name := found.trans h.name.symm
      simp only [List.find?_cons_of_pos (p := fun b : Block => decide (name = b.1)) (decide_eq_true found)]
      exact ⟨item, List.find?_cons_of_pos (decide_eq_true found'), h⟩
    · have missed : ¬ name = item.name := fun h' => found (h'.trans h.name)
      simpa only [List.find?_cons, found, missed, decide_false] using ih

end CPacketReader

/-! ## Round trip -/

/-- A call of one of the two `Write` overloads for blocks of bytes. -/
inductive WriteCall where
  | data (name bytes : List UInt8)
  | string (name bytes : List UInt8)

namespace WriteCall

def block : WriteCall → Block
  | data name bytes => (name, bytes)
  | string name bytes => (name, bytes)

def run (w : CPacketWriter) : WriteCall → Exec (Int × CPacketWriter)
  | data name bytes => w.writeData name bytes bytes.length
  | string name bytes => w.writeString name bytes

theorem run_eq (w : CPacketWriter) (c : WriteCall) : c.run w = w.writeString c.block.1 c.block.2 := by
  cases c with
  | data name bytes => exact CPacketWriter.writeData_length w name bytes
  | string name bytes => rfl

end WriteCall

/-- `Start`, the `Write` calls and `End`. -/
def writeCalls (w : CPacketWriter) (name : List UInt8) (calls : List WriteCall) : Exec (Int × CPacketWriter) := do
  let (_, w) ← w.start name
  let w ← calls.foldlM (fun w c => do return (← c.run w).2) w
  w.end'

theorem writeCalls_eq (w : CPacketWriter) (name : List UInt8) (calls : List WriteCall) :
    writeCalls w name calls = writePacket w name (calls.map WriteCall.block) := by
  simp only [writeCalls, writePacket, List.foldlM_map, WriteCall.run_eq]

/-- **Packet decode undoes encode.** A packet whose stores all land inside the buffer is read
back whatever the buffer held before it and after it, and whatever the reader held. -/
theorem packet_decode_encode (w w' : CPacketWriter) (previous : List UInt8) (hw : w.buffer = some previous)
    (r : CPacketReader) (name : List UInt8) (calls : List WriteCall) (nonempty : name ≠ [])
    (delimited : getStartBlockDelimiter ∉ name) (named : ∀ c ∈ calls, WellNamed c.block)
    (small : packetLength name (calls.map WriteCall.block) < 2 ^ 31) (ret : Int)
    (ran : writeCalls w name calls = .ok (ret, w')) :
    ∃ buffer, w'.buffer = some buffer ∧
      w'.pos = 13 + name.length + (calls.map fun c => 5 + c.block.1.length + c.block.2.length).sum ∧
      ret = w'.pos ∧ getMainLength buffer = .ok w'.pos ∧
      ∀ fuel > calls.length, ∃ r', r.doAnalyze fuel buffer w'.pos = .ok (0, r') ∧
        r'.getReadMainName = name ∧ List.Forall₂ BlockItem.Reads r'.blockItems (calls.map WriteCall.block) ∧
        ∀ key, match (calls.map WriteCall.block).find? fun b => key = b.1 with
          | some b => (∃ item, (∀ data, r'.readItem key data = (0, item)) ∧ item.Reads b) ∧
              r'.readLength key = b.2.length
          | none => (∀ data, r'.readItem key data = (1, data)) ∧ r'.readLength key = 0 := by
  rw [writeCalls_eq] at ran
  obtain ⟨-, ret_eq, pos, rest, buffer, -⟩ := (writePacket_spec hw name _).sound ran
  rw [length_encodePacket] at pos
  have sum_eq : (calls.map fun c => 5 + c.block.1.length + c.block.2.length).sum =
      ((calls.map WriteCall.block).map blockLength).sum := by
    simp only [List.map_map]
    rfl
  have named' : ∀ b ∈ calls.map WriteCall.block, WellNamed b := by
    intro b member
    obtain ⟨c, called, rfl⟩ := List.mem_map.1 member
    exact named c called
  refine ⟨_, buffer, ?_, ?_, ?_, ?_⟩
  · rw [sum_eq, pos, packetLength]
  · simp only at ret_eq pos
    rw [ret_eq, pos, toInt32_eq (by omega) (by omega)]
  · rw [pos, getMainLength_encodePacket, Nat.mod_eq_of_lt (by omega)]
  · intro fuel fueled
    have analyzed := CPacketReader.doAnalyze_spec nonempty delimited named' small (by simpa using fueled) r rest
    have reads := CPacketReader.recorded_reads (etx ++ rest) (calls.map WriteCall.block)
    rw [pos]
    refine ⟨_, analyzed, rfl, reads, ?_⟩
    intro key
    have search := CPacketReader.find_reads reads key
    cases first : (calls.map WriteCall.block).find? fun b => decide (key = b.1) with
    | none =>
      simp only [first] at search
      simp only [CPacketReader.readItem, CPacketReader.readLength, search, implies_true, and_self]
    | some b =>
      simp only [first] at search
      obtain ⟨item, found, item_reads⟩ := search
      simp only [CPacketReader.readItem, CPacketReader.readLength, found]
      exact ⟨⟨item, fun _ => rfl, item_reads⟩, item_reads.length⟩

/-- A second packet in a reused buffer, with marks and delimiters in its data. -/
theorem packet_decode_encode_reused :
    ∃ ret w' buffer, writeCalls ⟨7, some (etx ++ etx)⟩ [65, 58]
        [.string [107] (stx ++ etx), .data [108, 0] [], .string [107] [58, 0]] = .ok (ret, w') ∧
      w'.buffer = some buffer ∧ w'.pos = 44 ∧
      ∃ r', CPacketReader.doAnalyze 4 ⟨[1], []⟩ buffer w'.pos = .ok (0, r') ∧ r'.getReadMainName = [65, 58] ∧
        r'.readLength [107] = 8 ∧ r'.readLength [108, 0] = 0 := by
  have hw : (⟨7, some (etx ++ etx)⟩ : CPacketWriter).buffer = some (etx ++ etx) := rfl
  have fits : Fits (etx ++ etx).length [65, 58]
      [([107], stx ++ etx), ([108, 0], []), ([107], [58, 0])] := by
    constructor
    · decide
    · simp [BlocksFit, blockLength, grown, toUInt32, stx, etx]
    · decide
  obtain ⟨⟨ret, w'⟩, ran⟩ := (writePacket_spec hw _ _).returns fits
  have ran' : writeCalls ⟨7, some (etx ++ etx)⟩ [65, 58]
      [.string [107] (stx ++ etx), .data [108, 0] [], .string [107] [58, 0]] = .ok (ret, w') := by
    rw [writeCalls_eq]
    exact ran
  obtain ⟨buffer, same, pos, -, -, analyzed⟩ := packet_decode_encode _ w' (etx ++ etx) hw ⟨[1], []⟩ [65, 58]
    [.string [107] (stx ++ etx), .data [108, 0] [], .string [107] [58, 0]] (by decide) (by decide)
    (by
      intro c member
      simp only [List.mem_cons, List.not_mem_nil, or_false] at member
      rcases member with rfl | rfl | rfl <;> exact ⟨by decide, by decide⟩)
    (by decide) ret ran'
  obtain ⟨r', done, mainName, -, keys⟩ := analyzed 4 (by decide)
  exact ⟨ret, w', buffer, ran', same, pos, r', done, mainName, (keys [107]).2, (keys [108, 0]).2⟩

end CameraEv
