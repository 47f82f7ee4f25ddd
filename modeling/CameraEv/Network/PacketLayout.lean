import CameraEv.Network.PacketDefine

/-!
# The bytes of a packet

`encodePacket` is the layout of a packet as a byte string. The writer puts that
string at the start of its buffer, whatever the buffer held, exactly when its
stores land inside the buffer (`Fits`).
-/

namespace CameraEv

open Exec CPacketDefine

/-- A block's name and its data. -/
abbrev Block := List UInt8 × List UInt8

def blockLength (b : Block) : Nat := 5 + b.1.length + b.2.length

def packetLength (name : List UInt8) (blocks : List Block) : Nat :=
  13 + name.length + (blocks.map blockLength).sum

def encodeBlock (b : Block) : List UInt8 :=
  LittleEndian.encode 4 (blockLength b) ++ (b.1 ++ getBlockDataDelimiter :: b.2)

/-- What follows the length field, up to the end mark. -/
def encodeBody (name : List UInt8) (blocks : List Block) : List UInt8 :=
  name ++ getStartBlockDelimiter :: blocks.flatMap encodeBlock

def encodePacket (name : List UInt8) (blocks : List Block) : List UInt8 :=
  stx ++ (LittleEndian.encode 4 (packetLength name blocks) ++ (encodeBody name blocks ++ etx))

@[simp] theorem length_encodeBlock (b : Block) : (encodeBlock b).length = blockLength b := by
  simp only [encodeBlock, List.length_append, LittleEndian.length_encode, List.length_cons, blockLength]
  omega

theorem length_encodeBlocks (blocks : List Block) :
    (blocks.flatMap encodeBlock).length = (blocks.map blockLength).sum := by
  simp only [List.length_flatMap, length_encodeBlock]

theorem length_encodeBody (name : List UInt8) (blocks : List Block) :
    (encodeBody name blocks).length = name.length + 1 + (blocks.map blockLength).sum := by
  simp only [encodeBody, List.length_append, List.length_cons, length_encodeBlocks]
  omega

@[simp] theorem length_encodePacket (name : List UInt8) (blocks : List Block) :
    (encodePacket name blocks).length = packetLength name blocks := by
  simp only [encodePacket, List.length_append, LittleEndian.length_encode, length_encodeBody, packetLength, stx, etx,
    List.length_cons, List.length_nil]
  omega

theorem toInt32_eq {x : Int} (lo : -2 ^ 31 ≤ x) (hi : x < 2 ^ 31) : toInt32 x = x := by
  unfold toInt32
  exact Int.bmod_eq_of_le (by omega) (by omega)

theorem toInt32_wrap {x : Int} (lo : 2 ^ 31 ≤ x) (hi : x < 2 ^ 32) : toInt32 x = x - 2 ^ 32 := by
  have lap := Int.sub_mul_bmod_self_right x 1 (2 ^ 32)
  rw [one_mul] at lap
  rw [toInt32, ← lap]
  exact Int.bmod_eq_of_le (by omega) (by omega)

theorem toInt32_lt (x : Int) : toInt32 x < 2 ^ 31 := by
  unfold toInt32
  exact Int.bmod_lt (by decide)

theorem toUInt32_natCast {n : Nat} : toUInt32 n = n % 2 ^ 32 := by
  unfold toUInt32
  omega

/-! ## The writer -/

/-- The buffer's size after `CheckBuffer(len)` at `pos`. -/
def grown (size pos len : Nat) : Nat := if pos + len > size then size + len else size

/-- The buffer's size after the `Write`s of `blocks` from `pos` on. -/
def grownAll : Nat → Nat → List Block → Nat
  | size, _, [] => size
  | size, pos, b :: bs => grownAll (grown size pos (toUInt32 (blockLength b))) (pos + blockLength b) bs

/-- Every `Write` stores inside the buffer that its `CheckBuffer` left. -/
def BlocksFit : Nat → Nat → List Block → Prop
  | _, _, [] => True
  | size, pos, b :: bs =>
    pos + blockLength b ≤ grown size pos (toUInt32 (blockLength b)) ∧
      BlocksFit (grown size pos (toUInt32 (blockLength b))) (pos + blockLength b) bs

/-- The buffer's size when `End` is reached, for a buffer of `size` bytes before `Start`. -/
def finalSize (size : Nat) (name : List UInt8) (blocks : List Block) : Nat :=
  grownAll (max size 1024) (9 + name.length) blocks

/-- Every store of the packet's writing is inside the buffer. Only `Write` checks the buffer's
size, `Start` and `End` do not. -/
structure Fits (size : Nat) (name : List UInt8) (blocks : List Block) : Prop where
  start : 9 + name.length ≤ max size 1024
  writes : BlocksFit (max size 1024) (9 + name.length) blocks
  finish : packetLength name blocks ≤ finalSize size name blocks

/-- `Start`, a `Write` for each block and `End`. -/
def writePacket (w : CPacketWriter) (name : List UInt8) (blocks : List Block) : Exec (Int × CPacketWriter) := do
  let (_, w) ← w.start name
  let w ← blocks.foldlM (fun w b => do return (← w.writeString b.1 b.2).2) w
  w.end'

namespace CPacketWriter

/-- The cursor stands after `bytes`, which are the start of a buffer of `size` bytes. -/
structure Written (size : Nat) (bytes : List UInt8) (w : CPacketWriter) : Prop where
  pos : w.pos = bytes.length
  buffer : ∃ rest, w.buffer = some (bytes ++ rest) ∧ (bytes ++ rest).length = size

variable {w : CPacketWriter} {size : Nat} {bytes : List UInt8}

theorem Written.le (h : Written size bytes w) : bytes.length ≤ size := by
  obtain ⟨rest, -, len⟩ := h.buffer
  simp only [List.length_append] at len
  omega

theorem overwrite_end (bytes rest src : List UInt8) :
    overwrite (bytes ++ rest) bytes.length src = bytes ++ src ++ rest.drop src.length := by
  simp only [overwrite, List.take_left, List.append_assoc, List.drop_append, List.drop_eq_nil_of_le
    (show bytes.length ≤ bytes.length + src.length by omega), List.nil_append]
  congr 2
  rw [show bytes.length + src.length - bytes.length = src.length by omega]

theorem overwrite_middle {front old src back : List UInt8} (len : old.length = src.length) :
    overwrite (front ++ (old ++ back)) front.length src = front ++ (src ++ back) := by
  rw [overwrite_end, List.append_assoc, ← len, List.drop_left]

theorem Written.writeCurBuffer (h : Written size bytes w) (src : List UInt8) :
    Runs (w.writeCurBuffer src) (bytes.length + src.length ≤ size) (Written size (bytes ++ src)) := by
  obtain ⟨rest, buffer, len⟩ := h.buffer
  simp only [List.length_append] at len
  constructor
  · intro fits
    have room : bytes.length + src.length ≤ (bytes ++ rest).length := by
      simp only [List.length_append]
      omega
    refine ⟨⟨bytes.length + src.length, some (overwrite (bytes ++ rest) bytes.length src)⟩, ?_⟩
    simp only [CPacketWriter.writeCurBuffer, buffer, h.pos, store_eq room, ok_bind, pure_eq_ok]
  · intro w' ran
    simp only [CPacketWriter.writeCurBuffer, buffer, h.pos, bind_eq_ok, store_eq_ok, List.length_append,
      pure_eq_ok, Except.ok.injEq] at ran
    obtain ⟨_, ⟨room, rfl⟩, rfl⟩ := ran
    refine ⟨by omega, by simp only [List.length_append], rest.drop src.length, ?_, ?_⟩
    · simp only [overwrite_end]
    · simp only [List.length_append, List.length_drop]
      omega

/-- Pushing bytes one by one is writing them. -/
theorem Written.pushAll (h : Written size bytes w) (src : List UInt8) :
    Runs (src.foldlM bufferPushBack w) (bytes.length + src.length ≤ size) (Written size (bytes ++ src)) := by
  induction src generalizing w bytes with
  | nil => exact (Runs.of_ok (by simpa using h)).weaken (iff_true_intro (by simpa using h.le)) fun _ => id
  | cons b src ih =>
    simp only [List.foldlM_cons]
    refine ((h.writeCurBuffer [b]).bind fun v written => ih written).weaken ?_ ?_
    · simp only [List.length_append, List.length_cons, List.length_nil]
      omega
    · intro v written
      simpa using written

/-- Advancing the cursor without a store. -/
theorem Written.skip (h : Written size bytes w) {n : Nat} (room : bytes.length + n ≤ size) :
    ∃ gap, gap.length = n ∧ Written size (bytes ++ gap) { w with pos := w.pos + n } := by
  obtain ⟨rest, buffer, len⟩ := h.buffer
  simp only [List.length_append] at len
  refine ⟨rest.take n, by simp only [List.length_take]; omega, ?_, rest.drop n, ?_, ?_⟩
  · simp only [h.pos, List.length_append, List.length_take]
    omega
  · simp only [buffer, List.append_assoc, List.take_append_drop]
  · simp only [List.append_assoc, List.take_append_drop, List.length_append, len]

/-- `Start` leaves the bytes of the length field as they were. -/
theorem start_spec {buffer : List UInt8} (hw : w.buffer = some buffer) (name : List UInt8) :
    Runs (w.start name) (9 + name.length ≤ max buffer.length 1024) fun r =>
      ∃ gap, gap.length = 4 ∧
        Written (max buffer.length 1024) (stx ++ gap ++ name ++ [getStartBlockDelimiter]) r.2 := by
  have fresh : Written (max buffer.length 1024) []
      { pos := 0, buffer := some (if buffer.length < 1024 then resize buffer 1024 else buffer) } := by
    refine ⟨rfl, if buffer.length < 1024 then resize buffer 1024 else buffer, rfl, ?_⟩
    by_cases small : buffer.length < 1024
    · simp only [if_pos small, List.nil_append, resize, List.length_append, List.length_take, List.length_replicate]
      omega
    · simp only [if_neg small, List.nil_append]
      omega
  have marked := fresh.pushAll stx
  simp only [start, hw]
  refine (marked.bind fun w₁ h₁ => ?_).weaken (and_iff_right (by simp [stx])).symm fun _ => id
  obtain ⟨gap, len, h₂⟩ := h₁.skip (n := 4) (by simp [stx])
  refine (((h₂.writeCurBuffer name).bind fun w₃ h₃ =>
    (h₃.writeCurBuffer [getStartBlockDelimiter]).bind fun w₄ h₄ => Runs.of_ok ?_)).weaken ?_ fun _ => id
  · exact ⟨gap, len, h₄⟩
  · simp only [List.length_append, List.nil_append, len, stx, List.length_cons, List.length_nil, and_true]
    omega

theorem grown_le {pos : Nat} (h : pos ≤ size) (len : Nat) : pos + len ≤ grown size pos len := by
  unfold grown
  split <;> omega

/-- A `Write` of a block below `2 ^ 32` bytes always has room. -/
theorem blocksFit_of_small {blocks : List Block} {pos : Nat} (h : pos ≤ size)
    (small : pos + (blocks.map blockLength).sum < 2 ^ 32) : BlocksFit size pos blocks := by
  induction blocks generalizing size pos with
  | nil => trivial
  | cons b bs ih =>
    simp only [List.map_cons, List.sum_cons] at small
    have len : toUInt32 (blockLength b) = blockLength b := by
      rw [toUInt32_natCast, Nat.mod_eq_of_lt (by omega)]
    have room := grown_le h (blockLength b)
    simp only [BlocksFit, len]
    exact ⟨room, ih room (by omega)⟩

theorem Written.checkBuffer (h : Written size bytes w) (len : Nat) :
    ∃ w', w.checkBuffer len = (0, w') ∧ Written (grown size bytes.length len) bytes w' := by
  obtain ⟨rest, buffer, size_eq⟩ := h.buffer
  by_cases full : bytes.length + len > size
  · refine ⟨{ w with buffer := some (resize (bytes ++ rest) (size + len)) }, ?_, h.pos, rest ++ List.replicate len 0,
      ?_, ?_⟩
    · simp only [CPacketWriter.checkBuffer, buffer, h.pos, size_eq, if_pos full]
    · simp only [resize, size_eq, Nat.add_sub_cancel_left, List.append_assoc,
        List.take_of_length_le (show (bytes ++ rest).length ≤ size + len by omega)]
    · simp only [grown, if_pos full, ← List.append_assoc, List.length_append, List.length_replicate] at size_eq ⊢
      omega
  · refine ⟨w, ?_, h.pos, rest, buffer, ?_⟩
    · simp only [CPacketWriter.checkBuffer, buffer, h.pos, size_eq, if_neg full]
    · simp only [grown, if_neg full, size_eq]

/-- A `Write` appends the block, in a buffer that its own length was added to where it was too small. -/
theorem Written.writeString (h : Written size bytes w) (b : Block) :
    Runs (w.writeString b.1 b.2)
      (bytes.length + blockLength b ≤ grown size bytes.length (toUInt32 (blockLength b)))
      fun r => Written (grown size bytes.length (toUInt32 (blockLength b))) (bytes ++ encodeBlock b) r.2 := by
  obtain ⟨w₁, checked, h₁⟩ := h.checkBuffer (toUInt32 (blockLength b))
  have header : (getBlockHeaderLength b.1 + b.2.length : Int) = blockLength b := by
    simp only [getBlockHeaderLength, getSizeBlockLength, blockLength]
    omega
  have field : LittleEndian.encode 4 (toUInt32 (blockLength b)) = LittleEndian.encode 4 (blockLength b) := by
    rw [toUInt32_natCast]
    exact LittleEndian.encode_mod 4 (blockLength b)
  have returned (v : CPacketWriter) (h : Written (grown size bytes.length (toUInt32 (blockLength b)))
      (bytes ++ LittleEndian.encode 4 (toUInt32 (blockLength b)) ++ b.1 ++ [getBlockDataDelimiter] ++ b.2) v) :
      Runs (.ok (toInt32 v.pos, v)) True fun r =>
        Written (grown size bytes.length (toUInt32 (blockLength b))) (bytes ++ encodeBlock b) r.2 := by
    refine Runs.of_ok ?_
    simpa only [encodeBlock, field, List.append_assoc, List.singleton_append] using h
  simp only [CPacketWriter.writeString, writeBlock, header, checked]
  refine ((h₁.writeCurBuffer _).bind fun w₂ h₂ => Runs.bind (Runs.bind (h₂.writeCurBuffer b.1) fun w₃ h₃ =>
    h₃.writeCurBuffer [getBlockDataDelimiter]) fun w₄ h₄ => (h₄.writeCurBuffer b.2).bind returned).weaken ?_
      fun _ => id
  simp only [List.length_append, LittleEndian.length_encode, List.length_singleton, blockLength, and_true]
  omega

/-- A raw `Write` of a readable part of memory writes that part. -/
theorem writeData_eq (w : CPacketWriter) (name : List UInt8) {mem : List UInt8} {len : Int} (lo : 0 ≤ len)
    (hi : len ≤ mem.length) : w.writeData name mem len = w.writeString name (mem.take len.toNat) := by
  have part : (mem.take len.toNat).length = len.toNat := by
    simp only [List.length_take]
    omega
  have length : (((mem.take len.toNat).length : Nat) : Int) = len := by omega
  rw [CPacketWriter.writeData, CPacketWriter.writeString, length, if_pos lo, load_eq (by omega), List.drop_zero]
  rfl

/-- The two overloads for blocks of bytes do the same. -/
theorem writeData_length (w : CPacketWriter) (name data : List UInt8) :
    w.writeData name data data.length = w.writeString name data := by
  rw [writeData_eq w name (by omega) le_rfl, Int.toNat_natCast, List.take_length]

theorem Written.writeAll (h : Written size bytes w) (blocks : List Block) :
    Runs (blocks.foldlM (fun w b => do return (← w.writeString b.1 b.2).2) w) (BlocksFit size bytes.length blocks)
      (Written (grownAll size bytes.length blocks) (bytes ++ blocks.flatMap encodeBlock)) := by
  induction blocks generalizing w size bytes with
  | nil => exact (Runs.of_ok (by simpa [grownAll] using h)).weaken Iff.rfl fun _ => id
  | cons b bs ih =>
    simp only [List.foldlM_cons]
    refine Runs.weaken (Runs.bind ((h.writeString b).bind fun r h₁ => Runs.of_ok h₁) fun w₁ h₁ => ih h₁) ?_ ?_
    · simp only [BlocksFit, List.length_append, length_encodeBlock, and_true]
    · intro w' h'
      simpa only [grownAll, List.flatMap_cons, List.append_assoc, List.length_append, length_encodeBlock] using h'

/-- Overwriting bytes that are already there. -/
theorem Written.writeBuffer {front old back src : List UInt8} (h : Written size (front ++ (old ++ back)) w)
    (len : old.length = src.length) :
    Runs (w.writeBuffer front.length src) True fun w' =>
      w'.pos = w.pos ∧ Written size (front ++ (src ++ back)) w' := by
  obtain ⟨pos, rest, buffer, size_eq⟩ := h
  have room : front.length + src.length ≤ (front ++ (old ++ back) ++ rest).length := by
    simp only [List.length_append, len]
    omega
  have patched := @overwrite_middle front old src (back ++ rest) len
  simp only [CPacketWriter.writeBuffer, buffer, store_eq room, ok_bind, pure_eq_ok]
  refine Runs.of_ok ⟨rfl, ?_, rest, ?_, ?_⟩
  · simp only [pos, List.length_append, len]
  · simp only [List.append_assoc, patched]
  · simp only [← size_eq, List.length_append, len]

/-- `End` appends the end mark and stores the cursor in the length field. -/
theorem Written.end' {gap back : List UInt8} (h : Written size (stx ++ (gap ++ back)) w) (len : gap.length = 4) :
    Runs w.end' (back.length + 12 ≤ size) fun r => r.1 = toInt32 (back.length + 12 : Nat) ∧
      Written size (stx ++ (LittleEndian.encode 4 (back.length + 12) ++ (back ++ etx))) r.2 := by
  obtain ⟨rest, buffer, -⟩ := h.buffer
  simp only [CPacketWriter.end', buffer]
  refine Runs.weaken ((h.pushAll etx).bind fun w₁ h₁ => (?_ : Runs _ True _)) ?_ fun _ => id
  · have pos_eq : w₁.pos = back.length + 12 := by
      rw [h₁.pos]
      simp only [List.length_append, stx, etx, List.length_cons, List.length_nil]
      omega
    simp only [List.append_assoc] at h₁
    have patched := h₁.writeBuffer (show gap.length = (LittleEndian.encode 4 w₁.pos).length by
      simp only [len, LittleEndian.length_encode])
    rw [pos_eq] at patched ⊢
    rw [show getPosMainLength = stx.length from rfl]
    refine (patched.bind fun w₂ h₂ => Runs.of_ok ?_).weaken (and_true _).to_iff.symm fun _ => id
    exact ⟨by rw [h₂.1], h₂.2⟩
  · simp only [List.length_append, stx, etx, List.length_cons, List.length_nil, and_true, len]
    omega

end CPacketWriter

/-- The writer puts the packet at the start of its buffer, if all stores land inside the buffer. -/
theorem writePacket_spec {w : CPacketWriter} {buffer : List UInt8} (hw : w.buffer = some buffer) (name : List UInt8)
    (blocks : List Block) :
    Runs (writePacket w name blocks) (Fits buffer.length name blocks) fun r =>
      r.1 = toInt32 (packetLength name blocks) ∧
        r.2.Written (finalSize buffer.length name blocks) (encodePacket name blocks) := by
  refine ((CPacketWriter.start_spec hw name).bind fun r h =>
    (?_ : Runs _ (BlocksFit (max buffer.length 1024) (9 + name.length) blocks ∧
      packetLength name blocks ≤ finalSize buffer.length name blocks) _)).weaken ?_ fun _ => id
  · obtain ⟨gap, len, h⟩ := h
    have head : (stx ++ gap ++ name ++ [getStartBlockDelimiter]).length = 9 + name.length := by
      simp only [List.length_append, stx, len, List.length_cons, List.length_nil]
      omega
    have body : encodeBody name blocks = name ++ [getStartBlockDelimiter] ++ blocks.flatMap encodeBlock := by
      simp only [encodeBody, List.append_assoc, List.singleton_append]
    have total : (encodeBody name blocks).length + 12 = packetLength name blocks := by
      rw [length_encodeBody, packetLength]
      omega
    have written := h.writeAll blocks
    rw [head] at written
    refine Runs.weaken (written.bind fun w₁ h₁ => ?_) Iff.rfl fun _ => id
    have packed : stx ++ gap ++ name ++ [getStartBlockDelimiter] ++ blocks.flatMap encodeBlock =
        stx ++ (gap ++ encodeBody name blocks) := by
      simp only [body, List.append_assoc]
    rw [packed] at h₁
    have finished := h₁.end' len
    rw [total] at finished
    exact finished
  · exact ⟨fun h => ⟨h.start, h.writes, h.finish⟩, fun h => ⟨h.1, h.2.1, h.2.2⟩⟩

end CameraEv
