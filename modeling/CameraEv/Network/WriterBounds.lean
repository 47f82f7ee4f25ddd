import CameraEv.Network.IntegerFields

/-!
# The writer's stores

A run of the writer is `Start`, any calls of the `Write` overloads and `End`. Of
a run's data only the lengths matter for where it stores: the room behind the
cursor after each block (`roomBehind`) says which runs keep inside the buffer.
`Write` makes room for every block whose length a 32-bit field holds; `Start`
and `End` take the room as it is.
-/

namespace CameraEv

open Exec CPacketDefine

/-- A call of a `Write` overload. Memory behind a pointer is readable up to the length passed with it. -/
inductive WriterCall where
  | integer (type : IntegerType) (name : List UInt8) (v : type.Value)
  | float (name : List UInt8) (v : Float32)
  | double (name : List UInt8) (v : Float)
  | data (name mem : List UInt8) (len : Nat) (readable : len ≤ mem.length)
  | string (name text : List UInt8)
  | func (name : List UInt8) (len : Nat) (f : CPacketWriter.DataFunc)

namespace WriterCall

variable (fixed5 : Float → List UInt8)

def run (w : CPacketWriter) : WriterCall → Exec (Int × CPacketWriter)
  | integer type name v => type.write w name v
  | float name v => w.writeFloat fixed5 name v
  | double name v => w.writeDouble fixed5 name v
  | data name mem len _ => w.writeData name mem len
  | string name text => w.writeString name text
  | func name len f => w.writeFunc name len f

/-- The length of the call's block. -/
def length : WriterCall → Nat
  | integer type name v => 5 + name.length + (Decimal.intText (type.toInt v)).length
  | float name v => 5 + name.length + (fixed5 v.toFloat).length
  | double name v => 5 + name.length + (fixed5 v).length
  | data name _ len _ => 5 + name.length + len
  | string name text => 5 + name.length + text.length
  | func name len _ => 5 + name.length + len

end WriterCall

/-! ## Runs inside the buffer -/

/-- `m_pos <= m_buffer->size()` -/
def CPacketWriter.Inside (w : CPacketWriter) : Prop := ∃ buffer, w.buffer = some buffer ∧ w.pos ≤ buffer.length

/-- A call stores inside the buffer, leaves the cursor inside, and `next` holds of the writer it leaves. -/
def Keeps (call : Exec (Int × CPacketWriter)) (next : CPacketWriter → Prop) : Prop :=
  ∃ ret w, call = .ok (ret, w) ∧ w.Inside ∧ next w

/-- The `Write`s and `End`. -/
def WritesInside (fixed5 : Float → List UInt8) (w : CPacketWriter) : List WriterCall → Prop
  | [] => Keeps w.end' fun _ => True
  | c :: calls => Keeps (c.run fixed5 w) fun w => WritesInside fixed5 w calls

/-- A whole run. -/
def StoresInside (fixed5 : Float → List UInt8) (w : CPacketWriter) (name : List UInt8) (calls : List WriterCall) :
    Prop :=
  Keeps (w.start name) fun w => WritesInside fixed5 w calls

/-- The room behind the cursor after blocks of these lengths, nothing where a block does not fit. `CheckBuffer`
gets the length as the 32-bit field has it, and adds that much to the buffer where the room is smaller. -/
def roomBehind : Nat → List Nat → Option Nat
  | room, [] => some room
  | room, len :: lens =>
    let room := if toUInt32 len > room then room + toUInt32 len else room
    if len ≤ room then roomBehind (room - len) lens else none

/-- A block of fewer than `2 ^ 32` bytes always finds room. -/
theorem roomBehind_of_small {lens : List Nat} (small : ∀ len ∈ lens, len < 2 ^ 32) (room : Nat) :
    ∃ left, roomBehind room lens = some left := by
  induction lens generalizing room with
  | nil => exact ⟨room, rfl⟩
  | cons len lens ih =>
    have exact_length : toUInt32 len = len := by
      rw [toUInt32_natCast, Nat.mod_eq_of_lt (small len List.mem_cons_self)]
    have fits : len ≤ if len > room then room + len else room := by
      split <;> omega
    simp only [roomBehind, exact_length, if_pos fits]
    exact ih (fun l mem => small l (List.mem_cons_of_mem len mem)) _

namespace CPacketWriter

variable {w : CPacketWriter} {size : Nat} {bytes : List UInt8}

theorem Written.inside (h : Written size bytes w) : w.Inside := by
  obtain ⟨rest, buffer, -⟩ := h.buffer
  refine ⟨_, buffer, ?_⟩
  rw [h.pos, List.length_append]
  omega

/-- What a call does to a writer in a buffer of `size` bytes: it returns inside a buffer of `after` bytes with the
cursor moved by `len`, if there is room for that, and otherwise does not return there. -/
structure Moves (call : Exec (Int × CPacketWriter)) (after pos : Nat) : Prop where
  returns : pos ≤ after → ∃ ret w bytes, call = .ok (ret, w) ∧ bytes.length = pos ∧ Written after bytes w
  fits : ∀ {ret w}, call = .ok (ret, w) → w.Inside → pos ≤ after

theorem Moves.keeps {call : Exec (Int × CPacketWriter)} {after pos : Nat} (moves : Moves call after pos)
    {next : CPacketWriter → Prop} {P : Prop}
    (rest : ∀ {w bytes}, bytes.length = pos → Written after bytes w → (next w ↔ P)) :
    Keeps call next ↔ pos ≤ after ∧ P := by
  constructor
  · rintro ⟨ret, w, ran, inside, holds⟩
    have room := moves.fits ran inside
    obtain ⟨ret', w', bytes, ran', length, written⟩ := moves.returns room
    obtain rfl := (Prod.mk.inj (Except.ok.inj (ran.symm.trans ran'))).2
    exact ⟨room, (rest length written).1 holds⟩
  · rintro ⟨room, holds⟩
    obtain ⟨ret, w, bytes, ran, length, written⟩ := moves.returns room
    exact ⟨ret, w, ran, written.inside, (rest length written).2 holds⟩

/-- A call that returns exactly where there is room, with more bytes written. -/
theorem Moves.of_runs {call : Exec (Int × CPacketWriter)} {after pos : Nat} {bytes : List UInt8}
    (runs : Runs call (pos ≤ after) fun r => Written after bytes r.2) (length : bytes.length = pos) :
    Moves call after pos where
  returns room := by
    obtain ⟨⟨ret, w⟩, ran⟩ := runs.returns room
    exact ⟨ret, w, bytes, ran, length, (runs.sound ran).2⟩
  fits ran _ := (runs.sound ran).1

theorem Written.moves_writeString (h : Written size bytes w) (name data : List UInt8) :
    Moves (w.writeString name data) (grown size bytes.length (toUInt32 (5 + name.length + data.length : Nat)))
      (bytes.length + (5 + name.length + data.length)) := by
  apply Moves.of_runs (h.writeString (name, data))
  rw [List.length_append, length_encodeBlock, blockLength]

/-- What a function stores behind the cursor. -/
theorem Written.callFunc (h : Written size bytes w) (func : DataFunc) : Written size bytes (w.callFunc func) := by
  obtain ⟨pos, rest, buffer, length⟩ := h
  refine ⟨pos, func.run rest, ?_, ?_⟩
  · simp only [CPacketWriter.callFunc, buffer, pos, Option.map_some, List.take_left, List.drop_left]
  · simpa only [List.length_append, func.length_run] using length

/-- The length field and the name of a block. -/
theorem Written.writeHeader (h : Written size bytes w) (field name : List UInt8) (width : field.length = 4) :
    Runs (do let w ← w.writeCurBuffer field; w.writeBlockName name) (bytes.length + (5 + name.length) ≤ size)
      (Written size (bytes ++ field ++ name ++ [getBlockDataDelimiter])) := by
  refine ((h.writeCurBuffer field).bind fun w₁ h₁ => (h₁.writeCurBuffer name).bind fun w₂ h₂ =>
    h₂.writeCurBuffer [getBlockDataDelimiter]).weaken ?_ fun _ => id
  simp only [List.length_append, List.length_singleton, width]
  omega

theorem Written.moves_writeFunc (h : Written size bytes w) (name : List UInt8) (len : Nat) (func : DataFunc) :
    Moves (w.writeFunc name len func) (grown size bytes.length (toUInt32 (5 + name.length + len : Nat)))
      (bytes.length + (5 + name.length + len)) := by
  obtain ⟨w₁, checked, h₁⟩ := h.checkBuffer (toUInt32 (5 + name.length + len : Nat))
  have header := h₁.writeHeader (LittleEndian.encode 4 (toUInt32 (5 + name.length + len : Nat))) name
    (LittleEndian.length_encode 4 _)
  have blockLen : (getBlockHeaderLength name + len : Int) = (5 + name.length + len : Nat) := by
    simp only [getBlockHeaderLength, getSizeBlockLength]
    omega
  have call : w.writeFunc name len func = (do
      let w ← (do
        let w ← w₁.writeCurBuffer (LittleEndian.encode 4 (toUInt32 (5 + name.length + len : Nat)))
        w.writeBlockName name)
      return (toInt32 (w.pos + len : Nat), { (w.callFunc func) with pos := w.pos + len })) := by
    simp only [CPacketWriter.writeFunc, blockLen, checked, bind_assoc, CPacketWriter.callFunc]
  have length : (bytes ++ LittleEndian.encode 4 (toUInt32 (5 + name.length + len : Nat)) ++ name ++
      [getBlockDataDelimiter]).length + len = bytes.length + (5 + name.length + len) := by
    simp only [List.length_append, LittleEndian.length_encode, List.length_singleton]
    omega
  rw [call]
  constructor
  · intro room
    obtain ⟨w₂, ran⟩ := header.returns (by omega)
    have h₂ := (header.sound ran).2.callFunc func
    obtain ⟨gap, width, h₃⟩ := h₂.skip (n := len) (by omega)
    exact ⟨_, _, _, bind_eq_ok.2 ⟨w₂, ran, rfl⟩, by rw [List.length_append, width, length], h₃⟩
  · intro ret w' ran inside
    obtain ⟨w₂, ran₂, ran'⟩ := bind_eq_ok.1 ran
    obtain ⟨pos, rest, same, size_eq⟩ := (header.sound ran₂).2.callFunc func
    obtain rfl := (Prod.mk.inj (Except.ok.inj ran')).2
    obtain ⟨buffer, same', within⟩ := inside
    obtain rfl := Option.some.inj (same.symm.trans same')
    replace pos : w₂.pos = _ := pos
    simp only [pos] at within
    omega

/-- Every overload moves the cursor over its block, in the buffer that `CheckBuffer` left. -/
theorem Written.moves_run (fixed5 : Float → List UInt8) (h : Written size bytes w) (c : WriterCall) :
    Moves (c.run fixed5 w) (grown size bytes.length (toUInt32 (c.length fixed5)))
      (bytes.length + c.length fixed5) := by
  cases c with
  | integer type name v =>
    rw [WriterCall.run, type.write_eq]
    exact h.moves_writeString name _
  | float name v => exact h.moves_writeString name _
  | double name v => exact h.moves_writeString name _
  | data name mem len readable =>
    have read : (mem.take (len : Int).toNat).length = len := by
      rw [Int.toNat_natCast, List.length_take_of_le readable]
    have moves := h.moves_writeString name (mem.take (len : Int).toNat)
    rw [read] at moves
    rw [WriterCall.run, writeData_eq w name (by omega) (by omega)]
    exact moves
  | string name text => exact h.moves_writeString name text
  | func name len f => exact h.moves_writeFunc name len f

/-- `End` takes four bytes of room; the length field is behind the cursor. -/
theorem Written.end_inside (h : Written size bytes w) (head : 8 ≤ bytes.length) :
    Keeps w.end' (fun _ => True) ↔ bytes.length + 4 ≤ size := by
  obtain ⟨rest, buffer, -⟩ := h.buffer
  have marked := h.pushAll etx
  have ended : w.end' = (do
      let w₁ ← etx.foldlM bufferPushBack w
      let w₂ ← w₁.writeBuffer getPosMainLength (LittleEndian.encode 4 w₁.pos)
      return (toInt32 w₂.pos, w₂)) := by
    simp only [CPacketWriter.end', buffer]
  rw [ended]
  constructor
  · rintro ⟨ret, w', ran, -⟩
    obtain ⟨w₁, ran₁, -⟩ := bind_eq_ok.1 ran
    exact (marked.sound ran₁).1
  · intro room
    obtain ⟨w₁, ran₁⟩ := marked.returns room
    obtain ⟨pos₁, rest₁, buffer₁, -⟩ := (marked.sound ran₁).2
    have field : getPosMainLength + (LittleEndian.encode 4 w₁.pos).length ≤ (bytes ++ etx ++ rest₁).length := by
      simp only [List.length_append, LittleEndian.length_encode, getPosMainLength, getPosSTX, getSizeSTX, stx,
        List.length_cons, List.length_nil]
      omega
    simp only [ran₁, ok_bind, CPacketWriter.writeBuffer, buffer₁, store_eq field, pure_eq_ok]
    refine ⟨_, _, rfl, ⟨_, rfl, ?_⟩, trivial⟩
    rw [length_overwrite field]
    simp only [pos₁, List.length_append]
    omega

/-- The `Write`s and `End` from a cursor inside the buffer on. -/
theorem Written.writesInside_iff (fixed5 : Float → List UInt8) (h : Written size bytes w) (head : 8 ≤ bytes.length)
    (calls : List WriterCall) :
    WritesInside fixed5 w calls ↔
      ∃ left, roomBehind (size - bytes.length) (calls.map (WriterCall.length fixed5)) = some left ∧ 4 ≤ left := by
  induction calls generalizing w size bytes with
  | nil =>
    have inside := h.le
    rw [WritesInside, h.end_inside head]
    simp only [List.map_nil, roomBehind, Option.some.injEq, exists_eq_left']
    omega
  | cons c calls ih =>
    have inside := h.le
    let len := c.length fixed5
    let room := if toUInt32 len > size - bytes.length then size - bytes.length + toUInt32 len else size - bytes.length
    have grown_eq : grown size bytes.length (toUInt32 len) = bytes.length + room := by
      simp only [grown, room]
      split <;> split <;> omega
    have moves := h.moves_run fixed5 c
    rw [show c.length fixed5 = len from rfl, grown_eq] at moves
    have rest {w' : CPacketWriter} {bytes' : List UInt8} (moved : bytes'.length = bytes.length + len)
        (written : Written (bytes.length + room) bytes' w') := ih written (by omega)
    rw [WritesInside, moves.keeps fun moved written => (moved ▸ rest moved written)]
    have unfolded : roomBehind (size - bytes.length) ((c :: calls).map (WriterCall.length fixed5)) =
        if len ≤ room then roomBehind (room - len) (calls.map (WriterCall.length fixed5)) else none := rfl
    rw [unfolded, Nat.add_le_add_iff_left, Nat.add_sub_add_left]
    by_cases fits : len ≤ room
    · rw [if_pos fits, and_iff_right fits]
    · simp only [if_neg fits, reduceCtorEq, false_and, exists_false, iff_false]
      exact fun holds => fits holds.1

end CPacketWriter

/-- **The writer keeps inside its buffer exactly where `Start` and `End` find room.** The head of the packet has to
fit into the buffer that `Start` leaves, and four bytes of room have to be left behind the last block. A `Write` in
between makes its own room, unless the block's length needs more than 32 bits. -/
theorem stores_inside_iff (fixed5 : Float → List UInt8) (pos : Nat) (buffer name : List UInt8)
    (calls : List WriterCall) :
    StoresInside fixed5 ⟨pos, some buffer⟩ name calls ↔
      9 + name.length ≤ max buffer.length 1024 ∧
        ∃ left, roomBehind (max buffer.length 1024 - (9 + name.length)) (calls.map (WriterCall.length fixed5)) =
          some left ∧ 4 ≤ left := by
  have started := CPacketWriter.start_spec (show CPacketWriter.buffer ⟨pos, some buffer⟩ = some buffer from rfl) name
  have head {gap : List UInt8} (width : gap.length = 4) :
      (stx ++ gap ++ name ++ [getStartBlockDelimiter]).length = 9 + name.length := by
    simp only [List.length_append, width, stx, List.length_cons, List.length_nil]
    omega
  constructor
  · rintro ⟨ret, w, ran, -, inside⟩
    obtain ⟨room, gap, width, written⟩ := started.sound ran
    refine ⟨room, ?_⟩
    rw [← head width]
    exact (written.writesInside_iff fixed5 (by rw [head width]; omega) calls).1 inside
  · rintro ⟨room, behind⟩
    obtain ⟨⟨ret, w⟩, ran⟩ := started.returns room
    obtain ⟨-, gap, width, written⟩ := started.sound ran
    rw [← head width] at behind
    exact ⟨ret, w, ran, written.inside,
      (written.writesInside_iff fixed5 (by rw [head width]; omega) calls).2 behind⟩

/-- A block that fills the buffer to its 1024 bytes, and a name that does not fit behind the marks. -/
theorem stores_outside :
    ¬ StoresInside (fun _ => []) ⟨0, some []⟩ [65] [.string [107] (List.replicate 1008 0)] ∧
      ¬ StoresInside (fun _ => []) ⟨0, some []⟩ (List.replicate 1016 65) [] := by
  constructor
  · rintro ⟨_, w, started, -, _, w₁, written, -, _, w₂, ended, -⟩
    have outside : writePacket ⟨0, some []⟩ [65] [([107], List.replicate 1008 0)] = .error .fault := by
      decide +kernel
    replace written : w.writeString [107] (List.replicate 1008 0) = _ := written
    simp only [writePacket, List.foldlM_cons, List.foldlM_nil, started, written, ended, ok_bind, pure_eq_ok,
      reduceCtorEq] at outside
  · rintro ⟨_, w, started, -⟩
    have outside : CPacketWriter.start ⟨0, some []⟩ (List.replicate 1016 65) = .error .fault := by decide +kernel
    rw [started] at outside
    cases outside

end CameraEv
