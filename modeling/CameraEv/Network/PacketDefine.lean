import CameraEv.Lib.Exec
import CameraEv.Lib.LittleEndian
import CameraEv.Lib.Decimal

/-!
# Packets: `CPacketDefine`, `CPacketWriter` and `CPacketReader`

A pointer into a packet is the memory from there to the end of its block, a
`std::string` is its bytes. An `int` is an `Int` with its conversions written
out (`toInt32`); `size_t` sums stay below the size of a block and are `Nat`.
`long` has 32 bits, as on Windows. The text of a `float` or `double` is a
parameter of the overloads that write one, the ones that read one are not here.
-/

namespace CameraEv

open Exec

/-- The conversion of an integer to `int`. -/
def toInt32 (x : Int) : Int := Int.bmod x (2 ^ 32)

/-- The conversion of an integer to `uint32_t`. -/
def toUInt32 (x : Int) : Nat := (x % 2 ^ 32).toNat

/-- The bytes of a string literal. -/
def ascii (s : String) : List UInt8 := s.toList.map fun c => c.toNat.toUInt8

/-! ## `CPacketDefine` -/

namespace CPacketDefine

/-- `m_stx`. -/
def stx : List UInt8 := [0x10, 0x20, 0x30, 0x40]

/-- `m_etx`. -/
def etx : List UInt8 := [0x40, 0x30, 0x20, 0x10]

def getPosSTX : Nat := 0

def getSizeSTX : Nat := stx.length

def getSizeETX : Nat := etx.length

def getSizeMainLength : Nat := 4

def getSizeBlockLength : Nat := 4

def getPosETX (mainLength : Int) : Int := mainLength - getSizeETX

def getPosMainLength : Nat := getPosSTX + getSizeSTX

def getPosMainName : Nat := getPosMainLength + getSizeMainLength

/-- `':'` -/
def getBlockDataDelimiter : UInt8 := 58

def getStartBlockDelimiter : UInt8 := 0

/-- A block: its name, the pointer to its data and the data's length. -/
structure BlockItem where
  name : List UInt8 := []
  data : List UInt8 := []
  length : Int := 0
  deriving DecidableEq

/-- The pointer `&mem[pos]`. -/
def pointer (mem : List UInt8) (pos : Int) : Exec (List UInt8) :=
  if 0 ≤ pos ∧ pos ≤ mem.length then return mem.drop pos.toNat else throw .fault

/-- The comparison loops of `HasSTX` and `HasETX`: they stop at the first difference. -/
def sameBytes : List UInt8 → List UInt8 → Exec Bool
  | _, [] => return true
  | [], _ :: _ => throw .fault
  | b :: mem, c :: cs => if b ≠ c then return false else sameBytes mem cs

def hasSTX (packet : List UInt8) : Exec Bool := sameBytes packet stx

def hasETX (packet : List UInt8) (mainLength : Int) : Exec Bool := do
  let pETX ← pointer packet (getPosETX mainLength)
  sameBytes pETX etx

def getMainLength (packet : List UInt8) : Exec Nat :=
  return LittleEndian.decode (← load packet getPosMainLength getSizeMainLength)

/-- `do name.push_back(mem[ii++]); while (mem[ii] != stop)` from `ii = 0`. The first byte is
taken without a test. -/
def takeName (stop : UInt8) : List UInt8 → Exec (List UInt8)
  | [] => throw .fault
  | [_] => throw .fault
  | b :: c :: mem => if c ≠ stop then return b :: (← takeName stop (c :: mem)) else return [b]

def getMainName (packet : List UInt8) : Exec (List UInt8) := do
  takeName getStartBlockDelimiter (← pointer packet getPosMainName)

def getBlockLength (block : List UInt8) : Exec Nat :=
  return LittleEndian.decode (← load block 0 getSizeBlockLength)

def getBlock (block : List UInt8) : Exec BlockItem := do
  let nLen ← getBlockLength block
  let name ← takeName getBlockDataDelimiter (← pointer block getSizeBlockLength)
  let data ← pointer block (getSizeBlockLength + name.length + 1 : Nat)
  return { name, data, length := toInt32 (nLen - (getSizeBlockLength + 1 + name.length : Nat)) }

end CPacketDefine

open CPacketDefine

/-! ## `CPacketWriter` -/

/-- `m_pos` and the vector that `m_buffer` points to, `none` for a null pointer. -/
structure CPacketWriter where
  pos : Nat := 0
  buffer : Option (List UInt8) := none
  deriving DecidableEq

/-- `std::vector::resize`. -/
def resize (buffer : List UInt8) (size : Nat) : List UInt8 :=
  buffer.take size ++ List.replicate (size - buffer.length) 0

namespace CPacketWriter

def getBlockHeaderLength (name : List UInt8) : Nat := getSizeBlockLength + name.length + 1

def checkBuffer (w : CPacketWriter) (len : Nat) : Nat × CPacketWriter :=
  match w.buffer with
  | none => (1, w)
  | some buffer =>
    if w.pos + len > buffer.length then (0, { w with buffer := some (resize buffer (buffer.length + len)) })
    else (0, w)

def writeCurBuffer (w : CPacketWriter) (src : List UInt8) : Exec CPacketWriter :=
  match w.buffer with
  | none => throw .fault
  | some buffer => return { pos := w.pos + src.length, buffer := some (← store buffer w.pos src) }

def writeBuffer (w : CPacketWriter) (pos : Nat) (src : List UInt8) : Exec CPacketWriter :=
  match w.buffer with
  | none => throw .fault
  | some buffer => return { w with buffer := some (← store buffer pos src) }

def bufferPushBack (w : CPacketWriter) (data : UInt8) : Exec CPacketWriter := w.writeCurBuffer [data]

def writeBlockName (w : CPacketWriter) (name : List UInt8) : Exec CPacketWriter := do
  let w ← w.writeCurBuffer name
  w.bufferPushBack getBlockDataDelimiter

def start (w : CPacketWriter) (name : List UInt8) : Exec (Int × CPacketWriter) :=
  match w.buffer with
  | none => return (0, w)
  | some buffer => do
    let buffer := if buffer.length < 1024 then resize buffer 1024 else buffer
    let w ← stx.foldlM bufferPushBack { pos := 0, buffer := some buffer }
    let w := { w with pos := w.pos + getSizeMainLength }
    let w ← w.writeCurBuffer name
    let w ← w.bufferPushBack getStartBlockDelimiter
    return (toInt32 w.pos, w)

/-- What the overloads for raw data and for strings share: the block's length as they
compute it, and its data. -/
def writeBlock (w : CPacketWriter) (name : List UInt8) (blockLen : Nat) (data : Exec (List UInt8)) :
    Exec (Int × CPacketWriter) :=
  match w.checkBuffer blockLen with
  | (0, w) => do
    let w ← w.writeCurBuffer (LittleEndian.encode 4 blockLen)
    let w ← w.writeBlockName name
    let w ← w.writeCurBuffer (← data)
    return (toInt32 w.pos, w)
  | (_, w) => return (0, w)

/-- `Write(name, uint8_t* data, int len)`; `memcpy` takes a negative length for a huge one. -/
def writeData (w : CPacketWriter) (name data : List UInt8) (len : Int) : Exec (Int × CPacketWriter) :=
  w.writeBlock name (toUInt32 (getBlockHeaderLength name + len))
    (if 0 ≤ len then load data 0 len.toNat else throw .fault)

/-- `Write(name, const std::string& data)`. -/
def writeString (w : CPacketWriter) (name data : List UInt8) : Exec (Int × CPacketWriter) :=
  w.writeBlock name (toUInt32 (getBlockHeaderLength name + data.length)) (pure data)

/-- `Write(name, int32_t data)`. -/
def writeInt32 (w : CPacketWriter) (name : List UInt8) (data : Int32) : Exec (Int × CPacketWriter) :=
  w.writeString name (Decimal.intText data.toInt)

/-- `Write(name, uint32_t data)`. -/
def writeUInt32 (w : CPacketWriter) (name : List UInt8) (data : UInt32) : Exec (Int × CPacketWriter) :=
  w.writeString name (Decimal.intText data.toNat)

/-- `Write(name, int64_t data)`. -/
def writeInt64 (w : CPacketWriter) (name : List UInt8) (data : Int64) : Exec (Int × CPacketWriter) :=
  w.writeString name (Decimal.intText data.toInt)

/-- `Write(name, uint64_t data)`. -/
def writeUInt64 (w : CPacketWriter) (name : List UInt8) (data : UInt64) : Exec (Int × CPacketWriter) :=
  w.writeString name (Decimal.intText data.toNat)

/-- `Write(name, long data)`. -/
def writeLong (w : CPacketWriter) (name : List UInt8) (data : Int32) : Exec (Int × CPacketWriter) :=
  w.writeString name (Decimal.intText data.toInt)

/-- `Write(name, bool data)`. -/
def writeBool (w : CPacketWriter) (name : List UInt8) (data : Bool) : Exec (Int × CPacketWriter) :=
  w.writeString name (Decimal.intText (if data then 1 else 0))

/-- `Write(name, float data)`; `fixed5` is the text that a stream with `std::fixed` and
`std::setprecision(5)` makes of a number. -/
def writeFloat (fixed5 : Float → List UInt8) (w : CPacketWriter) (name : List UInt8) (data : Float32) :
    Exec (Int × CPacketWriter) :=
  w.writeString name (fixed5 data.toFloat)

/-- `Write(name, double data)`. -/
def writeDouble (fixed5 : Float → List UInt8) (w : CPacketWriter) (name : List UInt8) (data : Float) :
    Exec (Int × CPacketWriter) :=
  w.writeString name (fixed5 data)

/-- A `std::function<void(void* data)>`: what it leaves of the memory from `data` to the end of the block. -/
structure DataFunc where
  run : List UInt8 → List UInt8
  length_run : ∀ mem, (run mem).length = mem.length

/-- `func(GetCurBufferPtr())`. -/
def callFunc (w : CPacketWriter) (func : DataFunc) : CPacketWriter :=
  { w with buffer := w.buffer.map fun buffer => buffer.take w.pos ++ func.run (buffer.drop w.pos) }

/-- `Write(name, int len, func)` for a length that is not negative: `func` stores the data and the
cursor moves on by `len`, whatever `func` stored. -/
def writeFunc (w : CPacketWriter) (name : List UInt8) (len : Nat) (func : DataFunc) : Exec (Int × CPacketWriter) :=
  let blockLen := toUInt32 (getBlockHeaderLength name + len)
  match w.checkBuffer blockLen with
  | (0, w) => do
    let w ← w.writeCurBuffer (LittleEndian.encode 4 blockLen)
    let w ← w.writeBlockName name
    let w := w.callFunc func
    let w := { w with pos := w.pos + len }
    return (toInt32 w.pos, w)
  | (_, w) => return (0, w)

/-- `End`. -/
def end' (w : CPacketWriter) : Exec (Int × CPacketWriter) :=
  match w.buffer with
  | none => return (0, w)
  | some _ => do
    let w ← etx.foldlM bufferPushBack w
    let w ← w.writeBuffer getPosMainLength (LittleEndian.encode 4 w.pos)
    return (toInt32 w.pos, w)

end CPacketWriter

/-! ## `CPacketReader` -/

structure CPacketReader where
  mainName : List UInt8 := []
  blockItems : List BlockItem := []
  deriving DecidableEq

namespace CPacketReader

def clear (_ : CPacketReader) : CPacketReader := {}

/-- The loop of `DoAnalyze` over the blocks. It does not advance on a block of length zero:
`fuel` bounds the rounds. -/
def analyzeBlocks (packet : List UInt8) (nEndPos : Int) : Nat → Int → List BlockItem → Exec (List BlockItem)
  | 0, _, _ => throw .fuel
  | fuel + 1, nPos, items =>
    if nPos < nEndPos then do
      let block ← pointer packet nPos
      let nLen ← getBlockLength block
      let item ← getBlock block
      analyzeBlocks packet nEndPos fuel (toInt32 (nPos + nLen)) (items ++ [item])
    else return items

def doAnalyze (fuel : Nat) (r : CPacketReader) (packet : List UInt8) (len : Int) : Exec (Nat × CPacketReader) := do
  let r := r.clear
  if !(← hasSTX packet) then
    return (1, r)
  if !(← hasETX packet len) then
    return (2, r)
  let r := { r with mainName := ← getMainName packet }
  if r.mainName.isEmpty then
    return (3, r)
  let nEndPos := toInt32 (getPosSTX + (← getMainLength packet) - getSizeETX)
  let nPos := toInt32 (getPosMainName + r.mainName.length + 1)
  return (0, { r with blockItems := ← analyzeBlocks packet nEndPos fuel nPos r.blockItems })

def getReadMainName (r : CPacketReader) : List UInt8 := r.mainName

/-- `Read(name, BlockItem& data)`: the return code and `data` after the call. -/
def readItem (r : CPacketReader) (name : List UInt8) (data : BlockItem) : Nat × BlockItem :=
  match r.blockItems.find? fun item => name = item.name with
  | some item => (0, item)
  | none => (1, data)

def readLength (r : CPacketReader) (name : List UInt8) : Int :=
  match r.readItem name {} with
  | (0, data) => data.length
  | (_, _) => 0

/-- `Read(name, std::string& data)`: the bytes are inserted before those that `data` has. A
negative length is a huge `size_t`, for which `insert` throws. -/
def readString (r : CPacketReader) (name data : List UInt8) : Exec (Nat × List UInt8) :=
  match r.readItem name {} with
  | (0, item) =>
    if item.length < 0 then throw .thrown
    else return (0, (← load item.data 0 item.length.toNat) ++ data)
  | (_, _) => return (1, data)

/-- `std::stoi`, which throws where it finds no 32-bit integer. -/
def stoi (text : List UInt8) : Exec Int32 :=
  match Decimal.stoi text with
  | some x => return Int32.ofInt x
  | none => throw .thrown

/-- `Read(name, int32_t& data)`. -/
def readInt32 (r : CPacketReader) (name : List UInt8) (data : Int32) : Exec (Nat × Int32) := do
  match ← r.readString name [] with
  | (0, temp) => return (0, ← stoi temp)
  | (_, _) => return (1, data)

/-- What the overloads for the other integers share: the text, converted by `parse`. -/
def readParsed {α : Type} (parse : List UInt8 → Exec α) (r : CPacketReader) (name : List UInt8) (data : α) :
    Exec (Nat × α) := do
  match ← r.readString name [] with
  | (0, temp) => return (0, ← parse temp)
  | (_, _) => return (1, data)

/-- `std::stol` for a 32-bit `long`. -/
def stol (text : List UInt8) : Exec Int32 := stoi text

/-- `Read(name, uint32_t& data)`: the text of an `int`, converted to `uint32_t`. -/
def readUInt32 (r : CPacketReader) (name : List UInt8) (data : UInt32) : Exec (Nat × UInt32) :=
  r.readParsed (fun temp => return (← stoi temp).toUInt32) name data

/-- `Read(name, int64_t& data)`: the text of an `int` too. -/
def readInt64 (r : CPacketReader) (name : List UInt8) (data : Int64) : Exec (Nat × Int64) :=
  r.readParsed (fun temp => return (← stoi temp).toInt64) name data

/-- `Read(name, uint64_t& data)`: the text of an `int` too. -/
def readUInt64 (r : CPacketReader) (name : List UInt8) (data : UInt64) : Exec (Nat × UInt64) :=
  r.readParsed (fun temp => return (← stoi temp).toInt64.toUInt64) name data

/-- `Read(name, long& data)`. -/
def readLong (r : CPacketReader) (name : List UInt8) (data : Int32) : Exec (Nat × Int32) :=
  r.readParsed stol name data

/-- `Read(name, bool& data)`. -/
def readBool (r : CPacketReader) (name : List UInt8) (data : Bool) : Exec (Nat × Bool) := do
  match ← r.readString name [] with
  | (0, temp) => return (0, (← stoi temp) ≠ 0)
  | (_, _) => return (1, data)

/-- `Read(name, uint8_t*& data)`: the pointer to the block's data. -/
def readPointer (r : CPacketReader) (name data : List UInt8) : Nat × List UInt8 :=
  match r.readItem name {} with
  | (0, item) => (0, item.data)
  | (_, _) => (1, data)

end CPacketReader

end CameraEv
