import CameraEv.Network.PacketCanonical
import CameraEv.Network.PacketStructRoundTrip

/-!
# Integer fields

Six pairs of `Write` and `Read` carry an integer as decimal text. `Write` takes
the text of the value itself, `Read` takes every text through `std::stoi` or
`std::stol`, whose range is that of a 32-bit integer. So the values that come
back are those that fit one, whatever the type of the field.
-/

namespace CameraEv

open Exec CPacketDefine

/-- The integer types of the overloads. -/
inductive IntegerType where
  | int32 | uint32 | int64 | uint64 | long | bool

namespace IntegerType

abbrev Value : IntegerType → Type
  | int32 => Int32
  | uint32 => UInt32
  | int64 => Int64
  | uint64 => UInt64
  | long => Int32
  | bool => Bool

/-- The number that a value stands for. -/
def toInt : (t : IntegerType) → t.Value → Int
  | int32, v => v.toInt
  | uint32, v => v.toNat
  | int64, v => v.toInt
  | uint64, v => v.toNat
  | long, v => v.toInt
  | bool, v => if v then 1 else 0

/-- The conversion of an `int` to the type. -/
def ofInt32 : (t : IntegerType) → Int32 → t.Value
  | int32, x => x
  | uint32, x => x.toUInt32
  | int64, x => x.toInt64
  | uint64, x => x.toInt64.toUInt64
  | long, x => x
  | bool, x => x ≠ 0

def write (w : CPacketWriter) (name : List UInt8) : (t : IntegerType) → t.Value → Exec (Int × CPacketWriter)
  | int32, v => w.writeInt32 name v
  | uint32, v => w.writeUInt32 name v
  | int64, v => w.writeInt64 name v
  | uint64, v => w.writeUInt64 name v
  | long, v => w.writeLong name v
  | bool, v => w.writeBool name v

def read (r : CPacketReader) (name : List UInt8) : (t : IntegerType) → t.Value → Exec (Nat × t.Value)
  | int32, v => r.readInt32 name v
  | uint32, v => r.readUInt32 name v
  | int64, v => r.readInt64 name v
  | uint64, v => r.readUInt64 name v
  | long, v => r.readLong name v
  | bool, v => r.readBool name v

/-- The six `Write`s write the text of the number. -/
theorem write_eq (t : IntegerType) (w : CPacketWriter) (name : List UInt8) (v : t.Value) :
    t.write w name v = w.writeString name (Decimal.intText (t.toInt v)) := by
  cases t <;> rfl

/-- The six `Read`s take the text for an `int`. -/
theorem read_eq (t : IntegerType) (r : CPacketReader) (name : List UInt8) (v : t.Value) :
    t.read r name v = r.readParsed (fun temp => return t.ofInt32 (← CPacketReader.stoi temp)) name v := by
  cases t with
  | int32 => simp only [read, CPacketReader.readInt32, CPacketReader.readParsed, ofInt32, bind_pure]
  | uint32 => rfl
  | int64 => rfl
  | uint64 => rfl
  | long =>
    simp only [read, CPacketReader.readLong, ofInt32, bind_pure]
    rfl
  | bool => simp only [read, CPacketReader.readBool, CPacketReader.readParsed, ofInt32, bind_assoc, pure_bind]

/-- A number that fits an `int` survives the conversion to `int` and back. -/
theorem ofInt32_toInt (t : IntegerType) {v : t.Value} (lo : -2 ^ 31 ≤ t.toInt v) (hi : t.toInt v < 2 ^ 31) :
    t.ofInt32 (Int32.ofInt (t.toInt v)) = v := by
  have widened : (Int32.ofInt (t.toInt v)).toInt64 = Int64.ofInt (t.toInt v) := by
    apply Int64.toInt_inj.1
    rw [Int32.toInt_toInt64, Int32.toInt_ofInt_of_le lo hi, Int64.toInt_ofInt_of_le (by omega) (by omega)]
  cases t with
  | int32 => exact Int32.ofInt_toInt v
  | uint32 =>
    rw [ofInt32, toInt, Int32.ofInt_eq_ofNat]
    exact UInt32.ofNat_toNat
  | int64 =>
    rw [ofInt32, widened]
    exact Int64.ofInt_toInt v
  | uint64 =>
    rw [ofInt32, widened, toInt, Int64.ofInt_eq_ofNat]
    exact UInt64.ofNat_toNat
  | long => exact Int32.ofInt_toInt v
  | bool => cases v <;> rfl

end IntegerType

/-! ## Round trip -/

section RoundTrip

variable (t : IntegerType) (w : CPacketWriter) (mainName name : List UInt8) (v : t.Value)

/-- `Start`, one `Write` and `End`. -/
def writeInteger : Exec (Int × CPacketWriter) := do
  let (_, w) ← w.start mainName
  let (_, w) ← t.write w name v
  w.end'

/-- The packet is written, and every reader of it reads the value back, whatever `out` held. -/
def IntegerType.RoundTrips : Prop :=
  ∃ len w' buffer, writeInteger t w mainName name v = .ok (len, w') ∧ w'.buffer = some buffer ∧
    ∀ (r : CPacketReader) (fuel : Nat), 1 < fuel → ∃ r', r.doAnalyze fuel buffer len = .ok (0, r') ∧
      ∀ out : t.Value, t.read r' name out = .ok (0, v)

theorem writeInteger_eq :
    writeInteger t w mainName name v = writePacket w mainName [(name, Decimal.intText (t.toInt v))] := by
  simp only [writeInteger, writePacket, t.write_eq, List.foldlM_cons, List.foldlM_nil, bind_assoc, pure_bind]

variable {t mainName name v}

/-- Reading the only field of a packet: `stoi` reads the number or throws. -/
theorem IntegerType.read_field {r : CPacketReader}
    (reads : List.Forall₂ BlockItem.Reads r.blockItems [(name, Decimal.intText (t.toInt v))]) (out : t.Value) :
    t.read r name out = if -2 ^ 31 ≤ t.toInt v ∧ t.toInt v < 2 ^ 31 then .ok (0, v) else .error .thrown := by
  have found : ([(name, Decimal.intText (t.toInt v))].find? fun b : Block => name = b.1) =
      some (name, Decimal.intText (t.toInt v)) := by
    simp only [List.find?_cons, decide_true]
  have text := readString_spec name reads found []
  rw [List.append_nil] at text
  rw [t.read_eq]
  by_cases range : -2 ^ 31 ≤ t.toInt v ∧ t.toInt v < 2 ^ 31
  · have parsed := Decimal.stoi_intText range.1 range.2
    simp only [CPacketReader.readParsed, text, ok_bind, CPacketReader.stoi, parsed, pure_eq_ok, if_pos range,
      t.ofInt32_toInt range.1 range.2]
  · have thrown : Decimal.stoi (Decimal.intText (t.toInt v)) = none := by
      rw [Decimal.stoi_intText_eq, if_neg range]
    simp only [CPacketReader.readParsed, text, ok_bind, CPacketReader.stoi, thrown, throw_eq_error, error_bind,
      if_neg range]

/-- Writing fits the buffer and the number fits an `int`. -/
theorem IntegerType.roundTrips_iff {previous : List UInt8} (hw : w.buffer = some previous) (nonempty : mainName ≠ [])
    (delimited : getStartBlockDelimiter ∉ mainName) (named : WellNamed (name, Decimal.intText (t.toInt v)))
    (small : packetLength mainName [(name, Decimal.intText (t.toInt v))] < 2 ^ 31) :
    t.RoundTrips w mainName name v ↔
      Fits previous.length mainName [(name, Decimal.intText (t.toInt v))] ∧
        -2 ^ 31 ≤ t.toInt v ∧ t.toInt v < 2 ^ 31 := by
  have written := writePacket_spec hw mainName [(name, Decimal.intText (t.toInt v))]
  have analyzed (r : CPacketReader) (fuel : Nat) (fueled : 1 < fuel) (rest : List UInt8) :=
    CPacketReader.doAnalyze_spec nonempty delimited
      (fun b mem => (List.mem_singleton.1 mem) ▸ named) small fueled r rest
  rw [IntegerType.RoundTrips, writeInteger_eq]
  constructor
  · rintro ⟨len, w', buffer, ran, same, back⟩
    obtain ⟨fits, len_eq, pos, rest, same', -⟩ := written.sound ran
    simp only at len_eq same'
    obtain rfl : buffer = _ := Option.some.inj (same.symm.trans same')
    obtain ⟨r', done, reads⟩ := back {} 2 (by decide)
    rw [len_eq, toInt32_eq (by omega) (by omega), analyzed {} 2 (by decide) rest] at done
    obtain rfl := (Prod.mk.inj (Except.ok.inj done)).2
    refine ⟨fits, ?_⟩
    by_contra range
    have threw := reads v
    rw [IntegerType.read_field (CPacketReader.recorded_reads _ _), if_neg range] at threw
    cases threw
  · rintro ⟨fits, range⟩
    obtain ⟨⟨len, w'⟩, ran⟩ := written.returns fits
    obtain ⟨-, len_eq, pos, rest, same, -⟩ := written.sound ran
    simp only at len_eq same
    refine ⟨len, w', _, ran, same, ?_⟩
    intro r fuel fueled
    rw [len_eq, toInt32_eq (by omega) (by omega), analyzed r fuel fueled rest]
    refine ⟨_, rfl, ?_⟩
    intro out
    rw [IntegerType.read_field (CPacketReader.recorded_reads _ _), if_pos range]

end RoundTrip

/-- **An integer field comes back exactly where its value fits an `int`.** `uint32_t`, `int64_t` and `uint64_t`
have values for which `std::stoi` throws. The rest of the condition is the room that `Start` and `End` do not ask
for. -/
theorem IntegerType.read_write_iff (t : IntegerType) (pos : Nat) (previous mainName name : List UInt8) (v : t.Value)
    (main_nonempty : mainName ≠ []) (main_delimited : getStartBlockDelimiter ∉ mainName) (nonempty : name ≠ [])
    (delimited : getBlockDataDelimiter ∉ name)
    (small : packetLength mainName [(name, Decimal.intText (t.toInt v))] < 2 ^ 31) :
    t.RoundTrips ⟨pos, some previous⟩ mainName name v ↔
      (9 + mainName.length ≤ max previous.length 1024 ∧
        4 ≤ roomAtEnd (max previous.length 1024 - (9 + mainName.length)) [(name, Decimal.intText (t.toInt v))]) ∧
        -2 ^ 31 ≤ t.toInt v ∧ t.toInt v < 2 ^ 31 := by
  rw [IntegerType.roundTrips_iff _ rfl main_nonempty main_delimited ⟨nonempty, delimited⟩ small,
    fits_iff (by omega)]

/-- The least `int64_t` that an `int` holds, in a new buffer. -/
theorem IntegerType.read_write_least : IntegerType.int64.RoundTrips ⟨0, some []⟩ [65] [107] (-2147483648) := by
  refine (IntegerType.read_write_iff .int64 0 [] [65] [107] (-2147483648) ?_ ?_ ?_ ?_ ?_).2 ⟨?_, ?_⟩
  · decide
  · decide
  · decide
  · decide
  · decide +kernel
  · decide +kernel
  · decide +kernel

/-- The first numbers that an `int` does not hold. -/
theorem IntegerType.read_write_beyond :
    ¬ IntegerType.uint32.RoundTrips ⟨0, some []⟩ [65] [107] 2147483648 ∧
      ¬ IntegerType.int64.RoundTrips ⟨0, some []⟩ [65] [107] (-2147483649) ∧
      ¬ IntegerType.uint64.RoundTrips ⟨0, some []⟩ [65] [107] 2147483648 := by
  have field (t : IntegerType) (v : t.Value) (small : packetLength [65] [([107], Decimal.intText (t.toInt v))] < 2 ^ 31)
      (beyond : ¬ (-2 ^ 31 ≤ t.toInt v ∧ t.toInt v < 2 ^ 31)) : ¬ t.RoundTrips ⟨0, some []⟩ [65] [107] v := by
    have named : WellNamed ([107], Decimal.intText (t.toInt v)) :=
      ⟨List.cons_ne_nil 107 [], show getBlockDataDelimiter ∉ [107] by decide⟩
    rw [IntegerType.roundTrips_iff _ rfl (by decide) (by decide) named small]
    rintro ⟨-, range⟩
    exact beyond range
  refine ⟨field .uint32 _ ?_ ?_, field .int64 _ ?_ ?_, field .uint64 _ ?_ ?_⟩ <;> decide +kernel

end CameraEv
