import CameraEv.Live555.RTPInterface

/-!
# What comes over the RTSP connection

A byte stream is a list of items: single bytes of RTSP, a `$` with a byte that is no
channel, and packets of a channel; and the beginning of one more (`Splits`). What is
to be passed on of the items (`passedOn`) are the bytes and packets in their order,
up to the first packet that is too long for the buffer of its channel.
-/

namespace CameraEv

namespace TcpFraming

/-- Whoever has a channel: whether it reads, and the size of its buffer. -/
structure Channel where
  readHandlerProc : Bool
  rtcp : Bool
  deriving DecidableEq

namespace Channel

def bufferSize (c : Channel) : Nat := if c.rtcp then RTPInterface.maxRTCPPacketSize else RTPInterface.MAX_PACKET_SIZE

/-- The interface of the channel before any packet. -/
def interface (c : Channel) : RTPInterface where
  readHandlerProc := c.readHandlerProc
  owner := if c.rtcp then .rtcpInstance [] else .rtpSource none

end Channel

/-- A part of the stream. -/
inductive Item where
  | requestByte (c : UInt8)
  /-- A `$` and a byte that is no channel. -/
  | stray (c : UInt8)
  | packet (streamChannelId : UInt8) (packet : List UInt8)
  deriving DecidableEq

namespace Item

def bytes : Item → List UInt8
  | .requestByte c => [c]
  | .stray c => [36, c]
  | .packet ch data => 36 :: ch :: BigEndian.encode 2 data.length ++ data

variable (channels : UInt8 → Option Channel)

def Valid : Item → Prop
  | .requestByte c => c ≠ 36
  | .stray c => channels c = none
  | .packet ch data => channels ch ≠ none ∧ data.length < 2 ^ 16

instance : ∀ i, Decidable (Valid channels i)
  | .requestByte c => inferInstanceAs (Decidable (c ≠ 36))
  | .stray c => inferInstanceAs (Decidable (channels c = none))
  | .packet ch data => inferInstanceAs (Decidable (channels ch ≠ none ∧ data.length < 2 ^ 16))

/-- What is passed on of the item. -/
def passed : Item → List Passed
  | .requestByte c => if c ≠ 0xFF ∧ c ≠ 0xFE then [.requestByte c] else []
  | .stray _ => []
  | .packet ch data =>
    match channels ch with
    | some c => if c.readHandlerProc ∧ data ≠ [] then [.packet ch data] else []
    | none => []

/-- A packet that is longer than the buffer it is read into. -/
def tooLong : Item → Bool
  | .packet ch data =>
    match channels ch with
    | some c => c.readHandlerProc && decide (c.bufferSize < data.length)
    | none => false
  | _ => false

end Item

section Split

variable (channels : UInt8 → Option Channel)

/-- The first item of a stream, and the stream behind it. -/
def front : List UInt8 → Option (Item × List UInt8)
  | [] => none
  | c :: stream =>
    if c ≠ 36 then some (.requestByte c, stream)
    else
      match stream with
      | [] => none
      | ch :: stream =>
        if channels ch = none then some (.stray ch, stream)
        else
          match stream with
          | hi :: lo :: stream =>
            let size := BigEndian.decode [hi, lo]
            if size ≤ stream.length then some (.packet ch (stream.take size), stream.drop size) else none
          | _ => none

/-- The stream is those items and the beginning of one more. -/
structure Splits (stream : List UInt8) (items : List Item) (rest : List UInt8) : Prop where
  valid : ∀ i ∈ items, i.Valid channels
  incomplete : front channels rest = none
  stream : items.flatMap Item.bytes ++ rest = stream

/-- What is passed on of the items. -/
def passedOn (items : List Item) : List Passed :=
  (items.takeWhile fun i => !i.tooLong channels).flatMap (Item.passed channels)

variable {channels}

theorem encode_decode_pair (hi lo : UInt8) : BigEndian.encode 2 (BigEndian.decode [hi, lo]) = [hi, lo] :=
  BigEndian.encode_decode [hi, lo]

theorem decode_pair_lt (hi lo : UInt8) : BigEndian.decode [hi, lo] < 2 ^ 16 :=
  (BigEndian.decode_lt [hi, lo]).trans_eq (by norm_num)

theorem front_bytes {i : Item} (valid : i.Valid channels) (rest : List UInt8) :
    front channels (i.bytes ++ rest) = some (i, rest) := by
  cases i with
  | requestByte c =>
    have other : c ≠ 36 := valid
    simp [Item.bytes, front, other]
  | stray c =>
    have unknown : channels c = none := valid
    simp [Item.bytes, front, unknown]
  | packet ch data =>
    obtain ⟨known, short⟩ : channels ch ≠ none ∧ data.length < 2 ^ 16 := valid
    have size : BigEndian.decode (BigEndian.encode 2 data.length) = data.length := BigEndian.decode_encode_of_lt short
    obtain ⟨hi, lo, pair⟩ : ∃ hi lo, BigEndian.encode 2 data.length = [hi, lo] :=
      List.length_eq_two.1 (BigEndian.length_encode 2 data.length)
    rw [pair] at size
    simp [Item.bytes, front, known, pair, size]

theorem bytes_of_front {stream rest : List UInt8} {i : Item} (first : front channels stream = some (i, rest)) :
    i.Valid channels ∧ i.bytes ++ rest = stream := by
  unfold front at first
  split at first
  · cases first
  · rename_i c stream
    split at first
    · rename_i other
      cases first
      exact ⟨other, rfl⟩
    · rename_i dollar
      rw [not_not] at dollar
      subst dollar
      split at first
      · cases first
      · rename_i ch stream
        split at first
        · rename_i unknown
          cases first
          exact ⟨unknown, rfl⟩
        · rename_i known
          split at first
          · rename_i hi lo stream
            dsimp only at first
            split at first
            · rename_i whole
              cases first
              have length : (stream.take (BigEndian.decode [hi, lo])).length = BigEndian.decode [hi, lo] :=
                List.length_take_of_le whole
              refine ⟨⟨known, ?_⟩, ?_⟩
              · rw [length]
                exact decode_pair_lt hi lo
              · simp only [Item.bytes, length, encode_decode_pair]
                simp
            · cases first
          · cases first

theorem Item.bytes_ne_nil (i : Item) : i.bytes ≠ [] := by
  cases i <;> simp [Item.bytes]

/-- Every stream is split. -/
theorem exists_splits (channels : UInt8 → Option Channel) (stream : List UInt8) :
    ∃ items rest, Splits channels stream items rest := by
  induction length : stream.length using Nat.strong_induction_on generalizing stream with
  | _ n ih =>
    cases first : front channels stream with
    | none => exact ⟨[], stream, nofun, first, rfl⟩
    | some found =>
      obtain ⟨i, later⟩ := found
      obtain ⟨valid, rfl⟩ := bytes_of_front first
      have less : later.length < n := by
        have := List.length_pos_iff.2 i.bytes_ne_nil
        rw [← length, List.length_append]
        omega
      obtain ⟨items, rest, splits⟩ := ih _ less later rfl
      refine ⟨i :: items, rest, List.forall_mem_cons.2 ⟨valid, splits.valid⟩, splits.incomplete, ?_⟩
      rw [List.flatMap_cons, List.append_assoc, splits.stream]

theorem Splits.cons_inv {stream rest : List UInt8} {i : Item} {items : List Item}
    (splits : Splits channels stream (i :: items) rest) :
    front channels stream = some (i, items.flatMap Item.bytes ++ rest) := by
  rw [← splits.stream, List.flatMap_cons, List.append_assoc]
  exact front_bytes (splits.valid i List.mem_cons_self) _

/-- In one way only. -/
theorem Splits.unique {stream rest rest' : List UInt8} {items items' : List Item}
    (splits : Splits channels stream items rest) (splits' : Splits channels stream items' rest') :
    items = items' ∧ rest = rest' := by
  induction items generalizing stream items' with
  | nil =>
    have whole : rest = stream := splits.stream
    cases items' with
    | nil => exact ⟨rfl, whole.trans splits'.stream.symm⟩
    | cons i items' =>
      have first := splits'.cons_inv
      rw [← whole, splits.incomplete] at first
      cases first
  | cons i items ih =>
    have first := splits.cons_inv
    cases items' with
    | nil =>
      have whole : rest' = stream := splits'.stream
      rw [← whole, splits'.incomplete] at first
      cases first
    | cons i' items' =>
      rw [splits'.cons_inv] at first
      obtain ⟨rfl, same⟩ := Prod.mk.inj (Option.some.inj first)
      have tails : Splits channels (items.flatMap Item.bytes ++ rest) items rest :=
        ⟨(List.forall_mem_cons.1 splits.valid).2, splits.incomplete, rfl⟩
      have tails' : Splits channels (items.flatMap Item.bytes ++ rest) items' rest' :=
        ⟨(List.forall_mem_cons.1 splits'.valid).2, splits'.incomplete, same⟩
      obtain ⟨rfl, rfl⟩ := ih tails tails'
      exact ⟨rfl, rfl⟩

/-- The items behind one that is there. -/
theorem Splits.tail {i : Item} {stream rest : List UInt8} {items : List Item} (valid : i.Valid channels)
    (splits : Splits channels (i.bytes ++ stream) items rest) :
    ∃ items', items = i :: items' ∧ Splits channels stream items' rest := by
  obtain ⟨items', rest', behind⟩ := exists_splits channels stream
  have whole : Splits channels (i.bytes ++ stream) (i :: items') rest' :=
    ⟨List.forall_mem_cons.2 ⟨valid, behind.valid⟩, behind.incomplete, by
      rw [List.flatMap_cons, List.append_assoc, behind.stream]⟩
  obtain ⟨rfl, rfl⟩ := splits.unique whole
  exact ⟨items', rfl, behind⟩

theorem passedOn_cons {i : Item} {items : List Item} (fits : i.tooLong channels = false) :
    passedOn channels (i :: items) = i.passed channels ++ passedOn channels items := by
  simp [passedOn, fits]

end Split

end TcpFraming

end CameraEv
