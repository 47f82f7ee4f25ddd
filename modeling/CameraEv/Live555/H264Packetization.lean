import CameraEv.Live555.H264VideoRTPSource

/-!
# How NAL units travel in RTP packets

A packet of a sender carries one NAL unit, a part of one, or several
(`Piece`). The source takes apart what it is given without knowing what comes
next; `Follows` is what a sender's packets have in common. For each packet, what
the source does with it is a lemma of its own.
-/

namespace CameraEv

open Exec SerialNumber

namespace H264VideoRTPSource

/-- What a packet carries: `fragment nal start stop` are the bytes of `nal` from `start` up to `stop`. -/
inductive Piece where
  | whole (nal : List UInt8)
  | fragment (nal : List UInt8) (start stop : Nat)
  | aggregate (nals : List (List UInt8))

/-- The header byte of a NAL unit. -/
def header (nal : List UInt8) : UInt8 := nal.headD 0

/-- The FU header: the start and the end bit, and the type of the NAL unit. -/
def fuHeader (first last : Bool) (header : UInt8) : UInt8 :=
  (if first then 0x80 else 0) ||| (if last then 0x40 else 0) ||| (header &&& 0x1F)

namespace Piece

/-- A NAL unit that stands alone has a type of its own, a fragment has bytes behind the header, and an aggregated
NAL unit has its length in two bytes. -/
def Valid : Piece → Prop
  | whole nal => nal ≠ [] ∧ (header nal &&& 0x1F < 24 ∨ 29 < header nal &&& 0x1F)
  | fragment nal start stop => 1 ≤ start ∧ start < stop ∧ stop ≤ nal.length
  | aggregate nals => nals ≠ [] ∧ ∀ nal ∈ nals, nal ≠ [] ∧ nal.length < 2 ^ 16

/-- The payload of the packet. -/
def payload : Piece → List UInt8
  | whole nal => nal
  | fragment nal start stop =>
    (header nal &&& 0xE0 ||| 28) :: fuHeader (start = 1) (stop = nal.length) (header nal) :: (nal.take stop).drop start
  | aggregate nals =>
    24 :: nals.flatMap fun nal => UInt8.ofNat (nal.length / 2 ^ 8) :: UInt8.ofNat nal.length :: nal

/-- The packet does not go on with a NAL unit. -/
def begins : Piece → Bool
  | fragment _ start _ => start = 1
  | _ => true

/-- The NAL units that end in the packet. -/
def finished : Piece → List (List UInt8)
  | whole nal => [nal]
  | fragment nal _ stop => if stop = nal.length then [nal] else []
  | aggregate nals => nals

/-- A NAL unit that is not at its end goes on in the next packet. -/
def Follows : Piece → Piece → Prop
  | fragment nal _ stop, q => if stop = nal.length then q.begins = true else ∃ stop', q = fragment nal stop stop'
  | _, q => q.begins = true

end Piece

/-! ## Bytes -/

theorem forall_byte {P : UInt8 → Prop} (each : ∀ n : Fin 256, P (UInt8.ofNat n)) (byte : UInt8) : P byte := by
  have here := each ⟨byte.toNat, byte.toNat_lt⟩
  simpa using here

/-- The type in the FU indicator. -/
theorem fuIndicator_type : ∀ header : UInt8, (header &&& 0xE0 ||| 28) &&& 0x1F = 28 := forall_byte (by decide +kernel)

/-- The header of the NAL unit out of indicator and FU header. -/
theorem header_of_fu (first last : Bool) : ∀ header : UInt8,
    ((header &&& 0xE0 ||| 28) &&& 0xE0) ||| (fuHeader first last header &&& 0x1F) = header := by
  cases first <;> cases last <;> exact forall_byte (by decide +kernel)

theorem startBit_fuHeader (first last : Bool) : ∀ header : UInt8,
    fuHeader first last header &&& 0x80 = if first then 0x80 else 0 := by
  cases first <;> cases last <;> exact forall_byte (by decide +kernel)

theorem endBit_fuHeader (first last : Bool) : ∀ header : UInt8,
    fuHeader first last header &&& 0x40 = if last then 0x40 else 0 := by
  cases first <;> cases last <;> exact forall_byte (by decide +kernel)

/-- A type outside those that the source treats specially. -/
theorem not_special {unitType : UInt8} (plain : unitType < 24 ∨ 29 < unitType) :
    unitType ≠ 24 ∧ unitType ≠ 25 ∧ unitType ≠ 26 ∧ unitType ≠ 27 ∧ unitType ≠ 28 ∧ unitType ≠ 29 := by
  revert plain
  exact forall_byte (P := fun unitType => unitType < 24 ∨ 29 < unitType → unitType ≠ 24 ∧ unitType ≠ 25 ∧
    unitType ≠ 26 ∧ unitType ≠ 27 ∧ unitType ≠ 28 ∧ unitType ≠ 29) (by decide +kernel) unitType

theorem plain_or_fu {unitType : UInt8} (plain : unitType < 24 ∨ 29 < unitType) : unitType < 24 ∨ 28 ≤ unitType := by
  revert plain
  exact forall_byte (P := fun unitType => unitType < 24 ∨ 29 < unitType → unitType < 24 ∨ 28 ≤ unitType)
    (by decide +kernel) unitType

/-- A type of which the packets hold one NAL unit or a part of one. -/
theorem not_aggregated {unitType : UInt8} (single : unitType < 24 ∨ 28 ≤ unitType) :
    unitType ≠ 24 ∧ unitType ≠ 25 ∧ unitType ≠ 26 ∧ unitType ≠ 27 := by
  revert single
  exact forall_byte (P := fun unitType => unitType < 24 ∨ 28 ≤ unitType → unitType ≠ 24 ∧ unitType ≠ 25 ∧
    unitType ≠ 26 ∧ unitType ≠ 27) (by decide +kernel) unitType

/-! ## The data of a packet -/

/-- The usable data of the packet are these bytes of its memory. -/
structure Holds {σ : Type} (p : BufferedPacket σ) (payload : List UInt8) : Prop where
  data : p.data = payload
  ordered : p.head ≤ p.tail
  inside : p.tail ≤ p.buf.length

section Data

variable {σ : Type} {p : BufferedPacket σ} {payload : List UInt8}

theorem Holds.dataSize (holds : Holds p payload) : p.dataSize = payload.length := by
  obtain ⟨rfl, ordered, inside⟩ := holds
  simp only [BufferedPacket.data, List.length_take, List.length_drop, BufferedPacket.dataSize]
  omega

theorem Holds.tail (holds : Holds p payload) : p.tail = p.head + payload.length := by
  rw [← holds.dataSize, BufferedPacket.dataSize]
  have := holds.ordered
  omega

theorem Holds.load (holds : Holds p payload) {offset n : Nat} (room : offset + n ≤ payload.length) :
    load p.buf (p.head + offset) n = .ok ((payload.drop offset).take n) := by
  have tail := holds.tail
  have inside := holds.inside
  rw [load_eq (by omega), ← holds.data, BufferedPacket.data, List.drop_take, List.drop_drop, List.take_take,
    holds.dataSize, Nat.min_eq_left (by omega)]

theorem Holds.skip (holds : Holds p payload) {n : Nat} (room : n ≤ payload.length) :
    Holds (p.skip n) (payload.drop n) := by
  have tail := holds.tail
  have head : (p.skip n).head = p.head + n := if_neg (by omega)
  refine ⟨?_, ?_, holds.inside⟩
  · rw [← holds.data, BufferedPacket.data, BufferedPacket.data, BufferedPacket.dataSize, head, List.drop_take,
      List.drop_drop, BufferedPacket.dataSize]
    show ((p.buf.drop (p.head + n)).take (p.tail - (p.head + n))) = _
    rw [Nat.sub_sub]
  · rw [head]
    show p.head + n ≤ p.tail
    omega

/-- A byte of the data is written. -/
theorem Holds.set (holds : Holds p payload) (i : Nat) (byte : UInt8) :
    Holds { p with buf := p.buf.set (p.head + i) byte } (payload.set i byte) := by
  refine ⟨?_, holds.ordered, by simpa using holds.inside⟩
  rw [← holds.data]
  show ((p.buf.set (p.head + i) byte).drop p.head).take p.dataSize = ((p.buf.drop p.head).take p.dataSize).set i byte
  rw [List.drop_set, if_neg (by omega), Nat.add_sub_cancel_left, List.take_set]

/-- Outside aggregation packets everything is used at once. -/
theorem Holds.use (holds : Holds p payload) {unitType : UInt8} (single : unitType < 24 ∨ 28 ≤ unitType)
    (toSize bytesTruncated : Nat) : ∃ truncated q,
      p.use unitType toSize bytesTruncated = .ok (payload.take toSize, truncated, q) ∧
      q.hasUsableData = false ∧ q.rtpSeqNo = p.rtpSeqNo := by
  have next : BufferedPacket.nextEnclosedFrameSize unitType p.data = (0, payload.length) := by
    obtain ⟨a, b, c, d⟩ := not_aggregated single
    rw [holds.data]
    simp only [BufferedPacket.nextEnclosedFrameSize, a, b, c, d, or_self, if_false]
  have size : (if toSize < payload.length then toSize else payload.length) = min toSize payload.length := by
    split <;> omega
  have bytes := @Holds.load _ p payload holds 0 (min toSize payload.length) (by omega)
  have all : payload.take (min toSize payload.length) = payload.take toSize := by
    rw [← List.take_take, List.take_length]
  refine ⟨if toSize < payload.length then bytesTruncated + (payload.length - toSize) else 0,
    { p with head := p.head + 0 + payload.length, useCount := p.useCount + 1 }, ?_, ?_, rfl⟩
  · simp only [BufferedPacket.use, next, size, bytes, ok_bind, pure_eq_ok, List.drop_zero, all]
  · simp only [BufferedPacket.hasUsableData, holds.tail, Nat.add_zero, Nat.lt_irrefl, decide_false]

end Data

/-! ## The special headers -/

section Header

variable {σ : Type} {s : H264VideoRTPSource σ} {p : BufferedPacket σ}

theorem processSpecialHeader_whole {nal : List UInt8} (valid : (Piece.whole nal).Valid) (holds : Holds p nal) :
    s.processSpecialHeader p = (true, { s with
      curPacketNALUnitType := header nal &&& 0x1F, currentPacketBeginsFrame := true
      currentPacketCompletesFrame := true }, p) := by
  obtain ⟨nonempty, plain⟩ := valid
  obtain ⟨first, rest, rfl⟩ := List.exists_cons_of_ne_nil nonempty
  obtain ⟨a, b, c, d, e, f⟩ := not_special plain
  have data := holds.data
  simp only [header, List.headD_cons] at a b c d e f ⊢
  simp only [processSpecialHeader, data, a, b, c, d, e, f, or_self, if_false]

/-- Behind the special header of a fragment are its bytes, with the header of the NAL unit before the first. -/
theorem processSpecialHeader_fragment {nal : List UInt8} {start stop : Nat}
    (valid : (Piece.fragment nal start stop).Valid)
    (holds : Holds p (Piece.fragment nal start stop).payload) :
    ∃ q, s.processSpecialHeader p = (true, { s with
        curPacketNALUnitType := 28, currentPacketBeginsFrame := start = 1
        currentPacketCompletesFrame := stop = nal.length }, q) ∧
      Holds q ((nal.take stop).drop (if start = 1 then 0 else start)) ∧ q.rtpSeqNo = p.rtpSeqNo ∧
      q.presentationTime = p.presentationTime ∧ q.rtpMarkerBit = p.rtpMarkerBit := by
  obtain ⟨pos, more, inside⟩ := valid
  have data := holds.data
  rw [Piece.payload] at data holds
  generalize fu : fuHeader (start = 1) (stop = nal.length) (header nal) = fuHeaderByte at data holds
  have completes : decide (fuHeaderByte &&& 0x40 ≠ 0) = decide (stop = nal.length) := by
    rw [← fu, endBit_fuHeader]
    by_cases last : stop = nal.length <;> simp [last]
  have special : ¬ ((28 : UInt8) = 24) ∧ ¬ ((28 : UInt8) = 25 ∨ (28 : UInt8) = 26 ∨ (28 : UInt8) = 27) := by decide
  by_cases first : start = 1
  · have starts : fuHeaderByte &&& 0x80 ≠ 0 := by
      rw [← fu, startBit_fuHeader]
      simp [first]
    have rebuilt : ((header nal &&& 0xE0 ||| 28) &&& 0xE0) ||| (fuHeaderByte &&& 0x1F) = header nal := by
      rw [← fu, header_of_fu]
    refine ⟨BufferedPacket.skip { p with buf := p.buf.set (p.head + 1) (header nal) } 1, ?_, ?_, rfl, rfl, rfl⟩
    · simp only [processSpecialHeader, data, fuIndicator_type, rebuilt, if_neg special.1, if_neg special.2,
        true_or, if_true, if_pos starts, completes, decide_eq_true first]
    · have rewritten := (holds.set 1 (header nal)).skip (n := 1) (by simp)
      have whole : header nal :: (nal.take stop).drop start = nal.take stop := by
        rw [first]
        cases nal with
        | nil =>
          simp only [List.length_nil] at inside
          omega
        | cons byte rest =>
          obtain ⟨n, rfl⟩ := Nat.exists_eq_add_of_lt more
          rfl
      simp only [List.set_cons_succ, List.set_cons_zero, List.drop_succ_cons, List.drop_zero, whole] at rewritten
      rw [if_pos first]
      exact rewritten
  · have goes : ¬ (fuHeaderByte &&& 0x80 ≠ 0) := by
      rw [← fu, startBit_fuHeader]
      simp [first]
    refine ⟨p.skip 2, ?_, ?_, rfl, rfl, rfl⟩
    · simp only [processSpecialHeader, data, fuIndicator_type, if_neg special.1, if_neg special.2, true_or, if_true,
        if_neg goes, completes, decide_eq_false first]
    · rw [if_neg first]
      exact holds.skip (n := 2) (by simp)

end Header

end H264VideoRTPSource

end CameraEv
