import CameraEv.Lib.BigEndian

/-!
# The RTP header

`readHeader` is what `networkReadHandler1` does with a datagram before the packet
is stored: it checks the header and finds the usable data. `RtpDatagram` says what
the header is for, and the two are connected by `readHeader_eq_some`: the datagrams
that are taken are the encoded ones, and each is read as what it was made from.
-/

namespace CameraEv

namespace H264VideoRTPSource

def ntohl (word : List UInt8) : Nat := BigEndian.decode word

/-- What `networkReadHandler1` has read before it stores the packet. -/
structure RtpHeader where
  rtpMarkerBit : Bool
  rtpSeqNo : UInt16
  rtpSSRC : Nat
  /-- `fHead` and `fTail`. -/
  head : Nat
  tail : Nat
  deriving DecidableEq

/-- `fHead` behind a header extension at `head`, if there is one. -/
def skipExtension (extended : Bool) (data : List UInt8) (head : Nat) : Option Nat :=
  if !extended then some head
  else if data.length - head < 4 then none
  else
    let remExtSize := 4 * (ntohl ((data.drop head).take 4) % 2 ^ 16)
    if data.length - (head + 4) < remExtSize then none else some (head + 4 + remExtSize)

/-- `fTail` without the padding. -/
def removePadding (padded : Bool) (data : List UInt8) (head : Nat) : Option Nat :=
  if !padded then some data.length
  else if data.length - head = 0 then none
  else
    let numPaddingBytes := (data.getLastD 0).toNat
    if data.length - head < numPaddingBytes then none else some (data.length - numPaddingBytes)

/-- The sanity checks of `networkReadHandler1`; a multiplexed RTCP packet is not a packet of the stream. -/
def readHeader (rtpPayloadFormat : Nat) (data : List UInt8) : Option RtpHeader :=
  if data.length < 12 then none
  else
    let rtpHdr := ntohl (data.take 4)
    let rtpSSRC := ntohl ((data.drop 8).take 4)
    if rtpHdr / 2 ^ 30 ≠ 2 then none
    else if rtpHdr / 2 ^ 16 % 2 ^ 7 ≠ rtpPayloadFormat then none
    else
      let cc := rtpHdr / 2 ^ 24 % 2 ^ 4
      if data.length - 12 < cc * 4 then none
      else do
        let head ← skipExtension (rtpHdr.testBit 28) data (12 + cc * 4)
        let tail ← removePadding (rtpHdr.testBit 29) data head
        return { rtpMarkerBit := rtpHdr.testBit 23, rtpSeqNo := UInt16.ofNat (rtpHdr % 2 ^ 16), rtpSSRC, head, tail }

end H264VideoRTPSource

open H264VideoRTPSource

/-! ## What is in a datagram -/

def wordBytes (word : UInt32) : List UInt8 := BigEndian.encode 4 word.toNat

def wordsBytes (words : List UInt32) : List UInt8 := words.flatMap wordBytes

@[simp] theorem length_wordBytes (word : UInt32) : (wordBytes word).length = 4 := BigEndian.length_encode 4 _

@[simp] theorem length_wordsBytes (words : List UInt32) : (wordsBytes words).length = 4 * words.length := by
  simp [wordsBytes, List.length_flatMap, Nat.mul_comm]

@[simp] theorem ntohl_wordBytes (word : UInt32) : ntohl (wordBytes word) = word.toNat :=
  BigEndian.decode_encode_of_lt word.toNat_lt

theorem wordBytes_ntohl {bytes : List UInt8} (four : bytes.length = 4) :
    wordBytes (UInt32.ofNat (ntohl bytes)) = bytes := by
  have lt := BigEndian.decode_lt bytes
  rw [four] at lt
  have word : (UInt32.ofNat (ntohl bytes)).toNat = BigEndian.decode bytes := UInt32.toNat_ofNat_of_lt' lt
  rw [wordBytes, word, ← four, BigEndian.encode_decode]

theorem exists_wordsBytes {bytes : List UInt8} {n : Nat} (length : bytes.length = 4 * n) :
    ∃ words : List UInt32, words.length = n ∧ wordsBytes words = bytes := by
  induction n generalizing bytes with
  | zero => exact ⟨[], rfl, (List.eq_nil_of_length_eq_zero length).symm⟩
  | succ n ih =>
    have front : (bytes.take 4).length = 4 := by
      rw [List.length_take]
      omega
    have rest : (bytes.drop 4).length = 4 * n := by
      rw [List.length_drop]
      omega
    obtain ⟨words, few, same⟩ := ih rest
    refine ⟨UInt32.ofNat (ntohl (bytes.take 4)) :: words, by rw [List.length_cons, few], ?_⟩
    show wordBytes _ ++ wordsBytes words = bytes
    rw [wordBytes_ntohl front, same, List.take_append_drop]

/-- The fields of a datagram. `padding` are the bytes behind the payload that the last one of the datagram counts; with
the padding bit set there may be none, as long as the datagram ends in a zero. -/
structure RtpDatagram where
  rtpMarkerBit : Bool
  rtpPayloadType : Fin 128
  rtpSeqNo : UInt16
  rtpTimestamp : UInt32
  rtpSSRC : UInt32
  csrcs : List UInt32
  extension : Option (UInt16 × List UInt32)
  payload : List UInt8
  padding : Option (List UInt8)
  csrcs_length : csrcs.length < 16
  extension_length : ∀ ext ∈ extension, ext.2.length < 2 ^ 16
  padding_count : ∀ bytes ∈ padding,
    bytes.length < 2 ^ 8 ∧ (payload ++ bytes).getLast? = some (UInt8.ofNat bytes.length)

namespace RtpDatagram

/-- The first word: the version, the padding and extension bits, the counts and the number. -/
def rtpHdr (d : RtpDatagram) : Nat :=
  2 * 2 ^ 30 + d.padding.isSome.toNat * 2 ^ 29 + d.extension.isSome.toNat * 2 ^ 28 + d.csrcs.length * 2 ^ 24 +
    d.rtpMarkerBit.toNat * 2 ^ 23 + d.rtpPayloadType.val * 2 ^ 16 + d.rtpSeqNo.toNat

def extensionBytes : Option (UInt16 × List UInt32) → List UInt8
  | some (profile, words) => wordBytes (UInt32.ofNat (profile.toNat * 2 ^ 16 + words.length)) ++ wordsBytes words
  | none => []

/-- The fixed header and the contributing sources. -/
def front (d : RtpDatagram) : List UInt8 :=
  wordBytes (UInt32.ofNat d.rtpHdr) ++ wordBytes d.rtpTimestamp ++ wordBytes d.rtpSSRC ++ wordsBytes d.csrcs

/-- The datagram as it travels. -/
def encode (d : RtpDatagram) : List UInt8 := d.front ++ (extensionBytes d.extension ++ (d.payload ++ d.padding.getD []))

/-- What the source is to read. -/
def header (d : RtpDatagram) : RtpHeader where
  rtpMarkerBit := d.rtpMarkerBit
  rtpSeqNo := d.rtpSeqNo
  rtpSSRC := d.rtpSSRC.toNat
  head := d.front.length + (extensionBytes d.extension).length
  tail := d.front.length + (extensionBytes d.extension).length + d.payload.length

section Read

variable (d : RtpDatagram)

@[simp] theorem length_front : d.front.length = 12 + d.csrcs.length * 4 := by
  simp only [front, List.length_append, length_wordBytes, length_wordsBytes]
  omega

/-- The fields of the first word do not overlap. -/
theorem rtpHdr_spec : d.rtpHdr < 2 ^ 32 ∧ d.rtpHdr / 2 ^ 30 = 2 ∧ d.rtpHdr / 2 ^ 29 % 2 = d.padding.isSome.toNat ∧
    d.rtpHdr / 2 ^ 28 % 2 = d.extension.isSome.toNat ∧ d.rtpHdr / 2 ^ 24 % 2 ^ 4 = d.csrcs.length ∧
    d.rtpHdr / 2 ^ 23 % 2 = d.rtpMarkerBit.toNat ∧ d.rtpHdr / 2 ^ 16 % 2 ^ 7 = d.rtpPayloadType.val ∧
    d.rtpHdr % 2 ^ 16 = d.rtpSeqNo.toNat := by
  have padding := d.padding.isSome.toNat_le
  have extension := d.extension.isSome.toNat_le
  have marker := d.rtpMarkerBit.toNat_le
  have few := d.csrcs_length
  have type := d.rtpPayloadType.isLt
  have number := d.rtpSeqNo.toNat_lt
  rw [rtpHdr]
  omega

theorem ntohl_rtpHdr : ntohl (d.encode.take 4) = d.rtpHdr := by
  have first : d.encode.take 4 = wordBytes (UInt32.ofNat d.rtpHdr) := by
    simp only [encode, front, List.append_assoc]
    exact List.take_left' (length_wordBytes _)
  rw [first, ntohl_wordBytes, UInt32.toNat_ofNat_of_lt' d.rtpHdr_spec.1]

theorem ntohl_rtpSSRC : ntohl ((d.encode.drop 8).take 4) = d.rtpSSRC.toNat := by
  have split : d.encode = (wordBytes (UInt32.ofNat d.rtpHdr) ++ wordBytes d.rtpTimestamp) ++
      (wordBytes d.rtpSSRC ++ (wordsBytes d.csrcs ++ (extensionBytes d.extension ++ (d.payload ++ d.padding.getD [])))) := by
    simp only [encode, front, List.append_assoc]
  rw [split, List.drop_left' (by simp), List.take_left' (length_wordBytes _), ntohl_wordBytes]

theorem testBit_eq {n i : Nat} {b : Bool} (bit : n / 2 ^ i % 2 = b.toNat) : n.testBit i = b := by
  rw [Nat.testBit_eq_decide_div_mod_eq, bit]
  cases b <;> rfl

theorem length_encode : d.encode.length =
    d.front.length + (extensionBytes d.extension).length + d.payload.length + (d.padding.getD []).length := by
  simp only [encode, List.length_append]
  omega

theorem skipExtension_encode : skipExtension d.extension.isSome d.encode d.front.length =
    some (d.front.length + (extensionBytes d.extension).length) := by
  have room := d.length_encode
  have behind : d.encode.drop d.front.length =
      extensionBytes d.extension ++ (d.payload ++ d.padding.getD []) := List.drop_left
  unfold skipExtension
  cases here : d.extension with
  | none => simp [extensionBytes]
  | some ext =>
    obtain ⟨profile, words⟩ := ext
    have few : words.length < 2 ^ 16 := d.extension_length _ here
    rw [here] at room behind
    have size : (extensionBytes (some (profile, words))).length = 4 + 4 * words.length := by simp [extensionBytes]
    have count : ntohl ((d.encode.drop d.front.length).take 4) % 2 ^ 16 = words.length := by
      have lt := profile.toNat_lt
      rw [behind, extensionBytes, List.append_assoc, List.take_left' (length_wordBytes _), ntohl_wordBytes,
        UInt32.toNat_ofNat_of_lt' (show _ < 2 ^ 32 by omega)]
      omega
    rw [if_neg (by simp), if_neg (by omega)]
    dsimp only
    rw [count, if_neg (by omega), size, Nat.add_assoc]

theorem removePadding_encode :
    removePadding d.padding.isSome d.encode (d.front.length + (extensionBytes d.extension).length) =
      some (d.front.length + (extensionBytes d.extension).length + d.payload.length) := by
  have room := d.length_encode
  unfold removePadding
  cases here : d.padding with
  | none => simp [room, here]
  | some bytes =>
    obtain ⟨few, last⟩ := d.padding_count bytes here
    have nonempty : d.payload ++ bytes ≠ [] := fun none => by
      rw [none] at last
      cases last
    have count : (d.encode.getLastD 0).toNat = bytes.length := by
      rw [List.getLastD_eq_getLast?, encode, here, Option.getD_some,
        List.getLast?_append_of_ne_nil _ (List.append_ne_nil_of_right_ne_nil _ nonempty),
        List.getLast?_append_of_ne_nil _ nonempty, last]
      exact UInt8.toNat_ofNat_of_lt' few
    have some := List.length_pos_of_ne_nil nonempty
    rw [List.length_append] at some
    rw [here, Option.getD_some] at room
    rw [if_neg (by simp), if_neg (by omega)]
    dsimp only
    rw [count, if_neg (by omega), room, Nat.add_sub_cancel]

/-- An encoded datagram is read as what it was made from. -/
theorem readHeader_encode : readHeader d.rtpPayloadType.val d.encode = some d.header := by
  obtain ⟨-, version, padding, extension, cc, marker, type, number⟩ := d.rtpHdr_spec
  have room := d.length_encode
  have fixed := d.length_front
  unfold readHeader
  rw [if_neg (by omega)]
  simp only [ntohl_rtpHdr, ntohl_rtpSSRC, version, type, cc, testBit_eq padding, testBit_eq extension,
    testBit_eq marker, number, UInt16.ofNat_toNat, ← fixed]
  rw [if_neg (not_not_intro rfl), if_neg (not_not_intro rfl), if_neg (by omega)]
  rw [skipExtension_encode]
  dsimp only [Option.bind_eq_bind, Option.bind_some]
  rw [removePadding_encode]
  rfl

theorem tail_le_length : d.header.tail ≤ d.encode.length := by
  rw [length_encode, header]
  exact Nat.le_add_right _ _

/-- The payload is between `head` and `tail`. -/
theorem payload_encode : (d.encode.take d.header.tail).drop d.header.head = d.payload := by
  have split : d.encode = (d.front ++ extensionBytes d.extension) ++ (d.payload ++ d.padding.getD []) := by
    simp only [encode, List.append_assoc]
  have head : d.header.head = (d.front ++ extensionBytes d.extension).length := (List.length_append).symm
  have tail : d.header.tail = (d.front ++ extensionBytes d.extension).length + d.payload.length :=
    congrArg (· + d.payload.length) head
  rw [split, tail, head, List.take_length_add_append, List.take_left, List.drop_left]

end Read

section Accepted

/-- The next `n` bytes. -/
theorem drop_split (data : List UInt8) (i n : Nat) : data.drop i = (data.drop i).take n ++ data.drop (i + n) := by
  rw [← List.drop_drop, List.take_append_drop]

variable {data : List UInt8} {head : Nat}

theorem extension_of_skipExtension {extended : Bool} {head' : Nat} (inside : head ≤ data.length)
    (skipped : skipExtension extended data head = some head') : ∃ ext : Option (UInt16 × List UInt32),
      ext.isSome = extended ∧ (∀ e ∈ ext, e.2.length < 2 ^ 16) ∧ head' ≤ data.length ∧
        (extensionBytes ext).length + head = head' ∧ data.drop head = extensionBytes ext ++ data.drop head' := by
  unfold skipExtension at skipped
  cases extended with
  | false =>
    cases skipped
    exact ⟨none, rfl, fun e mem => (nomatch mem), inside, Nat.zero_add _, rfl⟩
  | true =>
    rw [if_neg (by simp)] at skipped
    dsimp only at skipped
    split at skipped
    · cases skipped
    split at skipped
    · cases skipped
    cases skipped
    generalize first : (data.drop head).take 4 = word at *
    have four : word.length = 4 := by
      rw [← first, List.length_take, List.length_drop]
      omega
    have room : ((data.drop (head + 4)).take (4 * (ntohl word % 2 ^ 16))).length = 4 * (ntohl word % 2 ^ 16) := by
      rw [List.length_take, List.length_drop]
      omega
    obtain ⟨words, few, same⟩ := exists_wordsBytes room
    have lt : ntohl word < 2 ^ 32 := by
      have := BigEndian.decode_lt word
      rwa [four] at this
    have bytes : extensionBytes (some (UInt16.ofNat (ntohl word / 2 ^ 16), words)) =
        word ++ (data.drop (head + 4)).take (4 * (ntohl word % 2 ^ 16)) := by
      have whole : (UInt16.ofNat (ntohl word / 2 ^ 16)).toNat * 2 ^ 16 + words.length = ntohl word := by
        rw [UInt16.toNat_ofNat_of_lt' (show _ < 2 ^ 16 by omega), few]
        omega
      rw [extensionBytes, whole, wordBytes_ntohl four, same]
    refine ⟨some (UInt16.ofNat (ntohl word / 2 ^ 16), words), rfl, fun e mem => ?_, by omega, ?_, ?_⟩
    · cases mem
      show words.length < 2 ^ 16
      omega
    · rw [bytes, List.length_append, four, room]
      omega
    · rw [bytes, List.append_assoc, ← drop_split data (head + 4), ← first, ← drop_split data head]

theorem padding_of_removePadding {padded : Bool} {tail : Nat} (inside : head ≤ data.length)
    (removed : removePadding padded data head = some tail) : ∃ padding : Option (List UInt8),
      padding.isSome = padded ∧ head ≤ tail ∧ tail ≤ data.length ∧ data.drop tail = padding.getD [] ∧
        ∀ bytes ∈ padding, bytes.length < 2 ^ 8 ∧ (data.drop head).getLast? = some (UInt8.ofNat bytes.length) := by
  unfold removePadding at removed
  cases padded with
  | false =>
    cases removed
    exact ⟨none, rfl, inside, Nat.le_refl _, List.drop_length, fun bytes mem => nomatch mem⟩
  | true =>
    rw [if_neg (by simp)] at removed
    dsimp only at removed
    split at removed
    · cases removed
    split at removed
    · cases removed
    cases removed
    have size : (data.drop (data.length - (data.getLastD 0).toNat)).length = (data.getLastD 0).toNat := by
      rw [List.length_drop]
      omega
    refine ⟨some _, rfl, by omega, by omega, rfl, fun bytes mem => ?_⟩
    cases mem
    have nonempty : data ≠ [] := List.ne_nil_of_length_pos (by omega)
    rw [size, UInt8.ofNat_toNat, List.getLast?_drop, if_neg (by omega), List.getLastD_eq_getLast?,
      List.getLast?_eq_some_getLast nonempty]
    exact ⟨UInt8.toNat_lt _, rfl⟩

/-- What is read was encoded. -/
theorem exists_of_readHeader {rtpPayloadFormat : Nat} {h : RtpHeader} (read : readHeader rtpPayloadFormat data = some h) :
    ∃ d : RtpDatagram, d.encode = data ∧ d.rtpPayloadType.val = rtpPayloadFormat ∧ d.header = h := by
  unfold readHeader at read
  split at read
  · cases read
  generalize first : ntohl (data.take 4) = rtpHdr at read
  dsimp only at read
  split at read
  · cases read
  rename_i long version
  split at read
  · cases read
  rename_i type
  split at read
  · cases read
  rename_i room
  rw [Decidable.not_not] at version type
  obtain ⟨head, skipped, read⟩ := Option.bind_eq_some_iff.1 read
  obtain ⟨tail, removed, read⟩ := Option.bind_eq_some_iff.1 read
  cases read
  have lt : rtpHdr < 2 ^ 32 := by omega
  have words : ∀ i, i + 4 ≤ data.length → ((data.drop i).take 4).length = 4 := fun i le => by
    rw [List.length_take, List.length_drop]
    omega
  obtain ⟨ext, extended, ext_length, inside, size, ext_bytes⟩ := extension_of_skipExtension (by omega) skipped
  obtain ⟨padding, padded, ordered, inside', padding_bytes, count⟩ := padding_of_removePadding inside removed
  have sources : ((data.drop 12).take (4 * (rtpHdr / 2 ^ 24 % 2 ^ 4))).length = 4 * (rtpHdr / 2 ^ 24 % 2 ^ 4) := by
    rw [List.length_take, List.length_drop]
    omega
  obtain ⟨csrcs, few, csrcs_bytes⟩ := exists_wordsBytes sources
  have payload : (data.drop head).take (tail - head) ++ padding.getD [] = data.drop head := by
    have split := drop_split data head (tail - head)
    rw [Nat.add_sub_cancel' ordered, padding_bytes] at split
    exact split.symm
  let d : RtpDatagram :=
    { rtpMarkerBit := rtpHdr.testBit 23, rtpPayloadType := ⟨rtpHdr / 2 ^ 16 % 2 ^ 7, Nat.mod_lt _ (by decide)⟩
      rtpSeqNo := UInt16.ofNat (rtpHdr % 2 ^ 16), rtpTimestamp := UInt32.ofNat (ntohl ((data.drop 4).take 4))
      rtpSSRC := UInt32.ofNat (ntohl ((data.drop 8).take 4)), csrcs, extension := ext
      payload := (data.drop head).take (tail - head), padding, csrcs_length := by omega
      extension_length := ext_length
      padding_count := fun bytes mem => by
        rw [mem, Option.getD_some] at payload
        rw [payload]
        exact count bytes mem }
  have front : d.front = data.take (12 + rtpHdr / 2 ^ 24 % 2 ^ 4 * 4) := by
    have hdr : d.rtpHdr = rtpHdr := by
      have number : (UInt16.ofNat (rtpHdr % 2 ^ 16)).toNat = rtpHdr % 2 ^ 16 :=
        UInt16.toNat_ofNat_of_lt' (Nat.mod_lt _ (by decide))
      show 2 * 2 ^ 30 + padding.isSome.toNat * 2 ^ 29 + ext.isSome.toNat * 2 ^ 28 + csrcs.length * 2 ^ 24 +
        (rtpHdr.testBit 23).toNat * 2 ^ 23 + rtpHdr / 2 ^ 16 % 2 ^ 7 * 2 ^ 16 + (UInt16.ofNat (rtpHdr % 2 ^ 16)).toNat = _
      rw [padded, extended, few, number, Nat.toNat_testBit, Nat.toNat_testBit, Nat.toNat_testBit]
      omega
    show wordBytes (UInt32.ofNat d.rtpHdr) ++ wordBytes (UInt32.ofNat (ntohl ((data.drop 4).take 4))) ++
      wordBytes (UInt32.ofNat (ntohl ((data.drop 8).take 4))) ++ wordsBytes csrcs = _
    have fixed : wordBytes (UInt32.ofNat rtpHdr) = data.take 4 := by
      rw [← first]
      exact wordBytes_ntohl (words 0 (by omega))
    rw [hdr, fixed, wordBytes_ntohl (words 4 (by omega)), wordBytes_ntohl (words 8 (by omega)), csrcs_bytes,
      Nat.mul_comm 4, ← List.take_add, ← List.take_add, ← List.take_add]
  refine ⟨d, ?_, type, ?_⟩
  · show d.front ++ (extensionBytes ext ++ ((data.drop head).take (tail - head) ++ padding.getD [])) = data
    rw [payload, ← ext_bytes, front, List.take_append_drop]
  · have ssrc : (UInt32.ofNat (ntohl ((data.drop 8).take 4))).toNat = ntohl ((data.drop 8).take 4) := by
      have lt := BigEndian.decode_lt ((data.drop 8).take 4)
      rw [words 8 (by omega)] at lt
      exact UInt32.toNat_ofNat_of_lt' lt
    have start : d.front.length + (extensionBytes ext).length = head := by
      rw [front, List.length_take]
      omega
    have stop : head + ((data.drop head).take (tail - head)).length = tail := by
      rw [List.length_take, List.length_drop]
      omega
    show RtpHeader.mk _ _ (UInt32.ofNat (ntohl ((data.drop 8).take 4))).toNat
      (d.front.length + (extensionBytes ext).length)
      (d.front.length + (extensionBytes ext).length + ((data.drop head).take (tail - head)).length) = _
    rw [ssrc, start, stop]

end Accepted


/-- **The datagrams of a stream**: the source takes those that encode a packet of its payload type, and finds in each
the marker bit, the number and the stream that were put in, and the payload between `head` and `tail`. -/
theorem readHeader_eq_some {rtpPayloadFormat : Nat} {data : List UInt8} {h : RtpHeader} :
    readHeader rtpPayloadFormat data = some h ↔
      ∃ d : RtpDatagram, d.encode = data ∧ d.rtpPayloadType.val = rtpPayloadFormat ∧ d.header = h ∧
        (data.take h.tail).drop h.head = d.payload := by
  constructor
  · intro read
    obtain ⟨d, bytes, type, same⟩ := exists_of_readHeader read
    exact ⟨d, bytes, type, same, by rw [← bytes, ← same, d.payload_encode]⟩
  · rintro ⟨d, rfl, rfl, rfl, -⟩
    exact d.readHeader_encode

end RtpDatagram

end CameraEv
