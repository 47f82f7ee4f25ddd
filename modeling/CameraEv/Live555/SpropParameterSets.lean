import CameraEv.Live555.H264Sink
import CameraEv.Live555.H264Packetization

/-!
# `sprop-parameter-sets`

A session description gives the parameter sets of the video in base 64, with commas
between them. `parseSPropParameterSets` gives back the sets that were encoded, and
`setSpropRecords` makes the header of the sink of them.
-/

namespace CameraEv

/-! ## `Base64.cpp` -/

/-- `base64DecodeTable`. -/
def base64DecodeTable (c : UInt8) : UInt8 :=
  if 65 ≤ c ∧ c ≤ 90 then c - 65
  else if 97 ≤ c ∧ c ≤ 122 then 26 + (c - 97)
  else if 48 ≤ c ∧ c ≤ 57 then 52 + (c - 48)
  else if c = 43 then 62
  else if c = 47 then 63
  else if c = 61 then 0
  else 0x80

/-- `base64Char`. -/
def base64Char (n : UInt8) : UInt8 :=
  if n < 26 then 65 + n
  else if n < 52 then 97 + (n - 26)
  else if n < 62 then 48 + (n - 52)
  else if n = 62 then 43
  else 47

/-- What a character stands for; one that is not in the table counts as an `A`. -/
def base64Value (c : UInt8) : UInt8 := if base64DecodeTable c &&& 0x80 ≠ 0 then 0 else base64DecodeTable c

/-- The loop of `base64Decode`: the bytes, and `paddingCount`. Less than four characters at the end are left out. -/
def base64Groups : List UInt8 → List UInt8 × Nat
  | c₀ :: c₁ :: c₂ :: c₃ :: rest =>
    let (out, paddingCount) := base64Groups rest
    let v₀ := base64Value c₀
    let v₁ := base64Value c₁
    let v₂ := base64Value c₂
    let v₃ := base64Value c₃
    ((v₀ <<< 2 ||| v₁ >>> 4) :: (v₁ <<< 4 ||| v₂ >>> 2) :: (v₂ <<< 6 ||| v₃) :: out,
      [c₀, c₁, c₂, c₃].count 61 + paddingCount)
  | _ => ([], 0)

/-- As many zeros at the end as there was padding. -/
def trimTrailingZeros : Nat → List UInt8 → List UInt8
  | 0, out => out
  | paddingCount + 1, out => if out.getLast? = some 0 then trimTrailingZeros paddingCount out.dropLast else out

def base64Decode (s : List UInt8) : List UInt8 :=
  let (out, paddingCount) := base64Groups s
  trimTrailingZeros paddingCount out

def base64Encode : List UInt8 → List UInt8
  | a :: b :: c :: rest =>
    base64Char (a >>> 2 &&& 0x3F) :: base64Char (((a &&& 0x3) <<< 4 ||| b >>> 4) &&& 0x3F) ::
      base64Char ((b <<< 2 ||| c >>> 6) &&& 0x3F) :: base64Char (c &&& 0x3F) :: base64Encode rest
  | [a, b] =>
    [base64Char (a >>> 2 &&& 0x3F), base64Char (((a &&& 0x3) <<< 4 ||| b >>> 4) &&& 0x3F),
      base64Char (b <<< 2 &&& 0x3F), 61]
  | [a] => [base64Char (a >>> 2 &&& 0x3F), base64Char ((a &&& 0x3) <<< 4 &&& 0x3F), 61, 61]
  | [] => []

/-- A set for each part of the string between the commas. -/
def parseSPropParameterSets (sPropParameterSetsStr : Option (List UInt8)) : Option (List (List UInt8)) :=
  sPropParameterSetsStr.map fun inStr => (inStr.splitOn 44).map base64Decode

/-! ## A text that was encoded is decoded -/

namespace Base64

/-- A property of the six bits that a character stands for is one of 64 numbers. -/
theorem base64Value_char : ∀ n : UInt8, base64Value (base64Char (n &&& 0x3F)) = n &&& 0x3F :=
  H264VideoRTPSource.forall_byte (by decide +kernel)

/-- No character of the alphabet is padding, or a comma. -/
theorem base64Char_ne : ∀ n : UInt8, base64Char (n &&& 0x3F) ≠ 61 ∧ base64Char (n &&& 0x3F) ≠ 44 :=
  H264VideoRTPSource.forall_byte (by decide +kernel)

theorem base64Value_padding : base64Value 61 = 0 := by decide

section Groups

variable (a b c : UInt8)

theorem group_first : (a >>> 2 &&& 0x3F) <<< 2 ||| (((a &&& 0x3) <<< 4 ||| b >>> 4) &&& 0x3F) >>> 4 = a := by
  apply UInt8.toBitVec_inj.1
  simp only [UInt8.toBitVec_or, UInt8.toBitVec_and, UInt8.toBitVec_shiftLeft, UInt8.toBitVec_shiftRight]
  ext i hi
  interval_cases i <;> simp

theorem group_second :
    (((a &&& 0x3) <<< 4 ||| b >>> 4) &&& 0x3F) <<< 4 ||| ((b <<< 2 ||| c >>> 6) &&& 0x3F) >>> 2 = b := by
  apply UInt8.toBitVec_inj.1
  simp only [UInt8.toBitVec_or, UInt8.toBitVec_and, UInt8.toBitVec_shiftLeft, UInt8.toBitVec_shiftRight]
  ext i hi
  interval_cases i <;> simp

theorem group_third : ((b <<< 2 ||| c >>> 6) &&& 0x3F) <<< 6 ||| (c &&& 0x3F) = c := by
  apply UInt8.toBitVec_inj.1
  simp only [UInt8.toBitVec_or, UInt8.toBitVec_and, UInt8.toBitVec_shiftLeft, UInt8.toBitVec_shiftRight]
  ext i hi
  interval_cases i <;> simp

end Groups

/-- The padding of a text: a group is three bytes. -/
def padding (orig : List UInt8) : Nat := (3 - orig.length % 3) % 3

/-- The groups of an encoded text: it comes back with as many zeros as there is padding. -/
theorem base64Groups_encode (orig : List UInt8) :
    base64Groups (base64Encode orig) = (orig ++ List.replicate (padding orig) 0, padding orig) := by
  induction orig using base64Encode.induct with
  | case1 a b c rest ih =>
    have more : padding (a :: b :: c :: rest) = padding rest := by
      unfold padding
      exact congrArg (fun n => (3 - n) % 3) (Nat.add_mod_right rest.length 3)
    simp only [base64Encode, base64Groups, base64Value_char, ih, more, group_first a b, group_second a b c,
      group_third b c, List.count_cons, List.count_nil, base64Char_ne, beq_iff_eq, if_false, Nat.zero_add,
      List.cons_append]
  | case2 a b =>
    -- The group goes on with a zero.
    have second := group_second a b 0
    have third := group_third b 0
    simp only [UInt8.zero_shiftRight, UInt8.or_zero, UInt8.zero_and] at second third
    simp [base64Encode, base64Groups, base64Value_char, base64Value_padding, group_first a b, second, third,
      base64Char_ne, padding]
  | case3 a =>
    have first := group_first a 0
    have second := group_second a 0 0
    simp only [UInt8.zero_shiftRight, UInt8.or_zero, UInt8.zero_shiftLeft, UInt8.zero_and] at first second
    simp [base64Encode, base64Groups, base64Value_char, base64Value_padding, first, second, base64Char_ne, padding,
      List.replicate]
  | case4 => rfl

theorem trimTrailingZeros_replicate (out : List UInt8) (n : Nat) :
    trimTrailingZeros n (out ++ List.replicate n 0) = out := by
  induction n with
  | zero => rw [trimTrailingZeros, List.replicate_zero, List.append_nil]
  | succ n ih =>
    rw [List.replicate_succ', ← List.append_assoc, trimTrailingZeros, if_pos List.getLast?_concat,
      List.dropLast_concat, ih]

theorem base64Decode_encode (orig : List UInt8) : base64Decode (base64Encode orig) = orig := by
  unfold base64Decode
  rw [base64Groups_encode]
  exact trimTrailingZeros_replicate orig (padding orig)

theorem comma_not_mem_encode (orig : List UInt8) : 44 ∉ base64Encode orig := by
  induction orig using base64Encode.induct with
  | case1 a b c rest ih =>
    simp only [base64Encode, List.mem_cons, not_or]
    exact ⟨(base64Char_ne _).2.symm, (base64Char_ne _).2.symm, (base64Char_ne _).2.symm, (base64Char_ne _).2.symm, ih⟩
  | case2 a b =>
    simp only [base64Encode, List.mem_cons, not_or]
    exact ⟨(base64Char_ne _).2.symm, (base64Char_ne _).2.symm, (base64Char_ne _).2.symm, by decide, List.not_mem_nil⟩
  | case3 a =>
    simp only [base64Encode, List.mem_cons, not_or]
    exact ⟨(base64Char_ne _).2.symm, (base64Char_ne _).2.symm, by decide, by decide, List.not_mem_nil⟩
  | case4 => exact List.not_mem_nil

end Base64

/-! ## The header of the sink -/

namespace SpropParameterSets

/-- The string of a session description for the sets `records`. -/
def spropText (records : List (List UInt8)) : List UInt8 := List.intercalate [44] (records.map base64Encode)

/-- What belongs into the header for one set: nothing when it is empty, or neither an SPS nor a PPS. -/
def headerPart : List UInt8 → List UInt8
  | [] => []
  | first :: rest => if first &&& 0x1F = 7 ∨ first &&& 0x1F = 8 then h264StartCode ++ first :: rest else []

theorem parse_spropText {records : List (List UInt8)} (any : records ≠ []) :
    parseSPropParameterSets (some (spropText records)) = some records := by
  have commas : ∀ text ∈ records.map base64Encode, 44 ∉ text := by
    intro text mem
    obtain ⟨record, _, rfl⟩ := List.mem_map.1 mem
    exact Base64.comma_not_mem_encode record
  have parts : (spropText records).splitOn 44 = records.map base64Encode :=
    List.splitOn_intercalate 44 commas (mt List.map_eq_nil_iff.1 any)
  have decoded : (records.map base64Encode).map base64Decode = records := by
    rw [List.map_map]
    exact (List.map_congr_left fun record _ => Base64.base64Decode_encode record).trans (List.map_id records)
  unfold parseSPropParameterSets
  rw [Option.map_some, parts, decoded]

/-- One turn of the loop, when there is room. -/
theorem appendRecord_bytes (header : ArrayEx 1024) (record : List UInt8)
    (fits : header.len + (headerPart record).length ≤ 1024) :
    (H264Sink.appendRecord header record).bytes = header.bytes ++ headerPart record := by
  cases record with
  | nil => exact (List.append_nil _).symm
  | cons first rest =>
    simp only [headerPart, H264Sink.appendRecord] at fits ⊢
    by_cases kind : first &&& 0x1F = 7 ∨ first &&& 0x1F = 8
    · rw [if_pos kind, List.length_append] at fits
      have code : (header.append h264StartCode).2.bytes = header.bytes ++ h264StartCode :=
        ArrayEx.append_of_fits (by omega)
      have len : (header.append h264StartCode).2.len = header.len + h264StartCode.length := by
        unfold ArrayEx.len
        rw [code, List.length_append]
      rw [if_pos kind, if_pos kind, ArrayEx.append_of_fits (by omega), code, List.append_assoc]
    · rw [if_neg kind, if_neg kind]
      exact (List.append_nil _).symm

/-- The loop, behind what is there already. -/
theorem foldl_appendRecord (records : List (List UInt8)) (header : ArrayEx 1024)
    (fits : header.len + (records.flatMap headerPart).length ≤ 1024) :
    (records.foldl H264Sink.appendRecord header).bytes = header.bytes ++ records.flatMap headerPart := by
  induction records generalizing header with
  | nil => exact (List.append_nil _).symm
  | cons record records ih =>
    rw [List.flatMap_cons, List.length_append] at fits
    have step := appendRecord_bytes header record (by omega)
    have len : (H264Sink.appendRecord header record).len = header.len + (headerPart record).length := by
      unfold ArrayEx.len
      rw [step, List.length_append]
    rw [List.foldl_cons, ih _ (by omega), step, List.append_assoc, List.flatMap_cons]

/-- The header of a session description is its parameter sets, all of them, if there is room for all of them. -/
theorem header_iff (records : List (List UInt8)) :
    (H264Sink.setSpropRecords (some records)).2.bytes = records.flatMap headerPart ↔
      (records.flatMap headerPart).length ≤ 1024 := by
  constructor
  · intro whole
    rw [← whole]
    exact (H264Sink.setSpropRecords (some records)).2.room
  · intro fits
    exact foldl_appendRecord records .clear (by rwa [ArrayEx.len, ArrayEx.clear, List.length_nil, Nat.zero_add])

/-- A session description gives back the sets that it was made of, and the header is the start code and the bytes of
each SPS and PPS if there is room for all of them. -/
theorem header_of_description (records : List (List UInt8)) (any : records ≠ []) :
    parseSPropParameterSets (some (spropText records)) = some records ∧
      ((H264Sink.setSpropRecords (parseSPropParameterSets (some (spropText records)))).2.bytes =
        records.flatMap headerPart ↔ (records.flatMap headerPart).length ≤ 1024) := by
  rw [parse_spropText any]
  exact ⟨rfl, header_iff records⟩

/-- An SPS of three bytes, and a PPS of two with a zero at its end. -/
theorem header_of_description_two :
    parseSPropParameterSets (some (spropText [[0x67, 1, 2], [0x68, 0]])) = some [[0x67, 1, 2], [0x68, 0]] ∧
      ((H264Sink.setSpropRecords (parseSPropParameterSets (some (spropText [[0x67, 1, 2], [0x68, 0]])))).2.bytes =
        [[0x67, 1, 2], [0x68, 0]].flatMap headerPart ↔
          ([[0x67, 1, 2], [0x68, 0]].flatMap headerPart).length ≤ 1024) :=
  header_of_description [[0x67, 1, 2], [0x68, 0]] (List.cons_ne_nil _ _)

end SpropParameterSets

end CameraEv
