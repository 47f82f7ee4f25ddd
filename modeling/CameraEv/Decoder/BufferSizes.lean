import CameraEv.Lib.CheckedInt
import CameraEv.Camera.CameraPackets
import CameraEv.Decoder.DecoderBuffers

/-!
# The sizes that a request asks for

`checkedBufferSize` is `GetCalcBufferSize` with arithmetic that stops at an
overflow, `exactSize` the same computation on integers. Neither
`OnRecvStreamRequest` nor `SetFrameInfo` tests a width or a height, so
`SetAllocBuffer` computes with whatever a packet holds.
-/

namespace CameraEv.Decoder

open Exec CheckedInt SendWorkerManager CameraPackets

/-- `GetCalcBufferSize`, stopped by the first `int` overflow. -/
def checkedBufferSize (videoPixelFormat width height : Int32) : Exec Int32 :=
  if videoPixelFormat = 3 ∨ videoPixelFormat = 4 then do
    let lineSize ← mul (← div (← add (← add (← mul width 3) 0) 3) 4) 4
    mul lineSize height
  else if videoPixelFormat = 1 then do
    mul (← mul width height) 2
  else if videoPixelFormat = 2 then do
    let temp ← mul width height
    add temp (← div temp 2)
  else return 0

/-- The value of the computation in the integers, where a division truncates too. -/
def exactSize (videoPixelFormat : Int32) (width height : Int) : Int :=
  if videoPixelFormat = 3 ∨ videoPixelFormat = 4 then (width * 3 + 0 + 3).tdiv 4 * 4 * height
  else if videoPixelFormat = 1 then width * height * 2
  else if videoPixelFormat = 2 then width * height + (width * height).tdiv 2
  else 0

/-- `SetAllocBuffer` goes on with the next frame type. -/
def Skipped (info : FrameInfo) : Prop :=
  info.pixelFormat = 0 ∨ info.decode = false ∨ info.width = 0 ∨ info.height = 0

instance (info : FrameInfo) : Decidable (Skipped info) := inferInstanceAs (Decidable (_ ∨ _ ∨ _ ∨ _))

/-- Nothing is allocated, or the size is computed without an overflow, is the exact one and not negative, and the
comparison with the size of the vector sees that number. -/
def SizeExact (info : FrameInfo) : Prop :=
  Skipped info ∨
    checkedBufferSize info.pixelFormat info.width info.height =
        .ok (getCalcBufferSize info.pixelFormat info.width info.height) ∧
      (getCalcBufferSize info.pixelFormat info.width info.height).toInt =
        exactSize info.pixelFormat info.width.toInt info.height.toInt ∧
      0 ≤ (getCalcBufferSize info.pixelFormat info.width info.height).toInt ∧
      (sizeT (getCalcBufferSize info.pixelFormat info.width info.height) : Int) =
        exactSize info.pixelFormat info.width.toInt info.height.toInt

/-- The products that `int` has room for. With three bytes a pixel the row counts in groups of four bytes, and the
product of the width alone has to fit too. -/
def Representable (videoPixelFormat : Int32) (width height : Int) : Prop :=
  if videoPixelFormat = 3 ∨ videoPixelFormat = 4 then
    0 ≤ (width * 3 + 3).tdiv 4 * height ∧ (width * 3 + 3).tdiv 4 * height < 2 ^ 29 ∧ -2 ^ 31 ≤ width * 3
  else if videoPixelFormat = 1 then 0 ≤ width * height ∧ width * height < 2 ^ 30
  else if videoPixelFormat = 2 then 0 ≤ width * height ∧ width * height ≤ 1431655765
  else True

instance (f : Int32) (w h : Int) : Decidable (Representable f w h) := by
  unfold Representable
  infer_instance

/-- What the decoder has for the frame type once the request is handled. -/
def requestedInfo (frameInfo : Fin ftNum → FrameInfo) (type : Fin ftNum) (packet : PacketStreamRequest) : FrameInfo :=
  if type = ftOriginal then { frameInfo ftOriginal with pixelFormat := packet.pixelFormat }
  else
    { pixelFormat := packet.pixelFormat, width := packet.width, height := packet.height
      decode := packet.videoStreaming }

/-! ## The checked computation -/

section Sizes

variable {f w h n : Int32}

/-- What the checked computation returns is the machine's size, and exact. -/
theorem checkedBufferSize_ok (returns : checkedBufferSize f w h = .ok n) :
    n = getCalcBufferSize f w h ∧ n.toInt = exactSize f w.toInt h.toInt := by
  unfold checkedBufferSize at returns
  unfold getCalcBufferSize exactSize
  split at returns
  · rename_i rgb
    rw [if_pos rgb, if_pos rgb]
    obtain ⟨a, triple, returns⟩ := bind_eq_ok.1 returns
    obtain ⟨b, plus, returns⟩ := bind_eq_ok.1 returns
    obtain ⟨c, round, returns⟩ := bind_eq_ok.1 returns
    obtain ⟨d, words, returns⟩ := bind_eq_ok.1 returns
    obtain ⟨line, row, product⟩ := bind_eq_ok.1 returns
    refine ⟨?_, ?_⟩
    · rw [eq_mul product, eq_mul row, eq_div words, eq_add round, eq_add plus, eq_mul triple]
    · rw [mul_eq_ok.1 product, mul_eq_ok.1 row, div_eq_ok.1 words, add_eq_ok.1 round, add_eq_ok.1 plus,
        mul_eq_ok.1 triple]
      rfl
  rename_i rgb
  rw [if_neg rgb, if_neg rgb]
  split at returns
  · rename_i yuy
    rw [if_pos yuy, if_pos yuy]
    obtain ⟨area, product, double⟩ := bind_eq_ok.1 returns
    refine ⟨?_, ?_⟩
    · rw [eq_mul double, eq_mul product]
    · rw [mul_eq_ok.1 double, mul_eq_ok.1 product]
      rfl
  rename_i yuy
  rw [if_neg yuy, if_neg yuy]
  split at returns
  · rename_i yv
    rw [if_pos yv, if_pos yv]
    obtain ⟨temp, product, returns⟩ := bind_eq_ok.1 returns
    obtain ⟨half, quotient, sum⟩ := bind_eq_ok.1 returns
    refine ⟨?_, ?_⟩
    · rw [eq_add sum, eq_div quotient, eq_mul product]
    · rw [add_eq_ok.1 sum, div_eq_ok.1 quotient, mul_eq_ok.1 product]
      rfl
  · rename_i yv
    rw [if_neg yv, if_neg yv]
    cases returns
    exact ⟨rfl, rfl⟩

/-- A truncating quotient is less than the divisor away. -/
theorem tdiv_bounds (a : Int) {k : Int} (positive : 0 < k) : a - k < k * a.tdiv k ∧ k * a.tdiv k < a + k := by
  have parts := Int.mul_tdiv_add_tmod a k
  have upper := Int.tmod_lt_of_pos a positive
  have lower := Int.lt_tmod_of_pos a positive
  constructor
  · omega
  · omega

/-- A factor is no larger than a product whose other factor is not zero. -/
theorem factor_bounds {a b m : Int} (other : b ≠ 0) (lo : 0 ≤ a * b) (hi : a * b < m) : -m < a ∧ a < m := by
  have product : a.natAbs * b.natAbs = (a * b).natAbs := (Int.natAbs_mul a b).symm
  have factor : a.natAbs ≤ a.natAbs * b.natAbs := Nat.le_mul_of_pos_right _ (Int.natAbs_pos.2 other)
  constructor
  · omega
  · omega

/-- Three bytes a pixel: the rows are whole groups of four bytes. -/
theorem returns_rgb_iff (rgb : f = 3 ∨ f = 4) (height : h.toInt ≠ 0) :
    (∃ n, checkedBufferSize f w h = .ok n ∧ 0 ≤ n.toInt) ↔ Representable f w.toInt h.toInt := by
  unfold Representable
  rw [if_pos rgb]
  constructor
  · rintro ⟨n, returns, nonneg⟩
    have size := (checkedBufferSize_ok returns).2
    unfold checkedBufferSize at returns
    rw [if_pos rgb] at returns
    obtain ⟨a, triple, -⟩ := bind_eq_ok.1 returns
    have triple : a.toInt = w.toInt * 3 := mul_eq_ok.1 triple
    have groups : exactSize f w.toInt h.toInt = (w.toInt * 3 + 3).tdiv 4 * h.toInt * 4 := by
      rw [exactSize, if_pos rgb, Int.add_zero]
      ring
    have bounds := toInt_bounds n
    refine ⟨by omega, by omega, ?_⟩
    rw [← triple]
    exact (toInt_bounds a).1
  · rintro ⟨lo, hi, room⟩
    have words_bounds := factor_bounds height lo hi
    have near := tdiv_bounds (w.toInt * 3 + 3) (k := 4) (by omega)
    obtain ⟨a, triple⟩ := exists_toInt (x := w.toInt * 3) room (by omega)
    obtain ⟨c, round⟩ := exists_toInt (x := w.toInt * 3 + 3) (by omega) (by omega)
    obtain ⟨d, words⟩ := exists_toInt (x := (w.toInt * 3 + 3).tdiv 4) (by omega) (by omega)
    obtain ⟨line, row⟩ := exists_toInt (x := (w.toInt * 3 + 3).tdiv 4 * 4) (by omega) (by omega)
    obtain ⟨n, size⟩ := exists_toInt (x := (w.toInt * 3 + 3).tdiv 4 * h.toInt * 4) (by omega) (by omega)
    refine ⟨n, ?_, by omega⟩
    unfold checkedBufferSize
    rw [if_pos rgb]
    apply bind_eq_ok.2
    refine ⟨a, mul_eq_ok.2 triple, bind_eq_ok.2 ⟨a, add_eq_ok.2 (Int.add_zero _).symm, bind_eq_ok.2 ⟨c, ?_, ?_⟩⟩⟩
    · apply add_eq_ok.2
      rw [round, triple]
      rfl
    refine bind_eq_ok.2 ⟨d, ?_, bind_eq_ok.2 ⟨line, ?_, ?_⟩⟩
    · apply div_eq_ok.2
      rw [words, round]
      rfl
    · apply mul_eq_ok.2
      rw [row, words]
      rfl
    · apply mul_eq_ok.2
      rw [size, row]
      ring

theorem returns_yuy2_iff : (∃ n, checkedBufferSize 1 w h = .ok n ∧ 0 ≤ n.toInt) ↔ Representable 1 w.toInt h.toInt := by
  show _ ↔ 0 ≤ w.toInt * h.toInt ∧ w.toInt * h.toInt < 2 ^ 30
  constructor
  · rintro ⟨n, returns, nonneg⟩
    have size : n.toInt = w.toInt * h.toInt * 2 := (checkedBufferSize_ok returns).2
    have bounds := toInt_bounds n
    omega
  · rintro ⟨lo, hi⟩
    obtain ⟨area, product⟩ := exists_toInt (x := w.toInt * h.toInt) (by omega) (by omega)
    obtain ⟨n, double⟩ := exists_toInt (x := w.toInt * h.toInt * 2) (by omega) (by omega)
    refine ⟨n, bind_eq_ok.2 ⟨area, mul_eq_ok.2 product, mul_eq_ok.2 ?_⟩, by omega⟩
    rw [double, product]
    rfl

theorem returns_yv12_iff : (∃ n, checkedBufferSize 2 w h = .ok n ∧ 0 ≤ n.toInt) ↔ Representable 2 w.toInt h.toInt := by
  show _ ↔ 0 ≤ w.toInt * h.toInt ∧ w.toInt * h.toInt ≤ 1431655765
  have near := tdiv_bounds (w.toInt * h.toInt) (k := 2) (by omega)
  constructor
  · rintro ⟨n, returns, nonneg⟩
    have size : n.toInt = w.toInt * h.toInt + (w.toInt * h.toInt).tdiv 2 := (checkedBufferSize_ok returns).2
    have bounds := toInt_bounds n
    have lo : 0 ≤ w.toInt * h.toInt := by omega
    rw [Int.tdiv_eq_ediv_of_nonneg lo] at size
    exact ⟨lo, by omega⟩
  · rintro ⟨lo, hi⟩
    rw [Int.tdiv_eq_ediv_of_nonneg lo] at near
    obtain ⟨temp, product⟩ := exists_toInt (x := w.toInt * h.toInt) (by omega) (by omega)
    obtain ⟨half, quotient⟩ := exists_toInt (x := w.toInt * h.toInt / 2) (by omega) (by omega)
    obtain ⟨n, sum⟩ := exists_toInt (x := w.toInt * h.toInt + w.toInt * h.toInt / 2) (by omega) (by omega)
    refine ⟨n, bind_eq_ok.2 ⟨temp, mul_eq_ok.2 product, bind_eq_ok.2 ⟨half, div_eq_ok.2 ?_, add_eq_ok.2 ?_⟩⟩, by omega⟩
    · rw [quotient, product]
      exact (Int.tdiv_eq_ediv_of_nonneg lo).symm
    · rw [sum, product, quotient]

/-- The size is computed without an overflow and is not negative exactly for the products that `int` has room for. -/
theorem returns_iff (height : h.toInt ≠ 0) :
    (∃ n, checkedBufferSize f w h = .ok n ∧ 0 ≤ n.toInt) ↔ Representable f w.toInt h.toInt := by
  by_cases rgb : f = 3 ∨ f = 4
  · exact returns_rgb_iff rgb height
  by_cases yuy : f = 1
  · subst yuy
    exact returns_yuy2_iff
  by_cases yv : f = 2
  · subst yv
    exact returns_yv12_iff
  · unfold checkedBufferSize Representable
    rw [if_neg rgb, if_neg yuy, if_neg yv, if_neg rgb, if_neg yuy, if_neg yv]
    exact ⟨fun _ => trivial, fun _ => ⟨0, rfl, le_rfl⟩⟩

theorem sizeT_of_nonneg (nonneg : 0 ≤ n.toInt) : (sizeT n : Int) = n.toInt := by
  have bounds := toInt_bounds n
  unfold sizeT
  omega

end Sizes

theorem sizeExact_iff (info : FrameInfo) :
    SizeExact info ↔ Skipped info ∨ Representable info.pixelFormat info.width.toInt info.height.toInt := by
  by_cases skipped : Skipped info
  · exact ⟨fun _ => .inl skipped, fun _ => .inl skipped⟩
  have height : info.height.toInt ≠ 0 := by
    intro zero
    exact skipped (.inr (.inr (.inr (Int32.toInt_inj.1 zero))))
  have returns := returns_iff (f := info.pixelFormat) (w := info.width) height
  unfold SizeExact
  rw [or_iff_right skipped, or_iff_right skipped, ← returns]
  constructor
  · rintro ⟨checked, -, nonneg, -⟩
    exact ⟨_, checked, nonneg⟩
  · rintro ⟨n, checked, nonneg⟩
    obtain ⟨machine, exact'⟩ := checkedBufferSize_ok checked
    rw [← machine]
    exact ⟨checked, exact', nonneg, (sizeT_of_nonneg nonneg).trans exact'⟩

theorem allocItem_skipped {info : FrameInfo} (skipped : Skipped info) (frame : DestFrame) (b : Buffer)
    (address : Nat) : allocItem info frame b address = (frame, b, false) := if_pos skipped

theorem allocItem_enabled {info : FrameInfo} (enabled : ¬ Skipped info) (frame : DestFrame) (b : Buffer)
    (address : Nat) : allocItem info frame b address =
      let size := getCalcBufferSize info.pixelFormat info.width info.height
      if b.size < sizeT size then ({ frame with dataSize := size }, b.resize (sizeT size) address, true)
      else ({ frame with dataSize := size }, b, false) := if_neg enabled

/-- The exact size is what decides and what the vector gets. -/
theorem allocItem_of_sizeExact {info : FrameInfo} (exact' : SizeExact info) (wanted : ¬ Skipped info) (frame : DestFrame)
    (b : Buffer) (address : Nat) :
    allocItem info frame b address =
      let size := exactSize info.pixelFormat info.width.toInt info.height.toInt
      let frame := { frame with dataSize := getCalcBufferSize info.pixelFormat info.width info.height }
      if (b.size : Int) < size then (frame, b.resize size.toNat address, true) else (frame, b, false) := by
  obtain ⟨-, -, -, seen⟩ := exact'.resolve_left wanted
  have bytes : sizeT (getCalcBufferSize info.pixelFormat info.width info.height) =
      (exactSize info.pixelFormat info.width.toInt info.height.toInt).toNat := by omega
  rw [allocItem_enabled wanted]
  simp only [bytes]
  by_cases less : (b.size : Int) < exactSize info.pixelFormat info.width.toInt info.height.toInt
  · rw [if_pos less, if_pos (by omega)]
  · rw [if_neg less, if_neg (by omega)]

/-! ## Requests -/

/-- A request to an active streamer is stored as it comes. -/
theorem onRecvStreamRequest_frameInfo {s : CameraPackets.State} {packet : PacketStreamRequest} {ii : Fin 3} {type : Fin ftNum}
    (named : streamerIndex packet.streamIndex = some ii) (typed : frameIndex packet.frameType = some type)
    (active : s.active ii = true) :
    ∃ t, s.onRecvStreamRequest packet = .ok t ∧ t.frameInfo ii type = requestedInfo (s.frameInfo ii) type packet := by
  unfold CameraPackets.State.onRecvStreamRequest setDecodeFrameInfo requestedInfo
  simp only [named, active, if_true]
  by_cases original : packet.frameType = 0
  · have zero : type = ftOriginal := by
      rw [original] at typed
      exact (Option.some.inj typed).symm
    rw [if_pos original, if_pos zero, zero]
    refine ⟨_, rfl, ?_⟩
    simp only [Function.update_self]
  · have other : type ≠ ftOriginal := by
      rintro rfl
      apply original
      apply Int32.toInt_inj.1
      unfold frameIndex at typed
      split at typed
      · rename_i range
        have place := congrArg Fin.val (Option.some.inj typed)
        have zero : packet.frameType.toInt.toNat = 0 := place
        show packet.frameType.toInt = 0
        omega
      · cases typed
    rw [if_neg original, if_neg other]
    simp only [typed]
    refine ⟨_, rfl, ?_⟩
    simp only [Function.update_self]

/-- **The size of a requested buffer is exact** for the requests whose products `int` has room for, and for those that
`SetAllocBuffer` skips; the decoder takes every other request too. -/
theorem requested_size_exact_iff {s : CameraPackets.State} {packet : PacketStreamRequest} {ii : Fin 3} {type : Fin ftNum}
    (named : streamerIndex packet.streamIndex = some ii) (typed : frameIndex packet.frameType = some type)
    (active : s.active ii = true) :
    ∃ t, s.onRecvStreamRequest packet = .ok t ∧
      (SizeExact (t.frameInfo ii type) ↔
        Skipped (requestedInfo (s.frameInfo ii) type packet) ∨
          Representable (requestedInfo (s.frameInfo ii) type packet).pixelFormat
            (requestedInfo (s.frameInfo ii) type packet).width.toInt
            (requestedInfo (s.frameInfo ii) type packet).height.toInt) := by
  obtain ⟨t, handled, stored⟩ := onRecvStreamRequest_frameInfo named typed active
  refine ⟨t, handled, ?_⟩
  rw [stored]
  exact sizeExact_iff _

/-- Display frames in YV12, 1920 by 1080. -/
theorem requested_size_exact_iff_display : ∃ t,
    ({ active := fun _ => true } : CameraPackets.State).onRecvStreamRequest
        { streamIndex := 0, frameType := 1, pixelFormat := 2, width := 1920, height := 1080 } = .ok t ∧
      SizeExact (t.frameInfo 0 1) := by
  obtain ⟨t, handled, iff⟩ := @requested_size_exact_iff { active := fun _ => true }
    { streamIndex := 0, frameType := 1, pixelFormat := 2, width := 1920, height := 1080 } 0 1 rfl rfl rfl
  exact ⟨t, handled, iff.2 (by decide)⟩

/-- A request with a width of −1: the vector is asked to hold 2⁶⁴ − 2 bytes. With 65536 by 65536 points the product is
0 and the vector stays empty. -/
theorem negative_request_unsized : ∃ t u,
    ({ active := fun _ => true } : CameraPackets.State).onRecvStreamRequest
        { streamIndex := 0, frameType := 1, pixelFormat := 1, width := -1, height := 1 } = .ok t ∧
      ¬ SizeExact (t.frameInfo 0 1) ∧
      (allocItem (t.frameInfo 0 1) {} { address := 0 } 1).2.1.size = 2 ^ 64 - 2 ∧
    ({ active := fun _ => true } : CameraPackets.State).onRecvStreamRequest
        { streamIndex := 0, frameType := 1, pixelFormat := 1, width := 65536, height := 65536 } = .ok u ∧
      ¬ SizeExact (u.frameInfo 0 1) ∧
      (allocItem (u.frameInfo 0 1) {} { address := 0 } 1).2 = ({ address := 0 }, false) := by
  refine ⟨_, _, rfl, ?_, rfl, rfl, ?_, rfl⟩
  · rw [sizeExact_iff]
    decide
  · rw [sizeExact_iff]
    decide

end CameraEv.Decoder
