import CameraEv.Decoder.FrameDelivery

/-!
# Which enabled frames are converted

`SetAllocBuffer` sizes a vector with `GetCalcBufferSize`, `Decode` compares its
size with `av_image_get_buffer_size` and with 128. The first rounds a row of
three bytes a point up to four bytes, the second a row or a plane of shared
chroma up to whole pairs of points. A vector never shrinks, so a larger setting
from before can be what makes it large enough.
-/

namespace CameraEv

/-- `FFmpeg::GetFromAVPixelFormat`. -/
def FFmpeg.getFromAVPixelFormat (avpixelFormat : Int32) : Int32 :=
  if avpixelFormat = 1 then 1
  else if avpixelFormat = 0 then 2
  else if avpixelFormat = 3 then 3
  else if avpixelFormat = 2 then 4
  else 0

namespace Decoder.Buffers.Delivery

open Trace

/-- The bytes of a picture without alignment: two points of `YUYV422` share four bytes, the two planes of chroma of
`YUV420P` have a byte for every two by two points. -/
def avSize (videoPixelFormat : Int32) (width height : Int) : Int :=
  if videoPixelFormat = 3 ∨ videoPixelFormat = 4 then 3 * width * height
  else if videoPixelFormat = 1 then 4 * ((width + 1) / 2) * height
  else if videoPixelFormat = 2 then width * height + 2 * ((width + 1) / 2) * ((height + 1) / 2)
  else 0

def avSizeOf (info : FrameInfo) : Int := avSize info.pixelFormat info.width.toInt info.height.toInt

/-- What `GetCalcBufferSize` computes where it does not overflow. -/
def calcSizeOf (info : FrameInfo) : Int := calcSize info.pixelFormat info.width.toInt info.height.toInt

/-- One of the four formats and a positive size whose bytes `int` can count either way. -/
structure Supported (info : FrameInfo) : Prop where
  format : info.pixelFormat = 1 ∨ info.pixelFormat = 2 ∨ info.pixelFormat = 3 ∨ info.pixelFormat = 4
  width : 0 < info.width.toInt
  height : 0 < info.height.toInt
  calc_lt : calcSizeOf info < 2 ^ 31
  av_lt : avSizeOf info < 2 ^ 31

instance (info : FrameInfo) : Decidable (Supported info) :=
  decidable_of_iff ((info.pixelFormat = 1 ∨ info.pixelFormat = 2 ∨ info.pixelFormat = 3 ∨ info.pixelFormat = 4) ∧
      0 < info.width.toInt ∧ 0 < info.height.toInt ∧ calcSizeOf info < 2 ^ 31 ∧ avSizeOf info < 2 ^ 31)
    ⟨fun h => ⟨h.1, h.2.1, h.2.2.1, h.2.2.2.1, h.2.2.2.2⟩, fun h => ⟨h.format, h.width, h.height, h.calc_lt, h.av_lt⟩⟩

/-- `bufferSize` counts the pictures of the four formats so, where `int` has room for the count. -/
def AvImage (bufferSize : Int32 → Int32 → Int32 → Int32) : Prop :=
  ∀ info, Supported info →
    (bufferSize (FFmpeg.getToAVPixelFormat info.pixelFormat) info.width info.height).toInt = avSizeOf info

/-- The points that share chroma come in whole pairs. -/
def Paired (info : FrameInfo) : Prop :=
  if info.pixelFormat = 3 ∨ info.pixelFormat = 4 then True
  else if info.pixelFormat = 1 then info.width.toInt % 2 = 0
  else info.width.toInt % 2 = 0 ∧ info.height.toInt % 2 = 0

instance (info : FrameInfo) : Decidable (Paired info) := by
  unfold Paired
  infer_instance

/-- The decoder gives pictures that have a height, and what `SetAllocBuffer` sizes is supported. -/
def Sound (s : Watched) : Act → Prop
  | .decode picture => ∀ p ∈ picture, 0 < p.width → 0 < p.height
  | .setAllocBuffer _ => ∀ ii, ¬ Skipped (s.memory.frameInfo ii) → Supported (s.memory.frameInfo ii)
  | _ => True

instance (s : Watched) : ∀ a, Decidable (Sound s a)
  | .decode picture => inferInstanceAs (Decidable (∀ p ∈ picture, _ → _))
  | .setAllocBuffer _ => inferInstanceAs (Decidable (∀ _ : Fin ftNum, _ → _))
  | .threadLoop _ | .setFrameInfo .. | .store | .setDstBufferInfo | .read | .convert _ | .callback => .isTrue trivial

/-- Every frame type that is enabled has been converted in this iteration. -/
def Converted (s : Watched) : Act → Prop
  | .callback => (delivering s.memory.point).isSome = true →
    ∀ ii, ¬ Skipped (s.memory.frameInfo ii) → s.converted ii = true
  | _ => True

instance (s : Watched) : ∀ a, Decidable (Converted s a)
  | .callback => inferInstanceAs (Decidable (_ → ∀ _ : Fin ftNum, _ → _))
  | .threadLoop _ | .setFrameInfo .. | .store | .setDstBufferInfo | .decode _ | .read | .convert _ | .setAllocBuffer _ =>
    .isTrue trivial

/-- The setting of a type that is enabled has whole pairs of points and 128 bytes, or the vector was sized for one that
is at least that large. -/
def Roomy (s : Watched) : Act → Prop
  | .callback => (delivering s.memory.point).isSome = true →
    ∀ ii, ¬ Skipped (s.memory.frameInfo ii) →
      Paired (s.memory.frameInfo ii) ∧ 128 ≤ calcSizeOf (s.memory.frameInfo ii) ∨
        ∃ earlier ∈ s.sized ii, 128 ≤ calcSizeOf earlier ∧ avSizeOf (s.memory.frameInfo ii) ≤ calcSizeOf earlier
  | _ => True

instance (s : Watched) : ∀ a, Decidable (Roomy s a)
  | .callback => inferInstanceAs (Decidable (_ → ∀ _ : Fin ftNum, _ → _ ∨ _))
  | .threadLoop _ | .setFrameInfo .. | .store | .setDstBufferInfo | .decode _ | .read | .convert _ | .setAllocBuffer _ =>
    .isTrue trivial

/-! ## The two sizes -/

section Sizes

variable {info : FrameInfo} {b : Buffer}

/-- The size of a setting with whole pairs of points is enough, and that of any other is not. -/
theorem avSizeOf_le_iff (supported : Supported info) : avSizeOf info ≤ calcSizeOf info ↔ Paired info := by
  obtain ⟨format, width, height, -, -⟩ := supported
  unfold avSizeOf calcSizeOf avSize calcSize Paired
  generalize info.width.toInt = w at *
  generalize info.height.toInt = h at *
  by_cases rgb : info.pixelFormat = 3 ∨ info.pixelFormat = 4
  · rw [if_pos rgb, if_pos rgb, if_pos rgb]
    refine iff_of_true ?_ trivial
    exact Int.mul_le_mul_of_nonneg_right (by omega) height.le
  rw [if_neg rgb, if_neg rgb, if_neg rgb]
  by_cases yuy : info.pixelFormat = 1
  · rw [if_pos yuy, if_pos yuy, if_pos yuy]
    rcases Int.even_or_odd' w with ⟨k, rfl | rfl⟩
    · have half : (2 * k + 1) / 2 = k := by omega
      rw [half]
      refine iff_of_true (le_of_eq ?_) (by omega)
      ring
    · have half : (2 * k + 1 + 1) / 2 = k + 1 := by omega
      rw [half]
      refine iff_of_false ?_ (by omega)
      have product : 4 * (k + 1) * h = (2 * k + 1) * h * 2 + 2 * h := by ring
      omega
  · have yv : info.pixelFormat = 2 := by
      rcases format with is | is | is | is
      · exact absurd is yuy
      · exact is
      · exact absurd (.inl is) rgb
      · exact absurd (.inr is) rgb
    rw [if_neg yuy, if_neg yuy, if_neg yuy, if_pos yv, if_pos yv]
    rcases Int.even_or_odd' w with ⟨k, rfl | rfl⟩
    · have half : (2 * k + 1) / 2 = k := by omega
      rw [half]
      rcases Int.even_or_odd' h with ⟨m, rfl | rfl⟩
      · have half' : (2 * m + 1) / 2 = m := by omega
        have area : 2 * k * (2 * m) = 2 * (2 * (k * m)) := by ring
        have chroma : 2 * k * m = 2 * (k * m) := by ring
        rw [half', area, chroma]
        exact iff_of_true (by omega) (by omega)
      · have half' : (2 * m + 1 + 1) / 2 = m + 1 := by omega
        have area : 2 * k * (2 * m + 1) = 2 * (2 * (k * m) + k) := by ring
        have chroma : 2 * k * (m + 1) = 2 * (k * m) + 2 * k := by ring
        rw [half', area, chroma]
        exact iff_of_false (by omega) (by omega)
    · have half : (2 * k + 1 + 1) / 2 = k + 1 := by omega
      rw [half]
      rcases Int.even_or_odd' h with ⟨m, rfl | rfl⟩
      · have half' : (2 * m + 1) / 2 = m := by omega
        have area : (2 * k + 1) * (2 * m) = 2 * (2 * (k * m) + m) := by ring
        have chroma : 2 * (k + 1) * m = 2 * (k * m) + 2 * m := by ring
        rw [half', area, chroma]
        exact iff_of_false (by omega) (by omega)
      · have half' : (2 * m + 1 + 1) / 2 = m + 1 := by omega
        have area : (2 * k + 1) * (2 * m + 1) = 2 * (2 * (k * m) + k + m) + 1 := by ring
        have chroma : 2 * (k + 1) * (m + 1) = 2 * (k * m) + 2 * k + 2 * m + 2 := by ring
        rw [half', area, chroma]
        exact iff_of_false (by omega) (by omega)

theorem sizeT_of_supported (supported : Supported info) :
    0 ≤ calcSizeOf info ∧
      (sizeT (getCalcBufferSize info.pixelFormat info.width info.height) : Int) = calcSizeOf info := by
  obtain ⟨size, nonneg⟩ := getCalcBufferSize_eq supported.width.le supported.height supported.calc_lt
  refine ⟨nonneg, ?_⟩
  rw [sizeT_of_nonneg (by rw [size]; exact nonneg), size]
  rfl

/-- `SetAllocBuffer` leaves a vector of at least the size of the setting. -/
theorem size_allocItem (supported : Supported info) (enabled : ¬ Skipped info) (frame : DestFrame) (address : Nat) :
    ((allocItem info frame b address).2.1.size : Int) = max (calcSizeOf info) b.size := by
  obtain ⟨nonneg, size⟩ := sizeT_of_supported supported
  rw [allocItem_enabled enabled]
  simp only
  split
  · have resized : (b.resize (sizeT (getCalcBufferSize info.pixelFormat info.width info.height)) address).size =
        sizeT (getCalcBufferSize info.pixelFormat info.width info.height) := by
      unfold Buffer.resize
      split
      · rfl
      · rfl
    show ((b.resize _ address).size : Int) = _
    rw [resized, size]
    omega
  · show (b.size : Int) = _
    omega

/-- The tests of `Decode` compare the vector with 128 and with the size of the picture. -/
theorem passes_iff {bufferSize : Int32 → Int32 → Int32 → Int32} (av : AvImage bufferSize) (supported : Supported info)
    (enabled : ¬ Skipped info) (small : b.size < 2 ^ 31) :
    Passes bufferSize info b ↔ 128 ≤ (b.size : Int) ∧ avSizeOf info ≤ b.size := by
  have size : (Int32.ofInt b.size).toInt = b.size := toInt_ofInt_size small
  have picture := av info supported
  have decode : info.decode = true := by
    cases off : info.decode with
    | true => rfl
    | false => exact absurd (.inr (.inl off)) enabled
  unfold Passes Wanted pointTo
  by_cases empty : b.size = 0
  · rw [if_pos empty, empty]
    exact iff_of_false (fun passes => passes.1.1 rfl) (fun large => absurd large.1 (by decide))
  · rw [if_neg empty]
    simp only [ne_eq, reduceCtorEq, not_false_eq_true, true_and, Int32.not_lt, Int32.le_iff_toInt_le, size, picture,
      decode]
    have bytes : (128 : Int32).toInt = 128 := rfl
    rw [bytes]
    constructor
    · rintro ⟨⟨large, -⟩, room⟩
      exact ⟨large, room⟩
    · rintro ⟨large, room⟩
      exact ⟨⟨large, fun none => enabled (.inl none)⟩, room⟩

end Sizes

/-! ## Every run -/

section Runs

variable {bufferSize : Int32 → Int32 → Int32 → Int32} {s t : Watched} {a : Act}

/-- The vectors are as large as the largest setting that they were sized for. -/
structure Sizing (s : Watched) : Prop where
  size : ∀ ii (n : Int), 0 < n → (n ≤ (s.memory.buffers ii).size ↔ ∃ info ∈ s.sized ii, n ≤ calcSizeOf info)
  supported : ∀ ii, ∀ info ∈ s.sized ii, Supported info
  positive : ∀ p ∈ s.picture, 0 < p.width ∧ 0 < p.height
  current : (delivering s.memory.point).isSome = true →
    ∀ ii, ¬ Skipped (s.memory.frameInfo ii) → s.memory.frameInfo ii ∈ s.sized ii

/-- An empty vector was sized for nothing. -/
theorem le_empty_iff {n : Int} (positive : 0 < n) :
    n ≤ (0 : Nat) ↔ ∃ info ∈ ([] : List FrameInfo), n ≤ calcSizeOf info := by
  refine iff_of_false ?_ ?_
  · omega
  · rintro ⟨info, mem, -⟩
    cases mem

theorem Sizing.small (sizing : Sizing s) (ii : Fin ftNum) : (s.memory.buffers ii).size < 2 ^ 31 := by
  by_contra large
  obtain ⟨info, mem, most⟩ := (sizing.size ii (2 ^ 31) (by omega)).1 (by omega)
  have bound := (sizing.supported ii info mem).calc_lt
  omega

/-- A step that leaves the vectors, the settings they were sized for and the picture alone, and does not lead to the
callback. -/
theorem Sizing.keep (sizing : Sizing s) (buffers : t.memory.buffers = s.memory.buffers) (sized : t.sized = s.sized)
    (picture : t.picture = s.picture) (off : delivering t.memory.point = none) : Sizing t := by
  refine ⟨?_, ?_, ?_, ?_⟩
  · rw [buffers, sized]
    exact sizing.size
  · rw [sized]
    exact sizing.supported
  · rw [picture]
    exact sizing.positive
  · intro next
    rw [off] at next
    cases next

theorem delivering_nextItem (dst : Dest) (picture : Picture) (ret : Nat) (ii : Fin ftNum) :
    delivering (nextItem dst picture ret ii) = none := by
  unfold nextItem
  split
  · rfl
  · rfl

theorem sized_noteConvert (ii : Fin ftNum) (p : ConvertParam) (code written : Nat) :
    (s.noteConvert ii p code written).sized = s.sized := by
  unfold Watched.noteConvert
  split
  · rfl
  split
  · rfl
  · rfl

/-- The sizes behind a `SetAllocBuffer`. -/
theorem Sizing.allocated (sizing : Sizing s)
    (supported : ∀ ii, ¬ Skipped (s.memory.frameInfo ii) → Supported (s.memory.frameInfo ii)) (dst : Dest)
    (addresses : Fin ftNum → Nat) (ii : Fin ftNum) :
    (∀ n : Int, 0 < n →
      (n ≤ ((setAllocBuffer s.memory.frameInfo dst s.memory.buffers addresses).2.1 ii).size ↔
        ∃ info ∈ s.noteSized.sized ii, n ≤ calcSizeOf info)) ∧
    (∀ info ∈ s.noteSized.sized ii, Supported info) ∧
    (¬ Skipped (s.memory.frameInfo ii) → s.memory.frameInfo ii ∈ s.noteSized.sized ii) := by
  show (∀ n : Int, 0 < n →
    (n ≤ (allocItem (s.memory.frameInfo ii) (dst.frame ii) (s.memory.buffers ii) (addresses ii)).2.1.size ↔ _)) ∧ _
  by_cases skipped : Skipped (s.memory.frameInfo ii)
  · have same : s.noteSized.sized ii = s.sized ii := if_pos skipped
    rw [allocItem_skipped skipped, same]
    exact ⟨sizing.size ii, sizing.supported ii, fun enabled => absurd skipped enabled⟩
  · have more : s.noteSized.sized ii = s.memory.frameInfo ii :: s.sized ii := if_neg skipped
    rw [size_allocItem (supported ii skipped) skipped, more]
    refine ⟨fun n positive => ?_, ?_, fun _ => List.mem_cons_self⟩
    · rw [le_max_iff, sizing.size ii n positive, List.exists_mem_cons_iff]
    · exact List.forall_mem_cons.2 ⟨supported ii skipped, sizing.supported ii⟩

/-- Behind `Decode` the size of the original frames is that of the picture. -/
theorem Sizing.resolution (sizing : Sizing s) (inv : Inv bufferSize s) {dst : Dest} {ret : Nat}
    (point : s.memory.point = .decoded dst ret) :
    0 < (s.memory.frameInfo ftOriginal).width ∧ 0 < (s.memory.frameInfo ftOriginal).height := by
  have ok := inv.point
  rw [point] at ok
  obtain ⟨picture, decoded⟩ := Option.isSome_iff_exists.1 ok.1
  have size : infoSize (s.memory.frameInfo ftOriginal) = pictureSize picture := by
    rw [inv.recorded, Watched.recorded, decoded]
  have width : (s.memory.frameInfo ftOriginal).width = picture.width := congrArg Prod.fst size
  have height : (s.memory.frameInfo ftOriginal).height = picture.height := congrArg Prod.snd size
  rw [width, height]
  exact sizing.positive picture decoded

theorem Sizing.step (sizing : Sizing s) (inv : Inv bufferSize s) (quiet : Quiet s a) (sound : Sound s a)
    (h : Delivery.step bufferSize s a = some t) : Sizing t := by
  obtain ⟨m, moved, rfl⟩ := Option.map_eq_some_iff.1 h
  cases moves_of_step moved with
  | threadLoop point =>
    refine ⟨fun ii n positive => le_empty_iff positive, fun ii info mem => (by cases mem), sizing.positive, ?_⟩
    intro next
    simp only [point, delivering, Option.isSome_none, Bool.false_eq_true] at next
  | setFrameInfo free => exact ⟨sizing.size, sizing.supported, sizing.positive, sizing.current⟩
  | store writer =>
    refine sizing.keep rfl rfl rfl ?_
    show delivering s.memory.point = none
    rw [eq_start quiet]
    rfl
  | setDstBufferInfo point free =>
    exact ⟨sizing.size, sizing.supported, fun p mem => (by cases mem), fun next => (by cases next)⟩
  | @noPicture dst picture point small =>
    rw [note_noPicture small]
    exact sizing.keep rfl rfl rfl rfl
  | @picture dst picture point positive =>
    rw [note_picture positive]
    refine ⟨sizing.size, sizing.supported, ?_, fun next => (by cases next)⟩
    rintro p mem
    cases mem
    have width := Int32.not_le.1 positive
    exact ⟨width, sound picture rfl width⟩
  | @read dst picture ret ii reading point' point read =>
    have ok := inv.point
    rw [point] at ok
    obtain ⟨-, taken, -, -, so⟩ := ok
    refine sizing.keep rfl rfl rfl ?_
    show delivering point' = none
    rcases readItem_cases (taken ii) so read with ⟨rfl, -⟩ | ⟨reading', rfl, -⟩
    · exact delivering_nextItem dst picture ret ii
    · rfl
  | @convert dst picture ret ii f w height answers point =>
    rw [note_convert point]
    refine sizing.keep rfl (sized_noteConvert ..) ?_ (delivering_nextItem ..)
    exact (agree_noteConvert ii _ _ _).picture
  | @failed dst ret addresses point ne =>
    rw [note_failed point ne]
    exact sizing.keep rfl rfl rfl rfl
  | @setAllocBuffer dst addresses point resolution free =>
    rw [note_allocated point resolution]
    have allocated := sizing.allocated sound dst addresses
    exact ⟨fun ii => (allocated ii).1, fun ii => (allocated ii).2.1, sizing.positive, fun _ ii => (allocated ii).2.2⟩
  | noResolution point unknown => exact absurd (sizing.resolution inv point) unknown
  | callback point => exact sizing.keep rfl rfl rfl rfl

theorem sizing_initial (frameInfo : Fin ftNum → FrameInfo) (addresses : Fin ftNum → Nat) (param : ConvertParam) :
    Sizing (.initial frameInfo addresses param) :=
  ⟨fun ii n positive => le_empty_iff positive, fun ii info mem => (by cases mem), fun p mem => (by cases mem),
    fun next => (by cases next)⟩

/-- The vector passes the tests of `Decode` for its present setting or for a larger one before. -/
theorem Sizing.passes_iff (sizing : Sizing s) (av : AvImage bufferSize) (next : (delivering s.memory.point).isSome = true)
    {ii : Fin ftNum} (enabled : ¬ Skipped (s.memory.frameInfo ii)) :
    Passes bufferSize (s.memory.frameInfo ii) (s.memory.buffers ii) ↔
      Paired (s.memory.frameInfo ii) ∧ 128 ≤ calcSizeOf (s.memory.frameInfo ii) ∨
        ∃ earlier ∈ s.sized ii, 128 ≤ calcSizeOf earlier ∧ avSizeOf (s.memory.frameInfo ii) ≤ calcSizeOf earlier := by
  have present := sizing.current next ii enabled
  have supported := sizing.supported ii _ present
  have largest := sizing.size ii (max 128 (avSizeOf (s.memory.frameInfo ii))) (by omega)
  simp only [max_le_iff] at largest
  rw [Delivery.passes_iff av supported enabled (sizing.small ii), largest]
  constructor
  · exact .inr
  · rintro (⟨paired, large⟩ | earlier)
    · exact ⟨_, present, large, (avSizeOf_le_iff supported).2 paired⟩
    · exact earlier

theorem converted_iff (inv : Inv bufferSize s) (sizing : Sizing s) (av : AvImage bufferSize) :
    Converted s a ↔ Roomy s a := by
  cases a with
  | callback =>
    show (_ → _) ↔ (_ → _)
    refine forall_congr' fun next => forall_congr' fun ii => forall_congr' fun enabled => ?_
    obtain ⟨dst, mem⟩ := Option.isSome_iff_exists.1 next
    obtain ⟨-, -, treated⟩ := inv.delivering mem
    rw [← sizing.passes_iff av next enabled]
    constructor
    · intro converted
      by_contra fails
      rw [((treated ii).2 fails).1] at converted
      cases converted
    · intro passes
      exact ((treated ii).1 passes).1
  | _ => exact ⟨fun _ => trivial, fun _ => trivial⟩

end Runs

/-- **Every enabled frame type is converted in the iteration that delivers it**, in the runs whose enabled settings have
whole pairs of points and at least 128 bytes, or come behind a setting that has left the vector large enough. -/
theorem converted_iff_roomy {bufferSize : Int32 → Int32 → Int32 → Int32} (av : AvImage bufferSize)
    {frameInfo : Fin ftNum → FrameInfo} {addresses : Fin ftNum → Nat} {param : ConvertParam} {acts : List Act}
    (quiet : Along (step bufferSize) Quiet (.initial frameInfo addresses param) acts)
    (sound : Along (step bufferSize) Sound (.initial frameInfo addresses param) acts) :
    Along (step bufferSize) Converted (.initial frameInfo addresses param) acts ↔
      Along (step bufferSize) Roomy (.initial frameInfo addresses param) acts :=
  along_congr (I := fun s => Inv bufferSize s ∧ Sizing s)
    (fun invs both h => ⟨invs.1.step both.1 h, invs.2.step invs.1 both.1 both.2 h⟩)
    (fun invs _ => converted_iff invs.1 invs.2 av)
    ⟨inv_initial frameInfo addresses param, sizing_initial frameInfo addresses param⟩ (quiet.and sound)

/-- The four formats as `av_image_get_buffer_size` counts them. -/
def avImageSize (avpixelFormat width height : Int32) : Int32 :=
  let format := FFmpeg.getFromAVPixelFormat avpixelFormat
  if format ≠ 0 ∧ 0 < width.toInt ∧ 0 < height.toInt ∧ avSize format width.toInt height.toInt < 2 ^ 31 then
    Int32.ofInt (avSize format width.toInt height.toInt)
  else -22

theorem avImage_avImageSize : AvImage avImageSize := by
  intro info supported
  obtain ⟨format, width, height, -, av⟩ := supported
  have back : FFmpeg.getFromAVPixelFormat (FFmpeg.getToAVPixelFormat info.pixelFormat) = info.pixelFormat := by
    rcases format with is | is | is | is
    all_goals
      rw [is]
      rfl
  have known : info.pixelFormat ≠ 0 := by
    rcases format with is | is | is | is
    all_goals
      rw [is]
      decide
  have nonneg : 0 ≤ avSizeOf info := by
    unfold avSizeOf avSize
    split
    · positivity
    split
    · exact Int.mul_nonneg (by omega) height.le
    split
    · exact Int.add_nonneg (Int.mul_nonneg width.le height.le) (Int.mul_nonneg (by omega) (by omega))
    · exact le_rfl
  simp only [avImageSize, back]
  rw [if_pos ⟨known, width, height, av⟩]
  apply Int32.toInt_ofInt_of_le
  · show -2 ^ 31 ≤ avSizeOf info
    omega
  · exact av

/-- Display frames in RGB of 8 by 8 points. -/
theorem converted_iff_roomy_display :
    Along (step avImageSize) Converted (.initial displayFrames (fun _ => 5) ⟨0, 0, 0, none, 0, 0, 0, 0⟩)
      (firstIteration 16 16 ++ iteration 16 16) :=
  (converted_iff_roomy avImage_avImageSize (by decide +kernel) (by decide +kernel)).2 (by decide +kernel)

/-- Display frames in YUY2 of 7 by 20 points: 280 bytes are allocated and 320 asked for. -/
def oddFrames (type : Fin ftNum) : FrameInfo :=
  if type.val = 1 then { pixelFormat := 1, width := 7, height := 20, decode := true } else {}

/-- An iteration that skips the display frames at the comparison of the sizes and delivers. -/
def skippingIteration : List Act :=
  [.setDstBufferInfo, .decode (some ⟨0, 16, 16⟩), .read, .read, .read, .read, .read, .read, .read, .read, .read,
    .setAllocBuffer fun _ => 7, .callback]

/-- The callback gets a vector that nothing was ever converted into. -/
theorem odd_width_unconverted :
    (∃ s, run (step avImageSize) (.initial oddFrames (fun _ => 5) ⟨0, 0, 0, none, 0, 0, 0, 0⟩)
      (firstIteration 16 16 ++ skippingIteration) = some s ∧ s.held 1 = none) ∧
    Along (step avImageSize) Quiet (.initial oddFrames (fun _ => 5) ⟨0, 0, 0, none, 0, 0, 0, 0⟩)
      (firstIteration 16 16 ++ skippingIteration) ∧
    Along (step avImageSize) Sound (.initial oddFrames (fun _ => 5) ⟨0, 0, 0, none, 0, 0, 0, 0⟩)
      (firstIteration 16 16 ++ skippingIteration) ∧
    ¬ Along (step avImageSize) Converted (.initial oddFrames (fun _ => 5) ⟨0, 0, 0, none, 0, 0, 0, 0⟩)
      (firstIteration 16 16 ++ skippingIteration) := by
  refine ⟨?_, by decide +kernel, by decide +kernel, by decide +kernel⟩
  have held : (run (step avImageSize) (.initial oddFrames (fun _ => 5) ⟨0, 0, 0, none, 0, 0, 0, 0⟩)
      (firstIteration 16 16 ++ skippingIteration)).map (fun s => s.held 1) = some none := by decide +kernel
  exact Option.map_eq_some_iff.1 held

end Decoder.Buffers.Delivery

end CameraEv
