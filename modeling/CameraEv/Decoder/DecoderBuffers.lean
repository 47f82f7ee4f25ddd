import CameraEv.Decoder.DecoderDefine
import CameraEv.Lib.Trace

/-!
# The buffers of the decoding thread

One iteration of `Decoder::ThreadLoop` behind the queue, step by step:
`SetDstBufferInfo` takes the addresses and sizes of the vectors, `Decode` reads
the fields of `frame_info` one at a time and converts, `SetAllocBuffer` sizes the
vectors, and the callback gets what is left in `dst`. Between any two steps
another thread may be in `SetFrameInfo`, which stores the fields one at a time
and keeps out only the two functions that take the same lock. A vector is its
address, its size and its capacity. What FFmpeg answers is part of the steps;
`bufferSize` is `av_image_get_buffer_size` with alignment 1. The contents of the
frames, `index` and `fps` are left out.
-/

namespace CameraEv

/-- `FFmpeg::GetToAVPixelFormat`, with the numbers of `enum AVPixelFormat`. -/
def FFmpeg.getToAVPixelFormat (videoPixelFormat : Int32) : Int32 :=
  if videoPixelFormat = 1 then 1
  else if videoPixelFormat = 2 then 0
  else if videoPixelFormat = 3 then 3
  else if videoPixelFormat = 4 then 2
  else -1

namespace Decoder

/-- Formats 3 and 4 are `VPIX_FMT_BGR24` and `VPIX_FMT_RGB24`, 1 is `VPIX_FMT_YUY2` and 2 is `VPIX_FMT_YV12`. -/
def getCalcBufferSize (videoPixelFormat width height : Int32) : Int32 :=
  if videoPixelFormat = 3 ∨ videoPixelFormat = 4 then
    let lineSize := (width * 3 + 0 + 3) / 4 * 4
    lineSize * height
  else if videoPixelFormat = 1 then width * height * 2
  else if videoPixelFormat = 2 then
    let temp := width * height
    temp + temp / 2
  else 0

/-- The size that `getCalcBufferSize` means, without the bounds of `int`. -/
def calcSize (videoPixelFormat : Int32) (width height : Int) : Int :=
  if videoPixelFormat = 3 ∨ videoPixelFormat = 4 then (width * 3 + 3) / 4 * 4 * height
  else if videoPixelFormat = 1 then width * height * 2
  else if videoPixelFormat = 2 then width * height + width * height / 2
  else 0

/-- An element of `arr_buffer_dst`. -/
structure Buffer where
  address : Nat
  size : Nat := 0
  /-- Of the `reserve`. -/
  capacity : Nat := 1024 * 1024 * 3

/-- Above its capacity the vector moves to where the allocator says. -/
def Buffer.resize (b : Buffer) (size address : Nat) : Buffer :=
  if size ≤ b.capacity then { b with size } else { address, size, capacity := size }

/-- `data` is the address, nothing for a null pointer. -/
structure DestFrame where
  data : Option Nat := none
  dataSize : Int32 := 0

structure Dest where
  frame : Fin ftNum → DestFrame := fun _ => {}
  frameInfo : Fin ftNum → FrameInfo := fun _ => {}

/-- What `SetDstBufferInfo` makes of an element of `dst.frame`. -/
def pointTo (frame : DestFrame) (b : Buffer) : DestFrame :=
  if b.size = 0 then frame else { data := some b.address, dataSize := Int32.ofInt b.size }

def setDstBufferInfo (frameInfo : Fin ftNum → FrameInfo) (dst : Dest) (buffers : Fin ftNum → Buffer) : Dest where
  frame ii := pointTo (dst.frame ii) (buffers ii)
  frameInfo := frameInfo

/-- An `int` that is compared with a `size_t`. -/
def sizeT (n : Int32) : Nat := (n.toInt % 2 ^ 64).toNat

/-- The body of the loop of `SetAllocBuffer`. -/
def allocItem (info : FrameInfo) (frame : DestFrame) (b : Buffer) (address : Nat) : DestFrame × Buffer × Bool :=
  if info.pixelFormat = 0 ∨ info.decode = false ∨ info.width = 0 ∨ info.height = 0 then (frame, b, false)
  else
    let frame := { frame with dataSize := getCalcBufferSize info.pixelFormat info.width info.height }
    if b.size < sizeT frame.dataSize then (frame, b.resize (sizeT frame.dataSize) address, true)
    else (frame, b, false)

def setAllocBuffer (frameInfo : Fin ftNum → FrameInfo) (dst : Dest) (buffers : Fin ftNum → Buffer)
    (addresses : Fin ftNum → Nat) : Dest × (Fin ftNum → Buffer) × Bool :=
  let item ii := allocItem (frameInfo ii) (dst.frame ii) (buffers ii) (addresses ii)
  ({ dst with frame := fun ii => (item ii).1 }, fun ii => (item ii).2.1, (List.finRange ftNum).any fun ii => (item ii).2.2)

end Decoder

/-! ## The converter -/

structure ConvertParam where
  srcPixelFormat : Int32
  srcWidth : Int32
  srcHeight : Int32
  dstBuffer : Option Nat
  dstPixelFormat : Int32
  dstWidth : Int32
  dstHeight : Int32
  dstLineSize : Int32 := 0

/-- The frames are there or not; a context is what it was made from. -/
structure Converter where
  avframeSrc : Bool := false
  avframeDst : Bool := false
  swsContexts : Option ConvertParam := none
  param : ConvertParam

namespace Converter

/-- What FFmpeg answers during one `Convert`. -/
structure Answers where
  avframeSrc : Bool
  avframeDst : Bool
  swsContexts : Bool
  fillArrays : Int32
  scale : Int32
  /-- The bytes that `sws_scale` writes. -/
  written : Nat

def isEqualParam (c : Converter) (p : ConvertParam) : Bool :=
  p.srcPixelFormat = c.param.srcPixelFormat && p.srcWidth = c.param.srcWidth && p.srcHeight = c.param.srcHeight &&
    p.dstPixelFormat = c.param.dstPixelFormat && p.dstWidth = c.param.dstWidth && p.dstHeight = c.param.dstHeight

def finalize (c : Converter) : Converter := { c with avframeSrc := false, avframeDst := false, swsContexts := none }

/-- The first half of `Initialize`: parameters of another image drop the frames and the context. -/
def setParam (c : Converter) (p : ConvertParam) : Converter :=
  let c := if c.isEqualParam p then c else c.finalize
  { c with param := p }

/-- The second half of `Initialize`: what is not there is made. -/
def create (c : Converter) (a : Answers) : Nat × Converter :=
  if !c.avframeSrc && !a.avframeSrc then (1, c)
  else
    let c := { c with avframeSrc := true }
    if !c.avframeDst && !a.avframeDst then (1, c)
    else
      let c := { c with avframeDst := true }
      if c.swsContexts.isNone then
        if a.swsContexts then (0, { c with swsContexts := some c.param }) else (2, c)
      else (0, c)

/-- `Converter_FFmpeg::Initialize`. -/
def initializeConverter (c : Converter) (p : ConvertParam) (a : Answers) : Nat × Converter := (c.setParam p).create a

/-- `Convert`: its result, the bytes that it has written and the converter. -/
def convert (c : Converter) (p : ConvertParam) (a : Answers) : Nat × Nat × Converter :=
  let (code, c) := c.initializeConverter p a
  if code ≠ 0 then (1, 0, c)
  else if a.fillArrays < 0 then (1, 0, c)
  else (if a.scale ≤ 0 then 2 else 0, a.written, c)

end Converter

/-! ## The threads -/

namespace Decoder.Buffers

open Trace

/-- The fields of a `FrameInfo`, in the order of its assignment. -/
inductive Field where
  | pixelFormat
  | width
  | height
  | decode
  deriving DecidableEq

def Field.copy (info target : FrameInfo) : Field → FrameInfo
  | .pixelFormat => { target with pixelFormat := info.pixelFormat }
  | .width => { target with width := info.width }
  | .height => { target with height := info.height }
  | .decode => { target with decode := info.decode }

/-- The fields that `SetFrameInfo` stores. -/
def fields (type : Fin ftNum) : List Field :=
  if type = ftOriginal then [.pixelFormat] else [.pixelFormat, .width, .height, .decode]

/-- What `m_avcodec_context` says of a decoded picture. -/
structure Picture where
  pixelFormat : Int32
  width : Int32
  height : Int32

/-- Where the loop body of `Decode` is for one frame type, with what it has read. -/
inductive Reading where
  /-- Before the tests of `dst.frame[ii]`. -/
  | frame
  | decode
  /-- Before the test of the pixel format. -/
  | isNone
  | pixelFormat
  | width (dstPixelFormat : Int32)
  | height (dstPixelFormat dstWidth : Int32)
  /-- Before the comparison of the sizes. -/
  | compare (dstPixelFormat dstWidth dstHeight : Int32)
  | convert (dstPixelFormat dstWidth dstHeight : Int32)

/-- Where the iteration of `ThreadLoop` is. -/
inductive Point where
  | start
  /-- Before `Decode`. -/
  | decode (dst : Dest)
  | loop (dst : Dest) (picture : Picture) (ret : Nat) (ii : Fin ftNum) (reading : Reading)
  | decoded (dst : Dest) (ret : Nat)
  | callback (dst : Dest)

structure Memory where
  /-- The frame infos of `m_impl`. -/
  frameInfo : Fin ftNum → FrameInfo
  /-- A `SetFrameInfo` under way, which holds `m_frame_info_mutex`, and the fields it has still to store. -/
  writer : Option (Fin ftNum × FrameInfo × List Field) := none
  buffers : Fin ftNum → Buffer
  converter : Converter
  point : Point := .start

inductive Act where
  /-- `ThreadLoop` is entered, with new vectors. -/
  | threadLoop (addresses : Fin ftNum → Nat)
  | setFrameInfo (type : Fin ftNum) (info : FrameInfo)
  /-- The next store of the `SetFrameInfo` under way; the last one releases the lock. -/
  | store
  | setDstBufferInfo
  /-- What `avcodec_receive_frame` has given, if it has given a picture. -/
  | decode (picture : Option Picture)
  /-- The next read of the loop body of `Decode`. -/
  | read
  | convert (answers : Converter.Answers)
  | setAllocBuffer (addresses : Fin ftNum → Nat)
  | callback

/-- The loop of `Decode` goes on with the next frame type. -/
def nextItem (dst : Dest) (picture : Picture) (ret : Nat) (ii : Fin ftNum) : Point :=
  if h : ii.val + 1 < ftNum then .loop dst picture ret ⟨ii.val + 1, h⟩ .frame else .decoded dst ret

/-- One read of the loop body of `Decode`. -/
def readItem (bufferSize : Int32 → Int32 → Int32 → Int32) (info : FrameInfo) (dst : Dest) (picture : Picture) (ret : Nat)
    (ii : Fin ftNum) : Reading → Option Point
  | .frame =>
    if (dst.frame ii).data = none ∨ (dst.frame ii).dataSize < 128 then some (nextItem dst picture ret ii)
    else some (.loop dst picture ret ii .decode)
  | .decode => if info.decode then some (.loop dst picture ret ii .isNone) else some (nextItem dst picture ret ii)
  | .isNone =>
    if info.pixelFormat = 0 then some (nextItem dst picture ret ii) else some (.loop dst picture ret ii .pixelFormat)
  | .pixelFormat => some (.loop dst picture ret ii (.width (FFmpeg.getToAVPixelFormat info.pixelFormat)))
  | .width f => some (.loop dst picture ret ii (.height f info.width))
  | .height f w => some (.loop dst picture ret ii (.compare f w info.height))
  | .compare f w h =>
    if (dst.frame ii).dataSize < bufferSize f w h then some (nextItem dst picture ret ii)
    else some (.loop dst picture ret ii (.convert f w h))
  | .convert _ _ _ => none

/-- The parameters that `Decode` hands to `Convert`. -/
def convertParam (dst : Dest) (picture : Picture) (ii : Fin ftNum) (f w h : Int32) : ConvertParam where
  srcPixelFormat := picture.pixelFormat
  srcWidth := picture.width
  srcHeight := picture.height
  dstBuffer := (dst.frame ii).data
  dstPixelFormat := f
  dstWidth := w
  dstHeight := h

variable (bufferSize : Int32 → Int32 → Int32 → Int32)

def step (s : Memory) : Act → Option Memory
  | .threadLoop addresses =>
    match s.point with
    | .start => some { s with buffers := fun ii => { address := addresses ii } }
    | _ => none
  | .setFrameInfo type info =>
    match s.writer with
    | none => some { s with writer := some (type, info, fields type) }
    | some _ => none
  | .store =>
    match s.writer with
    | some (type, info, f :: fs) =>
      some { s with
        frameInfo := Function.update s.frameInfo type (f.copy info (s.frameInfo type))
        writer := if fs = [] then none else some (type, info, fs) }
    | _ => none
  | .setDstBufferInfo =>
    match s.point, s.writer with
    | .start, none => some { s with point := .decode (setDstBufferInfo s.frameInfo {} s.buffers) }
    | _, _ => none
  | .decode picture =>
    match s.point, picture with
    | .decode _, none => some { s with point := .start }
    | .decode dst, some picture =>
      if picture.width ≤ 0 then some { s with point := .start }
      else
        let original := { s.frameInfo ftOriginal with width := picture.width, height := picture.height }
        some { s with
          frameInfo := Function.update s.frameInfo ftOriginal original
          point := .loop dst picture 0 ftOriginal .frame }
    | _, _ => none
  | .read =>
    match s.point with
    | .loop dst picture ret ii reading =>
      (readItem bufferSize (s.frameInfo ii) dst picture ret ii reading).map fun point => { s with point }
    | _ => none
  | .convert answers =>
    match s.point with
    | .loop dst picture ret ii (.convert f w h) =>
      let (code, _, converter) := s.converter.convert (convertParam dst picture ii f w h) answers
      some { s with converter, point := nextItem dst picture (if code ≠ 0 then 4 else ret) ii }
    | _ => none
  | .setAllocBuffer addresses =>
    match s.point with
    | .decoded dst ret =>
      if ret ≠ 0 then some { s with point := .start }
      else if 0 < (s.frameInfo ftOriginal).width ∧ 0 < (s.frameInfo ftOriginal).height then
        if s.writer.isSome then none
        else
          let (dst, buffers, allocated) := setAllocBuffer s.frameInfo dst s.buffers addresses
          some { s with buffers, point := if allocated then .start else .callback dst }
      else some { s with point := .callback dst }
    | _ => none
  | .callback =>
    match s.point with
    | .callback _ => some { s with point := .start }
    | _ => none

/-- Before the first iteration, with the frame infos of `Initialize`. -/
def Memory.initial (frameInfo : Fin ftNum → FrameInfo) (addresses : Fin ftNum → Nat) (param : ConvertParam) : Memory where
  frameInfo := frameInfo
  buffers ii := { address := addresses ii }
  converter := { param }

/-- The range of a frame lies in the vector as it is allocated; a null pointer has size 0. -/
def Inside (frame : DestFrame) (b : Buffer) : Prop :=
  match frame.data with
  | none => frame.dataSize = 0
  | some address => address = b.address ∧ 0 ≤ frame.dataSize.toInt ∧ frame.dataSize.toInt ≤ b.size

/-- The conversion that is next: its parameters and the frame type. -/
def converting : Point → Option (ConvertParam × Fin ftNum)
  | .loop dst picture _ ii (.convert f w h) => some (convertParam dst picture ii f w h, ii)
  | _ => none

/-- A conversion that writes does so into the vector of its frame type, and the callback gets ranges of the vectors. -/
def Safe (s : Memory) : Act → Prop
  | .convert answers => ∀ x ∈ converting s.point,
    (s.converter.convert x.1 answers).2.1 = 0 ∨
      x.1.dstBuffer = some (s.buffers x.2).address ∧ (s.converter.convert x.1 answers).2.1 ≤ (s.buffers x.2).size
  | .callback => match s.point with
    | .callback dst => ∀ ii, Inside (dst.frame ii) (s.buffers ii)
    | _ => True
  | _ => True

/-- The size of a context's image. -/
def imageSize (p : ConvertParam) : Int := (bufferSize p.dstPixelFormat p.dstWidth p.dstHeight).toInt

/-- `sws_scale` writes the image of its context, and a conversion to an invalid size or format fails before it writes. -/
def Documented (s : Memory) : Act → Prop
  | .convert answers => ∀ x ∈ converting s.point,
    (∀ q ∈ (s.converter.initializeConverter x.1 answers).2.swsContexts, 0 ≤ imageSize bufferSize q →
      answers.written ≤ imageSize bufferSize q) ∧
    (imageSize bufferSize x.1 < 0 → (s.converter.convert x.1 answers).2.1 = 0)
  | _ => True

instance (s : Memory) : ∀ a, Decidable (Documented bufferSize s a)
  | .convert _ => inferInstanceAs (Decidable (∀ x ∈ converting s.point, _ ∧ _))
  | .threadLoop _ | .setFrameInfo .. | .store | .setDstBufferInfo | .decode _ | .read | .setAllocBuffer _ | .callback =>
    .isTrue trivial

/-- The buffer for the frames does not overflow `int`. -/
def Fits (info : FrameInfo) : Prop :=
  info.pixelFormat = 0 ∨ info.decode = false ∨
    0 ≤ info.width.toInt ∧ 0 ≤ info.height.toInt ∧
      calcSize info.pixelFormat info.width.toInt info.height.toInt < 2 ^ 31

instance (info : FrameInfo) : Decidable (Fits info) := inferInstanceAs (Decidable (_ ∨ _ ∨ _))

/-- The sizes that `SetAllocBuffer` computes. -/
def Sized (s : Memory) : Act → Prop
  | .setAllocBuffer _ => s.writer = none →
    0 < (s.frameInfo ftOriginal).width → 0 < (s.frameInfo ftOriginal).height → ∀ type, Fits (s.frameInfo type)
  | _ => True

instance (s : Memory) : ∀ a, Decidable (Sized s a)
  | .setAllocBuffer _ => by
    have : Decidable (s.writer = none) := decidable_of_iff _ Option.isNone_iff_eq_none
    exact inferInstanceAs (Decidable (_ → _ → _ → ∀ type : Fin ftNum, Fits (s.frameInfo type)))
  | .threadLoop _ | .setFrameInfo .. | .store | .setDstBufferInfo | .decode _ | .read | .convert _ | .callback =>
    .isTrue trivial

/-! ## The sizes -/

section Arithmetic

variable {a b : Int32} {x y : Int}

theorem toInt_mul_eq (ha : a.toInt = x) (hb : b.toInt = y) (lo : 0 ≤ x * y) (hi : x * y < 2 ^ 31) :
    (a * b).toInt = x * y := by
  rw [Int32.toInt_mul, ha, hb, Int.bmod_eq_of_le] <;> omega

theorem toInt_add_eq (ha : a.toInt = x) (hb : b.toInt = y) (lo : 0 ≤ x + y) (hi : x + y < 2 ^ 31) :
    (a + b).toInt = x + y := by
  rw [Int32.toInt_add, ha, hb, Int.bmod_eq_of_le] <;> omega

theorem toInt_div_eq (ha : a.toInt = x) (hb : b.toInt = y) (lo : 0 ≤ x) (positive : 0 < y) : (a / b).toInt = x / y := by
  have notMinus : b ≠ -1 := by
    rintro rfl
    rw [← hb] at positive
    exact absurd positive (by decide)
  rw [Int32.toInt_div_of_ne_right _ _ notMinus, ha, hb, Int.tdiv_eq_ediv_of_nonneg lo]

end Arithmetic

/-- Where the sizes fit, the computation does not wrap. -/
theorem getCalcBufferSize_eq {f w h : Int32} (hw : 0 ≤ w.toInt) (hh : 0 < h.toInt)
    (fits : calcSize f w.toInt h.toInt < 2 ^ 31) :
    (getCalcBufferSize f w h).toInt = calcSize f w.toInt h.toInt ∧ 0 ≤ calcSize f w.toInt h.toInt := by
  unfold getCalcBufferSize
  unfold calcSize at fits ⊢
  have area : 0 ≤ w.toInt * h.toInt := Int.mul_nonneg hw hh.le
  split
  · rename_i rgb
    rw [if_pos rgb] at fits
    have line : (w.toInt * 3 + 3) / 4 * 4 < 2 ^ 31 :=
      lt_of_le_of_lt (le_mul_of_one_le_right (by omega) (by omega)) fits
    have nonneg : 0 ≤ (w.toInt * 3 + 3) / 4 * 4 * h.toInt := Int.mul_nonneg (by omega) hh.le
    have e₁ : (w * 3).toInt = w.toInt * 3 := toInt_mul_eq rfl rfl (by omega) (by omega)
    have e₂ : (w * 3 + 0).toInt = w.toInt * 3 := by rw [Int32.add_zero, e₁]
    have e₃ : (w * 3 + 0 + 3).toInt = w.toInt * 3 + 3 := toInt_add_eq e₂ rfl (by omega) (by omega)
    have e₄ : ((w * 3 + 0 + 3) / 4).toInt = (w.toInt * 3 + 3) / 4 := toInt_div_eq e₃ rfl (by omega) (by omega)
    have e₅ : ((w * 3 + 0 + 3) / 4 * 4).toInt = (w.toInt * 3 + 3) / 4 * 4 := toInt_mul_eq e₄ rfl (by omega) (by omega)
    exact ⟨toInt_mul_eq e₅ rfl nonneg fits, nonneg⟩
  split
  · rename_i rgb yuy
    rw [if_neg rgb, if_pos yuy] at fits
    have e₁ : (w * h).toInt = w.toInt * h.toInt := toInt_mul_eq rfl rfl area (by omega)
    exact ⟨toInt_mul_eq e₁ rfl (by omega) (by omega), by omega⟩
  split
  · rename_i rgb yuy yv
    rw [if_neg rgb, if_neg yuy, if_pos yv] at fits
    have e₁ : (w * h).toInt = w.toInt * h.toInt := toInt_mul_eq rfl rfl area (by omega)
    have e₂ : (w * h / 2).toInt = w.toInt * h.toInt / 2 := toInt_div_eq e₁ rfl area (by omega)
    exact ⟨toInt_add_eq e₁ e₂ (by omega) (by omega), by omega⟩
  · exact ⟨rfl, le_rfl⟩

theorem toInt_ofInt_size {n : Nat} (h : n < 2 ^ 31) : (Int32.ofInt n).toInt = n :=
  Int32.toInt_ofInt_of_le (by omega) (by omega)

/-- What `SetDstBufferInfo` takes lies in the vector. -/
theorem inside_pointTo {b : Buffer} (small : b.size < 2 ^ 31) : Inside (pointTo {} b) b := by
  unfold pointTo
  split
  · exact rfl
  · simp only [Inside, toInt_ofInt_size small]
    exact ⟨trivial, by omega, by omega⟩

/-- `SetAllocBuffer` makes a vector large enough, or it has found it so. -/
theorem allocItem_spec {info : FrameInfo} {b : Buffer} (fits : Fits info) (small : b.size < 2 ^ 31) (address : Nat) :
    (allocItem info (pointTo {} b) b address).2.1.size < 2 ^ 31 ∧
      ((allocItem info (pointTo {} b) b address).2.2 = false →
        (allocItem info (pointTo {} b) b address).2.1 = b ∧ Inside (allocItem info (pointTo {} b) b address).1 b) := by
  unfold allocItem
  split
  · exact ⟨small, fun _ => ⟨rfl, inside_pointTo small⟩⟩
  rename_i wanted
  simp only [not_or] at wanted
  obtain ⟨notNone, decode, width, height⟩ := wanted
  obtain ⟨hw, hh, size⟩ := (fits.resolve_left notNone).resolve_left decode
  have positive : 0 < info.height.toInt := lt_of_le_of_ne hh fun zero => height (Int32.toInt_inj.1 zero.symm)
  obtain ⟨calc', nonneg⟩ := getCalcBufferSize_eq hw positive size
  have count : sizeT (getCalcBufferSize info.pixelFormat info.width info.height) =
      (calcSize info.pixelFormat info.width.toInt info.height.toInt).toNat := by
    rw [sizeT, calc', Int.emod_eq_of_lt nonneg (by omega)]
  simp only [count]
  split
  · refine ⟨?_, nofun⟩
    unfold Buffer.resize
    split
    · show (calcSize _ _ _).toNat < 2 ^ 31
      omega
    · show (calcSize _ _ _).toNat < 2 ^ 31
      omega
  · rename_i enough
    refine ⟨small, fun _ => ⟨rfl, ?_⟩⟩
    unfold pointTo
    split
    · rename_i empty
      have zero : calcSize info.pixelFormat info.width.toInt info.height.toInt = 0 := by omega
      exact Int32.toInt_inj.1 (calc'.trans zero)
    · show _ ∧ 0 ≤ (getCalcBufferSize _ _ _).toInt ∧ (getCalcBufferSize _ _ _).toInt ≤ b.size
      rw [calc']
      exact ⟨rfl, nonneg, by omega⟩

/-! ## The context of the converter -/

/-- The context was made for images like those of the last parameters. -/
def ContextOf (c : Converter) : Prop :=
  ∀ q, c.swsContexts = some q →
    q.dstPixelFormat = c.param.dstPixelFormat ∧ q.dstWidth = c.param.dstWidth ∧ q.dstHeight = c.param.dstHeight

theorem contextOf_setParam {c : Converter} (context : ContextOf c) (p : ConvertParam) : ContextOf (c.setParam p) := by
  intro q made
  unfold Converter.setParam at made ⊢
  split at made
  · rename_i same
    simp only [Converter.isEqualParam, Bool.and_eq_true, decide_eq_true_eq] at same
    obtain ⟨⟨⟨⟨⟨-, -⟩, -⟩, format'⟩, width'⟩, height'⟩ := same
    obtain ⟨format, width, height⟩ := context q made
    exact ⟨format.trans format'.symm, width.trans width'.symm, height.trans height'.symm⟩
  · cases made

theorem contextOf_create {c : Converter} (context : ContextOf c) (a : Converter.Answers) :
    (c.create a).2.param = c.param ∧ ContextOf (c.create a).2 := by
  unfold Converter.create
  simp only
  split
  · exact ⟨rfl, context⟩
  split
  · exact ⟨rfl, context⟩
  split
  · split
    · refine ⟨rfl, ?_⟩
      intro q made
      cases made
      exact ⟨rfl, rfl, rfl⟩
    · exact ⟨rfl, context⟩
  · exact ⟨rfl, context⟩

/-- The context that `sws_scale` gets is one for the parameters' image, an old one or a new one. -/
theorem contextOf_prepared {c : Converter} (context : ContextOf c) (p : ConvertParam) (a : Converter.Answers) :
    (c.initializeConverter p a).2.param = p ∧ ContextOf (c.initializeConverter p a).2 :=
  contextOf_create (contextOf_setParam context p) a

theorem convert_converter (c : Converter) (p : ConvertParam) (a : Converter.Answers) :
    (c.convert p a).2.2 = (c.initializeConverter p a).2 := by
  simp only [Converter.convert]
  split
  · rfl
  split
  · rfl
  · rfl

/-- Behind an initialization that succeeds there is a context. -/
theorem context_of_created {c : Converter} {a : Converter.Answers} (code : (c.create a).1 = 0) :
    ∃ q, (c.create a).2.swsContexts = some q := by
  unfold Converter.create at code ⊢
  simp only at code ⊢
  split at code
  · cases code
  rename_i src
  rw [if_neg src]
  split at code
  · cases code
  rename_i dst
  rw [if_neg dst]
  split at code
  · rename_i absent
    rw [if_pos absent]
    split at code
    · rename_i made
      rw [if_pos made]
      exact ⟨c.param, rfl⟩
    · cases code
  · rename_i present
    rw [if_neg present]
    exact Option.ne_none_iff_exists'.1 fun none => present (by rw [none]; rfl)

/-- A conversion writes nothing, or it is `sws_scale` that writes, with a context. -/
theorem convert_written (c : Converter) (p : ConvertParam) (a : Converter.Answers) :
    (c.convert p a).2.1 = 0 ∨
      (c.convert p a).2.1 = a.written ∧ ∃ q, (c.initializeConverter p a).2.swsContexts = some q := by
  simp only [Converter.convert]
  split
  · exact .inl rfl
  rename_i code
  split
  · exact .inl rfl
  · exact .inr ⟨rfl, context_of_created (not_not.1 code)⟩

/-! ## Every run -/

section Runs

variable {bufferSize : Int32 → Int32 → Int32 → Int32} {s t : Memory} {a : Act}

/-- What the steps do, guards included. -/
inductive Moves (bufferSize : Int32 → Int32 → Int32 → Int32) (s : Memory) : Act → Memory → Prop where
  | threadLoop {addresses : Fin ftNum → Nat} (point : s.point = .start) :
    Moves bufferSize s (.threadLoop addresses) { s with buffers := fun ii => { address := addresses ii } }
  | setFrameInfo {type : Fin ftNum} {info : FrameInfo} (free : s.writer = none) :
    Moves bufferSize s (.setFrameInfo type info) { s with writer := some (type, info, fields type) }
  | store {type : Fin ftNum} {info : FrameInfo} {f : Field} {fs : List Field} (writer : s.writer = some (type, info, f :: fs)) :
    Moves bufferSize s .store { s with
      frameInfo := Function.update s.frameInfo type (f.copy info (s.frameInfo type))
      writer := if fs = [] then none else some (type, info, fs) }
  | setDstBufferInfo (point : s.point = .start) (free : s.writer = none) :
    Moves bufferSize s .setDstBufferInfo { s with point := .decode (setDstBufferInfo s.frameInfo {} s.buffers) }
  | noPicture {dst : Dest} {picture : Option Picture} (point : s.point = .decode dst)
    (small : ∀ p ∈ picture, p.width ≤ 0) : Moves bufferSize s (.decode picture) { s with point := .start }
  | picture {dst : Dest} {picture : Picture} (point : s.point = .decode dst) (positive : ¬ picture.width ≤ 0) :
    Moves bufferSize s (.decode (some picture)) { s with
      frameInfo := Function.update s.frameInfo ftOriginal
        { s.frameInfo ftOriginal with width := picture.width, height := picture.height }
      point := .loop dst picture 0 ftOriginal .frame }
  | read {dst : Dest} {picture : Picture} {ret : Nat} {ii : Fin ftNum} {reading : Reading} {point' : Point}
    (point : s.point = .loop dst picture ret ii reading)
    (read : readItem bufferSize (s.frameInfo ii) dst picture ret ii reading = some point') :
    Moves bufferSize s .read { s with point := point' }
  | convert {dst : Dest} {picture : Picture} {ret : Nat} {ii : Fin ftNum} {f w h : Int32} {answers : Converter.Answers}
    (point : s.point = .loop dst picture ret ii (.convert f w h)) :
    Moves bufferSize s (.convert answers) { s with
      converter := (s.converter.convert (convertParam dst picture ii f w h) answers).2.2
      point := nextItem dst picture
        (if (s.converter.convert (convertParam dst picture ii f w h) answers).1 ≠ 0 then 4 else ret) ii }
  | failed {dst : Dest} {ret : Nat} {addresses : Fin ftNum → Nat} (point : s.point = .decoded dst ret) (ne : ret ≠ 0) :
    Moves bufferSize s (.setAllocBuffer addresses) { s with point := .start }
  | setAllocBuffer {dst : Dest} {addresses : Fin ftNum → Nat} (point : s.point = .decoded dst 0)
    (resolution : 0 < (s.frameInfo ftOriginal).width ∧ 0 < (s.frameInfo ftOriginal).height) (free : s.writer = none) :
    Moves bufferSize s (.setAllocBuffer addresses) { s with
      buffers := (Decoder.setAllocBuffer s.frameInfo dst s.buffers addresses).2.1
      point := if (Decoder.setAllocBuffer s.frameInfo dst s.buffers addresses).2.2 then .start
        else .callback (Decoder.setAllocBuffer s.frameInfo dst s.buffers addresses).1 }
  | noResolution {dst : Dest} {addresses : Fin ftNum → Nat} (point : s.point = .decoded dst 0)
    (unknown : ¬ (0 < (s.frameInfo ftOriginal).width ∧ 0 < (s.frameInfo ftOriginal).height)) :
    Moves bufferSize s (.setAllocBuffer addresses) { s with point := .callback dst }
  | callback {dst : Dest} (point : s.point = .callback dst) : Moves bufferSize s .callback { s with point := .start }

theorem moves_of_step (h : step bufferSize s a = some t) : Moves bufferSize s a t := by
  cases a with
  | threadLoop addresses =>
    simp only [step] at h
    split at h
    · rename_i point
      cases h
      exact .threadLoop point
    · cases h
  | setFrameInfo type info =>
    simp only [step] at h
    split at h
    · rename_i free
      cases h
      exact .setFrameInfo free
    · cases h
  | store =>
    simp only [step] at h
    split at h
    · rename_i writer
      cases h
      exact .store writer
    · cases h
  | setDstBufferInfo =>
    simp only [step] at h
    split at h
    · rename_i point free
      cases h
      exact .setDstBufferInfo point free
    · cases h
  | decode picture =>
    simp only [step] at h
    split at h
    · rename_i point
      cases h
      exact .noPicture point fun p mem => by cases mem
    · rename_i dst picture point
      split at h
      · rename_i small
        cases h
        exact .noPicture point fun p mem => Option.some.inj mem ▸ small
      · rename_i positive
        cases h
        exact .picture point positive
    · cases h
  | read =>
    simp only [step] at h
    split at h
    · rename_i point
      obtain ⟨next, read, rfl⟩ := Option.map_eq_some_iff.1 h
      exact .read point read
    · cases h
  | convert answers =>
    simp only [step] at h
    split at h
    · rename_i point
      cases h
      exact .convert point
    · cases h
  | setAllocBuffer addresses =>
    simp only [step] at h
    split at h
    · rename_i dst ret point
      split at h
      · rename_i ne
        cases h
        exact .failed point ne
      rename_i zero
      rw [not_not.1 zero] at point
      split at h
      · rename_i resolution
        split at h
        · cases h
        · rename_i free
          cases h
          exact .setAllocBuffer point resolution (Option.not_isSome_iff_eq_none.1 free)
      · rename_i unknown
        cases h
        exact .noResolution point unknown
    · cases h
  | callback =>
    simp only [step] at h
    split at h
    · rename_i point
      cases h
      exact .callback point
    · cases h
/-- The frames are as `SetDstBufferInfo` takes them from the vectors as they are. -/
def Taken (dst : Dest) (buffers : Fin ftNum → Buffer) : Prop := ∀ ii, dst.frame ii = pointTo {} (buffers ii)

/-- What the iteration relies on where it is. -/
def PointOk (bufferSize : Int32 → Int32 → Int32 → Int32) (buffers : Fin ftNum → Buffer) : Point → Prop
  | .start => True
  | .decode dst | .decoded dst _ => Taken dst buffers
  | .loop dst _ _ ii reading => Taken dst buffers ∧
    match reading with
    | .convert f w h => bufferSize f w h ≤ (dst.frame ii).dataSize
    | _ => True
  | .callback dst => ∀ ii, Inside (dst.frame ii) (buffers ii)

structure Inv (bufferSize : Int32 → Int32 → Int32 → Int32) (s : Memory) : Prop where
  small : ∀ ii, (s.buffers ii).size < 2 ^ 31
  context : ContextOf s.converter
  point : PointOk bufferSize s.buffers s.point

theorem pointOk_nextItem {buffers : Fin ftNum → Buffer} {dst : Dest} (taken : Taken dst buffers) (picture : Picture)
    (ret : Nat) (ii : Fin ftNum) : PointOk bufferSize buffers (nextItem dst picture ret ii) := by
  unfold nextItem
  split
  · exact ⟨taken, trivial⟩
  · exact taken

theorem pointOk_readItem {buffers : Fin ftNum → Buffer} {dst : Dest} (taken : Taken dst buffers) {info : FrameInfo}
    {picture : Picture} {ret : Nat} {ii : Fin ftNum} {reading : Reading} {point : Point}
    (read : readItem bufferSize info dst picture ret ii reading = some point) : PointOk bufferSize buffers point := by
  cases reading with
  | frame =>
    simp only [readItem] at read
    split at read
    · cases read
      exact pointOk_nextItem taken picture ret ii
    · cases read
      exact ⟨taken, trivial⟩
  | decode =>
    simp only [readItem] at read
    split at read
    · cases read
      exact ⟨taken, trivial⟩
    · cases read
      exact pointOk_nextItem taken picture ret ii
  | isNone =>
    simp only [readItem] at read
    split at read
    · cases read
      exact pointOk_nextItem taken picture ret ii
    · cases read
      exact ⟨taken, trivial⟩
  | pixelFormat =>
    cases read
    exact ⟨taken, trivial⟩
  | width f =>
    cases read
    exact ⟨taken, trivial⟩
  | height f w =>
    cases read
    exact ⟨taken, trivial⟩
  | compare f w h =>
    simp only [readItem] at read
    split at read
    · cases read
      exact pointOk_nextItem taken picture ret ii
    · rename_i enough
      cases read
      exact ⟨taken, Int32.not_lt.1 enough⟩
  | convert f w h => cases read

theorem converting_eq {point : Point} {p : ConvertParam} {ii : Fin ftNum} (next : converting point = some (p, ii)) :
    ∃ dst picture ret f w h, point = .loop dst picture ret ii (.convert f w h) ∧ p = convertParam dst picture ii f w h := by
  unfold converting at next
  split at next
  · cases next
    exact ⟨_, _, _, _, _, _, rfl, rfl⟩
  · cases next

/-- The comparison with the copied parameters covers what the conversion writes. -/
theorem Inv.safe_convert (inv : Inv bufferSize s) {answers : Converter.Answers}
    (documented : Documented bufferSize s (.convert answers)) : Safe s (.convert answers) := by
  rintro ⟨p, ii⟩ next
  obtain ⟨scales, fails⟩ := documented (p, ii) next
  obtain ⟨dst, picture, ret, f, w, h, point, rfl⟩ := converting_eq next
  have ok := inv.point
  rw [point] at ok
  obtain ⟨taken, enough⟩ := ok
  rcases convert_written s.converter (convertParam dst picture ii f w h) answers with nothing | ⟨written, q, made⟩
  · exact .inl nothing
  by_cases invalid : imageSize bufferSize (convertParam dst picture ii f w h) < 0
  · exact .inl (fails invalid)
  obtain ⟨param, context⟩ := contextOf_prepared inv.context (convertParam dst picture ii f w h) answers
  have same : imageSize bufferSize q = imageSize bufferSize (convertParam dst picture ii f w h) := by
    obtain ⟨format, width, height⟩ := context q made
    rw [param] at format width height
    rw [imageSize, format, width, height, imageSize]
  have size : (answers.written : Int) ≤ (bufferSize f w h).toInt := by
    have image := scales q made (by omega)
    rw [same] at image
    exact image
  have room : (bufferSize f w h).toInt ≤ (dst.frame ii).dataSize.toInt := Int32.le_iff_toInt_le.1 enough
  rw [taken ii] at room
  simp only
  rw [written]
  show _ ∨ (dst.frame ii).data = _ ∧ _
  rw [taken ii]
  unfold pointTo at room ⊢
  split at room
  · rename_i empty
    have zero : ({} : DestFrame).dataSize.toInt = 0 := rfl
    exact .inl (by omega)
  · rename_i filled
    simp only [toInt_ofInt_size (inv.small ii)] at room
    rw [if_neg filled]
    exact .inr ⟨rfl, by omega⟩

theorem Inv.safe (inv : Inv bufferSize s) (documented : Documented bufferSize s a) : Safe s a := by
  cases a with
  | convert answers => exact inv.safe_convert documented
  | callback =>
    simp only [Safe]
    split
    · rename_i dst point
      have ok := inv.point
      rw [point] at ok
      exact ok
    · trivial
  | _ => trivial

theorem Inv.setAllocBuffer {dst : Dest} {ret : Nat} (inv : Inv bufferSize s) (point : s.point = .decoded dst ret)
    (fits : ∀ type, Fits (s.frameInfo type)) (addresses : Fin ftNum → Nat) :
    (∀ ii, ((Decoder.setAllocBuffer s.frameInfo dst s.buffers addresses).2.1 ii).size < 2 ^ 31) ∧
      ((Decoder.setAllocBuffer s.frameInfo dst s.buffers addresses).2.2 = false →
        ∀ ii, Inside ((Decoder.setAllocBuffer s.frameInfo dst s.buffers addresses).1.frame ii)
          ((Decoder.setAllocBuffer s.frameInfo dst s.buffers addresses).2.1 ii)) := by
  have taken : Taken dst s.buffers := by
    have ok := inv.point
    rw [point] at ok
    exact ok
  have item (ii : Fin ftNum) := allocItem_spec (fits ii) (inv.small ii) (addresses ii)
  simp only [Decoder.setAllocBuffer, taken _]
  refine ⟨fun ii => (item ii).1, ?_⟩
  intro none ii
  rw [List.any_eq_false] at none
  have kept := none ii (List.mem_finRange ii)
  rw [Bool.not_eq_true] at kept
  obtain ⟨same, inside⟩ := (item ii).2 kept
  rw [same]
  exact inside

theorem Inv.step (inv : Inv bufferSize s) (sized : Sized s a) (h : Buffers.step bufferSize s a = some t) :
    Inv bufferSize t := by
  have alloc := @Inv.setAllocBuffer bufferSize s
  obtain ⟨small, context, ok⟩ := inv
  cases moves_of_step h with
  | threadLoop point =>
    refine ⟨fun ii => by show 0 < 2 ^ 31; decide, context, ?_⟩
    rw [point]
    trivial
  | setFrameInfo free => exact ⟨small, context, ok⟩
  | store writer => exact ⟨small, context, ok⟩
  | setDstBufferInfo point free => exact ⟨small, context, fun ii => rfl⟩
  | noPicture point none => exact ⟨small, context, trivial⟩
  | picture point positive =>
    rw [point] at ok
    exact ⟨small, context, ok, trivial⟩
  | read point read =>
    rw [point] at ok
    exact ⟨small, context, pointOk_readItem ok.1 read⟩
  | @convert dst picture ret ii f w hh answers point =>
    rw [point] at ok
    refine ⟨small, ?_, pointOk_nextItem ok.1 picture _ ii⟩
    show ContextOf (s.converter.convert (convertParam dst picture ii f w hh) answers).2.2
    rw [convert_converter]
    exact (contextOf_prepared context _ answers).2
  | failed point ne => exact ⟨small, context, trivial⟩
  | @setAllocBuffer dst addresses point resolution free =>
    have item := alloc ⟨small, context, ok⟩ point (sized free resolution.1 resolution.2) addresses
    refine ⟨item.1, context, ?_⟩
    simp only
    split
    · trivial
    · rename_i same
      exact item.2 (Bool.not_eq_true _ ▸ same)
  | noResolution point unknown =>
    rw [point] at ok
    refine ⟨small, context, fun ii => ?_⟩
    rw [ok ii]
    exact inside_pointTo (small ii)
  | callback point => exact ⟨small, context, trivial⟩

theorem inv_initial (frameInfo : Fin ftNum → FrameInfo) (addresses : Fin ftNum → Nat) (param : ConvertParam) :
    Inv bufferSize (Memory.initial frameInfo addresses param) :=
  ⟨fun ii => by show 0 < 2 ^ 31; decide, nofun, trivial⟩

/-! ## Sizes that the requests bound -/

/-- Requests whose buffers fit, and pictures whose buffer fits in the format that is set for them. -/
def Bounded (s : Memory) : Act → Prop
  | .setFrameInfo type info => type ≠ ftOriginal → Fits info
  | .setAllocBuffer _ => s.writer = none →
    0 < (s.frameInfo ftOriginal).width → 0 < (s.frameInfo ftOriginal).height → Fits (s.frameInfo ftOriginal)
  | _ => True

/-- The info of a type fits, or the stores that are left make it one that does. -/
def Requested (s : Memory) (type : Fin ftNum) : Prop :=
  match s.writer with
  | some (type', info, fs) =>
    if type = type' then Fits info ∧ fs.foldl (Field.copy info) (s.frameInfo type) = info else Fits (s.frameInfo type)
  | none => Fits (s.frameInfo type)

theorem foldl_fields {type : Fin ftNum} (ne : type ≠ ftOriginal) (info target : FrameInfo) :
    (fields type).foldl (Field.copy info) target = info := by
  rw [fields, if_neg ne]
  rfl

/-- A step that leaves the lock and the infos of the other types than the original alone. -/
theorem Requested.keep {s t : Memory} {type : Fin ftNum} (r : Requested s type) (writer : t.writer = s.writer)
    (info : t.frameInfo type = s.frameInfo type) : Requested t type := by
  unfold Requested at r ⊢
  rw [writer, info]
  exact r

theorem Requested.store {s : Memory} {type type' : Fin ftNum} {info : FrameInfo} {f : Field} {fs : List Field}
    (r : Requested s type) (writer : s.writer = some (type', info, f :: fs)) :
    Requested { s with
      frameInfo := Function.update s.frameInfo type' (f.copy info (s.frameInfo type'))
      writer := if fs = [] then none else some (type', info, fs) } type := by
  simp only [Requested, writer] at r
  by_cases same : type = type'
  · subst same
    rw [if_pos rfl, List.foldl_cons] at r
    obtain ⟨fits, rest⟩ := r
    by_cases last : fs = []
    · rw [last, List.foldl_nil] at rest
      simp only [Requested, last, if_true, Function.update_self, rest]
      exact fits
    · simp only [Requested, last, if_false, if_true, Function.update_self]
      exact ⟨fits, rest⟩
  · rw [if_neg same] at r
    by_cases last : fs = []
    · simp only [Requested, last, if_true, Function.update_of_ne same]
      exact r
    · simp only [Requested, last, if_false, if_neg same, Function.update_of_ne same]
      exact r

theorem Requested.step {type : Fin ftNum} (ne : type ≠ ftOriginal) (r : Requested s type) (bounded : Bounded s a)
    (h : Buffers.step bufferSize s a = some t) : Requested t type := by
  cases moves_of_step h with
  | setFrameInfo free =>
    simp only [Requested, free] at r
    simp only [Requested]
    split
    · rename_i same
      subst same
      exact ⟨bounded ne, foldl_fields ne _ _⟩
    · exact r
  | store writer => exact r.store writer
  | picture point positive => exact r.keep rfl (Function.update_of_ne ne _ _)
  | threadLoop point => exact r
  | setDstBufferInfo point free => exact r
  | noPicture point none => exact r
  | read point read => exact r
  | convert point => exact r
  | failed point ne => exact r
  | setAllocBuffer point resolution free => exact r
  | noResolution point unknown => exact r
  | callback point => exact r

theorem sized_of_requested (r : ∀ type, type ≠ ftOriginal → Requested s type) (bounded : Bounded s a) : Sized s a := by
  cases a with
  | setAllocBuffer addresses =>
    intro free width height type
    by_cases original : type = ftOriginal
    · rw [original]
      exact bounded free width height
    · have fits := r type original
      rw [Requested, free] at fits
      exact fits
  | _ => trivial

/-- Where every request fits, so do the sizes that `SetAllocBuffer` computes, half-written requests or not. -/
theorem along_sized {frameInfo : Fin ftNum → FrameInfo} {addresses : Fin ftNum → Nat} {param : ConvertParam}
    {acts : List Act} (start : ∀ type, Fits (frameInfo type))
    (bounded : Along (Buffers.step bufferSize) Bounded (.initial frameInfo addresses param) acts) :
    Along (Buffers.step bufferSize) Sized (.initial frameInfo addresses param) acts :=
  along_of (I := fun s => ∀ type, type ≠ ftOriginal → Requested s type)
    (fun r ok h type ne => (r type ne).step ne ok h) sized_of_requested (fun type _ => start type) bounded

end Runs

/-- **The decoder stays in its buffers.** Whatever pictures are decoded and wherever the stores of `SetFrameInfo` fall
between the steps, no conversion writes more than the vector of its frame type holds, and every frame that the
callback gets lies in the vector as it is allocated. -/
theorem buffers_safe (bufferSize : Int32 → Int32 → Int32 → Int32) (frameInfo : Fin ftNum → FrameInfo)
    (addresses : Fin ftNum → Nat) (param : ConvertParam) (acts : List Act)
    (documented : Along (step bufferSize) (Documented bufferSize) (.initial frameInfo addresses param) acts)
    (sized : Along (step bufferSize) Sized (.initial frameInfo addresses param) acts) :
    Along (step bufferSize) Safe (.initial frameInfo addresses param) acts :=
  along_of (I := Inv bufferSize) (fun inv ok h => inv.step ok.2 h) (fun inv ok => inv.safe ok.1)
    (inv_initial frameInfo addresses param) (documented.and sized)

/-- A request, a second one that `Decode` reads half, and a callback. -/
def requestTwice (type : Fin ftNum) : List Act :=
  let request (width : Int32) : FrameInfo := { pixelFormat := 3, width, height := 8, decode := true }
  let picture : Act := .decode (some ⟨0, 16, 16⟩)
  [.setFrameInfo type (request 8), .store, .store, .store, .store,
    .setDstBufferInfo, picture, .read, .read, .read, .setAllocBuffer fun _ => 7,
    .setDstBufferInfo, picture, .read, .read, .read, .read, .read, .read, .setFrameInfo type (request 9), .store, .store,
    .read, .read, .convert ⟨true, true, true, 192, 8, 192⟩, .read, .store, .store, .setAllocBuffer fun _ => 8,
    .setDstBufferInfo, picture, .read, .read, .read, .read, .read, .read, .read, .read,
    .convert ⟨true, true, true, 216, 8, 216⟩, .read, .setAllocBuffer fun _ => 9, .callback]

/-- `av_image_get_buffer_size` for the packed formats with three bytes a pixel. -/
def packedSize (format width height : Int32) : Int32 :=
  if (format = 2 ∨ format = 3) ∧ 0 < width ∧ 0 < height then width * 3 * height else -22

/-- Both conversions and the callback are reached. -/
theorem buffers_safe_twice :
    (run (step packedSize) (.initial (fun _ => {}) (fun _ => 5) ⟨0, 0, 0, none, 0, 0, 0, 0⟩) (requestTwice 1)).isSome ∧
      Along (step packedSize) Safe (.initial (fun _ => {}) (fun _ => 5) ⟨0, 0, 0, none, 0, 0, 0, 0⟩) (requestTwice 1) :=
  ⟨by decide +kernel, buffers_safe packedSize (fun _ => {}) (fun _ => 5) ⟨0, 0, 0, none, 0, 0, 0, 0⟩ (requestTwice 1)
    (by decide +kernel) (by decide +kernel)⟩

end Decoder.Buffers

end CameraEv
