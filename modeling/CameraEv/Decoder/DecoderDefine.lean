import Mathlib.Logic.Basic

/-!
# What goes into a decoder and comes out of it

The structures of `DecoderDefine.h` that travel between the session, the decoder
and the send workers.
-/

namespace CameraEv

/-- `FT_NUM`. -/
abbrev ftNum : Nat := 3

/-- `FT_ORIGINAL`. -/
def ftOriginal : Fin ftNum := ⟨0, by decide⟩

/-- `VCODEC_ID_H264`. -/
def vcodecIdH264 : Int32 := 1

/-- `data` is the memory behind the pointer. -/
structure FrameBuffer where
  data : List UInt8 := []
  dataSize : Int32 := 0
  deriving DecidableEq

structure FrameInfo where
  pixelFormat : Int32 := 0
  width : Int32 := 0
  height : Int32 := 0
  decode : Bool := false
  deriving DecidableEq

structure Timeval where
  tvSec : Int32
  tvUsec : Int32
  deriving DecidableEq

/-- An encoded frame, as the session received it. -/
structure VideoSource where
  frame : FrameBuffer := {}
  keyFrame : Bool := false
  timestamp : Timeval
  deriving DecidableEq

structure DecoderVideoDest where
  index : Int32 := 0
  frame : Fin ftNum → FrameBuffer := fun _ => {}
  frameInfo : Fin ftNum → FrameInfo := fun _ => {}

end CameraEv
