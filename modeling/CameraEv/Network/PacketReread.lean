import CameraEv.Network.PacketStructRoundTrip

/-!
# Reading into an object that was used before

`Read` assigns a number and a pointer, but inserts a text before the one that is
there. So the `reader` of a class with texts makes an object equal to the packet
only where its texts are empty; the readers of the program all fill new objects.
-/

namespace CameraEv.PacketStruct

open Exec CPacketDefine CPacketReader

/-- The fields that are read as texts. -/
def texts : PacketStruct → List (List UInt8)
  | frame p => [p.cameraGuid]
  | processInfoReq p => [p.queueName]
  | processInfo p => [p.processName, p.packetVersion]
  | streamInfo p => [p.setupFile]
  | streamRequest p => [p.queueName]
  | streamStatus _ => []

def Blank (p : PacketStruct) : Prop := ∀ text ∈ p.texts, text = []

/-- The blocks that the reader has are those of the packet of `p`. -/
def Holds (r : CPacketReader) (p : PacketStruct) : Prop := List.Forall₂ BlockItem.Reads r.blockItems p.blocks

variable {p s : PacketStruct} {r : CPacketReader}

/-! ## What the reader holds -/

/-- After `DoAnalyze` on what its `writer` has written, the reader holds the packet. -/
theorem holds_of_analyzed (readable : p.Readable) {w w' : CPacketWriter} {buffer : List UInt8} {ret : Nat}
    (hw : w.buffer = some buffer) (wrote : p.writer w = .ok (ret, w'))
    (small : packetLength p.packetTypeStr p.blocks < 2 ^ 31) {fuel : Nat} (fueled : 11 < fuel) (r : CPacketReader) :
    ∃ r', r.doAnalyze fuel ((w'.buffer.getD []).take w'.pos) (toInt32 w'.pos) = .ok (0, r') ∧ Holds r' p := by
  rw [writer_eq readable, bind_eq_ok] at wrote
  obtain ⟨⟨code, w''⟩, wrote, same⟩ := wrote
  cases same
  obtain ⟨len, bytes⟩ := written_bytes hw wrote
  refine ⟨{ mainName := p.packetTypeStr, blockItems := recorded (etx ++ []) p.blocks }, ?_, recorded_reads _ _⟩
  rw [bytes, len, doAnalyze_packet small fueled r]

/-! ## The texts -/

@[simp] theorem packetType_fields (p : PacketStruct) : p.fields.packetType = p.packetType := by
  cases p <;> rfl

@[simp] theorem packetType_onto (p s : PacketStruct) : (p.onto s).packetType = p.packetType := by
  cases p <;> cases s <;> rfl

@[simp] theorem packetType_readBy (p : PacketStruct) (r : CPacketReader) : (p.readBy r).packetType = p.packetType := by
  cases p <;> rfl

@[simp] theorem texts_readBy (p : PacketStruct) (r : CPacketReader) : (p.readBy r).texts = p.texts := by
  cases p <;> rfl

theorem fields_onto (p s : PacketStruct) : (p.onto s).fields = p.fields.onto s := by
  cases p <;> cases s <;> rfl

/-- The object is the packet where it had no text. -/
theorem onto_eq_self_iff (type : s.packetType = p.packetType) : p.onto s = p ↔ s.Blank := by
  cases p <;> cases s <;> try cases type
  all_goals
    rename_i p s
    cases p
    simp [onto, Blank, texts]

/-- Another time the same packet changes nothing where it has no text itself. -/
theorem onto_onto_iff (type : s.packetType = p.packetType) : p.onto (p.onto s) = p.onto s ↔ p.Blank := by
  cases p <;> cases s <;> try cases type
  all_goals simp [onto, Blank, texts]

theorem blank_onto_iff (type : s.packetType = p.packetType) : (p.onto s).Blank ↔ p.Blank ∧ s.Blank := by
  cases p <;> cases s <;> try cases type
  all_goals simp [onto, Blank, texts, and_and_and_comm]

/-! ## Reading -/

/-- **A packet overwrites an object exactly where the object has no text**: so reading it twice is reading it once
exactly when the packet has no text, and a second packet replaces the first one exactly when the first packet and the
object before have none. -/
theorem reader_overwrites_iff (p s : PacketStruct) (r : CPacketReader) (readable : p.Readable) (holds : Holds r p)
    (type : s.packetType = p.packetType) :
    ∃ q, s.reader r = .ok (0, q) ∧ q.packetType = p.packetType ∧ (q.fields = p.fields ↔ s.Blank) ∧
      (∃ q', q.reader r = .ok (0, q') ∧ (q' = q ↔ p.Blank)) ∧
      ∀ p₂ r₂, p₂.Readable → Holds r₂ p₂ → p₂.packetType = p.packetType →
        ∃ q₂, q.reader r₂ = .ok (0, q₂) ∧ (q₂.fields = p₂.fields ↔ p.Blank ∧ s.Blank) := by
  have type' : s.packetType = (p.readBy r).packetType := by rw [packetType_readBy, type]
  have typed : ((p.readBy r).onto s).packetType = p.packetType := by rw [packetType_onto, packetType_readBy]
  have blank : (p.readBy r).Blank ↔ p.Blank := by rw [Blank, texts_readBy, Blank]
  refine ⟨(p.readBy r).onto s, reader_onto readable holds type, typed, ?_, ⟨_, reader_onto readable holds typed, ?_⟩, ?_⟩
  · rw [fields_onto, fields_readBy readable holds]
    exact onto_eq_self_iff (by rw [packetType_fields, type])
  · rw [onto_onto_iff type', blank]
  · intro p₂ r₂ readable₂ holds₂ same
    refine ⟨_, reader_onto readable₂ holds₂ (typed.trans same.symm), ?_⟩
    rw [fields_onto, fields_readBy readable₂ holds₂, onto_eq_self_iff (by rw [packetType_fields, typed, same]),
      blank_onto_iff type', blank]

/-- A process info is read into an object that has a number but no text. -/
theorem reader_overwrites_number :
    let p := processInfo { processName := [67], processId := 4711, packetVersion := [49] }
    let r : CPacketReader := { mainName := p.packetTypeStr, blockItems := recorded etx p.blocks }
    ∃ q, (processInfo { processId := 3 }).reader r = .ok (0, q) ∧ q.fields = p.fields := by
  intro p r
  obtain ⟨q, read, -, same, -⟩ :=
    reader_overwrites_iff p (processInfo { processId := 3 }) r trivial (recorded_reads etx p.blocks) rfl
  refine ⟨q, read, same.2 ?_⟩
  simp [Blank, texts]

/-- The setup file `b` is read into an object that has the setup file `a`: the object has `ba` then. -/
theorem reader_appends_text :
    let p := streamInfo { setupFile := ascii "b" }
    let q := streamInfo { setupFile := ascii "ba" }
    ∃ r, (p.writer ⟨0, some []⟩ >>= fun x =>
        ({} : CPacketReader).doAnalyze 12 ((x.2.buffer.getD []).take x.2.pos) (toInt32 x.2.pos)) = .ok (0, r) ∧
      Holds r p ∧ (streamInfo { setupFile := ascii "a" }).reader r = .ok (0, q) ∧ q.fields ≠ p.fields := by
  intro p q
  refine ⟨{ mainName := p.packetTypeStr, blockItems := recorded etx p.blocks }, ?_, recorded_reads etx p.blocks, ?_, ?_⟩
  · decide +kernel
  · decide +kernel
  · decide +kernel

end CameraEv.PacketStruct
