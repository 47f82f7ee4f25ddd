import CameraEv.Lib.Trace
import CameraEv.Network.SendWorkerManager

/-!
# The packets that a `Camera` handles

A `ProcessInfoReq` inserts its queue; a `StreamRequest` goes to the streamer's
decoder, when the streamer is active, and to the table of queues. The frame type
of a request is the number that the packet brings: both places keep it or use it
as an index without a test.
-/

namespace CameraEv

open Exec Trace SendWorkerManager

namespace CameraPackets

structure State where
  sendManager : SendWorkerManager := {}
  /-- `IsActivate` of each streamer. -/
  active : Fin 3 → Bool := fun _ => false
  /-- The frame settings of each streamer's decoder. -/
  frameInfo : Fin 3 → Fin ftNum → FrameInfo := fun _ _ => {}

inductive Act where
  /-- `activated` is whether the activation of a new send worker succeeds. -/
  | processInfoReq (packet : PacketProcessInfoReq) (activated : Bool)
  | streamRequest (packet : PacketStreamRequest)
  /-- A streamer becomes active or inactive. -/
  | streamer (ii : Fin 3) (active : Bool)

/-- `Decoder::SetFrameInfo`; the size of the original frames is the decoder's own. -/
def setDecodeFrameInfo (frameInfo : Fin ftNum → FrameInfo) (type : Int32) (info : FrameInfo) :
    Exec (Fin ftNum → FrameInfo) :=
  if type = 0 then
    return Function.update frameInfo ftOriginal { frameInfo ftOriginal with pixelFormat := info.pixelFormat }
  else match frameIndex type with
    | some t => return Function.update frameInfo t info
    | none => throw .fault

/-- The place of a streamer in `m_streamers`. -/
def streamerIndex (streamIndex : Int32) : Option (Fin 3) :=
  if h : 0 ≤ streamIndex.toInt ∧ streamIndex.toInt < 3 then some ⟨streamIndex.toInt.toNat, by omega⟩ else none

namespace State

def onRecvProcessInfoReq (s : State) (packet : PacketProcessInfoReq) (activated : Bool) : State :=
  { s with sendManager := (s.sendManager.insertSendWork packet.queueName packet.syncCount activated).2 }

def onRecvStreamRequest (s : State) (packet : PacketStreamRequest) : Exec State :=
  match streamerIndex packet.streamIndex with
  | none => throw .fault
  | some ii => do
    let frameInfo ← if s.active ii then do
        let info : FrameInfo :=
          { pixelFormat := packet.pixelFormat, width := packet.width, height := packet.height, decode := packet.videoStreaming }
        pure (Function.update s.frameInfo ii (← setDecodeFrameInfo (s.frameInfo ii) packet.frameType info))
      else pure s.frameInfo
    return { s with
      frameInfo, sendManager :=
        s.sendManager.setFrameInfo packet.queueName packet.frameType packet.streamIndex packet.videoStreaming }

def handle (s : State) : Act → Exec State
  | .processInfoReq packet activated => return s.onRecvProcessInfoReq packet activated
  | .streamRequest packet => s.onRecvStreamRequest packet
  | .streamer ii active => return { s with active := Function.update s.active ii active }

def step (s : State) (a : Act) : Option State := (s.handle a).toOption

end State

/-- A frame type that `SendFrame` skips or has an element for. -/
def TypeInRange (frameType : Int32) : Prop := frameType = -1 ∨ (frameIndex frameType).isSome = true

def InRange (m : SendWorkerManager) : Prop := ∀ item ∈ m.sendWorkers, TypeInRange item.frameType

/-- The packet is handled inside the arrays, and every frame that is sent afterwards is. -/
def Safe (s : State) (a : Act) : Prop :=
  ∃ t, s.handle a = .ok t ∧ InRange t.sendManager ∧
    ∀ cameraGuid streamIndex data, ∃ sent, t.sendManager.sendFrame cameraGuid streamIndex data = .ok sent

/-- A request has a frame type, or none and its streamer is inactive; an inactive streamer and an unknown queue
take every number. -/
def Typed (s : State) : Act → Prop
  | .streamRequest packet => (frameIndex packet.frameType).isSome = true ∨
    ((streamerIndex packet.streamIndex).all fun ii => !s.active ii) = true ∧
      (packet.frameType = -1 ∨ s.sendManager.isExistSendWork packet.queueName = false)
  | _ => True

instance (s : State) : ∀ a, Decidable (Typed s a)
  | .streamRequest _ => inferInstanceAs (Decidable (_ ∨ _ ∧ (_ ∨ _)))
  | .processInfoReq _ _ | .streamer _ _ => .isTrue trivial

/-- The request names one of the three streams. -/
def NamesStream : Act → Prop
  | .streamRequest packet => (streamerIndex packet.streamIndex).isSome = true
  | _ => True

section Table

variable {m : SendWorkerManager}

theorem sendFrame_of_inRange (inRange : InRange m) (cameraGuid : List UInt8) (streamIndex : Int32)
    (data : DecoderVideoDest) : ∃ sent, m.sendFrame cameraGuid streamIndex data = .ok sent := by
  refine ⟨_, sendFrame_eq fun item member wants => ?_⟩
  exact (inRange item member).resolve_left wants.2.2

theorem inRange_insertSendWork (inRange : InRange m) (queueName : List UInt8) (syncCount : Int32) (activated : Bool) :
    InRange (m.insertSendWork queueName syncCount activated).2 := by
  unfold insertSendWork
  split
  · exact inRange
  split
  · exact inRange
  · intro item member
    rcases List.mem_append.1 member with member | added
    · exact inRange item member
    · rw [List.mem_singleton.1 added]
      exact .inl rfl

/-- A request that reaches an item leaves its own frame type there. -/
theorem inRange_setItem_iff {items : List SendWorkInfo} (inRange : ∀ item ∈ items, TypeInRange item.frameType)
    (queueName : List UInt8) (frameType streamIndex : Int32) (videoStreaming : Bool) :
    (∀ item ∈ atFirst queueName (fun item => [setItem frameType streamIndex videoStreaming item]) items,
      TypeInRange item.frameType) ↔ TypeInRange frameType ∨ items.any (isNamed queueName) = false := by
  induction items with
  | nil => simp [atFirst]
  | cons head items ih =>
    obtain ⟨first, rest⟩ := List.forall_mem_cons.1 inRange
    unfold atFirst
    split
    · rename_i named
      rw [List.singleton_append, List.forall_mem_cons, List.any_cons, named, Bool.true_or]
      exact ⟨fun h => .inl h.1, fun h => ⟨h.resolve_right nofun, rest⟩⟩
    · rename_i other
      rw [List.forall_mem_cons, ih rest, List.any_cons, eq_false_of_ne_true other, Bool.false_or, and_iff_right first]

theorem inRange_setFrameInfo_iff (inRange : InRange m) (queueName : List UInt8) (frameType streamIndex : Int32)
    (videoStreaming : Bool) : InRange (m.setFrameInfo queueName frameType streamIndex videoStreaming) ↔
      TypeInRange frameType ∨ m.isExistSendWork queueName = false :=
  inRange_setItem_iff inRange queueName frameType streamIndex videoStreaming

end Table

/-- The decoder's array is written inside exactly for a frame type. -/
theorem setDecodeFrameInfo_ok_iff {frameInfo : Fin ftNum → FrameInfo} {type : Int32} {info : FrameInfo} :
    (∃ result, setDecodeFrameInfo frameInfo type info = .ok result) ↔ (frameIndex type).isSome = true := by
  unfold setDecodeFrameInfo
  split
  · rename_i original
    subst original
    exact ⟨fun _ => rfl, fun _ => ⟨_, rfl⟩⟩
  · cases frameIndex type with
    | none => simp
    | some t => exact ⟨fun _ => rfl, fun _ => ⟨_, rfl⟩⟩

variable {s t : State} {a : Act}

/-- What a request needs to be handled, and what it does to the table. -/
theorem onRecvStreamRequest_iff {packet : PacketStreamRequest} {ii : Fin 3} (named : streamerIndex packet.streamIndex = some ii)
    (P : SendWorkerManager → Prop) : (∃ t, s.onRecvStreamRequest packet = .ok t ∧ P t.sendManager) ↔
      (s.active ii = true → (frameIndex packet.frameType).isSome = true) ∧
        P (s.sendManager.setFrameInfo packet.queueName packet.frameType packet.streamIndex packet.videoStreaming) := by
  simp only [State.onRecvStreamRequest, named]
  cases active : s.active ii with
  | false =>
    simp only [Bool.false_eq_true, if_false, pure_eq_ok, ok_bind, false_implies, true_and, Except.ok.injEq,
      exists_eq_left']
  | true =>
    have inside := @setDecodeFrameInfo_ok_iff (s.frameInfo ii) packet.frameType
      { pixelFormat := packet.pixelFormat, width := packet.width, height := packet.height, decode := packet.videoStreaming }
    simp only [if_true, true_implies, ← inside]
    generalize setDecodeFrameInfo (s.frameInfo ii) packet.frameType _ = set
    cases set <;> simp

/-- In a state with a table in range a packet is handled safely exactly when it is typed. -/
theorem safe_iff_typed (inRange : InRange s.sendManager) (names : NamesStream a) : Safe s a ↔ Typed s a := by
  have sends (t : State) : (InRange t.sendManager ∧ ∀ cameraGuid streamIndex data, ∃ sent,
      t.sendManager.sendFrame cameraGuid streamIndex data = .ok sent) ↔ InRange t.sendManager :=
    ⟨And.left, fun h => ⟨h, fun _ _ _ => sendFrame_of_inRange h _ _ _⟩⟩
  simp only [Safe, sends]
  cases a with
  | processInfoReq packet activated =>
    exact ⟨fun _ => trivial, fun _ => ⟨_, rfl, inRange_insertSendWork inRange _ _ _⟩⟩
  | streamer ii active => exact ⟨fun _ => trivial, fun _ => ⟨_, rfl, inRange⟩⟩
  | streamRequest packet =>
    obtain ⟨ii, named⟩ := Option.isSome_iff_exists.1 names
    simp only [State.handle, onRecvStreamRequest_iff named, inRange_setFrameInfo_iff inRange, Typed, TypeInRange, named,
      Option.all_some]
    cases s.active ii <;> cases frameIndex packet.frameType <;> simp

theorem inRange_of_safe (safe : Safe s a) (h : s.step a = some t) : InRange t.sendManager := by
  obtain ⟨u, handled, inRange, -⟩ := safe
  simp only [State.step, handled, Except.toOption, Option.some.injEq] at h
  rwa [← h]

/-- **Every stored subscription is in range**, and so is every access that a request or a later frame makes, in
exactly the runs whose requests are typed: nothing in the code tests the number. -/
theorem subscriptions_in_range {acts : List Act} (names : ∀ a ∈ acts, NamesStream a) :
    Along State.step Safe {} acts ↔ Along State.step Typed {} acts := by
  have named : Along State.step (fun _ a => NamesStream a) ({} : State) acts := along_of_mem names
  have empty : InRange ({} : State).sendManager := fun item member => by cases member
  constructor
  · intro safe
    exact along_of (I := fun s => InRange s.sendManager) (fun _ both h => inRange_of_safe both.1 h)
      (fun inRange both => (safe_iff_typed inRange both.2).1 both.1) empty (safe.and named)
  · intro typed
    exact along_of (I := fun s => InRange s.sendManager)
      (fun inRange both h => inRange_of_safe ((safe_iff_typed inRange both.2).2 both.1) h)
      (fun inRange both => (safe_iff_typed inRange both.2).2 both.1) empty (typed.and named)

/-- A queue asks for display frames and later for none. -/
theorem subscriptions_in_range_typed :
    Along State.step Safe {} [.processInfoReq { queueName := [65] } true, .streamer 1 true,
      .streamRequest { queueName := [65], streamIndex := 1, frameType := 1 }, .streamer 1 false,
      .streamRequest { queueName := [65], streamIndex := 1, frameType := -1 }] :=
  (subscriptions_in_range (by
    intro a member
    simp only [List.mem_cons, List.not_mem_nil, or_false] at member
    rcases member with rfl | rfl | rfl | rfl | rfl
    · trivial
    · trivial
    · exact (by decide : (streamerIndex 1).isSome = true)
    · trivial
    · exact (by decide : (streamerIndex 1).isSome = true))).2 (by decide)

/-- A request with frame type 3: the next frame of the stream is read outside the arrays. -/
theorem untyped_request_out_of_range : ∃ t,
    run State.step {} [.processInfoReq { queueName := [65] } true,
      .streamRequest { queueName := [65], streamIndex := 0, frameType := 3 }] = some t ∧
      ¬ InRange t.sendManager ∧ t.sendManager.sendFrame [] 0 {} = .error .fault := by
  refine ⟨_, rfl, ?_, rfl⟩
  intro inRange
  rcases inRange _ List.mem_cons_self with none | some
  · cases none
  · cases some

end CameraPackets

end CameraEv
