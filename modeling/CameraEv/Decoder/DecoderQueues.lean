import CameraEv.Common.QueueFifo
import CameraEv.Decoder.DecoderDefine
import CameraEv.Lib.Trace

/-!
# The two queues of a decoder

`m_queue_stream` holds the bytes of the frames that wait, one behind the other,
and `m_queue_src` what else is known of them; only the `data_size` kept there
tells the frames apart. `m_queue_mutex` makes a `QueuePush` and the pop section
of `ThreadLoop` one step each. The rate count behind a push and the decoding
behind a pop touch neither queue.
-/

namespace CameraEv

open Exec Trace

namespace DecoderQueues

/-- `time` counts nanoseconds. -/
structure QueueVideoSrc where
  video : VideoSource
  time : Int

/-- What `m_queue_mutex` guards, and the one setting of `DecoderInfo` that is read under it. -/
structure Queues where
  queueStream : QueueLocalMemoryImpl := {}
  queueSrc : List QueueVideoSrc := []
  queueAccumulateTime : Int32 := 1000

def streamQueueSize : Nat := 1024 * 1024

/-- The part of `Decoder::Initialize` that is about the queues; `garbage` is what the new buffer contains. -/
def initializeQueues (q : Queues) (garbage : Vector UInt8 streamQueueSize) : Exec Queues := do
  let (_, queueStream) ← ({} : QueueLocalMemoryImpl).initializeQueue garbage.toList
  return { q with queueStream }

/-- `Decoder::QueuePush`; `now` is the clock at the push. -/
def queuePush (q : Queues) (src : VideoSource) (now : Int) : Exec (Nat × Queues) :=
  if src.frame.dataSize ≤ 0 then return (1, q)
  else do
    let bytes ← load src.frame.data 0 src.frame.dataSize.toUInt32.toNat
    let (code, queueStream) ← q.queueStream.push wrapping bytes
    if code ≠ 0 then return (2, { q with queueStream })
    let item : QueueVideoSrc := { video := { src with frame := { src.frame with data := [] } }, time := now }
    return (0, { q with queueStream, queueSrc := q.queueSrc ++ [item] })

/-- `if (arr_buffer_src.size() < data_size) arr_buffer_src.resize(data_size)`. The comparison is one of
unsigned numbers, and no vector has the size that a negative `int` stands for. -/
def growBuffer (arr : List UInt8) (dataSize : Int32) : Exec (List UInt8) :=
  if dataSize < 0 then throw .thrown
  else return arr ++ List.replicate (dataSize.toInt.toNat - arr.length) 0

/-- A source that leaves the queues, with the two codes that `ThreadLoop` drops. -/
structure Popped where
  video : VideoSource
  front : Nat
  pop : Nat

/-- The pop section of `ThreadLoop`: what it takes out, if it does not break, and `arr_buffer_src`. -/
def popSection (q : Queues) (arr : List UInt8) (now : Int) : Exec (Option Popped × List UInt8 × Queues) :=
  match q.queueSrc with
  | [] => return (none, arr, q)
  | item :: queueSrc =>
    if now - item.time < q.queueAccumulateTime.toInt * 1000000 then return (none, arr, q)
    else do
      let dataSize := item.video.frame.dataSize
      let arr ← growBuffer arr dataSize
      let (front, bytes, queueStream) ← q.queueStream.front wrapping dataSize.toUInt32.toNat
      let arr ← store arr 0 bytes
      let video := { item.video with frame := { item.video.frame with data := arr } }
      let (pop, queueStream) ← queueStream.pop wrapping
      return (some { video, front, pop }, arr, { q with queueStream, queueSrc })

/-- A source as `Streamer::OnVideoFrameReceived` fills it: `data` points to `data_size` bytes. -/
abbrev Received := {src : VideoSource // src.frame.dataSize.toInt ≤ src.frame.data.length}

/-- A decoder after `Initialize`: its thread's `arr_buffer_src`, while there is a thread, and what went
in and out so far. -/
structure State where
  queues : Queues
  arrBufferSrc : Option (List UInt8) := none
  /-- The sources whose `QueuePush` returned 0. -/
  pushed : List VideoSource := []
  /-- The sources given to `Decode`. -/
  decoded : List VideoSource := []

inductive Act where
  | queuePush (src : Received) (now : Int)
  /-- One pass of the loop through its pop section, and the call of `Decode` where there is something to decode. -/
  | pop (now : Int)
  /-- `opened`: the implementation's `Activate` returned 0, and the thread was started. -/
  | activate (opened : Bool)
  /-- The loop has ended and was joined. -/
  | deactivate

/-- One step. A fault has no result, nor has a second thread: `std::thread` terminates the process. -/
def step (s : State) : Act → Option State
  | .queuePush src now => match queuePush s.queues src.1 now with
    | .ok (code, queues) => some { s with queues, pushed := if code = 0 then s.pushed ++ [src.1] else s.pushed }
    | .error _ => none
  | .pop now => match s.arrBufferSrc with
    | none => none
    | some arr => match popSection s.queues arr now with
      | .ok (popped, arr, queues) => some { s with
          queues, arrBufferSrc := some arr, decoded := s.decoded ++ (popped.map Popped.video).toList }
      | .error _ => none
  | .activate false => some s
  | .activate true => match s.arrBufferSrc with
    | none => some { s with arrBufferSrc := some (List.replicate 1024 0) }
    | some _ => none
  | .deactivate => some { s with arrBufferSrc := none }

/-! ## The queues as one queue of frames -/

/-- What a source says, its pointer followed. -/
structure Frame where
  bytes : List UInt8
  dataSize : Int32
  keyFrame : Bool
  timestamp : Timeval

def contents (src : VideoSource) : Frame where
  bytes := src.frame.data.take src.frame.dataSize.toInt.toNat
  dataSize := src.frame.dataSize
  keyFrame := src.keyFrame
  timestamp := src.timestamp

/-- A non-empty frame as long as it says, and the item that describes it. -/
structure Describes (item : QueueVideoSrc) (frame : Frame) : Prop where
  size : item.video.frame.dataSize = frame.dataSize
  keyFrame : item.video.keyFrame = frame.keyFrame
  timestamp : item.video.timestamp = frame.timestamp
  length : frame.dataSize.toInt = frame.bytes.length
  nonempty : frame.bytes ≠ []

/-- The two queues hold `frames`: the bytes one behind the other, and an item for each. -/
structure Holds (q : Queues) (frames : List Frame) : Prop where
  stream : q.queueStream.Represents streamQueueSize { bytes := (frames.map Frame.bytes).flatten }
  src : List.Forall₂ Describes q.queueSrc frames

section Spec

theorem toNat_toUInt32 {n : Int32} (nonneg : 0 ≤ n.toInt) : n.toUInt32.toNat = n.toInt.toNat := by
  have signed := n.toBitVec.toInt_eq_toNat_cond
  have asInt : n.toInt = n.toBitVec.toInt := rfl
  have asNat : n.toUInt32.toNat = n.toBitVec.toNat := rfl
  have bound := n.toBitVec.isLt
  split at signed <;> omega

theorem streamQueueSize_lt : streamQueueSize < 2 ^ 32 := by
  simp only [streamQueueSize]
  omega

variable {q : Queues} {frames : List Frame}

theorem initializeQueues_spec (q : Queues) (empty : q.queueSrc = []) (garbage : Vector UInt8 streamQueueSize) :
    ∃ q', initializeQueues q garbage = .ok q' ∧ Holds q' [] := by
  have len : garbage.toList.length = streamQueueSize := Vector.length_toList
  have pos : 0 < streamQueueSize ∧ streamQueueSize < 2 ^ 31 := by
    simp only [streamQueueSize]
    omega
  refine ⟨{ q with queueStream := ⟨{ queueSize := streamQueueSize, buffer := garbage.toList }, true, 0⟩ }, ?_, ?_, ?_⟩
  · simp only [initializeQueues, QueueLocalMemoryImpl.initializeQueue, QueueLocalMemoryImpl.finalize, len,
      if_neg (show ¬ streamQueueSize = 0 by omega), if_neg (show ¬ 2 ^ 31 ≤ streamQueueSize by omega), pure_eq_ok, ok_bind]
  · exact ⟨rfl, QueueMemory.holds_nil pos.1 len, rfl⟩
  · simp only [empty, List.Forall₂.nil]

/-- A push that fails leaves the queues as they were; the others add their frame. -/
theorem Holds.queuePush_spec (h : Holds q frames) (src : Received) (now : Int) :
    (∃ code, code ≠ 0 ∧ queuePush q src.1 now = .ok (code, q)) ∨
      ∃ q', queuePush q src.1 now = .ok (0, q') ∧ Holds q' (frames ++ [contents src.1]) := by
  obtain ⟨src, enough⟩ := src
  by_cases none : src.frame.dataSize ≤ 0
  · refine .inl ⟨1, by decide, ?_⟩
    simp only [queuePush, if_pos none, pure_eq_ok]
  have pos : 0 < src.frame.dataSize.toInt := by
    have := Int32.le_iff_toInt_le (x := src.frame.dataSize) (y := 0)
    simp only [this, Int32.toInt_zero] at none
    omega
  have size := toNat_toUInt32 pos.le
  have read : load src.frame.data 0 src.frame.dataSize.toUInt32.toNat = .ok (contents src).bytes := by
    rw [load_eq (by omega), size]
    rfl
  have length : src.frame.dataSize.toInt = (contents src).bytes.length := by
    simp only [contents, List.length_take]
    omega
  rcases h.stream.push_spec streamQueueSize_lt (contents src).bytes with ⟨code, ne, ran⟩ | ⟨stream, ran, added⟩
  · refine .inl ⟨2, by decide, ?_⟩
    simp only [queuePush, if_neg none, read, ran, ok_bind, if_pos ne, pure_eq_ok]
  · let item : QueueVideoSrc := { video := { src with frame := { src.frame with data := [] } }, time := now }
    refine .inr ⟨{ q with queueStream := stream, queueSrc := q.queueSrc ++ [item] }, ?_, ?_, ?_⟩
    · simp only [queuePush, if_neg none, read, ran, ok_bind, ne_eq, not_true, if_false, pure_eq_ok, item]
    · simpa only [List.map_append, List.map_cons, List.map_nil, List.flatten_append, List.flatten_cons,
        List.flatten_nil, List.append_nil] using added
    · have nonempty : (contents src).bytes ≠ [] := by
        apply List.ne_nil_of_length_pos
        omega
      exact List.rel_append h.src (.cons ⟨rfl, rfl, rfl, length, nonempty⟩ .nil)

theorem growBuffer_spec (arr : List UInt8) {dataSize : Int32} (nonneg : 0 ≤ dataSize.toInt) :
    ∃ grown, growBuffer arr dataSize = .ok grown ∧ dataSize.toInt.toNat ≤ grown.length := by
  have signed : ¬ dataSize < 0 := by
    simp only [Int32.lt_iff_toInt_lt, Int32.toInt_zero]
    omega
  refine ⟨arr ++ List.replicate (dataSize.toInt.toNat - arr.length) 0, ?_, ?_⟩
  · simp only [growBuffer, if_neg signed, pure_eq_ok]
  · simp only [List.length_append, List.length_replicate]
    omega

/-- The pop section breaks and changes nothing, or it takes out the oldest frame, and both calls return 0. -/
theorem Holds.popSection_spec (h : Holds q frames) (arr : List UInt8) (now : Int) :
    popSection q arr now = .ok (none, arr, q) ∨
      ∃ frame rest video arr' q', frames = frame :: rest ∧
        popSection q arr now = .ok (some { video, front := 0, pop := 0 }, arr', q') ∧
        contents video = frame ∧ Holds q' rest := by
  obtain ⟨queueStream, queueSrc, accumulate⟩ := q
  obtain ⟨stream, src⟩ := h
  cases src with
  | nil => exact .inl rfl
  | @cons item frame queueSrc rest describes src =>
    by_cases early : now - item.time < accumulate.toInt * 1000000
    · refine .inl ?_
      simp only [popSection, if_pos early, pure_eq_ok]
    obtain ⟨size, keyFrame, timestamp, length, nonempty⟩ := describes
    have pos := List.length_pos_of_ne_nil nonempty
    have len : frame.dataSize.toUInt32.toNat = frame.bytes.length := by
      rw [toNat_toUInt32 (by omega)]
      omega
    obtain ⟨grown, grew, room⟩ := growBuffer_spec arr (show 0 ≤ frame.dataSize.toInt by omega)
    simp only [List.map_cons, List.flatten_cons] at stream
    obtain ⟨s₁, s₂, read, dropped, stream⟩ := stream.read_spec streamQueueSize_lt pos (by simp)
    simp only [List.take_left, List.drop_left] at read stream
    have fits : 0 + frame.bytes.length ≤ grown.length := by omega
    have written : (overwrite grown 0 frame.bytes).take frame.bytes.length = frame.bytes := by
      simp only [overwrite, List.take_zero, List.nil_append, List.take_left]
    refine .inr ⟨frame, rest, ⟨⟨overwrite grown 0 frame.bytes, frame.dataSize⟩, frame.keyFrame, frame.timestamp⟩,
      overwrite grown 0 frame.bytes, ⟨s₂, queueSrc, accumulate⟩, rfl, ?_, ?_, stream, src⟩
    · simp only [popSection, if_neg early, size, keyFrame, timestamp, grew, len, read, store_eq fits, dropped, ok_bind,
        pure_eq_ok]
    · simp only [contents, length, Int.toNat_natCast, written]

end Spec

/-! ## Runs -/

/-- The queues hold what was pushed and not decoded yet. -/
def InStep (s : State) : Prop :=
  ∃ frames, Holds s.queues frames ∧ s.pushed.map contents = s.decoded.map contents ++ frames

theorem InStep.step {s t : State} {a : Act} (h : InStep s) (ran : step s a = some t) : InStep t := by
  obtain ⟨frames, holds, order⟩ := h
  cases a with
  | queuePush src now =>
    rcases holds.queuePush_spec src now with ⟨code, ne, pushed⟩ | ⟨q, pushed, holds'⟩
    · simp only [DecoderQueues.step, pushed, if_neg ne, Option.some.injEq] at ran
      subst ran
      exact ⟨frames, holds, order⟩
    · simp only [DecoderQueues.step, pushed, if_true, Option.some.injEq] at ran
      subst ran
      refine ⟨_, holds', ?_⟩
      simp only [List.map_append, List.map_cons, List.map_nil, order, List.append_assoc]
  | pop now =>
    cases thread : s.arrBufferSrc with
    | none => simp only [DecoderQueues.step, thread, reduceCtorEq] at ran
    | some arr =>
      rcases holds.popSection_spec arr now with broke | ⟨frame, rest, video, arr', q, rfl, popped, same, holds'⟩
      · simp only [DecoderQueues.step, thread, broke, Option.map_none, Option.toList_none, List.append_nil,
          Option.some.injEq] at ran
        subst ran
        exact ⟨frames, holds, order⟩
      · simp only [DecoderQueues.step, thread, popped, Option.map_some, Option.toList_some, Option.some.injEq] at ran
        subst ran
        refine ⟨rest, holds', ?_⟩
        simp only [order, List.map_append, List.map_cons, List.map_nil, same, List.append_assoc, List.cons_append,
          List.nil_append]
  | activate opened =>
    cases opened <;> simp only [DecoderQueues.step] at ran
    · cases ran
      exact ⟨frames, holds, order⟩
    · split at ran <;> cases ran
      exact ⟨frames, holds, order⟩
  | deactivate =>
    cases ran
    exact ⟨frames, holds, order⟩

/-- What the code relies on in a state: a push that fails changes nothing, and the two calls whose codes
the pop section drops return 0. Neither faults. -/
structure Reliable (s : State) : Prop where
  inStep : InStep s
  push : ∀ (src : Received) (now : Int), ∃ code q, queuePush s.queues src.1 now = .ok (code, q) ∧ (code ≠ 0 → q = s.queues)
  pop : ∀ arr now, ∃ popped arr' q, popSection s.queues arr now = .ok (popped, arr', q) ∧
    ∀ p ∈ popped, p.front = 0 ∧ p.pop = 0

theorem InStep.reliable {s : State} (h : InStep s) : Reliable s where
  inStep := h
  push src now := by
    obtain ⟨frames, holds, -⟩ := h
    rcases holds.queuePush_spec src now with ⟨code, ne, pushed⟩ | ⟨q, pushed, -⟩
    · exact ⟨code, s.queues, pushed, fun _ => rfl⟩
    · exact ⟨0, q, pushed, fun ne => absurd rfl ne⟩
  pop arr now := by
    obtain ⟨frames, holds, -⟩ := h
    rcases holds.popSection_spec arr now with broke | ⟨_, _, video, arr', q, -, popped, -, -⟩
    · exact ⟨none, arr, s.queues, broke, nofun⟩
    · refine ⟨_, arr', q, popped, ?_⟩
      rintro p ⟨⟩
      exact ⟨rfl, rfl⟩

/-- **The two queues stay in step.** After `Initialize`, in every state of every run of pushes, passes of the
loop and restarts of its thread, the byte queue holds the frames that the other queue describes, one behind
the other, the sources given to `Decode` and these frames are the accepted pushes in their order, a push
that fails changes neither queue, and the loop's `Front` and `Pop` return 0. -/
theorem queues_in_step (accumulate : Int32) (garbage : Vector UInt8 streamQueueSize) (acts : List Act) :
    ∃ queues, initializeQueues { queueAccumulateTime := accumulate } garbage = .ok queues ∧
      Throughout step Reliable { queues } acts := by
  obtain ⟨queues, ran, holds⟩ := initializeQueues_spec { queueAccumulateTime := accumulate } rfl garbage
  refine ⟨queues, ran, throughout (fun h _ ran => InStep.step h ran) InStep.reliable ?_ along_true⟩
  exact ⟨[], holds, rfl⟩

end DecoderQueues

end CameraEv
