import CameraEv.Common.QueueFifo
import CameraEv.Network.PacketRoundTrip

/-!
# What the workers run on the shared queue

`SendWorkerSyncQueue::SendPacket` pushes one packet, and
`RecvWorkerSyncQueue::CallbackConsumer` takes one: it looks at the first eight
bytes, makes room for the length they give and then copies and pops the packet.
On a queue that holds whole frames it takes exactly the first one.
-/

namespace CameraEv

open Exec CPacketDefine

/-- What one worker keeps between its calls: the pending length of its queue handle and
`m_packet_buffer`. -/
structure Handle where
  popDataLen : Nat := 0
  packetBuffer : List UInt8 := []
  deriving DecidableEq

/-- The callback of `SendPacket`. -/
def SendWorkerSyncQueue.callbackProducer (q : QueueMemory) (h : Handle) (packet : Buffer) :
    Exec (Bool × QueueMemory × Handle) := do
  let (ret, q) ← q.push wrapping QueueSharedMemory.failedCode packet.1
  return (ret = 0, q, h)

namespace RecvWorkerSyncQueue

/-- `queue->Front(m_packet_buffer.data(), len)`. -/
def frontPacketBuffer (q : QueueMemory) (h : Handle) (len : Nat) : Exec (Nat × Handle) := do
  let (ret, bytes, popDataLen) ← q.front wrapping QueueSharedMemory.failedCode h.popDataLen len
  return (ret, { popDataLen, packetBuffer := ← store h.packetBuffer 0 bytes })

/-- `CallbackConsumer`. -/
def callbackConsumer (q : QueueMemory) (h : Handle) : Exec (Bool × QueueMemory × Handle) := do
  let headerLen := getSizeSTX + getSizeMainLength
  let (ret, h) ← frontPacketBuffer q h headerLen
  if ret ≠ 0 then
    return (false, q, h)
  if !(← hasSTX h.packetBuffer) then
    return (false, q, h)
  let mainLen ← getMainLength h.packetBuffer
  if mainLen > q.useSize then
    return (false, q, h)
  let h := if h.packetBuffer.length < mainLen then { h with packetBuffer := resize h.packetBuffer mainLen } else h
  let (ret, h) ← frontPacketBuffer q h mainLen
  if ret ≠ 0 then
    return (false, q, h)
  let (ret, q, popDataLen) ← q.pop wrapping QueueSharedMemory.failedCode q.queueSize h.popDataLen
  if ret ≠ 0 then
    return (false, q, { h with popDataLen })
  return (true, q, { h with popDataLen })

/-- What `ThreadLoop` analyses after a successful call: the first `GetMainLength` bytes of `m_packet_buffer`. -/
def packet (h : Handle) : List UInt8 := h.packetBuffer.take (LittleEndian.decode ((h.packetBuffer.drop 4).take 4))

end RecvWorkerSyncQueue

/-- A byte string that starts with the start mark and its own length. -/
structure IsFrame (bytes : List UInt8) : Prop where
  long : 8 ≤ bytes.length
  marked : bytes.take 4 = stx
  sized : LittleEndian.decode ((bytes.drop 4).take 4) = bytes.length

instance (bytes : List UInt8) : Decidable (IsFrame bytes) :=
  decidable_of_iff (8 ≤ bytes.length ∧ bytes.take 4 = stx ∧ LittleEndian.decode ((bytes.drop 4).take 4) = bytes.length)
    ⟨fun h => ⟨h.1, h.2.1, h.2.2⟩, fun h => ⟨h.long, h.marked, h.sized⟩⟩

abbrev Frame := {bytes : List UInt8 // IsFrame bytes}

/-- The length field has four bytes. -/
theorem Frame.length_lt (f : Frame) : f.1.length < 2 ^ 32 := by
  have field := LittleEndian.decode_lt ((f.1.drop 4).take 4)
  have four : ((f.1.drop 4).take 4).length = 4 := by
    have long := f.2.long
    simp only [List.length_take, List.length_drop]
    omega
  rw [f.2.sized, four] at field
  omega

def Frame.buffer (f : Frame) : Buffer := ⟨f.1, f.length_lt⟩

/-- The marks of a packet and nothing behind them. -/
def Frame.shortest : Frame := ⟨stx ++ [8, 0, 0, 0], by decide⟩

/-- The bytes of frames that follow one another. -/
def flat (fs : List Frame) : List UInt8 := (fs.map Subtype.val).flatten

@[simp] theorem flat_nil : flat [] = [] := rfl

@[simp] theorem flat_cons (f : Frame) (fs : List Frame) : flat (f :: fs) = f.1 ++ flat fs := rfl

@[simp] theorem flat_append (fs gs : List Frame) : flat (fs ++ gs) = flat fs ++ flat gs := by
  simp only [flat, List.map_append, List.flatten_append]

section Spec

variable {size : Nat} {q : QueueMemory} {bytes : List UInt8}

/-- A packet either fits and is appended, or the queue stays as it was. -/
theorem callbackProducer_spec (holds : q.Holds size bytes) (hs : size < 2 ^ 32) (h : Handle) (packet : Buffer) :
    ∃ ok q', SendWorkerSyncQueue.callbackProducer q h packet = .ok (ok, q', h) ∧
      (ok = true → q'.Holds size (bytes ++ packet.1)) ∧ (ok = false → q' = q) := by
  by_cases room : bytes.length + packet.1.length ≤ size - 1
  · obtain ⟨q', pushed, holds'⟩ := holds.push_spec QueueSharedMemory.failedCode hs room
    refine ⟨true, q', ?_, fun _ => holds', by simp⟩
    simp only [SendWorkerSyncQueue.callbackProducer, pushed wrapping wrapping_exact, ok_bind, pure_eq_ok, decide_true]
  · refine ⟨false, q, ?_, by simp, fun _ => rfl⟩
    have failed : decide (QueueSharedMemory.failedCode.notEnoughFreeSpace = 0) = false := by decide
    have full : q.push wrapping QueueSharedMemory.failedCode packet.1 = _ :=
      holds.push_full hs wrapping_exact (show size - 1 < bytes.length + packet.1.length by omega)
    simp only [SendWorkerSyncQueue.callbackProducer, full, ok_bind, pure_eq_ok, failed]

namespace RecvWorkerSyncQueue

/-- There is nothing to take from an empty queue. -/
theorem callbackConsumer_empty (holds : q.Holds size []) (h : Handle) :
    callbackConsumer q h = .ok (false, q, h) := by
  have big : q.front wrapping QueueSharedMemory.failedCode h.popDataLen (getSizeSTX + getSizeMainLength) =
      .ok (QueueSharedMemory.failedCode.readBufferSizeIsBig, [], h.popDataLen) := holds.front_big (by decide)
  have kept : store h.packetBuffer 0 [] = .ok h.packetBuffer := by
    rw [store_eq (by simp)]
    simp [overwrite]
  have failed : QueueSharedMemory.failedCode.readBufferSizeIsBig ≠ 0 := by decide
  simp only [callbackConsumer, frontPacketBuffer, big, kept, ok_bind, pure_eq_ok, if_pos failed]

theorem frontPacketBuffer_spec (holds : q.Holds size bytes) (hs : size < 2 ^ 32) {h : Handle} {len : Nat}
    (small : len ≤ bytes.length) (room : len ≤ h.packetBuffer.length) :
    frontPacketBuffer q h len = .ok (0, ⟨len, bytes.take len ++ h.packetBuffer.drop len⟩) := by
  have taken : (bytes.take len).length = len := List.length_take_of_le small
  simp only [frontPacketBuffer, holds.front_spec hs wrapping_exact small, ok_bind, pure_eq_ok,
    store_eq (show 0 + (bytes.take len).length ≤ h.packetBuffer.length by omega), overwrite, List.take_zero,
    List.nil_append, taken, Nat.zero_add]

/-- The eight bytes that the callback looks at first. -/
theorem take_eight (f : Frame) : f.1.take 8 = stx ++ (f.1.drop 4).take 4 := by
  rw [show 8 = 4 + 4 from rfl, List.take_add, f.2.marked]

/-- The length field of a memory that starts with a frame's first eight bytes. -/
theorem lengthField_eq {mem rest : List UInt8} (f : Frame) (h : mem = f.1.take 8 ++ rest) :
    (mem.drop 4).take 4 = (f.1.drop 4).take 4 := by
  have field : ((f.1.drop 4).take 4).length = 4 := by
    have := f.2.long
    simp only [List.length_take, List.length_drop]
    omega
  rw [h, take_eight, List.append_assoc, show (4 : Nat) = stx.length from rfl, List.drop_left]
  exact List.take_left' field

/-- From a queue that starts with a frame, the frame is taken and handed out. -/
theorem callbackConsumer_frame {f : Frame} (holds : q.Holds size (f.1 ++ bytes)) (hs : size < 2 ^ 32) {h : Handle}
    (room : 8 ≤ h.packetBuffer.length) :
    ∃ q' h', callbackConsumer q h = .ok (true, q', h') ∧ q'.Holds size bytes ∧ packet h' = f.1 ∧
      8 ≤ h'.packetBuffer.length := by
  have long := f.2.long
  have total : (f.1 ++ bytes).length = f.1.length + bytes.length := List.length_append
  have first := frontPacketBuffer_spec holds hs (show 8 ≤ (f.1 ++ bytes).length by omega) room
  rw [List.take_append_of_le_length long] at first
  have marked : hasSTX (f.1.take 8 ++ h.packetBuffer.drop 8) = .ok true := by
    rw [take_eight, List.append_assoc]
    exact sameBytes_append stx _
  have mainLength : getMainLength (f.1.take 8 ++ h.packetBuffer.drop 8) = .ok f.1.length := by
    have eight : (f.1.take 8).length = 8 := List.length_take_of_le long
    have inside : getPosMainLength + getSizeMainLength ≤ (f.1.take 8 ++ h.packetBuffer.drop 8).length := by
      simp only [List.length_append, eight, getPosMainLength, getPosSTX, getSizeSTX, stx, getSizeMainLength,
        List.length_cons, List.length_nil]
      omega
    rw [getMainLength, load_eq inside, ok_bind]
    exact congrArg _ ((congrArg _ (lengthField_eq f rfl)).trans f.2.sized)
  have used : ¬ f.1.length > q.useSize := by
    rw [holds.use]
    omega
  -- the buffer is at least as long as the frame after the resize
  obtain ⟨mem, mem_eq, mem_long⟩ : ∃ mem, (if (f.1.take 8 ++ h.packetBuffer.drop 8).length < f.1.length then
      ({ popDataLen := 8, packetBuffer := resize (f.1.take 8 ++ h.packetBuffer.drop 8) f.1.length } : Handle)
      else { popDataLen := 8, packetBuffer := f.1.take 8 ++ h.packetBuffer.drop 8 }) = ⟨8, mem⟩ ∧
      f.1.length ≤ mem.length := by
    split
    · refine ⟨_, rfl, ?_⟩
      simp only [resize, List.length_append, List.length_take, List.length_replicate]
      omega
    · exact ⟨_, rfl, by omega⟩
  have second := frontPacketBuffer_spec holds hs (h := ⟨8, mem⟩) (show f.1.length ≤ (f.1 ++ bytes).length by omega) mem_long
  rw [List.take_left] at second
  obtain ⟨q', popped, holds'⟩ := holds.pop_spec QueueSharedMemory.failedCode hs (show 0 < f.1.length by omega) (by omega)
  rw [List.drop_left] at holds'
  refine ⟨q', ⟨0, f.1 ++ mem.drop f.1.length⟩, ?_, holds', ?_, ?_⟩
  · have header : getSizeSTX + getSizeMainLength = 8 := rfl
    simp only [callbackConsumer, header, first, ok_bind, pure_eq_ok, ne_eq, not_true_eq_false, if_false, marked,
      Bool.not_true, Bool.false_eq_true, mainLength, if_neg used, mem_eq, second, holds.queueSize,
      popped wrapping wrapping_exact]
  · have split : f.1 ++ mem.drop f.1.length = f.1.take 8 ++ (f.1.drop 8 ++ mem.drop f.1.length) := by
      rw [← List.append_assoc, List.take_append_drop]
    simp only [packet, lengthField_eq f split, f.2.sized, List.take_left]
  · simp only [List.length_append]
    omega

end RecvWorkerSyncQueue

end Spec

end CameraEv
