import CameraEv.Live555.RtpDelivery
import CameraEv.Live555.TcpFraming

/-!
# NAL units over the RTSP connection

Over TCP the packets come in the order in which they were sent. A source that gets
them so is never behind: it takes every packet as it comes and calls the client from
there, so that nothing waits for the event loop (`CaughtUp`).
-/

namespace CameraEv

open Exec SerialNumber Trace TcpFraming

namespace H264VideoRTPSource

section Step

variable {sender : Sender} {client fuel format first rtpSSRC k : Nat} {s t u : H264VideoRTPSource Nat}
  {p : BufferedPacket Nat} {loss : Bool}

/-- The first `k` packets have been taken, and nothing waits. -/
structure CaughtUp (s : H264VideoRTPSource Nat) (k : Nat) : Prop where
  empty : s.reorderingBuffer.packets = []
  idle : s.scheduled = false
  released : s.released = List.range k

theorem scheduled_noteLoss : (s.noteLoss loss).scheduled = s.scheduled := by
  unfold noteLoss
  split
  · split <;> rfl
  · split <;> rfl

theorem scheduled_complete {n : Nat} (idle : s.scheduled = false) (empty : s.reorderingBuffer.packets = []) :
    (s.complete client n).scheduled = false := by
  unfold complete
  rw [empty]
  split
  · rfl
  · exact idle

/-- Behind the last packet of the buffer nothing is left to the event loop. -/
theorem scheduled_of_usePacket (idle : s.scheduled = false) (h : s.usePacket unbounded client p loss = .ok t)
    (empty : t.reorderingBuffer.packets = []) : t.scheduled = false := by
  unfold usePacket at h
  dsimp only at h
  split at h
  · cases h
    exact scheduled_noteLoss.trans idle
  · obtain ⟨⟨bytes, truncated, q⟩, used, same⟩ := bind_eq_ok.1 h
    cases same
    rw [(sameBuffer_complete bytes.length).buffer] at empty
    refine scheduled_complete ?_ empty
    have noted : (s.noteLoss loss).scheduled = false := scheduled_noteLoss.trans idle
    unfold putBack
    split <;> exact noted

theorem scheduled_of_round (idle : s.scheduled = false) (h : round unbounded client s p loss = .ok t)
    (empty : t.reorderingBuffer.packets = []) : t.scheduled = false := by
  have header : (processSpecialHeader { s with needDelivery := false } p).2.1.scheduled = false := by
    unfold processSpecialHeader
    cases p.data with
    | nil => exact idle
    | cons first rest =>
      dsimp only
      split
      · exact idle
      split
      · exact idle
      split
      · cases rest with
        | nil => exact idle
        | cons second rest =>
          dsimp only
          split <;> exact idle
      · exact idle
  unfold round at h
  dsimp only at h
  split at h
  · generalize processSpecialHeader { s with needDelivery := false } p = result at h header
    obtain ⟨usable, s', p'⟩ := result
    cases usable with
    | true => exact scheduled_of_usePacket header h empty
    | false =>
      cases h
      exact header
  · exact scheduled_of_usePacket (s := { s with needDelivery := false }) idle h empty

/-- The number of the next packet, once one has been seen. -/
theorem CaughtUp.expected (caught : CaughtUp s k) (progress : Progress s)
    (seen : s.reorderingBuffer.haveSeenFirstPacket = true) : s.reorderingBuffer.nextExpectedSeqNo = k := by
  cases k with
  | zero =>
    obtain ⟨p, mem, -⟩ := progress.started seen caught.released
    rw [caught.empty] at mem
    cases mem
  | succ k =>
    exact progress.next k (by rw [caught.released, List.range_succ]; simp)

theorem CaughtUp.onTime (caught : CaughtUp s k) (progress : Progress s) (number : p.rtpSeqNo = k) {timeNow : Int} :
    OnTime s (.packet rtpSSRC p timeNow) := by
  intro seen
  rw [caught.expected progress seen, number]
  exact ⟨Nat.lt_add_of_pos_right (by decide), Nat.lt_add_of_pos_right (by decide)⟩

/-- The buffer with the next packet alone in it, which is due. -/
theorem CaughtUp.stored (caught : CaughtUp s k) (progress : Progress s) (number : p.rtpSeqNo = k) (timeNow : Int) :
    ∃ r q, s.reorderingBuffer.storePacket unbounded p = .ok (true, r) ∧ r.packets = [q] ∧ q.rtpSeqNo = k ∧
      r.getNextCompletedPacket timeNow = some ((q, q.isFirstPacket), r) := by
  have expected : (s.reorderingBuffer.started p).nextExpectedSeqNo = k := by
    unfold ReorderingPacketBuffer.started
    split
    · rename_i seen
      exact caught.expected progress seen
    · exact number
  have seqNo : (s.reorderingBuffer.marked p).rtpSeqNo = k := by rw [ReorderingPacketBuffer.marked_rtpSeqNo, number]
  refine ⟨{ s.reorderingBuffer.started p with packets := [s.reorderingBuffer.marked p] }, _, ?_, rfl, seqNo, ?_⟩
  · rw [ReorderingPacketBuffer.storePacket_eq, expected, number, caught.empty]
    simp [unbounded, pure_eq_ok]
  · unfold ReorderingPacketBuffer.getNextCompletedPacket
    dsimp only
    rw [if_pos (seqNo.trans expected.symm)]

/-- Nothing more comes out of an empty buffer. -/
theorem loop_empty (empty : s.reorderingBuffer.packets = []) (timeNow : Int) :
    doGetNextFrame1 unbounded client (fuel + 1) s timeNow = .ok s := by
  unfold doGetNextFrame1
  simp only [ReorderingPacketBuffer.getNextCompletedPacket, empty, pure_eq_ok]
  split <;> rfl

theorem needs_of_idle (phase : Phase sender client s) (idle : s.scheduled = false) : s.needDelivery = true := by
  cases phase with
  | clean needs | begun needs | broken needs => exact needs
  | waiting _ scheduled =>
    rw [idle] at scheduled
    cases scheduled

/-- The next packet is taken as it comes. -/
theorem CaughtUp.packet (caught : CaughtUp s k) (inv : RunInv sender client rtpSSRC s) (pos : 0 < client)
    (fueled : 1 < fuel) (plain : ∀ i nals, sender.piece i ≠ .aggregate nals) {timeNow : Int}
    (sent : Sent sender rtpSSRC (.packet rtpSSRC p timeNow)) (number : p.rtpSeqNo = k)
    (ran : stepUnbounded client fuel s (.packet rtpSSRC p timeNow) = some u) : CaughtUp u (k + 1) := by
  obtain ⟨fuel, rfl⟩ := Nat.exists_eq_add_of_lt fueled
  obtain ⟨-, genuine, fresh⟩ := sent
  have onTime : OnTime s (.packet rtpSSRC p timeNow) := caught.onTime inv.inv.progress number
  obtain ⟨r, q, stored, only, seqNo, due⟩ := caught.stored inv.inv.progress number timeNow
  obtain ⟨_, r', stored', inv', -⟩ := inv.inv.stored inv.stream onTime (by decide) genuine fresh
  have here := inv.stream.noteSSRC
  rw [here] at stored' inv'
  cases stored.symm.trans stored'
  have idle : { s with lastReceivedSSRC := rtpSSRC, reorderingBuffer := r }.scheduled = false := caught.idle
  have completed := ReorderingPacketBuffer.getNextCompletedPacket_spec due
  obtain ⟨t, moved, inv'', shorter⟩ := inv'.round pos (needs_of_idle inv'.phase idle) plain completed
  have length : r.packets.length = 1 := by rw [only]; rfl
  have empty : t.reorderingBuffer.packets = [] :=
    List.eq_nil_of_length_eq_zero (Nat.succ.inj (shorter.trans length))
  have whole : received unbounded client (1 + fuel + 1) s rtpSSRC p timeNow = .ok t := by
    unfold received
    dsimp only
    rw [here, stored, ok_bind]
    dsimp only
    unfold doGetNextFrame1
    rw [if_pos (needs_of_idle inv'.phase idle), due]
    dsimp only
    rw [moved, ok_bind, Nat.add_comm 1 fuel]
    exact loop_empty empty timeNow
  rw [stepUnbounded, whole] at ran
  cases ran
  refine ⟨empty, scheduled_of_round idle moved empty, ?_⟩
  cases (advanced_of_round moved).1 with
  | released _ log =>
    rw [log, List.range_succ, seqNo]
    exact congrArg (· ++ [k]) caught.released
  | stays _ buffer =>
    rw [buffer] at empty
    cases empty

theorem CaughtUp.nothing (caught : CaughtUp s k) (fueled : 1 < fuel) {timeNow : Int}
    (ran : stepUnbounded client fuel s (.nothing timeNow) = some u) : CaughtUp u k := by
  obtain ⟨fuel, rfl⟩ := Nat.exists_eq_add_of_lt fueled
  rw [stepUnbounded, loop_empty caught.empty] at ran
  cases ran
  exact caught

theorem CaughtUp.task (caught : CaughtUp s k) {timeNow : Int}
    (ran : stepUnbounded client fuel s (.task timeNow) = some u) : CaughtUp u k := by
  rw [stepUnbounded, runTask, if_neg (by simp [caught.idle])] at ran
  cases ran
  exact caught

end Step

/-! ## The packets in their order -/

/-- The datagram of an input. -/
def Input.data : Input → Option (List UInt8)
  | .datagram data .. => some data
  | .task _ => none

section Run

variable {sender : Sender} {client fuel first k : Nat} {s : H264VideoRTPSource Nat} {rtpPayloadType : Fin 128}
  {rtpSSRC : UInt32}

/-- The packets from the `k`-th on, with the event loop's tasks anywhere between them. -/
theorem CaughtUp.run (caught : CaughtUp s k) (inv : RunInv sender client rtpSSRC.toNat s) (pos : 0 < client)
    (fueled : 0x8000 < fuel) (plain : ∀ i nals, sender.piece i ≠ .aggregate nals) {inputs : List Input} {n : Nat}
    (order : inputs.filterMap Input.data =
      (List.range' k n).map fun i => (sender.datagram rtpPayloadType rtpSSRC first i).encode) :
    ∃ u, Trace.run (H264VideoRTPSource.step rtpPayloadType client fuel) (s.map fun i => UInt16.ofNat (first + i))
        inputs = some (u.map fun i => UInt16.ofNat (first + i)) ∧
      RunInv sender client rtpSSRC.toNat u ∧ CaughtUp u (k + n) := by
  induction inputs generalizing s k n with
  | nil =>
    cases n with
    | zero => exact ⟨s, rfl, inv, caught⟩
    | succ n => cases order
  | cons input inputs ih =>
    cases input with
    | task timeNow =>
      obtain ⟨t, moved, inv', simulates⟩ :=
        @inv.step _ _ _ rtpPayloadType first _ _ pos fueled plain (.task timeNow) trivial trivial
      obtain ⟨u, ran, inv'', caught'⟩ := ih (caught.task moved) inv' order
      exact ⟨u, run_cons.2 ⟨_, simulates _ .task, ran⟩, inv'', caught'⟩
    | datagram data behind presentationTime timeReceived timeNow =>
      cases n with
      | zero => cases order
      | succ n =>
        obtain ⟨rfl, later⟩ : data = (sender.datagram rtpPayloadType rtpSSRC first k).encode ∧
            inputs.filterMap Input.data = (List.range' (k + 1) n).map fun i =>
              (sender.datagram rtpPayloadType rtpSSRC first i).encode := List.cons.inj order
        let a : Arrival := ⟨k, behind, presentationTime, timeReceived, timeNow⟩
        have sent := sender.sent rtpPayloadType rtpSSRC first a
        have onTime : OnTime s (sender.event rtpPayloadType rtpSSRC first a) := caught.onTime inv.inv.progress rfl
        obtain ⟨t, moved, inv', simulates⟩ := inv.step pos fueled plain sent onTime
        obtain ⟨u, ran, inv'', caught'⟩ := ih (caught.packet inv pos (by omega) plain sent rfl moved) inv' later
        rw [Nat.add_assoc, Nat.add_comm 1 n] at caught'
        exact ⟨u, run_cons.2 ⟨_, simulates _ (sender.carries rtpPayloadType rtpSSRC first a), ran⟩, inv'', caught'⟩

end Run

/-- Nothing is missing of the first packets. -/
theorem Sender.gathered_range (sender : Sender) {n i : Nat} (lt : i < n) : sender.gathered (List.range n) i = true := by
  induction i with
  | zero => simp [Sender.gathered, lt, sender.starts]
  | succ i ih => simp [Sender.gathered, lt, ih (by omega)]

theorem Sender.units_range (sender : Sender) (n : Nat) :
    sender.units (List.range n) = (List.range n).flatMap sender.finished := by
  refine List.flatMap_congr fun i mem => ?_
  rw [sender.gathered_range (List.mem_range.1 mem), if_pos rfl]

/-! ## One channel of the connection -/

section Connection

variable {sender : Sender} {client fuel : Nat} {channels : UInt8 → Option Channel} {ch : UInt8}
  {socket : List (List UInt8)} {items : List Item} {rest : List UInt8} {m n : Nat} {inputs : List Input}

end Connection

end H264VideoRTPSource

end CameraEv
