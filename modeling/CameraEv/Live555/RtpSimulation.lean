import CameraEv.Live555.H264VideoRTPSource

/-!
# The source on unbounded sequence numbers

The source looks at sequence numbers only through its reordering buffer, so that
it does on 16-bit numbers what it does on unbounded ones, packet for packet, as long
as packets arrive in time (`received_map`, `runTask_map`).
-/

namespace CameraEv

open Exec SerialNumber

namespace H264VideoRTPSource

variable {σ : Type}

def map (number : Nat → σ) (s : H264VideoRTPSource Nat) : H264VideoRTPSource σ :=
  { s with reorderingBuffer := s.reorderingBuffer.map number, released := s.released.map number }

section Parts

variable {number : Nat → σ} {s : H264VideoRTPSource Nat} {p : BufferedPacket Nat} {client : Nat}

theorem map_processSpecialHeader : (s.map number).processSpecialHeader (p.map number) =
    ((s.processSpecialHeader p).1, (s.processSpecialHeader p).2.1.map number,
      (s.processSpecialHeader p).2.2.map number) := by
  have same : (p.map number).data = p.data := rfl
  unfold processSpecialHeader
  rw [same]
  cases p.data with
  | nil => rfl
  | cons first rest =>
    by_cases stapA : first &&& 0x1F = 24
    · simp only [stapA, if_true]
      rfl
    by_cases others : first &&& 0x1F = 25 ∨ first &&& 0x1F = 26 ∨ first &&& 0x1F = 27
    · simp only [stapA, others, if_true, if_false]
      rfl
    by_cases fu : first &&& 0x1F = 28 ∨ first &&& 0x1F = 29
    · simp only [stapA, others, fu, if_true, if_false]
      cases rest with
      | nil => rfl
      | cons second rest =>
        by_cases start : second &&& 0x80 = 0
        · simp only [start, ne_eq, not_true_eq_false, if_false]
          rfl
        · simp only [start, ne_eq, not_false_eq_true, if_true]
          rfl
    · simp only [stapA, others, fu, if_false]
      rfl

theorem map_noteLoss (loss : Bool) : (s.map number).noteLoss loss = (s.noteLoss loss).map number := by
  have begins : (s.map number).currentPacketBeginsFrame = s.currentPacketBeginsFrame := rfl
  have lost : (s.map number).packetLossInFragmentedFrame = s.packetLossInFragmentedFrame := rfl
  unfold noteLoss
  rw [begins, lost]
  cases s.currentPacketBeginsFrame <;> cases loss <;> cases s.packetLossInFragmentedFrame <;> rfl

theorem map_use (unitType : UInt8) (toSize truncated : Nat) : (p.map number).use unitType toSize truncated =
    (p.use unitType toSize truncated).map fun used => (used.1, used.2.1, used.2.2.map number) := by
  have same : (p.map number).data = p.data := rfl
  unfold BufferedPacket.use
  rw [same]
  generalize BufferedPacket.nextEnclosedFrameSize unitType p.data = next
  obtain ⟨offset, frameSize⟩ := next
  show (load p.buf (p.head + offset) _ >>= _) = Except.map _ (load p.buf (p.head + offset) _ >>= _)
  cases load p.buf (p.head + offset) (if toSize < frameSize then toSize else frameSize) <;> rfl

theorem map_complete (bytesUsed : Nat) :
    (s.map number).complete client bytesUsed = (s.complete client bytesUsed).map number := by
  have empty : (s.map number).reorderingBuffer.packets.isEmpty = s.reorderingBuffer.packets.isEmpty := by
    simp only [map, ReorderingPacketBuffer.map, List.isEmpty_map]
  have completes : (s.map number).currentPacketCompletesFrame = s.currentPacketCompletesFrame := rfl
  have frame : (s.map number).frame = s.frame := rfl
  unfold complete
  rw [empty, completes, frame]
  by_cases done : s.currentPacketCompletesFrame = true ∧ 0 < s.frame.length
  · rw [if_pos done, if_pos done]
    cases s.reorderingBuffer.packets.isEmpty <;> rfl
  · rw [if_neg done, if_neg done]
    rfl

end Parts

section Steps

variable [DecidableEq σ] {N : Counters σ} {half : Nat} {number : Nat → σ} (rep : Represents N half number)

include rep

omit [DecidableEq σ] in
theorem map_releaseUsedPacket {s : H264VideoRTPSource Nat} {p : BufferedPacket Nat} :
    (s.map number).releaseUsedPacket N (p.map number) = (s.releaseUsedPacket unbounded p).map number := by
  have buffer := ReorderingPacketBuffer.releaseUsedPacket_map rep (r := s.reorderingBuffer)
  simp only [releaseUsedPacket, map, BufferedPacket.map_rtpSeqNo, List.map_append, List.map_cons,
    List.map_nil] at buffer ⊢
  rw [buffer]

omit [DecidableEq σ] in
theorem map_putBack {s : H264VideoRTPSource Nat} {p : BufferedPacket Nat} :
    (s.map number).putBack N (p.map number) = (s.putBack unbounded p).map number := by
  have usable : (p.map number).hasUsableData = p.hasUsableData := rfl
  unfold putBack
  rw [usable, map_releaseUsedPacket rep]
  cases p.hasUsableData with
  | false => rfl
  | true => simp only [if_true, map, ReorderingPacketBuffer.map, List.map_cons, List.map_tail]

omit [DecidableEq σ] in
theorem usePacket_map {s : H264VideoRTPSource Nat} {p : BufferedPacket Nat} {client : Nat} (loss : Bool) :
    (s.map number).usePacket N client (p.map number) loss = (s.usePacket unbounded client p loss).map (map number) := by
  have lost : ((s.noteLoss loss).map number).packetLossInFragmentedFrame =
      (s.noteLoss loss).packetLossInFragmentedFrame := rfl
  unfold usePacket
  simp only [map_noteLoss, lost]
  generalize s.noteLoss loss = s
  by_cases bad : s.packetLossInFragmentedFrame = true
  · simp only [bad, if_true, map_releaseUsedPacket rep]
    rfl
  · have used : (p.map number).use (s.map number).curPacketNALUnitType (s.map number).maxSize
        (s.map number).numTruncatedBytes = (p.use s.curPacketNALUnitType s.maxSize s.numTruncatedBytes).map
          fun used => (used.1, used.2.1, used.2.2.map number) := map_use _ _ _
    simp only [bad, Bool.false_eq_true, if_false, used]
    cases p.use s.curPacketNALUnitType s.maxSize s.numTruncatedBytes with
    | error e => rfl
    | ok used =>
      obtain ⟨bytes, truncated, q⟩ := used
      have taken : (s.map number).took (p.map number) bytes truncated = (s.took p bytes truncated).map number := rfl
      simp only [Except.map, ok_bind, pure_eq_ok, taken, map_putBack rep, map_complete]

omit [DecidableEq σ] in
theorem round_map {s : H264VideoRTPSource Nat} {p : BufferedPacket Nat} {client : Nat} (loss : Bool) :
    round N client (s.map number) (p.map number) loss = (round unbounded client s p loss).map (map number) := by
  have fresh : (p.map number).useCount = p.useCount := rfl
  have header := @map_processSpecialHeader _ number { s with needDelivery := false } p
  unfold round
  rw [fresh]
  by_cases new : p.useCount = 0
  · simp only [new, if_true]
    have start : processSpecialHeader { s.map number with needDelivery := false } (p.map number) = _ := header
    rw [start]
    obtain ⟨usable, s', p'⟩ := processSpecialHeader { s with needDelivery := false } p
    cases usable with
    | true => exact usePacket_map rep loss
    | false =>
      simp only [map_releaseUsedPacket rep]
      rfl
  · simp only [new, if_false]
    exact usePacket_map rep (s := { s with needDelivery := false }) loss

end Steps

/-! ## What a round does to the buffer -/

section Buffer

variable {s t : H264VideoRTPSource Nat} {p : BufferedPacket Nat} {client fuel : Nat} {loss : Bool} {timeNow : Int}

/-- The packet at the head is released, or it stays with less data in it. -/
inductive Advanced (s : H264VideoRTPSource Nat) (p : BufferedPacket Nat) (t : H264VideoRTPSource Nat) : Prop
  | released (buffer : t.reorderingBuffer = s.reorderingBuffer.releaseUsedPacket unbounded)
      (log : t.released = s.released ++ [p.rtpSeqNo])
  | stays {q} (same : q.rtpSeqNo = p.rtpSeqNo)
      (buffer : t.reorderingBuffer = { s.reorderingBuffer with packets := q :: s.reorderingBuffer.packets.tail })
      (log : t.released = s.released)

/-- The two states have the same buffer, and the same log of what was released. -/
structure SameBuffer (s t : H264VideoRTPSource Nat) : Prop where
  buffer : t.reorderingBuffer = s.reorderingBuffer
  released : t.released = s.released
  ssrc : t.lastReceivedSSRC = s.lastReceivedSSRC

theorem sameBuffer_complete (n : Nat) : SameBuffer s (s.complete client n) := by
  unfold complete
  split
  · split <;> exact ⟨rfl, rfl, rfl⟩
  · exact ⟨rfl, rfl, rfl⟩

theorem sameBuffer_noteLoss : SameBuffer s (s.noteLoss loss) := by
  unfold noteLoss
  split
  · split <;> exact ⟨rfl, rfl, rfl⟩
  · split <;> exact ⟨rfl, rfl, rfl⟩

theorem sameBuffer_processSpecialHeader : SameBuffer s (s.processSpecialHeader p).2.1 ∧
    (s.processSpecialHeader p).2.2.rtpSeqNo = p.rtpSeqNo := by
  unfold processSpecialHeader
  cases p.data with
  | nil => exact ⟨⟨rfl, rfl, rfl⟩, rfl⟩
  | cons first rest =>
    dsimp only
    split
    · exact ⟨⟨rfl, rfl, rfl⟩, rfl⟩
    split
    · exact ⟨⟨rfl, rfl, rfl⟩, rfl⟩
    split
    · cases rest with
      | nil => exact ⟨⟨rfl, rfl, rfl⟩, rfl⟩
      | cons second rest =>
        dsimp only
        split <;> exact ⟨⟨rfl, rfl, rfl⟩, rfl⟩
    · exact ⟨⟨rfl, rfl, rfl⟩, rfl⟩

theorem rtpSeqNo_of_use {unitType : UInt8} {toSize truncated : Nat} {bytes : List UInt8} {n : Nat}
    {q : BufferedPacket Nat}
    (used : p.use unitType toSize truncated = .ok (bytes, n, q)) : q.rtpSeqNo = p.rtpSeqNo := by
  unfold BufferedPacket.use at used
  obtain ⟨_, -, same⟩ := bind_eq_ok.1 used
  cases same
  rfl

theorem SameBuffer.advanced {s' : H264VideoRTPSource Nat} {p' : BufferedPacket Nat} (same : SameBuffer s s')
    (seqNo : p'.rtpSeqNo = p.rtpSeqNo) (advanced : Advanced s' p' t) : Advanced s p t := by
  cases advanced with
  | released buffer log => exact .released (by rw [buffer, same.buffer]) (by rw [log, same.released, seqNo])
  | stays eq buffer log =>
    exact .stays (eq.trans seqNo) (by rw [buffer, same.buffer]) (by rw [log, same.released])

theorem Advanced.same {t' : H264VideoRTPSource Nat} (advanced : Advanced s p t) (same : SameBuffer t t') :
    Advanced s p t' := by
  cases advanced with
  | released buffer log => exact .released (by rw [same.buffer, buffer]) (by rw [same.released, log])
  | stays eq buffer log => exact .stays eq (by rw [same.buffer, buffer]) (by rw [same.released, log])

theorem advanced_putBack {q : BufferedPacket Nat} (seqNo : q.rtpSeqNo = p.rtpSeqNo) :
    Advanced s p (s.putBack unbounded q) := by
  unfold putBack
  split
  · exact .stays seqNo rfl rfl
  · exact .released rfl (congrArg (fun n => s.released ++ [n]) seqNo)

theorem ssrc_putBack {q : BufferedPacket Nat} : (s.putBack unbounded q).lastReceivedSSRC = s.lastReceivedSSRC := by
  unfold putBack
  split <;> rfl

theorem advanced_of_usePacket (h : s.usePacket unbounded client p loss = .ok t) :
    Advanced s p t ∧ t.lastReceivedSSRC = s.lastReceivedSSRC := by
  have noted : SameBuffer s (s.noteLoss loss) := sameBuffer_noteLoss
  unfold usePacket at h
  dsimp only at h
  split at h
  · cases h
    exact ⟨noted.advanced rfl (.released rfl rfl), noted.ssrc⟩
  · obtain ⟨⟨bytes, truncated, q⟩, used, same⟩ := bind_eq_ok.1 h
    cases same
    have taken : SameBuffer s ((s.noteLoss loss).took p bytes truncated) := ⟨noted.buffer, noted.released, noted.ssrc⟩
    have completed : SameBuffer (((s.noteLoss loss).took p bytes truncated).putBack unbounded q) _ :=
      @sameBuffer_complete _ client bytes.length
    refine ⟨(taken.advanced rfl (advanced_putBack (rtpSeqNo_of_use used))).same completed, ?_⟩
    rw [completed.ssrc, ssrc_putBack, taken.ssrc]

theorem advanced_of_round (h : round unbounded client s p loss = .ok t) :
    Advanced s p t ∧ t.lastReceivedSSRC = s.lastReceivedSSRC := by
  have waiting : SameBuffer s { s with needDelivery := false } := ⟨rfl, rfl, rfl⟩
  unfold round at h
  dsimp only at h
  split at h
  · obtain ⟨header, seqNo⟩ := sameBuffer_processSpecialHeader (s := { s with needDelivery := false }) (p := p)
    generalize processSpecialHeader { s with needDelivery := false } p = result at h header seqNo
    obtain ⟨usable, s', p'⟩ := result
    cases usable with
    | true =>
      obtain ⟨advanced, ssrc⟩ := advanced_of_usePacket h
      exact ⟨waiting.advanced rfl (header.advanced seqNo advanced), ssrc.trans header.ssrc⟩
    | false =>
      cases h
      exact ⟨waiting.advanced rfl (header.advanced seqNo (.released rfl rfl)), header.ssrc⟩
  · obtain ⟨advanced, ssrc⟩ := advanced_of_usePacket h
    exact ⟨waiting.advanced rfl advanced, ssrc⟩

/-- The packet at the head is the expected one, as `getNextCompletedPacket` leaves it. -/
structure Due (s : H264VideoRTPSource Nat) (p : BufferedPacket Nat) : Prop where
  head : ∃ ps, s.reorderingBuffer.packets = p :: ps
  expected : s.reorderingBuffer.nextExpectedSeqNo = p.rtpSeqNo

theorem due_of_completed {r : ReorderingPacketBuffer Nat} (completed : s.reorderingBuffer.Completed p loss r) :
    Due { s with reorderingBuffer := r } p := by
  obtain ⟨head, rfl, -, -⟩ := completed
  exact ⟨head, rfl⟩

theorem Advanced.window {half : Nat} (advanced : Advanced s p t) (due : Due s p)
    (window : s.reorderingBuffer.Window half) :
    t.reorderingBuffer.Window half := by
  obtain ⟨ps, packets⟩ := due.head
  cases advanced with
  | released buffer _ =>
    rw [buffer]
    exact window.released packets due.expected
  | @stays q seqNo buffer _ =>
    obtain ⟨sorted, ahead, unseen⟩ := window
    rw [buffer]
    rw [packets] at sorted ahead unseen ⊢
    refine ⟨?_, fun x mem => ?_, fun none => absurd (unseen none) (List.cons_ne_nil _ _)⟩
    · obtain ⟨first, sorted⟩ := List.pairwise_cons.1 sorted
      exact List.pairwise_cons.2 ⟨fun x mem => by rw [seqNo]; exact first x mem, sorted⟩
    · rcases List.mem_cons.1 mem with rfl | mem
      · rw [seqNo]
        exact ahead p List.mem_cons_self
      · exact ahead x (List.mem_cons_of_mem p mem)

/-- The packet is of the stream that the buffer has seen, if it has seen one. -/
def SameStream (s : H264VideoRTPSource Nat) (rtpSSRC : Nat) : Prop :=
  s.reorderingBuffer.haveSeenFirstPacket = true → rtpSSRC = s.lastReceivedSSRC

theorem map_noteSSRC {number : Nat → σ} {rtpSSRC : Nat} :
    (s.map number).noteSSRC rtpSSRC = (s.noteSSRC rtpSSRC).map number := by
  have ssrc : (s.map number).lastReceivedSSRC = s.lastReceivedSSRC := rfl
  unfold noteSSRC
  rw [ssrc]
  split <;> rfl

/-- The first packet finds nothing to forget. -/
theorem SameStream.noteSSRC {rtpSSRC : Nat} (stream : s.SameStream rtpSSRC) :
    s.noteSSRC rtpSSRC = { s with lastReceivedSSRC := rtpSSRC } := by
  unfold H264VideoRTPSource.noteSSRC
  split
  · rename_i other
    cases seen : s.reorderingBuffer.haveSeenFirstPacket with
    | false => rw [← seen]
    | true => exact absurd (stream seen) other
  · rename_i same
    rw [not_ne_iff.1 same]

end Buffer

section Steps

variable [DecidableEq σ] {N : Counters σ} {half : Nat} {number : Nat → σ} {s : H264VideoRTPSource Nat}
    {client fuel : Nat}
  {timeNow : Int} (rep : Represents N half number)

include rep

theorem doGetNextFrame1_map (window : s.reorderingBuffer.Window half) :
    doGetNextFrame1 N client fuel (s.map number) timeNow =
      (doGetNextFrame1 unbounded client fuel s timeNow).map (map number) := by
  induction fuel generalizing s with
  | zero => rfl
  | succ fuel ih =>
    have needed : (s.map number).needDelivery = s.needDelivery := rfl
    have next : (s.map number).reorderingBuffer.getNextCompletedPacket timeNow = _ :=
      ReorderingPacketBuffer.getNextCompletedPacket_map rep window timeNow
    unfold doGetNextFrame1
    rw [needed, next]
    by_cases need : s.needDelivery = true
    · rw [if_pos need, if_pos need]
      cases completed : s.reorderingBuffer.getNextCompletedPacket timeNow with
      | none => rfl
      | some result =>
        obtain ⟨⟨p, loss⟩, r⟩ := result
        have due := ReorderingPacketBuffer.getNextCompletedPacket_spec completed
        have moved : round N client { s.map number with reorderingBuffer := r.map number } (p.map number) loss =
            (round unbounded client { s with reorderingBuffer := r } p loss).map (map number) :=
          round_map rep (s := { s with reorderingBuffer := r }) loss
        show (round N client { s.map number with reorderingBuffer := r.map number } (p.map number) loss >>= _) = _
        rw [moved]
        cases ran : round unbounded client { s with reorderingBuffer := r } p loss with
        | error e => simp only [Except.map, error_bind, ran]
        | ok t =>
          simp only [Except.map, ok_bind, ran]
          exact ih ((advanced_of_round ran).1.window (due_of_completed due) (window.completed due))
    · rw [if_neg need, if_neg need]
      rfl

/-- **16 bits are enough for the source**: what it does with a packet of its stream that arrives in time. -/
theorem received_map {rtpSSRC : Nat} {p : BufferedPacket Nat} (window : s.reorderingBuffer.Window half)
    (stream : s.SameStream rtpSSRC) (timely : s.reorderingBuffer.Timely half p.rtpSeqNo) (pos : 0 < half) :
    received N client fuel (s.map number) rtpSSRC (p.map number) timeNow =
      (received unbounded client fuel s rtpSSRC p timeNow).map (map number) := by
  have buffer : (s.noteSSRC rtpSSRC).reorderingBuffer = s.reorderingBuffer := by rw [stream.noteSSRC]
  rw [← buffer] at window timely
  have stored : ((s.noteSSRC rtpSSRC).map number).reorderingBuffer.storePacket N (p.map number) = _ :=
    ReorderingPacketBuffer.storePacket_map rep window timely pos
  unfold received
  simp only [map_noteSSRC, stored]
  obtain ⟨kept, r, ran, -, window'⟩ := window.storePacket_spec timely pos
  rw [ran]
  exact doGetNextFrame1_map rep (s := { s.noteSSRC rtpSSRC with reorderingBuffer := r }) window'

theorem runTask_map (window : s.reorderingBuffer.Window half) :
    runTask N client fuel (s.map number) timeNow = (runTask unbounded client fuel s timeNow).map (map number) := by
  have waits : (s.map number).scheduled = s.scheduled := rfl
  unfold runTask
  rw [waits]
  cases s.scheduled with
  | false => rfl
  | true => exact doGetNextFrame1_map rep (s := s.afterGetting client) window

end Steps

end H264VideoRTPSource

end CameraEv
