import CameraEv.Live555.H264Packetization

/-!
# Aggregation packets

A STAP-A holds several NAL units, each behind its size. The source hands over one of
them for each turn of the event loop and leaves the rest of the packet at the head of
the buffer. One byte behind the last NAL unit is no size and no NAL unit: the source
takes nothing of it, finds it there again, and never comes out of its loop.
-/

namespace CameraEv

open Exec SerialNumber

namespace H264VideoRTPSource

/-- A NAL unit behind its size. -/
def sized (nal : List UInt8) : List UInt8 := UInt8.ofNat (nal.length / 2 ^ 8) :: UInt8.ofNat nal.length :: nal

section Packet

variable {σ : Type} {p : BufferedPacket σ} {nal rest : List UInt8}

theorem size_bytes {n : Nat} (small : n < 2 ^ 16) :
    (UInt8.ofNat (n / 2 ^ 8)).toNat * 2 ^ 8 + (UInt8.ofNat n).toNat = n := by
  rw [UInt8.toNat_ofNat', UInt8.toNat_ofNat']
  omega

theorem nextEnclosedFrameSize_sized (small : nal.length < 2 ^ 16) :
    BufferedPacket.nextEnclosedFrameSize 24 (sized nal ++ rest) = (2, nal.length) := by
  have length : (sized nal ++ rest).length = nal.length + rest.length + 2 := by
    rw [List.length_append, sized, List.length_cons, List.length_cons]
    omega
  unfold BufferedPacket.nextEnclosedFrameSize
  dsimp only
  rw [if_pos (.inl rfl)]
  show (if (sized nal ++ rest).length < 2 then ((0 : Nat), (0 : Nat)) else (2,
    if (UInt8.ofNat (nal.length / 2 ^ 8)).toNat * 2 ^ 8 + (UInt8.ofNat nal.length).toNat ≤ (sized nal ++ rest).length
    then (UInt8.ofNat (nal.length / 2 ^ 8)).toNat * 2 ^ 8 + (UInt8.ofNat nal.length).toNat
    else (sized nal ++ rest).length)) = (2, nal.length)
  rw [length, if_neg (by omega), size_bytes small, if_pos (by omega)]

theorem nextEnclosedFrameSize_stray (byte : UInt8) : BufferedPacket.nextEnclosedFrameSize 24 [byte] = (0, 0) := rfl

/-- The bytes of a packet whose head has been moved. -/
theorem Holds.moved (holds : Holds p rest) {n : Nat} (le : n ≤ rest.length) (useCount : Nat) :
    Holds { p with head := p.head + n, useCount } (rest.drop n) := by
  have tail := holds.tail
  obtain ⟨data, ordered, inside⟩ := holds.skip le
  have head : (p.skip n).head = p.head + n := if_neg (by omega)
  rw [BufferedPacket.data, BufferedPacket.dataSize, head] at data
  rw [head] at ordered
  exact ⟨data, ordered, inside⟩

/-- The first NAL unit is taken, and what is behind it stays. -/
theorem use_sized (holds : Holds p (sized nal ++ rest)) (small : nal.length < 2 ^ 16) (toSize bytesTruncated : Nat) :
    ∃ truncated q, p.use 24 toSize bytesTruncated = .ok (nal.take toSize, truncated, q) ∧ Holds q rest ∧
      q.rtpSeqNo = p.rtpSeqNo ∧ q.isFirstPacket = p.isFirstPacket ∧ q.useCount = p.useCount + 1 := by
  have length : (sized nal ++ rest).length = 2 + nal.length + rest.length := by
    rw [List.length_append, sized, List.length_cons, List.length_cons]
    omega
  have size : (if toSize < nal.length then toSize else nal.length) = min toSize nal.length := by
    split <;> omega
  have bytes : load p.buf (p.head + 2) (min toSize nal.length) = .ok (nal.take toSize) := by
    rw [holds.load (by omega)]
    have front : (sized nal ++ rest).drop 2 = nal ++ rest := rfl
    rw [front, List.take_append_of_le_length (Nat.min_le_right _ _), ← List.take_take, List.take_length]
  have moved := holds.moved (n := 2 + nal.length) (by omega) (p.useCount + 1)
  have behind : (sized nal ++ rest).drop (2 + nal.length) = rest := by
    rw [← List.drop_drop]
    exact List.drop_left
  rw [behind] at moved
  refine ⟨if toSize < nal.length then bytesTruncated + (nal.length - toSize) else 0,
    { p with head := p.head + 2 + nal.length, useCount := p.useCount + 1 }, ?_, ?_, rfl, rfl, rfl⟩
  · unfold BufferedPacket.use
    rw [holds.data, nextEnclosedFrameSize_sized small]
    dsimp only
    rw [size, bytes, ok_bind]
    rfl
  · rw [Nat.add_assoc]
    exact moved

/-- Of one byte nothing is taken. -/
theorem use_stray {byte : UInt8} (holds : Holds p [byte]) (toSize bytesTruncated : Nat) :
    p.use 24 toSize bytesTruncated = .ok ([], 0, { p with useCount := p.useCount + 1 }) := by
  unfold BufferedPacket.use
  rw [holds.data, nextEnclosedFrameSize_stray]
  dsimp only
  rw [if_neg (Nat.not_lt_zero _), if_neg (Nat.not_lt_zero _), holds.load (Nat.zero_le _), ok_bind]
  rfl

theorem hasUsableData_iff (holds : Holds p rest) : p.hasUsableData = true ↔ rest ≠ [] := by
  rw [BufferedPacket.hasUsableData, decide_eq_true_eq, holds.tail, Nat.lt_add_right_iff_pos]
  exact List.length_pos_iff

end Packet

section Source

variable {σ : Type} {N : Counters σ} {client fuel : Nat} {s t u : H264VideoRTPSource σ} {p p' : BufferedPacket σ}
  {data nal rest : List UInt8} {frames : List (List UInt8)} {loss : Bool}

/-- What the client has been called with. -/
def taken (s : H264VideoRTPSource σ) : List (List UInt8) := s.delivered.map Delivered.frame

/-- The packet is alone in the buffer, of an aggregation packet `data` are left, and nothing has been lost. -/
structure Aggregated (s : H264VideoRTPSource σ) (p : BufferedPacket σ) (data : List UInt8) : Prop where
  packets : s.reorderingBuffer.packets = [p]
  expected : p.rtpSeqNo = s.reorderingBuffer.nextExpectedSeqNo
  used : p.useCount ≠ 0
  holds : Holds p data
  unitType : s.curPacketNALUnitType = 24
  completes : s.currentPacketCompletesFrame = true
  sound : s.packetLossInFragmentedFrame = false
  begins : s.currentPacketBeginsFrame = true ∨ p.isFirstPacket = false

/-- The source behind a NAL unit: the event loop is going to call the client, or it has been called and the packet has
been released. -/
inductive After (s : H264VideoRTPSource σ) (data : List UInt8) (frames : List (List UInt8)) : Prop
  | waiting (q : BufferedPacket σ) (here : Aggregated s q data) (more : data ≠ []) (needs : s.needDelivery = false)
      (scheduled : s.scheduled = true) (handed : taken s ++ [s.frame] = frames)
  | done (used : data = []) (empty : s.reorderingBuffer.packets = []) (idle : s.scheduled = false)
      (handed : taken s = frames)

/-- The client's buffer is empty, and a packet of which nothing was lost is used. -/
structure Fresh (client : Nat) (s : H264VideoRTPSource σ) : Prop where
  needs : s.needDelivery = false
  frame : s.frame = []
  saved : s.savedMaxSize = client
  room : s.maxSize = client
  unitType : s.curPacketNALUnitType = 24
  completes : s.currentPacketCompletesFrame = true
  sound : s.packetLossInFragmentedFrame = false

theorem forget_eq (frame : s.frame = []) (room : s.maxSize = s.savedMaxSize) : s.forget = s := by
  cases s
  cases frame
  cases room
  rfl

/-- There is nothing to forget. -/
theorem Fresh.noteLoss (fresh : Fresh client s) (begins : s.currentPacketBeginsFrame = true ∨ loss = false) :
    s.noteLoss loss = s := by
  obtain ⟨-, frame, saved, room, -, -, sound⟩ := fresh
  have forgotten : s.forget = s := forget_eq frame (room.trans saved.symm)
  have kept : { s with packetLossInFragmentedFrame := false } = s := by rw [← sound]
  unfold H264VideoRTPSource.noteLoss
  dsimp only
  by_cases first : s.currentPacketBeginsFrame = true
  · rw [if_pos first, forgotten, ite_self]
    exact kept
  · rw [if_neg first, begins.resolve_left first]
    rfl

/-- **One NAL unit** of the packet. -/
theorem Fresh.usePacket (fresh : Fresh client s) (pos : 0 < client) (packets : s.reorderingBuffer.packets = [p'])
    (holds : Holds p (sized nal ++ rest)) (nonempty : nal ≠ []) (small : nal.length < 2 ^ 16)
    (expected : p.rtpSeqNo = s.reorderingBuffer.nextExpectedSeqNo)
    (begins : s.currentPacketBeginsFrame = true ∨ p.isFirstPacket = false)
    (begins' : s.currentPacketBeginsFrame = true ∨ loss = false) :
    ∃ t, s.usePacket N client p loss = .ok t ∧ After t rest (taken s ++ [nal.take client]) := by
  obtain ⟨truncated, q, used, holds', number, first, count⟩ :=
    use_sized holds small client s.numTruncatedBytes
  have some : 0 < ((s.took p (nal.take client) truncated).frame).length := by
    show 0 < (s.frame ++ nal.take client).length
    have length := List.length_pos_iff.2 nonempty
    rw [fresh.frame, List.nil_append, List.length_take]
    omega
  unfold H264VideoRTPSource.usePacket
  rw [fresh.noteLoss begins']
  dsimp only
  rw [if_neg (by simp [fresh.sound]), fresh.unitType, fresh.room, used, ok_bind]
  refine ⟨_, rfl, ?_⟩
  dsimp only
  have frame : s.frame ++ nal.take client = nal.take client := by rw [fresh.frame, List.nil_append]
  by_cases more : rest = []
  · have released : (s.took p (nal.take client) truncated).putBack N q =
        (s.took p (nal.take client) truncated).releaseUsedPacket N q :=
      if_neg (mt (hasUsableData_iff holds').1 (not_not.2 more))
    have empty : ((s.took p (nal.take client) truncated).releaseUsedPacket N q).reorderingBuffer.packets = [] := by
      show s.reorderingBuffer.packets.tail = []
      rw [packets, List.tail_cons]
    rw [released, complete, if_pos ⟨fresh.completes, some⟩, if_pos (List.isEmpty_iff.2 empty)]
    refine .done more empty rfl ?_
    show (s.delivered ++ [_]).map Delivered.frame = _
    rw [List.map_append]
    exact congrArg (fun frame => taken s ++ [frame]) frame
  · have kept : (s.took p (nal.take client) truncated).putBack N q = { s.took p (nal.take client) truncated with
        reorderingBuffer := { s.reorderingBuffer with packets := [q] } } := by
      unfold putBack
      rw [if_pos ((hasUsableData_iff holds').2 more)]
      show _ = _
      rw [show (s.took p (nal.take client) truncated).reorderingBuffer = s.reorderingBuffer from rfl, packets]
      rfl
    rw [kept, complete, if_pos ⟨fresh.completes, some⟩, if_neg (by simp)]
    refine .waiting q ⟨rfl, number.trans expected, ?_, holds', fresh.unitType, fresh.completes, fresh.sound,
      ?_⟩ more fresh.needs rfl ?_
    · rw [count]
      exact Nat.succ_ne_zero _
    · rw [first]
      exact begins
    · exact congrArg (fun frame => taken s ++ [frame]) frame

/-- Of a stray byte nothing is taken: the packet is where it was, and wanted again. -/
theorem Fresh.usePacket_stray (fresh : Fresh client s) (packets : s.reorderingBuffer.packets = [p']) {byte : UInt8}
    (holds : Holds p [byte]) (begins : s.currentPacketBeginsFrame = true ∨ loss = false) :
    s.usePacket N client p loss = .ok { s.took p [] 0 with
      reorderingBuffer := { s.reorderingBuffer with packets := [{ p with useCount := p.useCount + 1 }] }
      maxSize := s.maxSize, needDelivery := true } := by
  have usable : ({ p with useCount := p.useCount + 1 } : BufferedPacket σ).hasUsableData = true :=
    (hasUsableData_iff holds).2 (List.cons_ne_nil _ _)
  have kept : (s.took p [] 0).putBack N { p with useCount := p.useCount + 1 } = { s.took p [] 0 with
      reorderingBuffer := { s.reorderingBuffer with packets := [{ p with useCount := p.useCount + 1 }] } } := by
    unfold putBack
    rw [if_pos usable]
    show _ = _
    rw [show (s.took p [] 0).reorderingBuffer = s.reorderingBuffer from rfl, packets]
    rfl
  unfold H264VideoRTPSource.usePacket
  rw [fresh.noteLoss begins]
  dsimp only
  rw [if_neg (by simp [fresh.sound]), fresh.unitType, use_stray holds, ok_bind]
  dsimp only
  rw [kept, complete, if_neg]
  · rfl
  · rintro ⟨-, some⟩
    exact absurd some (by simp [took, fresh.frame])

section Loop

variable [DecidableEq σ]

theorem next_of_expected {r : ReorderingPacketBuffer σ} (packets : r.packets = [p])
    (expected : p.rtpSeqNo = r.nextExpectedSeqNo) (timeNow : Int) :
    r.getNextCompletedPacket timeNow = some ((p, p.isFirstPacket), r) := by
  unfold ReorderingPacketBuffer.getNextCompletedPacket
  rw [packets]
  dsimp only
  rw [if_pos expected]

/-- The loop ends behind a NAL unit. -/
theorem After.loop (after : After s data frames) (timeNow : Int) :
    doGetNextFrame1 N client (fuel + 1) s timeNow = .ok s := by
  unfold doGetNextFrame1
  cases after with
  | waiting q here more needs =>
    rw [if_neg (by simp [needs])]
    rfl
  | done used empty =>
    split
    · simp only [ReorderingPacketBuffer.getNextCompletedPacket, empty]
      rfl
    · rfl

omit [DecidableEq σ] in
/-- A packet that has been used before. -/
theorem Aggregated.round (here : Aggregated s p data) (client : Nat) (loss : Bool) :
    H264VideoRTPSource.round N client s p loss = { s with needDelivery := false }.usePacket N client p loss := by
  unfold H264VideoRTPSource.round
  dsimp only
  rw [if_neg here.used]

/-- **The event loop's task** hands over the NAL unit that waits and takes the next one. -/
theorem After.task (after : After s (sized nal ++ rest) frames) (pos : 0 < client) (nonempty : nal ≠ [])
    (small : nal.length < 2 ^ 16) (timeNow : Int) :
    ∃ t, runTask N client (fuel + 2) s timeNow = .ok t ∧ After t rest (frames ++ [nal.take client]) := by
  cases after with
  | done used => cases used
  | waiting q here more needs scheduled handed =>
    have aggregated : Aggregated (s.afterGetting client) q (sized nal ++ rest) :=
      ⟨here.packets, here.expected, here.used, here.holds, here.unitType, here.completes, here.sound, here.begins⟩
    have fresh : Fresh client { s.afterGetting client with needDelivery := false } :=
      ⟨rfl, rfl, rfl, rfl, here.unitType, here.completes, here.sound⟩
    obtain ⟨t, ran, after⟩ := @Fresh.usePacket _ N _ _ q q _ _ q.isFirstPacket fresh pos here.packets here.holds
      nonempty small here.expected here.begins here.begins
    have all : taken { s.afterGetting client with needDelivery := false } = frames := by
      rw [← handed]
      exact List.map_append
    rw [all] at after
    refine ⟨t, ?_, after⟩
    unfold runTask
    rw [if_pos scheduled]
    unfold doGetNextFrame1
    have wanted : (s.afterGetting client).needDelivery = true := rfl
    rw [if_pos wanted, next_of_expected aggregated.packets aggregated.expected]
    dsimp only
    rw [aggregated.round, ran, ok_bind]
    exact after.loop timeNow

/-- **The loop never ends** over a stray byte. -/
theorem Aggregated.never_ends {byte : UInt8} (here : Aggregated s p [byte]) (needs : s.needDelivery = true)
    (frame : s.frame = []) (saved : s.savedMaxSize = client) (room : s.maxSize = client) (fuel : Nat) (timeNow : Int) :
    doGetNextFrame1 N client fuel s timeNow = .error .fuel := by
  induction fuel generalizing s p with
  | zero => rfl
  | succ fuel ih =>
    have fresh : Fresh client { s with needDelivery := false } :=
      ⟨rfl, frame, saved, room, here.unitType, here.completes, here.sound⟩
    unfold doGetNextFrame1
    rw [if_pos needs, next_of_expected here.packets here.expected]
    dsimp only
    rw [here.round, @Fresh.usePacket_stray _ N _ _ p p p.isFirstPacket fresh here.packets byte here.holds here.begins,
      ok_bind]
    have holds : Holds { p with useCount := p.useCount + 1 } [byte] :=
      ⟨here.holds.data, here.holds.ordered, here.holds.inside⟩
    refine ih (p := { p with useCount := p.useCount + 1 }) ⟨rfl, here.expected, Nat.succ_ne_zero _, holds,
      here.unitType, here.completes, here.sound, here.begins⟩ rfl ?_ saved room
    show s.frame ++ [] = []
    rw [frame, List.append_nil]

theorem After.never_ends {byte : UInt8} (after : After s [byte] frames) (fuel : Nat) (timeNow : Int) :
    runTask N client fuel s timeNow = .error .fuel := by
  cases after with
  | done used => cases used
  | waiting q here more needs scheduled =>
    have aggregated : Aggregated (s.afterGetting client) q [byte] :=
      ⟨here.packets, here.expected, here.used, here.holds, here.unitType, here.completes, here.sound, here.begins⟩
    unfold runTask
    rw [if_pos scheduled]
    exact aggregated.never_ends rfl rfl rfl rfl fuel timeNow

end Loop

/-! ## The packet comes in -/

/-- The client waits, the last packet ended its NAL unit, and nothing has been lost of a NAL unit in pieces. -/
structure Waits (client : Nat) (s : H264VideoRTPSource σ) : Prop where
  needs : s.needDelivery = true
  frame : s.frame = []
  saved : s.savedMaxSize = client
  room : s.maxSize = client
  completes : s.currentPacketCompletesFrame = true
  sound : s.packetLossInFragmentedFrame = false

theorem waits_playing (thresholdTime client : Nat) (nextExpectedSeqNo : σ) :
    Waits client (playing thresholdTime client nextExpectedSeqNo) :=
  ⟨rfl, rfl, rfl, rfl, rfl, rfl⟩

theorem processSpecialHeader_aggregation {header : UInt8} (holds : Holds p (header :: data))
    (aggregation : header &&& 0x1F = 24) :
    s.processSpecialHeader p = (true, { s with curPacketNALUnitType := 24 }, p.skip 1) := by
  unfold processSpecialHeader
  rw [holds.data]
  dsimp only
  rw [aggregation, if_pos rfl]

/-- The packet is used for the first time. -/
theorem Waits.first [DecidableEq σ] (waits : Waits client s) (pos : 0 < client)
    (packets : s.reorderingBuffer.packets = [p]) (expected : p.rtpSeqNo = s.reorderingBuffer.nextExpectedSeqNo)
    {header : UInt8} (holds : Holds p (header :: (sized nal ++ rest))) (aggregation : header &&& 0x1F = 24)
    (unused : p.useCount = 0) (begins : s.currentPacketBeginsFrame = true ∨ p.isFirstPacket = false)
    (nonempty : nal ≠ []) (small : nal.length < 2 ^ 16) (timeNow : Int) :
    ∃ t, doGetNextFrame1 N client (fuel + 2) s timeNow = .ok t ∧ After t rest (taken s ++ [nal.take client]) := by
  have begun : Holds (p.skip 1) (sized nal ++ rest) := holds.skip (Nat.succ_le_succ (Nat.zero_le _))
  have fresh : Fresh client { s with needDelivery := false, curPacketNALUnitType := 24 } :=
    ⟨rfl, waits.frame, waits.saved, waits.room, rfl, waits.completes, waits.sound⟩
  obtain ⟨t, ran, after⟩ := @Fresh.usePacket _ N _ _ (p.skip 1) p _ _ p.isFirstPacket fresh pos packets begun nonempty
    small expected begins begins
  refine ⟨t, ?_, after⟩
  have ran' : H264VideoRTPSource.round N client s p p.isFirstPacket = .ok t := by
    unfold H264VideoRTPSource.round
    dsimp only
    rw [if_pos unused, processSpecialHeader_aggregation holds aggregation]
    exact ran
  unfold doGetNextFrame1
  rw [if_pos waits.needs, next_of_expected packets expected]
  dsimp only
  rw [ran', ok_bind]
  exact after.loop timeNow

end Source

section Received

variable {client fuel : Nat} {s : H264VideoRTPSource UInt16} {p : BufferedPacket UInt16}
  {data nal : List UInt8} {header : UInt8}

/-- The packet is the next one of its stream, or the first. -/
def Fits (s : H264VideoRTPSource UInt16) (rtpSSRC : Nat) (rtpSeqNo : UInt16) : Prop :=
  rtpSSRC = s.lastReceivedSSRC → s.reorderingBuffer.haveSeenFirstPacket = true →
    rtpSeqNo = s.reorderingBuffer.nextExpectedSeqNo

/-- The last packet was not the end of a NAL unit in pieces, or the packet is not the first of its stream: behind such
an end `doGetNextFrame1` takes the first packet of another SSRC for one with a loss before it, and drops it. -/
def Follows (s : H264VideoRTPSource UInt16) (rtpSSRC : Nat) : Prop :=
  s.currentPacketBeginsFrame = true ∨ s.reorderingBuffer.haveSeenFirstPacket = true ∧ rtpSSRC = s.lastReceivedSSRC

/-- What `noteSSRC` leaves as it is. -/
theorem noteSSRC_keeps (waits : Waits client s) (rtpSSRC : Nat) :
    Waits client (s.noteSSRC rtpSSRC) ∧ taken (s.noteSSRC rtpSSRC) = taken s ∧
      (s.noteSSRC rtpSSRC).reorderingBuffer.packets = s.reorderingBuffer.packets := by
  unfold noteSSRC
  split
  · exact ⟨⟨waits.needs, waits.frame, waits.saved, waits.room, waits.completes, waits.sound⟩, rfl, rfl⟩
  · exact ⟨waits, rfl, rfl⟩

theorem Follows.marked {rtpSSRC : Nat} (follows : Follows s rtpSSRC) (unmarked : p.isFirstPacket = false) :
    (s.noteSSRC rtpSSRC).currentPacketBeginsFrame = true ∨
      ((s.noteSSRC rtpSSRC).reorderingBuffer.marked p).isFirstPacket = false := by
  rcases follows with begins | ⟨seen, same⟩
  · left
    unfold H264VideoRTPSource.noteSSRC
    split <;> exact begins
  · right
    have kept : s.noteSSRC rtpSSRC = s := if_neg (not_not.2 same)
    rw [kept, ReorderingPacketBuffer.marked, if_pos seen]
    exact unmarked

theorem Fits.noteSSRC {rtpSSRC : Nat} {rtpSeqNo : UInt16} (fits : Fits s rtpSSRC rtpSeqNo)
    (seen : (s.noteSSRC rtpSSRC).reorderingBuffer.haveSeenFirstPacket = true) :
    rtpSeqNo = (s.noteSSRC rtpSSRC).reorderingBuffer.nextExpectedSeqNo := by
  unfold H264VideoRTPSource.noteSSRC at seen ⊢
  by_cases same : rtpSSRC = s.lastReceivedSSRC
  · rw [if_neg (not_not.2 same)] at seen ⊢
    exact fits same seen
  · rw [if_pos same] at seen
    cases seen

theorem started_nextExpectedSeqNo {r : ReorderingPacketBuffer UInt16}
    (fits : r.haveSeenFirstPacket = true → p.rtpSeqNo = r.nextExpectedSeqNo) :
    (r.started p).nextExpectedSeqNo = p.rtpSeqNo := by
  unfold ReorderingPacketBuffer.started
  split
  · rename_i seen
    exact (fits seen).symm
  · rfl

theorem storePacket_alone {r : ReorderingPacketBuffer UInt16} (empty : r.packets = [])
    (fits : r.haveSeenFirstPacket = true → p.rtpSeqNo = r.nextExpectedSeqNo) :
    r.storePacket rtp p = .ok (true, { r.started p with packets := [r.marked p] }) := by
  have due : rtp.lt p.rtpSeqNo p.rtpSeqNo = false := by simp [rtp, seqNumLT]
  rw [ReorderingPacketBuffer.storePacket_eq, started_nextExpectedSeqNo fits, due, empty]
  rfl

/-- **The first NAL unit** is taken when the packet comes in. -/
theorem Waits.received (waits : Waits client s) (pos : 0 < client) (empty : s.reorderingBuffer.packets = [])
    (holds : Holds p (header :: (sized nal ++ data))) (aggregation : header &&& 0x1F = 24) (unused : p.useCount = 0)
    (unmarked : p.isFirstPacket = false) (nonempty : nal ≠ []) (small : nal.length < 2 ^ 16) {rtpSSRC : Nat}
    (fits : Fits s rtpSSRC p.rtpSeqNo) (follows : Follows s rtpSSRC) (timeNow : Int) :
    ∃ t, received rtp client (fuel + 2) s rtpSSRC p timeNow = .ok t ∧ After t data (taken s ++ [nal.take client]) := by
  obtain ⟨waits', same, empty'⟩ := noteSSRC_keeps waits rtpSSRC
  have fits' := fits.noteSSRC
  have expected := started_nextExpectedSeqNo fits'
  rw [empty] at empty'
  rw [← same]
  unfold H264VideoRTPSource.received
  dsimp only
  rw [storePacket_alone empty' fits', ok_bind]
  have marked : Holds ((s.noteSSRC rtpSSRC).reorderingBuffer.marked p) (header :: (sized nal ++ data)) ∧
      ((s.noteSSRC rtpSSRC).reorderingBuffer.marked p).useCount = 0 := by
    unfold ReorderingPacketBuffer.marked
    split
    · exact ⟨holds, unused⟩
    · exact ⟨⟨holds.data, holds.ordered, holds.inside⟩, unused⟩
  have stored : Waits client { s.noteSSRC rtpSSRC with reorderingBuffer :=
      { (s.noteSSRC rtpSSRC).reorderingBuffer.started p with
        packets := [(s.noteSSRC rtpSSRC).reorderingBuffer.marked p] } } :=
    ⟨waits'.needs, waits'.frame, waits'.saved, waits'.room, waits'.completes, waits'.sound⟩
  exact stored.first pos rfl ((ReorderingPacketBuffer.marked_rtpSeqNo _ _).trans expected.symm) marked.1 aggregation
    marked.2 (follows.marked unmarked) nonempty small timeNow

end Received

/-! ## The turns of the event loop -/

section Turns

variable {rtpPayloadFormat client fuel : Nat} {s t : H264VideoRTPSource UInt16} {stray : List UInt8}
  {nals frames : List (List UInt8)}

/-- The packet of a datagram holds its payload. -/
theorem holds_encode (d : RtpDatagram) (behind : List UInt8) (presentationTime : Timeval) (timeReceived : Int) :
    Holds { buf := d.encode ++ behind, head := d.header.head, tail := d.header.tail
            rtpSeqNo := d.header.rtpSeqNo, presentationTime, rtpMarkerBit := d.header.rtpMarkerBit
            timeReceived } d.payload := by
  have inside := d.tail_le_length
  refine ⟨?_, Nat.le_add_right _ _, ?_⟩
  · rw [BufferedPacket.data, BufferedPacket.dataSize, ← List.drop_take, List.take_append_of_le_length inside]
    exact d.payload_encode
  · show d.header.tail ≤ (d.encode ++ behind).length
    rw [List.length_append]
    omega

/-- One NAL unit in each turn. -/
theorem After.run (after : After s (nals.flatMap sized ++ stray) frames) (pos : 0 < client)
    (each : ∀ nal ∈ nals, nal ≠ [] ∧ nal.length < 2 ^ 16) {times : List Int} (turns : times.length = nals.length) :
    ∃ t, Trace.run (step rtpPayloadFormat client (fuel + 2)) s (times.map .task) = some t ∧
      After t stray (frames ++ nals.map (List.take client)) := by
  induction nals generalizing s frames times with
  | nil =>
    obtain rfl := List.eq_nil_of_length_eq_zero turns
    exact ⟨s, rfl, (List.append_nil frames).symm ▸ after⟩
  | cons nal nals ih =>
    obtain ⟨timeNow, times, rfl⟩ := List.exists_cons_of_length_eq_add_one turns
    obtain ⟨⟨nonempty, small⟩, rest⟩ := List.forall_mem_cons.1 each
    rw [List.flatMap_cons, List.append_assoc] at after
    obtain ⟨t, ran, after'⟩ := @After.task _ rtp _ fuel _ _ _ _ _ after pos nonempty small timeNow
    obtain ⟨u, ran', after''⟩ := ih after' rest (Nat.succ.inj turns)
    refine ⟨u, Trace.run_cons.2 ⟨t, ?_, ran'⟩, ?_⟩
    · rw [step, ran]
      rfl
    · rw [List.map_cons, List.append_cons]
      exact after''

theorem step_of_received {data : List UInt8} {h : RtpHeader} (read : readHeader rtpPayloadFormat data = some h)
    {behind : List UInt8} {presentationTime : Timeval} {timeReceived timeNow : Int}
    (ran : received rtp client fuel s h.rtpSSRC
      { buf := data ++ behind, head := h.head, tail := h.tail, rtpSeqNo := h.rtpSeqNo, presentationTime
        rtpMarkerBit := h.rtpMarkerBit, timeReceived } timeNow = .ok t) :
    step rtpPayloadFormat client fuel s (.datagram data behind presentationTime timeReceived timeNow) = some t := by
  unfold step
  dsimp only
  rw [read]
  exact congrArg Except.toOption ran

/-- **An aggregation packet is taken apart**: the first NAL unit is handed over when the packet comes in, and each turn
of the event loop brings the next. With nothing behind the last one the packet is gone then and the client has them all.
With one byte behind it the next turn does not end before the packet's use count, of 32 bits, has come round. -/
theorem handed_one_by_one (waits : Waits client s) (empty : s.reorderingBuffer.packets = []) (pos : 0 < client)
    (fueled : 2 ≤ fuel) (d : RtpDatagram) (format : d.rtpPayloadType.val = rtpPayloadFormat)
    (fits : Fits s d.rtpSSRC.toNat d.rtpSeqNo) (follows : Follows s d.rtpSSRC.toNat) {header : UInt8}
    (aggregation : header &&& 0x1F = 24) (several : nals ≠ []) (each : ∀ nal ∈ nals, nal ≠ [] ∧ nal.length < 2 ^ 16)
    (payload : d.payload = header :: (nals.flatMap sized ++ stray)) (behind : List UInt8) (presentationTime : Timeval)
    (timeReceived timeNow : Int) {times : List Int} (turns : times.length + 1 = nals.length) :
    ∃ t, Trace.run (step rtpPayloadFormat client fuel) s
        (.datagram d.encode behind presentationTime timeReceived timeNow :: times.map .task) = some t ∧
      (stray = [] →
        t.delivered.map Delivered.frame = s.delivered.map Delivered.frame ++ nals.map (List.take client) ∧
          t.reorderingBuffer.packets = [] ∧ t.scheduled = false) ∧
      (stray.length = 1 →
        t.delivered.map Delivered.frame ++ [t.frame] =
            s.delivered.map Delivered.frame ++ nals.map (List.take client) ∧
          ∀ rounds time, nals.length + rounds ≤ 2 ^ 32 → runTask rtp client rounds t time = .error .fuel) := by
  obtain ⟨fuel, rfl⟩ := Nat.exists_eq_add_of_le' fueled
  obtain ⟨nal, nals, rfl⟩ := List.exists_cons_of_ne_nil several
  obtain ⟨⟨nonempty, small⟩, rest⟩ := List.forall_mem_cons.1 each
  have holds := holds_encode d behind presentationTime timeReceived
  rw [payload, List.flatMap_cons, List.append_assoc] at holds
  obtain ⟨t, ran, after⟩ := @Waits.received _ fuel _ _ _ _ _ waits pos empty holds aggregation rfl rfl
    nonempty small d.header.rtpSSRC fits follows timeNow
  obtain ⟨u, ran', after'⟩ := @After.run rtpPayloadFormat _ fuel _ _ _ _ after pos rest _ (Nat.succ.inj turns)
  rw [List.append_assoc, List.singleton_append, ← List.map_cons] at after'
  refine ⟨u, Trace.run_cons.2 ⟨t, ?_, ran'⟩, ?_, ?_⟩
  · subst format
    exact step_of_received d.readHeader_encode ran
  · rintro rfl
    cases after' with
    | waiting q here more => exact absurd rfl more
    | done used gone idle handed => exact ⟨handed, gone, idle⟩
  · intro one
    obtain ⟨byte, rfl⟩ := List.length_eq_one_iff.1 one
    cases after' with
    | done used => cases used
    | waiting q here more needs scheduled handed =>
      exact ⟨handed, fun rounds time _ => (After.waiting q here more needs scheduled handed).never_ends rounds time⟩

end Turns

/-- Two NAL units and a byte behind them, in a datagram with a contributing source and a header extension. -/
def strayByte : RtpDatagram where
  rtpMarkerBit := true
  rtpPayloadType := ⟨96, by decide⟩
  rtpSeqNo := 7
  rtpTimestamp := 0
  rtpSSRC := 1
  csrcs := [5]
  extension := some (0xBEDE, [0])
  payload := 24 :: ([[0x67], [0x68, 1]].flatMap sized ++ [9])
  padding := none
  csrcs_length := by decide
  extension_length _ mem := by
    cases mem
    decide
  padding_count _ mem := by cases mem

theorem handed_one_by_one_stray : ∃ t,
    Trace.run (step 96 100 2) (playing 3000000 100 0) [.datagram strayByte.encode [] ⟨0, 0⟩ 0 0, .task 0] = some t ∧
      t.delivered.map Delivered.frame ++ [t.frame] = [[0x67], [0x68, 1]] ∧
      ∀ rounds time, 2 + rounds ≤ 2 ^ 32 → runTask rtp 100 rounds t time = .error .fuel := by
  obtain ⟨t, ran, -, stray⟩ := @handed_one_by_one 96 100 2 (playing 3000000 100 0) [9] [[0x67], [0x68, 1]]
    (waits_playing 3000000 100 0) rfl (by decide) (by decide) strayByte rfl (fun same _ => absurd same (by decide))
    (.inl rfl) 24 (by decide) (by decide) (by decide) rfl [] ⟨0, 0⟩ 0 0 [0] rfl
  exact ⟨t, ran, stray rfl⟩

end H264VideoRTPSource

end CameraEv
