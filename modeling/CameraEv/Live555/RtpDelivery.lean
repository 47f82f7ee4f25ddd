import CameraEv.Live555.H264Reassembly
import CameraEv.Live555.H264Sink

/-!
# From the sender's packets to frames

A run of the source on datagrams goes step by step with one on the numbers that the
sender's packets have without wrapping (`Carries`). What the client is handed in any
such run is `Sender.units` of the packets that the source has taken.
-/

namespace CameraEv

open Exec SerialNumber Trace

namespace H264VideoRTPSource

/-- What happens to the source, with the packets as the sender counts them. -/
inductive Event where
  | packet (rtpSSRC : Nat) (p : BufferedPacket Nat) (timeNow : Int)
  /-- A datagram that is not a packet of the stream. -/
  | nothing (timeNow : Int)
  | task (timeNow : Int)

def stepUnbounded (client fuel : Nat) (s : H264VideoRTPSource Nat) : Event → Option (H264VideoRTPSource Nat)
  | .packet rtpSSRC p timeNow => (received unbounded client fuel s rtpSSRC p timeNow).toOption
  | .nothing timeNow => (doGetNextFrame1 unbounded client fuel s timeNow).toOption
  | .task timeNow => (runTask unbounded client fuel s timeNow).toOption

/-- The input is that event: the number in the header is what 16 bits leave of `first + i`. -/
inductive Carries (rtpPayloadFormat first : Nat) : Input → Event → Prop
  | packet {data behind presentationTime timeReceived timeNow h i} (checked : readHeader rtpPayloadFormat data = some h)
      (number : h.rtpSeqNo = UInt16.ofNat (first + i)) :
      Carries rtpPayloadFormat first (.datagram data behind presentationTime timeReceived timeNow)
        (.packet h.rtpSSRC { buf := data ++ behind, head := h.head, tail := h.tail, rtpSeqNo := i, presentationTime
                             rtpMarkerBit := h.rtpMarkerBit, timeReceived } timeNow)
  | rejected {data behind presentationTime timeReceived timeNow} (checked : readHeader rtpPayloadFormat data = none) :
      Carries rtpPayloadFormat first (.datagram data behind presentationTime timeReceived timeNow) (.nothing timeNow)
  | task {timeNow} : Carries rtpPayloadFormat first (.task timeNow) (.task timeNow)

/-- The packets are the sender's, of one stream. -/
def Sent (sender : Sender) (rtpSSRC : Nat) : Event → Prop
  | .packet ssrc p _ => ssrc = rtpSSRC ∧ Genuine sender p ∧ p.isFirstPacket = false
  | _ => True

/-- The packet arrives less than half a turn of numbers away from the one that is expected. -/
def OnTime (s : H264VideoRTPSource Nat) : Event → Prop
  | .packet _ p _ => s.reorderingBuffer.Timely 0x8000 p.rtpSeqNo
  | _ => True

instance (s : H264VideoRTPSource Nat) : ∀ e, Decidable (OnTime s e)
  | .packet _ p _ => inferInstanceAs (Decidable (s.reorderingBuffer.Timely 0x8000 p.rtpSeqNo))
  | .nothing _ | .task _ => inferInstanceAs (Decidable True)

section Step

variable {sender : Sender} {client fuel format first rtpSSRC : Nat} {s u : H264VideoRTPSource Nat} {timeNow : Int}

/-- The loop does not look at the stream. -/
theorem stream_of_loop (ran : doGetNextFrame1 unbounded client fuel s timeNow = .ok u) :
    u.lastReceivedSSRC = s.lastReceivedSSRC ∧
      u.reorderingBuffer.haveSeenFirstPacket = s.reorderingBuffer.haveSeenFirstPacket := by
  induction fuel generalizing s with
  | zero => cases ran
  | succ fuel ih =>
    unfold doGetNextFrame1 at ran
    split at ran
    · split at ran
      · cases ran
        exact ⟨rfl, rfl⟩
      · rename_i p loss r next
        obtain ⟨t, moved, ran⟩ := bind_eq_ok.1 ran
        obtain ⟨ssrc, seen⟩ := ih ran
        have given := (ReorderingPacketBuffer.getNextCompletedPacket_spec next).given
        obtain ⟨advanced, same⟩ := advanced_of_round moved
        refine ⟨ssrc.trans same, seen.trans ?_⟩
        cases advanced with
        | released buffer => rw [buffer, given]; rfl
        | stays _ buffer => rw [buffer, given]
    · cases ran
      exact ⟨rfl, rfl⟩

/-- What every step keeps. -/
structure RunInv (sender : Sender) (client rtpSSRC : Nat) (s : H264VideoRTPSource Nat) : Prop where
  inv : Inv sender client 0x8000 s
  stream : s.SameStream rtpSSRC

/-- One step, on either numbers. -/
theorem RunInv.step (inv : RunInv sender client rtpSSRC s) (pos : 0 < client) (fueled : 0x8000 < fuel)
    (plain : ∀ i nals, sender.piece i ≠ .aggregate nals) {e : Event} (sent : Sent sender rtpSSRC e) (onTime : OnTime s e) :
    ∃ u, stepUnbounded client fuel s e = some u ∧ RunInv sender client rtpSSRC u ∧
      ∀ i, Carries format first i e →
        step format client fuel (s.map fun i => UInt16.ofNat (first + i)) i =
          some (u.map fun i => UInt16.ofNat (first + i)) := by
  have rep := rtp_represents.shift first
  have loops {t : H264VideoRTPSource Nat} (inv : RunInv sender client rtpSSRC t) (timeNow : Int) :
      ∃ u, doGetNextFrame1 unbounded client fuel t timeNow = .ok u ∧ RunInv sender client rtpSSRC u := by
    obtain ⟨u, ran, inv'⟩ := inv.inv.loop pos plain (inv.inv.window.length_le.trans_lt fueled) timeNow
    obtain ⟨ssrc, seen⟩ := stream_of_loop ran
    refine ⟨u, ran, inv', fun first => ?_⟩
    rw [ssrc]
    exact inv.stream (seen ▸ first)
  cases e with
  | packet ssrc p timeNow =>
    obtain ⟨rfl, genuine, fresh⟩ := sent
    obtain ⟨kept, r, stored, inv', seen⟩ := inv.inv.stored inv.stream onTime (by decide) genuine fresh
    have stream : SameStream { s.noteSSRC ssrc with reorderingBuffer := r } ssrc := by
      intro _
      rw [inv.stream.noteSSRC]
    obtain ⟨u, ran, inv''⟩ := loops ⟨inv', stream⟩ timeNow
    have whole : received unbounded client fuel s ssrc p timeNow = .ok u := by
      unfold received
      dsimp only
      rw [stored, ok_bind]
      exact ran
    refine ⟨u, by rw [stepUnbounded, whole]; rfl, inv'', fun i carries => ?_⟩
    cases carries with
    | packet checked number =>
      have same : received rtp client fuel _ _ _ timeNow = _ :=
        received_map rep inv.inv.window inv.stream onTime (by decide)
      rw [whole] at same
      unfold H264VideoRTPSource.step
      simp only [checked, number]
      exact congrArg Except.toOption same
  | nothing timeNow =>
    obtain ⟨u, ran, inv'⟩ := loops inv timeNow
    refine ⟨u, by rw [stepUnbounded, ran]; rfl, inv', fun i carries => ?_⟩
    cases carries with
    | rejected checked =>
      have same : doGetNextFrame1 rtp client fuel _ timeNow = _ := doGetNextFrame1_map rep inv.inv.window
      rw [ran] at same
      unfold H264VideoRTPSource.step
      simp only [checked]
      exact congrArg Except.toOption same
  | task timeNow =>
    obtain ⟨u, ran, inv'⟩ : ∃ u, runTask unbounded client fuel s timeNow = .ok u ∧ RunInv sender client rtpSSRC u := by
      unfold runTask
      by_cases scheduled : s.scheduled = true
      · rw [if_pos scheduled]
        exact loops ⟨inv.inv.afterGetting scheduled, inv.stream⟩ timeNow
      · rw [if_neg scheduled]
        exact ⟨s, rfl, inv⟩
    refine ⟨u, by rw [stepUnbounded, ran]; rfl, inv', fun i carries => ?_⟩
    cases carries
    have same : runTask rtp client fuel _ timeNow = _ := runTask_map rep inv.inv.window
    rw [ran] at same
    exact congrArg Except.toOption same

/-- A run on datagrams and the run on the sender's numbers. -/
theorem RunInv.run (inv : RunInv sender client rtpSSRC s) (pos : 0 < client) (fueled : 0x8000 < fuel)
    (plain : ∀ i nals, sender.piece i ≠ .aggregate nals) {inputs : List Input} {events : List Event}
    (carries : List.Forall₂ (Carries format first) inputs events)
    (sent : ∀ e ∈ events, Sent sender rtpSSRC e) (onTime : Along (stepUnbounded client fuel) OnTime s events) :
    ∃ u, Trace.run (stepUnbounded client fuel) s events = some u ∧ RunInv sender client rtpSSRC u ∧
      Trace.run (H264VideoRTPSource.step format client fuel) (s.map fun i => UInt16.ofNat (first + i)) inputs =
        some (u.map fun i => UInt16.ofNat (first + i)) := by
  induction carries generalizing s with
  | nil => exact ⟨s, rfl, inv, rfl⟩
  | cons same _ ih =>
    obtain ⟨here, rest⟩ := onTime
    obtain ⟨t, moved, inv', simulates⟩ := inv.step pos fueled plain (sent _ List.mem_cons_self) here
    simp only [moved] at rest
    obtain ⟨u, ran, inv'', ran'⟩ := ih inv' (fun e mem => sent e (List.mem_cons_of_mem _ mem)) rest
    exact ⟨u, run_cons.2 ⟨t, moved, ran⟩, inv'', run_cons.2 ⟨_, simulates _ same, ran'⟩⟩

end Step

/-- **What the client is handed under any loss, duplication and reordering**: as the source takes packets in the order
of their numbers, each at most once, the NAL units of which it took every packet come out whole, in order, and with the
marker bit of their last packet. Nothing else comes out. -/
theorem whole_units_in_order (sender : Sender) (plain : ∀ i nals, sender.piece i ≠ .aggregate nals)
    (rtpPayloadFormat rtpSSRC first thresholdTime nextExpectedSeqNo : Nat) {client fuel : Nat} (pos : 0 < client)
    (fueled : 0x8000 < fuel) {inputs : List Input} {events : List Event}
    (carries : List.Forall₂ (Carries rtpPayloadFormat first) inputs events) (sent : ∀ e ∈ events, Sent sender rtpSSRC e)
    (onTime : Along (stepUnbounded client fuel) OnTime (playing thresholdTime client nextExpectedSeqNo) events) :
    ∃ t u, run (step rtpPayloadFormat client fuel)
        (playing thresholdTime client (UInt16.ofNat (first + nextExpectedSeqNo))) inputs = some t ∧
      run (stepUnbounded client fuel) (playing thresholdTime client nextExpectedSeqNo) events = some u ∧
      t = u.map (fun i => UInt16.ofNat (first + i)) ∧ u.released.Pairwise (· < ·) ∧
      u.handed = (sender.units u.released).map fun unit => (unit.1.take client, unit.2) := by
  have start : RunInv sender client rtpSSRC (playing thresholdTime client nextExpectedSeqNo) :=
    ⟨inv_playing sender thresholdTime client 0x8000 nextExpectedSeqNo, fun seen => nomatch seen⟩
  obtain ⟨u, ran, inv, ran'⟩ := start.run pos fueled plain carries sent onTime
  exact ⟨_, u, ran', ran, rfl, inv.inv.progress.increasing, inv.inv.handed⟩

/-! ## A sender's datagrams -/

/-- The packet as the sender sends it. -/
def Sender.datagram (sender : Sender) (rtpPayloadType : Fin 128) (rtpSSRC : UInt32) (first : Nat) (i : Nat) : RtpDatagram where
  rtpMarkerBit := sender.marker i
  rtpPayloadType := rtpPayloadType
  rtpSeqNo := UInt16.ofNat (first + i)
  rtpTimestamp := 0
  rtpSSRC := rtpSSRC
  csrcs := []
  extension := none
  payload := (sender.piece i).payload
  padding := none
  csrcs_length := by decide
  extension_length := fun _ mem => nomatch mem
  padding_count := fun _ mem => nomatch mem

/-- A datagram of the sender comes in, with `behind` in the rest of the packet's memory. -/
structure Arrival where
  number : Nat
  behind : List UInt8 := []
  presentationTime : Timeval := ⟨0, 0⟩
  timeReceived : Int
  timeNow : Int

section Arrivals

variable (sender : Sender) (rtpPayloadType : Fin 128) (rtpSSRC : UInt32) (first : Nat) (a : Arrival)

def Sender.input : Input :=
  .datagram (sender.datagram rtpPayloadType rtpSSRC first a.number).encode a.behind a.presentationTime a.timeReceived
    a.timeNow

def Sender.event : Event :=
  let d := sender.datagram rtpPayloadType rtpSSRC first a.number
  .packet d.header.rtpSSRC
    { buf := d.encode ++ a.behind, head := d.header.head, tail := d.header.tail, rtpSeqNo := a.number
      presentationTime := a.presentationTime, rtpMarkerBit := d.header.rtpMarkerBit, timeReceived := a.timeReceived }
    a.timeNow

theorem Sender.carries : Carries rtpPayloadType first (sender.input rtpPayloadType rtpSSRC first a)
    (sender.event rtpPayloadType rtpSSRC first a) :=
  .packet (sender.datagram rtpPayloadType rtpSSRC first a.number).readHeader_encode rfl

theorem Sender.sent : Sent sender rtpSSRC.toNat (sender.event rtpPayloadType rtpSSRC first a) := by
  refine ⟨rfl, ⟨⟨?_, Nat.le_add_right _ _, ?_⟩, rfl, rfl⟩, rfl⟩
  · have payload := (sender.datagram rtpPayloadType rtpSSRC first a.number).payload_encode
    have inside := (sender.datagram rtpPayloadType rtpSSRC first a.number).tail_le_length
    rw [← List.take_append_of_le_length inside, List.drop_take] at payload
    exact payload
  · have inside := (sender.datagram rtpPayloadType rtpSSRC first a.number).tail_le_length
    exact inside.trans (by simp)

end Arrivals

/-- A NAL unit of one packet, one of two and one of three, and then units of one packet. -/
def exampleSender : Sender where
  piece
    | 1 => .fragment [0x65, 1, 2, 3] 1 2
    | 2 => .fragment [0x65, 1, 2, 3] 2 4
    | 3 => .fragment [0x41, 4, 5, 6] 1 2
    | 4 => .fragment [0x41, 4, 5, 6] 2 3
    | 5 => .fragment [0x41, 4, 5, 6] 3 4
    | _ => .whole [0x41, 7]
  marker i := i != 1
  valid i := by
    split <;> simp [Piece.Valid, header]
    decide
  starts := rfl
  follows i := by
    match i with
    | 0 | 1 | 2 | 3 | 4 | 5 => simp [Piece.Follows, Piece.begins]
    | i + 6 => rfl

theorem exampleSender_plain (i : Nat) (nals : List (List UInt8)) : exampleSender.piece i ≠ .aggregate nals := by
  simp only [exampleSender]
  split <;> exact Piece.noConfusion

/-- The number wraps; the second packet is overtaken, the third one comes twice, the fifth one is lost, and given up
when the last one comes. -/
def exampleArrivals : List Arrival :=
  [⟨0, [], ⟨0, 0⟩, 0, 0⟩, ⟨2, [], ⟨0, 0⟩, 10, 10⟩, ⟨1, [], ⟨0, 0⟩, 20, 20⟩, ⟨2, [], ⟨0, 0⟩, 30, 30⟩,
    ⟨3, [], ⟨0, 0⟩, 40, 40⟩, ⟨5, [], ⟨0, 0⟩, 50, 50⟩, ⟨6, [], ⟨0, 0⟩, 60, 3200000⟩]

/-- Of the third NAL unit a packet is lost; the others are handed over. -/
theorem whole_units_in_order_wrapped : ∃ t,
    run (step 96 100 40000) (playing 3000000 100 (UInt16.ofNat (65534 + 0)))
        (exampleArrivals.map (exampleSender.input 96 7 65534)) = some t ∧
      t.released = [65534, 65535, 0, 1, 3, 4] ∧
      t.delivered.map (fun d => (d.frame, d.curPacketMarkerBit)) =
        [([0x41, 7], true), ([0x65, 1, 2, 3], true), ([0x41, 7], true)] := by
  have carries : List.Forall₂ (Carries 96 65534) (exampleArrivals.map (exampleSender.input 96 7 65534))
      (exampleArrivals.map (exampleSender.event 96 7 65534)) := by
    rw [List.forall₂_map_left_iff, List.forall₂_map_right_iff, List.forall₂_same]
    exact fun a _ => exampleSender.carries 96 7 65534 a
  obtain ⟨t, u, ran, ran', rfl, -, handed⟩ := @whole_units_in_order exampleSender exampleSender_plain 96 7 65534 3000000
    0 100 40000 (by decide) (by decide) _ _ carries
    (List.forall_mem_map.2 fun a _ => exampleSender.sent 96 7 65534 a) (by decide +kernel)
  obtain ⟨released, idle⟩ : u.released = [0, 1, 2, 3, 5, 6] ∧ u.scheduled = false := by
    have computed : (run (stepUnbounded 100 40000) (playing 3000000 100 0)
        (exampleArrivals.map (exampleSender.event 96 7 65534))).map (fun s => (s.released, s.scheduled)) =
          some ([0, 1, 2, 3, 5, 6], false) := by decide +kernel
    rw [ran'] at computed
    exact Prod.mk.inj (Option.some.inj computed)
  rw [released, H264VideoRTPSource.handed, if_neg (by simp [idle]), List.append_nil] at handed
  refine ⟨_, ran, ?_, handed.trans (by decide)⟩
  show u.released.map _ = _
  rw [released]
  decide

end H264VideoRTPSource

end CameraEv
