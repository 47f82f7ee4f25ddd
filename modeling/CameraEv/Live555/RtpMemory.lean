import CameraEv.Live555.H264VideoRTPSource

/-!
# What a datagram can make the source read and write

Whoever sends to the port decides what is in the datagrams. The size that an
aggregation packet gives for a NAL unit is checked against what is left of the
packet with the size field itself, so that up to six bytes behind the packet are
taken for the NAL unit's. Where these are in the packet's memory, no datagram makes
the source read outside of it, and none makes it write behind the client's buffer.
-/

namespace CameraEv

open Exec SerialNumber

namespace H264VideoRTPSource

/-- The value has the property, or the fuel has run out. -/
def EndsWell {α : Type} (P : α → Prop) : Exec α → Prop
  | .ok a => P a
  | .error stop => stop = .fuel

/-- The packet has six bytes of its memory behind it. -/
structure Roomy {σ : Type} (p : BufferedPacket σ) : Prop where
  ordered : p.head ≤ p.tail
  behind : p.tail + 6 ≤ p.buf.length

/-- What is written into the client's buffer stays inside of it, now and with the next packet. -/
structure Safe {σ : Type} (client : Nat) (s : H264VideoRTPSource σ) : Prop where
  packets : ∀ p ∈ s.reorderingBuffer.packets, Roomy p
  saved : s.savedMaxSize = client
  frame : s.frame.length ≤ client
  room : s.needDelivery = true → s.frame.length + s.maxSize ≤ client
  delivered : ∀ d ∈ s.delivered, d.frame.length ≤ client

/-- In a round, before the packet is used. -/
structure Using {σ : Type} (client : Nat) (s : H264VideoRTPSource σ) : Prop where
  packets : ∀ p ∈ s.reorderingBuffer.packets, Roomy p
  saved : s.savedMaxSize = client
  needs : s.needDelivery = false
  room : s.frame.length + s.maxSize ≤ client
  delivered : ∀ d ∈ s.delivered, d.frame.length ≤ client

section Packet

variable {σ : Type} {p q : BufferedPacket σ}

/-- A size of the data, of a NAL unit that begins at most six bytes into them. -/
def Within (length : Nat) (next : Nat × Nat) : Prop := next.1 ≤ 6 ∧ next.2 ≤ length

theorem within_zero (length : Nat) : Within length (0, 0) := ⟨Nat.zero_le _, Nat.zero_le _⟩

/-- Behind a header the size that is declared is believed up to the size of the data. -/
theorem within_nalu {header length declared : Nat} (le : header ≤ 6) :
    Within length (if length < header then (0, 0) else (header, if declared ≤ length then declared else length)) := by
  split
  · exact within_zero length
  · refine ⟨le, ?_⟩
    dsimp only
    split <;> omega

theorem within_nextEnclosedFrameSize (unitType : UInt8) (data : List UInt8) :
    Within data.length (BufferedPacket.nextEnclosedFrameSize unitType data) := by
  unfold BufferedPacket.nextEnclosedFrameSize
  dsimp only
  split
  · split
    · exact within_nalu (by decide)
    · exact within_zero data.length
  split
  · split
    · exact within_nalu (by decide)
    · exact within_zero data.length
  split
  · split
    · exact within_nalu (by decide)
    · exact within_zero data.length
  · exact ⟨Nat.zero_le _, Nat.le_refl _⟩

theorem Roomy.skip (roomy : Roomy p) (n : Nat) : Roomy (p.skip n) := by
  have ordered := roomy.ordered
  refine ⟨?_, roomy.behind⟩
  show (if p.tail < p.head + n then p.tail else p.head + n) ≤ p.tail
  split <;> omega

theorem Roomy.set (roomy : Roomy p) (i : Nat) (byte : UInt8) : Roomy { p with buf := p.buf.set i byte } := by
  refine ⟨roomy.ordered, ?_⟩
  rw [List.length_set]
  exact roomy.behind

/-- A packet is used without a read outside of its memory, and no more is copied than there is room for. -/
theorem Roomy.use (roomy : Roomy p) (unitType : UInt8) (toSize bytesTruncated : Nat) :
    ∃ bytes truncated q, p.use unitType toSize bytesTruncated = .ok (bytes, truncated, q) ∧ bytes.length ≤ toSize ∧
      q.tail = p.tail ∧ q.buf = p.buf := by
  have within := within_nextEnclosedFrameSize unitType p.data
  have size : p.data.length ≤ p.tail - p.head := by
    rw [BufferedPacket.data, List.length_take]
    exact Nat.min_le_left _ _
  have ordered := roomy.ordered
  have behind := roomy.behind
  unfold BufferedPacket.use
  generalize BufferedPacket.nextEnclosedFrameSize unitType p.data = next at within
  obtain ⟨offset, frameSize⟩ := next
  obtain ⟨le, le'⟩ := within
  dsimp only at le le' ⊢
  have copied : (if toSize < frameSize then toSize else frameSize) ≤ toSize ∧
      (if toSize < frameSize then toSize else frameSize) ≤ frameSize := by split <;> omega
  rw [load_eq (by omega)]
  refine ⟨_, _, _, rfl, ?_, rfl, rfl⟩
  rw [List.length_take]
  omega

end Packet

section Round

variable {σ : Type} {N : Counters σ} {client : Nat} {s t : H264VideoRTPSource σ} {p q : BufferedPacket σ} {loss : Bool}

theorem Safe.using (safe : Safe client s) (needs : s.needDelivery = true) :
    Using client { s with needDelivery := false } :=
  ⟨safe.packets, safe.saved, rfl, safe.room needs, safe.delivered⟩

/-- A packet that is rejected. -/
theorem Using.rejected (usable : Using client s) :
    Safe client { s.releaseUsedPacket N p with needDelivery := true } :=
  ⟨fun q mem => usable.packets q (List.mem_of_mem_tail mem), usable.saved, (Nat.le_add_right _ _).trans usable.room,
    fun _ => usable.room, usable.delivered⟩

/-- What the client has and where its buffer is. -/
structure SameClient (s t : H264VideoRTPSource σ) : Prop where
  saved : t.savedMaxSize = s.savedMaxSize
  needs : t.needDelivery = s.needDelivery
  frame : t.frame = s.frame
  room : t.maxSize = s.maxSize
  delivered : t.delivered = s.delivered

/-- The client's buffer is as it was. -/
theorem Using.congr (usable : Using client s) (same : SameClient s t)
    (packets : t.reorderingBuffer.packets = s.reorderingBuffer.packets) : Using client t :=
  ⟨packets ▸ usable.packets, same.saved.trans usable.saved, same.needs.trans usable.needs,
    by rw [same.frame, same.room]; exact usable.room, same.delivered ▸ usable.delivered⟩

/-- The special header: the packet keeps its memory, and only flags change in the source. -/
theorem Using.processSpecialHeader (usable : Using client s) (roomy : Roomy p) :
    Using client (s.processSpecialHeader p).2.1 ∧ Roomy (s.processSpecialHeader p).2.2 := by
  unfold H264VideoRTPSource.processSpecialHeader
  split
  · exact ⟨usable, roomy⟩
  · dsimp only
    split
    · exact ⟨usable.congr ⟨rfl, rfl, rfl, rfl, rfl⟩ rfl, roomy.skip 1⟩
    split
    · exact ⟨usable.congr ⟨rfl, rfl, rfl, rfl, rfl⟩ rfl, roomy.skip 3⟩
    split
    · split
      · exact ⟨usable.congr ⟨rfl, rfl, rfl, rfl, rfl⟩ rfl, roomy⟩
      · split
        · exact ⟨usable.congr ⟨rfl, rfl, rfl, rfl, rfl⟩ rfl, (roomy.set _ _).skip 1⟩
        · exact ⟨usable.congr ⟨rfl, rfl, rfl, rfl, rfl⟩ rfl, roomy.skip 2⟩
    · exact ⟨usable.congr ⟨rfl, rfl, rfl, rfl, rfl⟩ rfl, roomy⟩

theorem Using.noteLoss (usable : Using client s) (loss : Bool) : Using client (s.noteLoss loss) := by
  unfold H264VideoRTPSource.noteLoss
  split
  · split
    · refine ⟨usable.packets, usable.saved, usable.needs, ?_, usable.delivered⟩
      show 0 + s.savedMaxSize ≤ client
      rw [usable.saved, Nat.zero_add]
    · exact usable.congr ⟨rfl, rfl, rfl, rfl, rfl⟩ rfl
  split
  · exact usable.congr ⟨rfl, rfl, rfl, rfl, rfl⟩ rfl
  · exact usable

theorem sameClient_putBack : SameClient s (s.putBack N q) := by
  unfold putBack
  split <;> exact ⟨rfl, rfl, rfl, rfl, rfl⟩

/-- The packet at the head stays with its memory, or goes. -/
theorem roomy_putBack (packets : ∀ p ∈ s.reorderingBuffer.packets, Roomy p) (behind : q.tail + 6 ≤ q.buf.length) :
    ∀ p ∈ (s.putBack N q).reorderingBuffer.packets, Roomy p := by
  unfold putBack
  split
  · rename_i data
    intro p mem
    rcases List.mem_cons.1 mem with rfl | mem
    · exact ⟨Nat.le_of_lt (of_decide_eq_true data), behind⟩
    · exact packets p (List.mem_of_mem_tail mem)
  · exact fun p mem => packets p (List.mem_of_mem_tail mem)

/-- Behind `use` the client is called, or the rest of its buffer is left for the next packet. -/
theorem safe_complete {n : Nat} (packets : ∀ p ∈ s.reorderingBuffer.packets, Roomy p) (saved : s.savedMaxSize = client)
    (needs : s.needDelivery = false) (used : s.frame.length ≤ client) (room : s.frame.length + (s.maxSize - n) ≤ client)
    (delivered : ∀ d ∈ s.delivered, d.frame.length ≤ client) : Safe client (s.complete client n) := by
  unfold complete
  split
  · split
    · refine ⟨packets, rfl, Nat.zero_le _, fun _ => (Nat.zero_add _).le, ?_⟩
      intro d mem
      rcases List.mem_append.1 mem with mem | mem
      · exact delivered d mem
      · rw [List.mem_singleton.1 mem]
        exact used
    · refine ⟨packets, saved, used, fun again => ?_, delivered⟩
      rw [show s.needDelivery = true from again] at needs
      cases needs
  · exact ⟨packets, saved, used, fun _ => room, delivered⟩

theorem Using.usePacket (usable : Using client s) (roomy : Roomy p) :
    ∃ t, s.usePacket N client p loss = .ok t ∧ Safe client t := by
  have noted := usable.noteLoss loss
  unfold H264VideoRTPSource.usePacket
  dsimp only
  split
  · exact ⟨_, rfl, noted.rejected⟩
  · obtain ⟨bytes, truncated, q, used, le, tail, buf⟩ :=
      roomy.use (s.noteLoss loss).curPacketNALUnitType (s.noteLoss loss).maxSize (s.noteLoss loss).numTruncatedBytes
    have room := noted.room
    have length : ((s.noteLoss loss).frame ++ bytes).length = (s.noteLoss loss).frame.length + bytes.length :=
      List.length_append
    have behind : q.tail + 6 ≤ q.buf.length := by
      rw [tail, buf]
      exact roomy.behind
    have same : SameClient ((s.noteLoss loss).took p bytes truncated)
        (((s.noteLoss loss).took p bytes truncated).putBack N q) := sameClient_putBack
    rw [used]
    refine ⟨_, rfl, safe_complete (roomy_putBack noted.packets behind) ?_ ?_ ?_ ?_ ?_⟩
    · rw [same.saved]
      exact noted.saved
    · rw [same.needs]
      exact noted.needs
    · rw [same.frame]
      show ((s.noteLoss loss).frame ++ bytes).length ≤ client
      omega
    · rw [same.frame, same.room]
      show ((s.noteLoss loss).frame ++ bytes).length + ((s.noteLoss loss).maxSize - bytes.length) ≤ client
      omega
    · rw [same.delivered]
      exact noted.delivered

/-- **A round** reads and writes nothing that it should not, whatever is in the packet. -/
theorem Safe.round (safe : Safe client s) (needs : s.needDelivery = true) (roomy : Roomy p) :
    ∃ t, H264VideoRTPSource.round N client s p loss = .ok t ∧ Safe client t := by
  have usable := safe.using needs
  unfold H264VideoRTPSource.round
  dsimp only
  split
  · obtain ⟨header, roomy'⟩ := usable.processSpecialHeader roomy
    generalize H264VideoRTPSource.processSpecialHeader { s with needDelivery := false } p = result at header roomy'
    obtain ⟨usable', s', p'⟩ := result
    cases usable' with
    | true => exact header.usePacket roomy'
    | false => exact ⟨_, rfl, header.rejected⟩
  · exact usable.usePacket roomy

theorem Safe.afterGetting (safe : Safe client s) : Safe client (s.afterGetting client) := by
  refine ⟨safe.packets, rfl, Nat.zero_le _, fun _ => (Nat.zero_add _).le, ?_⟩
  intro d mem
  rcases List.mem_append.1 mem with mem | mem
  · exact safe.delivered d mem
  · rw [List.mem_singleton.1 mem]
    exact safe.frame

section Loop

variable [DecidableEq σ]

theorem packets_of_completed {r r' : ReorderingPacketBuffer σ} {timeNow : Int}
    (next : r.getNextCompletedPacket timeNow = some ((p, loss), r')) : p ∈ r.packets ∧ r'.packets = r.packets := by
  unfold ReorderingPacketBuffer.getNextCompletedPacket at next
  split at next
  · cases next
  · rename_i packets
    rw [packets]
    split at next
    · cases next
      exact ⟨List.mem_cons_self, packets⟩
    split at next
    · cases next
      exact ⟨List.mem_cons_self, packets⟩
    · cases next

/-- However often the loop goes round. -/
theorem Safe.loop (safe : Safe client s) (fuel : Nat) (timeNow : Int) :
    EndsWell (Safe client) (doGetNextFrame1 N client fuel s timeNow) := by
  induction fuel generalizing s with
  | zero => exact rfl
  | succ fuel ih =>
    unfold doGetNextFrame1
    split
    · rename_i needs
      split
      · exact safe
      · rename_i p loss r next
        obtain ⟨mem, packets⟩ := packets_of_completed next
        have here : Safe client { s with reorderingBuffer := r } :=
          ⟨packets ▸ safe.packets, safe.saved, safe.frame, safe.room, safe.delivered⟩
        obtain ⟨t, ran, safe'⟩ := @Safe.round _ N _ _ _ loss here needs (safe.packets p mem)
        rw [ran, ok_bind]
        exact ih safe'
    · exact safe

theorem Safe.runTask (safe : Safe client s) (fuel : Nat) (timeNow : Int) :
    EndsWell (Safe client) (H264VideoRTPSource.runTask N client fuel s timeNow) := by
  unfold H264VideoRTPSource.runTask
  split
  · exact safe.afterGetting.loop fuel timeNow
  · exact safe

end Loop

end Round

/-! ## Storing a packet -/

section Store

variable {σ : Type} [DecidableEq σ] {N : Counters σ} {r r' : ReorderingPacketBuffer σ} {b : BufferedPacket σ}
  {ps qs : List (BufferedPacket σ)}

theorem mem_of_link (linked : ReorderingPacketBuffer.link N b ps = .ok (some qs)) : ∀ q ∈ qs, q = b ∨ q ∈ ps := by
  induction ps generalizing qs with
  | nil => cases linked
  | cons p ps ih =>
    unfold ReorderingPacketBuffer.link at linked
    split at linked
    · cases linked
      exact fun q mem => List.mem_cons.1 mem
    split at linked
    · cases linked
    · obtain ⟨rest, walked, same⟩ := bind_eq_ok.1 linked
      obtain ⟨rest, rfl, rfl⟩ := Option.map_eq_some_iff.1 (Except.ok.inj same)
      intro q mem
      rcases List.mem_cons.1 mem with rfl | mem
      · exact .inr List.mem_cons_self
      · exact (ih walked q mem).imp_right (List.mem_cons_of_mem p)

/-- The walk comes to the end of the list when the packet is neither before nor the same as any in it. -/
theorem link_fault {stop : Stop} (linked : ReorderingPacketBuffer.link N b ps = .error stop) :
    ∀ p ∈ ps, N.lt b.rtpSeqNo p.rtpSeqNo = false := by
  induction ps with
  | nil => exact fun p mem => (List.not_mem_nil mem).elim
  | cons p ps ih =>
    unfold ReorderingPacketBuffer.link at linked
    split at linked
    · cases linked
    rename_i after
    split at linked
    · cases linked
    · have walked : ReorderingPacketBuffer.link N b ps = .error stop := by
        cases walk : ReorderingPacketBuffer.link N b ps with
        | ok rest =>
          rw [walk] at linked
          cases linked
        | error stop' =>
          rw [walk] at linked
          cases linked
          rfl
      exact List.forall_mem_cons.2 ⟨Bool.eq_false_iff.2 after, ih walked⟩

theorem mem_of_storePacket {kept : Bool} (stored : r.storePacket N b = .ok (kept, r')) :
    ∀ q ∈ r'.packets, q = r.marked b ∨ q ∈ r.packets := by
  have old : ∀ q ∈ (r.started b).packets, q = r.marked b ∨ q ∈ r.packets := by
    rw [ReorderingPacketBuffer.started_packets]
    exact fun q mem => .inr mem
  rw [ReorderingPacketBuffer.storePacket_eq] at stored
  split at stored
  · cases stored
    exact old
  split at stored
  · cases stored
    exact fun q mem => .inl (List.mem_singleton.1 mem)
  split at stored
  · cases stored
    intro q mem
    rcases List.mem_append.1 mem with mem | mem
    · exact .inr mem
    · exact .inl (List.mem_singleton.1 mem)
  split at stored
  · cases stored
    exact old
  · obtain ⟨linked, walked, same⟩ := bind_eq_ok.1 stored
    cases linked with
    | none =>
      cases same
      exact old
    | some packets =>
      cases same
      exact mem_of_link walked

end Store

/-- Different numbers of which neither comes before the other are half a turn apart. -/
theorem eq_of_not_seqNumLT {a b : UInt16} (before : seqNumLT a b = false) (behind : seqNumLT b a = false) (ne : a ≠ b) :
    a = b + 0x8000 := by
  have other : a.toNat ≠ b.toNat := mt UInt16.toNat_inj.1 ne
  have small := a.toNat_lt
  have small' := b.toNat_lt
  rw [seqNumLT_eq, halfTurn] at before behind
  have sum : (b + 0x8000).toNat = (b.toNat + 0x8000) % 2 ^ 16 := UInt16.toNat_add b 0x8000
  apply UInt16.toNat_inj.1
  rw [sum]
  split at before
  · rw [if_neg (by omega), if_pos (by omega), decide_eq_false_iff_not] at behind
    rw [decide_eq_false_iff_not] at before
    omega
  · rw [if_pos (by omega), decide_eq_false_iff_not] at behind
    rw [if_pos (by omega), decide_eq_false_iff_not] at before
    omega

/-- A packet is not followed where its number is half a turn from that of the last packet: it would be linked behind
that without becoming the last. -/
theorem storePacket_fault {r : ReorderingPacketBuffer UInt16} {b : BufferedPacket UInt16} {stop : Stop}
    (stored : r.storePacket rtp b = .error stop) : ∃ p ∈ r.packets.getLast?, b.rtpSeqNo = p.rtpSeqNo + 0x8000 := by
  rw [ReorderingPacketBuffer.storePacket_eq] at stored
  split at stored
  · cases stored
  split at stored
  · cases stored
  rename_i p last
  split at stored
  · cases stored
  rename_i behind
  split at stored
  · cases stored
  rename_i other
  have walked : ReorderingPacketBuffer.link rtp (r.marked b) r.packets = .error stop := by
    cases walk : ReorderingPacketBuffer.link rtp (r.marked b) r.packets with
    | ok linked =>
      rw [walk, ok_bind] at stored
      cases linked <;> cases stored
    | error stop' =>
      rw [walk] at stored
      cases stored
      rfl
  have before := link_fault walked p (List.mem_of_getLast? last)
  rw [ReorderingPacketBuffer.marked_rtpSeqNo] at before
  exact ⟨p, last, eq_of_not_seqNumLT before (Bool.eq_false_iff.2 behind) other⟩

/-! ## Any datagrams -/

theorem ordered_of_readHeader {rtpPayloadFormat : Nat} {data : List UInt8} {h : RtpHeader}
    (read : readHeader rtpPayloadFormat data = some h) : h.head ≤ h.tail ∧ h.tail ≤ data.length := by
  obtain ⟨d, rfl, -, rfl⟩ := RtpDatagram.exists_of_readHeader read
  exact ⟨Nat.le_add_right _ _, d.tail_le_length⟩

/-- The packet's memory goes on for six bytes behind the datagram. -/
def Input.Roomy : Input → Prop
  | .datagram _ behind .. => 6 ≤ behind.length
  | .task _ => True

/-- The number in the datagram is half a turn from that of the last packet in the buffer. -/
def Opposite (rtpPayloadFormat : Nat) (s : H264VideoRTPSource UInt16) : Input → Prop
  | .datagram data .. => ∃ h ∈ readHeader rtpPayloadFormat data,
      ∃ p ∈ s.reorderingBuffer.packets.getLast?, h.rtpSeqNo = p.rtpSeqNo + 0x8000
  | .task _ => False

/-- `step` with the reason for which there is no next state. -/
def runInput (rtpPayloadFormat client fuel : Nat) (s : H264VideoRTPSource UInt16) :
    Input → Exec (H264VideoRTPSource UInt16)
  | .datagram data behind presentationTime timeReceived timeNow => match readHeader rtpPayloadFormat data with
    | some h => received rtp client fuel s h.rtpSSRC
        { buf := data ++ behind, head := h.head, tail := h.tail, rtpSeqNo := h.rtpSeqNo, presentationTime
          rtpMarkerBit := h.rtpMarkerBit, timeReceived } timeNow
    | none => doGetNextFrame1 rtp client fuel s timeNow
  | .task timeNow => runTask rtp client fuel s timeNow

section Run

variable {rtpPayloadFormat client fuel : Nat} {s t : H264VideoRTPSource UInt16} {input : Input}

theorem step_eq : step rtpPayloadFormat client fuel s input = (runInput rtpPayloadFormat client fuel s input).toOption := by
  cases input with
  | datagram data =>
    unfold step runInput
    dsimp only
    cases readHeader rtpPayloadFormat data <;> rfl
  | task timeNow => rfl

/-- The packet is stored and the ones that are due are used, or the packet is not followed. -/
theorem Safe.received (safe : Safe client s) {p : BufferedPacket UInt16} (roomy : H264VideoRTPSource.Roomy p)
    (rtpSSRC : Nat) (timeNow : Int) :
    EndsWell (Safe client) (H264VideoRTPSource.received rtp client fuel s rtpSSRC p timeNow) ∨
      (∃ stop, H264VideoRTPSource.received rtp client fuel s rtpSSRC p timeNow = .error stop) ∧
        ∃ q ∈ s.reorderingBuffer.packets.getLast?, p.rtpSeqNo = q.rtpSeqNo + 0x8000 := by
  have noted : Safe client (s.noteSSRC rtpSSRC) ∧
      (s.noteSSRC rtpSSRC).reorderingBuffer.packets = s.reorderingBuffer.packets := by
    unfold noteSSRC
    split
    · exact ⟨⟨safe.packets, safe.saved, safe.frame, safe.room, safe.delivered⟩, rfl⟩
    · exact ⟨safe, rfl⟩
  obtain ⟨safe', packets⟩ := noted
  unfold H264VideoRTPSource.received
  dsimp only
  cases stored : (s.noteSSRC rtpSSRC).reorderingBuffer.storePacket rtp p with
  | error stop => exact .inr ⟨⟨stop, rfl⟩, packets ▸ storePacket_fault stored⟩
  | ok result =>
    obtain ⟨kept, r⟩ := result
    rw [ok_bind]
    have kept' : Safe client { s.noteSSRC rtpSSRC with reorderingBuffer := r } := by
      refine ⟨fun q mem => ?_, safe'.saved, safe'.frame, safe'.room, safe'.delivered⟩
      rcases mem_of_storePacket stored q mem with rfl | mem
      · unfold ReorderingPacketBuffer.marked
        split
        · exact roomy
        · exact ⟨roomy.ordered, roomy.behind⟩
      · exact safe'.packets q mem
    exact .inl (kept'.loop fuel timeNow)

/-- **One step**, whatever comes in. -/
theorem Safe.runInput (safe : Safe client s) (roomy : input.Roomy) :
    EndsWell (Safe client) (H264VideoRTPSource.runInput rtpPayloadFormat client fuel s input) ∨
      (∃ stop, H264VideoRTPSource.runInput rtpPayloadFormat client fuel s input = .error stop) ∧
        Opposite rtpPayloadFormat s input := by
  cases input with
  | task timeNow => exact .inl (safe.runTask fuel timeNow)
  | datagram data behind presentationTime timeReceived timeNow =>
    unfold H264VideoRTPSource.runInput
    dsimp only
    cases read : readHeader rtpPayloadFormat data with
    | none => exact .inl (safe.loop fuel timeNow)
    | some h =>
      obtain ⟨ordered, inside⟩ := ordered_of_readHeader read
      have six : 6 ≤ behind.length := roomy
      refine (safe.received ⟨ordered, ?_⟩ h.rtpSSRC timeNow).imp_right fun opposite =>
        ⟨opposite.1, h, read, opposite.2⟩
      show h.tail + 6 ≤ (data ++ behind).length
      rw [List.length_append]
      omega

theorem Safe.step (safe : Safe client s) (roomy : input.Roomy)
    (ran : H264VideoRTPSource.step rtpPayloadFormat client fuel s input = some t) : Safe client t := by
  rw [step_eq] at ran
  rcases @Safe.runInput rtpPayloadFormat _ fuel _ _ safe roomy with well | ⟨⟨stop, failed⟩, -⟩
  · cases result : H264VideoRTPSource.runInput rtpPayloadFormat client fuel s input with
    | ok u =>
      rw [result] at ran well
      cases ran
      exact well
    | error stop =>
      rw [result] at ran
      cases ran
  · rw [failed] at ran
    cases ran

theorem safe_playing (thresholdTime client : Nat) (nextExpectedSeqNo : UInt16) :
    Safe client (playing thresholdTime client nextExpectedSeqNo) where
  packets _ mem := (List.not_mem_nil mem).elim
  saved := rfl
  frame := Nat.zero_le client
  room _ := (Nat.zero_add client).le
  delivered _ mem := (List.not_mem_nil mem).elim

end Run

/-- **No datagram makes the source read or write where it should not**, as long as each has six bytes of its packet's
memory behind it: what is in the client's buffer fits into it at any time, and the next step, whatever comes in, comes
to its end, runs out of fuel, or stops at the one packet that is not followed. -/
theorem within_memory (rtpPayloadFormat thresholdTime client fuel : Nat) (nextExpectedSeqNo : UInt16) {inputs : List Input}
    (roomy : ∀ input ∈ inputs, input.Roomy) {s : H264VideoRTPSource UInt16}
    (ran : Trace.run (step rtpPayloadFormat client fuel) (playing thresholdTime client nextExpectedSeqNo) inputs =
      some s) :
    s.frame.length ≤ client ∧ (s.needDelivery = true → s.frame.length + s.maxSize ≤ client) ∧
      (∀ d ∈ s.delivered, d.frame.length ≤ client) ∧
      ∀ input : Input, input.Roomy → ¬ Opposite rtpPayloadFormat s input →
        EndsWell (fun t => t.frame.length ≤ client) (runInput rtpPayloadFormat client fuel s input) := by
  have safe : Safe client s := Trace.run_invariant (fun safe roomy ran => safe.step roomy ran)
    (safe_playing thresholdTime client nextExpectedSeqNo) (Trace.along_of_mem roomy) ran
  refine ⟨safe.frame, safe.room, safe.delivered, fun input roomy near => ?_⟩
  rcases @Safe.runInput rtpPayloadFormat _ fuel _ _ safe roomy with well | ⟨-, opposite⟩
  · cases result : runInput rtpPayloadFormat client fuel s input with
    | ok t =>
      rw [result] at well
      exact Safe.frame well
    | error stop =>
      rw [result] at well
      exact well
  · exact absurd opposite near

/-- An aggregation packet of one NAL unit, of which it gives the size as 65535. -/
def strayDatagram (behind : List UInt8) : Input :=
  .datagram [0x80, 96, 0, 0, 0, 0, 0, 0, 0, 0, 0, 7, 24, 0xFF, 0xFF, 0x65] behind ⟨0, 0⟩ 0 0

/-- What the client gets goes on with two bytes from behind the packet, and nothing worse can follow. -/
theorem within_memory_stray : ∃ s,
    Trace.run (step 96 100 10) (playing 3000000 100 0) [strayDatagram [1, 2, 3, 4, 5, 6]] = some s ∧
      s.delivered.map Delivered.frame = [[0x65, 1, 2]] ∧
      EndsWell (fun t => t.frame.length ≤ 100) (runInput 96 100 10 s (.task 0)) := by
  have six : ∀ input ∈ [strayDatagram [1, 2, 3, 4, 5, 6]], input.Roomy := fun input mem => by
    rw [List.mem_singleton.1 mem]
    exact Nat.le_refl 6
  cases ran : Trace.run (step 96 100 10) (playing 3000000 100 0) [strayDatagram [1, 2, 3, 4, 5, 6]] with
  | none => exact absurd (congrArg Option.isSome ran) (by decide +kernel)
  | some s =>
    have frames : (Trace.run (step 96 100 10) (playing 3000000 100 0) [strayDatagram [1, 2, 3, 4, 5, 6]]).map
        (fun s => s.delivered.map Delivered.frame) = some [[0x65, 1, 2]] := by decide +kernel
    rw [ran] at frames
    obtain ⟨-, -, -, next⟩ := within_memory 96 3000000 100 10 0 six ran
    exact ⟨s, rfl, Option.some.inj frames, next (.task 0) trivial fun opposite => opposite⟩

/-- With nothing behind the packet the bytes are read outside of its memory. -/
example : (match runInput 96 100 10 (playing 3000000 100 0) (strayDatagram []) with
    | .error stop => stop == .fault
    | .ok _ => false) = true := by decide +kernel

end H264VideoRTPSource

end CameraEv
