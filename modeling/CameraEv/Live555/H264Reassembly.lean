import CameraEv.Live555.H264Packetization
import CameraEv.Live555.RtpSimulation

/-!
# Only whole NAL units, in order

The sender's packets are numbered without end, and any of them may be lost, come
twice or out of order. What is handed to the client are the NAL units of which the
source has taken every packet (`gathered`), in the order in which they were sent.
Aggregation packets are not among the sender's here: they leave the two flags of
the source as the packet before them has left them.
-/

namespace CameraEv

open Exec SerialNumber

namespace H264VideoRTPSource

/-- A sender's packets, with their marker bits. -/
structure Sender where
  piece : Nat → Piece
  marker : Nat → Bool
  valid : ∀ i, (piece i).Valid
  starts : (piece 0).begins = true
  follows : ∀ i, (piece i).Follows (piece (i + 1))

namespace Sender

variable (sender : Sender)

/-- The packet was released, and with it every packet from the start of its NAL unit on. -/
def gathered (released : List Nat) : Nat → Bool
  | 0 => decide (0 ∈ released) && (sender.piece 0).begins
  | i + 1 => decide (i + 1 ∈ released) && ((sender.piece (i + 1)).begins || gathered released i)

/-- The NAL units that end in a packet, each with the marker bit of that packet. -/
def finished (i : Nat) : List (List UInt8 × Bool) := (sender.piece i).finished.map fun nal => (nal, sender.marker i)

/-- The NAL units of which every packet was released. -/
def units (released : List Nat) : List (List UInt8 × Bool) :=
  released.flatMap fun i => if sender.gathered released i then sender.finished i else []

variable {sender} {released released' : List Nat}

theorem gathered_congr {i : Nat} (same : ∀ j ≤ i, j ∈ released ↔ j ∈ released') :
    sender.gathered released i = sender.gathered released' i := by
  induction i with
  | zero => simp only [gathered, same 0 (Nat.le_refl 0)]
  | succ i ih => simp only [gathered, same (i + 1) (Nat.le_refl _), ih fun j le => same j (by omega)]

/-- What comes later does not matter. -/
theorem gathered_append {i n : Nat} (lt : i < n) :
    sender.gathered (released ++ [n]) i = sender.gathered released i := by
  refine gathered_congr fun j le => ?_
  rw [List.mem_append, List.mem_singleton]
  exact or_iff_left (by omega)

theorem units_append {n : Nat} (last : ∀ i ∈ released, i < n) : sender.units (released ++ [n]) =
    sender.units released ++ if sender.gathered (released ++ [n]) n then sender.finished n else [] := by
  rw [units, List.flatMap_append, List.flatMap_singleton]
  congr 1
  refine List.flatMap_congr fun i mem => ?_
  rw [gathered_append (last i mem)]

/-- A packet that does not go on with a NAL unit. -/
theorem gathered_begins {n : Nat} (begins : (sender.piece n).begins = true) :
    sender.gathered (released ++ [n]) n = true := by
  cases n <;> simp [gathered, begins]

/-- A packet that goes on with a NAL unit. -/
theorem gathered_goes_on {n : Nat} (goes : (sender.piece n).begins = false) :
    sender.gathered (released ++ [n]) n = (decide (0 < n) && sender.gathered released (n - 1)) := by
  cases n with
  | zero => simp [gathered, goes]
  | succ n => simp [gathered, goes, gathered_append (Nat.lt_succ_self n)]

theorem mem_of_gathered {i : Nat} (whole : sender.gathered released i = true) : i ∈ released := by
  cases i <;> simp [gathered] at whole <;> exact whole.1

end Sender

/-! ## What the source has at a time -/

/-- What the client has been called with, and the frame that waits for the event loop. -/
def handed (s : H264VideoRTPSource Nat) : List (List UInt8 × Bool) :=
  s.delivered.map (fun d => (d.frame, d.curPacketMarkerBit)) ++
    if s.scheduled then [(s.frame, s.curPacketMarkerBit)] else []

/-- The packet of the sender with this number, as it was received. -/
structure Genuine (sender : Sender) (p : BufferedPacket Nat) : Prop where
  holds : Holds p (sender.piece p.rtpSeqNo).payload
  marker : p.rtpMarkerBit = sender.marker p.rtpSeqNo
  fresh : p.useCount = 0

/-- Where the numbers are: of the packets that were released, of the next one, and of the first that came. -/
structure Progress (s : H264VideoRTPSource Nat) : Prop where
  increasing : s.released.Pairwise (· < ·)
  next : ∀ n ∈ s.released.getLast?, s.reorderingBuffer.nextExpectedSeqNo = n + 1
  unseen : s.reorderingBuffer.haveSeenFirstPacket = false → s.released = []
  started : s.reorderingBuffer.haveSeenFirstPacket = true → s.released = [] →
    ∃ p ∈ s.reorderingBuffer.packets, p.isFirstPacket = true ∧ p.rtpSeqNo = s.reorderingBuffer.nextExpectedSeqNo
  first : ∀ p ∈ s.reorderingBuffer.packets, p.isFirstPacket = true →
    s.released = [] ∧ p.rtpSeqNo = s.reorderingBuffer.nextExpectedSeqNo

/-- What is in the client's buffer. -/
inductive Phase (sender : Sender) (client : Nat) (s : H264VideoRTPSource Nat) : Prop
  /-- Nothing: the next NAL unit is to come. -/
  | clean (needs : s.needDelivery = true) (idle : s.scheduled = false) (frame : s.frame = [])
      (room : s.maxSize = client)
      (sound : s.packetLossInFragmentedFrame = false)
      (ended : ∀ i ∈ s.released.getLast?, (sender.piece (i + 1)).begins = true)
  /-- The first fragments of a NAL unit. -/
  | begun {i nal start stop} (needs : s.needDelivery = true) (idle : s.scheduled = false)
      (last : s.released.getLast? = some i) (here : sender.piece i = .fragment nal start stop)
      (more : stop ≠ nal.length)
      (whole : sender.gathered s.released i = true) (sound : s.packetLossInFragmentedFrame = false)
      (frame : s.frame = (nal.take stop).take client) (room : s.maxSize = client - s.frame.length)
  /-- A NAL unit of which a fragment is missing. -/
  | broken {i} (needs : s.needDelivery = true) (idle : s.scheduled = false) (last : s.released.getLast? = some i)
      (lost : s.packetLossInFragmentedFrame = true) (cut : sender.gathered s.released i = false)
  /-- A whole NAL unit, of which the client is to be told. -/
  | waiting (needs : s.needDelivery = false) (scheduled : s.scheduled = true)
      (sound : s.packetLossInFragmentedFrame = false)
      (ended : ∀ i ∈ s.released.getLast?, (sender.piece (i + 1)).begins = true)

/-- What holds between two rounds. -/
structure Inv (sender : Sender) (client half : Nat) (s : H264VideoRTPSource Nat) : Prop where
  window : s.reorderingBuffer.Window half
  progress : Progress s
  genuine : ∀ p ∈ s.reorderingBuffer.packets, Genuine sender p
  saved : s.savedMaxSize = client
  phase : Phase sender client s
  handed : s.handed = (sender.units s.released).map fun unit => (unit.1.take client, unit.2)

section Round

variable {sender : Sender} {client half : Nat} {s t : H264VideoRTPSource Nat} {p : BufferedPacket Nat} {loss : Bool}
  {r : ReorderingPacketBuffer Nat}

/-- What was released is behind the next number. -/
theorem Progress.lt_next (progress : Progress s) {n : Nat} (mem : n ∈ s.released) :
    n < s.reorderingBuffer.nextExpectedSeqNo := by
  obtain ⟨last, here⟩ := List.getLast?_isSome.2 (List.ne_nil_of_mem mem) |> Option.isSome_iff_exists.1
  obtain ⟨earlier, split⟩ := List.getLast?_eq_some_iff.1 here
  have increasing := progress.increasing
  rw [progress.next last here]
  rw [split] at increasing mem
  rcases List.mem_append.1 mem with mem | mem
  · have := (List.pairwise_append.1 increasing).2.2 n mem last (List.mem_singleton_self last)
    omega
  · rw [List.mem_singleton.1 mem]
    exact Nat.lt_succ_self last

/-- What `packetLossPrecededThis` says of the numbers. -/
structure Gap (released : List Nat) (n : Nat) (loss : Bool) : Prop where
  later : ∀ i ∈ released, i < n
  none : loss = false → 0 < n ∧ released.getLast? = some (n - 1)
  some : loss = true → ∀ i ∈ released, i + 1 < n

theorem Inv.gap (inv : Inv sender client half s) (completed : s.reorderingBuffer.Completed p loss r) :
    Gap s.released p.rtpSeqNo loss := by
  obtain ⟨ps, packets⟩ := completed.head
  have mem : p ∈ s.reorderingBuffer.packets := by
    rw [packets]
    exact List.mem_cons_self
  have ahead := (inv.window.ahead p mem).1
  refine ⟨fun i released => (inv.progress.lt_next released).trans_le ahead, fun none => ?_, fun lost i released => ?_⟩
  · obtain ⟨expected, other⟩ := completed.none none
    have seen : s.reorderingBuffer.haveSeenFirstPacket = true := by
      cases seen : s.reorderingBuffer.haveSeenFirstPacket with
      | true => rfl
      | false =>
        rw [inv.window.unseen seen] at mem
        cases mem
    cases last : s.released.getLast? with
    | none =>
      -- the first packet would be this one
      obtain ⟨q, here, first, same⟩ := inv.progress.started seen (List.getLast?_eq_none_iff.1 last)
      have sorted := inv.window.sorted
      rw [packets] at here sorted
      rcases List.mem_cons.1 here with rfl | here
      · rw [first] at other
        cases other
      · have := (List.pairwise_cons.1 sorted).1 q here
        omega
    | some n =>
      have next := inv.progress.next n last
      have number : p.rtpSeqNo = n + 1 := expected.trans next
      exact ⟨by omega, by rw [number, Nat.add_sub_cancel]⟩
  · have before := inv.progress.lt_next released
    rcases completed.gap lost with first | other
    · rw [(inv.progress.first p mem first).1] at released
      cases released
    · omega

/-- The numbers after the packet was released. -/
theorem Inv.released (inv : Inv sender client half s) (completed : s.reorderingBuffer.Completed p loss r)
    (buffer : t.reorderingBuffer = r.releaseUsedPacket unbounded) (log : t.released = s.released ++ [p.rtpSeqNo]) :
    t.reorderingBuffer.Window half ∧ Progress t ∧ (∀ q ∈ t.reorderingBuffer.packets, Genuine sender q) ∧
      t.reorderingBuffer.packets.length + 1 = s.reorderingBuffer.packets.length := by
  have gap := inv.gap completed
  obtain ⟨ps, packets⟩ := completed.head
  have given := completed.given
  have sorted := inv.window.sorted
  rw [packets, List.pairwise_cons] at sorted
  have window := (inv.window.completed completed).released
    (show r.packets = p :: ps by rw [given]; exact packets) (by rw [given])
  have rest : t.reorderingBuffer.packets = ps := by
    rw [buffer, given]
    simp only [ReorderingPacketBuffer.releaseUsedPacket, packets, List.tail_cons]
  have mem {q : BufferedPacket Nat} (here : q ∈ ps) : q ∈ s.reorderingBuffer.packets := by
    rw [packets]
    exact List.mem_cons_of_mem p here
  have ahead := (inv.window.ahead p (by rw [packets]; exact List.mem_cons_self)).1
  refine ⟨by rw [buffer]; exact window, ⟨?_, ?_, ?_, ?_, ?_⟩, ?_, ?_⟩
  · rw [log]
    refine List.pairwise_append.2 ⟨inv.progress.increasing, List.pairwise_singleton _ _, fun i here n last => ?_⟩
    rw [List.mem_singleton.1 last]
    exact gap.later i here
  · intro n last
    rw [log, List.getLast?_append_of_ne_nil _ (List.cons_ne_nil _ _)] at last
    cases last
    rw [buffer, given]
    rfl
  · intro unseen
    rw [buffer, given] at unseen
    have none := inv.window.unseen unseen
    rw [packets] at none
    cases none
  · intro _ none
    rw [log] at none
    exact absurd none (List.append_ne_nil_of_right_ne_nil _ (List.cons_ne_nil _ _))
  · intro q here first
    rw [rest] at here
    have same := (inv.progress.first q (mem here) first).2
    have later := sorted.1 q here
    omega
  · intro q here
    rw [rest] at here
    exact inv.genuine q (mem here)
  · rw [rest, packets, List.length_cons]

/-- The end of a round: the numbers, and what the round has done with the frame. -/
theorem Inv.advance (inv : Inv sender client half s) (completed : s.reorderingBuffer.Completed p loss r)
    (buffer : t.reorderingBuffer = r.releaseUsedPacket unbounded) (log : t.released = s.released ++ [p.rtpSeqNo])
    (saved : t.savedMaxSize = client) (phase : Phase sender client t)
    (handed : t.handed = s.handed ++
      (if sender.gathered t.released p.rtpSeqNo then sender.finished p.rtpSeqNo else []).map
        fun unit => (unit.1.take client, unit.2)) :
    Inv sender client half t ∧ t.reorderingBuffer.packets.length + 1 = s.reorderingBuffer.packets.length := by
  obtain ⟨window, progress, genuine, shorter⟩ := inv.released completed buffer log
  refine ⟨⟨window, progress, genuine, saved, phase, ?_⟩, shorter⟩
  rw [handed, inv.handed, log, Sender.units_append (inv.gap completed).later, List.map_append]

/-- The source behind the special header: only the flags and the type of the packet are new. -/
structure Ready (s : H264VideoRTPSource Nat) (r : ReorderingPacketBuffer Nat) (t : H264VideoRTPSource Nat) : Prop where
  buffer : t.reorderingBuffer = r
  released : t.released = s.released
  frame : t.frame = s.frame
  room : t.maxSize = s.maxSize
  saved : t.savedMaxSize = s.savedMaxSize
  lost : t.packetLossInFragmentedFrame = s.packetLossInFragmentedFrame
  needs : t.needDelivery = false
  scheduled : t.scheduled = s.scheduled
  delivered : t.delivered = s.delivered

/-- `noteLoss` changes the frame and the flag for a loss. -/
theorem Ready.noteLoss (ready : Ready s r t) (loss : Bool) : (t.noteLoss loss).reorderingBuffer = r ∧
    (t.noteLoss loss).released = s.released ∧ (t.noteLoss loss).savedMaxSize = s.savedMaxSize ∧
    (t.noteLoss loss).needDelivery = false ∧ (t.noteLoss loss).scheduled = s.scheduled ∧
    (t.noteLoss loss).delivered = s.delivered ∧
    (t.noteLoss loss).currentPacketCompletesFrame = t.currentPacketCompletesFrame := by
  have fields : t.reorderingBuffer = r ∧ t.released = s.released ∧ t.savedMaxSize = s.savedMaxSize ∧
      t.needDelivery = false ∧ t.scheduled = s.scheduled ∧ t.delivered = s.delivered ∧
      t.currentPacketCompletesFrame = t.currentPacketCompletesFrame :=
    ⟨ready.buffer, ready.released, ready.saved, ready.needs, ready.scheduled, ready.delivered, rfl⟩
  unfold H264VideoRTPSource.noteLoss
  split
  · split <;> exact fields
  · split <;> exact fields

/-- With the start of a NAL unit the client's buffer is empty, whatever was lost before it. -/
theorem Inv.noteLoss_begins (inv : Inv sender client half s) (needs : s.needDelivery = true)
    (completed : s.reorderingBuffer.Completed p loss r) (begins : (sender.piece p.rtpSeqNo).begins = true)
    (ready : Ready s r t) (flag : t.currentPacketBeginsFrame = true) :
    (t.noteLoss loss).frame = [] ∧ (t.noteLoss loss).maxSize = client ∧
      (t.noteLoss loss).packetLossInFragmentedFrame = false := by
  have saved : t.savedMaxSize = client := ready.saved.trans inv.saved
  unfold noteLoss
  rw [if_pos flag]
  by_cases bad : loss = true ∨ t.packetLossInFragmentedFrame = true
  · simp only [bad, if_true, forget, saved, and_self]
  · simp only [bad, if_false]
    rw [not_or, Bool.not_eq_true, Bool.not_eq_true] at bad
    obtain ⟨noLoss, sound⟩ := bad
    obtain ⟨pos, last⟩ := (inv.gap completed).none noLoss
    rw [ready.frame, ready.room]
    cases inv.phase with
    | clean _ _ frame room => exact ⟨frame, room, trivial⟩
    | @begun i nal start stop _ _ last' here more =>
      -- the packet before this one is a fragment that goes on
      cases last.symm.trans last'
      have follows := sender.follows (p.rtpSeqNo - 1)
      rw [Nat.sub_add_cancel pos, here, Piece.Follows, if_neg more] at follows
      obtain ⟨stop', next⟩ := follows
      have valid := sender.valid (p.rtpSeqNo - 1)
      rw [here] at valid
      rw [next, Piece.begins, decide_eq_true_eq] at begins
      have := valid.2.1
      have := valid.1
      omega
    | broken _ _ _ lost =>
      rw [ready.lost, lost] at sound
      cases sound
    | waiting no =>
      rw [needs] at no
      cases no

/-- A packet that is rejected. -/
theorem usePacket_lost (lost : (t.noteLoss loss).packetLossInFragmentedFrame = true) :
    t.usePacket unbounded client p loss =
      .ok { (t.noteLoss loss).releaseUsedPacket unbounded p with needDelivery := true } := by
  unfold usePacket
  dsimp only
  rw [if_pos lost]
  rfl

/-- A packet of which all data are used. -/
theorem usePacket_taken {data : List UInt8} (holds : Holds p data)
    (single : t.curPacketNALUnitType < 24 ∨ 28 ≤ t.curPacketNALUnitType)
    (sound : (t.noteLoss loss).packetLossInFragmentedFrame = false) : ∃ truncated,
    t.usePacket unbounded client p loss =
      .ok ((((t.noteLoss loss).took p (data.take (t.noteLoss loss).maxSize) truncated).releaseUsedPacket
        unbounded p).complete client (data.take (t.noteLoss loss).maxSize).length) := by
  have unitType : (t.noteLoss loss).curPacketNALUnitType = t.curPacketNALUnitType := by
    unfold noteLoss
    split
    · split <;> rfl
    · split <;> rfl
  obtain ⟨truncated, q, used, empty, number⟩ :=
    holds.use (show (t.noteLoss loss).curPacketNALUnitType < 24 ∨ _ by rw [unitType]; exact single)
      (t.noteLoss loss).maxSize (t.noteLoss loss).numTruncatedBytes
  refine ⟨truncated, ?_⟩
  unfold usePacket
  dsimp only
  rw [if_neg (by simp [sound]), used, ok_bind]
  simp only [putBack, empty, Bool.false_eq_true, if_false, releaseUsedPacket, number, pure_eq_ok]

/-- The client is called, or is going to be. -/
theorem complete_done {n : Nat} (completes : t.currentPacketCompletesFrame = true) (frame : t.frame ≠ [])
    (needs : t.needDelivery = false) (idle : t.scheduled = false) (saved : t.savedMaxSize = client)
    (sound : t.packetLossInFragmentedFrame = false)
    (ended : ∀ i ∈ t.released.getLast?, (sender.piece (i + 1)).begins = true) :
    Phase sender client (t.complete client n) ∧ (t.complete client n).savedMaxSize = client ∧
      (t.complete client n).handed = t.handed ++ [(t.frame, t.curPacketMarkerBit)] := by
  unfold complete
  rw [if_pos ⟨completes, List.length_pos_of_ne_nil frame⟩]
  split
  · refine ⟨.clean rfl rfl rfl rfl sound ended, rfl, ?_⟩
    simp [handed, afterGetting, getNextFrame, idle]
  · refine ⟨.waiting needs rfl sound ended, saved, ?_⟩
    simp [handed, idle]

/-- The packet brings a NAL unit up to `stop`. -/
structure Sender.Brings (sender : Sender) (n : Nat) (nal : List UInt8) (stop : Nat) : Prop where
  nonempty : nal.take stop ≠ []
  finished : (sender.piece n).finished = if stop = nal.length then [nal] else []
  ended : stop = nal.length → (sender.piece (n + 1)).begins = true
  goesOn : stop ≠ nal.length → ∃ start, sender.piece n = .fragment nal start stop

theorem brings_whole {n : Nat} {nal : List UInt8} (here : sender.piece n = .whole nal) :
    sender.Brings n nal nal.length := by
  have valid := sender.valid n
  have follows := sender.follows n
  rw [here] at valid follows
  refine ⟨?_, ?_, fun _ => follows, fun other => absurd rfl other⟩
  · rw [List.take_length]
    exact valid.1
  · rw [here, if_pos rfl]
    rfl

theorem brings_fragment {n : Nat} {nal : List UInt8} {start stop : Nat}
    (here : sender.piece n = .fragment nal start stop) :
    sender.Brings n nal stop := by
  have valid := sender.valid n
  have follows := sender.follows n
  rw [here] at valid follows
  obtain ⟨pos, more, inside⟩ := valid
  refine ⟨?_, by rw [here, Piece.finished], fun last => ?_, fun _ => ⟨start, here⟩⟩
  · rw [← List.length_pos_iff, List.length_take]
    omega
  · rwa [Piece.Follows, if_pos last] at follows

/-- The source behind `use` for the packet `n`: the NAL unit is in the client's buffer up to `stop`. -/
structure Used (s : H264VideoRTPSource Nat) (r : ReorderingPacketBuffer Nat) (client n : Nat) (marker : Bool)
    (nal : List UInt8) (stop : Nat) (t : H264VideoRTPSource Nat) : Prop where
  buffer : t.reorderingBuffer = r.releaseUsedPacket unbounded
  released : t.released = s.released ++ [n]
  frame : t.frame = (nal.take stop).take client
  saved : t.savedMaxSize = client
  sound : t.packetLossInFragmentedFrame = false
  needs : t.needDelivery = false
  idle : t.scheduled = false
  completes : t.currentPacketCompletesFrame = decide (stop = nal.length)
  marker : t.curPacketMarkerBit = marker
  handed : t.handed = s.handed

theorem Used.last {n : Nat} {marker : Bool} {nal : List UInt8} {stop : Nat}
    (used : Used s r client n marker nal stop t) :
    t.released.getLast? = some n := by
  rw [used.released, List.getLast?_append_of_ne_nil _ (List.cons_ne_nil _ _)]
  rfl

/-- The end of the NAL unit, or more of it to come. -/
theorem Inv.used (inv : Inv sender client half s) (pos : 0 < client) (completed : s.reorderingBuffer.Completed p loss r)
    {nal : List UInt8} {stop k : Nat} (used : Used s r client p.rtpSeqNo (sender.marker p.rtpSeqNo) nal stop t)
    (brings : sender.Brings p.rtpSeqNo nal stop)
    (whole : sender.gathered (s.released ++ [p.rtpSeqNo]) p.rtpSeqNo = true)
    (room : t.maxSize = client - (t.frame.length - k))
    (few : k ≤ t.frame.length) :
    Inv sender client half (t.complete client k) ∧
      (t.complete client k).reorderingBuffer.packets.length + 1 = s.reorderingBuffer.packets.length := by
  obtain ⟨kept, kept_log, -⟩ : SameBuffer t (t.complete client k) := sameBuffer_complete k
  have nonempty : t.frame ≠ [] := by
    rw [used.frame, ← List.length_pos_iff, List.length_take]
    have := List.length_pos_of_ne_nil brings.nonempty
    omega
  by_cases last : stop = nal.length
  · obtain ⟨phase, saved, handed⟩ := @complete_done sender client t k (by simp [used.completes, last]) nonempty
      used.needs used.idle used.saved used.sound fun i mem => by
        cases used.last.symm.trans mem
        exact brings.ended last
    refine inv.advance completed (kept.trans used.buffer) (kept_log.trans used.released) saved phase ?_
    rw [handed, used.handed, kept_log, used.released, if_pos whole, Sender.finished, brings.finished, if_pos last,
      used.frame, used.marker, last, List.take_length]
    rfl
  · have more : t.complete client k = { t with maxSize := t.maxSize - k, needDelivery := true } := by
      unfold complete
      rw [if_neg (by simp [used.completes, last])]
    rw [more] at kept kept_log ⊢
    obtain ⟨start, here⟩ := brings.goesOn last
    refine inv.advance completed (kept.trans used.buffer) (kept_log.trans used.released) used.saved
      (.begun rfl used.idle used.last here last (by rw [kept_log, used.released]; exact whole) used.sound
        used.frame ?_) ?_
    · show t.maxSize - k = client - t.frame.length
      omega
    · have handed : H264VideoRTPSource.handed { t with maxSize := t.maxSize - k, needDelivery := true } = t.handed :=
        rfl
      rw [handed, used.handed, Sender.finished, brings.finished, if_neg last]
      simp

/-- A NAL unit is taken up to the end of the packet. -/
theorem Inv.taken (inv : Inv sender client half s) (pos : 0 < client) (idle : s.scheduled = false)
    (completed : s.reorderingBuffer.Completed p loss r) (ready : Ready s r t) {q : BufferedPacket Nat}
    {data : List UInt8}
    (holds : Holds q data) (number : q.rtpSeqNo = p.rtpSeqNo) (marker : q.rtpMarkerBit = sender.marker p.rtpSeqNo)
    (single : t.curPacketNALUnitType < 24 ∨ 28 ≤ t.curPacketNALUnitType) {nal : List UInt8} {stop : Nat}
    (brings : sender.Brings p.rtpSeqNo nal stop)
    (completes : t.currentPacketCompletesFrame = decide (stop = nal.length))
    (whole : sender.gathered (s.released ++ [p.rtpSeqNo]) p.rtpSeqNo = true)
    (sound : (t.noteLoss loss).packetLossInFragmentedFrame = false)
    (frame : (t.noteLoss loss).frame ++ data.take (t.noteLoss loss).maxSize = (nal.take stop).take client)
    (room : (t.noteLoss loss).maxSize = client - (t.noteLoss loss).frame.length) :
    ∃ u, t.usePacket unbounded client q loss = .ok u ∧ Inv sender client half u ∧
      u.reorderingBuffer.packets.length + 1 = s.reorderingBuffer.packets.length := by
  obtain ⟨truncated, ran⟩ := @usePacket_taken client t q loss data holds single sound
  obtain ⟨buffer, log, saved, needs, scheduled, delivered, flag⟩ := ready.noteLoss loss
  have used : Used s r client p.rtpSeqNo (sender.marker p.rtpSeqNo) nal stop
      (((t.noteLoss loss).took q (data.take (t.noteLoss loss).maxSize) truncated).releaseUsedPacket unbounded q) := by
    refine ⟨?_, ?_, frame, saved.trans inv.saved, sound, needs, scheduled.trans idle, flag.trans completes, marker, ?_⟩
    · rw [← buffer]
      rfl
    · rw [← log, ← number]
      rfl
    · rw [H264VideoRTPSource.handed, H264VideoRTPSource.handed, ← delivered, ← scheduled]
      simp only [releaseUsedPacket, took, scheduled, idle]
      rfl
  have length := congrArg List.length frame
  rw [List.length_append] at length
  refine ⟨_, ran, inv.used pos completed used brings whole ?_ ?_⟩
  · rw [used.frame, ← length, Nat.add_sub_cancel]
    exact room
  · rw [used.frame, ← length]
    exact Nat.le_add_left _ _

/-- A packet that goes on with a NAL unit of which a fragment is missing. -/
theorem Inv.rejected (inv : Inv sender client half s) (idle : s.scheduled = false)
    (completed : s.reorderingBuffer.Completed p loss r) (ready : Ready s r t) {q : BufferedPacket Nat}
    (number : q.rtpSeqNo = p.rtpSeqNo) (lost : (t.noteLoss loss).packetLossInFragmentedFrame = true)
    (cut : sender.gathered (s.released ++ [p.rtpSeqNo]) p.rtpSeqNo = false) :
    ∃ u, t.usePacket unbounded client q loss = .ok u ∧ Inv sender client half u ∧
      u.reorderingBuffer.packets.length + 1 = s.reorderingBuffer.packets.length := by
  obtain ⟨buffer, log, saved, needs, scheduled, delivered, -⟩ := ready.noteLoss loss
  refine ⟨_, usePacket_lost lost, ?_⟩
  have log' : ((t.noteLoss loss).releaseUsedPacket unbounded q).released = s.released ++ [p.rtpSeqNo] := by
    rw [← log, ← number]
    rfl
  refine inv.advance completed (by rw [← buffer]; rfl) log' (saved.trans inv.saved) ?_ ?_
  · refine .broken (i := p.rtpSeqNo) rfl (scheduled.trans idle) ?_ lost ?_
    · show ((t.noteLoss loss).releaseUsedPacket unbounded q).released.getLast? = _
      rw [log', List.getLast?_append_of_ne_nil _ (List.cons_ne_nil _ _)]
      rfl
    · show sender.gathered ((t.noteLoss loss).releaseUsedPacket unbounded q).released _ = _
      rw [log', cut]
  · have cut' : sender.gathered ((t.noteLoss loss).releaseUsedPacket unbounded q).released p.rtpSeqNo = false := by
      rw [log', cut]
    have handed : H264VideoRTPSource.handed
        { (t.noteLoss loss).releaseUsedPacket unbounded q with needDelivery := true } = s.handed := by
      rw [H264VideoRTPSource.handed, H264VideoRTPSource.handed, ← delivered, ← scheduled]
      simp only [releaseUsedPacket, scheduled, idle]
      rfl
    rw [handed]
    show s.handed = s.handed ++ ((if sender.gathered
      ((t.noteLoss loss).releaseUsedPacket unbounded q).released p.rtpSeqNo then
      sender.finished p.rtpSeqNo else []).map _)
    rw [cut']
    simp

theorem Phase.idle (phase : Phase sender client s) (needs : s.needDelivery = true) : s.scheduled = false := by
  cases phase with
  | clean _ idle | begun _ idle | broken _ idle => exact idle
  | waiting no =>
    rw [needs] at no
    cases no

/-- The bytes of a NAL unit up to `stop`, cut off at the end of the client's buffer. -/
theorem take_append_part (nal : List UInt8) {start stop : Nat} (le : start ≤ stop) (client : Nat) :
    (nal.take start).take client ++
        ((nal.take stop).drop start).take (client - ((nal.take start).take client).length) =
      (nal.take stop).take client := by
  have first : nal.take start = (nal.take stop).take start := by rw [List.take_take, Nat.min_eq_left le]
  rw [first]
  generalize nal.take stop = bytes
  have rest : client - ((bytes.take start).take client).length = client - (bytes.take start).length := by
    rw [List.length_take (l := bytes.take start)]
    omega
  rw [rest, ← List.take_append, List.take_append_drop]

/-- **A round**: whatever was lost before, the client gets whole NAL units. -/
theorem Inv.round (inv : Inv sender client half s) (pos : 0 < client) (needs : s.needDelivery = true)
    (plain : ∀ i nals, sender.piece i ≠ .aggregate nals) (completed : s.reorderingBuffer.Completed p loss r) :
    ∃ u, round unbounded client { s with reorderingBuffer := r } p loss = .ok u ∧ Inv sender client half u ∧
      u.reorderingBuffer.packets.length + 1 = s.reorderingBuffer.packets.length := by
  have idle := inv.phase.idle needs
  have genuine := inv.genuine p (by
    obtain ⟨ps, packets⟩ := completed.head
    rw [packets]
    exact List.mem_cons_self)
  have gap := inv.gap completed
  have valid := sender.valid p.rtpSeqNo
  have holds := genuine.holds
  unfold H264VideoRTPSource.round
  dsimp only
  rw [if_pos genuine.fresh]
  cases here : sender.piece p.rtpSeqNo with
  | aggregate nals => exact absurd here (plain _ nals)
  | whole nal =>
    rw [here] at valid holds
    have begins : (sender.piece p.rtpSeqNo).begins = true := by rw [here]; rfl
    rw [processSpecialHeader_whole valid holds]
    have ready : Ready s r { s with
        reorderingBuffer := r, needDelivery := false, curPacketNALUnitType := header nal &&& 0x1F
        currentPacketBeginsFrame := true, currentPacketCompletesFrame := true } :=
        ⟨rfl, rfl, rfl, rfl, rfl, rfl, rfl, rfl, rfl⟩
    obtain ⟨frame, room, sound⟩ := inv.noteLoss_begins needs completed begins ready rfl
    refine inv.taken pos idle completed ready holds rfl genuine.marker ?_ (brings_whole here) (by simp)
      (Sender.gathered_begins begins) sound ?_ ?_
    · exact plain_or_fu valid.2
    · rw [frame, room, List.nil_append, List.take_length]
      rfl
    · rw [frame, room]
      rfl
  | fragment nal start stop =>
    rw [here] at valid holds
    obtain ⟨q, ran, holds', number, -, marker⟩ := processSpecialHeader_fragment
      (s := { s with reorderingBuffer := r, needDelivery := false }) valid holds
    rw [ran]
    have ready : Ready s r { s with
        reorderingBuffer := r, needDelivery := false, curPacketNALUnitType := 28
        currentPacketBeginsFrame := start = 1, currentPacketCompletesFrame := stop = nal.length } :=
      ⟨rfl, rfl, rfl, rfl, rfl, rfl, rfl, rfl, rfl⟩
    have single : (28 : UInt8) < 24 ∨ (28 : UInt8) ≤ 28 := by decide
    by_cases first : start = 1
    · have begins : (sender.piece p.rtpSeqNo).begins = true := by simp [here, Piece.begins, first]
      obtain ⟨frame, room, sound⟩ := inv.noteLoss_begins needs completed begins ready (by simp [first])
      refine inv.taken pos idle completed ready holds' number (marker.trans genuine.marker) single
        (brings_fragment here) rfl (Sender.gathered_begins begins) sound ?_ ?_
      · rw [frame, room, if_pos first]
        rfl
      · rw [frame, room]
        rfl
    · have goes : (sender.piece p.rtpSeqNo).begins = false := by simp [here, Piece.begins, first]
      have whole : sender.gathered (s.released ++ [p.rtpSeqNo]) _ = _ := Sender.gathered_goes_on goes
      have flag : ∀ (t : H264VideoRTPSource Nat) (loss : Bool), t.currentPacketBeginsFrame = decide (start = 1) →
          t.noteLoss loss = if loss then { t with packetLossInFragmentedFrame := true } else t := by
        intro t loss goes
        rw [noteLoss, goes, if_neg (by simp [first])]
      cases loss with
      | true =>
        refine inv.rejected idle completed ready number (by rw [flag _ _ rfl]; rfl) ?_
        rw [whole, Bool.and_eq_false_iff, decide_eq_false_iff_not]
        by_cases zero : 0 < p.rtpSeqNo
        · refine .inr (Bool.eq_false_iff.2 fun before => ?_)
          have := gap.some rfl _ (Sender.mem_of_gathered before)
          omega
        · exact .inl zero
      | false =>
        obtain ⟨zero, last⟩ := gap.none rfl
        have follows := sender.follows (p.rtpSeqNo - 1)
        rw [Nat.sub_add_cancel zero] at follows
        cases inv.phase with
        | clean _ _ _ _ _ ended =>
          have begins := ended _ last
          rw [Nat.sub_add_cancel zero, goes] at begins
          cases begins
        | waiting no =>
          rw [needs] at no
          cases no
        | @broken i _ _ last' lost cut =>
          cases last.symm.trans last'
          refine inv.rejected idle completed ready number (by rw [flag _ _ rfl]; exact lost) ?_
          rw [whole, cut, Bool.and_false]
        | @begun i nal' start' stop' _ _ last' before more gathered sound frame room =>
          cases last.symm.trans last'
          rw [before, Piece.Follows, if_neg more] at follows
          obtain ⟨stop'', next⟩ := follows
          cases here.symm.trans next
          refine inv.taken pos idle completed ready holds' number (marker.trans genuine.marker) single
            (brings_fragment here) rfl ?_ (by rw [flag _ _ rfl]; exact sound) ?_ (by rw [flag _ _ rfl]; exact room)
          · rw [whole, gathered, decide_eq_true zero, Bool.and_self]
          · rw [flag _ _ rfl, if_neg first]
            show s.frame ++ ((nal.take stop).drop start).take s.maxSize = _
            rw [room, frame, take_append_part nal (by have := valid.2.1; omega)]

/-- The loop ends: every round takes a packet off the buffer. -/
theorem Inv.loop (inv : Inv sender client half s) (pos : 0 < client)
    (plain : ∀ i nals, sender.piece i ≠ .aggregate nals) {fuel : Nat}
    (fueled : s.reorderingBuffer.packets.length < fuel)
    (timeNow : Int) :
    ∃ u, doGetNextFrame1 unbounded client fuel s timeNow = .ok u ∧ Inv sender client half u := by
  induction fuel generalizing s with
  | zero => exact absurd fueled (Nat.not_lt_zero _)
  | succ fuel ih =>
    unfold doGetNextFrame1
    by_cases needs : s.needDelivery = true
    · rw [if_pos needs]
      cases next : s.reorderingBuffer.getNextCompletedPacket timeNow with
      | none => exact ⟨s, rfl, inv⟩
      | some result =>
        obtain ⟨⟨p, loss⟩, r⟩ := result
        obtain ⟨u, ran, inv', shorter⟩ :=
          inv.round pos needs plain (ReorderingPacketBuffer.getNextCompletedPacket_spec next)
        dsimp only
        rw [ran, ok_bind]
        exact ih inv' (by omega)
    · rw [if_neg needs]
      exact ⟨s, rfl, inv⟩

/-- The loop takes no packet back. -/
theorem released_of_loop {fuel : Nat} {timeNow : Int}
    (ran : doGetNextFrame1 unbounded client fuel s timeNow = .ok t) : s.released <+: t.released := by
  induction fuel generalizing s with
  | zero => cases ran
  | succ fuel ih =>
    unfold doGetNextFrame1 at ran
    split at ran
    · split at ran
      · cases ran
        exact List.prefix_rfl
      · obtain ⟨s', moved, ran⟩ := bind_eq_ok.1 ran
        refine List.IsPrefix.trans ?_ (ih ran)
        cases (advanced_of_round moved).1 with
        | released _ log => exact log ▸ List.prefix_append _ _
        | stays _ _ log => exact log ▸ List.prefix_rfl
    · cases ran
      exact List.prefix_rfl

/-- **A packet that is due is taken**: while the client waits, the loop takes the packet at the head of the buffer as
soon as its number is the next one or it has waited for longer than the threshold. -/
theorem Inv.due_taken (inv : Inv sender client half s) (pos : 0 < client) (needs : s.needDelivery = true)
    (plain : ∀ i nals, sender.piece i ≠ .aggregate nals) {packets : List (BufferedPacket Nat)}
    (head : s.reorderingBuffer.packets = p :: packets) {timeNow : Int}
    (due : p.rtpSeqNo = s.reorderingBuffer.nextExpectedSeqNo ∨
      s.reorderingBuffer.timeThresholdHasBeenExceeded p timeNow = true)
    {fuel : Nat} (ran : doGetNextFrame1 unbounded client fuel s timeNow = .ok t) : p.rtpSeqNo ∈ t.released := by
  obtain ⟨loss, r, next⟩ : ∃ loss r,
      s.reorderingBuffer.getNextCompletedPacket timeNow = some ((p, loss), r) := by
    unfold ReorderingPacketBuffer.getNextCompletedPacket
    rw [head]
    dsimp only
    by_cases expected : p.rtpSeqNo = s.reorderingBuffer.nextExpectedSeqNo
    · rw [if_pos expected]
      exact ⟨_, _, rfl⟩
    · rw [if_neg expected, if_pos (due.resolve_left expected)]
      exact ⟨_, _, rfl⟩
  obtain ⟨u, moved, -, shorter⟩ := inv.round pos needs plain (ReorderingPacketBuffer.getNextCompletedPacket_spec next)
  cases fuel with
  | zero => cases ran
  | succ fuel =>
    unfold doGetNextFrame1 at ran
    rw [if_pos needs, next] at ran
    dsimp only at ran
    rw [moved, ok_bind] at ran
    refine (released_of_loop ran).subset ?_
    cases (advanced_of_round moved).1 with
    | released _ log =>
      rw [log]
      exact List.mem_append_right _ (List.mem_singleton_self _)
    | stays _ buffer =>
      have given := (ReorderingPacketBuffer.getNextCompletedPacket_spec next).given
      rw [buffer, given, head] at shorter
      exact absurd shorter (by simp)

theorem Phase.congr (phase : Phase sender client s) (frame : t.frame = s.frame) (room : t.maxSize = s.maxSize)
    (lost : t.packetLossInFragmentedFrame = s.packetLossInFragmentedFrame) (needs : t.needDelivery = s.needDelivery)
    (scheduled : t.scheduled = s.scheduled) (released : t.released = s.released) : Phase sender client t := by
  cases phase with
  | clean a b c d e f =>
    exact .clean (needs.trans a) (scheduled.trans b) (frame.trans c) (room.trans d) (lost.trans e) (released ▸ f)
  | begun a b c d e f g h i =>
    exact .begun (needs.trans a) (scheduled.trans b) (released ▸ c) d e (released ▸ f) (lost.trans g) (frame.trans h)
      (by rw [room, frame]; exact i)
  | broken a b c d e => exact .broken (needs.trans a) (scheduled.trans b) (released ▸ c) (lost.trans d) (released ▸ e)
  | waiting a b c d => exact .waiting (needs.trans a) (scheduled.trans b) (lost.trans c) (released ▸ d)

/-- A packet of the sender comes in. -/
theorem Inv.stored (inv : Inv sender client half s) {rtpSSRC : Nat} (stream : s.SameStream rtpSSRC)
    (timely : s.reorderingBuffer.Timely half p.rtpSeqNo) (pos : 0 < half) (genuine : Genuine sender p)
    (fresh : p.isFirstPacket = false) : ∃ kept r',
    (s.noteSSRC rtpSSRC).reorderingBuffer.storePacket unbounded p = .ok (kept, r') ∧
      Inv sender client half { s.noteSSRC rtpSSRC with reorderingBuffer := r' } ∧ r'.haveSeenFirstPacket = true := by
  rw [stream.noteSSRC]
  obtain ⟨kept, r', ran, stored, window⟩ := inv.window.storePacket_spec timely pos
  have mem : ∀ q ∈ r'.packets, q = s.reorderingBuffer.marked p ∨ q ∈ s.reorderingBuffer.packets := by
    cases kept with
    | true => exact fun q here => List.mem_cons.1 ((stored.kept rfl).1.mem_iff.1 here)
    | false =>
      rw [(stored.refused rfl).1]
      exact fun q here => .inr here
  refine ⟨kept, r', ran, ⟨window, ?_, fun q here => ?_, inv.saved, inv.phase.congr rfl rfl rfl rfl rfl rfl,
    inv.handed⟩, stored.seen⟩
  · cases seen : s.reorderingBuffer.haveSeenFirstPacket with
    | true =>
      have started : s.reorderingBuffer.started p = s.reorderingBuffer := by simp [ReorderingPacketBuffer.started, seen]
      have marked : s.reorderingBuffer.marked p = p := by simp [ReorderingPacketBuffer.marked, seen]
      have expected : r'.nextExpectedSeqNo = s.reorderingBuffer.nextExpectedSeqNo := by rw [stored.expected, started]
      refine ⟨inv.progress.increasing, fun n last => expected.trans (inv.progress.next n last), fun unseen => ?_,
        fun _ none => ?_, fun q here first => ?_⟩
      · rw [stored.seen] at unseen
        cases unseen
      · obtain ⟨q, here, first, same⟩ := inv.progress.started seen none
        refine ⟨q, ?_, first, same.trans expected.symm⟩
        cases kept with
        | true => exact (stored.kept rfl).1.mem_iff.2 (List.mem_cons_of_mem _ here)
        | false =>
          rw [(stored.refused rfl).1]
          exact here
      · rcases mem q here with rfl | here
        · rw [marked, fresh] at first
          cases first
        · obtain ⟨none, same⟩ := inv.progress.first q here first
          exact ⟨none, same.trans expected.symm⟩
    | false =>
      -- the buffer has the one packet, from which it counts
      have none := inv.progress.unseen seen
      have empty := inv.window.unseen seen
      have expected : r'.nextExpectedSeqNo = p.rtpSeqNo := by
        rw [stored.expected, ReorderingPacketBuffer.started, if_neg (by simp [seen])]
      have first : (s.reorderingBuffer.marked p).isFirstPacket = true := by simp [ReorderingPacketBuffer.marked, seen]
      have only : r'.packets = [s.reorderingBuffer.marked p] := by
        cases kept with
        | true =>
          have perm := (stored.kept rfl).1
          rw [empty] at perm
          exact List.perm_singleton.1 perm
        | false =>
          rcases (stored.refused rfl).2 with old | ⟨q, here, -⟩
          · rw [← stored.expected, expected] at old
            exact absurd old (Nat.lt_irrefl _)
          · rw [empty] at here
            cases here
      refine ⟨inv.progress.increasing, fun n last => ?_, fun _ => none, fun _ _ => ?_, fun q here _ => ⟨none, ?_⟩⟩
      · rw [show s.released = [] from none] at last
        cases last
      · refine ⟨s.reorderingBuffer.marked p, ?_, first, ?_⟩
        · show _ ∈ r'.packets
          rw [only]
          exact List.mem_singleton_self _
        · rw [ReorderingPacketBuffer.marked_rtpSeqNo]
          exact expected.symm
      · rw [only, List.mem_singleton] at here
        rw [here, ReorderingPacketBuffer.marked_rtpSeqNo]
        exact expected.symm
  · rcases mem q here with rfl | here
    · unfold ReorderingPacketBuffer.marked
      split
      · exact genuine
      · exact ⟨⟨genuine.holds.data, genuine.holds.ordered, genuine.holds.inside⟩, genuine.marker, genuine.fresh⟩
    · exact inv.genuine q here

/-- The client takes the frame that waits for the event loop. -/
theorem Inv.afterGetting (inv : Inv sender client half s) (scheduled : s.scheduled = true) :
    Inv sender client half (s.afterGetting client) := by
  refine ⟨inv.window, ⟨inv.progress.increasing, inv.progress.next, inv.progress.unseen, inv.progress.started,
    inv.progress.first⟩, inv.genuine, rfl, ?_, ?_⟩
  · cases inv.phase with
    | clean _ idle | begun _ idle | broken _ idle =>
      rw [scheduled] at idle
      cases idle
    | waiting _ _ sound ended => exact .clean rfl rfl rfl rfl sound ended
  · have same : (s.afterGetting client).handed = s.handed := by
      simp [H264VideoRTPSource.handed, H264VideoRTPSource.afterGetting, getNextFrame, scheduled]
    rw [same]
    exact inv.handed

theorem inv_playing (sender : Sender) (thresholdTime client half nextExpectedSeqNo : Nat) :
    Inv sender client half (playing thresholdTime client nextExpectedSeqNo) where
  window := ⟨List.Pairwise.nil, fun _ mem => (List.not_mem_nil mem).elim, fun _ => rfl⟩
  progress := ⟨List.Pairwise.nil, fun _ last => (nomatch last), fun _ => rfl, fun seen => (nomatch seen),
    fun _ mem => (List.not_mem_nil mem).elim⟩
  genuine _ mem := (List.not_mem_nil mem).elim
  saved := rfl
  phase := .clean rfl rfl rfl rfl rfl fun _ last => nomatch last
  handed := rfl

end Round

end H264VideoRTPSource

end CameraEv
