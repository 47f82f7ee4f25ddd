import CameraEv.Decoder.DecoderDefine
import CameraEv.Lib.Exec
import CameraEv.Lib.SerialNumber

/-!
# `ReorderingPacketBuffer`: packets in the order of their sequence numbers

The buffer is a list of packets, sorted by their 16-bit sequence numbers. The code
is written over a `Counters`, `rtp` for the numbers in the packets' headers and
`unbounded` for numbers that never wrap. As long as every packet arrives less than
half a turn away from the one that is expected next, the buffer does on the former
what it does on the latter (`storePacket_map`, `getNextCompletedPacket_map`).
-/

namespace CameraEv

open Exec SerialNumber

/-- `BufferedPacket`: `buf` is its memory, and the usable data are the bytes from `head` up to `tail`. -/
structure BufferedPacket (σ : Type) where
  buf : List UInt8
  head : Nat := 0
  tail : Nat
  useCount : Nat := 0
  rtpSeqNo : σ
  presentationTime : Timeval
  rtpMarkerBit : Bool
  isFirstPacket : Bool := false
  /-- In microseconds. -/
  timeReceived : Int

namespace BufferedPacket

variable {σ τ : Type}

def map (number : σ → τ) (p : BufferedPacket σ) : BufferedPacket τ := { p with rtpSeqNo := number p.rtpSeqNo }

@[simp] theorem map_rtpSeqNo (number : σ → τ) (p : BufferedPacket σ) : (p.map number).rtpSeqNo = number p.rtpSeqNo :=
  rfl

end BufferedPacket

/-- `seqNumLT` on the numbers as they are read from the headers. -/
def seqNumLT (s1 s2 : UInt16) : Bool :=
  let diff : Int := s2.toNat - s1.toNat
  if diff > 0 then diff < 0x8000 else if diff < 0 then diff < -0x8000 else false

/-- 16-bit sequence numbers. -/
def rtp : Counters UInt16 where
  lt := seqNumLT
  next s := s + 1

theorem seqNumLT_eq (s1 s2 : UInt16) : seqNumLT s1 s2 = halfTurn 0x8000 s1.toNat s2.toNat := by
  rcases Nat.lt_trichotomy s1.toNat s2.toNat with lt | eq | gt
  · rw [seqNumLT, halfTurn, if_pos (by omega), if_pos lt, decide_eq_decide]
    omega
  · rw [seqNumLT, halfTurn, if_neg (by omega), if_neg (by omega), if_neg (by omega), if_neg (by omega)]
  · rw [seqNumLT, halfTurn, if_neg (by omega), if_pos (by omega), if_neg (by omega), if_pos gt, decide_eq_decide]
    omega

theorem rtp_represents : Represents rtp 0x8000 UInt16.ofNat where
  lt near := by
    rw [← halfTurn_mod near]
    exact seqNumLT_eq _ _
  inj near same := eq_of_mod_eq near (congrArg UInt16.toNat same)
  next i := by
    show UInt16.ofNat (i + 1) = UInt16.ofNat i + 1
    simp

/-- `nextExpectedSeqNo` counts once a packet has been seen. -/
structure ReorderingPacketBuffer (σ : Type) where
  /-- In microseconds. -/
  thresholdTime : Nat := 100000
  haveSeenFirstPacket : Bool := false
  nextExpectedSeqNo : σ
  packets : List (BufferedPacket σ) := []

namespace ReorderingPacketBuffer

section Code

variable {σ : Type} [DecidableEq σ]

/-- The walk of `storePacket` from the head to where the packet belongs, nothing for a duplicate. A packet that is found
to be neither behind the last packet nor before one is linked behind it without becoming the last:
this is not followed. -/
def link (N : Counters σ) (b : BufferedPacket σ) : List (BufferedPacket σ) → Exec (Option (List (BufferedPacket σ)))
  | [] => throw .fault
  | p :: ps =>
    if N.lt b.rtpSeqNo p.rtpSeqNo then return some (b :: p :: ps)
    else if b.rtpSeqNo = p.rtpSeqNo then return none
    else do
      let linked ← link N b ps
      return linked.map (p :: ·)

/-- The result is whether the packet was stored. -/
def storePacket (N : Counters σ) (r : ReorderingPacketBuffer σ) (b : BufferedPacket σ) :
    Exec (Bool × ReorderingPacketBuffer σ) :=
  let first := !r.haveSeenFirstPacket
  let r := if first then { r with nextExpectedSeqNo := b.rtpSeqNo, haveSeenFirstPacket := true } else r
  let b := if first then { b with isFirstPacket := true } else b
  if N.lt b.rtpSeqNo r.nextExpectedSeqNo then return (false, r)
  else match r.packets.getLast? with
    | none => return (true, { r with packets := [b] })
    | some tail =>
      if N.lt tail.rtpSeqNo b.rtpSeqNo then return (true, { r with packets := r.packets ++ [b] })
      else if b.rtpSeqNo = tail.rtpSeqNo then return (false, r)
      else do
        match ← link N b r.packets with
        | some packets => return (true, { r with packets })
        | none => return (false, r)

/-- Unsigned 32-bit arithmetic. -/
def timeThresholdHasBeenExceeded (r : ReorderingPacketBuffer σ) (p : BufferedPacket σ) (timeNow : Int) : Bool :=
  r.thresholdTime = 0 ∨ r.thresholdTime < (timeNow - p.timeReceived) % 2 ^ 32

/-- The packet, and whether packets before it are missing. -/
def getNextCompletedPacket (r : ReorderingPacketBuffer σ) (timeNow : Int) :
    Option ((BufferedPacket σ × Bool) × ReorderingPacketBuffer σ) :=
  match r.packets with
  | [] => none
  | p :: _ =>
    if p.rtpSeqNo = r.nextExpectedSeqNo then some ((p, p.isFirstPacket), r)
    else if r.timeThresholdHasBeenExceeded p timeNow then some ((p, true), { r with nextExpectedSeqNo := p.rtpSeqNo })
    else none

/-- For the packet at the head. -/
def releaseUsedPacket (N : Counters σ) (r : ReorderingPacketBuffer σ) : ReorderingPacketBuffer σ :=
  { r with nextExpectedSeqNo := N.next r.nextExpectedSeqNo, packets := r.packets.tail }

end Code

/-! ## Unbounded numbers -/

/-- Later numbers come later, none is before the expected one, and none is half a turn behind it. -/
structure Window (half : Nat) (r : ReorderingPacketBuffer Nat) : Prop where
  sorted : r.packets.Pairwise fun p q => p.rtpSeqNo < q.rtpSeqNo
  ahead : ∀ p ∈ r.packets, r.nextExpectedSeqNo ≤ p.rtpSeqNo ∧ p.rtpSeqNo < r.nextExpectedSeqNo + half
  unseen : r.haveSeenFirstPacket = false → r.packets = []

/-- The packet has arrived less than half a turn away from the expected one. -/
def Timely (half : Nat) (r : ReorderingPacketBuffer Nat) (n : Nat) : Prop :=
  r.haveSeenFirstPacket = true → Near half n r.nextExpectedSeqNo

instance (half : Nat) (r : ReorderingPacketBuffer Nat) (n : Nat) : Decidable (r.Timely half n) :=
  inferInstanceAs (Decidable (_ → _))

/-- The packet as it is stored. -/
def marked {σ : Type} (r : ReorderingPacketBuffer σ) (b : BufferedPacket σ) : BufferedPacket σ :=
  if r.haveSeenFirstPacket then b else { b with isFirstPacket := true }

/-- The buffer once it has seen a packet. -/
def started {σ : Type} (r : ReorderingPacketBuffer σ) (b : BufferedPacket σ) : ReorderingPacketBuffer σ :=
  if r.haveSeenFirstPacket then r else { r with nextExpectedSeqNo := b.rtpSeqNo, haveSeenFirstPacket := true }

section Started

variable {σ : Type} (r : ReorderingPacketBuffer σ) (b : BufferedPacket σ)

@[simp] theorem marked_rtpSeqNo : (r.marked b).rtpSeqNo = b.rtpSeqNo := by
  unfold marked
  split <;> rfl

@[simp] theorem started_packets : (r.started b).packets = r.packets := by
  unfold started
  split <;> rfl

@[simp] theorem started_haveSeenFirstPacket : (r.started b).haveSeenFirstPacket = true := by
  unfold started
  split
  · assumption
  · rfl

/-- `storePacket` behind the initialization. -/
theorem storePacket_eq [DecidableEq σ] (N : Counters σ) : r.storePacket N b =
    if N.lt b.rtpSeqNo (r.started b).nextExpectedSeqNo then return (false, r.started b)
    else match r.packets.getLast? with
      | none => return (true, { r.started b with packets := [r.marked b] })
      | some tail =>
        if N.lt tail.rtpSeqNo b.rtpSeqNo then return (true, { r.started b with packets := r.packets ++ [r.marked b] })
        else if b.rtpSeqNo = tail.rtpSeqNo then return (false, r.started b)
        else do
          match ← link N (r.marked b) r.packets with
          | some packets => return (true, { r.started b with packets })
          | none => return (false, r.started b) := by
  unfold storePacket marked started
  cases r.haveSeenFirstPacket <;> rfl

end Started

section Unbounded

variable {half : Nat} {r : ReorderingPacketBuffer Nat} {b : BufferedPacket Nat} {ps : List (BufferedPacket Nat)}

/-- The walk finds the packet's place in front of a later one, unless it meets the packet itself. -/
theorem link_spec (sorted : ps.Pairwise fun p q => p.rtpSeqNo < q.rtpSeqNo)
    (later : ∃ p ∈ ps, b.rtpSeqNo < p.rtpSeqNo) :
    (link unbounded b ps = .ok none ∧ ∃ p ∈ ps, p.rtpSeqNo = b.rtpSeqNo) ∨
      ∃ qs, link unbounded b ps = .ok (some qs) ∧ qs.Perm (b :: ps) ∧
        qs.Pairwise fun p q => p.rtpSeqNo < q.rtpSeqNo := by
  induction ps with
  | nil =>
    obtain ⟨p, mem, -⟩ := later
    cases mem
  | cons p ps ih =>
    obtain ⟨first, sorted⟩ := List.pairwise_cons.1 sorted
    by_cases before : b.rtpSeqNo < p.rtpSeqNo
    · refine .inr ⟨b :: p :: ps, ?_, List.Perm.refl _, List.pairwise_cons.2 ⟨fun q mem => ?_, ?_⟩⟩
      · simp [link, before]
      · rcases List.mem_cons.1 mem with rfl | mem
        · exact before
        · exact before.trans (first q mem)
      · exact List.pairwise_cons.2 ⟨first, sorted⟩
    by_cases same : b.rtpSeqNo = p.rtpSeqNo
    · exact .inl ⟨by simp [link, same], p, List.mem_cons_self, same.symm⟩
    have rest : ∃ q ∈ ps, b.rtpSeqNo < q.rtpSeqNo := by
      obtain ⟨q, mem, lt⟩ := later
      rcases List.mem_cons.1 mem with rfl | mem
      · exact absurd lt before
      · exact ⟨q, mem, lt⟩
    rcases ih sorted rest with ⟨none, q, mem, eq⟩ | ⟨qs, some, perm, sorted'⟩
    · exact .inl ⟨by simp [link, before, same, none], q, List.mem_cons_of_mem p mem, eq⟩
    · refine .inr ⟨p :: qs, by simp [link, before, same, some], ?_, List.pairwise_cons.2 ⟨fun q mem => ?_, sorted'⟩⟩
      · exact (perm.cons p).trans (List.Perm.swap b p ps)
      · rcases List.mem_cons.1 (perm.mem_iff.1 mem) with rfl | mem
        · omega
        · exact first q mem

/-- What `storePacket` does: it keeps the packet unless that is too old or already there. -/
structure Stored (r : ReorderingPacketBuffer Nat) (b : BufferedPacket Nat) (stored : Bool)
    (r' : ReorderingPacketBuffer Nat) :
    Prop where
  seen : r'.haveSeenFirstPacket = true
  expected : r'.nextExpectedSeqNo = (r.started b).nextExpectedSeqNo
  kept : stored = true → r'.packets.Perm (r.marked b :: r.packets) ∧ (r.started b).nextExpectedSeqNo ≤ b.rtpSeqNo
  refused : stored = false → r'.packets = r.packets ∧
    (b.rtpSeqNo < (r.started b).nextExpectedSeqNo ∨ ∃ p ∈ r.packets, p.rtpSeqNo = b.rtpSeqNo)

theorem Window.storePacket_spec (window : r.Window half) (timely : r.Timely half b.rtpSeqNo) (pos : 0 < half) :
    ∃ stored r', r.storePacket unbounded b = .ok (stored, r') ∧ Stored r b stored r' ∧ r'.Window half := by
  have expected : (r.started b).nextExpectedSeqNo ≤ b.rtpSeqNo →
      b.rtpSeqNo < (r.started b).nextExpectedSeqNo + half := by
    intro _
    unfold started
    split
    · rename_i seen
      exact (timely seen).left
    · exact Nat.lt_add_of_pos_right pos
  have ahead : ∀ p ∈ r.packets, (r.started b).nextExpectedSeqNo ≤ p.rtpSeqNo ∧
      p.rtpSeqNo < (r.started b).nextExpectedSeqNo + half := by
    intro p mem
    cases seen : r.haveSeenFirstPacket with
    | true =>
      have same : r.started b = r := by simp [started, seen]
      rw [same]
      exact window.ahead p mem
    | false =>
      rw [window.unseen seen] at mem
      cases mem
  -- the buffer with the packet in it
  have keeps {packets : List (BufferedPacket Nat)} (small : (r.started b).nextExpectedSeqNo ≤ b.rtpSeqNo)
      (perm : packets.Perm (r.marked b :: r.packets)) (sorted : packets.Pairwise fun p q => p.rtpSeqNo < q.rtpSeqNo) :
      Stored r b true { r.started b with packets } ∧ Window half { r.started b with packets } := by
    refine ⟨⟨by simp, rfl, fun _ => ⟨perm, small⟩, by simp⟩, sorted, fun p mem => ?_, by simp⟩
    rcases List.mem_cons.1 (perm.mem_iff.1 mem) with rfl | mem
    · rw [marked_rtpSeqNo]
      exact ⟨small, expected small⟩
    · exact ahead p mem
  have refuses (why : b.rtpSeqNo < (r.started b).nextExpectedSeqNo ∨ ∃ p ∈ r.packets, p.rtpSeqNo = b.rtpSeqNo) :
      Stored r b false (r.started b) ∧ Window half (r.started b) := by
    refine ⟨⟨by simp, rfl, by simp, fun _ => ⟨by simp, why⟩⟩, ?_, ?_, by simp⟩
    · rw [started_packets]
      exact window.sorted
    · rw [started_packets]
      exact ahead
  rw [storePacket_eq]
  by_cases old : b.rtpSeqNo < (r.started b).nextExpectedSeqNo
  · exact ⟨false, r.started b, by simp [old], refuses (.inl old)⟩
  have small : (r.started b).nextExpectedSeqNo ≤ b.rtpSeqNo := Nat.le_of_not_lt old
  simp only [unbounded_lt, old, decide_false, Bool.false_eq_true, if_false]
  cases last : r.packets.getLast? with
  | none =>
    have empty : r.packets = [] := List.getLast?_eq_none_iff.1 last
    exact ⟨true, _, rfl, keeps small (by rw [empty]) (List.pairwise_singleton _ _)⟩
  | some tail =>
    have mem : tail ∈ r.packets := List.mem_of_getLast? last
    by_cases behind : tail.rtpSeqNo < b.rtpSeqNo
    · refine ⟨true, _, by simp [behind], keeps small (List.perm_append_singleton _ _) ?_⟩
      obtain ⟨earlier, split⟩ := List.getLast?_eq_some_iff.1 last
      have sorted := window.sorted
      rw [split] at sorted ⊢
      refine List.pairwise_append.2 ⟨sorted, List.pairwise_singleton _ _, fun p mem q here => ?_⟩
      rw [List.mem_singleton.1 here, marked_rtpSeqNo]
      rcases List.mem_append.1 mem with mem | mem
      · exact ((List.pairwise_append.1 sorted).2.2 p mem tail (List.mem_singleton_self tail)).trans behind
      · rw [List.mem_singleton.1 mem]
        exact behind
    by_cases same : b.rtpSeqNo = tail.rtpSeqNo
    · exact ⟨false, r.started b, by simp [same], refuses (.inr ⟨tail, mem, same.symm⟩)⟩
    rcases link_spec (b := r.marked b) window.sorted ⟨tail, mem, by rw [marked_rtpSeqNo]; omega⟩ with
      ⟨none, p, there, eq⟩ | ⟨qs, some, perm, sorted⟩
    · rw [marked_rtpSeqNo] at eq
      exact ⟨false, r.started b, by simp [behind, same, none], refuses (.inr ⟨p, there, eq⟩)⟩
    · exact ⟨true, _, by simp [behind, same, some], keeps small perm sorted⟩

/-- Half a turn of numbers is all that can wait. -/
theorem Window.length_le (window : r.Window half) : r.packets.length ≤ half := by
  have distinct : (r.packets.map BufferedPacket.rtpSeqNo).Nodup :=
    List.pairwise_map.2 (window.sorted.imp fun lt => Nat.ne_of_lt lt)
  have inside : (r.packets.map BufferedPacket.rtpSeqNo).toFinset ⊆
      Finset.Ico r.nextExpectedSeqNo (r.nextExpectedSeqNo + half) := by
    intro n mem
    obtain ⟨p, here, rfl⟩ := List.mem_map.1 (List.mem_toFinset.1 mem)
    exact Finset.mem_Ico.2 (window.ahead p here)
  have few := Finset.card_le_card inside
  rwa [List.toFinset_card_of_nodup distinct, List.length_map, Nat.card_Ico, Nat.add_sub_cancel_left] at few

/-- What `getNextCompletedPacket` hands out: the packet at the head, with a gap before it that was given up, or none. -/
structure Completed (r : ReorderingPacketBuffer Nat) (p : BufferedPacket Nat) (loss : Bool)
    (r' : ReorderingPacketBuffer Nat) :
    Prop where
  head : ∃ ps, r.packets = p :: ps
  given : r' = { r with nextExpectedSeqNo := p.rtpSeqNo }
  none : loss = false → p.rtpSeqNo = r.nextExpectedSeqNo ∧ p.isFirstPacket = false
  gap : loss = true → p.isFirstPacket = true ∨ p.rtpSeqNo ≠ r.nextExpectedSeqNo

theorem getNextCompletedPacket_spec {timeNow : Int} {p : BufferedPacket Nat} {loss : Bool}
    {r' : ReorderingPacketBuffer Nat}
    (h : r.getNextCompletedPacket timeNow = some ((p, loss), r')) : Completed r p loss r' := by
  unfold getNextCompletedPacket at h
  split at h
  · cases h
  rename_i q ps packets
  split at h
  · rename_i expected
    cases h
    exact ⟨⟨ps, packets⟩, by rw [expected], fun first => ⟨expected, first⟩, fun first => .inl first⟩
  split at h
  · rename_i ahead _
    cases h
    exact ⟨⟨ps, packets⟩, rfl, by simp, fun _ => .inr ahead⟩
  · cases h

theorem Window.completed (window : r.Window half) {p : BufferedPacket Nat} {loss : Bool}
    {r' : ReorderingPacketBuffer Nat}
    (completed : Completed r p loss r') : r'.Window half := by
  obtain ⟨⟨ps, packets⟩, rfl, -, -⟩ := completed
  have sorted := window.sorted
  rw [packets, List.pairwise_cons] at sorted
  have first := window.ahead p (by rw [packets]; exact List.mem_cons_self)
  refine ⟨window.sorted, fun q mem => ?_, window.unseen⟩
  have upper := (window.ahead q mem).2
  show p.rtpSeqNo ≤ q.rtpSeqNo ∧ q.rtpSeqNo < p.rtpSeqNo + half
  simp only [packets, List.mem_cons] at mem
  rcases mem with rfl | mem
  · omega
  · have later := sorted.1 q mem
    omega

/-- The packet at the head, which is the expected one, is used up. -/
theorem Window.released (window : r.Window half) {p : BufferedPacket Nat} {ps : List (BufferedPacket Nat)}
    (packets : r.packets = p :: ps) (expected : r.nextExpectedSeqNo = p.rtpSeqNo) :
    (r.releaseUsedPacket unbounded).Window half := by
  have sorted := window.sorted
  rw [packets, List.pairwise_cons] at sorted
  refine ⟨?_, fun q mem => ?_, fun unseen => ?_⟩
  · simp only [releaseUsedPacket, packets, List.tail_cons]
    exact sorted.2
  · simp only [releaseUsedPacket, packets, List.tail_cons, unbounded_next] at mem ⊢
    have later := sorted.1 q mem
    have upper := (window.ahead q (by rw [packets]; exact List.mem_cons_of_mem p mem)).2
    omega
  · have none := window.unseen unseen
    rw [packets] at none
    cases none

end Unbounded

/-! ## Numbers that wrap -/

section Map

variable {σ : Type}

def map (number : Nat → σ) (r : ReorderingPacketBuffer Nat) : ReorderingPacketBuffer σ where
  thresholdTime := r.thresholdTime
  haveSeenFirstPacket := r.haveSeenFirstPacket
  nextExpectedSeqNo := number r.nextExpectedSeqNo
  packets := r.packets.map (·.map number)

variable {number : Nat → σ} {r : ReorderingPacketBuffer Nat} {b : BufferedPacket Nat}

theorem map_started : (r.map number).started (b.map number) = (r.started b).map number := by
  unfold started
  cases seen : r.haveSeenFirstPacket <;> simp [map, seen]

theorem map_marked : (r.map number).marked (b.map number) = (r.marked b).map number := by
  unfold marked
  cases seen : r.haveSeenFirstPacket <;> simp [map, seen, BufferedPacket.map]

variable [DecidableEq σ] {N : Counters σ} {half : Nat} (rep : Represents N half number)

include rep

theorem link_map {ps : List (BufferedPacket Nat)} (near : ∀ p ∈ ps, Near half b.rtpSeqNo p.rtpSeqNo) :
    link N (b.map number) (ps.map (·.map number)) =
      (link unbounded b ps).map (Option.map (List.map (·.map number))) := by
  induction ps with
  | nil => rfl
  | cons p ps ih =>
    have here := near p List.mem_cons_self
    have same : number b.rtpSeqNo = number p.rtpSeqNo ↔ b.rtpSeqNo = p.rtpSeqNo := ⟨rep.inj here, congrArg number⟩
    simp only [List.map_cons, link, BufferedPacket.map_rtpSeqNo, rep.lt here, unbounded_lt, same,
      ih fun q mem => near q (List.mem_cons_of_mem p mem)]
    by_cases before : b.rtpSeqNo < p.rtpSeqNo
    · simp only [before, decide_true, if_true]
      rfl
    by_cases eq : b.rtpSeqNo = p.rtpSeqNo
    · simp only [eq, Nat.lt_irrefl, decide_false, Bool.false_eq_true, if_true, if_false]
      rfl
    simp only [before, eq, decide_false, Bool.false_eq_true, if_false]
    cases link unbounded b ps with
    | error e => rfl
    | ok linked => cases linked <;> rfl

/-- **16 bits are enough for `storePacket`** when the packet arrives in time. -/
theorem storePacket_map (window : r.Window half) (timely : r.Timely half b.rtpSeqNo) (pos : 0 < half) :
    (r.map number).storePacket N (b.map number) =
      (r.storePacket unbounded b).map fun result => (result.1, result.2.map number) := by
  have expected : Near half b.rtpSeqNo (r.started b).nextExpectedSeqNo := by
    unfold started
    split
    · rename_i seen
      exact timely seen
    · exact ⟨Nat.lt_add_of_pos_right pos, Nat.lt_add_of_pos_right pos⟩
  have started' : ((r.started b).map number).nextExpectedSeqNo = number (r.started b).nextExpectedSeqNo := rfl
  have packets : (r.map number).packets = r.packets.map (·.map number) := rfl
  rw [storePacket_eq, storePacket_eq, map_started, map_marked, started', BufferedPacket.map_rtpSeqNo, rep.lt expected,
    unbounded_lt, packets, List.getLast?_map]
  by_cases old : b.rtpSeqNo < (r.started b).nextExpectedSeqNo
  · simp only [old, decide_true, if_true]
    rfl
  simp only [old, decide_false, Bool.false_eq_true, if_false]
  cases last : r.packets.getLast? with
  | none => rfl
  | some tail =>
    have mem : tail ∈ r.packets := List.mem_of_getLast? last
    have near (p : BufferedPacket Nat) (mem : p ∈ r.packets) : Near half b.rtpSeqNo p.rtpSeqNo := by
      cases seen : r.haveSeenFirstPacket with
      | true =>
        have same : r.started b = r := by simp [started, seen]
        rw [same] at old
        obtain ⟨lower, upper⟩ := window.ahead p mem
        exact near_of_ahead (Nat.le_of_not_lt old) (timely seen).left lower upper
      | false =>
        rw [window.unseen seen] at mem
        cases mem
    have same : number b.rtpSeqNo = number tail.rtpSeqNo ↔ b.rtpSeqNo = tail.rtpSeqNo :=
      ⟨rep.inj (near tail mem), congrArg number⟩
    have aside : ∀ p ∈ r.packets, Near half (r.marked b).rtpSeqNo p.rtpSeqNo := fun p mem => by
      rw [marked_rtpSeqNo]
      exact near p mem
    have walked := link_map rep aside
    simp only [Option.map_some, BufferedPacket.map_rtpSeqNo, rep.lt (near tail mem).symm, unbounded_lt, same, walked]
    by_cases behind : tail.rtpSeqNo < b.rtpSeqNo
    · simp only [behind, decide_true, if_true, map, Except.map, pure_eq_ok, List.map_append, List.map_cons,
        List.map_nil]
    by_cases eq : b.rtpSeqNo = tail.rtpSeqNo
    · simp only [eq, Nat.lt_irrefl, decide_false, Bool.false_eq_true, if_true, if_false]
      rfl
    simp only [behind, eq, decide_false, Bool.false_eq_true, if_false]
    cases link unbounded (r.marked b) r.packets with
    | error e => rfl
    | ok linked => cases linked <;> rfl

theorem getNextCompletedPacket_map (window : r.Window half) (timeNow : Int) :
    (r.map number).getNextCompletedPacket timeNow =
      (r.getNextCompletedPacket timeNow).map fun result =>
        ((result.1.1.map number, result.1.2), result.2.map number) := by
  unfold getNextCompletedPacket
  cases packets : r.packets with
  | nil => simp [map, packets]
  | cons p ps =>
    have first := window.ahead p (by rw [packets]; exact List.mem_cons_self)
    have same : number p.rtpSeqNo = number r.nextExpectedSeqNo ↔ p.rtpSeqNo = r.nextExpectedSeqNo :=
      ⟨rep.inj ⟨by omega, by omega⟩, congrArg number⟩
    have expired : (r.map number).timeThresholdHasBeenExceeded (p.map number) timeNow =
        r.timeThresholdHasBeenExceeded p timeNow := rfl
    simp only [map, packets, List.map_cons, BufferedPacket.map_rtpSeqNo, same] at expired ⊢
    rw [expired]
    by_cases expected : p.rtpSeqNo = r.nextExpectedSeqNo
    · simp only [expected, if_true, Option.map_some, packets, List.map_cons]
      rfl
    cases r.timeThresholdHasBeenExceeded p timeNow <;>
      simp only [expected, if_true, if_false, Bool.false_eq_true, Option.map_some, Option.map_none, List.map_cons]

omit [DecidableEq σ] in
theorem releaseUsedPacket_map :
    (r.map number).releaseUsedPacket N = (r.releaseUsedPacket unbounded).map number := by
  simp only [releaseUsedPacket, map, rep.next, unbounded_next, List.map_tail]

end Map

end ReorderingPacketBuffer

end CameraEv
