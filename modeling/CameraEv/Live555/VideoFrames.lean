import CameraEv.Live555.RtpOverTcp

/-!
# Frames out of packets

The source calls the sink with one NAL unit after the other, and the sink makes frames
of them. An access unit of the sender comes out as a frame of its own if the source has
taken all of its packets and the NAL unit that it handed over before them, if there is
one, was the last of an access unit. Over TCP that is so for every access unit.
-/

namespace CameraEv

open Exec SerialNumber Trace TcpFraming

namespace H264Sink

/-! ## The sink behind the source -/

/-- The call of `afterGettingFrame`, with the frame in the sink's buffer. -/
def takeDelivered (s : H264Sink) (d : Delivered) : Option SessionVideoFrame × H264Sink :=
  (s.getNextFrame d.frame).afterGettingFrame d.frame.length (some d.curPacketMarkerBit) d.presentationTime

/-- The frames of the calls, and the sink. -/
def takeAll (s : H264Sink) : List Delivered → List SessionVideoFrame × H264Sink
  | [] => ([], s)
  | d :: ds => ((s.takeDelivered d).1.toList ++ ((s.takeDelivered d).2.takeAll ds).1, ((s.takeDelivered d).2.takeAll ds).2)

/-- Start code and NAL unit, one after the other. -/
def startCoded (nals : List (List UInt8)) : List UInt8 := nals.flatMap fun nal => h264StartCode ++ nal

/-- The bytes of the frame of an access unit: the header stands before the last NAL unit. -/
def frameBytes (header : ArrayEx 1024) (earlier : List (List UInt8)) (marked : List UInt8) : List UInt8 :=
  startCoded earlier ++ header.bytes ++ startCoded [marked]

/-- Each NAL unit has room in `m_rtp_packet_buffer`, and the frame in `m_received_buffer`. -/
def HasRoom (header : ArrayEx 1024) (nals : List (List UInt8)) : Prop :=
  (∀ nal ∈ nals, nal.length ≤ rtpPacketBufferSize) ∧ header.len + (startCoded nals).length ≤ capacity

instance (header : ArrayEx 1024) (nals : List (List UInt8)) : Decidable (HasRoom header nals) :=
  inferInstanceAs (Decidable (_ ∧ _))

section Taken

variable {s : H264Sink} {d : Delivered} {ds : List Delivered} {p : Packet} {ps before after : List Packet}
  {header : ArrayEx 1024} {earlier : List Nal}

/-- What was handed over as a packet of the sink. -/
structure Carried (d : Delivered) (p : Packet) : Prop where
  frame : d.frame = p.nal.bytes
  marker : d.curPacketMarkerBit = p.marker
  time : d.presentationTime = p.presentationTime

theorem takeDelivered_eq (carried : Carried d p) : s.takeDelivered d = s.receivePacket p := by
  rw [takeDelivered, carried.frame, carried.marker, carried.time, receivePacket]

theorem takeAll_eq (carried : List.Forall₂ Carried ds ps) : s.takeAll ds = s.receive ps := by
  induction carried generalizing s with
  | nil => rfl
  | cons same _ ih => rw [takeAll, receive, takeDelivered_eq same, ih]

/-- The source hands over what a packet of the sink can be. -/
theorem exists_carried (nonempty : ∀ d ∈ ds, d.frame ≠ []) (small : ∀ d ∈ ds, d.frame.length ≤ rtpPacketBufferSize) :
    ∃ ps, List.Forall₂ Carried ds ps := by
  induction ds with
  | nil => exact ⟨[], .nil⟩
  | cons d ds ih =>
    obtain ⟨ps, carried⟩ := ih (fun d mem => nonempty d (List.mem_cons_of_mem _ mem))
      (fun d mem => small d (List.mem_cons_of_mem _ mem))
    let nal : Nal := ⟨d.frame, nonempty d List.mem_cons_self, small d List.mem_cons_self⟩
    exact ⟨⟨nal, d.curPacketMarkerBit, d.presentationTime⟩ :: ps, .cons ⟨rfl, rfl, rfl⟩ carried⟩

/-- A marker is where the next access unit begins. -/
theorem accessUnits_marked (marked : p.marker = true) :
    accessUnits earlier (before ++ p :: after) = accessUnits earlier (before ++ [p]) ++ accessUnits [] after := by
  induction before generalizing earlier with
  | nil => simp only [List.nil_append, accessUnits, marked, if_true, List.cons_append]
  | cons q before ih =>
    simp only [List.cons_append, accessUnits]
    split
    · rw [ih, List.cons_append]
    · exact ih

theorem accessUnits_unmarked (unmarked : ∀ q ∈ ps, q.marker = false) (marked : p.marker = true) :
    accessUnits earlier (ps ++ p :: after) =
      ⟨earlier ++ ps.map Packet.nal, p.nal, p.presentationTime⟩ :: accessUnits [] after := by
  induction ps generalizing earlier with
  | nil => simp only [List.nil_append, accessUnits, marked, if_true, List.map_nil, List.append_nil]
  | cons q ps ih =>
    obtain ⟨here, rest⟩ := List.forall_mem_cons.1 unmarked
    simp only [List.cons_append, accessUnits, here, Bool.false_eq_true, if_false]
    rw [ih rest, List.map_cons, List.append_assoc, List.singleton_append]

/-- An access unit between two markers. -/
theorem accessUnits_at (ended : ∀ q ∈ before.getLast?, q.marker = true) (unmarked : ∀ q ∈ ps, q.marker = false)
    (marked : p.marker = true) :
    (accessUnits [] (before ++ (ps ++ p :: after)))[before.countP Packet.marker]? =
      some ⟨ps.map Packet.nal, p.nal, p.presentationTime⟩ := by
  have here := @accessUnits_unmarked p ps after [] unmarked marked
  rcases List.eq_nil_or_concat before with rfl | ⟨before, q, rfl⟩
  · simp only [List.nil_append, here, List.countP_nil, List.getElem?_cons_zero]
  · rw [List.concat_eq_append] at ended ⊢
    have last : q.marker = true := ended q (by simp)
    have count : (accessUnits [] (before ++ [q])).length = (before ++ [q]).countP Packet.marker :=
      length_accessUnits [] (before ++ [q])
    rw [List.append_assoc, List.singleton_append, accessUnits_marked last, ← count,
      List.getElem?_append_right (Nat.le_refl _), Nat.sub_self, here]
    simp only [List.nil_append, List.getElem?_cons_zero]

theorem startCoded_bytes (units : List Nal) : startCoded (units.map Nal.bytes) = annexB units :=
  List.flatMap_map ..

theorem unitType_eq (nal : Nal) : nal.unitType = nal.bytes.headD 0 &&& 0x1F := by
  obtain ⟨bytes, nonempty, small⟩ := nal
  cases bytes with
  | nil => exact absurd rfl nonempty
  | cons first rest => rfl

/-- The frame of an access unit for which there is room. -/
theorem delivered_of_room {au : AccessUnit} (room : HasRoom header (au.units.map Nal.bytes)) :
    (delivered header au).sBuffer = frameBytes header (au.earlier.map Nal.bytes) au.marked.bytes := by
  have fits : Fits header au := by
    have length := room.2
    rwa [startCoded_bytes] at length
  refine (assembled_of_fits fits).trans ?_
  rw [frameBytes, startCoded_bytes, ← startCoded_bytes [au.marked], List.map_singleton]

/-- What the packets have of what was handed over. -/
theorem map_carried (carried : List.Forall₂ Carried ds ps) :
    ps.map (fun p => (p.nal.bytes, p.marker)) = ds.map fun d => (d.frame, d.curPacketMarkerBit) := by
  induction carried with
  | nil => rfl
  | cons same _ ih => rw [List.map_cons, List.map_cons, ih, same.frame, same.marker]

/-- NAL units and their marker bits, cut to the size of the sink's buffer. -/
def cut (units : List (List UInt8 × Bool)) : List (List UInt8 × Bool) :=
  units.map fun unit => (unit.1.take rtpPacketBufferSize, unit.2)

theorem countP_cut (units : List (List UInt8 × Bool)) : (cut units).countP Prod.snd = units.countP Prod.snd :=
  List.countP_map ..

/-- What a sender's NAL units come out as. -/
structure FrameOf (header : ArrayEx 1024) (earlier : List (List UInt8)) (marked : List UInt8)
    (frame : SessionVideoFrame) : Prop where
  bytes : frame.sBuffer = frameBytes header earlier marked
  keyFrame : frame.keyFrame = decide (marked.headD 0 &&& 0x1F = 5)

section Frames

variable {units units' : List (List UInt8 × Bool)} {nals : List (List UInt8)} {marked : List UInt8} {memory : List UInt8}

/-- The packets of the sink for what the source hands over. -/
theorem exists_packets (handed : ds.map (fun d => (d.frame, d.curPacketMarkerBit)) = cut units)
    (nonempty : ∀ unit ∈ units, unit.1 ≠ []) :
    ∃ ps, ps.map (fun p => (p.nal.bytes, p.marker)) = cut units ∧
      ((start header memory).takeAll ds).1 = (accessUnits [] ps).map (delivered header) := by
  have unit : ∀ d ∈ ds, ∃ unit ∈ units, d.frame = unit.1.take rtpPacketBufferSize := by
    intro d mem
    have here : (d.frame, d.curPacketMarkerBit) ∈ cut units := handed ▸ List.mem_map_of_mem mem
    obtain ⟨unit, mem, same⟩ := List.mem_map.1 here
    exact ⟨unit, mem, (congrArg Prod.fst same).symm⟩
  have pos : 0 < rtpPacketBufferSize := by decide
  obtain ⟨ps, carried⟩ := @exists_carried ds
    (fun d mem => by
      obtain ⟨unit, mem, same⟩ := unit d mem
      rw [same]
      exact mt (fun h => (List.take_eq_nil_iff.1 h).resolve_left (by omega)) (nonempty unit mem))
    (fun d mem => by
      obtain ⟨unit, mem, same⟩ := unit d mem
      rw [same, List.length_take]
      exact Nat.min_le_left _ _)
  refine ⟨ps, (map_carried carried).trans handed, ?_⟩
  rw [takeAll_eq carried, @receive_eq (start header memory) [] ps rfl rfl]
  rfl

/-- NAL units that are handed over from one marker to the next are one frame. -/
theorem frame_at (handed : ds.map (fun d => (d.frame, d.curPacketMarkerBit)) =
      cut (units ++ (nals.map (fun nal => (nal, false)) ++ (marked, true) :: units')))
    (nonempty : ∀ unit ∈ units ++ (nals.map (fun nal => (nal, false)) ++ (marked, true) :: units'), unit.1 ≠ [])
    (ended : ∀ unit ∈ units.getLast?, unit.2 = true) (room : HasRoom header (nals ++ [marked])) :
    ∃ frame, ((start header memory).takeAll ds).1[units.countP Prod.snd]? = some frame ∧
      FrameOf header nals marked frame := by
  obtain ⟨ps, same, frames⟩ := @exists_packets ds header _ memory handed nonempty
  have uncut : ∀ nal ∈ nals ++ [marked], nal.take rtpPacketBufferSize = nal := fun nal mem =>
    List.take_of_length_le (room.1 nal mem)
  -- The packets of the access unit, between those before it and those behind it.
  rw [cut, List.map_append, List.map_append, List.map_cons] at same
  obtain ⟨before, rest, rfl, first, same⟩ := List.map_eq_append_iff.1 same
  obtain ⟨mid, rest, rfl, middle, same⟩ := List.map_eq_append_iff.1 same
  obtain ⟨p, after, rfl, last, -⟩ := List.map_eq_cons_iff.1 same
  rw [uncut marked (by simp)] at last
  obtain ⟨bytes, marker⟩ := Prod.mk.inj last
  have middle : mid.map (fun p => (p.nal.bytes, p.marker)) = nals.map fun nal => (nal, false) := by
    rw [middle, List.map_map]
    exact List.map_congr_left fun nal mem => congrArg (·, false) (uncut nal (List.mem_append_left _ mem))
  have unmarked : ∀ q ∈ mid, q.marker = false := by
    intro q mem
    have here : (q.nal.bytes, q.marker) ∈ nals.map fun nal => (nal, false) :=
      middle ▸ List.mem_map_of_mem (f := fun p : Packet => (p.nal.bytes, p.marker)) mem
    obtain ⟨nal, -, same⟩ := List.mem_map.1 here
    exact (congrArg Prod.snd same).symm
  have earlier : (mid.map Packet.nal).map Nal.bytes = nals := by
    have firsts := congrArg (List.map Prod.fst) middle
    simpa [Function.comp_def] using firsts
  have ended' : ∀ q ∈ before.getLast?, q.marker = true := by
    intro q mem
    have here : (before.map fun p => (p.nal.bytes, p.marker)).getLast? = some (q.nal.bytes, q.marker) := by
      rw [List.getLast?_map, mem]
      rfl
    rw [first, List.getLast?_map, Option.map_eq_some_iff] at here
    obtain ⟨unit, mem, same⟩ := here
    exact (congrArg Prod.snd same).symm.trans (ended unit mem)
  have count : before.countP Packet.marker = units.countP Prod.snd := by
    have markers : (before.map fun p => (p.nal.bytes, p.marker)).countP Prod.snd = before.countP Packet.marker :=
      List.countP_map ..
    rw [← markers, first]
    exact countP_cut units
  refine ⟨delivered header ⟨mid.map Packet.nal, p.nal, p.presentationTime⟩, ?_, ?_, ?_⟩
  · rw [frames, List.getElem?_map, ← count, accessUnits_at ended' unmarked marker]
    rfl
  · rw [delivered_of_room, earlier, bytes]
    rw [AccessUnit.units, List.map_append, earlier, List.map_singleton, bytes]
    exact room
  · show decide (p.nal.unitType = 5) = _
    rw [unitType_eq, bytes]

end Frames

end Taken

end H264Sink

namespace H264VideoRTPSource

/-! ## Access units of the sender -/

namespace Sender

/-- The packet ends an access unit. -/
def Ends (sender : Sender) (i : Nat) : Prop := sender.marker i = true ∧ (sender.piece i).finished ≠ []

/-- The packets from `a` to `b` are those of one access unit. -/
structure IsAccessUnit (sender : Sender) (a b : Nat) : Prop where
  ordered : a ≤ b
  starts : a = 0 ∨ sender.Ends (a - 1)
  inside : ∀ i, a ≤ i → i < b → sender.marker i = false
  ends : sender.Ends b

/-- The NAL units of an access unit before its last one. -/
def earlierNals (sender : Sender) (a b : Nat) : List (List UInt8) :=
  (List.range' a (b - a)).flatMap fun i => (sender.piece i).finished

/-- The last NAL unit of an access unit. -/
def lastNal (sender : Sender) (b : Nat) : List UInt8 := (sender.piece b).finished.headD []

variable {sender : Sender} {released : List Nat} {a b i : Nat}

theorem nonempty_of_finished {piece : Piece} (valid : piece.Valid) {nal : List UInt8} (mem : nal ∈ piece.finished) :
    nal ≠ [] := by
  cases piece with
  | whole whole =>
    rw [List.mem_singleton.1 mem]
    exact valid.1
  | fragment whole start stop =>
    simp only [Piece.finished] at mem
    split at mem
    · obtain ⟨pos, more, inside⟩ := valid
      rw [List.mem_singleton.1 mem]
      exact List.ne_nil_of_length_pos (by omega)
    · cases mem
  | aggregate nals => exact (valid.2 nal mem).1

theorem nonempty_of_units (unit : List UInt8 × Bool) (mem : unit ∈ sender.units released) : unit.1 ≠ [] := by
  obtain ⟨i, -, mem⟩ := List.mem_flatMap.1 mem
  split at mem
  · obtain ⟨nal, here, rfl⟩ := List.mem_map.1 mem
    exact nonempty_of_finished (sender.valid i) here
  · cases mem

/-- Behind the end of a NAL unit another one begins. -/
theorem begins_of_finished (ended : (sender.piece i).finished ≠ []) : (sender.piece (i + 1)).begins = true := by
  have follows := sender.follows i
  cases piece : sender.piece i with
  | whole nal | aggregate nals =>
    rw [piece] at follows
    exact follows
  | fragment nal start stop =>
    rw [piece] at follows ended
    simp only [Piece.finished] at ended
    simp only [Piece.Follows] at follows
    split at ended
    · rename_i last
      rwa [if_pos last] at follows
    · exact absurd rfl ended

theorem IsAccessUnit.begins (unit : sender.IsAccessUnit a b) : (sender.piece a).begins = true := by
  rcases unit.starts with rfl | ended
  · exact sender.starts
  · cases a with
    | zero => exact sender.starts
    | succ a => exact begins_of_finished ended.2

/-- All packets from the first of a NAL unit on have been taken. -/
theorem gathered_of_taken (begins : (sender.piece a).begins = true) (taken : ∀ i, a ≤ i → i ≤ b → i ∈ released)
    (le : a ≤ i) (le' : i ≤ b) : sender.gathered released i = true := by
  induction i with
  | zero =>
    obtain rfl := Nat.le_zero.1 le
    simp [gathered, taken 0 le le', begins]
  | succ i ih =>
    rcases Nat.eq_or_lt_of_le le with rfl | lt
    · simp [gathered, taken _ le le', begins]
    · simp [gathered, taken _ le le', ih (by omega) (by omega)]

/-- The packets that were taken: those before, those of the access unit, those behind it. -/
theorem released_split (increasing : released.Pairwise (· < ·)) (le : a ≤ b)
    (taken : ∀ i, a ≤ i → i ≤ b → i ∈ released) :
    released = released.filter (· < a) ++ (List.range' a (b + 1 - a) ++ released.filter (b < ·)) := by
  have sorted : (released.filter (· < a) ++ (List.range' a (b + 1 - a) ++ released.filter (b < ·))).Pairwise (· < ·) := by
    rw [List.pairwise_append, List.pairwise_append]
    refine ⟨increasing.filter _, ⟨List.pairwise_lt_range', increasing.filter _, ?_⟩, ?_⟩
    · intro i mem j mem'
      simp only [List.mem_range'_1, List.mem_filter, decide_eq_true_eq] at mem mem'
      omega
    · intro i mem j mem'
      simp only [List.mem_append, List.mem_range'_1, List.mem_filter, decide_eq_true_eq] at mem mem'
      omega
  have perm : released.Perm (released.filter (· < a) ++ (List.range' a (b + 1 - a) ++ released.filter (b < ·))) := by
    rw [List.perm_ext_iff_of_nodup (increasing.imp Nat.ne_of_lt) (sorted.imp Nat.ne_of_lt)]
    intro i
    simp only [List.mem_append, List.mem_range'_1, List.mem_filter, decide_eq_true_eq]
    constructor
    · intro mem
      rcases Nat.lt_or_ge i a with lt | ge
      · exact .inl ⟨mem, lt⟩
      · rcases Nat.lt_or_ge b i with lt' | ge'
        · exact .inr (.inr ⟨mem, lt'⟩)
        · exact .inr (.inl ⟨ge, by omega⟩)
    · rintro (⟨mem, -⟩ | ⟨ge, lt⟩ | ⟨mem, -⟩)
      · exact mem
      · exact taken i ge (by omega)
      · exact mem
  exact perm.eq_of_pairwise (fun i j _ _ lt lt' => absurd lt' (Nat.lt_asymm lt)) increasing sorted

/-- A packet that is not an aggregation packet ends one NAL unit at most. -/
theorem finished_of_ends (plain : ∀ i nals, sender.piece i ≠ .aggregate nals) (ends : sender.Ends i) :
    sender.finished i = [(sender.lastNal i, true)] := by
  obtain ⟨marked, some⟩ := ends
  rw [finished, lastNal, marked]
  cases piece : sender.piece i with
  | whole nal => rfl
  | fragment nal start stop =>
    rw [piece] at some
    simp only [Piece.finished] at some ⊢
    split at some
    · rename_i last
      rw [if_pos last]
      rfl
    · exact absurd rfl some
  | aggregate nals => exact absurd piece (plain i nals)

/-- What is handed over: what comes before an access unit, the access unit, and what comes behind it. -/
theorem units_split (plain : ∀ i nals, sender.piece i ≠ .aggregate nals) (increasing : released.Pairwise (· < ·))
    (unit : sender.IsAccessUnit a b) (taken : ∀ i, a ≤ i → i ≤ b → i ∈ released) :
    ∃ behind, sender.units released = sender.units (released.filter (· < a)) ++
      ((sender.earlierNals a b).map (fun nal => (nal, false)) ++ (sender.lastNal b, true) :: behind) := by
  have before : (released.filter (· < a)).flatMap
      (fun i => if sender.gathered released i then sender.finished i else []) =
        sender.units (released.filter (· < a)) := by
    refine List.flatMap_congr fun i mem => ?_
    have lt : i < a := of_decide_eq_true (List.mem_filter.1 mem).2
    have same : sender.gathered released i = sender.gathered (released.filter (· < a)) i :=
      gathered_congr fun j le => by simp [List.mem_filter, Nat.lt_of_le_of_lt le lt]
    rw [same]
  have inside : (List.range' a (b - a)).flatMap
      (fun i => if sender.gathered released i then sender.finished i else []) =
        (sender.earlierNals a b).map fun nal => (nal, false) := by
    rw [earlierNals, List.map_flatMap]
    refine List.flatMap_congr fun i mem => ?_
    obtain ⟨le, lt⟩ := List.mem_range'_1.1 mem
    rw [gathered_of_taken unit.begins taken le (by omega), if_pos rfl, finished, unit.inside i le (by omega)]
  have last : (if sender.gathered released b then sender.finished b else []) = [(sender.lastNal b, true)] := by
    rw [gathered_of_taken unit.begins taken unit.ordered (Nat.le_refl b), if_pos rfl, finished_of_ends plain unit.ends]
  have range : List.range' a (b + 1 - a) = List.range' a (b - a) ++ [b] := by
    have count : b + 1 - a = b - a + 1 := Nat.succ_sub unit.ordered
    rw [count, List.range'_concat, Nat.one_mul, Nat.add_sub_cancel' unit.ordered]
  have split := released_split increasing unit.ordered taken
  refine ⟨(released.filter (b < ·)).flatMap fun i => if sender.gathered released i then sender.finished i else [], ?_⟩
  calc sender.units released
    _ = (released.filter (· < a) ++ (List.range' a (b + 1 - a) ++ released.filter (b < ·))).flatMap
          (fun i => if sender.gathered released i then sender.finished i else []) := by rw [← split, units]
    _ = _ := by
      rw [List.flatMap_append, List.flatMap_append, range, List.flatMap_append, List.flatMap_singleton, before, inside,
        last, List.append_assoc, List.singleton_append]

/-- The NAL unit that was handed over before packet `a`, if there is one, was the last of an access unit. -/
def Apart (sender : Sender) (released : List Nat) (a : Nat) : Prop :=
  ∀ unit ∈ (sender.units (released.filter (· < a))).getLast?, unit.2 = true

instance (sender : Sender) (released : List Nat) (a : Nat) : Decidable (sender.Apart released a) :=
  inferInstanceAs (Decidable (∀ unit ∈ (sender.units (released.filter (· < a))).getLast?, unit.2 = true))

/-- How many frames come before packet `a`. -/
def framesBefore (sender : Sender) (released : List Nat) (a : Nat) : Nat :=
  (sender.units (released.filter (· < a))).countP Prod.snd

end Sender

/-! ## The frames -/

section Frames

variable {sender : Sender} {s : H264VideoRTPSource Nat} {rtpSSRC : Nat} {a b : Nat}

/-- What the sink has been handed over when nothing waits for the event loop. -/
theorem RunInv.handed_cut (inv : RunInv sender rtpPacketBufferSize rtpSSRC s) (idle : s.scheduled = false) :
    s.delivered.map (fun d => (d.frame, d.curPacketMarkerBit)) = H264Sink.cut (sender.units s.released) := by
  have handed := inv.inv.handed
  rw [H264VideoRTPSource.handed, idle] at handed
  rw [H264Sink.cut, ← handed]
  exact (List.append_nil _).symm

/-- The frame of an access unit of which every packet was taken. -/
theorem RunInv.frame (inv : RunInv sender rtpPacketBufferSize rtpSSRC s) (idle : s.scheduled = false)
    (plain : ∀ i nals, sender.piece i ≠ .aggregate nals) (header : ArrayEx 1024) (memory : List UInt8)
    (unit : sender.IsAccessUnit a b) (taken : ∀ i, a ≤ i → i ≤ b → i ∈ s.released) (apart : sender.Apart s.released a)
    (room : H264Sink.HasRoom header (sender.earlierNals a b ++ [sender.lastNal b])) :
    ∃ frame, ((H264Sink.start header memory).takeAll s.delivered).1[sender.framesBefore s.released a]? = some frame ∧
      H264Sink.FrameOf header (sender.earlierNals a b) (sender.lastNal b) frame := by
  obtain ⟨behind, units⟩ := Sender.units_split plain inv.inv.progress.increasing unit taken
  have handed := inv.handed_cut idle
  rw [units] at handed
  refine H264Sink.frame_at handed (fun unit mem => ?_) apart room
  rw [← units] at mem
  exact Sender.nonempty_of_units unit mem

end Frames

/-- When nothing is missing the packets before one are all that there are. -/
theorem filter_range {a k : Nat} (le : a ≤ k) : (List.range k).filter (· < a) = List.range a := by
  obtain ⟨n, rfl⟩ := Nat.exists_eq_add_of_le le
  have below : (List.range a).filter (· < a) = List.range a :=
    List.filter_eq_self.2 fun i mem => decide_eq_true (List.mem_range.1 mem)
  have behind : ((List.range n).map (a + ·)).filter (· < a) = [] := by
    rw [List.filter_eq_nil_iff]
    intro i mem
    obtain ⟨j, -, rfl⟩ := List.mem_map.1 mem
    simp
  rw [List.range_add, List.filter_append, below, behind, List.append_nil]

/-- The first packet of an access unit comes behind the last one of another, or is the first of all. -/
theorem Sender.IsAccessUnit.apart {sender : Sender} {a b k : Nat} (unit : sender.IsAccessUnit a b)
    (plain : ∀ i nals, sender.piece i ≠ .aggregate nals) (le : a ≤ k) : sender.Apart (List.range k) a := by
  unfold Sender.Apart
  rw [filter_range le, Sender.units_range]
  rcases unit.starts with rfl | ended
  · exact fun unit mem => nomatch mem
  · cases a with
    | zero => exact fun unit mem => nomatch mem
    | succ a =>
      have last : sender.finished a = [(sender.lastNal a, true)] := Sender.finished_of_ends plain ended
      rw [List.range_succ, List.flatMap_append, List.flatMap_singleton, last]
      intro unit mem
      rw [List.getLast?_concat] at mem
      cases mem
      rfl

end H264VideoRTPSource

end CameraEv
