import CameraEv.Lib.Trace
import CameraEv.Live555.RtspCallback

/-!
# The sinks of the subsessions that are set up

`setupNextSubsession` and `continueAfterSETUP` each look at the medium and at
the codec of a subsession: the one asks the camera for its stream, the other
gives the stream a reader. A run takes one client from the description of its
session through the responses and the ends of its streams; `createNew` of a sink
does not fail.
-/

namespace CameraEv

open Trace

namespace SubsessionSinks

/-- The subsession but for its sink. -/
def unsunk (m : MediaSubsession) : MediaSubsession := { m with sink := false }

/-- A session out of its description: no sink is created yet. -/
def created (session : MediaSession) : MediaSession :=
  { session with subsessions := session.subsessions.map unsunk }

def hasSink (c : CustomRTSPClient) (k : Nat) : Bool := (c.subsessions[k]?).any MediaSubsession.sink

/-- The client, the subsessions whose SETUP succeeded, and those that ended through `subsessionAfterPlaying`. -/
structure State where
  client : CustomRTSPClient
  setUp : List Nat := []
  ended : List Nat := []
  deriving DecidableEq

inductive Act where
  /-- The response to the SETUP that was sent. -/
  | setup (resultCode : Int)
  | play (resultCode : Int)
  /-- The source of a sink closes, or a BYE comes: `startPlaying` and `setByeHandler` have registered the handlers. -/
  | ended (k : Nat)
  | streamTimer

def step (s : State) : Act → Option State
  | .setup resultCode => match s.client.pending with
    | some (.setup k) => some { s with
        client := s.client.continueAfterSETUP resultCode
        setUp := if resultCode = 0 then s.setUp ++ [k] else s.setUp }
    | _ => none
  | .play resultCode => match s.client.pending with
    | some .play => some { s with client := s.client.continueAfterPLAY resultCode }
    | _ => none
  | .ended k =>
    if !s.client.closed && hasSink s.client k then
      some { s with client := s.client.subsessionAfterPlaying k, ended := s.ended ++ [k] }
    else none
  | .streamTimer => if s.client.streamTimerTask then some { s with client := s.client.streamTimerHandler } else none

def start (session : MediaSession) : State where
  client := (CustomRTSPClient.opened.continueAfterDESCRIBE 0 (some (created session))).1

/-- No stream is asked for that gets no reader, and each that was set up is read until it ends. -/
structure AllRead (s : State) : Prop where
  requested : ∀ k, Event.sent (.setup k) ∈ s.client.log →
    ∃ m, s.client.subsessions[k]? = some m ∧ m.sinks = true
  read : s.client.closed = false → ∀ k ∈ s.setUp,
    k ∈ s.ended ∨ hasSink s.client k = true ∧ (step s (.ended k)).isSome = true

/-- The two tests agree on a subsession exactly when its names are both the wanted ones or both others. -/
theorem sinks_of_passes_iff (m : MediaSubsession) :
    (m.passes = true → m.sinks = true) ↔ (m.mediumName = "video" ↔ m.codecName = "H264") := by
  simp only [MediaSubsession.passes, MediaSubsession.sinks, Bool.or_eq_true, Bool.and_eq_true, decide_eq_true_eq]
  tauto

/-! ## One call of `setupNextSubsession` -/

/-- Nothing happens but that one command is sent: PLAY, or the SETUP of a subsession that passes and initiates. -/
structure Sends (c d : CustomRTSPClient) : Prop where
  session : d.session = c.session
  closed : d.closed = c.closed
  command : (d.pending = some .play ∧ d.log = c.log ++ [.sent .play]) ∨
    ∃ k m, c.subsessions[k]? = some m ∧ m.passes = true ∧ m.initiate = true ∧ d.subsession = some k ∧
      d.pending = some (.setup k) ∧ d.log = c.log ++ [.sent (.setup k)]

theorem setupNext_sends (c : CustomRTSPClient) (rest : List MediaSubsession)
    (left : c.subsessions.drop c.iter = rest) : Sends c (c.setupNext rest) := by
  induction rest generalizing c with
  | nil => exact ⟨rfl, rfl, .inl ⟨rfl, rfl⟩⟩
  | cons m rest ih =>
    let c' := { c with subsession := some c.iter, iter := c.iter + 1, calls := c.calls + 1 }
    have here : c.subsessions[c.iter]? = some m := by
      rw [← List.head?_drop, left, List.head?_cons]
    have behind : c'.subsessions.drop c'.iter = rest := by
      show c.subsessions.drop (c.iter + 1) = rest
      rw [← List.drop_drop, left, List.drop_succ_cons, List.drop_zero]
    -- the subsession is given up
    have skip : Sends c (c'.setupNext rest) := by
      obtain ⟨session, closed, command⟩ := ih c' behind
      exact ⟨session, closed, command⟩
    simp only [CustomRTSPClient.setupNext]
    split
    · exact skip
    · split
      · exact skip
      · rename_i passes initiate
        refine ⟨rfl, rfl, .inr ⟨c.iter, m, here, ?_, ?_, rfl, rfl, rfl⟩⟩
        · simpa using passes
        · simpa using initiate

theorem setupNextSubsession_sends (c : CustomRTSPClient) : Sends c c.setupNextSubsession :=
  setupNext_sends c _ rfl

/-! ## The sinks -/

theorem subsessions_setSink (c : CustomRTSPClient) (k : Nat) (sink : Bool) :
    (c.setSink k sink).subsessions = c.subsessions.modify k fun m => { m with sink } := by
  cases session : c.session with
  | none => simp only [CustomRTSPClient.subsessions, CustomRTSPClient.setSink, session, Option.map_none,
      Option.getD_none, List.modify_nil]
  | some s => simp only [CustomRTSPClient.subsessions, CustomRTSPClient.setSink, session, Option.map_some, Option.getD_some]

/-- But for the sinks a session stays as it was described. -/
theorem unsunk_setSink (c : CustomRTSPClient) (k : Nat) (sink : Bool) :
    (c.setSink k sink).subsessions.map unsunk = c.subsessions.map unsunk := by
  rw [subsessions_setSink]
  refine List.ext_getElem? fun i => ?_
  simp only [List.getElem?_map, List.getElem?_modify, Option.map_eq_map, Option.map_map]
  cases c.subsessions[i]? with
  | none => rfl
  | some m => by_cases at_k : k = i <;> simp only [at_k, if_true, if_false, Option.map_some, Function.comp_apply, unsunk]

theorem unsunk_closeSinks (c : CustomRTSPClient) :
    c.closeSinks.subsessions.map unsunk = c.subsessions.map unsunk := by
  cases session : c.session with
  | none => simp only [CustomRTSPClient.subsessions, CustomRTSPClient.closeSinks, session, Option.map_none]
  | some s =>
    simp only [CustomRTSPClient.subsessions, CustomRTSPClient.closeSinks, session, Option.map_some, Option.getD_some,
      List.map_map]
    rfl

theorem hasSink_setSink_self {c : CustomRTSPClient} {k : Nat} {m : MediaSubsession}
    (there : c.subsessions[k]? = some m) (sink : Bool) : hasSink (c.setSink k sink) k = sink := by
  simp only [hasSink, subsessions_setSink, List.getElem?_modify, there, if_true, Option.map_eq_map, Option.map_some,
    Option.any_some]

theorem hasSink_setSink_of_ne {k j : Nat} (ne : k ≠ j) (c : CustomRTSPClient) (sink : Bool) :
    hasSink (c.setSink k sink) j = hasSink c j := by
  simp only [hasSink, subsessions_setSink, List.getElem?_modify, if_neg ne, Option.map_eq_map, Option.map_id']

/-! ## Runs -/

/-- What holds of the client whatever command it waits for; `ms` is the described session. -/
structure Base (ms : List MediaSubsession) (c : CustomRTSPClient) (setUp ended : List Nat) : Prop where
  same : c.subsessions.map unsunk = ms
  sent : ∀ k, Event.sent (.setup k) ∈ c.log → ∃ m, ms[k]? = some m ∧ m.passes = true ∧ m.initiate = true
  asked : ∀ k ∈ setUp, Event.sent (.setup k) ∈ c.log
  read : c.closed = false → ∀ k ∈ setUp, k ∈ ended ∨ ∀ m, ms[k]? = some m → m.sinks = true → hasSink c k = true

/-- The SETUP that is waited for is the one of `scs.subsession`. -/
structure Inv (ms : List MediaSubsession) (s : State) : Prop extends Base ms s.client s.setUp s.ended where
  current : ∀ k, s.client.pending = some (.setup k) → s.client.subsession = some k
  waits : ∀ k, s.client.pending = some (.setup k) → Event.sent (.setup k) ∈ s.client.log

variable {ms : List MediaSubsession} {c d : CustomRTSPClient} {setUp ended : List Nat} {s t : State} {act : Act}

/-- A subsession as the session has it now, but for its sink the described one. -/
theorem described (same : c.subsessions.map unsunk = ms) {k : Nat} {m : MediaSubsession}
    (there : c.subsessions[k]? = some m) : ms[k]? = some (unsunk m) := by
  rw [← same, List.getElem?_map, there, Option.map_some]

theorem exists_of_described (same : c.subsessions.map unsunk = ms) {k : Nat} {m : MediaSubsession}
    (there : ms[k]? = some m) : ∃ m', c.subsessions[k]? = some m' ∧ unsunk m' = m := by
  rw [← same, List.getElem?_map] at there
  exact Option.map_eq_some_iff.1 there

/-- The sequence goes on. -/
theorem Base.next (base : Base ms c setUp ended) : Inv ms ⟨c.setupNextSubsession, setUp, ended⟩ := by
  obtain ⟨session, closed, command⟩ := setupNextSubsession_sends c
  have subsessions : c.setupNextSubsession.subsessions = c.subsessions := by
    rw [CustomRTSPClient.subsessions, session, CustomRTSPClient.subsessions]
  have read : c.setupNextSubsession.closed = false → ∀ k ∈ setUp,
      k ∈ ended ∨ ∀ m, ms[k]? = some m → m.sinks = true → hasSink c.setupNextSubsession k = true := by
    rw [closed]
    simpa only [hasSink, subsessions] using base.read
  rcases command with ⟨pending, log⟩ | ⟨k, m, there, passes, initiate, subsession, pending, log⟩
  · refine ⟨⟨by rw [subsessions, base.same], ?_, ?_, read⟩, ?_, ?_⟩
    · intro k mem
      rw [log] at mem
      exact base.sent k (by simpa using mem)
    · intro k mem
      rw [log]
      exact List.mem_append_left _ (base.asked k mem)
    · intro k waits
      cases pending.symm.trans waits
    · intro k waits
      cases pending.symm.trans waits
  · refine ⟨⟨by rw [subsessions, base.same], ?_, ?_, read⟩, ?_, ?_⟩
    · intro j mem
      rw [log, List.mem_append] at mem
      rcases mem with before | new
      · exact base.sent j before
      · obtain rfl : j = k := by simpa using new
        exact ⟨_, described base.same there, passes, initiate⟩
    · intro j mem
      rw [log]
      exact List.mem_append_left _ (base.asked j mem)
    · intro j waits
      cases pending.symm.trans waits
      exact subsession
    · intro j waits
      cases pending.symm.trans waits
      rw [log]
      simp

theorem Base.handle (base : Base ms c setUp ended) : Base ms c.handle setUp ended := by
  refine ⟨base.same, fun k mem => base.sent k ?_, fun k mem => ?_, base.read⟩
  · simpa [CustomRTSPClient.handle] using mem
  · exact List.mem_append_left _ (base.asked k mem)

/-- The response to a SETUP that succeeded: the subsession has a sink now, if it is one that gets one. -/
theorem Base.setUpDone {k : Nat} (base : Base ms c setUp ended) (asked : Event.sent (.setup k) ∈ c.log) :
    Base ms (if (c.subsessions[k]?).any MediaSubsession.sinks then c.setSink k true else c) (setUp ++ [k]) ended := by
  obtain ⟨m, there, -, -⟩ := base.sent k asked
  obtain ⟨m', now, rfl⟩ := exists_of_described base.same there
  have asked' : ∀ j ∈ setUp ++ [k], Event.sent (.setup j) ∈ c.log := by
    intro j mem
    rcases List.mem_append.1 mem with before | new
    · exact base.asked j before
    · obtain rfl := List.mem_singleton.1 new
      exact asked
  cases sinks : m'.sinks with
  | true =>
    rw [if_pos (by rw [now, Option.any_some, sinks])]
    refine ⟨(unsunk_setSink c k true).trans base.same, base.sent, asked', fun active j mem => ?_⟩
    by_cases here : k = j
    · subst here
      exact .inr fun _ _ _ => hasSink_setSink_self now true
    · have before : j ∈ setUp := by simpa [Ne.symm here] using mem
      rw [hasSink_setSink_of_ne here]
      exact base.read active j before
  | false =>
    rw [if_neg (by rw [now, Option.any_some, sinks]; exact Bool.false_ne_true)]
    refine ⟨base.same, base.sent, asked', fun active j mem => ?_⟩
    rcases List.mem_append.1 mem with before | new
    · exact base.read active j before
    · obtain rfl := List.mem_singleton.1 new
      refine .inr fun m at_j wanted => ?_
      cases there.symm.trans at_j
      cases sinks.symm.trans wanted

/-- The client of a closed stream owes its subsessions nothing. -/
theorem Base.shutdownStream (base : Base ms c setUp ended) (ended' : List Nat) :
    Inv ms ⟨c.shutdownStream, setUp, ended'⟩ := by
  have log (k : Nat) : Event.sent (.setup k) ∈ c.shutdownStream.log ↔ Event.sent (.setup k) ∈ c.log := by
    simp only [CustomRTSPClient.shutdownStream]
    split <;> simp
  refine ⟨⟨(unsunk_closeSinks c).trans base.same, fun k mem => base.sent k ((log k).1 mem),
    fun k mem => (log k).2 (base.asked k mem), fun active => ?_⟩, fun k waits => ?_, fun k waits => ?_⟩
  · cases active
  · cases waits
  · cases waits

theorem Base.endOf (base : Base ms c setUp ended) (k : Nat) : Base ms (c.setSink k false) setUp (ended ++ [k]) := by
  refine ⟨(unsunk_setSink c k false).trans base.same, base.sent, base.asked, fun active j mem => ?_⟩
  by_cases here : k = j
  · subst here
    exact .inl (List.mem_append_right _ (List.mem_singleton_self k))
  · rw [hasSink_setSink_of_ne here]
    rcases base.read active j mem with past | reads
    · exact .inl (List.mem_append_left _ past)
    · exact .inr reads

theorem Inv.continueAfterSETUP (inv : Inv ms s) {k : Nat} (pending : s.client.pending = some (.setup k)) (code : Int) :
    Inv ms ⟨s.client.continueAfterSETUP code, if code = 0 then s.setUp ++ [k] else s.setUp, s.ended⟩ := by
  have base := inv.toBase.handle
  have asked : Event.sent (.setup k) ∈ s.client.handle.log := List.mem_append_left _ (inv.waits k pending)
  have current : s.client.handle.subsession = some k := inv.current k pending
  simp only [CustomRTSPClient.continueAfterSETUP, current]
  by_cases success : code = 0
  · have next := (base.setUpDone asked).next
    simp only [success, decide_true, Bool.true_and, if_true] at next ⊢
    split at next
    · rename_i sinks
      rw [if_pos sinks]
      exact next
    · rename_i sinks
      rw [if_neg sinks]
      exact next
  · simp only [success, decide_false, Bool.false_and, Bool.false_eq_true, if_false]
    exact base.next

theorem Inv.step (inv : Inv ms s) (stepped : step s act = some t) : Inv ms t := by
  cases act with
  | setup code =>
    simp only [SubsessionSinks.step] at stepped
    split at stepped
    · rename_i k pending
      cases stepped
      exact inv.continueAfterSETUP pending code
    · cases stepped
  | play code =>
    simp only [SubsessionSinks.step] at stepped
    split at stepped
    · cases stepped
      have base := inv.toBase.handle
      have idle (k : Nat) : s.client.handle.pending ≠ some (.setup k) := by
        intro waits
        cases waits
      simp only [CustomRTSPClient.continueAfterPLAY]
      split
      · exact base.shutdownStream _
      · split
        · exact ⟨⟨base.same, base.sent, base.asked, base.read⟩, fun k waits => absurd waits (idle k),
            fun k waits => absurd waits (idle k)⟩
        · exact ⟨base, fun k waits => absurd waits (idle k), fun k waits => absurd waits (idle k)⟩
    · cases stepped
  | ended k =>
    simp only [SubsessionSinks.step] at stepped
    split at stepped
    · cases stepped
      have base := inv.toBase.endOf k
      simp only [CustomRTSPClient.subsessionAfterPlaying]
      split
      · exact ⟨base, inv.current, inv.waits⟩
      · exact base.shutdownStream _
    · cases stepped
  | streamTimer =>
    simp only [SubsessionSinks.step] at stepped
    split at stepped
    · cases stepped
      exact ⟨⟨inv.same, inv.sent, inv.asked, inv.read⟩, inv.current, inv.waits⟩
    · cases stepped

theorem Inv.start (session : MediaSession) : Inv (created session).subsessions (start session) := by
  have base : Base (created session).subsessions { CustomRTSPClient.opened.handle with session := some (created session) } [] [] := by
    refine ⟨?_, fun k mem => ?_, fun k mem => ?_, fun _ k mem => ?_⟩
    · simp only [CustomRTSPClient.subsessions, created, Option.map_some, Option.getD_some, List.map_map]
      rfl
    · simp [CustomRTSPClient.opened, CustomRTSPClient.handle, CustomRTSPClient.send] at mem
    · cases mem
    · cases mem
  simp only [SubsessionSinks.start, CustomRTSPClient.continueAfterDESCRIBE, ne_eq, not_true_eq_false, if_false]
  split
  · refine ⟨base, fun k waits => ?_, fun k waits => ?_⟩
    · cases waits
    · cases waits
  · exact base.next

theorem Inv.reached {session : MediaSession} {acts : List Act}
    (ran : run SubsessionSinks.step (SubsessionSinks.start session) acts = some s) :
    Inv (created session).subsessions s :=
  run_invariant (fun inv _ h => inv.step h) (.start session) along_true ran

/-- Where each subsession that is set up gets a sink, the streams of the run are read. -/
theorem Inv.allRead (inv : Inv ms s) (sinks : ∀ m ∈ ms, m.initiate = true → m.passes = true → m.sinks = true) :
    AllRead s := by
  have wanted (k : Nat) (sent : Event.sent (.setup k) ∈ s.client.log) : ∃ m, ms[k]? = some m ∧ m.sinks = true := by
    obtain ⟨m, there, passes, initiate⟩ := inv.sent k sent
    exact ⟨m, there, sinks m (List.mem_of_getElem? there) initiate passes⟩
  refine ⟨fun k sent => ?_, fun active k mem => ?_⟩
  · obtain ⟨m, there, gets⟩ := wanted k sent
    obtain ⟨m', now, rfl⟩ := exists_of_described inv.same there
    exact ⟨m', now, gets⟩
  · obtain ⟨m, there, gets⟩ := wanted k (inv.asked k mem)
    rcases inv.read active k mem with past | reads
    · exact .inl past
    · have has := reads m there gets
      refine .inr ⟨has, ?_⟩
      simp only [SubsessionSinks.step, active, has, Bool.not_false, Bool.and_true, if_true, Option.isSome_some]

/-- Responses to SETUPs are the responses of `setups`. -/
theorem run_setups {codes : List Int} (setUp ended : List Nat) (ran : c.setups codes = some d) :
    ∃ t, run step ⟨c, setUp, ended⟩ (codes.map .setup) = some t ∧ t.client = d := by
  induction codes generalizing c setUp with
  | nil =>
    cases ran
    exact ⟨_, rfl, rfl⟩
  | cons code codes ih =>
    simp only [CustomRTSPClient.setups] at ran
    split at ran
    · rename_i k pending
      obtain ⟨t, ran', last⟩ := ih (if code = 0 then setUp ++ [k] else setUp) ran
      exact ⟨t, by simp only [List.map_cons, run, step, pending, ran'], last⟩
    · cases ran

theorem mem_wantedFrom {k : Nat} {m : MediaSubsession} (there : ms[k]? = some m) (passes : m.passes = true)
    (initiate : m.initiate = true) : k ∈ CustomRTSPClient.wantedFrom 0 ms := by
  refine List.mem_map.2 ⟨(m, k), List.mem_filter.2 ⟨?_, ?_⟩, rfl⟩
  · exact List.mem_zipIdx_iff_getElem?.2 there
  · simp only [passes, initiate, Bool.and_true]

/-- **Exactly the sessions whose initiating subsessions are video in H264 or neither of the two have all their
requested streams read**, in every state of every run. -/
theorem setups_read_iff (session : MediaSession) :
    (∀ acts s, run step (start session) acts = some s → AllRead s) ↔
      ∀ m ∈ session.subsessions, m.initiate = true → (m.mediumName = "video" ↔ m.codecName = "H264") := by
  constructor
  · intro allRead m mem initiate
    rw [← sinks_of_passes_iff]
    intro passes
    have some_subsession : (created session).subsessions ≠ [] :=
      List.ne_nil_of_mem (List.mem_map_of_mem mem)
    obtain ⟨k, there⟩ := List.getElem?_of_mem mem
    have there' : (created session).subsessions[k]? = some (unsunk m) := by
      simp only [created, List.getElem?_map, there, Option.map_some]
    let wanted := CustomRTSPClient.wantedFrom 0 (created session).subsessions
    -- every response says that the SETUP succeeded
    obtain ⟨within, -⟩ := (CustomRTSPClient.Progress.start some_subsession).setups (List.replicate wanted.length 0)
    obtain ⟨d, ran, progress⟩ := within _ List.length_replicate le_rfl
    obtain ⟨s, ran', rfl⟩ := run_setups [] [] ran
    have asked : Event.sent (.setup k) ∈ s.client.log := by
      rw [progress.log, List.nil_append, List.take_length]
      refine List.mem_append_left _ (List.mem_append_right _ (List.mem_flatMap.2 ⟨k, ?_, List.mem_cons_self⟩))
      exact mem_wantedFrom there' passes initiate
    obtain ⟨m', now, sinks⟩ := (allRead _ s ran').requested k asked
    have same : unsunk m' = unsunk m := Option.some.inj ((described (Inv.reached ran').same now).symm.trans there')
    calc m.sinks = (unsunk m).sinks := rfl
      _ = (unsunk m').sinks := by rw [same]
      _ = true := sinks
  · intro names acts s ran
    refine (Inv.reached ran).allRead fun m mem initiate => ?_
    obtain ⟨m', mem', rfl⟩ := List.mem_map.1 mem
    exact (sinks_of_passes_iff m').2 (names m' mem' initiate)

/-- Beside its video the camera offers one in JPEG: it is set up and has no sink when PLAY is sent. -/
theorem setups_unread_jpeg :
    ∃ s, run step (start ⟨[⟨"video", "H264", true, false⟩, ⟨"video", "JPEG", true, false⟩], false⟩) [.setup 0, .setup 0] =
        some s ∧ s.client.pending = some .play ∧ s.setUp = [0, 1] ∧ hasSink s.client 1 = false ∧ ¬ AllRead s := by
  refine ⟨_, rfl, rfl, rfl, rfl, fun allRead => ?_⟩
  obtain ⟨m, there, sinks⟩ := allRead.requested 1 (by decide)
  cases there
  cases sinks

end SubsessionSinks

end CameraEv
