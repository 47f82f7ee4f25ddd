import CameraEv.Lib.Trace

/-!
# `Streamer`

A streamer owns a session and a decoder, each with a thread, and keeps the flags
`m_initialize` and `m_activate`. The four calls are functions from the state to
the return value and the state; a call that does not return has no result: it
waits for a thread that does not end, uses a null pointer, or assigns to a
joinable `std::thread`, which ends the process. Whether the session's and the
decoder's own `Initialize` and `Activate` succeed is an argument. The preview
window has no part in the flags and the threads.
-/

namespace CameraEv

open Trace

/-- A worker between the calls made on it: whether there is a thread to join, and `m_thread_running`. -/
structure WorkerThread where
  joinable : Bool := false
  running : Bool := false
  deriving DecidableEq

namespace WorkerThread

/-- `StartThread`. -/
def start (w : WorkerThread) : Option WorkerThread := if w.joinable then none else some { w with joinable := true }

/-- The thread stores `m_thread_running = true`. -/
def raise (w : WorkerThread) : Option WorkerThread := if w.joinable then some { w with running := true } else none

/-- `m_thread_running = false` and `JoinThread`, where the join returns. That of a thread that has not begun does not,
as it raises the flag again; that of one that has begun may wait for where its loop is, which is not followed here
(see `OnRecvWorker.Environment.joins`). -/
def stop (w : WorkerThread) : Option WorkerThread := if w.joinable && !w.running then none else some {}

theorem start_eq {w t : WorkerThread} (h : w.start = some t) : w.joinable = false ∧ t = { w with joinable := true } := by
  simp only [start] at h
  split at h <;> cases h
  rename_i free
  exact ⟨by simpa using free, rfl⟩

theorem stop_eq {w t : WorkerThread} (h : w.stop = some t) : t = {} := by
  simp only [stop] at h
  split at h <;> cases h
  rfl

end WorkerThread

namespace Streamer

/-- `m_decoder`; `queue` is whether it has a stream queue. -/
structure Decoder where
  thread : WorkerThread := {}
  queue : Bool := false
  deriving DecidableEq

structure State where
  /-- `m_initialize`. -/
  initialized : Bool := false
  /-- `m_activate`. -/
  activated : Bool := false
  session : Option WorkerThread := none
  decoder : Option Decoder := none
  deriving DecidableEq

/-- `Session_RTSP::Activate`: nothing more is started while the flag is up. -/
def sessionActivate (session : WorkerThread) : Option WorkerThread :=
  if session.running then some session else session.start

/-- The destructor of a session joins its thread, which nobody tells to stop. -/
def destroySession (session : Option WorkerThread) : Option Unit :=
  if session.any WorkerThread.joinable then none else some ()

/-- The destructor of a decoder finalizes its stream queue and joins its thread. -/
def destroyDecoder (decoder : Option Decoder) : Option Unit :=
  if decoder.any fun d => !d.queue || d.thread.joinable then none else some ()

namespace State

def initializeStreamer (s : State) (decoderReady sessionReady : Bool) : Option (Nat × State) :=
  if s.initialized then return (1, s)
  else if s.activated then return (2, s)
  else do
    destroyDecoder s.decoder
    if !decoderReady then return (3, { s with decoder := some {} })
    else do
      destroySession s.session
      let s := { s with decoder := some { queue := true }, session := some {} }
      if !sessionReady then return (4, s)
      else return (0, { s with initialized := true })

def finalize (s : State) : Option (Nat × State) :=
  if s.decoder.any fun d => !d.queue then none
  else return (0, { s with initialized := false })

def activate (s : State) (sessionReady decoderReady : Bool) : Option (Nat × State) :=
  if !s.initialized then return (1, s)
  else do
    let session ← s.session
    if !sessionReady then return (2, s)
    else do
      let s := { s with session := some (← sessionActivate session) }
      let decoder ← s.decoder
      if !decoderReady then return (3, s)
      else return (0, { s with decoder := some { decoder with thread := ← decoder.thread.start }, activated := true })

def deactivate (s : State) : Option (Nat × State) :=
  if !s.initialized then return (1, s)
  else do
    let session ← s.session
    let s := { s with session := some (← session.stop) }
    let decoder ← s.decoder
    return (0, { s with decoder := some { decoder with thread := ← decoder.thread.stop }, activated := false })

def isActivate (s : State) : Bool := s.activated

end State

inductive Act where
  | initializeStreamer (decoderReady sessionReady : Bool)
  | finalize
  | activate (sessionReady decoderReady : Bool)
  | deactivate
  /-- The session's thread, or the decoder's, stores `m_thread_running = true`. -/
  | raiseSession
  | raiseDecoder
  deriving DecidableEq

namespace State

def raiseSession (s : State) : Option State := do
  let session ← s.session
  return { s with session := some (← session.raise) }

def raiseDecoder (s : State) : Option State := do
  let decoder ← s.decoder
  return { s with decoder := some { decoder with thread := ← decoder.thread.raise } }

def step (s : State) : Act → Option State
  | .initializeStreamer decoderReady sessionReady => (s.initializeStreamer decoderReady sessionReady).map Prod.snd
  | .finalize => s.finalize.map Prod.snd
  | .activate sessionReady decoderReady => (s.activate sessionReady decoderReady).map Prod.snd
  | .deactivate => s.deactivate.map Prod.snd
  | .raiseSession => s.raiseSession
  | .raiseDecoder => s.raiseDecoder

/-- The session's thread has been started and not joined. -/
def sessionRuns (s : State) : Bool := s.session.any WorkerThread.joinable

def decoderRuns (s : State) : Bool := s.decoder.any fun d => d.thread.joinable

end State

variable {s t : State} {a : Act} {code : Nat}

/-! ## What a call does when it returns -/

/-- Nothing of the streamer is running, and it says so. -/
structure Quiet (s : State) : Prop where
  inactive : s.activated = false
  session : s.sessionRuns = false
  decoder : s.decoderRuns = false

/-- An initialised streamer has its parts. -/
structure Parts (s : State) : Prop where
  session : s.initialized = true → ∃ session, s.session = some session
  decoder : s.initialized = true → ∃ decoder, s.decoder = some decoder ∧ decoder.queue = true
  /-- Only a started thread raises its flag. -/
  raised : ∀ session, s.session = some session → session.running = true → session.joinable = true

/-- `Initialize` returns without a change, or leaves new parts without threads. -/
theorem initializeStreamer_cases {decoderReady sessionReady : Bool}
    (h : s.initializeStreamer decoderReady sessionReady = some (code, t)) :
    ((s.initialized = true ∨ s.activated = true) ∧ t = s) ∨
    (s.initialized = false ∧ s.activated = false ∧ s.decoderRuns = false ∧
      ((decoderReady = false ∧ t = { s with decoder := some {} }) ∨
      (decoderReady = true ∧ s.sessionRuns = false ∧
        t = { s with decoder := some { queue := true }, session := some {}, initialized := sessionReady }))) := by
  simp only [State.initializeStreamer] at h
  split at h
  · rename_i initialized
    cases h
    exact .inl ⟨.inl initialized, rfl⟩
  rename_i notInitialized
  split at h
  · rename_i activated
    cases h
    exact .inl ⟨.inr activated, rfl⟩
  rename_i notActivated
  simp only [Option.bind_eq_bind, Option.bind_eq_some_iff, destroyDecoder] at h
  obtain ⟨_, destroyed, h⟩ := h
  split at destroyed
  · cases destroyed
  rename_i idle
  have decoderIdle : s.decoderRuns = false := by
    cases decoder : s.decoder with
    | none => simp [State.decoderRuns, decoder]
    | some d =>
      simp only [decoder, Option.any_some, Bool.or_eq_true, not_or, Bool.not_eq_true] at idle
      simp [State.decoderRuns, decoder, idle.2]
  refine .inr ⟨by simpa using notInitialized, by simpa using notActivated, decoderIdle, ?_⟩
  cases decoderReady with
  | false =>
    cases h
    exact .inl ⟨rfl, rfl⟩
  | true =>
    simp only [Bool.not_true, Bool.false_eq_true, if_false, Option.bind_eq_some_iff, destroySession] at h
    obtain ⟨_, destroyed, h⟩ := h
    split at destroyed
    · cases destroyed
    rename_i idle
    have sessionIdle : s.sessionRuns = false := by simpa [State.sessionRuns] using idle
    cases sessionReady <;> cases h
    · exact .inr ⟨rfl, sessionIdle, by simpa using notInitialized⟩
    · exact .inr ⟨rfl, sessionIdle, rfl⟩

/-- `Finalize` takes back the initialisation, and nothing else. -/
theorem finalize_eq (h : s.finalize = some (code, t)) : t = { s with initialized := false } := by
  simp only [State.finalize] at h
  split at h <;> cases h
  rfl

/-- `Activate` returns without a change, or it starts the session's thread at most, or it goes through. -/
theorem activate_cases {sessionReady decoderReady : Bool} (h : s.activate sessionReady decoderReady = some (code, t)) :
    ((s.initialized = false ∨ sessionReady = false) ∧ t = s) ∨
    (s.initialized = true ∧ sessionReady = true ∧ ∃ session session' decoder, s.session = some session ∧
      sessionActivate session = some session' ∧ s.decoder = some decoder ∧
      ((decoderReady = false ∧ t = { s with session := some session' }) ∨
      (decoderReady = true ∧ decoder.thread.joinable = false ∧ t = { s with
        session := some session', activated := true,
        decoder := some { decoder with thread := { decoder.thread with joinable := true } } }))) := by
  simp only [State.activate] at h
  split at h
  · rename_i notInitialized
    cases h
    exact .inl ⟨.inl (by simpa using notInitialized), rfl⟩
  rename_i initialized
  simp only [Option.bind_eq_bind, Option.bind_eq_some_iff] at h
  obtain ⟨session, hasSession, h⟩ := h
  cases sessionReady with
  | false =>
    cases h
    exact .inl ⟨.inr rfl, rfl⟩
  | true =>
    simp only [Bool.not_true, Bool.false_eq_true, if_false, Option.bind_eq_some_iff] at h
    obtain ⟨session', activated, decoder, hasDecoder, h⟩ := h
    refine .inr ⟨by simpa using initialized, rfl, session, session', decoder, hasSession, activated, hasDecoder, ?_⟩
    cases decoderReady with
    | false =>
      cases h
      exact .inl ⟨rfl, rfl⟩
    | true =>
      simp only [Bool.not_true, Bool.false_eq_true, if_false, Option.bind_eq_some_iff] at h
      obtain ⟨thread, started, h⟩ := h
      obtain ⟨free, rfl⟩ := WorkerThread.start_eq started
      cases h
      exact .inr ⟨rfl, free, rfl⟩

/-- `Deactivate` returns without a change, or it has joined both threads. -/
theorem deactivate_cases (h : s.deactivate = some (code, t)) :
    (s.initialized = false ∧ t = s) ∨
    (s.initialized = true ∧ ∃ decoder, s.decoder = some decoder ∧
      t = { s with session := some {}, decoder := some { decoder with thread := {} }, activated := false }) := by
  simp only [State.deactivate] at h
  split at h
  · rename_i notInitialized
    cases h
    exact .inl ⟨by simpa using notInitialized, rfl⟩
  rename_i initialized
  simp only [Option.bind_eq_bind, Option.bind_eq_some_iff] at h
  obtain ⟨session, -, session', stopped, decoder, hasDecoder, thread, stopped', h⟩ := h
  obtain rfl := WorkerThread.stop_eq stopped
  obtain rfl := WorkerThread.stop_eq stopped'
  cases h
  exact .inr ⟨by simpa using initialized, decoder, hasDecoder, rfl⟩

/-- A raised flag changes neither what runs nor what is initialised. -/
structure Raised (s t : State) : Prop where
  initialized : t.initialized = s.initialized
  activated : t.activated = s.activated
  session : t.sessionRuns = s.sessionRuns
  decoder : t.decoderRuns = s.decoderRuns

theorem raiseSession_raised (h : s.raiseSession = some t) : Raised s t := by
  simp only [State.raiseSession, Option.bind_eq_bind, Option.bind_eq_some_iff] at h
  obtain ⟨session, hasSession, session', raised, h⟩ := h
  simp only [WorkerThread.raise] at raised
  split at raised <;> cases raised
  cases h
  exact ⟨rfl, rfl, by simp [State.sessionRuns, hasSession], rfl⟩

theorem raiseDecoder_raised (h : s.raiseDecoder = some t) : Raised s t := by
  simp only [State.raiseDecoder, Option.bind_eq_bind, Option.bind_eq_some_iff] at h
  obtain ⟨decoder, hasDecoder, thread, raised, h⟩ := h
  simp only [WorkerThread.raise] at raised
  split at raised <;> cases raised
  cases h
  exact ⟨rfl, rfl, rfl, by simp [State.decoderRuns, hasDecoder]⟩

theorem Raised.quiet (raised : Raised s t) (quiet : Quiet s) : Quiet t :=
  ⟨raised.activated.trans quiet.inactive, raised.session.trans quiet.session, raised.decoder.trans quiet.decoder⟩

/-! ## The parts -/

theorem Parts.queue_eq (parts : Parts s) (initialized : s.initialized = true) {part : Decoder}
    (hasDecoder : s.decoder = some part) : part.queue = true := by
  obtain ⟨part', hasDecoder', queue⟩ := parts.decoder initialized
  rw [hasDecoder] at hasDecoder'
  rwa [Option.some.inj hasDecoder']

theorem Parts.step (parts : Parts s) (h : s.step a = some t) : Parts t := by
  have queued := @parts.queue_eq
  obtain ⟨session, decoder, raised⟩ := parts
  cases a with
  | initializeStreamer decoderReady sessionReady =>
    obtain ⟨⟨code, u⟩, ran, rfl⟩ := Option.map_eq_some_iff.1 h
    rcases initializeStreamer_cases ran with ⟨-, rfl⟩ | ⟨notInitialized, -, -, ⟨-, rfl⟩ | ⟨-, -, rfl⟩⟩
    · exact ⟨session, decoder, raised⟩
    · refine ⟨session, fun initialized => ?_, raised⟩
      simp only [notInitialized] at initialized
      cases initialized
    · refine ⟨fun _ => ⟨_, rfl⟩, fun _ => ⟨_, rfl, rfl⟩, ?_⟩
      rintro _ ⟨⟩ running
      cases running
  | finalize =>
    obtain ⟨⟨code, u⟩, ran, rfl⟩ := Option.map_eq_some_iff.1 h
    obtain rfl := finalize_eq ran
    exact ⟨nofun, nofun, raised⟩
  | activate sessionReady decoderReady =>
    obtain ⟨⟨code, u⟩, ran, rfl⟩ := Option.map_eq_some_iff.1 h
    rcases activate_cases ran with ⟨-, rfl⟩ | ⟨-, -, old, new, part, hasSession, activated, hasDecoder, outcome⟩
    · exact ⟨session, decoder, raised⟩
    have new_raised : new.running = true → new.joinable = true := by
      intro running
      simp only [sessionActivate] at activated
      split at activated
      · rename_i up
        cases activated
        exact raised old hasSession up
      · obtain ⟨-, rfl⟩ := WorkerThread.start_eq activated
        rfl
    rcases outcome with ⟨-, rfl⟩ | ⟨-, -, rfl⟩
    · refine ⟨fun _ => ⟨_, rfl⟩, decoder, ?_⟩
      rintro _ ⟨⟩ running
      exact new_raised running
    · refine ⟨fun _ => ⟨_, rfl⟩, fun initialized => ⟨_, rfl, ?_⟩, ?_⟩
      · apply queued initialized hasDecoder
      · rintro _ ⟨⟩ running
        exact new_raised running
  | deactivate =>
    obtain ⟨⟨code, u⟩, ran, rfl⟩ := Option.map_eq_some_iff.1 h
    rcases deactivate_cases ran with ⟨-, rfl⟩ | ⟨-, part, hasDecoder, rfl⟩
    · exact ⟨session, decoder, raised⟩
    · refine ⟨fun _ => ⟨_, rfl⟩, fun initialized => ⟨_, rfl, ?_⟩, ?_⟩
      · apply queued initialized hasDecoder
      · rintro _ ⟨⟩ running
        cases running
  | raiseSession =>
    simp only [State.step, State.raiseSession, Option.bind_eq_bind, Option.bind_eq_some_iff] at h
    obtain ⟨old, hasSession, new, up, h⟩ := h
    simp only [WorkerThread.raise] at up
    split at up <;> cases up
    rename_i joinable
    cases h
    refine ⟨fun _ => ⟨_, rfl⟩, decoder, ?_⟩
    rintro _ ⟨⟩ -
    exact joinable
  | raiseDecoder =>
    simp only [State.step, State.raiseDecoder, Option.bind_eq_bind, Option.bind_eq_some_iff] at h
    obtain ⟨old, hasDecoder, thread, up, h⟩ := h
    cases h
    refine ⟨session, fun initialized => ⟨_, rfl, ?_⟩, raised⟩
    apply queued initialized hasDecoder

/-! ## The flag and the threads -/

/-- `IsActivate` is true where the streamer is initialised and both threads run, and false where neither does. -/
structure Corresponds (s : State) : Prop where
  active : s.isActivate = true ↔ s.initialized = true ∧ s.sessionRuns = true ∧ s.decoderRuns = true
  inactive : s.isActivate = false ↔ s.sessionRuns = false ∧ s.decoderRuns = false

/-- The decoder does not fail to activate in an `Activate` that has started the session, and no active streamer
is finalized. -/
def Proper (s : State) : Act → Prop
  | .activate true false => s.initialized = true → s.activated = true
  | .finalize => s.activated = false
  | _ => True

instance (s : State) : ∀ a, Decidable (Proper s a)
  | .activate true false => inferInstanceAs (Decidable (_ → _))
  | .finalize => inferInstanceAs (Decidable (_ = _))
  | .activate true true | .activate false _ => .isTrue trivial
  | .initializeStreamer _ _ | .deactivate | .raiseSession | .raiseDecoder => .isTrue trivial

/-- The threads run as the flag says, and only an initialised streamer is active. -/
structure Level (s : State) : Prop where
  parts : Parts s
  session : s.sessionRuns = s.activated
  decoder : s.decoderRuns = s.activated
  initialized : s.activated = true → s.initialized = true

theorem Level.corresponds (level : Level s) : Corresponds s := by
  obtain ⟨-, session, decoder, initialized⟩ := level
  refine ⟨⟨fun active => ?_, fun both => ?_⟩, ?_⟩
  · rw [session, decoder]
    exact ⟨initialized active, active, active⟩
  · rw [State.isActivate, ← session]
    exact both.2.1
  · rw [session, decoder, and_self]
    rfl

theorem level_initial : Level {} := ⟨⟨nofun, nofun, nofun⟩, rfl, rfl, nofun⟩

theorem Level.of_raised (level : Level s) (parts : Parts t) (raised : Raised s t) : Level t := by
  refine ⟨parts, ?_, ?_, ?_⟩
  · rw [raised.session, raised.activated, level.session]
  · rw [raised.decoder, raised.activated, level.decoder]
  · rw [raised.activated, raised.initialized]
    exact level.initialized

theorem Level.step (level : Level s) (proper : Proper s a) (h : s.step a = some t) : Level t := by
  have parts := level.parts.step h
  have session := level.session
  have decoder := level.decoder
  have initialized := level.initialized
  cases a with
  | initializeStreamer decoderReady sessionReady =>
    obtain ⟨⟨code, u⟩, ran, rfl⟩ := Option.map_eq_some_iff.1 h
    rcases initializeStreamer_cases ran with ⟨-, rfl⟩ | ⟨-, inactive, -, ⟨-, rfl⟩ | ⟨-, -, rfl⟩⟩
    · exact ⟨parts, session, decoder, initialized⟩
    · exact ⟨parts, session, inactive.symm, initialized⟩
    · refine ⟨parts, inactive.symm, inactive.symm, fun active => ?_⟩
      simp only [inactive] at active
      cases active
  | finalize =>
    obtain ⟨⟨code, u⟩, ran, rfl⟩ := Option.map_eq_some_iff.1 h
    obtain rfl := finalize_eq ran
    have inactive : s.activated = false := proper
    refine ⟨parts, session, decoder, fun active => ?_⟩
    simp only [inactive] at active
    cases active
  | activate sessionReady decoderReady =>
    obtain ⟨⟨code, u⟩, ran, rfl⟩ := Option.map_eq_some_iff.1 h
    rcases activate_cases ran with ⟨-, rfl⟩ | ⟨ready, rfl, old, new, part, hasSession, activated, hasDecoder, outcome⟩
    · exact ⟨parts, session, decoder, initialized⟩
    have started : new.joinable = true := by
      simp only [sessionActivate] at activated
      split at activated
      · rename_i up
        cases activated
        exact parts.raised _ (by rcases outcome with ⟨-, rfl⟩ | ⟨-, -, rfl⟩ <;> rfl) up
      · obtain ⟨-, rfl⟩ := WorkerThread.start_eq activated
        rfl
    rcases outcome with ⟨rfl, rfl⟩ | ⟨-, -, rfl⟩
    · have active : s.activated = true := proper ready
      refine ⟨parts, ?_, decoder, initialized⟩
      simp only [active, State.sessionRuns, Option.any_some, started]
    · refine ⟨parts, ?_, rfl, fun _ => ready⟩
      simp only [State.sessionRuns, Option.any_some, started]
  | deactivate =>
    obtain ⟨⟨code, u⟩, ran, rfl⟩ := Option.map_eq_some_iff.1 h
    rcases deactivate_cases ran with ⟨-, rfl⟩ | ⟨-, part, -, rfl⟩
    · exact ⟨parts, session, decoder, initialized⟩
    · exact ⟨parts, rfl, rfl, nofun⟩
  | raiseSession =>
    exact level.of_raised parts (raiseSession_raised h)
  | raiseDecoder =>
    exact level.of_raised parts (raiseDecoder_raised h)

/-- The other steps are possible and break the correspondence. -/
theorem Level.breaks (level : Level s) (improper : ¬ Proper s a) : ∃ t, s.step a = some t ∧ ¬ Corresponds t := by
  obtain ⟨⟨session, decoder, raised⟩, session_level, -, initialized⟩ := level
  cases a with
  | finalize =>
    have active : s.activated = true := by simpa [Proper] using improper
    obtain ⟨part, hasDecoder, queue⟩ := decoder (initialized active)
    refine ⟨{ s with initialized := false }, by simp [State.step, State.finalize, hasDecoder, queue], fun corresponds => ?_⟩
    cases (corresponds.active.1 active).1
  | activate sessionReady decoderReady =>
    cases sessionReady with
    | false => exact absurd trivial improper
    | true =>
      cases decoderReady with
      | true => exact absurd trivial improper
      | false =>
        simp only [Proper, Classical.not_imp, Bool.not_eq_true] at improper
        obtain ⟨ready, inactive⟩ := improper
        obtain ⟨old, hasSession⟩ := session ready
        obtain ⟨part, hasDecoder, -⟩ := decoder ready
        have free : old.joinable = false := by
          rw [inactive, State.sessionRuns, hasSession] at session_level
          exact session_level
        have down : old.running = false := by
          by_contra up
          rw [raised old hasSession (by simpa using up)] at free
          cases free
        refine ⟨{ s with session := some { old with joinable := true } }, ?_, fun corresponds => ?_⟩
        · simp [State.step, State.activate, ready, hasSession, hasDecoder, sessionActivate, WorkerThread.start, free, down]
        · cases (corresponds.inactive.1 inactive).1
  | initializeStreamer | deactivate | raiseSession | raiseDecoder => exact absurd trivial improper

/-- **The streamer's flag tells what runs** in every state of a run, exactly when in that run no decoder fails
to activate behind a started session and no active streamer is finalized. -/
theorem is_activate_iff {acts : List Act} :
    Throughout State.step Corresponds {} acts ↔ Along State.step Proper {} acts :=
  throughout_iff_along (fun level proper h => level.step proper h) (fun level => level.corresponds)
    (fun level improper => level.breaks improper) level_initial

/-- The decoder fails to activate, and the session's thread stays. -/
theorem failed_activate_half_started :
    ¬ Throughout State.step Corresponds {} [.initializeStreamer true true, .activate true false] := by
  intro corresponds
  have ran : run State.step {} [.initializeStreamer true true, .activate true false] =
      some { initialized := true, session := some { joinable := true }, decoder := some { queue := true } } := rfl
  cases ((corresponds.last ran).inactive.1 rfl).1

/-- An active streamer that was finalized: no call does anything to its threads any more. -/
structure Stranded (s : State) : Prop where
  activated : s.activated = true
  notInitialized : s.initialized = false
  session : s.sessionRuns = true
  decoder : s.decoderRuns = true

theorem Stranded.step (stranded : Stranded s) (h : s.step a = some t) : Stranded t := by
  have raised (raised : Raised s t) : Stranded t :=
    ⟨raised.activated.trans stranded.activated, raised.initialized.trans stranded.notInitialized,
      raised.session.trans stranded.session, raised.decoder.trans stranded.decoder⟩
  obtain ⟨activated, notInitialized, session, decoder⟩ := stranded
  cases a with
  | initializeStreamer decoderReady sessionReady =>
    obtain ⟨⟨code, u⟩, ran, rfl⟩ := Option.map_eq_some_iff.1 h
    rcases initializeStreamer_cases ran with ⟨-, rfl⟩ | ⟨-, inactive, -⟩
    · exact ⟨activated, notInitialized, session, decoder⟩
    · rw [activated] at inactive
      cases inactive
  | finalize =>
    obtain ⟨⟨code, u⟩, ran, rfl⟩ := Option.map_eq_some_iff.1 h
    obtain rfl := finalize_eq ran
    exact ⟨activated, rfl, session, decoder⟩
  | activate sessionReady decoderReady =>
    obtain ⟨⟨code, u⟩, ran, rfl⟩ := Option.map_eq_some_iff.1 h
    rcases activate_cases ran with ⟨-, rfl⟩ | ⟨ready, -⟩
    · exact ⟨activated, notInitialized, session, decoder⟩
    · rw [notInitialized] at ready
      cases ready
  | deactivate =>
    obtain ⟨⟨code, u⟩, ran, rfl⟩ := Option.map_eq_some_iff.1 h
    rcases deactivate_cases ran with ⟨-, rfl⟩ | ⟨ready, -⟩
    · exact ⟨activated, notInitialized, session, decoder⟩
    · rw [notInitialized] at ready
      cases ready
  | raiseSession => exact raised (raiseSession_raised h)
  | raiseDecoder => exact raised (raiseDecoder_raised h)

/-- Whatever is called, the threads of a stranded streamer are never joined. -/
theorem stranded_forever (stranded : Stranded s) (acts : List Act) : Throughout State.step Stranded s acts :=
  throughout (fun stranded _ h => stranded.step h) id stranded along_true

end Streamer

end CameraEv
