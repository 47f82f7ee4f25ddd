import CameraEv.Lib.Trace
import CameraEv.Live555.RtspCallback

/-!
# `Session_RTSP` and the life of its clients

The session's thread opens a client, runs the event loop until the watch
variable is set, and closes the client. `Deactivate` is three stores and a
join, each a step. The event loop calls a handler whenever the client's data
allow it: a response while a command is pending, the timer while it is
scheduled, the end of a subsession while it has a sink. A destroyed client has
none of these; nothing else keeps a handler from being called on it.
-/

namespace CameraEv

open Trace

namespace Session_RTSP

/-- Where `ThreadLoop` is. -/
inductive Loop where
  | stopped
  /-- Before `m_thread_running = true`. -/
  | start
  | check
  | openURL
  /-- Before `m_eventLoopWatchVariable = 0`. -/
  | arm
  | eventLoop
  /-- `shutdownStream(m_rtspClient)`. -/
  | shutdown
  /-- `if (m_thread_running)`. -/
  | again
  | wait
  deriving DecidableEq

/-- What `Deactivate` does next. -/
inductive Control where
  | idle
  | running
  | wakeUp
  | join
  deriving DecidableEq

structure State where
  threadRunning : Bool := false
  eventLoopWatchVariable : Bool := false
  locker : Bool := false
  /-- `m_rtspClient`. -/
  rtspClient : Option Nat := none
  /-- All clients that were created, by their number. -/
  clients : List CustomRTSPClient := []
  loop : Loop := .stopped
  control : Control := .idle
  deriving DecidableEq

/-- How `openURL` ends: without a client, without a DESCRIBE, or with one sent. -/
inductive Opened where
  | noClient
  | notSent
  | sent
  deriving DecidableEq

/-- What the event loop calls. -/
inductive Handler where
  | describe (resultCode : Int) (session : Option MediaSession)
  | setup (resultCode : Int)
  | play (resultCode : Int)
  /-- The source of a subsession ends, or a BYE arrives for it. -/
  | afterPlaying (k : Nat)
  | timer
  deriving DecidableEq

inductive Act where
  | activate
  /-- The next statement of `Deactivate`. -/
  | deactivate
  | reconnect
  /-- The next statement of the thread. -/
  | thread
  /-- `openURL`. -/
  | opened (outcome : Opened)
  | event (client : Nat) (handler : Handler)
  deriving DecidableEq

namespace State

/-- A handler runs where the client's data call for it; the second component is whether it reconnects. -/
def called (c : CustomRTSPClient) : Handler → Option (CustomRTSPClient × Bool)
  | .describe resultCode session =>
    if c.pending = some .describe then some (c.continueAfterDESCRIBE resultCode session) else none
  | .setup resultCode => match c.pending with
    | some (.setup _) => some (c.continueAfterSETUP resultCode, false)
    | _ => none
  | .play resultCode => if c.pending = some .play then some (c.continueAfterPLAY resultCode, false) else none
  | .afterPlaying k =>
    if (c.subsessions[k]?).any MediaSubsession.sink then some (c.subsessionAfterPlaying k, false) else none
  | .timer => if c.streamTimerTask then some (c.streamTimerHandler, true) else none

def stepThread (s : State) : Loop → Option State
  | .start => some { s with threadRunning := true, loop := .check }
  | .check => some { s with loop := if s.threadRunning then .openURL else .stopped }
  | .arm => some { s with eventLoopWatchVariable := false, loop := .eventLoop }
  | .eventLoop => if s.eventLoopWatchVariable then some { s with loop := .shutdown } else none
  | .shutdown => do
    let id ← s.rtspClient
    let c ← s.clients[id]?
    -- a destroyed client cannot be used
    if c.closed then none
    else some { s with clients := s.clients.set id c.shutdownStream, rtspClient := none, loop := .again }
  | .again => some { s with loop := if s.threadRunning then .wait else .check }
  | .wait => if s.locker then some { s with locker := false, loop := .check } else none
  | _ => none

def step (s : State) : Act → Option State
  | .activate =>
    if s.control ≠ .idle then none
    else if s.threadRunning then some s
    else if s.loop = .stopped then some { s with loop := .start } else none
  | .deactivate => match s.control with
    | .idle => some { s with eventLoopWatchVariable := true, control := .running }
    | .running => some { s with threadRunning := false, control := .wakeUp }
    | .wakeUp => some { s with locker := true, control := .join }
    | .join => if s.loop = .stopped then some { s with control := .idle } else none
  | .reconnect => some { s with eventLoopWatchVariable := true }
  | .thread => s.stepThread s.loop
  | .opened outcome =>
    if s.loop ≠ .openURL then none
    else match outcome with
      | .noClient => some { s with rtspClient := none, loop := .again }
      | .notSent => some { s with clients := s.clients ++ [{}], rtspClient := some s.clients.length, loop := .again }
      | .sent => some { s with clients := s.clients ++ [.opened], rtspClient := some s.clients.length, loop := .arm }
  | .event id handler =>
    if s.loop ≠ .eventLoop then none
    else do
      let (c, reconnects) ← (s.clients[id]?).bind fun c => called c handler
      return { s with clients := s.clients.set id c, eventLoopWatchVariable := s.eventLoopWatchVariable || reconnects }

/-- The client that a step uses. -/
def uses (s : State) : Act → Option Nat
  | .thread => if s.loop = .shutdown then s.rtspClient else none
  | .event id handler => if s.loop = .eventLoop ∧ ((s.clients[id]?).bind fun c => called c handler).isSome then some id else none
  | _ => none

/-- A step uses a client that is not destroyed, so that none is closed twice; `shutdownStream` gets one. -/
structure Safe (s : State) (a : Act) : Prop where
  live : ∀ id, s.uses a = some id → ∃ c, s.clients[id]? = some c ∧ c.closed = false
  given : s.loop = .shutdown → ∃ id, s.rtspClient = some id

/-- No PLAY is refused, and no subsession ends as the last one that has a sink. -/
def Kept (s : State) : Act → Prop
  | .event id (.play resultCode) => ∀ c, s.clients[id]? = some c → c.pending = some .play → resultCode = 0
  | .event id (.afterPlaying k) => ∀ c, s.clients[id]? = some c → (c.subsessions[k]?).any MediaSubsession.sink = true →
    (c.setSink k false).subsessions.any MediaSubsession.sink = true
  | _ => True

instance (s : State) : ∀ a, Decidable (s.Kept a)
  | .event _ (.play _) | .event _ (.afterPlaying _) =>
    inferInstanceAs (Decidable (∀ c ∈ s.clients[_]?, _ → _))
  | .event _ (.describe _ _) | .event _ (.setup _) | .event _ .timer => .isTrue trivial
  | .activate | .deactivate | .reconnect | .thread | .opened _ => .isTrue trivial

/-! ## What handlers do to a client's life -/

section Handlers

variable {c d : CustomRTSPClient} {reconnects : Bool}

theorem setupNext_closed (c : CustomRTSPClient) (rest : List MediaSubsession) : (c.setupNext rest).closed = c.closed := by
  induction rest generalizing c with
  | nil => rfl
  | cons m rest ih =>
    simp only [CustomRTSPClient.setupNext]
    split
    · rw [ih]
    · split
      · rw [ih]
      · rfl

theorem continueAfterDESCRIBE_closed (c : CustomRTSPClient) (resultCode : Int) (session : Option MediaSession) :
    (c.continueAfterDESCRIBE resultCode session).1.closed = c.closed := by
  simp only [CustomRTSPClient.continueAfterDESCRIBE]
  split
  · rfl
  · split
    · rfl
    · split
      · rfl
      · exact setupNext_closed _ _

theorem continueAfterSETUP_closed (c : CustomRTSPClient) (resultCode : Int) :
    (c.continueAfterSETUP resultCode).closed = c.closed := by
  simp only [CustomRTSPClient.continueAfterSETUP]
  split
  · split <;> exact setupNext_closed _ _
  · exact setupNext_closed _ _

/-- Nothing of the client is left that the event loop could call a handler for. -/
structure Gone (c : CustomRTSPClient) : Prop where
  pending : c.pending = none
  timer : c.streamTimerTask = false
  sinks : c.subsessions.any MediaSubsession.sink = false

theorem gone_shutdownStream (c : CustomRTSPClient) : Gone c.shutdownStream := by
  refine ⟨rfl, rfl, ?_⟩
  cases session : c.session with
  | none => simp [CustomRTSPClient.shutdownStream, CustomRTSPClient.closeSinks, CustomRTSPClient.subsessions, session]
  | some s =>
    simp [CustomRTSPClient.shutdownStream, CustomRTSPClient.closeSinks, CustomRTSPClient.subsessions, session]

theorem Gone.not_called (gone : Gone c) (handler : Handler) : called c handler = none := by
  have pending := gone.pending
  have timer := gone.timer
  cases handler with
  | afterPlaying k =>
    have none : (c.subsessions[k]?).any MediaSubsession.sink = false := by
      cases found : c.subsessions[k]? with
      | none => rfl
      | some m => simpa using List.any_eq_false.1 gone.sinks m (List.mem_of_getElem? found)
    simp [called, none]
  | _ => simp [called, pending, timer]

/-- Under the condition on the step a handler does not destroy its client. -/
theorem called_open {handler : Handler} (h : called c handler = some (d, reconnects)) (isOpen : c.closed = false)
    (play : ∀ code, handler = .play code → c.pending = some .play → code = 0)
    (last : ∀ k, handler = .afterPlaying k → (c.subsessions[k]?).any MediaSubsession.sink = true →
      (c.setSink k false).subsessions.any MediaSubsession.sink = true) : d.closed = false := by
  cases handler with
  | describe resultCode session =>
    simp only [called] at h
    split at h
    · have first : (c.continueAfterDESCRIBE resultCode session).1 = d := congrArg Prod.fst (Option.some.inj h)
      rw [← first, continueAfterDESCRIBE_closed]
      exact isOpen
    · cases h
  | setup resultCode =>
    simp only [called] at h
    split at h <;> cases h
    exact (continueAfterSETUP_closed c resultCode).trans isOpen
  | play resultCode =>
    simp only [called] at h
    split at h <;> cases h
    rename_i pending
    obtain rfl := play resultCode rfl pending
    simp only [CustomRTSPClient.continueAfterPLAY, ne_eq, not_true_eq_false, if_false]
    split <;> exact isOpen
  | afterPlaying k =>
    simp only [called] at h
    split at h <;> cases h
    rename_i sink
    simp only [CustomRTSPClient.subsessionAfterPlaying, last k rfl sink, if_true]
    exact isOpen
  | timer =>
    simp only [called] at h
    split at h <;> cases h
    exact isOpen

end Handlers

/-! ## Runs -/

/-- The thread's client is open from `openURL` to `shutdownStream`, and no handler can be called on a destroyed one. -/
structure Owned (s : State) : Prop where
  current : s.loop = .arm ∨ s.loop = .eventLoop ∨ s.loop = .shutdown →
    ∃ id c, s.rtspClient = some id ∧ s.clients[id]? = some c ∧ c.closed = false
  gone : ∀ c ∈ s.clients, c.closed = true → Gone c

variable {s t : State} {a : Act}

/-- A client that a handler can be called on is open. -/
theorem Owned.open_of_called (owned : s.Owned) {id : Nat} {c : CustomRTSPClient} (found : s.clients[id]? = some c)
    {handler : Handler} (possible : (called c handler).isSome = true) : c.closed = false := by
  by_contra closed
  have gone := owned.gone c (List.mem_of_getElem? found) (by simpa using closed)
  rw [gone.not_called] at possible
  cases possible

theorem Owned.safe (owned : s.Owned) : s.Safe a := by
  constructor
  · intro id used
    cases a with
    | thread =>
      simp only [uses] at used
      split at used
      · rename_i shutdown
        obtain ⟨id', c, given, found, isOpen⟩ := owned.current (.inr (.inr shutdown))
        obtain rfl := Option.some.inj (given.symm.trans used)
        exact ⟨c, found, isOpen⟩
      · cases used
    | event id' handler =>
      simp only [uses] at used
      split at used
      · rename_i possible
        cases used
        obtain ⟨-, possible⟩ := possible
        cases found : s.clients[id]? with
        | none => simp [found] at possible
        | some c =>
          refine ⟨c, rfl, ?_⟩
          apply owned.open_of_called found
          rwa [found, Option.bind_some] at possible
      · cases used
    | _ => cases used
  · intro shutdown
    obtain ⟨id, c, given, -⟩ := owned.current (.inr (.inr shutdown))
    exact ⟨id, given⟩

/-- A step that leaves the clients alone and does not go from outside to a point that needs one. -/
theorem Owned.keep (owned : s.Owned) (clients : t.clients = s.clients) (client : t.rtspClient = s.rtspClient)
    (loop : t.loop = .arm ∨ t.loop = .eventLoop ∨ t.loop = .shutdown →
      s.loop = .arm ∨ s.loop = .eventLoop ∨ s.loop = .shutdown) : t.Owned := by
  refine ⟨fun here => ?_, ?_⟩
  · rw [clients, client]
    exact owned.current (loop here)
  · rw [clients]
    exact owned.gone

/-- Client `id` is replaced, and nothing else about the clients changes. -/
theorem Owned.set (owned : s.Owned) {id : Nat} {d : CustomRTSPClient} (clients : t.clients = s.clients.set id d)
    (gone : d.closed = true → Gone d)
    (current : t.loop = .arm ∨ t.loop = .eventLoop ∨ t.loop = .shutdown → ∃ id c, t.rtspClient = some id ∧
      t.clients[id]? = some c ∧ c.closed = false) : t.Owned := by
  refine ⟨current, fun c mem closed => ?_⟩
  rw [clients] at mem
  rcases List.mem_or_eq_of_mem_set mem with mem | rfl
  · exact owned.gone c mem closed
  · exact gone closed

theorem Owned.thread (owned : s.Owned) {loop : Loop} (here : s.loop = loop) (h : s.stepThread loop = some t) :
    t.Owned := by
  cases loop with
  | stopped => cases h
  | openURL => cases h
  | start =>
    cases h
    exact owned.keep rfl rfl (by simp)
  | check =>
    cases h
    refine owned.keep rfl rfl ?_
    cases s.threadRunning <;> simp
  | arm =>
    cases h
    exact owned.keep rfl rfl fun _ => .inl here
  | eventLoop =>
    simp only [State.stepThread] at h
    split at h <;> cases h
    exact owned.keep rfl rfl fun _ => .inr (.inl here)
  | shutdown =>
    simp only [State.stepThread, Option.bind_eq_bind, Option.bind_eq_some_iff] at h
    obtain ⟨id, -, c, -, h⟩ := h
    split at h <;> cases h
    exact owned.set rfl (fun _ => gone_shutdownStream c) (by simp)
  | again =>
    cases h
    refine owned.keep rfl rfl ?_
    cases s.threadRunning <;> simp
  | wait =>
    simp only [State.stepThread] at h
    split at h <;> cases h
    exact owned.keep rfl rfl (by simp)

theorem Owned.step (owned : s.Owned) (kept : s.Kept a) (h : s.step a = some t) : t.Owned := by
  cases a with
  | activate =>
    simp only [State.step] at h
    split at h
    · cases h
    split at h
    · cases h
      exact owned
    split at h <;> cases h
    exact owned.keep rfl rfl (by simp)
  | deactivate =>
    simp only [State.step] at h
    split at h
    · cases h
      exact owned.keep rfl rfl id
    · cases h
      exact owned.keep rfl rfl id
    · cases h
      exact owned.keep rfl rfl id
    · split at h <;> cases h
      exact owned.keep rfl rfl id
  | reconnect =>
    cases h
    exact owned.keep rfl rfl id
  | thread => exact owned.thread rfl h
  | opened outcome =>
    simp only [State.step] at h
    split at h
    · cases h
    have gone {new : CustomRTSPClient} (isOpen : new.closed = false) :
        ∀ c ∈ s.clients ++ [new], c.closed = true → Gone c := by
      intro c mem closed
      rcases List.mem_append.1 mem with mem | mem
      · exact owned.gone c mem closed
      · obtain rfl := List.mem_singleton.1 mem
        rw [isOpen] at closed
        cases closed
    cases outcome with
    | noClient =>
      cases h
      exact ⟨by simp, owned.gone⟩
    | notSent =>
      cases h
      exact ⟨by simp, gone rfl⟩
    | sent =>
      cases h
      exact ⟨fun _ => ⟨_, _, rfl, List.getElem?_concat_length, rfl⟩, gone rfl⟩
  | event id handler =>
    simp only [State.step] at h
    split at h
    · cases h
    rename_i inLoop
    simp only [ne_eq, Decidable.not_not] at inLoop
    simp only [Option.bind_eq_bind, Option.bind_eq_some_iff, Option.pure_def, Option.some.injEq] at h
    obtain ⟨⟨d, reconnects⟩, ⟨c, found, run⟩, rfl⟩ := h
    have isOpen : c.closed = false := by
      apply owned.open_of_called found
      rw [run, Option.isSome_some]
    have isOpen' : d.closed = false := by
      refine called_open run isOpen ?_ ?_
      · rintro code rfl pending
        exact kept c found pending
      · rintro k rfl sink
        exact kept c found sink
    refine owned.set rfl (fun closed => by rw [isOpen'] at closed; cases closed) fun _ => ?_
    obtain ⟨id', c', given, found', isOpen''⟩ := owned.current (.inr (.inl inLoop))
    by_cases same : id' = id
    · subst same
      have small := (List.getElem?_eq_some_iff.1 found).1
      exact ⟨id', d, given, List.getElem?_set_self small, isOpen'⟩
    · exact ⟨id', c', given, (List.getElem?_set_ne (Ne.symm same)).trans found', isOpen''⟩

theorem owned_initial : ({} : State).Owned where
  current := by simp
  gone c mem := by cases mem

end State

open State

/-- **A client is closed at most once and never used afterwards** in any run in which no PLAY is refused
and no subsession ends as the last one with a sink. -/
theorem clients_safe {acts : List Act} (kept : Along State.step State.Kept {} acts) :
    Along State.step State.Safe {} acts :=
  along_of (fun owned kept h => owned.step kept h) (fun owned _ => owned.safe) owned_initial kept

/-- A camera with one stream. -/
def oneStream : MediaSession := ⟨[⟨"video", "H264", true, false⟩], false⟩

/-- The start of the thread, and a client that has sent its PLAY. -/
def upToPlay : List Act :=
  [.activate, .thread, .thread, .opened .sent, .thread, .event 0 (.describe 0 oneStream), .event 0 (.setup 0)]

/-- A stream plays and is stopped. -/
theorem clients_safe_played :
    let acts := upToPlay ++ [.event 0 (.play 0), .deactivate, .deactivate, .thread, .thread]
    Along State.step State.Kept {} acts ∧ Along State.step State.Safe {} acts := by
  have kept : Along State.step State.Kept {} (upToPlay ++ [.event 0 (.play 0), .deactivate, .deactivate, .thread, .thread]) := by
    decide
  exact ⟨kept, clients_safe kept⟩

/-- The refusal of the PLAY destroys the client; with the reconnection the thread shuts it down again. -/
theorem refused_play_unsafe :
    ¬ Along State.step State.Safe {} (upToPlay ++ [.event 0 (.play 454), .reconnect, .thread] ++ [.thread]) := by
  intro safe
  have ran : ∃ t, Trace.run State.step {} (upToPlay ++ [.event 0 (.play 454), .reconnect, .thread]) = some t ∧
      t.uses .thread = some 0 ∧ (t.clients[0]?).map CustomRTSPClient.closed = some true := by
    refine ⟨_, rfl, rfl, rfl⟩
  obtain ⟨t, ran, used, closed⟩ := ran
  obtain ⟨c, found, isOpen⟩ := (safe.last ran).live 0 used
  simp [found, isOpen] at closed

end Session_RTSP

end CameraEv
