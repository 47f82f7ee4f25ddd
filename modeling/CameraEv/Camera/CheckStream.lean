import CameraEv.Camera.CameraStreams

/-!
# Two threads that restart a stream

The receive thread restarts a stream in `LoadCamerasPbFile`, the repeat-work
thread in `OnTimerCheckStream`, and neither takes a lock. A step is one call on
the stream's `Streamer`; each thread goes through its sequence as often as it likes.
-/

namespace CameraEv

open Trace

namespace CheckStream

/-- The next call of `LoadCamerasPbFile`; the first one is also where the receive thread does something else. -/
inductive Load where
  | deactivate
  | finalize
  | initializeStreamer
  | activate
  deriving DecidableEq

/-- The next call of `OnTimerCheckStream`. -/
inductive Timer where
  | isActivate
  | getIntervalPushFrameTime
  | deactivate
  | activate
  deriving DecidableEq

structure State where
  streamer : Streamer.State := {}
  load : Load := .deactivate
  timer : Timer := .isActivate
  deriving DecidableEq

inductive Act where
  | load (outcome : Camera.Outcome)
  /-- `late` is whether the interval is at least three seconds. -/
  | timer (late : Bool) (outcome : Camera.Outcome)
  | raiseSession
  | raiseDecoder
  deriving DecidableEq

namespace State

def loadCamerasPbFile (s : State) (outcome : Camera.Outcome) : Option State :=
  match s.load with
  | .deactivate => do return { s with streamer := (← s.streamer.deactivate).2, load := .finalize }
  | .finalize => do return { s with streamer := (← s.streamer.finalize).2, load := .initializeStreamer }
  | .initializeStreamer => do
    let (_, streamer) ← s.streamer.initializeStreamer outcome.decoderInitialized outcome.sessionInitialized
    return { s with streamer, load := .activate }
  | .activate => do
    let (_, streamer) ← s.streamer.activate outcome.sessionActivated outcome.decoderActivated
    return { s with streamer, load := .deactivate }

def onTimerCheckStream (s : State) (late : Bool) (outcome : Camera.Outcome) : Option State :=
  match s.timer with
  | .isActivate => if s.streamer.isActivate then some { s with timer := .getIntervalPushFrameTime } else some s
  | .getIntervalPushFrameTime =>
    if late then some { s with timer := .deactivate } else some { s with timer := .isActivate }
  | .deactivate => do return { s with streamer := (← s.streamer.deactivate).2, timer := .activate }
  | .activate => do
    let (_, streamer) ← s.streamer.activate outcome.sessionActivated outcome.decoderActivated
    return { s with streamer, timer := .isActivate }

def step (s : State) : Act → Option State
  | .load outcome => s.loadCamerasPbFile outcome
  | .timer late outcome => s.onTimerCheckStream late outcome
  | .raiseSession => do return { s with streamer := ← s.streamer.raiseSession }
  | .raiseDecoder => do return { s with streamer := ← s.streamer.raiseDecoder }

/-- The step is a call of `Activate`. -/
def activates (s : State) : Act → Prop
  | .load _ => s.load = .activate
  | .timer _ _ => s.timer = .activate
  | _ => False

/-- `Activate` is entered only while the streamer is inactive and has no thread, so none is assigned to. -/
def Safe (s : State) (a : Act) : Prop := s.activates a → Streamer.Quiet s.streamer

/-- No thread activates an initialised streamer while the other one is between its `Deactivate` and its `Activate`. -/
def Apart (s : State) : Act → Prop
  | .load _ => s.load = .activate → s.streamer.initialized = true → s.timer ≠ .activate
  | .timer _ _ => s.timer = .activate → s.streamer.initialized = true → s.load = .deactivate
  | _ => True

instance (s : State) : ∀ a, Decidable (s.Apart a)
  | .load _ | .timer _ _ => inferInstanceAs (Decidable (_ → _ → _))
  | .raiseSession | .raiseDecoder => .isTrue trivial

end State

open Streamer State

open Camera (quiet_deactivate quiet_finalize quiet_initializeStreamer activate_quiet_or)

/-- Nothing runs of a streamer that is not initialised, nor between a `Deactivate` and the `Activate` behind it. -/
structure Restarting (s : CheckStream.State) : Prop where
  idle : Camera.Idle s.streamer
  load : s.load ≠ .deactivate → Quiet s.streamer
  timer : s.timer = .activate → Quiet s.streamer

variable {s t : CheckStream.State} {a : CheckStream.Act}

theorem Restarting.of_quiet (quiet : Quiet s.streamer) : Restarting s := ⟨fun _ => quiet, fun _ => quiet, fun _ => quiet⟩

theorem Restarting.safe (restarting : Restarting s) : s.Safe a := by
  intro activates
  cases a with
  | load outcome =>
    apply restarting.load
    rw [show s.load = .activate from activates]
    decide
  | timer late outcome => exact restarting.timer activates
  | raiseSession => exact activates.elim
  | raiseDecoder => exact activates.elim

theorem Restarting.raised {streamer : Streamer.State} (restarting : Restarting s) (raised : Raised s.streamer streamer) :
    Restarting { s with streamer } := by
  refine ⟨fun notInitialized => ?_, fun busy => raised.quiet (restarting.load busy), fun busy =>
    raised.quiet (restarting.timer busy)⟩
  rw [raised.initialized] at notInitialized
  exact raised.quiet (restarting.idle notInitialized)

theorem Restarting.step (restarting : Restarting s) (apart : s.Apart a) (h : s.step a = some t) : Restarting t := by
  cases a with
  | load outcome =>
    simp only [State.step, State.loadCamerasPbFile] at h
    split at h
    · simp only [Option.bind_eq_bind, Option.bind_eq_some_iff, Prod.exists] at h
      obtain ⟨code, streamer, ran, h⟩ := h
      cases h
      exact .of_quiet (quiet_deactivate restarting.idle ran)
    · rename_i here
      simp only [Option.bind_eq_bind, Option.bind_eq_some_iff, Prod.exists] at h
      obtain ⟨code, streamer, ran, h⟩ := h
      cases h
      exact .of_quiet (quiet_finalize (restarting.load (by simp [here])) ran)
    · rename_i here
      simp only [Option.bind_eq_bind, Option.bind_eq_some_iff, Prod.exists] at h
      obtain ⟨code, streamer, ran, h⟩ := h
      cases h
      exact .of_quiet (quiet_initializeStreamer (restarting.load (by simp [here])) ran)
    · rename_i here
      simp only [Option.bind_eq_bind, Option.bind_eq_some_iff, Prod.exists] at h
      obtain ⟨code, streamer, ran, h⟩ := h
      cases h
      rcases activate_quiet_or (restarting.load (by simp [here])) ran with quiet | ⟨ready, ready'⟩
      · exact .of_quiet quiet
      · refine ⟨fun notInitialized => ?_, fun busy => absurd rfl busy, fun busy => absurd busy (apart here ready)⟩
        rw [show streamer.initialized = false from notInitialized] at ready'
        cases ready'
  | timer late outcome =>
    simp only [State.step, State.onTimerCheckStream] at h
    split at h
    · split at h <;> cases h
      · exact ⟨restarting.idle, restarting.load, nofun⟩
      · exact restarting
    · split at h <;> cases h
      · exact ⟨restarting.idle, restarting.load, nofun⟩
      · exact ⟨restarting.idle, restarting.load, nofun⟩
    · simp only [Option.bind_eq_bind, Option.bind_eq_some_iff, Prod.exists] at h
      obtain ⟨code, streamer, ran, h⟩ := h
      cases h
      exact .of_quiet (quiet_deactivate restarting.idle ran)
    · rename_i here
      simp only [Option.bind_eq_bind, Option.bind_eq_some_iff, Prod.exists] at h
      obtain ⟨code, streamer, ran, h⟩ := h
      cases h
      rcases activate_quiet_or (restarting.timer here) ran with quiet | ⟨ready, ready'⟩
      · exact .of_quiet quiet
      · refine ⟨fun notInitialized => ?_, fun busy => absurd (apart here ready) busy, nofun⟩
        rw [show streamer.initialized = false from notInitialized] at ready'
        cases ready'
  | raiseSession =>
    simp only [State.step, Option.bind_eq_bind, Option.bind_eq_some_iff] at h
    obtain ⟨streamer, ran, h⟩ := h
    cases h
    exact restarting.raised (raiseSession_raised ran)
  | raiseDecoder =>
    simp only [State.step, Option.bind_eq_bind, Option.bind_eq_some_iff] at h
    obtain ⟨streamer, ran, h⟩ := h
    cases h
    exact restarting.raised (raiseDecoder_raised ran)

/-- **A streamer is never activated twice**, from any reachable state of the camera on, in any run in which no thread
activates it between the `Deactivate` and the `Activate` of the other's restart. -/
theorem activated_once {c : Camera.State} {before : List Camera.Act} (reached : run Camera.State.step {} before = some c)
    (ii : Fin 3) {acts : List CheckStream.Act} (apart : Along State.step State.Apart { streamer := c.streamers ii } acts) :
    Along State.step State.Safe { streamer := c.streamers ii } acts := by
  have start : Restarting { streamer := c.streamers ii } :=
    ⟨Camera.idle_of_run reached ii, fun busy => absurd rfl busy, nofun⟩
  exact along_of (fun restarting apart h => restarting.step apart h) (fun restarting _ => restarting.safe) start apart

/-- The stream is loaded and runs. -/
def loaded : List CheckStream.Act := [.load {}, .load {}, .load {}, .load {}, .raiseSession, .raiseDecoder]

/-- Behind the start of the command line's stream the timer restarts it, then it is loaded again. -/
theorem activated_once_restart : ∃ c : Camera.State,
    run Camera.State.step {} [.sample {}, .raiseSession 0, .raiseDecoder 0] = some c ∧
      let acts := [.timer true {}, .timer true {}, .timer true {}, .timer true {}, .raiseSession, .raiseDecoder] ++ loaded
      (∃ t, run State.step { streamer := c.streamers 0 } acts = some t) ∧
        Along State.step State.Safe { streamer := c.streamers 0 } acts :=
  ⟨_, rfl, ⟨_, rfl⟩, activated_once (show run Camera.State.step {} [.sample {}, .raiseSession 0, .raiseDecoder 0] = _ from rfl)
    0 (by decide)⟩

/-- The stream is loaded again between the timer's `Deactivate` and its `Activate`: that `Activate` is entered with
the streamer active, and does not return. -/
theorem activated_twice : ∃ t,
    run State.step {} (loaded ++ [.timer true {}, .timer true {}, .timer true {}] ++ loaded) = some t ∧
      t.activates (.timer true {}) ∧ t.streamer.isActivate = true ∧ t.step (.timer true {}) = none :=
  ⟨_, rfl, rfl, rfl, rfl⟩

end CheckStream

end CameraEv
