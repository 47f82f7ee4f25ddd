import CameraEv.Session.SessionRtsp

/-!
# Stopping an RTSP session

`Deactivate` sets the watch variable, lowers `m_thread_running` and wakes the
thread; the thread lowers the watch variable itself, between `openURL` and
`doEventLoop`. A request that comes while it is there is lost, and the join
waits for an event of the network. A request that comes at any other moment is
never lost, and the thread goes to its exit by its own steps (`Leaving`). What
the join needs when nothing comes from the network any more is `Stoppable`.
-/

namespace CameraEv.Session_RTSP

open Trace

namespace State

/-- The thread is in `doEventLoop` and only an event can get it out. -/
def Waits (s : State) : Prop := s.loop = .eventLoop ∧ s.eventLoopWatchVariable = false

instance (s : State) : Decidable s.Waits := inferInstanceAs (Decidable (_ ∧ _))

/-- Its next `n` steps take the thread to the end of `ThreadLoop`. -/
def ExitsIn (n : Nat) (s : State) : Prop :=
  ∃ t, run step s (List.replicate n .thread) = some t ∧ t.loop = .stopped

/-- The thread does not wait for the network, and one that is joined is on its way to the exit; `Owned` says that the
client it holds has not been destroyed. -/
structure Leaves (s : State) : Prop where
  noWait : ¬ s.Waits
  exits : s.control = .join → s.Owned → ∃ n ≤ 4, s.ExitsIn n

/-- Until the next `Activate`, whatever the thread, the network, `Reconnect` and the rest of `Deactivate` do. -/
def RequestKept (s : State) : Prop := ∀ acts, .activate ∉ acts → Throughout step Leaves s acts

/-- The thread has not entered `openURL`, or it has armed the event loop before the watch variable was set. -/
structure InTime (s : State) : Prop where
  notOpening : s.loop ≠ .openURL
  notArming : s.loop ≠ .arm
  noWait : ¬ s.Waits

/-- `m_rtspClient` has not been destroyed. -/
def ClientOpen (s : State) : Prop :=
  ∃ id c, s.rtspClient = some id ∧ s.clients[id]? = some c ∧ c.closed = false

/-- Where the thread can be when it is joined: its `ThreadLoop` has begun, it is neither in `openURL` nor on the way
into an event loop that the request has missed, and the client that it is about to close has not been destroyed. -/
structure Stoppable (s : State) : Prop where
  started : s.loop ≠ .start
  inTime : s.InTime
  client : s.loop = .eventLoop ∨ s.loop = .shutdown → s.ClientOpen

/-! ## The way to the exit -/

/-- What holds from `Deactivate`'s second store on when the request is in time. -/
structure Leaving (s : State) : Prop where
  lowered : s.threadRunning = false
  started : s.loop ≠ .start
  notOpening : s.loop ≠ .openURL
  notArming : s.loop ≠ .arm
  watched : s.loop = .eventLoop → s.eventLoopWatchVariable = true
  woken : s.loop = .wait → s.control = .wakeUp ∨ s.locker = true

variable {s t : State} {a : Act}

theorem exitsIn_zero (h : s.loop = .stopped) : s.ExitsIn 0 := ⟨s, rfl, h⟩

theorem ExitsIn.succ {n : Nat} (h : s.step .thread = some t) (rest : t.ExitsIn n) : s.ExitsIn (n + 1) := by
  obtain ⟨u, ran, stopped⟩ := rest
  refine ⟨u, ?_, stopped⟩
  rw [List.replicate_succ]
  exact run_cons.mpr ⟨t, h, ran⟩

theorem exitsIn_check (lowered : s.threadRunning = false) (here : s.loop = .check) : s.ExitsIn 1 := by
  have left : s.step .thread = some { s with loop := .stopped } := by
    simp only [step, here, stepThread, lowered, Bool.false_eq_true, if_false]
  exact .succ left (exitsIn_zero rfl)

theorem exitsIn_again (lowered : s.threadRunning = false) (here : s.loop = .again) : s.ExitsIn 2 := by
  have back : s.step .thread = some { s with loop := .check } := by
    simp only [step, here, stepThread, lowered, Bool.false_eq_true, if_false]
  exact .succ back (exitsIn_check lowered rfl)

theorem exitsIn_wait (lowered : s.threadRunning = false) (here : s.loop = .wait) (woken : s.locker = true) :
    s.ExitsIn 2 := by
  have back : s.step .thread = some { s with locker := false, loop := .check } := by
    simp only [step, here, stepThread, woken, if_true]
  exact .succ back (exitsIn_check lowered rfl)

theorem exitsIn_shutdown (lowered : s.threadRunning = false) (here : s.loop = .shutdown) (client : s.ClientOpen) :
    s.ExitsIn 3 := by
  obtain ⟨id, c, given, found, isOpen⟩ := client
  have closes : s.step .thread =
      some { s with clients := s.clients.set id c.shutdownStream, rtspClient := none, loop := .again } := by
    simp [step, here, stepThread, given, found, isOpen]
  exact .succ closes (exitsIn_again lowered rfl)

theorem exitsIn_eventLoop (lowered : s.threadRunning = false) (here : s.loop = .eventLoop)
    (watched : s.eventLoopWatchVariable = true) (client : s.ClientOpen) : s.ExitsIn 4 := by
  have ends : s.step .thread = some { s with loop := .shutdown } := by
    simp only [step, here, stepThread, watched, if_true]
  exact .succ ends (exitsIn_shutdown lowered rfl client)

theorem Stoppable.exits (stoppable : s.Stoppable) (lowered : s.threadRunning = false)
    (woken : s.loop = .wait → s.locker = true) :
    ∃ n ≤ 4, s.ExitsIn n := by
  obtain ⟨started, ⟨notOpening, notArming, noWait⟩, client⟩ := stoppable
  cases here : s.loop with
  | stopped => exact ⟨0, by omega, exitsIn_zero here⟩
  | check => exact ⟨1, by omega, exitsIn_check lowered here⟩
  | again => exact ⟨2, by omega, exitsIn_again lowered here⟩
  | wait => exact ⟨2, by omega, exitsIn_wait lowered here (woken here)⟩
  | shutdown => exact ⟨3, by omega, exitsIn_shutdown lowered here (client (.inr here))⟩
  | eventLoop =>
    have watched : s.eventLoopWatchVariable = true := by
      by_contra unset
      exact noWait ⟨here, by simpa using unset⟩
    exact ⟨4, by omega, exitsIn_eventLoop lowered here watched (client (.inl here))⟩
  | start => exact absurd here started
  | openURL => exact absurd here notOpening
  | arm => exact absurd here notArming

theorem Leaving.inTime (h : s.Leaving) : s.InTime where
  notOpening := h.notOpening
  notArming := h.notArming
  noWait := by
    rintro ⟨here, unset⟩
    rw [h.watched here] at unset
    cases unset

theorem Leaving.leaves (h : s.Leaving) : s.Leaves where
  noWait := h.inTime.noWait
  exits := by
    intro joining owned
    refine Stoppable.exits ⟨h.started, h.inTime, fun here => owned.current (.inr here)⟩ h.lowered fun waiting => ?_
    refine (h.woken waiting).resolve_left fun before => ?_
    rw [joining] at before
    cases before

/-- A thread's step keeps what the way to the exit needs, and goes on on it. -/
theorem Leaving.thread (h : s.Leaving) {loop : Loop} (here : s.loop = loop) (ran : s.stepThread loop = some t) :
    t.Leaving := by
  have lowered := h.lowered
  cases loop with
  | stopped => cases ran
  | start => exact absurd here h.started
  | openURL => cases ran
  | arm => exact absurd here h.notArming
  | check =>
    simp only [stepThread, lowered, Bool.false_eq_true, if_false] at ran
    cases ran
    exact ⟨rfl, by simp, by simp, by simp, by simp, by simp⟩
  | eventLoop =>
    simp only [stepThread] at ran
    split at ran <;> cases ran
    exact ⟨lowered, by simp, by simp, by simp, by simp, by simp⟩
  | shutdown =>
    simp only [stepThread, Option.bind_eq_bind, Option.bind_eq_some_iff] at ran
    obtain ⟨id, -, c, -, ran⟩ := ran
    split at ran <;> cases ran
    exact ⟨lowered, by simp, by simp, by simp, by simp, by simp⟩
  | again =>
    simp only [stepThread, lowered, Bool.false_eq_true, if_false] at ran
    cases ran
    exact ⟨rfl, by simp, by simp, by simp, by simp, by simp⟩
  | wait =>
    simp only [stepThread] at ran
    split at ran <;> cases ran
    exact ⟨lowered, by simp, by simp, by simp, by simp, by simp⟩

theorem Leaving.step (h : s.Leaving) (notAgain : a ≠ .activate) (ran : s.step a = some t) : t.Leaving := by
  obtain ⟨lowered, started, notOpening, notArming, watched, woken⟩ := h
  cases a with
  | activate => exact absurd rfl notAgain
  | deactivate =>
    simp only [State.step] at ran
    split at ran
    · rename_i idle
      cases ran
      refine ⟨lowered, started, notOpening, notArming, fun _ => rfl, ?_⟩
      intro waiting
      rcases woken waiting with before | woken
      · rw [idle] at before
        cases before
      · exact .inr woken
    · cases ran
      exact ⟨rfl, started, notOpening, notArming, watched, fun _ => .inl rfl⟩
    · cases ran
      exact ⟨lowered, started, notOpening, notArming, watched, fun _ => .inr rfl⟩
    · split at ran <;> cases ran
      rename_i ended
      refine ⟨lowered, started, notOpening, notArming, watched, ?_⟩
      intro waiting
      rw [ended] at waiting
      cases waiting
  | reconnect =>
    cases ran
    exact ⟨lowered, started, notOpening, notArming, fun _ => rfl, woken⟩
  | thread => exact Leaving.thread ⟨lowered, started, notOpening, notArming, watched, woken⟩ rfl ran
  | opened outcome =>
    simp only [State.step, if_pos notOpening] at ran
    cases ran
  | event id handler =>
    simp only [State.step] at ran
    split at ran
    · cases ran
    simp only [Option.bind_eq_bind, Option.bind_eq_some_iff, Option.pure_def, Option.some.injEq] at ran
    obtain ⟨⟨d, reconnects⟩, -, rfl⟩ := ran
    refine ⟨lowered, started, notOpening, notArming, ?_, woken⟩
    intro here
    rw [watched here, Bool.true_or]

/-! ## Lost requests -/

/-- The second store of `Deactivate`. -/
theorem step_lowers (storing : s.control = .running) (h : s.step .deactivate = some t) :
    t = { s with threadRunning := false, control := .wakeUp } := by
  simp only [step, storing] at h
  exact (Option.some.inj h).symm

/-- Once armed, the thread waits. -/
theorem arm_waits (here : s.loop = .arm) : ∃ t, s.step .thread = some t ∧ t.Waits := by
  refine ⟨{ s with eventLoopWatchVariable := false, loop := .eventLoop }, ?_, rfl, rfl⟩
  simp only [step, here, stepThread]

theorem RequestKept.not_waits (kept : s.RequestKept) : ¬ s.Waits := (kept [] (by simp)).noWait

theorem RequestKept.step (kept : s.RequestKept) (notAgain : a ≠ .activate) (h : s.step a = some t) : t.RequestKept := by
  intro acts never
  have stays := (kept (a :: acts) (by simp [never, Ne.symm notAgain])).2
  simpa only [h] using stays

theorem RequestKept.not_arm (kept : s.RequestKept) : s.loop ≠ .arm := by
  intro here
  obtain ⟨t, armed, waits⟩ := arm_waits here
  exact (kept.step (by simp) armed).not_waits waits

theorem RequestKept.not_openURL (kept : s.RequestKept) : s.loop ≠ .openURL := by
  intro here
  have opens : s.step (.opened .sent) =
      some { s with clients := s.clients ++ [.opened], rtspClient := some s.clients.length, loop := .arm } := by
    simp only [State.step, here, ne_eq, not_true_eq_false, if_false]
  exact (kept.step (by simp) opens).not_arm rfl

/-! ## The join -/

/-- Behind the stores of `Deactivate`. -/
def joined (s : State) : State := { s with threadRunning := false, locker := true, control := .join }

/-- Whether `Deactivate` comes out of its join when nothing comes from the network any more. -/
def joins (s : State) : Bool :=
  (List.range 5).any fun n =>
    (run step s.joined (List.replicate n .thread)).any fun t => (t.step .deactivate).isSome

/-- A thread that is not at its end makes a step first. -/
theorem ExitsIn.step {n : Nat} (h : s.ExitsIn n) (here : s.loop ≠ .stopped) :
    ∃ t m, s.step .thread = some t ∧ t.ExitsIn m := by
  obtain ⟨u, ran, stopped⟩ := h
  cases n with
  | zero =>
    cases ran
    exact absurd stopped here
  | succ n =>
    obtain ⟨t, moved, ran⟩ := run_cons.1 ran
    exact ⟨t, n, moved, u, ran, stopped⟩

theorem not_exitsIn {n : Nat} (here : s.loop ≠ .stopped) (stuck : s.step .thread = none) : ¬ s.ExitsIn n := by
  intro exits
  obtain ⟨t, m, moved, -⟩ := exits.step here
  rw [stuck] at moved
  cases moved

theorem clientOpen_of_exits {n : Nat} (here : s.loop = .shutdown) (exits : s.ExitsIn n) : s.ClientOpen := by
  obtain ⟨t, m, moved, -⟩ := exits.step (by simp [here])
  simp only [State.step, here, stepThread, Option.bind_eq_bind, Option.bind_eq_some_iff] at moved
  obtain ⟨id, given, c, found, moved⟩ := moved
  split at moved
  · cases moved
  · rename_i isOpen
    exact ⟨id, c, given, found, by simpa using isOpen⟩

/-- The way to the exit ends where it cannot begin. -/
theorem ExitsIn.stoppable {n : Nat} (exits : s.ExitsIn n) : s.Stoppable := by
  refine ⟨fun here => ?_, ⟨fun here => ?_, fun here => ?_, ?_⟩, fun here => ?_⟩
  · -- the flag is raised again, and the URL opened
    obtain ⟨t, m, moved, exits⟩ := exits.step (by simp [here])
    simp only [State.step, here, stepThread, Option.some.injEq] at moved
    subst moved
    obtain ⟨t, m, moved, exits⟩ := exits.step (by simp)
    simp only [State.step, stepThread, if_true, Option.some.injEq] at moved
    subst moved
    exact not_exitsIn (by simp) rfl exits
  · exact not_exitsIn (by simp [here]) (by simp [State.step, here, stepThread]) exits
  · obtain ⟨t, m, moved, exits⟩ := exits.step (by simp [here])
    simp only [State.step, here, stepThread, Option.some.injEq] at moved
    subst moved
    exact not_exitsIn (by simp) rfl exits
  · rintro ⟨here, unset⟩
    exact not_exitsIn (by simp [here]) (by simp [State.step, here, stepThread, unset]) exits
  · rcases here with here | here
    · obtain ⟨t, m, moved, exits⟩ := exits.step (by simp [here])
      simp only [State.step, here, stepThread] at moved
      split at moved <;> cases moved
      have client := clientOpen_of_exits rfl exits
      exact client
    · exact clientOpen_of_exits here exits

end State

open State

/-- **A stop request survives until the next `Activate`**, in every interleaving, exactly when `Deactivate` lowers the
flag while the thread is neither in `openURL` nor on its way from there into a `doEventLoop` that the request misses. -/
theorem request_kept_iff (s t : State) (storing : s.control = .running) (started : s.loop ≠ .start)
    (h : s.step .deactivate = some t) : t.RequestKept ↔ s.InTime := by
  obtain rfl := step_lowers storing h
  constructor
  · intro kept
    exact ⟨kept.not_openURL, kept.not_arm, kept.not_waits⟩
  · rintro ⟨notOpening, notArming, noWait⟩ acts never
    have leaving : Leaving { s with threadRunning := false, control := .wakeUp } := by
      refine ⟨rfl, started, notOpening, notArming, ?_, fun _ => .inl rfl⟩
      intro here
      by_contra unset
      exact noWait ⟨here, by simpa using unset⟩
    have allowed : Along step (fun _ a => a ≠ .activate) { s with threadRunning := false, control := .wakeUp } acts := by
      apply along_of_mem
      rintro a member rfl
      exact never member
    exact throughout (fun leaving notAgain h => leaving.step notAgain h) (fun leaving => leaving.leaves) leaving allowed

/-- A session that streams is stopped. -/
theorem request_kept_iff_streaming :
    let s : State := {
      threadRunning := true, eventLoopWatchVariable := true, rtspClient := some 0, clients := [.opened]
      loop := .eventLoop, control := .running }
    run step {} [.activate, .thread, .thread, .opened .sent, .thread, .deactivate] = some s ∧
      ∃ t, s.step .deactivate = some t ∧ t.RequestKept := by
  intro s
  have inTime : s.InTime := ⟨by decide, by decide, by decide⟩
  exact ⟨rfl, _, rfl, (request_kept_iff s _ rfl (by decide) rfl).mpr inTime⟩

/-- The session is stopped while its thread is in `openURL`: the thread clears the watch variable and waits for the
network, and `Deactivate` for the thread. -/
theorem request_lost_in_openURL : ∃ s t u,
    run step {} [.activate, .thread, .thread, .deactivate] = some s ∧ s.loop = .openURL ∧
      s.step .deactivate = some t ∧ t.eventLoopWatchVariable = true ∧ t.threadRunning = false ∧
      run step t [.deactivate, .opened .sent, .thread] = some u ∧ u.Waits ∧ u.control = .join ∧
      u.step .thread = none ∧ u.step .deactivate = none ∧ ¬ t.RequestKept := by
  refine ⟨_, _, _, rfl, rfl, rfl, rfl, rfl, rfl, ⟨rfl, rfl⟩, rfl, rfl, rfl, ?_⟩
  intro kept
  exact kept.not_openURL rfl

end CameraEv.Session_RTSP
