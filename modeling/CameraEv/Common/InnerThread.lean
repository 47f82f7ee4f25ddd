import CameraEv.Lib.Trace

/-!
# `InnerThread` and the flag of its workers

A worker is an `InnerThread` whose loop runs under `m_thread_running`. The
started thread stores `true` itself, as the first thing in `ThreadLoop`;
`Deactivate` stores `false` and joins the thread. What a worker has of its own
is its `ThreadLoop`, as the points the thread may go to from a point, its
`Deactivate`, as the statements that matter here, and the guard of its
`Activate`.
-/

namespace CameraEv

open Trace

namespace InnerThread

/-- Where `ThreadLoop` is. -/
inductive Loop where
  /-- There is no thread, or its `ThreadLoop` has returned. -/
  | stopped
  /-- Before `m_thread_running = true`. -/
  | start
  /-- Before the test of `m_thread_running` that ends the loop. -/
  | check
  | body
  /-- Before the test of `m_thread_running` at the end of the body. -/
  | again
  /-- Waiting for the worker's event. -/
  | wait
  deriving DecidableEq

/-- A statement of `Deactivate`. -/
inductive Statement where
  /-- `m_thread_running = false`. -/
  | store
  /-- `WakeUp` of the event that the loop waits for. -/
  | wakeUp
  | join
  /-- Something that neither the flag nor the thread's end depends on. -/
  | other
  deriving DecidableEq

inductive Worker where
  | decoder
  | repeatWorkProc
  | recvWorkerSyncQueue
  | sessionRTSP
  deriving DecidableEq

namespace Decoder

def threadLoop (running : Bool) : Loop → List Loop
  | .start => [.check]
  | .check => if running then [.body] else [.stopped]
  | .body => [.check]
  | _ => []

/-- The implementation is deactivated behind the join. -/
def deactivate : List Statement := [.store, .join, .other]

end Decoder

namespace RepeatWorkProc

/-- The wait comes before the test. -/
def threadLoop (running : Bool) : Loop → List Loop
  | .start => [.wait]
  | .wait => [.check]
  | .check => if running then [.body] else [.stopped]
  | .body => [.wait]
  | _ => []

/-- The timers and the works are deleted first, the queued works last. -/
def deactivate : List Statement := [.other, .store, .wakeUp, .join, .other]

end RepeatWorkProc

namespace RecvWorkerSyncQueue

/-- The body may leave the loop: `SyncConsumer` has returned `Ret_RecvDeactivaed`. -/
def threadLoop (running : Bool) : Loop → List Loop
  | .start => [.check]
  | .check => if running then [.body] else [.stopped]
  | .body => [.check, .stopped]
  | _ => []

/-- The synchronisation is deactivated between the store and the join. -/
def deactivate : List Statement := [.store, .other, .join, .other]

end RecvWorkerSyncQueue

namespace SessionRTSP

def threadLoop (running : Bool) : Loop → List Loop
  | .start => [.check]
  | .check => if running then [.body] else [.stopped]
  | .body => [.again]
  | .again => if running then [.wait] else [.check]
  | .wait => [.check]
  | _ => []

/-- The watch variable of the event loop is set first. -/
def deactivate : List Statement := [.other, .store, .wakeUp, .join]

end SessionRTSP

namespace Worker

def threadLoop : Worker → Bool → Loop → List Loop
  | .decoder => Decoder.threadLoop
  | .repeatWorkProc => RepeatWorkProc.threadLoop
  | .recvWorkerSyncQueue => RecvWorkerSyncQueue.threadLoop
  | .sessionRTSP => SessionRTSP.threadLoop

def deactivate : Worker → List Statement
  | .decoder => Decoder.deactivate
  | .repeatWorkProc => RepeatWorkProc.deactivate
  | .recvWorkerSyncQueue => RecvWorkerSyncQueue.deactivate
  | .sessionRTSP => SessionRTSP.deactivate

/-- `Activate` returns at once when the flag is up. -/
def guarded : Worker → Bool
  | .repeatWorkProc | .sessionRTSP => true
  | .decoder | .recvWorkerSyncQueue => false

end Worker

structure State where
  /-- `m_thread_running`. -/
  running : Bool := false
  /-- The event that the loop waits for is set. -/
  event : Bool := false
  /-- `m_thread` stands for a thread. -/
  joinable : Bool := false
  loop : Loop := .stopped
  /-- What is left of a call of `Deactivate`. -/
  control : List Statement := []
  deriving DecidableEq

inductive Act where
  /-- `Activate`, and whether what it does before `StartThread` succeeds. -/
  | activate (ready : Bool)
  /-- The next statement of `Deactivate`. -/
  | deactivate
  /-- The thread goes on to a point. -/
  | thread (goal : Loop)
  /-- A timer or a work wakes the loop. -/
  | wakeUp
  deriving DecidableEq

namespace State

/-- What `Deactivate` does next. -/
def pending (w : Worker) (s : State) : List Statement := if s.control = [] then w.deactivate else s.control

def execute (s : State) : Statement → Option State
  | .store => some { s with running := false }
  | .wakeUp => some { s with event := true }
  | .join => if s.loop = .stopped then some { s with joinable := false } else none
  | .other => some s

/-- One step; calls of `Activate` and `Deactivate` come one at a time. A joinable thread cannot be assigned to. -/
def step (w : Worker) (s : State) : Act → Option State
  | .activate ready =>
    if s.control ≠ [] then none
    else if w.guarded && s.running then some s
    else if !ready then some s
    else if s.joinable then none
    else some { s with joinable := true, loop := .start }
  | .deactivate => match s.pending w with
    | [] => none
    | statement :: rest => ({ s with control := rest } : State).execute statement
  | .thread goal =>
    if goal ∉ w.threadLoop s.running s.loop then none
    else match s.loop with
      | .start => some { s with running := true, loop := goal }
      | .wait => if s.event then some { s with event := false, loop := goal } else none
      | _ => some { s with loop := goal }
  | .wakeUp => some { s with event := true }

end State

open State

variable {w : Worker} {s t : State} {a : Act}

/-- No worker's loop goes back to its start. -/
theorem start_not_mem (w : Worker) (running : Bool) (loop : Loop) : Loop.start ∉ w.threadLoop running loop := by
  cases w <;> cases loop <;> cases running <;> decide

/-- With the flag down the test ends the loop. -/
theorem threadLoop_check (w : Worker) : w.threadLoop false .check = [.stopped] := by
  cases w <;> rfl

/-- Where the thread's start leads. -/
theorem threadLoop_start (w : Worker) (running : Bool) : ∃ goal, goal ∈ w.threadLoop running .start := by
  cases w <;> exact ⟨_, List.mem_cons_self⟩

/-- What one step of the thread does. -/
theorem step_thread {goal : Loop} (h : s.step w (.thread goal) = some t) :
    goal ∈ w.threadLoop s.running s.loop ∧ t.loop = goal ∧ t.control = s.control ∧ t.joinable = s.joinable ∧
      t.running = (s.running || decide (s.loop = .start)) := by
  simp only [State.step] at h
  split at h
  · cases h
  rename_i member
  rw [Decidable.not_not] at member
  refine ⟨member, ?_⟩
  split at h
  · rename_i start
    cases h
    simp [start]
  · rename_i wait
    split at h <;> cases h
    simp [wait]
  · rename_i notStart notWait
    cases h
    exact ⟨rfl, rfl, rfl, by simp [decide_eq_false fun start : s.loop = .start => notStart start]⟩

/-! ## The stop request -/

/-- The request to stop stands: the flag is down, and at its test the thread leaves the loop. -/
structure Stopping (w : Worker) (s : State) : Prop where
  down : s.running = false
  leaves : s.loop = .check → w.threadLoop s.running s.loop = [.stopped]

/-- The flag is down and no thread is about to raise it. -/
structure Lowered (s : State) : Prop where
  down : s.running = false
  started : s.loop ≠ .start

theorem Lowered.stopping (lowered : Lowered s) : Stopping w s := by
  refine ⟨lowered.down, fun atCheck => ?_⟩
  rw [lowered.down, atCheck]
  exact threadLoop_check w

/-- Only a new `Activate` brings a thread to its start. -/
theorem Lowered.step (lowered : Lowered s) (noActivate : ∀ ready, a ≠ .activate ready) (h : s.step w a = some t) :
    Lowered t := by
  obtain ⟨down, started⟩ := lowered
  cases a with
  | activate ready => exact absurd rfl (noActivate ready)
  | deactivate =>
    simp only [State.step] at h
    split at h
    · cases h
    · rename_i statement rest _
      cases statement with
      | store | wakeUp | other =>
        cases h
        exact ⟨by first | rfl | exact down, started⟩
      | join =>
        simp only [execute] at h
        split at h <;> cases h
        exact ⟨down, started⟩
  | thread goal =>
    obtain ⟨member, loop, -, -, running⟩ := step_thread h
    refine ⟨by rw [running, down]; simp [started], ?_⟩
    rw [loop]
    intro back
    rw [back] at member
    exact start_not_mem w _ _ member
  | wakeUp =>
    cases h
    exact ⟨down, started⟩

/-- What the store of `Deactivate` does. -/
theorem step_store (stores : (s.pending w).head? = some .store) (h : s.step w .deactivate = some t) :
    ∃ rest, s.pending w = .store :: rest ∧ t = { s with running := false, control := rest } := by
  simp only [State.step] at h
  split at h
  · cases h
  · rename_i statement rest pending
    rw [pending, List.head?_cons] at stores
    obtain rfl := Option.some.inj stores
    cases h
    exact ⟨rest, pending, rfl⟩

/-- **A stop request is kept** until the next `Activate`, whatever the thread and the rest of `Deactivate` do,
exactly when the started thread has raised its flag before `Deactivate` lowers it. -/
theorem stop_request_kept (stores : (s.pending w).head? = some .store) (h : s.step w .deactivate = some t) :
    (∀ acts, (∀ ready, Act.activate ready ∉ acts) → Throughout (State.step w) (Stopping w) t acts) ↔
      s.loop ≠ .start := by
  obtain ⟨rest, -, rfl⟩ := step_store stores h
  constructor
  · intro kept start
    obtain ⟨goal, member⟩ := threadLoop_start w false
    have raised : ({ s with running := false, control := rest } : State).step w (.thread goal) =
        some { s with running := true, control := rest, loop := goal } := by
      simp only [State.step, start, member, not_true_eq_false, if_false]
    have stays := (kept [.thread goal] (by simp)).2
    simp only [raised] at stays
    cases stays.down
  · intro started acts noActivate
    have allowed : Along (State.step w) (fun _ a => ∀ ready, a ≠ .activate ready)
        { s with running := false, control := rest } acts := by
      apply along_of_mem
      rintro a member ready rfl
      exact noActivate ready member
    have lowered : Lowered { s with running := false, control := rest } := ⟨rfl, started⟩
    exact throughout (fun lowered noActivate h => lowered.step noActivate h) (fun lowered => lowered.stopping) lowered
      allowed

/-- A decoder that runs when it is stopped. -/
theorem stop_request_kept_running :
    let s : State := { running := true, joinable := true, loop := .check }
    let t : State := { s with running := false, control := [.join, .other] }
    run (State.step .decoder) {} [.activate true, .thread .check] = some s ∧ s.step .decoder .deactivate = some t ∧
      ∀ acts, (∀ ready, Act.activate ready ∉ acts) → Throughout (State.step .decoder) (Stopping .decoder) t acts := by
  intro s t
  have stores : (s.pending .decoder).head? = some .store := rfl
  have stored : s.step .decoder .deactivate = some t := rfl
  exact ⟨rfl, stored, (stop_request_kept stores stored).2 (by decide)⟩

/-- The decoder is stopped before its thread has begun: the thread raises the flag that `Deactivate` has lowered. -/
theorem stop_request_overwritten : ∃ s t u, run (State.step .decoder) {} [.activate true] = some s ∧
    s.step .decoder .deactivate = some t ∧ t.running = false ∧
      t.step .decoder (.thread .check) = some u ∧ u.running = true ∧ u.control ≠ [] :=
  ⟨_, _, _, rfl, rfl, rfl, rfl, rfl, by decide⟩

/-- The same may happen to each of the workers. -/
theorem starting_thread_overwrites (w : Worker) : ∃ acts s t, run (State.step w) {} acts = some s ∧
    (s.pending w).head? = some .store ∧ s.step w .deactivate = some t ∧
      ∃ goal u, t.step w (.thread goal) = some u ∧ u.running = true ∧ u.control ≠ [] := by
  cases w with
  | decoder => exact ⟨[.activate true], _, _, rfl, rfl, rfl, .check, _, rfl, rfl, by decide⟩
  | repeatWorkProc => exact ⟨[.activate true, .deactivate], _, _, rfl, rfl, rfl, .wait, _, rfl, rfl, by decide⟩
  | recvWorkerSyncQueue => exact ⟨[.activate true], _, _, rfl, rfl, rfl, .check, _, rfl, rfl, by decide⟩
  | sessionRTSP => exact ⟨[.activate true, .deactivate], _, _, rfl, rfl, rfl, .check, _, rfl, rfl, by decide⟩

/-! ## A lost request -/

/-- The next join comes without another store before it. -/
def joinsFirst : List Statement → Bool
  | [] => false
  | .join :: _ => true
  | .store :: _ => false
  | _ :: rest => joinsFirst rest

/-- Every `Deactivate` comes from its store to its join. -/
theorem joinsFirst_deactivate (w : Worker) {rest : List Statement} (suffix : .store :: rest <:+ w.deactivate) :
    joinsFirst rest = true := by
  have each : ∀ l ∈ w.deactivate.tails, l.head? = some .store → joinsFirst l.tail = true := by
    cases w <;> decide
  exact each _ ((List.mem_tails _ _).2 suffix) rfl

theorem pending_suffix (suffix : s.control <:+ w.deactivate) : s.pending w <:+ w.deactivate := by
  unfold pending
  split
  · exact List.suffix_rfl
  · exact suffix

/-- What is left of a call is the end of `Deactivate`. -/
theorem control_suffix (suffix : s.control <:+ w.deactivate) (h : s.step w a = some t) :
    t.control <:+ w.deactivate := by
  cases a with
  | activate ready =>
    simp only [State.step] at h
    split at h
    · cases h
    split at h
    · cases h
      exact suffix
    split at h
    · cases h
      exact suffix
    split at h <;> cases h
    exact suffix
  | deactivate =>
    have whole := pending_suffix suffix
    simp only [State.step] at h
    split at h
    · cases h
    · rename_i statement rest pending
      rw [pending] at whole
      have rest_suffix := (List.suffix_cons statement rest).trans whole
      cases statement with
      | store | wakeUp | other =>
        cases h
        exact rest_suffix
      | join =>
        simp only [execute] at h
        split at h <;> cases h
        exact rest_suffix
  | thread goal =>
    obtain ⟨-, -, control, -⟩ := step_thread h
    rwa [control]
  | wakeUp =>
    cases h
    exact suffix

/-- The thread is in its loop or about to be, and `Deactivate` comes to its join. -/
structure Stuck (s : State) : Prop where
  alive : s.loop ≠ .stopped
  up : s.running = true ∨ s.loop = .start
  joins : joinsFirst s.control = true

/-- With the flag up only `RecvWorkerSyncQueue` leaves its loop. -/
theorem stopped_not_mem (alone : w ≠ .recvWorkerSyncQueue) {running : Bool} {loop : Loop}
    (up : running = true ∨ loop = .start) : Loop.stopped ∉ w.threadLoop running loop := by
  rcases up with rfl | rfl
  · cases w <;> cases loop <;> first | exact absurd rfl alone | decide
  · cases w <;> cases running <;> first | exact absurd rfl alone | decide

theorem Stuck.step (stuck : Stuck s) (alone : w ≠ .recvWorkerSyncQueue) (h : s.step w a = some t) : Stuck t := by
  obtain ⟨alive, up, joins⟩ := stuck
  have busy : s.control ≠ [] := by
    intro idle
    rw [idle] at joins
    cases joins
  cases a with
  | activate ready =>
    simp only [State.step, if_pos busy] at h
    cases h
  | deactivate =>
    simp only [State.step, pending, if_neg busy] at h
    split at h
    · cases h
    · rename_i statement rest control
      rw [control] at joins
      cases statement with
      | store => cases joins
      | wakeUp | other =>
        cases h
        exact ⟨alive, up, joins⟩
      | join =>
        simp only [execute, if_neg alive] at h
        cases h
  | thread goal =>
    obtain ⟨member, loop, control, -, running⟩ := step_thread h
    refine ⟨?_, .inl ?_, by rwa [control]⟩
    · rw [loop]
      rintro rfl
      exact stopped_not_mem alone up member
    · rcases up with up | start
      · simp [running, up]
      · simp [running, start]
  | wakeUp =>
    cases h
    exact ⟨alive, up, joins⟩

/-- After a lost request the thread of every worker but `RecvWorkerSyncQueue` never returns, so neither does the join. -/
theorem lost_request_joins_forever {acts : List Act} (alone : w ≠ .recvWorkerSyncQueue)
    (ran : run (State.step w) {} acts = some s) (stores : (s.pending w).head? = some .store)
    (h : s.step w .deactivate = some t) (start : s.loop = .start) (later : List Act) :
    Throughout (State.step w) (fun u => u.loop ≠ .stopped ∧ u.control ≠ []) t later := by
  have suffix : s.control <:+ w.deactivate :=
    run_invariant (I := fun s => s.control <:+ w.deactivate)
      (fun suffix _ h => control_suffix suffix h) List.nil_suffix along_true ran
  obtain ⟨rest, pending, rfl⟩ := step_store stores h
  have joins := joinsFirst_deactivate w (pending ▸ pending_suffix suffix)
  have stuck : Stuck { s with running := false, control := rest } := ⟨by simp [start], .inr start, joins⟩
  refine throughout (fun stuck _ h => Stuck.step stuck alone h) ?_ stuck along_true
  intro u stuck
  refine ⟨stuck.alive, fun idle => ?_⟩
  have joins := stuck.joins
  rw [idle] at joins
  cases joins

end InnerThread

end CameraEv
