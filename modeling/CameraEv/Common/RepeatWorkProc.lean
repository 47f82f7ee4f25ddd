import Mathlib
import CameraEv.Common.TimerLockerManager
import CameraEv.Decoder.DecoderTimers
import CameraEv.Lib.KeyedList
import CameraEv.Lib.Trace

/-!
# Works that are repeated

`RepeatWorkProc` keeps the works and their timers in two maps. The callback of a
timer, in the thread of the timers, pushes the type of its work and wakes the
worker, which takes the types and runs what is registered under them. A control
call comes from another thread or from inside a work that runs; one call at a
time. A step is what a thread does between two accesses of what it shares with
the others; `push` and `pop` of the queue are taken to be such accesses, though
no mutex is held at the `push`, and the destruction of a work while it runs is
left out. `Deactivate` clears the works without the mutex that the worker has
from the look-up of a work to its call (`works_registered_iff`).
-/

namespace CameraEv.RepeatWorkProc

open Trace KeyedList

/-- The worker, `ThreadLoop`. -/
inductive Worker (F : Type) where
  /-- There is no thread. -/
  | none
  /-- Before `m_thread_running = true`. -/
  | start
  /-- In `m_queue_repeat_event.Wait()`. -/
  | wait
  /-- Behind `Wait`. -/
  | woken
  /-- In the loop over the queue, with `m_queue_repeat_mutex`. -/
  | drain
  /-- A type was taken, before `m_map_work.find`. -/
  | popped (workType : Int)
  /-- Before the call of the work that was found. -/
  | found (workType : Int)
  /-- In a work of this type, with the mutex. -/
  | running (workType : Int) (work : F)
  /-- The loop was left. -/
  | finished
  deriving DecidableEq

/-- The control call in progress, before what it does next; `inside` is whether a running work has called it. -/
inductive Control (F : Type) where
  | idle
  /-- `m_map_work[work_type] = work`. -/
  | addWork (inside : Bool) (workType ms : Int) (work : Option F)
  /-- `GetTimerLockerByTime`. -/
  | getTimer (inside : Bool) (workType ms : Int)
  /-- `m_map_timer[work_type] = timer`. -/
  | addTimer (inside : Bool) (workType : Int) (timer : Option Nat)
  /-- `DeleteTimerLocker(it_timer->second)`. -/
  | deleteTimer (inside : Bool) (workType : Int) (timer : Option Nat)
  /-- `m_map_timer.erase(it_timer)`. -/
  | eraseTimer (inside : Bool) (workType : Int)
  /-- `m_map_work.erase(it_work)`. -/
  | eraseWork (inside : Bool) (workType : Int)
  /-- The loop of `Deactivate`, with the timers that are left. -/
  | deactivate (timers : List (Int × Option Nat))
  | clearTimers
  | clearWorks
  /-- `m_thread_running = false`. -/
  | lower
  | wakeUp
  | join
  /-- The loop that empties the queue. -/
  | empty
  deriving DecidableEq

/-- Whether a work that runs waits for the call. -/
def Control.inside {F : Type} : Control F → Bool
  | .addWork inside _ _ _ | .getTimer inside _ _ | .addTimer inside _ _ | .deleteTimer inside _ _ | .eraseTimer inside _
  | .eraseWork inside _ => inside
  | _ => false

structure State (F : Type) where
  manager : CTimerLockerManager := {}
  threadRunning : Bool := false
  /-- `m_lock_count` of `m_queue_repeat_event`, which is 0 or 1. -/
  lockCount : Bool := false
  queue : List Int := []
  mapTimer : List (Int × Option Nat) := []
  /-- A `std::function` may be empty. -/
  mapWork : List (Int × Option F) := []
  worker : Worker F := .none
  control : Control F := .idle
  /-- The callback of a timer, between its `push` and its `WakeUp`; `m_mutex_items` is locked. -/
  callback : Option Int := none
  /-- What the last control call has returned. -/
  ret : Option Int := none
  /-- The ticks that were pushed, and those that were popped. -/
  pushed : List Int := []
  popped : List Int := []
  deriving DecidableEq

inductive Act (F : Type) where
  | activate
  | addWork (inside : Bool) (workType ms : Int) (work : Option F)
  | deleteWork (inside : Bool) (workType : Int)
  | deactivate
  /-- The control call goes on; `created` is `CreateTimer`'s outcome where it asks for a timer. -/
  | control (created : Bool)
  | worker
  /-- The callback of the timer of a work, and its end. -/
  | tick (workType : Int)
  | wakeUp
  /-- A decoder asks for its timer or deletes it. -/
  | getDecodingTimer (fps : Int) (created : Bool)
  | deleteDecodingTimer
  deriving DecidableEq

namespace State

variable {F : Type}

/-- The worker has `m_queue_repeat_mutex`, so that only its own work can lock it again. -/
def locked (s : State F) (inside : Bool) : Bool :=
  !inside && match s.worker with
    | .drain | .popped _ | .found _ | .running _ _ => true
    | _ => false

/-- A control call may begin; from inside a work only while one runs. -/
def mayCall (s : State F) (inside : Bool) : Bool :=
  (match s.control with
    | .idle => true
    | _ => false) &&
  (!inside || match s.worker with
    | .running _ _ => true
    | _ => false)

/-- `DeleteTimerLocker(timer)` reads the name of the timer, and waits for a callback. -/
def deleteTimerLocker (s : State F) (timer : Option Nat) : Option CTimerLockerManager := do
  let l ← timer.bind s.manager.find
  if s.callback = none then some (s.manager.deleteTimerLocker l.name).1 else none

def stepControl (s : State F) (created : Bool) : Control F → Option (State F)
  | .idle => none
  | .addWork inside workType ms work =>
    if s.locked inside then none
    else some { s with mapWork := assign workType work s.mapWork, control := .getTimer inside workType ms }
  | .getTimer inside workType ms =>
    if s.callback = none then
      let (timer, manager) := s.manager.getTimerLockerByTime (Decoder.getTimerName workType) ms created
      some { s with manager, control := .addTimer inside workType timer }
    else none
  | .addTimer _ workType timer =>
    some { s with mapTimer := assign workType timer s.mapTimer, control := .idle, ret := some 0 }
  | .deleteTimer inside workType timer =>
    (s.deleteTimerLocker timer).map fun manager => { s with manager, control := .eraseTimer inside workType }
  | .eraseTimer inside workType =>
    some { s with mapTimer := erase workType s.mapTimer, control := .eraseWork inside workType }
  | .eraseWork inside workType =>
    if s.locked inside then none
    else some { s with mapWork := erase workType s.mapWork, control := .idle, ret := some 0 }
  | .deactivate [] => some { s with control := .clearTimers }
  | .deactivate ((_, timer) :: timers) =>
    (s.deleteTimerLocker timer).map fun manager => { s with manager, control := .deactivate timers }
  | .clearTimers => some { s with mapTimer := [], control := .clearWorks }
  | .clearWorks => some { s with mapWork := [], control := .lower }
  | .lower => some { s with threadRunning := false, control := .wakeUp }
  | .wakeUp => some { s with lockCount := true, control := .join }
  | .join => match s.worker with
    | .none | .finished => some { s with worker := .none, control := .empty }
    | _ => none
  | .empty => match s.queue with
    | [] => some { s with control := .idle, ret := some 0 }
    | workType :: queue => some { s with queue, popped := s.popped ++ [workType] }

def stepWorker (s : State F) : Worker F → Option (State F)
  | .none | .finished => none
  | .start => some { s with threadRunning := true, worker := .wait }
  | .wait => if s.lockCount then some { s with lockCount := false, worker := .woken } else none
  | .woken => some { s with worker := if s.threadRunning then .drain else .finished }
  | .drain => match s.queue with
    | [] => some { s with worker := .wait }
    | workType :: queue => some { s with queue, popped := s.popped ++ [workType], worker := .popped workType }
  | .popped workType =>
    some { s with worker := if find workType s.mapWork = none then .drain else .found workType }
  | .found workType => match find workType s.mapWork with
    | some (some work) => some { s with worker := .running workType work }
    | some none => some { s with worker := .drain }
    -- the call of a work that was destroyed has no meaning
    | none => none
  | .running _ _ => if s.control.inside then none else some { s with worker := .drain }

def step (s : State F) : Act F → Option (State F)
  | .activate =>
    if s.mayCall false then
      if s.threadRunning then some { s with ret := some 1 }
      else match s.worker with
        | .none => some { s with worker := .start, ret := some 0 }
        -- `StartThread` on a thread that was not joined ends the program
        | _ => none
    else none
  | .addWork inside workType ms work =>
    if s.mayCall inside then
      some (match find workType s.mapWork with
        | some _ => { s with ret := some 1 }
        | none => { s with control := .addWork inside workType ms work })
    else none
  | .deleteWork inside workType =>
    if s.mayCall inside then
      some (match find workType s.mapWork, find workType s.mapTimer with
        | none, _ => { s with ret := some 1 }
        | some _, none => { s with ret := some 2 }
        | some _, some timer => { s with control := .deleteTimer inside workType timer })
    else none
  | .deactivate => if s.mayCall false then some { s with control := .deactivate s.mapTimer } else none
  | .control created => s.stepControl created s.control
  | .worker => s.stepWorker s.worker
  | .tick workType =>
    if s.callback = none ∧ ∃ l ∈ s.manager.lockers, l.name = Decoder.getTimerName workType then
      some { s with queue := s.queue ++ [workType], pushed := s.pushed ++ [workType], callback := some workType }
    else none
  | .wakeUp => s.callback.map fun _ => { s with lockCount := true, callback := none }
  | .getDecodingTimer fps created =>
    if s.callback = none then
      some { s with manager := (s.manager.getTimerLockerByFps Decoder.timerName fps created).2 }
    else none
  | .deleteDecodingTimer =>
    if s.callback = none then some { s with manager := (s.manager.deleteTimerLocker Decoder.timerName).1 } else none

/-! ## The maps, the queue and the wake-ups -/

/-- The worker looks at the queue again without another wake-up, or has left the loop. -/
def awake : Worker F → Prop
  | .woken | .drain | .popped _ | .found _ | .running _ _ | .finished => True
  | .none | .start | .wait => False

/-- The keys of the two maps, by where the control call is. -/
def Keys (mapWork : List (Int × Option F)) (mapTimer : List (Int × Option Nat)) : Control F → Prop
  | .idle | .deleteTimer _ _ _ | .eraseTimer _ _ | .deactivate _ | .clearTimers =>
    ∀ k, find k mapWork = none ↔ find k mapTimer = none
  | .addWork _ workType _ _ => (∀ k, find k mapWork = none ↔ find k mapTimer = none) ∧ find workType mapWork = none
  | .getTimer _ workType _ | .addTimer _ workType _ =>
    find workType mapTimer = none ∧ ∀ k, find k mapWork = none ↔ k ≠ workType ∧ find k mapTimer = none
  | .eraseWork _ workType => ∀ k, find k mapTimer = none ↔ k = workType ∨ find k mapWork = none
  | .clearWorks => mapTimer = []
  | .lower | .wakeUp | .join | .empty => mapWork = [] ∧ mapTimer = []

structure Inv (s : State F) : Prop where
  keys : Keys s.mapWork s.mapTimer s.control
  /-- Someone will look at what is queued. -/
  queued : s.queue = [] ∨ s.lockCount = true ∨ s.callback ≠ none ∨ awake s.worker ∨ s.control = .empty
  ticks : s.pushed = s.popped ++ s.queue
  joined : s.control = .empty → s.worker = .none
  inside : s.control.inside = true → ∃ workType work, s.worker = .running workType work

variable {s t : State F} {a : Act F}

/-- What the control call can do next: one case for each of its steps. -/
inductive Goes (s : State F) (created : Bool) : Control F → State F → Prop
  | addWork {inside : Bool} {workType ms : Int} {work : Option F} (free : s.locked inside = false) :
      Goes s created (.addWork inside workType ms work)
        { s with mapWork := assign workType work s.mapWork, control := .getTimer inside workType ms }
  | getTimer {inside : Bool} {workType ms : Int} (quiet : s.callback = none) : Goes s created (.getTimer inside workType ms)
      { s with
        manager := (s.manager.getTimerLockerByTime (Decoder.getTimerName workType) ms created).2
        control := .addTimer inside workType (s.manager.getTimerLockerByTime (Decoder.getTimerName workType) ms created).1 }
  | addTimer {inside : Bool} {workType : Int} {timer : Option Nat} : Goes s created (.addTimer inside workType timer)
      { s with mapTimer := assign workType timer s.mapTimer, control := .idle, ret := some 0 }
  | deleteTimer {inside : Bool} {workType : Int} {timer : Option Nat} {manager : CTimerLockerManager}
      (deleted : s.deleteTimerLocker timer = some manager) : Goes s created (.deleteTimer inside workType timer)
      { s with manager, control := .eraseTimer inside workType }
  | eraseTimer {inside : Bool} {workType : Int} : Goes s created (.eraseTimer inside workType)
      { s with mapTimer := erase workType s.mapTimer, control := .eraseWork inside workType }
  | eraseWork {inside : Bool} {workType : Int} (free : s.locked inside = false) :
      Goes s created (.eraseWork inside workType)
        { s with mapWork := erase workType s.mapWork, control := .idle, ret := some 0 }
  | deactivated : Goes s created (.deactivate []) { s with control := .clearTimers }
  | deactivate {workType : Int} {timer : Option Nat} {timers : List (Int × Option Nat)} {manager : CTimerLockerManager}
      (deleted : s.deleteTimerLocker timer = some manager) : Goes s created (.deactivate ((workType, timer) :: timers))
      { s with manager, control := .deactivate timers }
  | clearTimers : Goes s created .clearTimers { s with mapTimer := [], control := .clearWorks }
  | clearWorks : Goes s created .clearWorks { s with mapWork := [], control := .lower }
  | lower : Goes s created .lower { s with threadRunning := false, control := .wakeUp }
  | wakeUp : Goes s created .wakeUp { s with lockCount := true, control := .join }
  | join : Goes s created .join { s with worker := .none, control := .empty }
  | emptied (empty : s.queue = []) : Goes s created .empty { s with control := .idle, ret := some 0 }
  | empty {workType : Int} {queue : List Int} (first : s.queue = workType :: queue) : Goes s created .empty
      { s with queue, popped := s.popped ++ [workType] }

theorem goes_of_stepControl {created : Bool} {control : Control F} (h : s.stepControl created control = some t) :
    Goes s created control t := by
  unfold State.stepControl at h
  split at h
  · cases h
  · split at h
    · cases h
    · rename_i free
      cases h
      exact .addWork (Bool.eq_false_iff.2 free)
  · split at h
    · rename_i quiet
      cases h
      exact .getTimer quiet
    · cases h
  · cases h
    exact .addTimer
  · obtain ⟨manager, deleted, rfl⟩ := Option.map_eq_some_iff.1 h
    exact .deleteTimer deleted
  · cases h
    exact .eraseTimer
  · split at h
    · cases h
    · rename_i free
      cases h
      exact .eraseWork (Bool.eq_false_iff.2 free)
  · cases h
    exact .deactivated
  · obtain ⟨manager, deleted, rfl⟩ := Option.map_eq_some_iff.1 h
    exact .deactivate deleted
  · cases h
    exact .clearTimers
  · cases h
    exact .clearWorks
  · cases h
    exact .lower
  · cases h
    exact .wakeUp
  · split at h
    · cases h
      exact .join
    · cases h
      exact .join
    · cases h
  · split at h
    · rename_i empty
      cases h
      exact .emptied empty
    · rename_i first
      cases h
      exact .empty first

theorem Inv.stepControl (inv : s.Inv) {created : Bool} (h : s.stepControl created s.control = some t) : t.Inv := by
  have keys := inv.keys
  have queued := inv.queued
  have inside := inv.inside
  generalize here : s.control = control at h keys queued inside
  cases goes_of_stepControl h with
  | addWork free =>
    rename_i workType ms work
    refine ⟨⟨?_, fun k => ?_⟩, by simpa using queued, inv.ticks, (fun empty => by cases empty), inside⟩
    · exact (keys.1 workType).1 keys.2
    · rw [find_assign_eq_none, keys.1 k]
  | getTimer quiet => exact ⟨keys, by simpa using queued, inv.ticks, (fun empty => by cases empty), inside⟩
  | addTimer =>
    refine ⟨fun k => ?_, by simpa using queued, inv.ticks, (fun empty => by cases empty), fun calls => by cases calls⟩
    rw [find_assign_eq_none, keys.2 k]
  | deleteTimer deleted => exact ⟨keys, by simpa using queued, inv.ticks, (fun empty => by cases empty), inside⟩
  | eraseTimer =>
    refine ⟨fun k => ?_, by simpa using queued, inv.ticks, (fun empty => by cases empty), inside⟩
    rw [find_erase_eq_none, keys k]
  | eraseWork free =>
    refine ⟨fun k => ?_, by simpa using queued, inv.ticks, (fun empty => by cases empty), fun calls => by cases calls⟩
    rw [find_erase_eq_none, keys k]
  | deactivated => exact ⟨keys, by simpa using queued, inv.ticks, (fun empty => by cases empty), inside⟩
  | deactivate deleted => exact ⟨keys, by simpa using queued, inv.ticks, (fun empty => by cases empty), inside⟩
  | clearTimers => exact ⟨rfl, by simpa using queued, inv.ticks, (fun empty => by cases empty), inside⟩
  | clearWorks => exact ⟨⟨rfl, keys⟩, by simpa using queued, inv.ticks, (fun empty => by cases empty), inside⟩
  | lower => exact ⟨keys, by simpa using queued, inv.ticks, (fun empty => by cases empty), inside⟩
  | wakeUp => exact ⟨keys, .inr (.inl rfl), inv.ticks, (fun empty => by cases empty), inside⟩
  | join => exact ⟨keys, by simp, inv.ticks, fun _ => rfl, fun calls => by cases calls⟩
  | emptied none =>
    refine ⟨fun k => ?_, .inl none, inv.ticks, (fun empty => by cases empty), fun calls => by cases calls⟩
    rw [keys.1, keys.2]
    exact iff_of_true rfl rfl
  | empty first =>
    refine ⟨by rw [here]; exact keys, by simp [here], ?_, fun _ => inv.joined here, inv.inside⟩
    rw [inv.ticks, first, List.append_assoc, List.singleton_append]

/-- What the worker can do next. -/
inductive Runs (s : State F) : Worker F → State F → Prop
  | start : Runs s .start { s with threadRunning := true, worker := .wait }
  | wait (locked : s.lockCount = true) : Runs s .wait { s with lockCount := false, worker := .woken }
  | woken : Runs s .woken { s with worker := if s.threadRunning then .drain else .finished }
  | drained (empty : s.queue = []) : Runs s .drain { s with worker := .wait }
  | drain {workType : Int} {queue : List Int} (first : s.queue = workType :: queue) : Runs s .drain
      { s with queue, popped := s.popped ++ [workType], worker := .popped workType }
  | popped {workType : Int} : Runs s (.popped workType)
      { s with worker := if find workType s.mapWork = none then .drain else .found workType }
  | found {workType : Int} {work : F} (here : find workType s.mapWork = some (some work)) : Runs s (.found workType)
      { s with worker := .running workType work }
  | empty {workType : Int} (here : find workType s.mapWork = some none) : Runs s (.found workType)
      { s with worker := .drain }
  | returned {workType : Int} {work : F} (quiet : s.control.inside = false) : Runs s (.running workType work)
      { s with worker := .drain }

theorem runs_of_stepWorker {worker : Worker F} (h : s.stepWorker worker = some t) : Runs s worker t := by
  unfold State.stepWorker at h
  split at h
  · cases h
  · cases h
  · cases h
    exact .start
  · split at h
    · rename_i locked
      cases h
      exact .wait locked
    · cases h
  · cases h
    exact .woken
  · split at h
    · rename_i empty
      cases h
      exact .drained empty
    · rename_i first
      cases h
      exact .drain first
  · cases h
    exact .popped
  · split at h
    · rename_i here
      cases h
      exact .found here
    · rename_i here
      cases h
      exact .empty here
    · cases h
  · split at h
    · cases h
    · rename_i quiet
      cases h
      exact .returned (Bool.eq_false_iff.2 quiet)

theorem Inv.stepWorker (inv : s.Inv) (h : s.stepWorker s.worker = some t) : t.Inv := by
  have queued := inv.queued
  have busy : s.worker ≠ .none → s.control = .empty → t.worker = .none := fun some empty => absurd (inv.joined empty) some
  -- a work that runs waits for the call that it has made
  have apart : (∀ workType work, s.worker ≠ .running workType work) → s.control.inside ≠ true :=
    fun none calls => by
      obtain ⟨workType, work, runs⟩ := inv.inside calls
      exact none workType work runs
  generalize here : s.worker = worker at h queued busy apart
  cases runs_of_stepWorker h with
  | start => exact ⟨inv.keys, queued, inv.ticks, busy (by simp), fun calls => absurd calls (apart (by simp))⟩
  | wait locked =>
    exact ⟨inv.keys, .inr (.inr (.inr (.inl trivial))), inv.ticks, busy (by simp), fun calls =>
      absurd calls (apart (by simp))⟩
  | woken =>
    refine ⟨inv.keys, .inr (.inr (.inr (.inl ?_))), inv.ticks, busy (by simp), fun calls =>
      absurd calls (apart (by simp))⟩
    show awake (if s.threadRunning then .drain else .finished)
    split <;> trivial
  | drained empty =>
    exact ⟨inv.keys, .inl empty, inv.ticks, busy (by simp), fun calls => absurd calls (apart (by simp))⟩
  | drain first =>
    refine ⟨inv.keys, .inr (.inr (.inr (.inl trivial))), ?_, busy (by simp), fun calls => absurd calls (apart (by simp))⟩
    rw [inv.ticks, first, List.append_assoc, List.singleton_append]
  | popped =>
    refine ⟨inv.keys, .inr (.inr (.inr (.inl ?_))), inv.ticks, busy (by simp), fun calls =>
      absurd calls (apart (by simp))⟩
    show awake (if _ then .drain else .found _)
    split <;> trivial
  | found registered =>
    exact ⟨inv.keys, .inr (.inr (.inr (.inl trivial))), inv.ticks, busy (by simp), fun calls =>
      absurd calls (apart (by simp))⟩
  | empty registered =>
    exact ⟨inv.keys, .inr (.inr (.inr (.inl trivial))), inv.ticks, busy (by simp), fun calls =>
      absurd calls (apart (by simp))⟩
  | returned quiet =>
    exact ⟨inv.keys, .inr (.inr (.inr (.inl trivial))), inv.ticks, busy (by simp), fun calls => by
      cases quiet.symm.trans calls⟩

theorem control_of_mayCall {inside : Bool} (may : s.mayCall inside = true) : s.control = .idle := by
  unfold mayCall at may
  cases control : s.control with
  | idle => rfl
  | _ => simp [control] at may

theorem Inv.answered (inv : s.Inv) {ret : Option Int} : Inv { s with ret } :=
  ⟨inv.keys, inv.queued, inv.ticks, inv.joined, inv.inside⟩

/-- A call from inside is made while a work runs. -/
theorem running_of_mayCall {inside : Bool} (may : s.mayCall inside = true) (calls : inside = true) :
    ∃ workType work, s.worker = .running workType work := by
  subst calls
  unfold mayCall at may
  cases worker : s.worker with
  | running workType work => exact ⟨workType, work, rfl⟩
  | _ => simp [worker] at may

/-- Between two calls the two maps have the same keys. -/
theorem Inv.paired (inv : s.Inv) (idle : s.control = .idle) (k : Int) :
    find k s.mapWork = none ↔ find k s.mapTimer = none := by
  have keys := inv.keys
  rw [idle] at keys
  exact keys k

theorem Inv.called (inv : s.Inv) (idle : s.control = .idle) {control : Control F}
    (keys : Keys s.mapWork s.mapTimer control) (goes : control ≠ .empty)
    (inside : control.inside = true → ∃ workType work, s.worker = .running workType work) : Inv { s with control } := by
  have queued := inv.queued
  rw [idle] at queued
  refine ⟨keys, ?_, inv.ticks, (fun empty => absurd empty goes), inside⟩
  simpa [goes] using queued

/-- What can happen next: one case for each act and each of its outcomes. -/
inductive Steps (s : State F) : Act F → State F → Prop
  | activated (idle : s.control = .idle) : Steps s .activate { s with ret := some 1 }
  | activate (idle : s.control = .idle) (none : s.worker = .none) :
      Steps s .activate { s with worker := .start, ret := some 0 }
  | added {inside : Bool} {workType ms : Int} {work : Option F} (may : s.mayCall inside = true) :
      Steps s (.addWork inside workType ms work) { s with ret := some 1 }
  | addWork {inside : Bool} {workType ms : Int} {work : Option F} (may : s.mayCall inside = true)
      (new : find workType s.mapWork = none) :
      Steps s (.addWork inside workType ms work) { s with control := .addWork inside workType ms work }
  | absent {inside : Bool} {workType ret : Int} (may : s.mayCall inside = true) :
      Steps s (.deleteWork inside workType) { s with ret := some ret }
  | deleteWork {inside : Bool} {workType : Int} {timer : Option Nat} (may : s.mayCall inside = true)
      (found : find workType s.mapTimer = some timer) :
      Steps s (.deleteWork inside workType) { s with control := .deleteTimer inside workType timer }
  | deactivate (idle : s.control = .idle) : Steps s .deactivate { s with control := .deactivate s.mapTimer }
  | control {created : Bool} {t : State F} (goes : s.stepControl created s.control = some t) :
      Steps s (.control created) t
  | worker {t : State F} (runs : s.stepWorker s.worker = some t) : Steps s .worker t
  | tick {workType : Int} (quiet : s.callback = none) : Steps s (.tick workType)
      { s with queue := s.queue ++ [workType], pushed := s.pushed ++ [workType], callback := some workType }
  | wakeUp {workType : Int} (called : s.callback = some workType) : Steps s .wakeUp
      { s with lockCount := true, callback := none }
  | getDecodingTimer {fps : Int} {created : Bool} (quiet : s.callback = none) : Steps s (.getDecodingTimer fps created)
      { s with manager := (s.manager.getTimerLockerByFps Decoder.timerName fps created).2 }
  | deleteDecodingTimer (quiet : s.callback = none) : Steps s .deleteDecodingTimer
      { s with manager := (s.manager.deleteTimerLocker Decoder.timerName).1 }

theorem steps_of_step (h : s.step a = some t) : Steps s a t := by
  cases a with
  | activate =>
    obtain ⟨may, h⟩ := Option.ite_none_right_eq_some.1 h
    split at h
    · cases h
      exact .activated (control_of_mayCall may)
    · split at h
      · rename_i none
        cases h
        exact .activate (control_of_mayCall may) none
      · cases h
  | addWork inside workType ms work =>
    obtain ⟨may, h⟩ := Option.ite_none_right_eq_some.1 h
    cases h
    split
    · exact .added may
    · rename_i new
      exact .addWork may new
  | deleteWork inside workType =>
    obtain ⟨may, h⟩ := Option.ite_none_right_eq_some.1 h
    cases h
    split
    · exact .absent may
    · exact .absent may
    · rename_i found
      exact .deleteWork may found
  | deactivate =>
    obtain ⟨may, h⟩ := Option.ite_none_right_eq_some.1 h
    cases h
    exact .deactivate (control_of_mayCall may)
  | control created => exact .control h
  | worker => exact .worker h
  | tick workType =>
    obtain ⟨⟨quiet, -⟩, h⟩ := Option.ite_none_right_eq_some.1 h
    cases h
    exact .tick quiet
  | wakeUp =>
    obtain ⟨workType, called, rfl⟩ := Option.map_eq_some_iff.1 h
    exact .wakeUp called
  | getDecodingTimer fps created =>
    obtain ⟨quiet, h⟩ := Option.ite_none_right_eq_some.1 h
    cases h
    exact .getDecodingTimer quiet
  | deleteDecodingTimer =>
    obtain ⟨quiet, h⟩ := Option.ite_none_right_eq_some.1 h
    cases h
    exact .deleteDecodingTimer quiet

theorem Inv.step (inv : s.Inv) (h : s.step a = some t) : t.Inv := by
  cases steps_of_step h with
  | activated | added | absent => exact inv.answered
  | activate idle none =>
    have queued := inv.queued
    rw [none] at queued
    refine ⟨inv.keys, queued, inv.ticks, (fun empty => by cases idle.symm.trans empty), fun calls => ?_⟩
    rw [idle] at calls
    cases calls
  | addWork may new =>
    have idle := control_of_mayCall may
    exact inv.called idle ⟨inv.paired idle, new⟩ (by simp) (running_of_mayCall may)
  | deleteWork may found =>
    have idle := control_of_mayCall may
    exact inv.called idle (inv.paired idle) (by simp) (running_of_mayCall may)
  | deactivate idle => exact inv.called idle (inv.paired idle) (by simp) (fun calls => by cases calls)
  | control goes => exact inv.stepControl goes
  | worker runs => exact inv.stepWorker runs
  | tick quiet =>
    refine ⟨inv.keys, .inr (.inr (.inl (Option.some_ne_none _))), ?_, inv.joined, inv.inside⟩
    rw [inv.ticks, List.append_assoc]
  | wakeUp called => exact ⟨inv.keys, .inr (.inl rfl), inv.ticks, inv.joined, inv.inside⟩
  | getDecodingTimer | deleteDecodingTimer => exact ⟨inv.keys, inv.queued, inv.ticks, inv.joined, inv.inside⟩

/-! ## What a step does to the maps and the timers -/

/-- A call that the other clients make: the lockers of other names than theirs stay. -/
structure Kept (m m' : CTimerLockerManager) : Prop where
  distinct : m.Distinct → m'.Distinct
  lockers : m.Distinct → ∀ l ∈ m.lockers, l.name ≠ Decoder.timerName → l ∈ m'.lockers

theorem Kept.refl (m : CTimerLockerManager) : Kept m m := ⟨id, fun _ _ mem _ => mem⟩

theorem kept_deleteTimerLocker (m : CTimerLockerManager) : Kept m (m.deleteTimerLocker Decoder.timerName).1 := by
  have lockers := m.lockers_deleteTimerLocker Decoder.timerName
  refine ⟨fun distinct => distinct.eraseP lockers rfl, fun distinct l mem other => ?_⟩
  rw [lockers]
  exact (CTimerLockerManager.mem_eraseP_name distinct.names _ l).2 ⟨mem, other⟩

theorem kept_getTimerLockerByFps (m : CTimerLockerManager) (fps : Int) (created : Bool) :
    Kept m (m.getTimerLockerByFps Decoder.timerName fps created).2 := by
  unfold CTimerLockerManager.getTimerLockerByFps
  split
  · exact .refl m
  refine ⟨fun distinct => distinct.getTimerLockerByTime _ _ created, fun distinct l mem other => ?_⟩
  have stays := (CTimerLockerManager.mem_eraseP_name distinct.names Decoder.timerName l).2 ⟨mem, other⟩
  rcases m.getTimerLockerByTime_spec Decoder.timerName (Int.tdiv 1000 fps) created with ⟨-, -, lockers, -⟩ | ⟨-, lockers, -⟩
  · rw [lockers]
    exact stays
  · exact lockers.mem_iff.2 (List.mem_cons_of_mem _ stays)

/-- The steps by what they do to the control call, the maps and the timers. -/
inductive Moves (s : State F) (a : Act F) (t : State F) : Prop where
  | control (created : Bool) (act : a = .control created) (goes : s.stepControl created s.control = some t)
  | adds (inside : Bool) (workType ms : Int) (work : Option F) (act : a = .addWork inside workType ms work)
      (idle : s.control = .idle) (new : find workType s.mapWork = none)
      (same : t = { s with control := .addWork inside workType ms work })
  | deletes (inside : Bool) (workType : Int) (timer : Option Nat) (idle : s.control = .idle)
      (found : find workType s.mapTimer = some timer) (same : t = { s with control := .deleteTimer inside workType timer })
  | deactivates (idle : s.control = .idle) (same : t = { s with control := .deactivate s.mapTimer })
  | apart (mapWork : t.mapWork = s.mapWork) (mapTimer : t.mapTimer = s.mapTimer) (control : t.control = s.control)
      (manager : Kept s.manager t.manager)

theorem moves_of_stepWorker (h : s.stepWorker s.worker = some t) : Moves s a t := by
  generalize s.worker = worker at h
  cases runs_of_stepWorker h <;> exact .apart rfl rfl rfl (.refl _)

theorem moves_of_step (h : s.step a = some t) : Moves s a t := by
  cases steps_of_step h with
  | activated | activate | added | absent | tick | wakeUp => exact .apart rfl rfl rfl (.refl _)
  | addWork may new => exact .adds _ _ _ _ rfl (control_of_mayCall may) new rfl
  | deleteWork may found => exact .deletes _ _ _ (control_of_mayCall may) found rfl
  | deactivate idle => exact .deactivates idle rfl
  | control goes => exact .control _ rfl goes
  | worker runs => exact moves_of_stepWorker runs
  | getDecodingTimer => exact .apart rfl rfl rfl (kept_getTimerLockerByFps _ _ _)
  | deleteDecodingTimer => exact .apart rfl rfl rfl (kept_deleteTimerLocker _)

/-! ## Works that are found -/

/-- With the mutex that the control call has, the worker is not between the look-up of a work and its call. -/
theorem Inv.not_found (inv : s.Inv) {inside : Bool} (here : s.control.inside = inside) (free : s.locked inside = false)
    (workType : Int) : s.worker ≠ .found workType := by
  intro found
  cases inside with
  | true =>
    obtain ⟨_, _, runs⟩ := inv.inside here
    cases found.symm.trans runs
  | false => simp [locked, found] at free

/-- A work that has been found is registered. -/
theorem found_of_step (h : s.step a = some t) {workType : Int} (found : t.worker = .found workType) :
    s.worker = .found workType ∨ find workType t.mapWork ≠ none := by
  cases steps_of_step h with
  | worker runs =>
    generalize s.worker = worker at runs
    cases runs_of_stepWorker runs with
    | @popped k =>
      by_cases none : find k s.mapWork = none
      · simp [none] at found
      · simp only [none, if_false, Worker.found.injEq] at found
        exact .inr (found ▸ none)
    | woken =>
      simp only at found
      split at found <;> cases found
    | _ => cases found
  | control goes =>
    generalize s.control = control at goes
    cases goes_of_stepControl goes with
    | join => cases found
    | _ => exact .inl found
  | activate => cases found
  | _ => exact .inl found

/-- `Deactivate` does not clear the works while the worker is between the look-up of a work and its call. -/
def Undisturbed (s : State F) (a : Act F) : Prop :=
  ∀ created workType, a = .control created → s.control = .clearWorks → s.worker ≠ .found workType

/-- The works change under the mutex, but for `Deactivate`. -/
theorem Inv.mapWork_eq (inv : s.Inv) (undisturbed : s.Undisturbed a) {workType : Int} (found : s.worker = .found workType)
    (h : s.step a = some t) : t.mapWork = s.mapWork := by
  cases moves_of_step h with
  | control created act goes =>
    generalize here : s.control = control at goes
    cases goes_of_stepControl goes with
    | addWork free => exact absurd found (inv.not_found (congrArg Control.inside here) free workType)
    | eraseWork free => exact absurd found (inv.not_found (congrArg Control.inside here) free workType)
    | clearWorks => exact absurd found (undisturbed created workType act here)
    | _ => rfl
  | adds inside k ms work act idle new same => rw [same]
  | deletes inside k timer idle there same => rw [same]
  | deactivates idle same => rw [same]
  | apart mapWork => exact mapWork

/-! ## Works that are deleted -/

/-- The call in progress deletes the work. -/
def deletes (workType : Int) : Control F → Prop
  | .deleteTimer _ k _ | .eraseTimer _ k | .eraseWork _ k => k = workType
  | .deactivate _ | .clearTimers | .clearWorks | .lower | .wakeUp | .join | .empty => True
  | .idle | .addWork _ _ _ _ | .getTimer _ _ _ | .addTimer _ _ _ => False

/-- The worker calls the work that it has found under the type. -/
def Starts (workType : Int) (s : State F) (a : Act F) : Prop := a = .worker ∧ s.worker = .found workType

/-- The work is not registered, nobody is about to register it, and the worker has not found it before. -/
structure Gone (workType : Int) (s : State F) : Prop where
  absent : find workType s.mapWork = none
  quiet : ∀ inside ms work, s.control ≠ .addWork inside workType ms work
  sought : s.worker ≠ .found workType

variable {workType : Int}

theorem Gone.stepControl (gone : Gone workType s) {created : Bool} (h : s.stepControl created s.control = some t) :
    find workType t.mapWork = none ∧ ∀ inside ms work, t.control ≠ .addWork inside workType ms work := by
  obtain ⟨absent, quiet, -⟩ := gone
  generalize here : s.control = control at h quiet
  cases goes_of_stepControl h with
  | addWork free =>
    rename_i inside k ms work
    have other : workType ≠ k := by
      rintro rfl
      exact quiet inside ms work rfl
    exact ⟨find_assign_eq_none.2 ⟨other, absent⟩, fun _ _ _ same => by cases same⟩
  | eraseWork free => exact ⟨find_erase_eq_none.2 (.inr absent), fun _ _ _ same => by cases same⟩
  | clearWorks => exact ⟨rfl, fun _ _ _ same => by cases same⟩
  | empty first => exact ⟨absent, fun inside ms work same => quiet inside ms work (here.symm.trans same)⟩
  | _ => exact ⟨absent, fun _ _ _ same => by cases same⟩

theorem Gone.step (gone : Gone workType s) (other : ∀ inside ms work, a ≠ .addWork inside workType ms work)
    (h : s.step a = some t) : Gone workType t := by
  obtain ⟨absent, quiet⟩ : find workType t.mapWork = none ∧
      ∀ inside ms work, t.control ≠ .addWork inside workType ms work := by
    cases moves_of_step h with
    | control created act goes => exact gone.stepControl goes
    | adds inside k ms work act idle new same =>
      subst same
      refine ⟨gone.absent, fun inside' ms' work' here => ?_⟩
      cases here
      exact other _ _ _ act
    | deletes inside k timer idle found same =>
      subst same
      exact ⟨gone.absent, fun _ _ _ here => by cases here⟩
    | deactivates idle same =>
      subst same
      exact ⟨gone.absent, fun _ _ _ here => by cases here⟩
    | apart mapWork mapTimer control manager =>
      exact ⟨mapWork ▸ gone.absent, fun inside ms work here => gone.quiet inside ms work (control ▸ here)⟩
  refine ⟨absent, quiet, fun found => ?_⟩
  rcases found_of_step h found with before | registered
  · exact gone.sought before
  · exact registered absent

theorem Gone.not_starts (gone : Gone workType s) : ¬ Starts workType s a := fun starts => gone.sought starts.2

/-- `DeleteWork` of the work, or `Deactivate`, returns. -/
theorem gone_of_returned (inv : s.Inv) (h : s.step a = some t) (deleting : deletes workType s.control)
    (returned : t.control = .idle) : Gone workType t := by
  have busy : s.control ≠ .idle := by
    intro idle
    rw [idle] at deleting
    exact deleting
  suffices left : find workType t.mapWork = none ∧ s.worker ≠ .found workType by
    refine ⟨left.1, (fun _ _ _ here => by cases returned.symm.trans here), fun found => ?_⟩
    rcases found_of_step h found with before | registered
    · exact left.2 before
    · exact registered left.1
  cases moves_of_step h with
  | control created act goes =>
    have keys := inv.keys
    have joined := inv.joined
    generalize here : s.control = control at goes deleting keys joined
    cases goes_of_stepControl goes with
    | addTimer => cases deleting
    | eraseWork free =>
      exact ⟨find_erase_eq_none.2 (.inl (Eq.symm deleting)), inv.not_found (congrArg Control.inside here) free workType⟩
    | emptied empty =>
      rw [keys.1, joined rfl]
      exact ⟨rfl, fun found => by cases found⟩
    | empty first => exact absurd returned busy
    | _ => cases returned
  | adds inside k ms work act idle new same => exact absurd idle busy
  | deletes inside k timer idle found same => exact absurd idle busy
  | deactivates idle same => exact absurd idle busy
  | apart mapWork mapTimer control manager => exact absurd (control ▸ returned) busy

/-! ## What holds in a run -/

/-- What holds between the steps. -/
structure Registered (s : State F) : Prop where
  /-- Between control calls the two maps have the same keys. -/
  keys : s.control = .idle → ∀ workType, workType ∈ s.mapWork.map Prod.fst ↔ workType ∈ s.mapTimer.map Prod.fst
  /-- No tick waits while the worker waits and nobody is going to wake it. -/
  stranded : s.worker = .wait → s.lockCount = false → s.callback = none → s.queue = []
  /-- Each tick is popped once at most, in its turn. -/
  ticks : s.pushed = s.popped ++ s.queue
  /-- The work that the worker is about to call is registered. -/
  found : ∀ workType, s.worker = .found workType → workType ∈ s.mapWork.map Prod.fst

/-- What a step does. -/
structure Serves (s : State F) (a : Act F) : Prop where
  /-- `AddWork` of a registered type returns 1 and changes nothing. -/
  again : ∀ inside workType ms work t, a = .addWork inside workType ms work → workType ∈ s.mapWork.map Prod.fst →
    s.step a = some t → t = { s with ret := some 1 }
  /-- The worker takes the oldest tick. -/
  dequeues : ∀ t workType queue, a = .worker → s.step a = some t → s.worker = .drain → s.queue = workType :: queue →
    t.queue = queue ∧ t.popped = s.popped ++ [workType] ∧ t.worker = .popped workType
  /-- It finds what is registered under the type of the tick that it has taken. -/
  finds : ∀ t workType, a = .worker → s.step a = some t → (t.worker = .found workType ↔
    s.worker = .popped workType ∧ workType ∈ s.mapWork.map Prod.fst)
  /-- The work that it starts is the one that it has found. -/
  runs : ∀ t workType work, a = .worker → s.step a = some t → (t.worker = .running workType work ↔
    s.worker = .found workType ∧ find workType s.mapWork = some (some work))

/-- The works are registered, served and deleted. -/
structure Works (s : State F) : Prop where
  registered : s.Registered
  serves : ∀ a, s.Serves a
  /-- After `DeleteWork` of a work, or `Deactivate`, it is not started before it is added again. -/
  deleted : ∀ workType a t, s.step a = some t → deletes workType s.control → t.control = .idle →
    ∀ rest : List (Act F), (∀ inside ms work, .addWork inside workType ms work ∉ rest) →
      Along step (fun u b => ¬ Starts workType u b) t rest

theorem inv_initial : ({} : State F).Inv where
  keys _ := iff_of_true rfl rfl
  queued := .inl rfl
  ticks := rfl
  joined empty := by cases empty
  inside calls := by cases calls

theorem found_iff (h : s.step .worker = some t) (k : Int) :
    t.worker = .found k ↔ s.worker = .popped k ∧ k ∈ s.mapWork.map Prod.fst := by
  rw [mem_keys]
  simp only [State.step] at h
  generalize s.worker = worker at h
  cases runs_of_stepWorker h with
  | woken => by_cases runs : s.threadRunning = true <;> simp [runs]
  | @popped workType =>
    by_cases none : find workType s.mapWork = none
    · simp only [none, if_true]
      refine iff_of_false (by simp) ?_
      rintro ⟨same, registered⟩
      cases same
      exact registered none
    · simp only [none, if_false, Worker.found.injEq, Worker.popped.injEq]
      constructor
      · rintro rfl
        exact ⟨rfl, none⟩
      · exact fun here => here.1
  | _ => simp

theorem running_iff (h : s.step .worker = some t) (k : Int) (work : F) :
    t.worker = .running k work ↔ s.worker = .found k ∧ find k s.mapWork = some (some work) := by
  simp only [State.step] at h
  generalize s.worker = worker at h
  cases runs_of_stepWorker h with
  | woken => by_cases runs : s.threadRunning = true <;> simp [runs]
  | @popped workType => by_cases none : find workType s.mapWork = none <;> simp [none]
  | @found workType work' here =>
    simp only [Worker.running.injEq, Worker.found.injEq]
    constructor
    · rintro ⟨rfl, rfl⟩
      exact ⟨rfl, here⟩
    · rintro ⟨rfl, here'⟩
      rw [here] at here'
      cases here'
      exact ⟨rfl, rfl⟩
  | @empty workType here =>
    refine iff_of_false (by simp) ?_
    rintro ⟨same, here'⟩
    cases same
    cases here.symm.trans here'
  | _ => simp

theorem dequeued (h : s.step .worker = some t) (drains : s.worker = .drain) {k : Int} {queue : List Int}
    (first : s.queue = k :: queue) : t.queue = queue ∧ t.popped = s.popped ++ [k] ∧ t.worker = .popped k := by
  simp only [State.step, drains, stepWorker, first] at h
  cases h
  exact ⟨rfl, rfl, rfl⟩

theorem serves (s : State F) (a : Act F) : s.Serves a := by
  refine ⟨?_, ?_, ?_, ?_⟩
  · rintro inside workType ms work t rfl here h
    obtain ⟨work', found⟩ := Option.ne_none_iff_exists'.1 (mem_keys.1 here)
    simp only [State.step, found] at h
    split at h
    · exact (Option.some.inj h).symm
    · cases h
  · rintro t workType queue rfl h drains first
    exact dequeued h drains first
  · rintro t workType rfl h
    exact found_iff h workType
  · rintro t workType work rfl h
    exact running_iff h workType work

theorem Inv.deleted (inv : s.Inv) (h : s.step a = some t) (deleting : deletes workType s.control)
    (returned : t.control = .idle) {rest : List (Act F)}
    (never : ∀ inside ms work, .addWork inside workType ms work ∉ rest) :
    Along State.step (fun u b => ¬ Starts workType u b) t rest := by
  have gone := gone_of_returned inv h deleting returned
  have allowed : Along State.step (fun _ b => ∀ inside ms work, b ≠ .addWork inside workType ms work) t rest :=
    along_of_mem fun b mem inside ms work same => never inside ms work (same ▸ mem)
  exact along_of (fun gone other h => Gone.step gone other h) (fun gone _ => gone.not_starts) gone allowed

/-- What every undisturbed step keeps. -/
structure Steady (s : State F) : Prop where
  inv : s.Inv
  found : ∀ workType, s.worker = .found workType → workType ∈ s.mapWork.map Prod.fst

theorem Steady.step (steady : s.Steady) (undisturbed : s.Undisturbed a) (h : s.step a = some t) : t.Steady := by
  refine ⟨steady.inv.step h, fun workType found => ?_⟩
  rcases found_of_step h found with before | registered
  · rw [steady.inv.mapWork_eq undisturbed before h]
    exact steady.found workType before
  · exact mem_keys.2 registered

theorem Steady.works (steady : s.Steady) : s.Works := by
  obtain ⟨inv, found⟩ := steady
  refine ⟨⟨fun idle workType => ?_, fun waits sleeps quiet => ?_, inv.ticks, found⟩, serves s,
    fun workType a t h deleting returned rest never => inv.deleted h deleting returned never⟩
  · have keys := inv.keys
    rw [idle] at keys
    rw [mem_keys, mem_keys, not_iff_not]
    exact keys workType
  · rcases inv.queued with empty | woken | called | awake | joining
    · exact empty
    · rw [sleeps] at woken
      cases woken
    · exact absurd quiet called
    · rw [waits] at awake
      cases awake
    · cases waits.symm.trans (inv.joined joining)

/-- The work that was found is destroyed. -/
theorem cleared_of_disturbed (disturbed : ¬ s.Undisturbed a) : ∃ t, s.step a = some t ∧ ¬ t.Works := by
  simp only [Undisturbed, not_forall, not_not] at disturbed
  obtain ⟨created, workType, rfl, clears, found⟩ := disturbed
  refine ⟨{ s with mapWork := [], control := .lower }, by simp only [State.step, clears, State.stepControl], fun works => ?_⟩
  exact absurd (works.registered.found workType found) List.not_mem_nil

end State

open State

variable {F : Type}

/-- **Works are registered, served and deleted as they should** in every state of a run, whatever the order of the calls,
the callbacks and the worker's steps, exactly if no `Deactivate` clears the works between the look-up of a work and its
call. -/
theorem works_registered_iff (acts : List (Act F)) :
    Throughout step Works ({} : State F) acts ↔ Along step Undisturbed ({} : State F) acts :=
  throughout_iff_along (fun steady undisturbed h => Steady.step steady undisturbed h) (fun steady => steady.works)
    (fun _ disturbed => cleared_of_disturbed disturbed) ⟨inv_initial, fun _ found => by cases found⟩

/-- The worker has found the work of a tick when `Deactivate` comes and goes on to `m_map_work.clear()`. -/
private def clearsFound : List (Act Unit) :=
  [.activate, .worker, .addWork false 7 1000 (some ()), .control true, .control true, .control true, .tick 7, .wakeUp,
    .worker, .worker, .worker, .worker, .deactivate, .control true, .control true, .control true, .control true]

/-- The work of a tick is destroyed before it is called: the tick does not run it. -/
theorem works_cleared : ∃ s t : State Unit, run step {} clearsFound.dropLast = some s ∧ s.worker = .found 7 ∧
    s.mapWork = [(7, some ())] ∧ s.step (.control true) = some t ∧ t.worker = .found 7 ∧ t.mapWork = [] ∧
    t.step .worker = none ∧ ¬ Throughout step Works {} clearsFound := by
  refine ⟨_, _, rfl, rfl, rfl, rfl, rfl, rfl, rfl, fun works => ?_⟩
  exact absurd ((works.last rfl).registered.found 7 rfl) List.not_mem_nil

end CameraEv.RepeatWorkProc
