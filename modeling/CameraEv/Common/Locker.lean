import CameraEv.Lib.Trace

/-!
# `Locker`: an event on a mutex and a condition variable

`Wait` blocks until `WaitProc` finds a positive `m_lock_count` and takes one off
it; `WakeUp` stores `m_lock_max_count` there and notifies. The header says that a
wait is released by as many `WakeUp` calls as `SetWakeUpCount` was given. Any
number of threads run the calls in any order: a step is one statement of one
thread, a wake-up of the condition variable that nobody asked for, or a time-out.

A count of one makes an event of it. With a larger one a single `WakeUp` lets as
many waits pass as the count says.
-/

namespace CameraEv

open Trace

/-- `m_lock_count` and `m_lock_max_count`. -/
structure Locker where
  lockCount : Int := 0
  lockMaxCount : Int := 1
  deriving DecidableEq

namespace Locker

/-- The predicate of the waits: `true` lets the caller through. -/
def waitProc (l : Locker) : Bool × Locker :=
  if 0 < l.lockCount then (true, { l with lockCount := l.lockCount - 1 }) else (false, l)

/-- What `WakeUp` does under the mutex. -/
def wakeUp (l : Locker) : Locker := { l with lockCount := l.lockMaxCount }

def setWakeUpCount (l : Locker) (count : Int) : Locker := { l with lockMaxCount := count }

/-- Where a thread is. `timed` tells `Wait(ms)` from `Wait()`, `last` a `Wait(ms)` whose time is over. -/
inductive Pc where
  | idle
  | enterWait (timed : Bool)
  | test (timed last : Bool)
  | block (timed : Bool)
  | blocked (timed : Bool)
  | relock (timed last : Bool)
  | leave (released : Bool)
  | enterWakeUp (notifyAll : Bool)
  | store (notifyAll : Bool)
  | unlock (notifyAll : Bool)
  | notify (notifyAll : Bool)
  deriving DecidableEq

/-- The thread is in a `Wait` or a `Wait(ms)`. -/
def Pc.waits : Pc → Bool
  | enterWait _ | test _ _ | block _ | blocked _ | relock _ _ | leave _ => true
  | idle | enterWakeUp _ | store _ | unlock _ | notify _ => false

def Pc.isBlocked : Pc → Bool
  | blocked _ => true
  | _ => false

/-- A blocked thread that is notified; the others go on where they are. -/
def Pc.notified : Pc → Pc
  | blocked timed => relock timed false
  | pc => pc

/-- What a thread does next: a call, a statement of a call, or what the condition variable does to it. `notify_one`
wakes one blocked thread, whichever it is. -/
inductive Act (ι : Type) where
  | wait (timed : Bool)
  | wakeUp (notifyAll : Bool)
  | lock
  | test
  | block
  | spurious
  | timeOut
  | store
  | unlock
  | notify (woken : Option ι)
  deriving DecidableEq

/-- The `WakeUp` calls since the previous release, those of them made while nobody waits, and all there ever were. -/
structure History where
  wakeUps : Nat := 0
  unattended : Nat := 0
  total : Nat := 0
  deriving DecidableEq

def History.woken (h : History) (alone : Bool) : History where
  wakeUps := h.wakeUps + 1
  unattended := if alone then h.unattended + 1 else h.unattended
  total := h.total + 1

def History.released (h : History) : History := { h with wakeUps := 0, unattended := 0 }

/-- `m_mutex` is owned by a thread or free. `history` is read by no step. -/
structure State (ι : Type) where
  locker : Locker := {}
  mutex : Option ι := none
  pc : ι → Pc := fun _ => .idle
  history : History := {}

section Steps

variable {ι : Type} [DecidableEq ι]

namespace State

def goto (s : State ι) (i : ι) (pc : Pc) : State ι := { s with pc := Function.update s.pc i pc }

/-- `std::unique_lock` is given the mutex when it is free. -/
def lock (s : State ι) (i : ι) (pc : Pc) : Option (State ι) :=
  if s.mutex = none then some { s.goto i pc with mutex := some i } else none

variable [Fintype ι]

def nobodyWaits (s : State ι) : Bool := decide (∀ i, (s.pc i).waits = false)

/-- One step of one thread. The predicate of a `Wait(ms)` that has timed out is evaluated once more, and its value
returned; the other waits block again until it is true. -/
def step (s : State ι) : ι × Act ι → Option (State ι)
  | (i, a) => match s.pc i, a with
    | .idle, .wait timed => some (s.goto i (.enterWait timed))
    | .enterWait timed, .lock => s.lock i (.test timed false)
    | .test timed last, .test =>
      let (released, locker) := s.locker.waitProc
      some { s.goto i (if released || last then .leave released else .block timed) with
        locker, history := if released then s.history.released else s.history }
    | .block timed, .block => some { s.goto i (.blocked timed) with mutex := none }
    | .blocked timed, .spurious => some (s.goto i (.relock timed false))
    | .blocked true, .timeOut => some (s.goto i (.relock true true))
    | .relock timed last, .lock => s.lock i (.test timed last)
    | .leave _, .unlock => some { s.goto i .idle with mutex := none }
    | .idle, .wakeUp notifyAll => some (s.goto i (.enterWakeUp notifyAll))
    | .enterWakeUp notifyAll, .lock => s.lock i (.store notifyAll)
    | .store notifyAll, .store =>
      some { s.goto i (.unlock notifyAll) with
        locker := s.locker.wakeUp, history := s.history.woken s.nobodyWaits }
    | .unlock notifyAll, .unlock => some { s.goto i (.notify notifyAll) with mutex := none }
    | .notify true, .notify _ => some { s with pc := Function.update (fun j => (s.pc j).notified) i .idle }
    | .notify false, .notify (some j) =>
      if (s.pc j).isBlocked then some ((s.goto j (s.pc j).notified).goto i .idle) else none
    | .notify false, .notify none => if ∀ j, (s.pc j).isBlocked = false then some (s.goto i .idle) else none
    | _, _ => none

end State

/-- A `Locker` whose count was set before its first use. -/
def start (count : Int) : State ι := { locker := ({} : Locker).setWakeUpCount count }

variable [Fintype ι]

/-- What the count promises, at each step that evaluates `WaitProc`: the wait is released only after `count` calls of
`WakeUp` since the previous release, and it is when as many were made while nobody waited. -/
def Counted (count : Int) (s : State ι) (l : ι × Act ι) : Prop :=
  match s.step l with
  | none => True
  | some t => l.2 = .test → (t.pc l.1 = .leave true → count ≤ s.history.wakeUps) ∧
      (count ≤ s.history.unattended → t.pc l.1 = .leave true)

/-- `WaitProc` is evaluated before the first `WakeUp` or after `count` of them since the previous release, unless the
count is one. -/
def Awaited (count : Int) (s : State ι) (l : ι × Act ι) : Prop :=
  match s.step l with
  | none => True
  | some _ => l.2 = .test → count = 1 ∨ s.history.total = 0 ∨ count ≤ s.history.wakeUps

instance Counted.decidable (count : Int) (s : State ι) (l : ι × Act ι) : Decidable (Counted count s l) := by
  unfold Counted
  cases s.step l with
  | none => exact instDecidableTrue
  | some t => infer_instance

instance Awaited.decidable (count : Int) (s : State ι) (l : ι × Act ι) : Decidable (Awaited count s l) := by
  unfold Awaited
  cases s.step l with
  | none => exact instDecidableTrue
  | some t => infer_instance

/-! ## What a step can do -/

/-- The points between taking the mutex and giving it back. -/
def Pc.inside : Pc → Bool
  | test _ _ | block _ | leave _ | store _ | unlock _ => true
  | idle | enterWait _ | blocked _ | relock _ _ | enterWakeUp _ | notify _ => false

omit [DecidableEq ι] [Fintype ι] in
theorem inside_notified (pc : Pc) : pc.notified.inside = pc.inside := by
  cases pc <;> rfl

variable {count : Int} {s t : State ι} {l : ι × Act ι}

/-- A step leaves the counts alone, stores as `WakeUp` does, or evaluates `WaitProc`. -/
inductive Counts (s : State ι) (l : ι × Act ι) (t : State ι) : Prop
  | quiet (other : l.2 ≠ .test) (locker : t.locker = s.locker) (history : t.history = s.history)
  | stores (other : l.2 ≠ .test) (alone : Bool) (locker : t.locker = s.locker.wakeUp)
      (history : t.history = s.history.woken alone)
  | tests (act : l.2 = .test) (locker : t.locker = s.locker.waitProc.2)
      (history : t.history = if s.locker.waitProc.1 then s.history.released else s.history)
      (pc : t.pc l.1 = .leave true ↔ s.locker.waitProc.1 = true)

/-- A step of thread `i` brings nobody inside, takes the free mutex, or gives the mutex back. -/
inductive Places (s : State ι) (i : ι) (t : State ι) : Prop
  | kept (mutex : t.mutex = s.mutex) (place : ∀ j, (t.pc j).inside = true → (s.pc j).inside = true)
  | taken (free : s.mutex = none) (mutex : t.mutex = some i) (others : ∀ j, j ≠ i → t.pc j = s.pc j)
  | given (owner : (s.pc i).inside = true) (out : (t.pc i).inside = false) (others : ∀ j, j ≠ i → t.pc j = s.pc j)

structure Moves (s : State ι) (l : ι × Act ι) (t : State ι) : Prop where
  counts : Counts s l t
  places : Places s l.1 t

section Goto

variable {i : ι} {pc : Pc}

omit [Fintype ι] in
theorem State.goto_self : (s.goto i pc).pc i = pc := by
  simp only [goto, Function.update_self]

omit [Fintype ι] in
theorem State.goto_of_ne {j : ι} (ne : j ≠ i) : (s.goto i pc).pc j = s.pc j := by
  simp only [goto, Function.update_of_ne ne]

omit [Fintype ι] in
/-- A thread that does not come inside by its step. -/
theorem State.goto_inside (place : pc.inside = true → (s.pc i).inside = true) (j : ι)
    (inside : ((s.goto i pc).pc j).inside = true) : (s.pc j).inside = true := by
  by_cases same : j = i
  · subst same
    rw [goto_self] at inside
    exact place inside
  · rwa [goto_of_ne same] at inside

omit [Fintype ι] in
theorem Moves.goes (other : l.2 ≠ .test) (place : pc.inside = true → (s.pc l.1).inside = true) :
    Moves s l (s.goto l.1 pc) where
  counts := .quiet other rfl rfl
  places := .kept rfl (State.goto_inside place)

omit [Fintype ι] in
theorem Moves.takes (other : l.2 ≠ .test) (h : s.lock l.1 pc = some t) : Moves s l t := by
  unfold State.lock at h
  split at h
  · rename_i free
    cases h
    exact ⟨.quiet other rfl rfl, .taken free rfl fun _ ne => State.goto_of_ne ne⟩
  · cases h

omit [Fintype ι] in
theorem Moves.gives (other : l.2 ≠ .test) (owner : (s.pc l.1).inside = true) (out : pc.inside = false) :
    Moves s l { s.goto l.1 pc with mutex := none } where
  counts := .quiet other rfl rfl
  places := by
    apply Places.given owner
    · exact (congrArg Pc.inside State.goto_self).trans out
    · exact fun _ ne => State.goto_of_ne ne

end Goto

theorem moves_of_step (h : s.step l = some t) : Moves s l t := by
  obtain ⟨i, a⟩ := l
  simp only [State.step] at h
  split at h
  · cases h
    exact .goes nofun nofun
  · exact .takes nofun h
  · rename_i here
    cases h
    constructor
    · refine .tests rfl rfl rfl ?_
      show (s.goto i _).pc i = _ ↔ _
      rw [State.goto_self]
      cases s.locker.waitProc.1 with
      | true => simp
      | false => split <;> simp
    · exact .kept rfl (State.goto_inside fun _ => by rw [here]; rfl)
  · rename_i here
    cases h
    exact .gives nofun (by rw [here]; rfl) rfl
  · cases h
    exact .goes nofun nofun
  · cases h
    exact .goes nofun nofun
  · exact .takes nofun h
  · rename_i here
    cases h
    exact .gives nofun (by rw [here]; rfl) rfl
  · cases h
    exact .goes nofun nofun
  · exact .takes nofun h
  · rename_i here
    cases h
    exact ⟨.stores nofun _ rfl rfl, .kept rfl (State.goto_inside fun _ => by rw [here]; rfl)⟩
  · rename_i here
    cases h
    exact .gives nofun (by rw [here]; rfl) rfl
  · cases h
    refine ⟨.quiet nofun rfl rfl, .kept rfl fun j inside => ?_⟩
    -- all blocked threads are notified, and the caller returns
    have woken : ((State.goto { s with pc := fun j => (s.pc j).notified } i .idle).pc j).inside = true := inside
    exact (inside_notified _).symm.trans (State.goto_inside (fun out => by cases out) j woken)
  · split at h <;> cases h
    rename_i j _ _
    refine ⟨.quiet nofun rfl rfl, .kept rfl fun k inside => ?_⟩
    have woken : ((s.goto j (s.pc j).notified).pc k).inside = true :=
      State.goto_inside (fun out => by cases out) k inside
    exact State.goto_inside (fun inside => (inside_notified _).symm.trans inside) k woken
  · split at h <;> cases h
    exact .goes nofun nofun
  · cases h

/-! ## The counts are touched under the mutex -/

/-- A thread that is inside owns `m_mutex`. -/
def Exclusive (s : State ι) : Prop := ∀ i, (s.pc i).inside = true → s.mutex = some i

theorem Exclusive.step (h : Exclusive s) (ran : s.step l = some t) : Exclusive t := by
  intro j inside
  cases (moves_of_step ran).places with
  | kept mutex place => exact mutex.trans (h j (place j inside))
  | taken free mutex others =>
    by_cases same : j = l.1
    · rw [same, mutex]
    · rw [others j same] at inside
      rw [h j inside] at free
      cases free
  | given owner out others =>
    by_cases same : j = l.1
    · rw [same, out] at inside
      cases inside
    · rw [others j same] at inside
      have both : some l.1 = some j := (h l.1 owner).symm.trans (h j inside)
      exact absurd (Option.some.inj both).symm same

/-- In every run the thread that evaluates `WaitProc` or stores the count owns the mutex. -/
theorem touched_by_owner (labels : List (ι × Act ι)) :
    Throughout State.step Exclusive (start count) labels := by
  apply throughout (I := Exclusive) ?_ id ?_ along_true
  · exact fun h _ ran => h.step ran
  · exact fun i inside => by cases inside

/-! ## The count and the calls -/

omit [DecidableEq ι] [Fintype ι] in
theorem waitProc_pos {l : Locker} (positive : 0 < l.lockCount) :
    l.waitProc = (true, { l with lockCount := l.lockCount - 1 }) := if_pos positive

omit [DecidableEq ι] [Fintype ι] in
theorem waitProc_zero {l : Locker} (closed : l.lockCount = 0) : l.waitProc = (false, l) :=
  if_neg (by omega)

/-- The lock count against the calls made so far: it is at its maximum when `WakeUp` has been called since the
previous release, and below it when not. -/
structure Tally (count : Int) (s : State ι) : Prop where
  max : s.locker.lockMaxCount = count
  nonneg : 0 ≤ s.locker.lockCount
  le : s.locker.lockCount ≤ count
  full : s.locker.lockCount = count ↔ 0 < s.history.wakeUps
  unattended : s.history.unattended ≤ s.history.wakeUps
  total : s.history.wakeUps ≤ s.history.total
  unused : s.history.total = 0 → s.locker.lockCount = 0

omit [DecidableEq ι] [Fintype ι] in
theorem tally_start (pos : 1 ≤ count) : Tally count (start count : State ι) where
  max := rfl
  nonneg := le_refl 0
  le := by
    show 0 ≤ count
    omega
  full := by
    show 0 = count ↔ 0 < 0
    omega
  unattended := le_refl 0
  total := le_refl 0
  unused _ := rfl

theorem Tally.step (tally : Tally count s) (pos : 1 ≤ count) (h : s.step l = some t) : Tally count t := by
  obtain ⟨max, nonneg, le, full, unattended, total, unused⟩ := tally
  cases (moves_of_step h).counts with
  | quiet other locker history =>
    constructor
    · rw [locker, max]
    · rwa [locker]
    · rwa [locker]
    · rw [locker, history, full]
    · rwa [history]
    · rwa [history]
    · rwa [locker, history]
  | stores other alone locker history =>
    have stored : t.locker.lockCount = count := by rw [locker, wakeUp, max]
    constructor
    · rw [locker, wakeUp, max]
    · omega
    · omega
    · simp only [stored, history, History.woken, Nat.succ_pos]
    · simp only [history, History.woken]
      split <;> omega
    · simp only [history, History.woken]
      omega
    · simp only [history, History.woken]
      omega
  | tests act locker history pc =>
    by_cases closed : s.locker.lockCount = 0
    · rw [waitProc_zero closed] at locker history
      constructor
      · rw [locker, max]
      · rwa [locker]
      · rwa [locker]
      · rw [locker, history, full]
        rfl
      · rw [history]
        exact unattended
      · rw [history]
        exact total
      · rw [locker, history]
        exact unused
    · rw [waitProc_pos (by omega)] at locker history
      constructor
      · rw [locker, max]
      · rw [locker]
        show 0 ≤ s.locker.lockCount - 1
        omega
      · rw [locker]
        show s.locker.lockCount - 1 ≤ count
        omega
      · rw [locker, history]
        show s.locker.lockCount - 1 = count ↔ 0 < 0
        omega
      · rw [history]
        exact le_refl 0
      · rw [history]
        exact Nat.zero_le _
      · rw [history]
        intro none
        exact absurd (unused none) closed

/-- With a count above one the lock count is not used up: each release is paid for by calls that refill it. -/
structure Undrained (count : Int) (s : State ι) : Prop extends Tally count s where
  left : 1 < count → 0 < s.history.total → 0 < s.locker.lockCount

theorem Undrained.step (h : Undrained count s) (pos : 1 ≤ count) (awaited : Awaited count s l)
    (ran : s.step l = some t) : Undrained count t where
  toTally := h.toTally.step pos ran
  left large used := by
    have full := h.full
    have left := h.left large
    cases (moves_of_step ran).counts with
    | quiet other locker history =>
      rw [history] at used
      rw [locker]
      exact left used
    | stores other alone locker history =>
      rw [locker, wakeUp]
      show 0 < s.locker.lockMaxCount
      rw [h.max]
      omega
    | tests act locker history pc =>
      have total : t.history.total = s.history.total := by
        rw [history]
        split <;> rfl
      rw [total] at used
      simp only [Awaited, ran] at awaited
      -- the release takes one off a full count of at least two
      have called : count ≤ s.history.wakeUps := by
        rcases awaited act with one | none | called <;> omega
      rw [locker, waitProc_pos (left used)]
      show 0 < s.locker.lockCount - 1
      omega

/-- Where the count is not used up, a step keeps the promise exactly when it is awaited. -/
theorem Undrained.counted_iff (h : Undrained count s) (pos : 1 ≤ count) : Counted count s l ↔ Awaited count s l := by
  obtain ⟨⟨max, nonneg, le, full, unattended, total, unused⟩, left⟩ := h
  unfold Counted Awaited
  cases ran : s.step l with
  | none => exact Iff.rfl
  | some t =>
    cases (moves_of_step ran).counts with
    | quiet other => exact ⟨fun _ act => absurd act other, fun _ act => absurd act other⟩
    | stores other => exact ⟨fun _ act => absurd act other, fun _ act => absurd act other⟩
    | tests act locker history pc =>
      simp only [pc]
      constructor
      · intro counted _
        by_contra early
        push Not at early
        obtain ⟨several, used, few⟩ := early
        have passes := left (by omega) (by omega)
        rw [waitProc_pos passes] at counted
        exact absurd ((counted act).1 rfl) (by omega)
      · intro awaited _
        constructor
        · intro released
          have passes : 0 < s.locker.lockCount := by
            by_contra closed
            rw [waitProc_zero (by omega)] at released
            cases released
          rcases awaited act with one | none | called
          · omega
          · omega
          · exact called
        · intro called
          have woken : s.locker.lockCount = count := full.2 (by omega)
          rw [waitProc_pos (by omega)]

/-- **A wait takes as many `WakeUp` calls as the count says exactly when none is made too early.** Over every run of any
number of threads, for every count set before the first use. -/
theorem waits_counted_iff (count : Int) (pos : 1 ≤ count) (labels : List (ι × Act ι)) :
    Along State.step (Counted count) (start count) labels ↔ Along State.step (Awaited count) (start count) labels := by
  have begun : Undrained count (start count : State ι) := by
    constructor
    · exact tally_start pos
    · intro _ used
      exact absurd used (lt_irrefl 0)
  apply along_iff (I := Undrained count) ?_ ?_ begun
  · exact fun h awaited ran => h.step pos awaited ran
  · exact fun h => h.counted_iff pos

theorem awaited_one : Awaited 1 s l := by
  unfold Awaited
  split
  · trivial
  · exact fun _ => .inl rfl

/-- With a count of one the promise is kept in every run. -/
theorem event_counted (labels : List (ι × Act ι)) : Along State.step (Counted 1) (start 1) labels := by
  have begun : Undrained 1 (start 1 : State ι) := ⟨tally_start (le_refl 1), fun large => absurd large (lt_irrefl 1)⟩
  apply along_of (I := Undrained 1) ?_ ?_ begun along_true
  · exact fun h _ ran => h.step (le_refl 1) awaited_one ran
  · exact fun h _ => (h.counted_iff (le_refl 1)).2 awaited_one

end Steps

/-- Thread 0 calls `WakeUp` while nobody is blocked. -/
private def wake : List (Fin 2 × Act (Fin 2)) :=
  [(0, .wakeUp false), (0, .lock), (0, .store), (0, .unlock), (0, .notify none)]

/-- Thread 1 calls `Wait` and evaluates its predicate. -/
private def waitOnce : List (Fin 2 × Act (Fin 2)) := [(1, .wait false), (1, .lock), (1, .test)]

/-- A count of two and two calls of `WakeUp` before the wait. -/
theorem waits_counted_iff_twice :
    (∃ t, run State.step (start 2) (wake ++ wake ++ waitOnce) = some t ∧ t.pc 1 = .leave true) ∧
      Along State.step (Counted 2) (start 2) (wake ++ wake ++ waitOnce) := by
  constructor
  · exact ⟨_, rfl, rfl⟩
  · exact (waits_counted_iff 2 (by decide) _).2 (by decide)

/-- A count of two and one call: the wait is released. -/
theorem released_by_one :
    (∃ t, run State.step (start 2) (wake ++ waitOnce) = some t ∧ t.pc 1 = .leave true ∧ t.history.total = 1) ∧
      ¬ Along State.step (Counted 2) (start 2) (wake ++ waitOnce) := by
  constructor
  · exact ⟨_, rfl, rfl, rfl⟩
  · decide

end Locker

end CameraEv
