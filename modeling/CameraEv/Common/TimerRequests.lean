import CameraEv.Common.TimerLists

/-!
# Requests to the manager of the timer lockers

What `m_map_timers` looks like after any run, what a request returns and what a
deletion takes away. A request destroys the locker of its name before it knows
whether there is a timer for the new one, so that one without a timer leaves the
manager as it was only where the name is new.

A client that keeps pointers sees neither counts nor timers; what it sees is the
manager of `CTimerLockerManager`, which `erase` leads to.
-/

namespace CameraEv.TimerLists

open Trace

variable {W A : Type}

/-! ## The representation invariant -/

/-- What `m_map_timers` looks like to the outside. -/
structure Represented (m : Nat) (ts : List (Nat × CTimerLockerList)) : Prop where
  /-- A name occurs in one locker over all lists. -/
  names : ((held ts).map fun x => x.2.name).Nodup
  nonempty : ∀ x ∈ ts, x.2.lockers ≠ []
  keyed : ∀ x ∈ ts, x.1 = x.2.period ∧ m ≤ x.1

/-- The one locker of a name. -/
def IsThe (ts : List (Nat × CTimerLockerList)) (name : String) (id : Nat) : Prop :=
  ∃ x ∈ held ts, x.2.name = name ∧ x.2.id = id ∧ ∀ y ∈ held ts, y.2.name = name → y = x

section Representation

variable {m : Nat} {timerEx : TimerEx W A} {s t : State W} {M M' : Manager W} {name : String}

theorem deleted_iff (timerEx : TimerEx W A) (M : Manager W) (name : String) :
    (deleteTimerLocker timerEx M name).1 = true ↔ ∃ x ∈ held M.timers, x.2.name = name := by
  rcases deleteTimerLocker_taken timerEx M name with
    ⟨none, same⟩ | ⟨k, item, left, before, after, pre, post, taken, found, -, -⟩
  · rw [same]
    constructor
    · intro h
      cases h
    · rintro ⟨x, mem, named⟩
      exact absurd named (none x mem)
  · exact ⟨fun _ => ⟨(k, item), taken.mem, taken.named⟩, fun _ => found⟩

/-- The pointer that a request returns. -/
theorem isThe_of_requested {ms : Int} {callback : Bool} {answer : A} {id : Nat} {events : List Event}
    (inv : Inv M.timers M.nextId)
    (h : getTimerLockerByTime m timerEx M name ms callback answer = some (some id, M', events)) :
    IsThe M'.timers name id := by
  obtain ⟨inv', -, ⟨null, -, -⟩ | ⟨pointer, -, perm⟩⟩ := getTimerLockerByTime_spec inv h
  · cases null
  · cases pointer
    have mem : requested m M.nextId name (effective m ms) callback ∈ held M'.timers :=
      perm.mem_iff.2 List.mem_cons_self
    exact ⟨_, mem, rfl, rfl, fun y mem' named => inv'.eq_of_name mem' mem named⟩

theorem pointer_of_step (inv : Inv s.manager.timers s.manager.nextId) {a : Act A}
    (h : step m timerEx s a = some t) {id : Nat} (result : t.result = .pointer (some id)) :
    ∃ name ms callback, a.request = some (name, ms, callback) ∧ IsThe t.manager.timers name id := by
  cases a with
  | getTimerLockerByTime name ms callback answer =>
    obtain ⟨⟨r, M', events⟩, made, rfl⟩ := Option.map_eq_some_iff.1 h
    cases result
    exact ⟨name, ms, callback, rfl, isThe_of_requested inv made⟩
  | getTimerLockerByFps name fps callback answer =>
    obtain ⟨⟨r, M', events⟩, made, rfl⟩ := Option.map_eq_some_iff.1 h
    cases result
    simp only [getTimerLockerByFps] at made
    split at made
    · cases made
    · rename_i some
      exact ⟨name, _, callback, if_neg some, isThe_of_requested inv made⟩
  | deleteTimerLocker name =>
    cases h
    cases result
  | deletePointer id' =>
    obtain ⟨x, -, rfl⟩ := Option.map_eq_some_iff.1 h
    cases result
  | callbackTimer ms =>
    cases h
    cases result
  | exit =>
    cases h
    cases result

end Representation

/-- **The representation invariant of the manager.** After every run, whatever timers could be had: a name is one
locker over all lists, no list is empty, the key of a list is its own period and at least the minimal resolution. A
pointer that an operation returns is the one locker of the name it was asked for, and `DeleteTimerLocker` returns
whether the name was there and takes away that locker and nothing else. -/
theorem manager_represented (m : Nat) (timerEx : TimerEx W A) (w : W) (acts : List (Act A)) (s : State W)
    (ran : run (step m timerEx) (initial w) acts = some s) :
    Represented m s.manager.timers ∧
      (∀ a t id, step m timerEx s a = some t → t.result = .pointer (some id) →
        ∃ name ms callback, a.request = some (name, ms, callback) ∧ IsThe t.manager.timers name id) ∧
      (∀ name t, step m timerEx s (.deleteTimerLocker name) = some t →
        (t.result = .deleted true ↔ ∃ x ∈ held s.manager.timers, x.2.name = name) ∧
          held t.manager.timers = (held s.manager.timers).filter fun x => x.2.name ≠ name) ∧
      ∀ id t, step m timerEx s (.deletePointer id) = some t →
        t.result = .deleted true ∧ (∃ x ∈ held s.manager.timers, x.2.id = id) ∧
          held t.manager.timers = (held s.manager.timers).filter fun x => x.2.id ≠ id := by
  obtain ⟨inv, counted⟩ := inv_run ran
  refine ⟨⟨inv.names, inv.nonempty, fun x mem => ⟨(inv.keyed x mem).symm, ?_⟩⟩,
    fun a t id h result => pointer_of_step inv h result, fun name t h => ?_, fun id t h => ?_⟩
  · obtain ⟨item, mem'⟩ := List.exists_mem_of_ne_nil _ (inv.nonempty x mem)
    obtain ⟨le, key, -⟩ := counted (x.1, item) (mem_held.2 ⟨x.2, mem, mem'⟩)
    rw [show x.1 = getDivisor m item.period from key]
    exact (getDivisor_spec le).2.1
  · cases h
    rw [Result.deleted.injEq]
    exact ⟨deleted_iff timerEx s.manager name, (inv.deleted name).2⟩
  · obtain ⟨x, found, rfl⟩ := Option.map_eq_some_iff.1 h
    have mem := List.mem_of_find?_eq_some found
    have here : x.2.id = id := by simpa using List.find?_some found
    rw [Result.deleted.injEq]
    refine ⟨(deleted_iff timerEx s.manager x.2.name).2 ⟨x, mem, rfl⟩, ⟨x, mem, here⟩, ?_⟩
    rw [(inv.deleted x.2.name).2]
    refine List.filter_congr fun y mem' => decide_eq_decide.2 (not_congr ⟨fun same => ?_, fun same => ?_⟩)
    · rw [inv.eq_of_name mem' mem same, here]
    · rw [inv.eq_of_id mem' mem (same.trans here.symm)]

/-- Two lockers of one list, and one that has moved to another list. -/
theorem manager_represented_run :
    Represented 10 [(10, { period := 10, timerId := 0, lockers := [{ id := 1, name := "b", period := 20 }] }),
      (11, { period := 11, timerId := 0, lockers := [{ id := 2, name := "a", period := 33 }] })] :=
  (manager_represented 10 told () [.getTimerLockerByTime "a" 20 false true,
    .getTimerLockerByFps "b" 50 false true, .getTimerLockerByFps "a" 30 false true]
    ⟨⟨_, 3, ()⟩, .pointer (some 2), [.wakeUp 0]⟩ (by rfl)).1

/-! ## A timer that cannot be had -/

section Failure

variable {m : Nat} {timerEx : TimerEx W A} {M M' : Manager W} {name : String}

theorem deleted_absent (timerEx : TimerEx W A) (none : ∀ x ∈ held M.timers, x.2.name ≠ name) :
    (deleteTimerLocker timerEx M name).2.1 = M := by
  rcases deleteTimerLocker_taken timerEx M name with
    ⟨-, same⟩ | ⟨k, item, left, before, after, pre, post, taken, -, -, -⟩
  · rw [same]
  · exact absurd taken.named (none _ taken.mem)

end Failure

/-- **A request without a timer.** In every reachable state, whatever minimal resolutions were set on the way, a request
that returns null because no timer can be created leaves the lists as they were exactly where no locker has the name:
the old locker is destroyed before the request knows. -/
theorem failed_request_unchanged_iff (timerEx : TimerEx W A) (w : W) (acts : List (Nat × Act A)) (s : State W)
    (ran : run (stepAt timerEx) (initial w) acts = some s) (m : Nat) (name : String) (ms : Int) (callback : Bool) (answer : A)
    (M' : Manager W) (events : List Event)
    (failed : getTimerLockerByTime m timerEx s.manager name ms callback answer = some (none, M', events)) :
    M'.timers = s.manager.timers ↔ ∀ x ∈ held s.manager.timers, x.2.name ≠ name := by
  have inv := inv_runAt ran
  obtain ⟨-, -, ⟨-, left, -⟩ | ⟨pointer, -, -⟩⟩ := getTimerLockerByTime_spec inv failed
  · rw [left]
    constructor
    · intro same x mem
      rw [← same, (inv.deleted name).2] at mem
      exact of_decide_eq_true (List.mem_filter.1 mem).2
    · intro none
      rw [deleted_absent timerEx none]
  · cases pointer

/-- A new name is asked for while another locker has counted half of its period. -/
theorem failed_request_unchanged_iff_counting : ∃ s M',
    run (stepAt told) (initial ()) [(10, .getTimerLockerByTime "b" 20 false true), (10, .callbackTimer 10)] = some s ∧
      getTimerLockerByTime 10 told s.manager "a" 33 false false = some (none, M', []) ∧
      M'.timers = s.manager.timers ∧
      held M'.timers = [(10, { id := 0, name := "b", period := 20, periodCount := 10 })] := by
  obtain ⟨s, M', ran, failed, others, counted⟩ : ∃ s M',
      run (stepAt told) (initial ()) [(10, .getTimerLockerByTime "b" 20 false true), (10, .callbackTimer 10)] = some s ∧
        getTimerLockerByTime 10 told s.manager "a" 33 false false = some (none, M', []) ∧
        (∀ x ∈ held s.manager.timers, x.2.name ≠ "a") ∧
        held M'.timers = [(10, { id := 0, name := "b", period := 20, periodCount := 10 })] :=
    ⟨_, _, rfl, rfl, by decide, rfl⟩
  exact ⟨s, M', ran, failed,
    (failed_request_unchanged_iff told () _ s ran 10 "a" 33 false false M' [] failed).2 others, counted⟩

/-- A locker of 20 ms that is asked for with 33 ms when there is no timer for the new list: it is gone. -/
theorem failed_request_loses_locker : ∃ s M', run (stepAt told) (initial ()) [(10, .getTimerLockerByTime "a" 20 false true)] =
      some s ∧
    getTimerLockerByTime 10 told s.manager "a" 33 false false = some (none, M', [.wakeUp 0]) ∧
    held s.manager.timers = [(10, { id := 0, name := "a", period := 20 })] ∧ held M'.timers = [] :=
  ⟨_, _, rfl, rfl, rfl, rfl⟩

/-! ## What clients see -/

/-- The lists without counts and timers. -/
def erase (ts : List (Nat × CTimerLockerList)) : List (Nat × List CTimerLocker) :=
  ts.map fun x => (x.1, x.2.lockers.map Locker.toCTimerLocker)

def Manager.erase (M : Manager W) : CTimerLockerManager where
  timers := TimerLists.erase M.timers
  nextId := M.nextId

section Erase

variable {timerEx : TimerEx W A} {M M' : Manager W} {name : String}

theorem erase_deleteItem (name : String) (ts : List (Nat × CTimerLockerList)) :
    CTimerLockerManager.deleteItem name (erase ts) = (erase (deleteFrom name ts).1, (deleteFrom name ts).2.isSome) := by
  induction ts with
  | nil => rfl
  | cons t rest ih =>
    obtain ⟨k, list⟩ := t
    rw [erase, List.map_cons, ← erase, CTimerLockerManager.deleteItem]
    cases found : list.deleteItem name with
    | none =>
      have absent : (list.lockers.map Locker.toCTimerLocker).any (·.name = name) = false := by
        rw [List.any_map, List.any_eq_false]
        intro item mem
        simpa using deleteItem_eq_none found item mem
      simp only [absent, Bool.false_eq_true, if_false, ih, deleteFrom, found]
      rfl
    | some r =>
      obtain ⟨item, left⟩ := r
      obtain ⟨x, first, same⟩ := Option.map_eq_some_iff.1 found
      cases same
      have present : (list.lockers.map Locker.toCTimerLocker).any (·.name = name) = true := by
        rw [List.any_map, List.any_eq_true]
        exact ⟨item, List.mem_of_find?_eq_some first, List.find?_some first⟩
      have erased : (list.lockers.map Locker.toCTimerLocker).eraseP (·.name = name) =
          (list.lockers.eraseP (·.name = name)).map Locker.toCTimerLocker := by
        rw [List.eraseP_map]
        rfl
      simp only [present, if_true, erased, deleteFrom, found, List.isEmpty_map, Option.isSome_some]
      split <;> rfl

theorem erase_deleteTimerLocker (timerEx : TimerEx W A) (M : Manager W) (name : String) :
    M.erase.deleteTimerLocker name =
      ((deleteTimerLocker timerEx M name).2.1.erase, (deleteTimerLocker timerEx M name).1) := by
  have loop := erase_deleteItem name M.timers
  rw [CTimerLockerManager.deleteTimerLocker, Manager.erase, loop, deleteTimerLocker]
  rcases deleteFrom_cases name M.timers with ⟨same, -⟩ | ⟨ts', k, item, left, before, after, pre, post, same, -⟩
  · rw [same]
    rfl
  · rw [same]
    rfl

theorem erase_insert (ms : Nat) (list : CTimerLockerList) (empty : list.lockers = []) (ts : List (Nat × CTimerLockerList)) :
    CTimerLockerManager.insertTimer ms (erase ts) = erase (KeyedList.insert ms list ts) := by
  induction ts with
  | nil => simp [erase, CTimerLockerManager.insertTimer, KeyedList.insert, empty]
  | cons t rest ih =>
    rw [erase, List.map_cons, ← erase, CTimerLockerManager.insertTimer, KeyedList.insert]
    split
    · simp [erase, empty]
    · rw [ih]
      rfl

theorem erase_modify (ms : Nat) (item : Locker) (ts : List (Nat × CTimerLockerList)) :
    CTimerLockerManager.addItem ms item.toCTimerLocker (erase ts) = erase (KeyedList.modify ms (.addItem item) ts) := by
  induction ts with
  | nil => rfl
  | cons t rest ih =>
    rw [erase, List.map_cons, ← erase, CTimerLockerManager.addItem, KeyedList.modify]
    split
    · simp [erase, CTimerLockerList.addItem]
    · rw [ih]
      rfl

theorem any_erase (ms : Nat) (ts : List (Nat × CTimerLockerList)) :
    (erase ts).any (·.1 = ms) = (KeyedList.find ms ts).isSome := by
  rw [erase, List.any_map, KeyedList.find, Option.isSome_map, Bool.eq_iff_iff, List.any_eq_true, List.find?_isSome]
  rfl

/-- A request is one of the clients' manager, where the timer is created or not. -/
theorem erase_getTimerLockerByTime {ms : Int} {callback : Bool} {answer : A} {r : Option Nat} {events : List Event}
    (timed : ∀ x ∈ M.timers, x.2.timerId ≠ -1)
    (h : getTimerLockerByTime CTimerLockerManager.timerMinResolution timerEx M name ms callback answer =
      some (r, M', events)) :
    ∃ created, M.erase.getTimerLockerByTime name ms created = (r, M'.erase) := by
  obtain ⟨-, req, -⟩ := getTimerLockerByTime_cases h
  have key (period : Nat) : CTimerLockerManager.getDivisor period = getDivisor CTimerLockerManager.timerMinResolution period :=
    rfl
  simp only [CTimerLockerManager.getTimerLockerByTime, erase_deleteTimerLocker timerEx, key]
  rw [← effective]
  have timed' : ∀ x ∈ (deleteTimerLocker timerEx M name).2.1.timers, x.2.timerId ≠ -1 := by
    rcases deleteTimerLocker_taken timerEx M name with
      ⟨-, same⟩ | ⟨k, item, left, before, after, pre, post, taken, -, -, -⟩
    · rw [same]
      exact timed
    · intro x mem
      obtain ⟨y, mem', -, -, timer, -⟩ := taken.listsFrom _ mem
      exact timer ▸ timed y mem'
  generalize (deleteTimerLocker timerEx M name).2.1 = M at req timed'
  generalize effective CTimerLockerManager.timerMinResolution ms = period at req ⊢
  have any := any_erase (getDivisor CTimerLockerManager.timerMinResolution period) M.timers
  cases req with
  | found found has =>
    refine ⟨false, ?_⟩
    simp only [CTimerLockerManager.getList, Manager.erase, any, found, Option.isSome_some, if_true]
    rw [← erase_modify]
  | noTimer found has =>
    have same := of_decide_eq_false has
    exact absurd (timed' _ (KeyedList.mem_of_find found)) same
  | created new create =>
    refine ⟨true, ?_⟩
    simp only [CTimerLockerManager.getList, Manager.erase, any, new, Option.isSome_none, Bool.false_eq_true, if_false, if_true]
    rename_i id w
    generalize getDivisor CTimerLockerManager.timerMinResolution period = k at new ⊢
    have added := erase_modify k { id := M.nextId, name, period, callback }
      (KeyedList.insert k { period := k, timerId := id } M.timers)
    rw [KeyedList.modify_insert (KeyedList.find_eq_none.1 new)] at added
    rw [erase_insert k { period := k, timerId := id } rfl, added]
    rfl
  | failed new create fails =>
    refine ⟨false, ?_⟩
    simp only [CTimerLockerManager.getList, Manager.erase, any, new, Option.isSome_none, Bool.false_eq_true, if_false]

end Erase

end CameraEv.TimerLists
