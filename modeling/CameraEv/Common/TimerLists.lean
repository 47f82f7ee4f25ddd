import CameraEv.Common.TimerLockerManager
import CameraEv.Lib.KeyedList
import CameraEv.Lib.Trace

/-!
# `CTimerLockerManager`: lists, timers and ticks

The manager with all that a call reads and changes: the lists behind the keys of
`m_map_timers`, each with its period and its timer, the counts of the lockers,
and the timers of `timer_ex` below. A timer ticks for a key, and the list of that
key counts in all its lockers and wakes those whose period is over. No count
passes its period, so that nothing here leaves the range of `int`.

`held` lists the lockers with the keys of their lists; every operation says what
it does to `held`, and the invariant `Inv` is one about it.
-/

namespace CameraEv.TimerLists

open Trace

/-! ## Lockers and lists -/

/-- A locker with its `m_period_count`, and whether it has a callback. -/
structure Locker extends CTimerLocker where
  periodCount : Nat := 0
  callback : Bool := false
  deriving DecidableEq

inductive Event where
  | wakeUp (id : Nat)
  | callback (id : Nat)
  deriving DecidableEq

/-- `CTimerLockerManager::CTimerLockerList`. -/
structure CTimerLockerList where
  period : Nat
  timerId : Int := -1
  lockers : List Locker := []
  deriving DecidableEq

/-- The functions of `timer_ex` over the state `W` of the timers, with the answers `A` of the system. -/
structure TimerEx (W A : Type) where
  /-- `CreateTimer`: what it returns, the id behind the reference and the timers. Nothing, where it has no meaning. -/
  createTimer : A → Nat → W → Option (Int × Int × W)
  deleteTimer : Int → W → W
  finalizeTimer : W → W
  /-- A timer that was created has an id. -/
  hasTimer : ∀ {answer ms w id w'}, createTimer answer ms w = some (0, id, w') → id ≠ -1

namespace CTimerLockerList

variable {W A : Type}

def finalize (timerEx : TimerEx W A) (list : CTimerLockerList) (w : W) : W := timerEx.deleteTimer list.timerId w

/-- The destructor, which calls `Finalize`, after it or not. -/
def destructor (timerEx : TimerEx W A) (list : CTimerLockerList) (w : W) : W := list.finalize timerEx w

def hasTimer (list : CTimerLockerList) : Bool := list.timerId ≠ -1

def addItem (item : Locker) (list : CTimerLockerList) : CTimerLockerList :=
  { list with lockers := list.lockers ++ [item] }

/-- The first locker of the name is woken and goes. -/
def deleteItem (list : CTimerLockerList) (name : String) : Option (Locker × CTimerLockerList) :=
  (list.lockers.find? (·.name = name)).map fun item =>
    (item, { list with lockers := list.lockers.eraseP (·.name = name) })

end CTimerLockerList

/-- The body of the loop of `SendEvent`. -/
def Locker.sendEvent (period : Nat) (item : Locker) : Locker × List Event :=
  let count := item.periodCount + period
  if item.period ≤ count then
    ({ item with periodCount := 0 }, .wakeUp item.id :: if item.callback then [.callback item.id] else [])
  else ({ item with periodCount := count }, [])

def CTimerLockerList.sendEvent (list : CTimerLockerList) : CTimerLockerList × List Event :=
  ({ list with lockers := list.lockers.map fun item => (item.sendEvent list.period).1 },
    list.lockers.flatMap fun item => (item.sendEvent list.period).2)

/-! ## The manager -/

structure Manager (W : Type) where
  /-- `m_map_timers`. -/
  timers : List (Nat × CTimerLockerList) := []
  nextId : Nat := 0
  timerEx : W

/-- The smallest divisor of `ms` from the minimal resolution `m` on. -/
def getDivisor (m ms : Nat) : Nat := ((List.range' m (ms + 1 - m)).find? fun ii => ms % ii = 0).getD m

/-- The loop of `DeleteTimerLocker`: the lists that are left, the locker that is gone and what is left of its list. -/
def deleteFrom (name : String) : List (Nat × CTimerLockerList) →
    List (Nat × CTimerLockerList) × Option (Locker × CTimerLockerList)
  | [] => ([], none)
  | (ms, list) :: rest =>
    match list.deleteItem name with
    | some (item, left) => (if left.lockers.isEmpty then rest else (ms, left) :: rest, some (item, left))
    | none => ((ms, list) :: (deleteFrom name rest).1, (deleteFrom name rest).2)

section Operations

variable {W A : Type} (m : Nat) (timerEx : TimerEx W A) (M : Manager W)

/-- A list without lockers is finalized and then destroyed. -/
def deleteTimerLocker (name : String) : Bool × Manager W × List Event :=
  match deleteFrom name M.timers with
  | (_, none) => (false, M, [])
  | (timers, some (item, left)) =>
    let w := if left.lockers.isEmpty then left.destructor timerEx (left.finalize timerEx M.timerEx) else M.timerEx
    (true, { M with timers, timerEx := w }, [.wakeUp item.id])

def getList (ms : Nat) (answer : A) : Option (Option CTimerLockerList × Manager W) :=
  match KeyedList.find ms M.timers with
  | some list => some (some list, M)
  | none =>
    match timerEx.createTimer answer ms M.timerEx with
    | none => none
    | some (ret, id, w) =>
      let list : CTimerLockerList := { period := ms, timerId := id }
      if ret ≠ 0 then some (none, { M with timerEx := list.destructor timerEx w })
      else some (some list, { M with timers := KeyedList.insert ms list M.timers, timerEx := w })

/-- The pointer that is returned, the manager and the events. A minimal resolution of 0 is divided by. -/
def getTimerLockerByTime (name : String) (ms : Int) (callback : Bool) (answer : A) :
    Option (Option Nat × Manager W × List Event) :=
  let period := if ms < m then m else ms.toNat
  let (_, M, events) := deleteTimerLocker timerEx M name
  if m = 0 then none
  else
    match getList timerEx M (getDivisor m period) answer with
    | none => none
    | some (none, M) => some (none, M, events)
    | some (some list, M) =>
      if list.hasTimer then
        let item : Locker := { id := M.nextId, name, period, callback }
        let timers := KeyedList.modify (getDivisor m period) (.addItem item) M.timers
        some (some M.nextId, { M with timers, nextId := M.nextId + 1 }, events)
      else some (none, M, events)

def getTimerLockerByFps (name : String) (fps : Int) (callback : Bool) (answer : A) :
    Option (Option Nat × Manager W × List Event) :=
  if fps = 0 then some (none, M, []) else getTimerLockerByTime m timerEx M name (Int.tdiv 1000 fps) callback answer

/-- The tick of the timer of the key `ms`. -/
def callbackTimer (ms : Nat) : Manager W × List Event :=
  match KeyedList.find ms M.timers with
  | none => (M, [])
  | some list =>
    ({ M with timers := KeyedList.modify ms (fun list => list.sendEvent.1) M.timers }, list.sendEvent.2)

/-- The destructors of the static objects: the lists of the manager, then `CTimerInstance`. -/
def destructor : Manager W :=
  let w := M.timers.foldl (fun w x => x.2.destructor timerEx w) M.timerEx
  { M with timers := [], timerEx := timerEx.finalizeTimer w }

end Operations

/-! ## Runs -/

inductive Act (A : Type) where
  | getTimerLockerByTime (name : String) (ms : Int) (callback : Bool) (answer : A)
  | getTimerLockerByFps (name : String) (fps : Int) (callback : Bool) (answer : A)
  | deleteTimerLocker (name : String)
  /-- The overload for a pointer. -/
  | deletePointer (id : Nat)
  | callbackTimer (ms : Nat)
  | exit

inductive Result where
  | void
  | pointer (id : Option Nat)
  | deleted (ret : Bool)
  deriving DecidableEq

/-- The manager, with the result and the events of the last operation. -/
structure State (W : Type) where
  manager : Manager W
  result : Result := .void
  events : List Event := []

/-- The lockers that the manager owns, with the keys of their lists. -/
def held (timers : List (Nat × CTimerLockerList)) : List (Nat × Locker) :=
  timers.flatMap fun x => x.2.lockers.map fun item => (x.1, item)

variable {W A : Type}

/-- A pointer to a locker that is gone is not to be used. -/
def step (m : Nat) (timerEx : TimerEx W A) (s : State W) : Act A → Option (State W)
  | .getTimerLockerByTime name ms callback answer =>
    (getTimerLockerByTime m timerEx s.manager name ms callback answer).map fun r => ⟨r.2.1, .pointer r.1, r.2.2⟩
  | .getTimerLockerByFps name fps callback answer =>
    (getTimerLockerByFps m timerEx s.manager name fps callback answer).map fun r => ⟨r.2.1, .pointer r.1, r.2.2⟩
  | .deleteTimerLocker name =>
    let r := deleteTimerLocker timerEx s.manager name
    some ⟨r.2.1, .deleted r.1, r.2.2⟩
  | .deletePointer id =>
    ((held s.manager.timers).find? fun x => x.2.id = id).map fun x =>
      let r := deleteTimerLocker timerEx s.manager x.2.name
      ⟨r.2.1, .deleted r.1, r.2.2⟩
  | .callbackTimer ms =>
    let r := callbackTimer s.manager ms
    some ⟨r.1, .void, r.2⟩
  | .exit => some ⟨destructor timerEx s.manager, .void, []⟩

/-- An operation, with the minimal resolution that is set when it runs. -/
def stepAt (timerEx : TimerEx W A) (s : State W) (l : Nat × Act A) : Option (State W) := step l.1 timerEx s l.2

def initial (w : W) : State W := { manager := { timerEx := w } }

/-- A timer that is created or not, as the answer says. -/
def createTold (answer : Bool) : Option (Int × Int × Unit) := some (if answer then (0, 0, ()) else (1, -1, ()))

theorem createTold_hasTimer {answer : Bool} {id : Int} {w : Unit} (h : createTold answer = some (0, id, w)) : id ≠ -1 := by
  cases answer with
  | true =>
    cases h
    decide
  | false => cases h

def told : TimerEx Unit Bool where
  createTimer answer _ _ := createTold answer
  deleteTimer _ _ := ()
  finalizeTimer _ := ()
  hasTimer h := createTold_hasTimer h

/-! ## What the operations do to the held lockers -/

section Held

variable {name : String} {ts : List (Nat × CTimerLockerList)}

theorem mem_held {ts : List (Nat × CTimerLockerList)} {k : Nat} {item : Locker} :
    (k, item) ∈ held ts ↔ ∃ list, (k, list) ∈ ts ∧ item ∈ list.lockers := by
  simp only [held, List.mem_flatMap, List.mem_map, Prod.mk.injEq, Prod.exists]
  constructor
  · rintro ⟨k', list, mem, item', mem', rfl, rfl⟩
    exact ⟨list, mem, mem'⟩
  · rintro ⟨list, mem, mem'⟩
    exact ⟨k, list, mem, item, mem', rfl, rfl⟩

theorem held_append (ts us : List (Nat × CTimerLockerList)) : held (ts ++ us) = held ts ++ held us :=
  List.flatMap_append

theorem held_cons (k : Nat) (list : CTimerLockerList) :
    held ((k, list) :: ts) = list.lockers.map (fun item => (k, item)) ++ held ts := List.flatMap_cons

/-- The locker that `DeleteItem` takes out is the first one of its name. -/
theorem deleteItem_eq_some {list left : CTimerLockerList} {item : Locker} (h : list.deleteItem name = some (item, left)) :
    item.name = name ∧ ∃ pre post, list.lockers = pre ++ item :: post ∧ (∀ x ∈ pre, x.name ≠ name) ∧
      left = { list with lockers := pre ++ post } := by
  obtain ⟨x, found, same⟩ := Option.map_eq_some_iff.1 h
  cases same
  obtain ⟨named, pre, post, lockers, before⟩ := List.find?_eq_some_iff_append.1 found
  refine ⟨by simpa using named, pre, post, lockers, fun x mem => by simpa using before x mem, ?_⟩
  rw [lockers, List.eraseP_append_right _ fun x mem => by simpa using before x mem,
    List.eraseP_cons_of_pos (by simpa using named)]

theorem deleteItem_eq_none {list : CTimerLockerList} (h : list.deleteItem name = none) :
    ∀ item ∈ list.lockers, item.name ≠ name := by
  have absent := List.find?_eq_none.1 (Option.map_eq_none_iff.1 h)
  exact fun item mem => by simpa using absent item mem

/-- The lists of `ts'` are lists of `ts`, with other lockers in them, but some where there were some. -/
def ListsFrom (ts ts' : List (Nat × CTimerLockerList)) : Prop :=
  ∀ x ∈ ts', ∃ y ∈ ts, y.1 = x.1 ∧ y.2.period = x.2.period ∧ y.2.timerId = x.2.timerId ∧
    (y.2.lockers ≠ [] → x.2.lockers ≠ [])

theorem ListsFrom.modify (sorted : KeyedList.Sorted ts) (k : Nat) {f : CTimerLockerList → CTimerLockerList}
    (keeps : ∀ list, (f list).period = list.period ∧ (f list).timerId = list.timerId ∧
      (list.lockers ≠ [] → (f list).lockers ≠ [])) : ListsFrom ts (KeyedList.modify k f ts) := by
  intro x mem
  obtain ⟨y, mem', same⟩ := (KeyedList.mem_modify sorted).1 mem
  refine ⟨y, mem', ?_⟩
  split at same
  · subst same
    obtain ⟨period, timer, some⟩ := keeps y.2
    exact ⟨rfl, period.symm, timer.symm, some⟩
  · subst same
    exact ⟨rfl, rfl, rfl, fun some => some⟩

/-- What is left of a list: nothing, when it has no lockers any more. -/
def remaining (k : Nat) (left : CTimerLockerList) : List (Nat × CTimerLockerList) :=
  if left.lockers.isEmpty then [] else [(k, left)]

/-- The locker `item` of `name` is taken out of the list behind `k`, and `left` is what stays there. -/
structure Taken (name : String) (ts ts' : List (Nat × CTimerLockerList)) (k : Nat) (item : Locker)
    (left : CTimerLockerList) (before after : List (Nat × CTimerLockerList)) (pre post : List Locker) : Prop where
  lists : ts = before ++ (k, { left with lockers := pre ++ item :: post }) :: after
  stay : left.lockers = pre ++ post
  named : item.name = name
  earlier : ∀ x ∈ held before, x.2.name ≠ name
  earlier' : ∀ x ∈ pre, x.name ≠ name
  rest : ts' = before ++ (remaining k left ++ after)

/-- The loop finds no locker of the name, or it takes out the first. -/
theorem deleteFrom_cases (name : String) (ts : List (Nat × CTimerLockerList)) :
    deleteFrom name ts = (ts, none) ∧ (∀ x ∈ held ts, x.2.name ≠ name) ∨
      ∃ ts' k item left before after pre post, deleteFrom name ts = (ts', some (item, left)) ∧
        Taken name ts ts' k item left before after pre post := by
  induction ts with
  | nil => exact .inl ⟨rfl, fun x mem => by cases mem⟩
  | cons t rest ih =>
    obtain ⟨k, list⟩ := t
    cases found : list.deleteItem name with
    | some r =>
      obtain ⟨item, left⟩ := r
      obtain ⟨named, pre, post, lockers, before, rfl⟩ := deleteItem_eq_some found
      refine .inr ⟨_, k, item, { list with lockers := pre ++ post }, [], rest, pre, post, ?_, ?_, rfl, named,
        (fun x mem => by cases mem), before, rfl⟩
      · simp only [deleteFrom, found, List.nil_append, remaining]
        split <;> rfl
      · rw [List.nil_append, ← lockers]
    | none =>
      have absent : ∀ x ∈ list.lockers.map fun item => (k, item), x.2.name ≠ name := by
        intro x mem
        obtain ⟨item, mem', rfl⟩ := List.mem_map.1 mem
        exact deleteItem_eq_none found item mem'
      rcases ih with ⟨same, none⟩ | ⟨ts', k', item, left, before, after, pre, post, same, taken⟩
      · refine .inl ⟨by simp only [deleteFrom, found, same], fun x mem => ?_⟩
        rw [held_cons] at mem
        exact (List.mem_append.1 mem).elim (absent x) (none x)
      · refine .inr ⟨_, k', item, left, (k, list) :: before, after, pre, post, by simp only [deleteFrom, found, same]; rfl,
          by rw [taken.lists]; rfl, taken.stay, taken.named, fun x mem => ?_, taken.earlier', by rw [taken.rest]; rfl⟩
        rw [held_cons] at mem
        exact (List.mem_append.1 mem).elim (absent x) (taken.earlier x)

namespace Taken

variable {ts' before after : List (Nat × CTimerLockerList)} {k : Nat} {item : Locker} {left : CTimerLockerList}
  {pre post : List Locker} (taken : Taken name ts ts' k item left before after pre post)

include taken

theorem held_eq : held ts = held before ++ (pre.map fun x => (k, x)) ++ (k, item) ::
    ((post.map fun x => (k, x)) ++ held after) := by
  rw [taken.lists, held_append, held_cons]
  simp only [List.map_append, List.map_cons, List.append_assoc, List.cons_append]

omit taken in
theorem held_remaining : held (remaining k left) = left.lockers.map fun x => (k, x) := by
  unfold remaining
  split
  · rename_i empty
    rw [List.isEmpty_iff.1 empty]
    rfl
  · simp [held]

theorem held_eq' : held ts' = held before ++ (pre.map fun x => (k, x)) ++
    ((post.map fun x => (k, x)) ++ held after) := by
  rw [taken.rest, held_append, held_append, held_remaining, taken.stay]
  simp only [List.map_append, List.append_assoc]

theorem mem : (k, item) ∈ held ts := by
  rw [taken.held_eq]
  exact List.mem_append_right _ List.mem_cons_self

/-- Of the held lockers, the first of the name goes. -/
theorem held_eraseP : held ts' = (held ts).eraseP (·.2.name = name) := by
  rw [taken.held_eq, taken.held_eq', List.eraseP_append_right, List.eraseP_cons_of_pos]
  · simpa using taken.named
  · intro x mem
    rcases List.mem_append.1 mem with mem | mem
    · simpa using taken.earlier x mem
    · obtain ⟨y, mem', rfl⟩ := List.mem_map.1 mem
      simpa using taken.earlier' y mem'

theorem listsFrom : ListsFrom ts ts' := by
  intro x mem
  rw [taken.rest] at mem
  rw [taken.lists]
  rcases List.mem_append.1 mem with mem | mem
  · exact ⟨x, List.mem_append_left _ mem, rfl, rfl, rfl, id⟩
  rcases List.mem_append.1 mem with mem | mem
  · unfold remaining at mem
    split at mem
    · cases mem
    · rename_i some
      rw [List.mem_singleton.1 mem]
      exact ⟨_, List.mem_append_right _ List.mem_cons_self, rfl, rfl, rfl, fun _ empty => some (List.isEmpty_iff.2 empty)⟩
  · exact ⟨x, List.mem_append_right _ (List.mem_cons_of_mem _ mem), rfl, rfl, rfl, id⟩

theorem sorted (s : KeyedList.Sorted ts) : KeyedList.Sorted ts' := by
  refine List.Pairwise.sublist ?_ s
  rw [taken.lists, taken.rest]
  simp only [List.map_append, List.map_cons]
  refine (List.Sublist.refl _).append ?_
  unfold remaining
  split
  · exact List.sublist_cons_self _ _
  · exact List.Sublist.refl _

end Taken

end Held

/-! ## One case for each way through an operation -/

section Cases

variable {m : Nat} {timerEx : TimerEx W A} {M M' : Manager W} {name : String}

/-- What a deletion does. -/
inductive Deleted (timerEx : TimerEx W A) (M : Manager W) (name : String) : Bool × Manager W × List Event → Prop
  | absent (none : ∀ x ∈ held M.timers, x.2.name ≠ name) : Deleted timerEx M name (false, M, [])
  | shortened {ts' k item left before after pre post}
      (taken : Taken name M.timers ts' k item left before after pre post) (some : left.lockers.isEmpty = false) :
      Deleted timerEx M name (true, { M with timers := ts' }, [.wakeUp item.id])
  | emptied {ts' k item left before after pre post}
      (taken : Taken name M.timers ts' k item left before after pre post) (empty : left.lockers.isEmpty = true) :
      Deleted timerEx M name (true,
        { M with timers := ts', timerEx := left.destructor timerEx (left.finalize timerEx M.timerEx) }, [.wakeUp item.id])

theorem deleteTimerLocker_cases (timerEx : TimerEx W A) (M : Manager W) (name : String) :
    Deleted timerEx M name (deleteTimerLocker timerEx M name) := by
  rcases deleteFrom_cases name M.timers with ⟨same, none⟩ | ⟨ts', k, item, left, before, after, pre, post, same, taken⟩
  · simp only [deleteTimerLocker, same]
    exact .absent none
  · simp only [deleteTimerLocker, same]
    cases empty : left.lockers.isEmpty with
    | true => exact .emptied taken empty
    | false => exact .shortened taken empty

/-- A deletion without what it does to the timers: nothing is found, or a locker is taken out and woken. -/
theorem deleteTimerLocker_taken (timerEx : TimerEx W A) (M : Manager W) (name : String) :
    (∀ x ∈ held M.timers, x.2.name ≠ name) ∧ deleteTimerLocker timerEx M name = (false, M, []) ∨
      ∃ k item left before after pre post,
        Taken name M.timers (deleteTimerLocker timerEx M name).2.1.timers k item left before after pre post ∧
          (deleteTimerLocker timerEx M name).1 = true ∧ (deleteTimerLocker timerEx M name).2.1.nextId = M.nextId ∧
            (deleteTimerLocker timerEx M name).2.2 = [.wakeUp item.id] := by
  have cases := deleteTimerLocker_cases timerEx M name
  generalize deleteTimerLocker timerEx M name = r at cases ⊢
  cases cases with
  | absent none => exact .inl ⟨none, rfl⟩
  | shortened taken some => exact .inr ⟨_, _, _, _, _, _, _, taken, rfl, rfl, rfl⟩
  | emptied taken empty => exact .inr ⟨_, _, _, _, _, _, _, taken, rfl, rfl, rfl⟩

/-- The period that a request ends up with. -/
def effective (m : Nat) (ms : Int) : Nat := if ms < m then m else ms.toNat

theorem effective_eq (m : Nat) (ms : Int) : effective m ms = (max (m : Int) ms).toNat := by
  unfold effective
  split <;> omega

theorem le_effective (m : Nat) (ms : Int) : m ≤ effective m ms := by
  unfold effective
  split <;> omega

/-- What a request does to the manager `M` that the deletion has left. -/
inductive Requested (m : Nat) (timerEx : TimerEx W A) (M : Manager W) (name : String) (period : Nat) (callback : Bool)
    (answer : A) : Option Nat → Manager W → Prop
  | found {list} (found : KeyedList.find (getDivisor m period) M.timers = some list) (has : list.hasTimer = true) :
      Requested m timerEx M name period callback answer (some M.nextId)
        { M with
          timers := KeyedList.modify (getDivisor m period) (.addItem { id := M.nextId, name, period, callback }) M.timers
          nextId := M.nextId + 1 }
  | created {id w} (new : KeyedList.find (getDivisor m period) M.timers = none)
      (create : timerEx.createTimer answer (getDivisor m period) M.timerEx = some (0, id, w)) :
      Requested m timerEx M name period callback answer (some M.nextId)
        { timers := KeyedList.insert (getDivisor m period)
            { period := getDivisor m period, timerId := id, lockers := [{ id := M.nextId, name, period, callback }] } M.timers
          nextId := M.nextId + 1
          timerEx := w }
  | noTimer {list} (found : KeyedList.find (getDivisor m period) M.timers = some list) (has : list.hasTimer = false) :
      Requested m timerEx M name period callback answer none M
  | failed {ret id w} (new : KeyedList.find (getDivisor m period) M.timers = none)
      (create : timerEx.createTimer answer (getDivisor m period) M.timerEx = some (ret, id, w)) (fails : ret ≠ 0) :
      Requested m timerEx M name period callback answer none { M with timerEx := timerEx.deleteTimer id w }

theorem getTimerLockerByTime_cases {ms : Int} {callback : Bool} {answer : A} {r : Option Nat} {events : List Event}
    (h : getTimerLockerByTime m timerEx M name ms callback answer = some (r, M', events)) :
    1 ≤ m ∧ Requested m timerEx (deleteTimerLocker timerEx M name).2.1 name (effective m ms) callback answer r M' ∧
      events = (deleteTimerLocker timerEx M name).2.2 := by
  simp only [getTimerLockerByTime, getList] at h
  rw [← effective] at h
  split at h
  · cases h
  rename_i positive
  refine ⟨Nat.one_le_iff_ne_zero.2 positive, ?_⟩
  generalize (deleteTimerLocker timerEx M name).2.1 = M at h ⊢
  cases find : KeyedList.find (getDivisor m (effective m ms)) M.timers with
  | some list =>
    simp only [find] at h
    cases has : list.hasTimer with
    | true =>
      simp only [has, if_true] at h
      cases h
      exact ⟨.found find has, rfl⟩
    | false =>
      simp only [has, Bool.false_eq_true, if_false] at h
      cases h
      exact ⟨.noTimer find has, rfl⟩
  | none =>
    simp only [find] at h
    cases create : timerEx.createTimer answer (getDivisor m (effective m ms)) M.timerEx with
    | none =>
      simp only [create] at h
      cases h
    | some x =>
      obtain ⟨ret, id, w⟩ := x
      simp only [create] at h
      by_cases fails : ret ≠ 0
      · simp only [if_pos fails] at h
        cases h
        exact ⟨.failed find create fails, rfl⟩
      · rw [not_not] at fails
        subst fails
        have has : CTimerLockerList.hasTimer { period := getDivisor m (effective m ms), timerId := id } = true :=
          decide_eq_true (timerEx.hasTimer create)
        simp only [ne_eq, not_true_eq_false, if_false, has, if_true,
          KeyedList.modify_insert (KeyedList.find_eq_none.1 find)] at h
        cases h
        exact ⟨.created find create, rfl⟩

end Cases

/-! ## The key of a period -/

section Divisor

variable {m ms : Nat}

theorem getDivisor_spec (le : m ≤ ms) :
    getDivisor m ms ∣ ms ∧ m ≤ getDivisor m ms ∧ ∀ d, m ≤ d → d ∣ ms → getDivisor m ms ≤ d := by
  unfold getDivisor
  cases found : (List.range' m (ms + 1 - m)).find? fun ii => ms % ii = 0 with
  | none =>
    have self := List.find?_range'_eq_none.1 found ms le (by omega)
    simp only [Nat.mod_self, decide_true, Bool.not_true, Bool.false_eq_true] at self
  | some ii =>
    obtain ⟨divides, mem, least⟩ := List.find?_range'_eq_some.1 found
    refine ⟨Nat.dvd_of_mod_eq_zero (of_decide_eq_true divides), (List.mem_range'_1.1 mem).1, fun d above hd => ?_⟩
    by_contra smaller
    have not := least d above (not_le.1 smaller)
    simp only [Nat.mod_eq_zero_of_dvd hd, decide_true, Bool.not_true, Bool.false_eq_true] at not

end Divisor

/-! ## The invariant -/

/-- What the lists keep, whatever the minimal resolution. -/
structure Inv (ts : List (Nat × CTimerLockerList)) (nextId : Nat) : Prop where
  sorted : KeyedList.Sorted ts
  nonempty : ∀ x ∈ ts, x.2.lockers ≠ []
  keyed : ∀ x ∈ ts, x.2.period = x.1
  hasTimer : ∀ x ∈ ts, x.2.timerId ≠ -1
  names : ((held ts).map fun x => x.2.name).Nodup
  ids : ((held ts).map fun x => x.2.id).Nodup
  fresh : ∀ x ∈ held ts, x.2.id < nextId

/-- Under one minimal resolution a locker is in the list of its divisor, and its count has not reached its period. -/
def Counted (m : Nat) (ts : List (Nat × CTimerLockerList)) : Prop :=
  ∀ x ∈ held ts, m ≤ x.2.period ∧ x.1 = getDivisor m x.2.period ∧ x.1 ∣ x.2.periodCount ∧ x.2.periodCount < x.2.period

theorem inv_nil (nextId : Nat) : Inv [] nextId where
  sorted := KeyedList.sorted_nil
  nonempty x mem := by cases mem
  keyed x mem := by cases mem
  hasTimer x mem := by cases mem
  names := List.nodup_nil
  ids := List.nodup_nil
  fresh x mem := by cases mem

namespace Inv

variable {nextId : Nat} {ts ts' : List (Nat × CTimerLockerList)} {name : String} {timerEx : TimerEx W A} {M M' : Manager W}

/-- A name is one locker. -/
theorem eq_of_name (inv : Inv ts nextId) {x y : Nat × Locker} (hx : x ∈ held ts) (hy : y ∈ held ts)
    (same : x.2.name = y.2.name) : x = y := List.inj_on_of_nodup_map inv.names hx hy same

theorem eq_of_id (inv : Inv ts nextId) {x y : Nat × Locker} (hx : x ∈ held ts) (hy : y ∈ held ts)
    (same : x.2.id = y.2.id) : x = y := List.inj_on_of_nodup_map inv.ids hx hy same

/-- What the lists themselves keep. -/
theorem lists (inv : Inv ts nextId) (same : ListsFrom ts ts') :
    (∀ x ∈ ts', x.2.lockers ≠ []) ∧ (∀ x ∈ ts', x.2.period = x.1) ∧ ∀ x ∈ ts', x.2.timerId ≠ -1 := by
  refine ⟨fun x mem => ?_, fun x mem => ?_, fun x mem => ?_⟩
  · obtain ⟨y, mem', -, -, -, some⟩ := same x mem
    exact some (inv.nonempty y mem')
  · obtain ⟨y, mem', key, period, -, -⟩ := same x mem
    rw [← key, ← period]
    exact inv.keyed y mem'
  · obtain ⟨y, mem', -, -, timer, -⟩ := same x mem
    rw [← timer]
    exact inv.hasTimer y mem'

theorem taken (inv : Inv ts nextId) {k item left before after pre post}
    (taken : Taken name ts ts' k item left before after pre post) : Inv ts' nextId := by
  have fewer : (held ts').Sublist (held ts) := by
    rw [taken.held_eraseP]
    exact List.eraseP_sublist
  obtain ⟨nonempty, keyed, hasTimer⟩ := inv.lists taken.listsFrom
  exact
    { sorted := taken.sorted inv.sorted
      nonempty := nonempty
      keyed := keyed
      hasTimer := hasTimer
      names := inv.names.sublist (fewer.map _)
      ids := inv.ids.sublist (fewer.map _)
      fresh := fun x mem => inv.fresh x (fewer.subset mem) }

/-- What a deletion leaves, and that the name is gone. -/
theorem deleted (inv : Inv M.timers M.nextId) (name : String) :
    Inv (deleteTimerLocker timerEx M name).2.1.timers (deleteTimerLocker timerEx M name).2.1.nextId ∧
      held (deleteTimerLocker timerEx M name).2.1.timers = (held M.timers).filter fun x => x.2.name ≠ name := by
  rcases deleteTimerLocker_taken timerEx M name with
    ⟨none, same⟩ | ⟨k, item, left, before, after, pre, post, taken, -, next, -⟩
  · rw [same]
    exact ⟨inv, (List.filter_eq_self.2 fun x mem => decide_eq_true (none x mem)).symm⟩
  rw [next]
  refine ⟨inv.taken taken, ?_⟩
  have names := inv.names
  rw [taken.held_eq] at names ⊢
  simp only [List.map_append, List.map_cons] at names
  obtain ⟨-, tail, apart⟩ := List.nodup_append.1 names
  have kept : ∀ x ∈ held before ++ pre.map fun x => (k, x), decide (x.2.name ≠ name) = true := by
    intro x mem
    have ne := apart x.2.name (by rw [← List.map_append]; exact List.mem_map_of_mem mem) item.name List.mem_cons_self
    rw [taken.named] at ne
    exact decide_eq_true ne
  have kept' : ∀ x ∈ (post.map fun x => (k, x)) ++ held after, decide (x.2.name ≠ name) = true := by
    intro x mem
    refine decide_eq_true fun same => (List.nodup_cons.1 tail).1 ?_
    rw [taken.named, ← same, ← List.map_append]
    exact List.mem_map_of_mem mem
  rw [List.filter_append, List.filter_eq_self.2 kept, List.filter_cons_of_neg (by simpa using taken.named),
    List.filter_eq_self.2 kept', taken.held_eq']

/-- One locker more, of a new name. -/
theorem add (inv : Inv ts nextId) {k : Nat} {item : Locker} (perm : (held ts').Perm ((k, item) :: held ts))
    (sorted : KeyedList.Sorted ts') (nonempty : ∀ x ∈ ts', x.2.lockers ≠ [])
    (keyed : ∀ x ∈ ts', x.2.period = x.1) (hasTimer : ∀ x ∈ ts', x.2.timerId ≠ -1)
    (new : ∀ x ∈ held ts, x.2.name ≠ item.name) (id : item.id = nextId) :
    Inv ts' (nextId + 1) where
  sorted := sorted
  nonempty := nonempty
  keyed := keyed
  hasTimer := hasTimer
  names := by
    rw [(perm.map _).nodup_iff, List.map_cons, List.nodup_cons]
    refine ⟨fun mem => ?_, inv.names⟩
    obtain ⟨x, mem, same⟩ := List.mem_map.1 mem
    exact new x mem same
  ids := by
    rw [(perm.map _).nodup_iff, List.map_cons, List.nodup_cons]
    refine ⟨fun mem => ?_, inv.ids⟩
    obtain ⟨x, mem, same⟩ := List.mem_map.1 mem
    exact (inv.fresh x mem).ne (same.trans id)
  fresh x mem := by
    rcases List.mem_cons.1 (perm.mem_iff.1 mem) with rfl | mem
    · exact id ▸ Nat.lt_succ_self _
    · exact (inv.fresh x mem).trans (Nat.lt_succ_self _)
end Inv

/-- The locker that a request makes, with its key. -/
def requested (m nextId : Nat) (name : String) (period : Nat) (callback : Bool) : Nat × Locker :=
  (getDivisor m period, { id := nextId, name, period, callback })

section Preserved

variable {m : Nat} {name : String} {timerEx : TimerEx W A} {M M' : Manager W} {period : Nat} {callback : Bool} {answer : A}

theorem hasTimer_of_mem (inv : Inv M.timers M.nextId) {k : Nat} {list : CTimerLockerList} (mem : (k, list) ∈ M.timers) :
    list.hasTimer = true := decide_eq_true (inv.hasTimer _ mem)

/-- A request behind the deletion adds one locker, or no timer could be had. -/
theorem Requested.inv {r : Option Nat} (req : Requested m timerEx M name period callback answer r M')
    (inv : Inv M.timers M.nextId) (new : ∀ x ∈ held M.timers, x.2.name ≠ name) :
    Inv M'.timers M'.nextId ∧
      (r = none ∧ M'.timers = M.timers ∧ M'.nextId = M.nextId ∨
        r = some M.nextId ∧ M'.nextId = M.nextId + 1 ∧
          (held M'.timers).Perm (requested m M.nextId name period callback :: held M.timers)) := by
  cases req with
  | noTimer found has =>
    rw [hasTimer_of_mem inv (KeyedList.mem_of_find found)] at has
    cases has
  | failed new' create fails => exact ⟨inv, .inl ⟨rfl, rfl, rfl⟩⟩
  | found found has =>
    rename_i list
    obtain ⟨before, after, lists, modified⟩ := KeyedList.modify_split inv.sorted (KeyedList.mem_of_find found)
    have perm : (held (KeyedList.modify (getDivisor m period)
        (.addItem { id := M.nextId, name, period, callback }) M.timers)).Perm
        (requested m M.nextId name period callback :: held M.timers) := by
      rw [modified, lists]
      simp only [held_append, held_cons, CTimerLockerList.addItem, List.map_append, List.map_cons, List.map_nil,
        List.append_assoc, List.singleton_append]
      rw [← List.append_assoc, ← List.append_assoc (held before)]
      exact List.perm_middle
    have same : ListsFrom M.timers (KeyedList.modify (getDivisor m period)
        (.addItem { id := M.nextId, name, period, callback }) M.timers) :=
      ListsFrom.modify inv.sorted (getDivisor m period) fun list =>
        ⟨rfl, rfl, fun _ => List.append_ne_nil_of_right_ne_nil list.lockers (List.cons_ne_nil _ _)⟩
    obtain ⟨nonempty, keyed, hasTimer⟩ := inv.lists same
    exact ⟨inv.add perm (KeyedList.sorted_modify inv.sorted _) nonempty keyed hasTimer new rfl, .inr ⟨rfl, rfl, perm⟩⟩
  | created new' create =>
    rename_i id w
    have perm : (held (KeyedList.insert (getDivisor m period)
        { period := getDivisor m period, timerId := id, lockers := [{ id := M.nextId, name, period, callback }] }
        M.timers)).Perm (requested m M.nextId name period callback :: held M.timers) :=
      (KeyedList.insert_perm _ _ _).flatMap_right _
    refine ⟨inv.add perm (KeyedList.sorted_insert inv.sorted (KeyedList.find_eq_none.1 new')) ?_ ?_ ?_ new rfl,
      .inr ⟨rfl, rfl, perm⟩⟩
    · intro x mem
      rcases KeyedList.mem_insert.1 mem with rfl | mem
      · exact List.cons_ne_nil _ _
      · exact inv.nonempty x mem
    · intro x mem
      rcases KeyedList.mem_insert.1 mem with rfl | mem
      · rfl
      · exact inv.keyed x mem
    · intro x mem
      rcases KeyedList.mem_insert.1 mem with rfl | mem
      · exact timerEx.hasTimer create
      · exact inv.hasTimer x mem

/-- What a tick of the key `ms` makes of a held locker. -/
def ticked (ms : Nat) (x : Nat × Locker) : Nat × Locker := if x.1 = ms then (x.1, (x.2.sendEvent ms).1) else x

@[simp] theorem sendEvent_name (k : Nat) (item : Locker) : (item.sendEvent k).1.name = item.name := by
  unfold Locker.sendEvent
  simp only
  split <;> rfl

@[simp] theorem sendEvent_id (k : Nat) (item : Locker) : (item.sendEvent k).1.id = item.id := by
  unfold Locker.sendEvent
  simp only
  split <;> rfl

@[simp] theorem sendEvent_period (k : Nat) (item : Locker) : (item.sendEvent k).1.period = item.period := by
  unfold Locker.sendEvent
  simp only
  split <;> rfl

@[simp] theorem sendEvent_callback (k : Nat) (item : Locker) : (item.sendEvent k).1.callback = item.callback := by
  unfold Locker.sendEvent
  simp only
  split <;> rfl

theorem sendEvent_periodCount (k : Nat) (item : Locker) : (item.sendEvent k).1.periodCount =
    if item.period ≤ item.periodCount + k then 0 else item.periodCount + k := by
  unfold Locker.sendEvent
  simp only
  split <;> rfl

theorem callbackTimer_timers (M : Manager W) (ms : Nat) :
    (callbackTimer M ms).1.timers = KeyedList.modify ms (fun list => list.sendEvent.1) M.timers ∨
      (callbackTimer M ms).1.timers = M.timers ∧ ∀ x ∈ M.timers, x.1 ≠ ms := by
  unfold callbackTimer
  cases found : KeyedList.find ms M.timers with
  | none => exact .inr ⟨rfl, KeyedList.find_eq_none.1 found⟩
  | some list => exact .inl rfl

theorem held_key {ts : List (Nat × CTimerLockerList)} {x : Nat × Locker} (mem : x ∈ held ts) : ∃ y ∈ ts, y.1 = x.1 := by
  obtain ⟨list, mem, -⟩ := mem_held.1 mem
  exact ⟨_, mem, rfl⟩

theorem held_callbackTimer (inv : Inv M.timers M.nextId) (ms : Nat) :
    held (callbackTimer M ms).1.timers = (held M.timers).map (ticked ms) := by
  rcases callbackTimer_timers M ms with same | ⟨same, none⟩
  · rw [same, KeyedList.modify_eq_map inv.sorted, held, List.flatMap_map, held, List.map_flatMap]
    refine List.flatMap_congr fun x mem => ?_
    by_cases key : x.1 = ms
    · have period : x.2.period = ms := (inv.keyed x mem).trans key
      simp only [if_pos key, CTimerLockerList.sendEvent, List.map_map, Function.comp_def, ticked, period]
    · simp only [if_neg key, List.map_map, Function.comp_def, ticked]
  · rw [same]
    have others : ∀ x ∈ held M.timers, ticked ms x = x := by
      intro x mem
      obtain ⟨y, mem, key⟩ := held_key mem
      exact if_neg (key ▸ none y mem)
    rw [List.map_congr_left others, List.map_id']

/-- A count that is a multiple of the key stays one, and no count reaches its period. -/
theorem sendEvent_counted {k : Nat} {item : Locker} (positive : 0 < item.period) (divides : k ∣ item.period)
    (count : k ∣ item.periodCount) (below : item.periodCount < item.period) :
    k ∣ (item.sendEvent k).1.periodCount ∧ (item.sendEvent k).1.periodCount < item.period ∧
      item.periodCount + k ≤ item.period := by
  obtain ⟨q, hq⟩ := divides
  obtain ⟨c, hc⟩ := count
  have next : c + 1 ≤ q := Nat.lt_of_mul_lt_mul_left (a := k) (hc ▸ hq ▸ below)
  have room : item.periodCount + k ≤ item.period := by
    rw [hc, hq, ← Nat.mul_succ]
    exact Nat.mul_le_mul_left k next
  rw [sendEvent_periodCount]
  refine ⟨?_, ?_, room⟩
  · split
    · exact Nat.dvd_zero k
    · exact (hc ▸ Nat.dvd_mul_right k c).add (Nat.dvd_refl k)
  · split
    · exact positive
    · omega

theorem Inv.callbackTimer (inv : Inv M.timers M.nextId) (ms : Nat) :
    Inv (TimerLists.callbackTimer M ms).1.timers (TimerLists.callbackTimer M ms).1.nextId := by
  have next : (TimerLists.callbackTimer M ms).1.nextId = M.nextId := by
    unfold TimerLists.callbackTimer
    split <;> rfl
  have lists : KeyedList.Sorted (TimerLists.callbackTimer M ms).1.timers ∧
      ListsFrom M.timers (TimerLists.callbackTimer M ms).1.timers := by
    rcases callbackTimer_timers M ms with same | ⟨same, -⟩
    · rw [same]
      refine ⟨KeyedList.sorted_modify inv.sorted _, ListsFrom.modify inv.sorted ms fun list => ?_⟩
      exact ⟨rfl, rfl, fun some empty => some (List.map_eq_nil_iff.1 empty)⟩
    · rw [same]
      exact ⟨inv.sorted, fun x mem => ⟨x, mem, rfl, rfl, rfl, id⟩⟩
  obtain ⟨nonempty, keyed, hasTimer⟩ := inv.lists lists.2
  have all := held_callbackTimer inv ms
  have kept (x : Nat × Locker) : (ticked ms x).1 = x.1 ∧ (ticked ms x).2.name = x.2.name ∧ (ticked ms x).2.id = x.2.id ∧
      (ticked ms x).2.period = x.2.period := by
    unfold ticked
    split
    · exact ⟨rfl, sendEvent_name _ _, sendEvent_id _ _, sendEvent_period _ _⟩
    · exact ⟨rfl, rfl, rfl, rfl⟩
  refine ⟨lists.1, nonempty, keyed, hasTimer, ?_, ?_, ?_⟩
  · simp only [all, List.map_map, Function.comp_def, (kept _).2.1]
    exact inv.names
  · simp only [all, List.map_map, Function.comp_def, (kept _).2.2.1]
    exact inv.ids
  · intro x mem
    rw [all] at mem
    obtain ⟨y, mem', rfl⟩ := List.mem_map.1 mem
    rw [next, (kept y).2.2.1]
    exact inv.fresh y mem'

theorem Counted.callbackTimer (inv : Inv M.timers M.nextId) (counted : Counted m M.timers) (ms : Nat) :
    Counted m (TimerLists.callbackTimer M ms).1.timers := by
  intro x mem
  rw [held_callbackTimer inv ms] at mem
  obtain ⟨y, mem', rfl⟩ := List.mem_map.1 mem
  obtain ⟨le, key, count, below⟩ := counted y mem'
  unfold ticked
  split
  · rename_i here
    have divides : ms ∣ y.2.period := by
      rw [← here, key]
      exact (getDivisor_spec le).1
    obtain ⟨count', below', -⟩ := sendEvent_counted (by omega) divides (here ▸ count) below
    rw [sendEvent_period]
    exact ⟨le, key, here ▸ count', below'⟩
  · exact ⟨le, key, count, below⟩

/-- The manager behind a request: a deletion, and one locker more when a timer could be had. -/
theorem getTimerLockerByTime_spec {ms : Int} {r : Option Nat} {events : List Event} (inv : Inv M.timers M.nextId)
    (h : getTimerLockerByTime m timerEx M name ms callback answer = some (r, M', events)) :
    Inv M'.timers M'.nextId ∧ events = (deleteTimerLocker timerEx M name).2.2 ∧
      (r = none ∧ M'.timers = (deleteTimerLocker timerEx M name).2.1.timers ∧ M'.nextId = M.nextId ∨
        r = some M.nextId ∧ M'.nextId = M.nextId + 1 ∧
          (held M'.timers).Perm (requested m M.nextId name (effective m ms) callback ::
            (held M.timers).filter fun x => x.2.name ≠ name)) := by
  obtain ⟨-, req, rfl⟩ := getTimerLockerByTime_cases h
  obtain ⟨inv', filtered⟩ :
      Inv (deleteTimerLocker timerEx M name).2.1.timers (deleteTimerLocker timerEx M name).2.1.nextId ∧
        held (deleteTimerLocker timerEx M name).2.1.timers = (held M.timers).filter fun x => x.2.name ≠ name :=
    inv.deleted name
  have next : (deleteTimerLocker timerEx M name).2.1.nextId = M.nextId := by
    unfold deleteTimerLocker
    split <;> rfl
  have gone : ∀ x ∈ held (deleteTimerLocker timerEx M name).2.1.timers, x.2.name ≠ name := by
    intro x mem
    rw [filtered] at mem
    exact of_decide_eq_true (List.mem_filter.1 mem).2
  obtain ⟨inv'', result⟩ := req.inv inv' gone
  rw [next, filtered] at result
  exact ⟨inv'', rfl, result⟩

theorem Counted.deleted (inv : Inv M.timers M.nextId) (counted : Counted m M.timers) (name : String) :
    Counted m (deleteTimerLocker timerEx M name).2.1.timers := by
  intro x mem
  rw [(inv.deleted name).2] at mem
  exact counted x (List.mem_of_mem_filter mem)

theorem Counted.requested {ms : Int} {r : Option Nat} {events : List Event} (inv : Inv M.timers M.nextId)
    (counted : Counted m M.timers)
    (h : getTimerLockerByTime m timerEx M name ms callback answer = some (r, M', events)) : Counted m M'.timers := by
  obtain ⟨positive, -, -⟩ := getTimerLockerByTime_cases h
  obtain ⟨-, -, ⟨-, left, -⟩ | ⟨-, -, perm⟩⟩ := getTimerLockerByTime_spec inv h
  · rw [left]
    exact Counted.deleted inv counted name
  · intro x mem
    rcases List.mem_cons.1 (perm.mem_iff.1 mem) with rfl | mem
    · have le := le_effective m ms
      exact ⟨le, rfl, Nat.dvd_zero _, lt_of_lt_of_le positive le⟩
    · exact counted x (List.mem_of_mem_filter mem)

end Preserved

section Runs

variable {m : Nat} {timerEx : TimerEx W A} {s t : State W} {a : Act A}

/-- A request of either kind: its name, its time and its callback. -/
def Act.request : Act A → Option (String × Int × Bool)
  | .getTimerLockerByTime name ms callback _ => some (name, ms, callback)
  | .getTimerLockerByFps name fps callback _ => if fps = 0 then none else some (name, Int.tdiv 1000 fps, callback)
  | _ => none

/-- Every step keeps the invariant, and the counts where the minimal resolution stays what it is. -/
theorem Inv.step (inv : Inv s.manager.timers s.manager.nextId) (h : TimerLists.step m timerEx s a = some t) :
    Inv t.manager.timers t.manager.nextId ∧ (Counted m s.manager.timers → Counted m t.manager.timers) := by
  cases a with
  | getTimerLockerByTime name ms callback answer =>
    obtain ⟨⟨r, M', events⟩, made, rfl⟩ := Option.map_eq_some_iff.1 h
    exact ⟨(getTimerLockerByTime_spec inv made).1, fun counted => counted.requested inv made⟩
  | getTimerLockerByFps name fps callback answer =>
    obtain ⟨⟨r, M', events⟩, made, rfl⟩ := Option.map_eq_some_iff.1 h
    simp only [getTimerLockerByFps] at made
    split at made
    · cases made
      exact ⟨inv, fun counted => counted⟩
    · exact ⟨(getTimerLockerByTime_spec inv made).1, fun counted => counted.requested inv made⟩
  | deleteTimerLocker name =>
    cases h
    exact ⟨(inv.deleted name).1, fun counted => Counted.deleted inv counted name⟩
  | deletePointer id =>
    obtain ⟨x, -, rfl⟩ := Option.map_eq_some_iff.1 h
    exact ⟨(inv.deleted x.2.name).1, fun counted => Counted.deleted inv counted x.2.name⟩
  | callbackTimer ms =>
    cases h
    exact ⟨inv.callbackTimer ms, fun counted => counted.callbackTimer inv ms⟩
  | exit =>
    cases h
    exact ⟨inv_nil _, fun _ x mem => by cases mem⟩

theorem inv_runAt {w : W} {acts : List (Nat × Act A)} (ran : run (stepAt timerEx) (initial w) acts = some s) :
    Inv s.manager.timers s.manager.nextId :=
  run_invariant (I := fun s => Inv s.manager.timers s.manager.nextId) (fun inv _ h => (inv.step h).1) (inv_nil 0)
    along_true ran

theorem inv_run {w : W} {acts : List (Act A)} (ran : run (TimerLists.step m timerEx) (initial w) acts = some s) :
    Inv s.manager.timers s.manager.nextId ∧ Counted m s.manager.timers :=
  run_invariant (I := fun s => Inv s.manager.timers s.manager.nextId ∧ Counted m s.manager.timers)
    (fun inv _ h => ⟨(inv.1.step h).1, (inv.1.step h).2 inv.2⟩) ⟨inv_nil 0, fun x mem => by cases mem⟩ along_true ran

end Runs

end CameraEv.TimerLists
