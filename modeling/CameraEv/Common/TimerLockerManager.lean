import Mathlib.Data.List.Perm.Basic
import Mathlib.Data.List.Nodup
import Mathlib.Tactic

/-!
# `CTimerLockerManager`: lockers by name

The manager owns every locker, in one list for each timer period, and finds
them by name: a request destroys the locker of that name before it creates a
new one. Clients keep the address of a locker, which `id` stands for; an
address that was given out is never given out again, so that a stale one is
told apart from a live one.
-/

namespace CameraEv

structure CTimerLocker where
  id : Nat
  name : String
  period : Nat
  deriving DecidableEq

/-- Integer division of positive numbers, so that `std::round` has nothing to round. -/
def CTimerLocker.getFps (l : CTimerLocker) : Nat := 1000 / l.period

/-- `m_map_timers` in the order of its keys; a list in it has its timer. -/
structure CTimerLockerManager where
  timers : List (Nat × List CTimerLocker) := []
  nextId : Nat := 0
  deriving DecidableEq

namespace CTimerLockerManager

def timerMinResolution : Nat := 10

/-- The lockers that the manager owns. -/
def lockers (m : CTimerLockerManager) : List CTimerLocker := m.timers.flatMap Prod.snd

/-- What a client finds behind an address. -/
def find (m : CTimerLockerManager) (id : Nat) : Option CTimerLocker := m.lockers.find? (·.id = id)

/-- The smallest divisor of `ms` from the minimal resolution on. -/
def getDivisor (ms : Nat) : Nat :=
  ((List.range' timerMinResolution (ms + 1 - timerMinResolution)).find? fun ii => ms % ii = 0).getD timerMinResolution

/-- `DeleteTimerLocker(name)`: the first locker of that name goes, and its list with it when it was the last. -/
def deleteItem (name : String) : List (Nat × List CTimerLocker) → List (Nat × List CTimerLocker) × Bool
  | [] => ([], false)
  | (ms, ls) :: rest =>
    if ls.any (·.name = name) then
      let left := ls.eraseP (·.name = name)
      (if left.isEmpty then rest else (ms, left) :: rest, true)
    else
      let (rest, ret) := deleteItem name rest
      ((ms, ls) :: rest, ret)

def deleteTimerLocker (m : CTimerLockerManager) (name : String) : CTimerLockerManager × Bool :=
  let (timers, ret) := deleteItem name m.timers
  ({ m with timers }, ret)

/-- A new list under its key. -/
def insertTimer (ms : Nat) : List (Nat × List CTimerLocker) → List (Nat × List CTimerLocker)
  | [] => [(ms, [])]
  | (k, ls) :: rest => if ms < k then (ms, []) :: (k, ls) :: rest else (k, ls) :: insertTimer ms rest

/-- `created` is whether `CreateTimer` succeeds, where it is called. -/
def getList (m : CTimerLockerManager) (ms : Nat) (created : Bool) : Option CTimerLockerManager :=
  if m.timers.any (·.1 = ms) then some m
  else if created then some { m with timers := insertTimer ms m.timers }
  else none

def addItem (ms : Nat) (item : CTimerLocker) : List (Nat × List CTimerLocker) → List (Nat × List CTimerLocker)
  | [] => []
  | (k, ls) :: rest => if k = ms then (k, ls ++ [item]) :: rest else (k, ls) :: addItem ms item rest

/-- The address of the new locker, or null. -/
def getTimerLockerByTime (m : CTimerLockerManager) (name : String) (ms : Int) (created : Bool) :
    Option Nat × CTimerLockerManager :=
  let period := if ms < timerMinResolution then timerMinResolution else ms.toNat
  let (m, _) := m.deleteTimerLocker name
  match m.getList (getDivisor period) created with
  | none => (none, m)
  | some m => (some m.nextId,
      { timers := addItem (getDivisor period) ⟨m.nextId, name, period⟩ m.timers, nextId := m.nextId + 1 })

def getTimerLockerByFps (m : CTimerLockerManager) (name : String) (fps : Int) (created : Bool) :
    Option Nat × CTimerLockerManager :=
  if fps = 0 then (none, m) else m.getTimerLockerByTime name (Int.tdiv 1000 fps) created

/-! ## What the operations do to the owned lockers -/

theorem flatMap_deleteItem (name : String) (timers : List (Nat × List CTimerLocker)) :
    (deleteItem name timers).1.flatMap Prod.snd = (timers.flatMap Prod.snd).eraseP (·.name = name) := by
  induction timers with
  | nil => rfl
  | cons t rest ih =>
    obtain ⟨ms, ls⟩ := t
    simp only [deleteItem, List.flatMap_cons, List.eraseP_append]
    split
    · split
      · rename_i empty
        rw [List.isEmpty_iff.1 empty, List.nil_append]
      · rfl
    · simp only [List.flatMap_cons, ih]

theorem flatMap_insertTimer (ms : Nat) (timers : List (Nat × List CTimerLocker)) :
    (insertTimer ms timers).flatMap Prod.snd = timers.flatMap Prod.snd := by
  induction timers with
  | nil => rfl
  | cons t rest ih =>
    simp only [insertTimer]
    split <;> simp only [List.flatMap_cons, List.nil_append, ih]

theorem mem_insertTimer (ms : Nat) (timers : List (Nat × List CTimerLocker)) :
    ∃ ls, (ms, ls) ∈ insertTimer ms timers := by
  induction timers with
  | nil => exact ⟨[], List.mem_singleton_self _⟩
  | cons t rest ih =>
    simp only [insertTimer]
    split
    · exact ⟨[], List.mem_cons_self⟩
    · obtain ⟨ls, mem⟩ := ih
      exact ⟨ls, List.mem_cons_of_mem _ mem⟩

theorem flatMap_addItem {ms : Nat} {item : CTimerLocker} {timers : List (Nat × List CTimerLocker)}
    (here : ∃ ls, (ms, ls) ∈ timers) :
    ((addItem ms item timers).flatMap Prod.snd).Perm (item :: timers.flatMap Prod.snd) := by
  induction timers with
  | nil =>
    obtain ⟨ls, mem⟩ := here
    cases mem
  | cons t rest ih =>
    obtain ⟨k, ls⟩ := t
    simp only [addItem]
    split
    · simp only [List.flatMap_cons, List.append_assoc, List.singleton_append]
      exact List.perm_middle
    · rename_i other
      obtain ⟨ls', mem⟩ := here
      have later : (ms, ls') ∈ rest := by
        rcases List.mem_cons.1 mem with same | mem
        · exact absurd (congrArg Prod.fst same).symm other
        · exact mem
      simp only [List.flatMap_cons]
      exact ((ih ⟨ls', later⟩).append_left ls).trans List.perm_middle

theorem lockers_deleteTimerLocker (m : CTimerLockerManager) (name : String) :
    (m.deleteTimerLocker name).1.lockers = m.lockers.eraseP (·.name = name) :=
  flatMap_deleteItem name m.timers

theorem getList_spec {m m' : CTimerLockerManager} {ms : Nat} {created : Bool} (h : m.getList ms created = some m') :
    m'.lockers = m.lockers ∧ m'.nextId = m.nextId ∧ ∃ ls, (ms, ls) ∈ m'.timers := by
  simp only [getList] at h
  split at h
  · rename_i here
    cases h
    obtain ⟨⟨k, ls⟩, mem, same⟩ := List.any_eq_true.1 here
    exact ⟨rfl, rfl, ls, by simpa [← of_decide_eq_true same] using mem⟩
  · split at h <;> cases h
    exact ⟨flatMap_insertTimer ms m.timers, rfl, mem_insertTimer ms m.timers⟩

/-- A request destroys the locker of its name and, where a timer can be had, creates a new one. -/
theorem getTimerLockerByTime_spec (m : CTimerLockerManager) (name : String) (ms : Int) (created : Bool) :
    (m.getTimerLockerByTime name ms created).1 = none ∧ created = false ∧
        (m.getTimerLockerByTime name ms created).2.lockers = m.lockers.eraseP (·.name = name) ∧
        (m.getTimerLockerByTime name ms created).2.nextId = m.nextId ∨
      (m.getTimerLockerByTime name ms created).1 = some m.nextId ∧
        (m.getTimerLockerByTime name ms created).2.lockers.Perm
          (⟨m.nextId, name, (max (timerMinResolution : Int) ms).toNat⟩ :: m.lockers.eraseP (·.name = name)) ∧
        (m.getTimerLockerByTime name ms created).2.nextId = m.nextId + 1 := by
  have period : (if ms < timerMinResolution then timerMinResolution else ms.toNat) =
      (max (timerMinResolution : Int) ms).toNat := by
    split <;> omega
  simp only [getTimerLockerByTime, period]
  generalize (max (timerMinResolution : Int) ms).toNat = period
  have deleted := lockers_deleteTimerLocker m name
  have next : (m.deleteTimerLocker name).1.nextId = m.nextId := rfl
  cases got : (m.deleteTimerLocker name).1.getList (getDivisor period) created with
  | none =>
    refine .inl ⟨rfl, ?_, deleted, next⟩
    cases created with
    | false => rfl
    | true =>
      simp only [getList, if_true] at got
      split at got <;> cases got
  | some m' =>
    obtain ⟨lockers, next', here⟩ := getList_spec got
    refine .inr ⟨congrArg some (next'.trans next), ?_, congrArg (· + 1) (next'.trans next)⟩
    rw [← next, ← deleted, ← lockers, ← next']
    exact flatMap_addItem here

/-- Every locker has a name and an address of its own. -/
structure Distinct (m : CTimerLockerManager) : Prop where
  names : (m.lockers.map CTimerLocker.name).Nodup
  ids : (m.lockers.map CTimerLocker.id).Nodup
  fresh : ∀ l ∈ m.lockers, l.id < m.nextId

theorem mem_eraseP_name {ls : List CTimerLocker} (names : (ls.map CTimerLocker.name).Nodup) (name : String)
    (l : CTimerLocker) : l ∈ ls.eraseP (·.name = name) ↔ l ∈ ls ∧ l.name ≠ name := by
  induction ls with
  | nil => simp
  | cons x ls ih =>
    obtain ⟨new, names⟩ := List.nodup_cons.1 names
    by_cases same : x.name = name
    · rw [List.eraseP_cons_of_pos (by simpa using same)]
      constructor
      · intro mem
        refine ⟨List.mem_cons_of_mem _ mem, fun eq => new ?_⟩
        rw [same, ← eq]
        exact List.mem_map_of_mem mem
      · rintro ⟨mem, ne⟩
        rcases List.mem_cons.1 mem with rfl | mem
        · exact absurd same ne
        · exact mem
    · rw [List.eraseP_cons_of_neg (by simpa using same), List.mem_cons, List.mem_cons, ih names]
      constructor
      · rintro (rfl | ⟨mem, ne⟩)
        · exact ⟨.inl rfl, same⟩
        · exact ⟨.inr mem, ne⟩
      · rintro ⟨rfl | mem, ne⟩
        · exact .inl rfl
        · exact .inr ⟨mem, ne⟩

namespace Distinct

variable {m m' : CTimerLockerManager}

theorem eraseP (distinct : m.Distinct) {name : String} (lockers : m'.lockers = m.lockers.eraseP (·.name = name))
    (next : m'.nextId = m.nextId) : m'.Distinct where
  names := by
    rw [lockers]
    exact distinct.names.sublist (List.eraseP_sublist.map _)
  ids := by
    rw [lockers]
    exact distinct.ids.sublist (List.eraseP_sublist.map _)
  fresh l mem := by
    rw [lockers] at mem
    rw [next]
    exact distinct.fresh l (List.mem_of_mem_eraseP mem)

theorem getTimerLockerByTime (distinct : m.Distinct) (name : String) (ms : Int) (created : Bool) :
    (m.getTimerLockerByTime name ms created).2.Distinct := by
  rcases getTimerLockerByTime_spec m name ms created with ⟨-, -, lockers, next⟩ | ⟨-, lockers, next⟩
  · exact distinct.eraseP lockers next
  have gone : ∀ l ∈ m.lockers.eraseP (·.name = name), l.name ≠ name := fun l mem =>
    ((mem_eraseP_name distinct.names name l).1 mem).2
  constructor
  · rw [(lockers.map _).nodup_iff, List.map_cons, List.nodup_cons]
    refine ⟨?_, distinct.names.sublist (List.eraseP_sublist.map _)⟩
    rw [List.mem_map]
    rintro ⟨l, mem, same⟩
    exact gone l mem same
  · rw [(lockers.map _).nodup_iff, List.map_cons, List.nodup_cons]
    refine ⟨?_, distinct.ids.sublist (List.eraseP_sublist.map _)⟩
    rw [List.mem_map]
    rintro ⟨l, mem, same⟩
    exact absurd same (distinct.fresh l (List.mem_of_mem_eraseP mem)).ne
  · intro l mem
    rw [next]
    rcases List.mem_cons.1 (lockers.mem_iff.1 mem) with rfl | mem
    · exact Nat.lt_succ_self _
    · exact (distinct.fresh l (List.mem_of_mem_eraseP mem)).trans (Nat.lt_succ_self _)

theorem find_eq (distinct : m.Distinct) {l : CTimerLocker} (mem : l ∈ m.lockers) : m.find l.id = some l := by
  unfold find
  have ids := distinct.ids
  revert ids mem
  generalize m.lockers = ls
  intro mem ids
  induction ls with
  | nil => cases mem
  | cons x ls ih =>
    obtain ⟨new, ids⟩ := List.nodup_cons.1 ids
    rcases List.mem_cons.1 mem with rfl | mem
    · exact List.find?_cons_of_pos (by simp)
    · rw [List.find?_cons_of_neg, ih mem ids]
      intro same
      exact new (List.mem_map.2 ⟨l, mem, (of_decide_eq_true same).symm⟩)

/-- Two lockers of one name are one locker. -/
theorem eq_of_name (distinct : m.Distinct) {l l' : CTimerLocker} (mem : l ∈ m.lockers) (mem' : l' ∈ m.lockers)
    (same : l.name = l'.name) : l = l' :=
  List.inj_on_of_nodup_map distinct.names mem mem' same

theorem eq_of_id (distinct : m.Distinct) {l l' : CTimerLocker} (mem : l ∈ m.lockers) (mem' : l' ∈ m.lockers)
    (same : l.id = l'.id) : l = l' :=
  List.inj_on_of_nodup_map distinct.ids mem mem' same

end Distinct

end CTimerLockerManager

end CameraEv
