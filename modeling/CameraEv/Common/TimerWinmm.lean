import CameraEv.Common.TimerLists
import CameraEv.Lib.Handles

/-!
# The timers of Windows

`CTimerWinmm` keeps its timers in 64 slots and finds a slot by the id that it
has given out; what a slot held before stays in it when its timer is deleted. The
manager asks for a timer with each list and gives it back when the list goes,
once in `Finalize` and once more in the destructor.

The calls of the system are a log. `Balanced` is what the log of a program should
be: the timers in use are those of the lists, each is killed once, and the periods
that were begun and not ended are as many.
-/

namespace CameraEv.TimerLists

open Trace

/-! ## The slots -/

/-- A call of the system; `timeSetEvent` with what it returns, 0 when it fails. -/
inductive OsCall where
  | timeBeginPeriod
  | timeSetEvent (hTimer : Nat)
  | timeKillEvent (hTimer : Nat)
  | timeEndPeriod
  deriving DecidableEq

/-- An element of `m_timers`. -/
structure ParamTimer where
  id : Nat := 0
  ms : Nat := 0
  used : Bool := false
  deriving DecidableEq

structure CTimerWinmm where
  timers : List ParamTimer
  calls : List OsCall := []
  deriving DecidableEq

namespace CTimerWinmm

def initial : CTimerWinmm where
  timers := List.replicate 64 {}

/-- The first slot that is not used, or one behind the last. -/
def createTimerId (w : CTimerWinmm) : Nat := w.timers.findIdx fun item => item.used = false

/-- A timer for which there is no slot is stored behind the vector, where nothing finds it. -/
def createTimer (hTimer ms : Nat) (w : CTimerWinmm) : Int × Int × CTimerWinmm :=
  let id := w.createTimerId
  let calls := w.calls ++ [.timeBeginPeriod, .timeSetEvent hTimer]
  if hTimer = 0 then (1, id, { w with calls })
  else (0, id, { timers := w.timers.set id { id := hTimer, ms, used := true }, calls })

/-- Nothing asks whether the slot is used. -/
def deleteTimer (id : Int) (w : CTimerWinmm) : CTimerWinmm :=
  match w.timers[(id % 2 ^ 64).toNat]? with
  | none => w
  | some item =>
    { timers := w.timers.set (id % 2 ^ 64).toNat { item with used := false },
      calls := w.calls ++ [.timeKillEvent item.id, .timeEndPeriod] }

def deleteTimerAll (w : CTimerWinmm) : CTimerWinmm :=
  (List.range w.timers.length).foldl
    (fun w index => if (w.timers.getD index {}).used then w.deleteTimer index else w) w

theorem createTimer_hasTimer {hTimer ms : Nat} {w w' : CTimerWinmm} {id : Int}
    (h : createTimer hTimer ms w = (0, id, w')) : id ≠ -1 := by
  unfold createTimer at h
  simp only at h
  split at h
  · cases h
  · cases h
    omega

end CTimerWinmm

/-- `CTimerInstance` on Windows; the answer to `CreateTimer` is what `timeSetEvent` returns. -/
def winmm : TimerEx CTimerWinmm Nat where
  createTimer hTimer ms w := some (w.createTimer hTimer ms)
  deleteTimer := CTimerWinmm.deleteTimer
  finalizeTimer := CTimerWinmm.deleteTimerAll
  hasTimer h := CTimerWinmm.createTimer_hasTimer (Option.some.inj h)

/-! ## What the log should be -/

/-- The timers that a call takes from the system or gives back to it. -/
def OsCall.handle : OsCall → Option (Handles.Call Nat)
  | .timeSetEvent hTimer => if hTimer = 0 then none else some (.acquire hTimer)
  | .timeKillEvent hTimer => some (.release hTimer)
  | _ => none

namespace CTimerWinmm

def handles (w : CTimerWinmm) : List (Handles.Call Nat) := w.calls.filterMap OsCall.handle

/-- The timers in use: those that `timeSetEvent` has returned and that were not killed since. -/
def live (w : CTimerWinmm) : List Nat := Handles.live w.handles

/-- The timer of the system in the slot of an id; none behind the slots. -/
def hTimer (w : CTimerWinmm) (id : Int) : Nat := (w.timers.getD id.toNat {}).id

end CTimerWinmm

/-- The calls of the system so far. -/
structure Balanced (M : Manager CTimerWinmm) : Prop where
  /-- A timer that `timeSetEvent` has returned is killed at most once, and once when no list has it any more. -/
  once : ∀ before hTimer rest, M.timerEx.handles = before ++ .acquire hTimer :: rest →
    Handles.releases hTimer rest ≤ 1 ∧
      (hTimer ∉ M.timers.map (fun x => M.timerEx.hTimer x.2.timerId) → Handles.releases hTimer rest = 1)
  /-- A timer that is killed is in use. -/
  clean : Handles.Clean M.timerEx.handles
  /-- The timers in use are those of the lists. -/
  live : M.timerEx.live.Perm (M.timers.map fun x => M.timerEx.hTimer x.2.timerId)
  periods : M.timerEx.calls.count .timeBeginPeriod = M.timerEx.calls.count .timeEndPeriod + M.timerEx.live.length

/-! ## What a call of the slots does -/

namespace CTimerWinmm

variable {w w' : CTimerWinmm} {ids ids' : List Int} {id : Int} {timer ms : Nat}

def slot (w : CTimerWinmm) (i : Nat) : ParamTimer := w.timers.getD i {}

/-- One slot is written, and the log goes on. -/
def put (w : CTimerWinmm) (i : Nat) (item : ParamTimer) (calls : List OsCall) : CTimerWinmm where
  timers := w.timers.set i item
  calls := w.calls ++ calls

theorem slot_put {i : Nat} (room : i < w.timers.length) (item : ParamTimer) (calls : List OsCall) (j : Nat) :
    (w.put i item calls).slot j = if i = j then item else w.slot j := by
  simp only [slot, put, List.getD_eq_getElem?_getD, List.getElem?_set]
  by_cases same : i = j
  · subst same
    simp [room]
  · simp [same]

theorem handles_put (w : CTimerWinmm) (i : Nat) (item : ParamTimer) (calls : List OsCall) :
    (w.put i item calls).handles = w.handles ++ calls.filterMap OsCall.handle := List.filterMap_append

theorem live_put (w : CTimerWinmm) (i : Nat) (item : ParamTimer) (calls : List OsCall) :
    (w.put i item calls).live = (calls.filterMap OsCall.handle).foldl Handles.after w.live := by
  rw [live, handles_put, Handles.live_append]
  rfl

theorem hTimer_eq (w : CTimerWinmm) (i : Nat) : w.hTimer i = (w.slot i).id := by
  rw [hTimer, Int.toNat_natCast, slot]

/-- A slot is free. -/
def HasRoom (w : CTimerWinmm) : Prop := ∃ item ∈ w.timers, item.used = false

instance (w : CTimerWinmm) : Decidable w.HasRoom := inferInstanceAs (Decidable (∃ item ∈ w.timers, _))

theorem hasRoom_iff : w.HasRoom ↔ w.createTimerId < w.timers.length := by
  rw [createTimerId, List.findIdx_lt_length]
  simp [HasRoom]

theorem createTimer_eq (create : createTimer timer ms w = (0, id, w')) :
    timer ≠ 0 ∧ id = w.createTimerId ∧
      w' = w.put w.createTimerId { id := timer, ms, used := true } [.timeBeginPeriod, .timeSetEvent timer] := by
  unfold createTimer at create
  simp only at create
  split at create
  · cases create
  · rename_i some
    cases create
    exact ⟨some, rfl, rfl⟩

/-- The slot that is found is free. -/
theorem slot_createTimerId (room : w.HasRoom) : (w.slot w.createTimerId).used = false := by
  have lt := hasRoom_iff.1 room
  have free := of_decide_eq_true (List.findIdx_getElem (w := lt))
  rw [slot, List.getD_eq_getElem?_getD, List.getElem?_eq_getElem lt]
  exact free

/-- The timer is live in the system, whether there is a slot for it or not. -/
theorem handle_create (some : timer ≠ 0) :
    [OsCall.timeBeginPeriod, .timeSetEvent timer].filterMap OsCall.handle = [.acquire timer] := by
  simp [List.filterMap_cons, OsCall.handle, some]

theorem deleteTimer_eq {i : Nat} (room : i < w.timers.length) (small : i < 64) :
    w.deleteTimer i =
      w.put i { w.slot i with used := false } [.timeKillEvent (w.slot i).id, .timeEndPeriod] := by
  have index : ((i : Int) % 2 ^ 64).toNat = i := by omega
  simp only [deleteTimer, index, List.getElem?_eq_getElem room, put, slot, List.getD_eq_getElem?_getD, Option.getD_some]

/-- Exactly the slots of `ids` are used, and the log is in order. -/
structure Holds (ids : List Int) (w : CTimerWinmm) : Prop where
  size : w.timers.length = 64
  range : ∀ id ∈ ids, ∃ i : Nat, i < 64 ∧ id = i
  distinct : ids.Nodup
  used : ∀ i : Nat, (w.slot i).used = true ↔ (i : Int) ∈ ids
  proper : Handles.Proper [] w.handles
  live : w.live.Perm (ids.map w.hTimer)
  periods : w.calls.count .timeBeginPeriod = w.calls.count .timeEndPeriod + w.live.length

theorem holds_initial : Holds [] initial where
  size := rfl
  range id mem := by cases mem
  distinct := List.nodup_nil
  used i := by
    have unused : (initial.slot i).used = false := by
      simp only [slot, initial, List.getD_eq_getElem?_getD, List.getElem?_replicate]
      split <;> rfl
    simp [unused]
  proper := trivial
  live := List.Perm.refl _
  periods := rfl

theorem Holds.perm (holds : Holds ids w) (perm : ids.Perm ids') : Holds ids' w where
  size := holds.size
  range id mem := holds.range id (perm.mem_iff.2 mem)
  distinct := perm.nodup_iff.1 holds.distinct
  used i := (holds.used i).trans perm.mem_iff
  proper := holds.proper
  live := holds.live.trans (perm.map _)
  periods := holds.periods

/-- The slots of other ids keep their timers. -/
theorem map_hTimer_put {i : Nat} (holds : Holds ids w) (room : i < w.timers.length) (item : ParamTimer) (calls : List OsCall)
    (new : (i : Int) ∉ ids) : ids.map (w.put i item calls).hTimer = ids.map w.hTimer := by
  refine List.map_congr_left fun id mem => ?_
  obtain ⟨j, -, rfl⟩ := holds.range id mem
  have ne : i ≠ j := by
    rintro rfl
    exact new mem
  rw [hTimer_eq, hTimer_eq, slot_put room, if_neg ne]

/-- A timer that is had: its slot was free. -/
theorem Holds.create (holds : Holds ids w) (free : w.HasRoom) (create : createTimer timer ms w = (0, id, w'))
    (fresh : timer ∉ w.live) : Holds (id :: ids) w' := by
  obtain ⟨some, rfl, rfl⟩ := createTimer_eq create
  have unused := slot_createTimerId free
  have room := hasRoom_iff.1 free
  generalize w.createTimerId = i at unused room ⊢
  have new : (i : Int) ∉ ids := by
    intro mem
    rw [(holds.used i).2 mem] at unused
    cases unused
  have taken := handle_create some
  constructor
  · rw [put, List.length_set, holds.size]
  · intro id mem
    rcases List.mem_cons.1 mem with rfl | mem
    · exact ⟨i, holds.size ▸ room, rfl⟩
    · exact holds.range id mem
  · exact List.nodup_cons.2 ⟨new, holds.distinct⟩
  · intro j
    rw [slot_put room, List.mem_cons]
    by_cases here : i = j
    · simp [here]
    · have ne : (j : Int) ≠ i := by omega
      rw [if_neg here, holds.used]
      simp [ne]
  · rw [handles_put, taken]
    exact Handles.proper_append.2 ⟨holds.proper, fresh, trivial⟩
  · rw [live_put, taken, List.map_cons, map_hTimer_put holds room _ _ new, hTimer_eq, slot_put room, if_pos rfl]
    exact holds.live.cons _
  · have periods := holds.periods
    rw [live_put, taken]
    simp only [put, List.count_append, List.foldl_cons, List.foldl_nil, Handles.after, List.length_cons]
    simp only [List.count_cons, List.count_nil, beq_iff_eq, reduceCtorEq, if_true, if_false]
    omega

/-- A timer that is given back. -/
theorem Holds.delete (holds : Holds (id :: ids) w) : Holds ids (w.deleteTimer id) := by
  obtain ⟨i, small, rfl⟩ := holds.range id List.mem_cons_self
  have room : i < w.timers.length := holds.size.symm ▸ small
  obtain ⟨new, distinct⟩ := List.nodup_cons.1 holds.distinct
  have inUse : (w.slot i).id ∈ w.live := by
    rw [holds.live.mem_iff, ← hTimer_eq]
    exact List.mem_cons_self
  rw [deleteTimer_eq room small]
  constructor
  · rw [put, List.length_set, holds.size]
  · exact fun id mem => holds.range id (List.mem_cons_of_mem _ mem)
  · exact distinct
  · intro j
    rw [slot_put room]
    by_cases here : i = j
    · subst here
      simp [new]
    · have ne : (j : Int) ≠ i := by omega
      rw [if_neg here, holds.used, List.mem_cons]
      simp [ne]
  · rw [handles_put]
    exact Handles.proper_append.2 ⟨holds.proper, inUse, trivial⟩
  · have kept : ids.map (w.put i { w.slot i with used := false } [.timeKillEvent (w.slot i).id, .timeEndPeriod]).hTimer =
        ids.map w.hTimer := by
      refine List.map_congr_left fun id mem => ?_
      obtain ⟨j, -, rfl⟩ := holds.range id (List.mem_cons_of_mem _ mem)
      rw [hTimer_eq, hTimer_eq, slot_put room]
      split
      · rename_i same
        rw [same]
      · rfl
    have rest := holds.live.erase (w.slot i).id
    rw [List.map_cons, hTimer_eq, List.erase_cons_head] at rest
    rw [live_put, kept]
    exact rest
  · have periods := holds.periods
    have length := List.length_erase_of_mem inUse
    have positive := List.length_pos_of_mem inUse
    rw [live_put]
    simp only [put, List.count_append]
    show _ = _ + (w.live.erase (w.slot i).id).length
    simp only [List.count_cons, List.count_nil, beq_iff_eq, reduceCtorEq, if_true, if_false]
    omega

/-- Without timers there is nothing for `Finalize` to do. -/
theorem Holds.deleteTimerAll (holds : Holds [] w) : w.deleteTimerAll = w := by
  have unused (i : Nat) : (w.slot i).used = false := by
    cases used : (w.slot i).used with
    | false => rfl
    | true => cases (holds.used i).1 used
  unfold CTimerWinmm.deleteTimerAll
  generalize List.range w.timers.length = indices
  induction indices with
  | nil => rfl
  | cons i indices ih =>
    have free := unused i
    rw [slot] at free
    rw [List.foldl_cons, free]
    exact ih

/-- The lists are destroyed one after the other. -/
theorem Holds.destroy {ts : List (Nat × CTimerLockerList)} (holds : Holds (ts.map fun x => x.2.timerId) w) :
    Holds [] (ts.foldl (fun w x => x.2.destructor winmm w) w) := by
  induction ts generalizing w with
  | nil => exact holds
  | cons x ts ih => exact ih holds.delete

end CTimerWinmm

/-! ## The manager over the slots -/

/-- The deletion of the name removes a list. -/
def Empties (ts : List (Nat × CTimerLockerList)) (name : String) : Prop :=
  ∃ x ∈ ts, (x.2.lockers.map fun item => item.name) = [name]

instance (ts : List (Nat × CTimerLockerList)) (name : String) : Decidable (Empties ts name) :=
  inferInstanceAs (Decidable (∃ x ∈ ts, _))

/-- A request removes no list, and where it needs a new one, `timeSetEvent` succeeds and a slot is free. -/
def KeptRequest (M : Manager CTimerWinmm) (m : Nat) (name : String) (ms : Int) (answer : Nat) : Prop :=
  ¬ Empties M.timers name ∧
    ((∃ x ∈ M.timers, x.1 = getDivisor m (effective m ms)) ∨ answer ≠ 0 ∧ M.timerEx.HasRoom)

instance (M : Manager CTimerWinmm) (m : Nat) (name : String) (ms : Int) (answer : Nat) :
    Decidable (KeptRequest M m name ms answer) :=
  inferInstanceAs (Decidable (_ ∧ ((∃ x ∈ M.timers, _) ∨ _ ∧ _)))

/-- The operation removes no list of a manager that goes on, and gets the timer it needs. -/
def Kept (s : State CTimerWinmm) : Nat × Act Nat → Prop
  | (m, .getTimerLockerByTime name ms _ answer) => KeptRequest s.manager m name ms answer
  | (m, .getTimerLockerByFps name fps _ answer) => fps = 0 ∨ KeptRequest s.manager m name (Int.tdiv 1000 fps) answer
  | (_, .deleteTimerLocker name) => ¬ Empties s.manager.timers name
  | (_, .deletePointer id) => ∀ x ∈ held s.manager.timers, x.2.id = id → ¬ Empties s.manager.timers x.2.name
  | (_, .callbackTimer _) | (_, .exit) => True

instance (s : State CTimerWinmm) : ∀ l, Decidable (Kept s l)
  | (_, .getTimerLockerByTime _ _ _ _) => inferInstanceAs (Decidable (KeptRequest _ _ _ _ _))
  | (_, .getTimerLockerByFps _ _ _ _) => inferInstanceAs (Decidable (_ ∨ KeptRequest _ _ _ _ _))
  | (_, .deleteTimerLocker _) => inferInstanceAs (Decidable (¬ Empties _ _))
  | (_, .deletePointer _) => inferInstanceAs (Decidable (∀ x ∈ held s.manager.timers, _ → ¬ Empties _ _))
  | (_, .callbackTimer _) | (_, .exit) => .isTrue trivial

/-- The system returns no timer that is in use, and the minimal resolution can be divided by. -/
def Documented (s : State CTimerWinmm) : Nat × Act Nat → Prop
  | (m, .getTimerLockerByTime name _ _ answer) | (m, .getTimerLockerByFps name _ _ answer) =>
    1 ≤ m ∧ (answer ≠ 0 → answer ∉ (deleteTimerLocker winmm s.manager name).2.1.timerEx.live)
  | _ => True

instance (s : State CTimerWinmm) : ∀ l, Decidable (Documented s l)
  | (_, .getTimerLockerByTime _ _ _ _) | (_, .getTimerLockerByFps _ _ _ _) =>
    inferInstanceAs (Decidable (_ ∧ (_ → _ ∉ CTimerWinmm.live _)))
  | (_, .deleteTimerLocker _) | (_, .deletePointer _) | (_, .callbackTimer _) | (_, .exit) => .isTrue trivial

def timerIds (ts : List (Nat × CTimerLockerList)) : List Int := ts.map fun x => x.2.timerId

section Steps

open CTimerWinmm

variable {m : Nat} {name : String} {M M' : Manager CTimerWinmm} {s t : State CTimerWinmm} {period : Nat} {callback : Bool}
  {answer : Nat}

theorem balanced_of_holds (holds : Holds (timerIds M.timers) M.timerEx) : Balanced M := by
  have ids : (M.timers.map fun x => M.timerEx.hTimer x.2.timerId) = (timerIds M.timers).map M.timerEx.hTimer := by
    rw [timerIds, List.map_map]
    rfl
  constructor
  · intro before timer rest log
    obtain ⟨once, gone⟩ := holds.proper.released_once log
    refine ⟨once, fun absent => gone fun live => absent ?_⟩
    rw [ids]
    exact holds.live.mem_iff.1 live
  · exact holds.proper.clean
  · rw [ids]
    exact holds.live
  · exact holds.periods

/-- A deletion that leaves a locker in the list, or finds none. -/
theorem deleted_kept (keeps : ¬ Empties M.timers name) :
    timerIds (deleteTimerLocker winmm M name).2.1.timers = timerIds M.timers ∧
      (deleteTimerLocker winmm M name).2.1.timers.map Prod.fst = M.timers.map Prod.fst ∧
      (deleteTimerLocker winmm M name).2.1.timerEx = M.timerEx := by
  have cases := deleteTimerLocker_cases winmm M name
  generalize deleteTimerLocker winmm M name = r at cases ⊢
  cases cases with
  | absent none => exact ⟨rfl, rfl, rfl⟩
  | shortened taken some =>
    have lists := taken.lists
    have rest := taken.rest
    rw [remaining, if_neg (by rw [some]; exact Bool.false_ne_true)] at rest
    refine ⟨?_, ?_, rfl⟩
    · rw [rest, lists]
      simp [timerIds]
    · rw [rest, lists]
      simp
  | emptied taken empty =>
    rename_i ts' k item left before after pre post
    have none : pre ++ post = [] := taken.stay ▸ List.isEmpty_iff.1 empty
    obtain ⟨rfl, rfl⟩ := List.append_eq_nil_iff.1 none
    refine absurd ⟨(k, { left with lockers := [item] }), ?_, congrArg (fun n => [n]) taken.named⟩ keeps
    rw [taken.lists]
    exact List.mem_append_right _ List.mem_cons_self

/-- A deletion that removes a list kills its timer twice. -/
theorem deleted_empties (inv : Inv M.timers M.nextId) (holds : Holds (timerIds M.timers) M.timerEx)
    (empties : Empties M.timers name) : ¬ Handles.Clean (deleteTimerLocker winmm M name).2.1.timerEx.handles := by
  obtain ⟨x, here, names⟩ := empties
  obtain ⟨item, single, named⟩ := List.map_eq_singleton_iff.1 names
  have mem : (x.1, item) ∈ held M.timers := mem_held.2 ⟨x.2, here, single ▸ List.mem_singleton_self item⟩
  have cases := deleteTimerLocker_cases winmm M name
  generalize deleteTimerLocker winmm M name = r at cases ⊢
  cases cases with
  | absent none => exact absurd named (none _ mem)
  | shortened taken some =>
    rename_i ts' k item' left before after pre post
    have there : (k, { left with lockers := pre ++ item' :: post }) ∈ M.timers := by
      rw [taken.lists]
      exact List.mem_append_right _ List.mem_cons_self
    have one := inv.eq_of_name mem taken.mem (named.trans taken.named.symm)
    have same := inv.sorted.eq_of_key here there (Prod.ext_iff.1 one).1
    rw [same] at single
    have length := congrArg List.length single
    simp only [List.length_append, List.length_cons, List.length_nil] at length
    have none : left.lockers = [] := by
      rw [taken.stay]
      exact List.eq_nil_of_length_eq_zero (by rw [List.length_append]; omega)
    rw [none] at some
    cases some
  | emptied taken empty =>
    rename_i ts' k item' left before after pre post
    have there : left.timerId ∈ timerIds M.timers := by
      rw [taken.lists, timerIds]
      simp
    obtain ⟨i, small, id⟩ := holds.range _ there
    have room : i < M.timerEx.timers.length := holds.size.symm ▸ small
    have room' : i < (M.timerEx.deleteTimer i).timers.length := by
      rw [deleteTimer_eq room small, put, List.length_set]
      exact room
    have second : (M.timerEx.deleteTimer i).deleteTimer i =
        ((M.timerEx.put i { M.timerEx.slot i with used := false } [.timeKillEvent (M.timerEx.slot i).id, .timeEndPeriod]).put i
          { M.timerEx.slot i with used := false } [.timeKillEvent (M.timerEx.slot i).id, .timeEndPeriod]) := by
      rw [deleteTimer_eq room' small, deleteTimer_eq room small, slot_put room, if_pos rfl]
    show ¬ Handles.Clean ((M.timerEx.deleteTimer left.timerId).deleteTimer left.timerId).handles
    rw [id, second, handles_put, handles_put, List.append_assoc]
    exact Handles.not_clean_twice holds.proper _

theorem timerIds_modify {f : CTimerLockerList → CTimerLockerList} (same : ∀ list, (f list).timerId = list.timerId) (k : Nat)
    (ts : List (Nat × CTimerLockerList)) : timerIds (KeyedList.modify k f ts) = timerIds ts := by
  induction ts with
  | nil => rfl
  | cons x ts ih =>
    rw [KeyedList.modify]
    split
    · simp only [timerIds, List.map_cons, same]
    · rw [timerIds, List.map_cons, ← timerIds, ih]
      rfl

theorem createTimer_fails {w w' : CTimerWinmm} {ret id : Int} {ms : Nat}
    (create : CTimerWinmm.createTimer answer ms w = (ret, id, w')) (fails : ret ≠ 0) :
    answer = 0 ∧ id = w.createTimerId ∧ w' = { w with calls := w.calls ++ [.timeBeginPeriod, .timeSetEvent 0] } := by
  unfold CTimerWinmm.createTimer at create
  simp only at create
  split at create
  · rename_i zero
    cases create
    exact ⟨zero, rfl, by rw [zero]⟩
  · cases create
    exact absurd rfl fails

/-- A deletion that keeps the keys makes no list. -/
theorem absent_of_find {ts ts' : List (Nat × CTimerLockerList)} {key : Nat} (keys : ts'.map Prod.fst = ts.map Prod.fst)
    (new : KeyedList.find key ts' = none) : ¬ ∃ x ∈ ts, x.1 = key := by
  rintro ⟨x, mem, rfl⟩
  have there : x.1 ∈ ts'.map Prod.fst := keys ▸ List.mem_map_of_mem mem
  obtain ⟨y, mem', same⟩ := List.mem_map.1 there
  exact KeyedList.find_eq_none.1 new y mem' same

/-- A request that keeps what there is. -/
theorem requested_kept {ms : Int} {r : Option Nat} {events : List Event} (holds : Holds (timerIds M.timers) M.timerEx)
    (keeps : KeptRequest M m name ms answer)
    (fresh : answer ≠ 0 → answer ∉ (deleteTimerLocker winmm M name).2.1.timerEx.live)
    (h : getTimerLockerByTime m winmm M name ms callback answer = some (r, M', events)) :
    Holds (timerIds M'.timers) M'.timerEx := by
  obtain ⟨-, req, -⟩ := getTimerLockerByTime_cases h
  obtain ⟨ids, keys, timers⟩ := deleted_kept keeps.1
  generalize (deleteTimerLocker winmm M name).2.1 = M₁ at req fresh ids keys timers
  rw [← ids, ← timers] at holds
  cases req with
  | found found has =>
    show Holds (timerIds (KeyedList.modify _ _ _)) _
    rw [timerIds_modify]
    · exact holds
    · exact fun list => rfl
  | noTimer found has => exact holds
  | created new create =>
    obtain ⟨some, room⟩ := keeps.2.resolve_left (absent_of_find keys new)
    rw [← timers] at room
    refine (holds.create room (Option.some.inj create) (fresh some)).perm (List.Perm.symm ?_)
    exact (KeyedList.insert_perm _ _ _).map _
  | failed new create fails =>
    obtain ⟨some, -⟩ := keeps.2.resolve_left (absent_of_find keys new)
    exact absurd (createTimer_fails (Option.some.inj create) fails).1 some

/-- A timer that cannot be had is deleted all the same: a timer is killed that is not in use or that another list has,
or a period is not ended. -/
theorem failed_unbalanced {ts : List (Nat × CTimerLockerList)} {w w' : CTimerWinmm} {nextId : Nat}
    (holds : Holds (timerIds ts) w) (timers : w'.timers = w.timers)
    (calls : w'.calls = w.calls ++ [.timeBeginPeriod, .timeSetEvent 0]) :
    ¬ Balanced ⟨ts, nextId, deleteTimer w'.createTimerId w'⟩ := by
  intro balanced
  have nothing : w'.handles = w.handles := by
    rw [handles, calls, List.filterMap_append]
    exact List.append_nil _
  have size : w'.timers.length = 64 := timers ▸ holds.size
  have le : w'.createTimerId ≤ w'.timers.length := List.findIdx_le_length
  by_cases room : w'.createTimerId < w'.timers.length
  · rw [deleteTimer_eq room (size ▸ room)] at balanced
    by_cases inUse : (w'.slot w'.createTimerId).id ∈ w'.live
    · have length := balanced.live.length_eq
      have before := holds.live.length_eq
      have fewer := List.length_erase_of_mem inUse
      have positive := List.length_pos_of_mem inUse
      rw [live_put] at length
      change (w'.live.erase (w'.slot w'.createTimerId).id).length = _ at length
      have same : w'.live = w.live := by rw [live, nothing, live]
      simp only [timerIds, List.length_map] at length before
      rw [same] at fewer positive length
      omega
    · have clean := balanced.clean
      rw [handles_put] at clean
      exact Handles.not_clean_of_not_live inUse clean
  · have full : w'.createTimerId = 64 := by omega
    have outside : deleteTimer w'.createTimerId w' = w' := by
      have none : w'.timers[64]? = none := List.getElem?_eq_none (by rw [size])
      rw [full, deleteTimer]
      simp [none]
    have periods := balanced.periods
    have periods' := holds.periods
    simp only [outside] at periods
    rw [live, nothing, ← live, calls] at periods
    simp only [List.count_append, List.count_cons, List.count_nil, beq_iff_eq, reduceCtorEq, if_true, if_false] at periods
    omega

/-- A timer without a slot is in use, and no list can name it. -/
theorem full_unbalanced {ts : List (Nat × CTimerLockerList)} {w : CTimerWinmm} {key ms nextId : Nat} {list : CTimerLockerList}
    (holds : Holds (timerIds ts) w) (full : ¬ w.HasRoom) (some : answer ≠ 0) (fresh : answer ∉ w.live)
    (id : list.timerId = w.createTimerId) :
    ¬ Balanced ⟨KeyedList.insert key list ts, nextId,
      w.put w.createTimerId { id := answer, ms, used := true } [.timeBeginPeriod, .timeSetEvent answer]⟩ := by
  intro balanced
  have outside : w.timers.length ≤ w.createTimerId := Nat.not_lt.1 (mt hasRoom_iff.2 full)
  have same : w.timers.set w.createTimerId { id := answer, ms, used := true } = w.timers :=
    List.set_eq_of_length_le outside
  have hTimers : (w.put w.createTimerId { id := answer, ms, used := true }
      [.timeBeginPeriod, .timeSetEvent answer]).hTimer = w.hTimer := by
    funext id
    rw [hTimer, put, same, hTimer]
  have mem : answer ∈ (KeyedList.insert key list ts).map fun x => w.hTimer x.2.timerId := by
    have live := balanced.live.mem_iff (a := answer)
    rw [live_put, handle_create some, hTimers] at live
    exact live.1 List.mem_cons_self
  have perm := (KeyedList.insert_perm key list ts).map fun x => w.hTimer x.2.timerId
  rw [perm.mem_iff, List.map_cons, id] at mem
  rcases List.mem_cons.1 mem with nothing | mem
  · rw [hTimer_eq, slot, List.getD_eq_getElem?_getD, List.getElem?_eq_none outside] at nothing
    exact some nothing
  · refine fresh (holds.live.mem_iff.2 ?_)
    rw [timerIds, List.map_map]
    exact mem

theorem deleteTimer_calls (id : Int) (w : CTimerWinmm) : ∃ more, (deleteTimer id w).calls = w.calls ++ more := by
  unfold deleteTimer
  split
  · exact ⟨[], (List.append_nil _).symm⟩
  · exact ⟨_, rfl⟩

/-- What a request does behind the deletion does not take calls back. -/
theorem requested_handles {r : Option Nat} (req : Requested m winmm M name period callback answer r M') :
    ∃ more, M'.timerEx.handles = M.timerEx.handles ++ more := by
  cases req with
  | found found has => exact ⟨[], (List.append_nil _).symm⟩
  | noTimer found has => exact ⟨[], (List.append_nil _).symm⟩
  | created new create =>
    obtain ⟨-, -, rfl⟩ := createTimer_eq (Option.some.inj create)
    exact ⟨_, handles_put _ _ _ _⟩
  | failed new create fails =>
    rename_i ret id w
    obtain ⟨-, -, rfl⟩ := createTimer_fails (Option.some.inj create) fails
    obtain ⟨more, calls⟩ := deleteTimer_calls id
      { M.timerEx with calls := M.timerEx.calls ++ [.timeBeginPeriod, .timeSetEvent 0] }
    refine ⟨([OsCall.timeBeginPeriod, .timeSetEvent 0] ++ more).filterMap OsCall.handle, ?_⟩
    show (deleteTimer id { M.timerEx with calls := _ }).calls.filterMap OsCall.handle = _
    rw [calls, List.append_assoc, List.filterMap_append]
    rfl

/-- Every request returns. -/
theorem requested_total (positive : 1 ≤ m) (ms : Int) :
    ∃ r M' events, getTimerLockerByTime m winmm M name ms callback answer = some (r, M', events) := by
  simp only [getTimerLockerByTime, getList]
  rw [if_neg (by omega), ← effective]
  generalize getDivisor m (effective m ms) = key
  cases KeyedList.find key (deleteTimerLocker winmm M name).2.1.timers with
  | some list =>
    simp only
    split
    · exact ⟨_, _, _, rfl⟩
    · exact ⟨_, _, _, rfl⟩
  | none =>
    obtain ⟨⟨ret, id, w⟩, create⟩ : ∃ x, winmm.createTimer answer key (deleteTimerLocker winmm M name).2.1.timerEx =
        some x := ⟨_, rfl⟩
    simp only [create]
    by_cases fails : ret ≠ 0
    · simp only [if_pos fails]
      exact ⟨_, _, _, rfl⟩
    · simp only [if_neg fails]
      split
      · exact ⟨_, _, _, rfl⟩
      · exact ⟨_, _, _, rfl⟩

theorem requested_breaks {ms : Int} (positive : 1 ≤ m) (inv : Inv M.timers M.nextId)
    (holds : Holds (timerIds M.timers) M.timerEx)
    (fresh : answer ≠ 0 → answer ∉ (deleteTimerLocker winmm M name).2.1.timerEx.live)
    (bad : ¬ KeptRequest M m name ms answer) :
    ∃ r M' events, getTimerLockerByTime m winmm M name ms callback answer = some (r, M', events) ∧ ¬ Balanced M' := by
  obtain ⟨r, M', events, h⟩ : ∃ r M' events,
      getTimerLockerByTime m winmm M name ms callback answer = some (r, M', events) := requested_total positive ms
  refine ⟨r, M', events, h, ?_⟩
  obtain ⟨-, req, -⟩ := getTimerLockerByTime_cases h
  by_cases empties : Empties M.timers name
  · have dirty := deleted_empties inv holds empties
    obtain ⟨more, log⟩ := requested_handles req
    intro balanced
    have clean := balanced.clean
    rw [log] at clean
    exact Handles.not_clean_append dirty more clean
  · obtain ⟨absent, bad⟩ := not_or.1 fun kept => bad ⟨empties, kept⟩
    obtain ⟨ids, keys, timers⟩ := deleted_kept empties
    generalize (deleteTimerLocker winmm M name).2.1 = M₁ at req fresh ids keys timers
    have new : KeyedList.find (getDivisor m (effective m ms)) M₁.timers = none := by
      refine KeyedList.find_eq_none.2 fun x mem same => absent ?_
      have key : x.1 ∈ M.timers.map Prod.fst := keys ▸ List.mem_map_of_mem mem
      obtain ⟨y, mem', key⟩ := List.mem_map.1 key
      exact ⟨y, mem', key.trans same⟩
    rw [← ids, ← timers] at holds
    rw [← timers] at bad
    cases req with
    | found found | noTimer found =>
      rw [new] at found
      cases found
    | created _ create =>
      obtain ⟨some, rfl, rfl⟩ := createTimer_eq (Option.some.inj create)
      exact full_unbalanced holds (fun room => bad ⟨some, room⟩) some (fresh some) rfl
    | failed _ create fails =>
      obtain ⟨-, rfl, rfl⟩ := createTimer_fails (Option.some.inj create) fails
      exact failed_unbalanced holds rfl rfl

/-- The manager and its slots fit together. -/
structure Synced (s : State CTimerWinmm) : Prop where
  inv : Inv s.manager.timers s.manager.nextId
  holds : Holds (timerIds s.manager.timers) s.manager.timerEx

theorem callbackTimer_kept (M : Manager CTimerWinmm) (ms : Nat) :
    timerIds (callbackTimer M ms).1.timers = timerIds M.timers ∧ (callbackTimer M ms).1.timerEx = M.timerEx := by
  unfold callbackTimer
  split
  · exact ⟨rfl, rfl⟩
  · refine ⟨?_, rfl⟩
    show timerIds (KeyedList.modify ms _ M.timers) = _
    apply timerIds_modify
    intro list
    rfl

theorem holds_deleted (holds : Holds (timerIds M.timers) M.timerEx) (keeps : ¬ Empties M.timers name) :
    Holds (timerIds (deleteTimerLocker winmm M name).2.1.timers) (deleteTimerLocker winmm M name).2.1.timerEx := by
  obtain ⟨ids, -, timers⟩ := deleted_kept keeps
  rw [ids, timers]
  exact holds

theorem Synced.step {l : Nat × Act Nat} (synced : Synced s) (documented : Documented s l) (keeps : Kept s l)
    (h : stepAt winmm s l = some t) : Synced t := by
  refine ⟨(synced.inv.step h).1, ?_⟩
  obtain ⟨m, a⟩ := l
  cases a with
  | getTimerLockerByTime name ms callback answer =>
    obtain ⟨⟨r, M', events⟩, made, rfl⟩ := Option.map_eq_some_iff.1 h
    exact requested_kept synced.holds keeps documented.2 made
  | getTimerLockerByFps name fps callback answer =>
    obtain ⟨⟨r, M', events⟩, made, rfl⟩ := Option.map_eq_some_iff.1 h
    simp only [getTimerLockerByFps] at made
    split at made
    · cases made
      exact synced.holds
    · rename_i some
      exact requested_kept synced.holds (keeps.resolve_left some) documented.2 made
  | deleteTimerLocker name =>
    cases h
    exact holds_deleted synced.holds keeps
  | deletePointer id =>
    obtain ⟨x, found, rfl⟩ := Option.map_eq_some_iff.1 h
    exact holds_deleted synced.holds
      (keeps x (List.mem_of_find?_eq_some found) (by simpa using List.find?_some found))
  | callbackTimer ms =>
    cases h
    obtain ⟨ids, timers⟩ := callbackTimer_kept s.manager ms
    show Holds (timerIds (callbackTimer s.manager ms).1.timers) (callbackTimer s.manager ms).1.timerEx
    rw [ids, timers]
    exact synced.holds
  | exit =>
    cases h
    have destroyed := Holds.destroy synced.holds
    show Holds [] (CTimerWinmm.deleteTimerAll _)
    rw [destroyed.deleteTimerAll]
    exact destroyed

/-- A deletion that removes a list. -/
theorem deleted_unbalanced (synced : Synced s) (empties : Empties s.manager.timers name) :
    ¬ Balanced (deleteTimerLocker winmm s.manager name).2.1 :=
  fun balanced => deleted_empties synced.inv synced.holds empties balanced.clean

theorem Synced.breaks {l : Nat × Act Nat} (synced : Synced s) (documented : Documented s l) (bad : ¬ Kept s l) :
    ∃ t, stepAt winmm s l = some t ∧ ¬ Balanced t.manager := by
  obtain ⟨m, a⟩ := l
  cases a with
  | getTimerLockerByTime name ms callback answer =>
    obtain ⟨r, M', events, made, unbalanced⟩ : ∃ r M' events,
        getTimerLockerByTime m winmm s.manager name ms callback answer = some (r, M', events) ∧ ¬ Balanced M' :=
      requested_breaks documented.1 synced.inv synced.holds documented.2 bad
    exact ⟨⟨M', .pointer r, events⟩, by simp only [stepAt, TimerLists.step, made, Option.map_some], unbalanced⟩
  | getTimerLockerByFps name fps callback answer =>
    obtain ⟨rate, bad⟩ := not_or.1 bad
    obtain ⟨r, M', events, made, unbalanced⟩ : ∃ r M' events,
        getTimerLockerByTime m winmm s.manager name (Int.tdiv 1000 fps) callback answer = some (r, M', events) ∧
          ¬ Balanced M' := requested_breaks documented.1 synced.inv synced.holds documented.2 bad
    refine ⟨⟨M', .pointer r, events⟩, ?_, unbalanced⟩
    simp only [stepAt, TimerLists.step, getTimerLockerByFps, if_neg rate, made, Option.map_some]
  | deleteTimerLocker name => exact ⟨_, rfl, deleted_unbalanced synced (not_not.1 bad)⟩
  | deletePointer id =>
    have bad : ∃ x ∈ held s.manager.timers, x.2.id = id ∧ Empties s.manager.timers x.2.name := by
      by_contra none
      exact bad fun x mem here empties => none ⟨x, mem, here, empties⟩
    obtain ⟨x, mem, here, empties⟩ := bad
    cases found : (held s.manager.timers).find? fun x => x.2.id = id with
    | none => exact absurd (decide_eq_true here) (List.find?_eq_none.1 found x mem)
    | some y =>
      have one : y = x := synced.inv.eq_of_id (List.mem_of_find?_eq_some found) mem
        ((by simpa using List.find?_some found : y.2.id = id).trans here.symm)
      subst one
      exact ⟨_, by simp only [stepAt, TimerLists.step, found, Option.map_some]; rfl, deleted_unbalanced synced empties⟩
  | callbackTimer ms => exact absurd trivial bad
  | exit => exact absurd trivial bad

end Steps

/-- **The calls of the system are balanced** in every state of a run exactly where no operation removes a list, by
deleting or replacing its last locker, and each new list has a free slot and a `timeSetEvent` that does not fail: a list
that is removed has its timer killed twice, a timer that could not be had is killed too, and one without a slot is never
killed. The lists that the destructor of the manager finds have theirs killed once. -/
theorem timers_balanced_iff (acts : List (Nat × Act Nat))
    (documented : Along (stepAt winmm) Documented (initial CTimerWinmm.initial) acts) :
    Throughout (stepAt winmm) (fun s => Balanced s.manager) (initial CTimerWinmm.initial) acts ↔
      Along (stepAt winmm) Kept (initial CTimerWinmm.initial) acts :=
  throughout_iff_along_of (I := Synced) (fun synced doc keeps h => synced.step doc keeps h)
    (fun synced => balanced_of_holds synced.holds) (fun synced doc bad => synced.breaks doc bad)
    ⟨inv_nil 0, CTimerWinmm.holds_initial⟩ documented

/-- Two lockers of one list and the end of the program. -/
theorem timers_balanced_exit : Throughout (stepAt winmm) (fun s => Balanced s.manager) (initial CTimerWinmm.initial)
    [(10, .getTimerLockerByTime "a" 20 false 7), (10, .getTimerLockerByTime "b" 30 false 0), (10, .deleteTimerLocker "a"),
      (10, .exit)] :=
  (timers_balanced_iff _ (by decide +kernel)).2 (by decide +kernel)

/-- The only locker of a list is deleted: its timer is killed, and then killed again. -/
theorem deleted_list_unbalanced : ∃ s, run (stepAt winmm) (initial CTimerWinmm.initial)
      [(10, .getTimerLockerByTime "a" 20 false 7), (10, .deleteTimerLocker "a")] = some s ∧
    s.manager.timerEx.calls = [.timeBeginPeriod, .timeSetEvent 7, .timeKillEvent 7, .timeEndPeriod, .timeKillEvent 7,
      .timeEndPeriod] ∧ ¬ Balanced s.manager := by
  refine ⟨_, rfl, by decide +kernel, fun balanced => ?_⟩
  have live := balanced.clean [.acquire 7, .release 7] 7 [] (by decide +kernel)
  exact absurd live (by decide)

end CameraEv.TimerLists
