import CameraEv.Common.RepeatWorkProc

/-!
# The timers of the works

`AddWork` stores whatever `GetTimerLockerByTime` returns, and returns 0. A null
pointer in `m_map_timer` is found by the `DeleteWork` or the `Deactivate` that
hands it to `DeleteTimerLocker`. Each pointer that is not null is a live locker
until its own call deletes it, since the names of the lockers tell the types of
the works apart.
-/

namespace CameraEv.RepeatWorkProc

open Trace KeyedList

namespace State

variable {F : Type}

/-- A live locker of the type's name. -/
def Live (m : CTimerLockerManager) (workType : Int) (timer : Option Nat) : Prop :=
  ∃ l ∈ m.lockers, timer = some l.id ∧ l.name = Decoder.getTimerName workType

/-- What the control calls rely on. -/
structure Sound (s : State F) : Prop where
  /-- `m_map_timer` holds no null pointer. -/
  filled : ∀ x ∈ s.mapTimer, x.2 ≠ none
  /-- `AddWork` has a live timer when it is about to return 0. -/
  obtained : ∀ inside workType timer, s.control = .addTimer inside workType timer → Live s.manager workType timer
  /-- `DeleteTimerLocker` finds the locker whose name it asks for. -/
  deletes : ∀ inside workType timer, s.control = .deleteTimer inside workType timer → ∃ l, timer.bind s.manager.find = some l
  deactivates : ∀ workType timer timers, s.control = .deactivate ((workType, timer) :: timers) →
    ∃ l, timer.bind s.manager.find = some l

/-- `GetTimerLockerByTime` returns a timer to `AddWork`. -/
def Granted (s : State F) (a : Act F) : Prop :=
  ∀ inside workType ms created, s.control = .getTimer inside workType ms → a = .control created → s.callback = none →
    (s.manager.getTimerLockerByTime (Decoder.getTimerName workType) ms created).1 ≠ none

/-- The pointers that a control call has not used up. -/
def relied (s : State F) : List (Int × Option Nat) := match s.control with
  | .addTimer _ workType timer => (workType, timer) :: s.mapTimer
  | .eraseTimer _ workType => erase workType s.mapTimer
  | .deactivate timers => timers
  | .clearTimers => []
  | _ => s.mapTimer

/-- The pointers that the control call hands to `DeleteTimerLocker`. -/
def handed (s : State F) : List (Int × Option Nat) := match s.control with
  | .deleteTimer _ workType timer => [(workType, timer)]
  | .deactivate timers => timers
  | _ => []

structure Pointers (s : State F) : Prop where
  distinct : s.manager.Distinct
  live : ∀ x ∈ s.relied, x.2 = none ∨ Live s.manager x.1 x.2
  keys : (s.relied.map Prod.fst).Nodup
  stored : ∀ x ∈ s.handed, x ∈ s.mapTimer

/-! ## The names of the lockers -/

theorem getTimerName_inj {k k' : Int} (same : Decoder.getTimerName k = Decoder.getTimerName k') : k = k' :=
  Int.repr_injective (String.append_right_inj _ |>.1 same)

variable {m m' : CTimerLockerManager} {k : Int} {timer : Option Nat}

theorem live_find (distinct : m.Distinct) (live : Live m k timer) :
    ∃ l, timer.bind m.find = some l ∧ l.name = Decoder.getTimerName k := by
  obtain ⟨l, mem, rfl, named⟩ := live
  exact ⟨l, distinct.find_eq mem, named⟩

theorem live_kept (distinct : m.Distinct) (kept : Kept m m') (live : Live m k timer) : Live m' k timer := by
  obtain ⟨l, mem, address, named⟩ := live
  exact ⟨l, kept.lockers distinct l mem (named ▸ Decoder.State.getTimerName_ne k), address, named⟩

/-- The locker of another type is deleted. -/
theorem live_delete (distinct : m.Distinct) {k' : Int} (other : k ≠ k') (live : Live m k timer) :
    Live (m.deleteTimerLocker (Decoder.getTimerName k')).1 k timer := by
  obtain ⟨l, mem, address, named⟩ := live
  refine ⟨l, ?_, address, named⟩
  rw [m.lockers_deleteTimerLocker]
  exact (CTimerLockerManager.mem_eraseP_name distinct.names _ l).2
    ⟨mem, fun same => other (getTimerName_inj (named.symm.trans same))⟩

/-- A timer is asked for another type. -/
theorem live_get (distinct : m.Distinct) {k' : Int} (other : k ≠ k') (ms : Int) (created : Bool) (live : Live m k timer) :
    Live (m.getTimerLockerByTime (Decoder.getTimerName k') ms created).2 k timer := by
  obtain ⟨l, mem, address, named⟩ := live
  have stays := (CTimerLockerManager.mem_eraseP_name distinct.names (Decoder.getTimerName k') l).2
    ⟨mem, fun same => other (getTimerName_inj (named.symm.trans same))⟩
  refine ⟨l, ?_, address, named⟩
  rcases m.getTimerLockerByTime_spec (Decoder.getTimerName k') ms created with ⟨-, -, lockers, -⟩ | ⟨-, lockers, -⟩
  · rw [lockers]
    exact stays
  · exact lockers.mem_iff.2 (List.mem_cons_of_mem _ stays)

/-- The timer that is returned, unless it is null, is the new locker. -/
theorem live_new (m : CTimerLockerManager) (k ms : Int) (created : Bool) :
    (m.getTimerLockerByTime (Decoder.getTimerName k) ms created).1 = none ∨
      Live (m.getTimerLockerByTime (Decoder.getTimerName k) ms created).2 k
        (m.getTimerLockerByTime (Decoder.getTimerName k) ms created).1 := by
  rcases m.getTimerLockerByTime_spec (Decoder.getTimerName k) ms created with ⟨null, -⟩ | ⟨got, lockers, -⟩
  · exact .inl null
  · exact .inr ⟨_, lockers.mem_iff.2 List.mem_cons_self, got, rfl⟩

/-! ## The pointers over a run -/

variable {s t : State F} {a : Act F}

/-- The pointer that is handed to `DeleteTimerLocker`: null, or the locker of its type. -/
theorem deleteTimerLocker_eq (distinct : s.manager.Distinct) (live : timer = none ∨ Live s.manager k timer)
    (h : s.deleteTimerLocker timer = some m) : m = (s.manager.deleteTimerLocker (Decoder.getTimerName k)).1 := by
  obtain ⟨l, found, h⟩ := Option.bind_eq_some_iff.1 h
  rcases live with null | live
  · rw [null] at found
    cases found
  · obtain ⟨l', found', named⟩ := live_find distinct live
    obtain rfl := Option.some.inj (found.symm.trans found')
    split at h
    · cases h
      rw [named]
    · cases h

theorem distinct_delete (distinct : m.Distinct) (name : String) : (m.deleteTimerLocker name).1.Distinct :=
  distinct.eraseP (m.lockers_deleteTimerLocker name) rfl

/-- Between the deletions all pointers of the map are relied on. -/
theorem pointers_of (distinct : t.manager.Distinct) (live : ∀ x ∈ t.mapTimer, x.2 = none ∨ Live t.manager x.1 x.2)
    (keys : (t.mapTimer.map Prod.fst).Nodup) (relied : t.relied = t.mapTimer) (handed : t.handed = []) : t.Pointers := by
  refine ⟨distinct, relied.symm ▸ live, relied.symm ▸ keys, fun x mem => ?_⟩
  rw [handed] at mem
  cases mem

theorem Pointers.stepControl (pointers : s.Pointers) (inv : s.Inv) {created : Bool}
    (h : s.stepControl created s.control = some t) : t.Pointers := by
  obtain ⟨distinct, live, nodup, stored⟩ := pointers
  have keys := inv.keys
  unfold relied at live nodup
  unfold handed at stored
  generalize here : s.control = control at h live nodup stored keys
  cases goes_of_stepControl h with
  | @getTimer inside workType ms quiet =>
    have new := find_eq_none.1 keys.1
    refine ⟨distinct.getTimerLockerByTime _ ms created, ?_, ?_, fun x mem => by cases mem⟩
    · intro x mem
      rcases List.mem_cons.1 mem with rfl | mem
      · exact live_new _ workType ms created
      · exact (live x mem).imp_right (live_get distinct (new x mem) ms created)
    · refine List.nodup_cons.2 ⟨fun mem => ?_, nodup⟩
      obtain ⟨x, mem', same⟩ := List.mem_map.1 mem
      exact new x mem' same
  | @addTimer inside workType timer =>
    have perm : (assign workType timer s.mapTimer).Perm ((workType, timer) :: s.mapTimer) := by
      rw [assign_of_new (find_eq_none.1 keys.1)]
      exact insert_perm workType timer s.mapTimer
    exact pointers_of distinct (fun x mem => live x (perm.mem_iff.1 mem)) (((perm.map _).nodup_iff).2 nodup) rfl rfl
  | deleteTimer deleted =>
    have mem := stored _ List.mem_cons_self
    have same := deleteTimerLocker_eq distinct (live _ mem) deleted
    subst same
    refine ⟨distinct_delete distinct _, fun x mem' => ?_, ?_, fun x mem' => by cases mem'⟩
    · obtain ⟨old, other⟩ := mem_erase.1 mem'
      exact (live x old).imp_right (live_delete distinct other)
    · exact nodup.sublist (List.filter_sublist.map _)
  | deactivated => exact ⟨distinct, (fun x mem => by cases mem), List.nodup_nil, (fun x mem => by cases mem)⟩
  | @deactivate workType timer timers manager deleted =>
    have same := deleteTimerLocker_eq distinct (live _ List.mem_cons_self) deleted
    subst same
    obtain ⟨new, nodup⟩ := List.nodup_cons.1 nodup
    refine ⟨distinct_delete distinct _, fun x mem => ?_, nodup, fun x mem => stored x (List.mem_cons_of_mem _ mem)⟩
    have left : x ∈ timers := mem
    have other : x.1 ≠ workType := by
      rintro rfl
      exact new (List.mem_map.2 ⟨x, left, rfl⟩)
    exact (live x (List.mem_cons_of_mem _ mem)).imp_right (live_delete distinct other)
  | clearWorks => exact pointers_of distinct (keys ▸ live) (keys ▸ nodup) rfl rfl
  | empty first => exact pointers_of distinct live nodup (by simp only [relied, here]) (by simp only [handed, here])
  | _ => exact pointers_of distinct live nodup rfl rfl

theorem Pointers.step (pointers : s.Pointers) (inv : s.Inv) (h : s.step a = some t) : t.Pointers := by
  cases moves_of_step h with
  | control created act goes => exact pointers.stepControl inv goes
  | adds inside workType ms work act idle new same =>
    subst same
    have live := pointers.live
    have nodup := pointers.keys
    simp only [relied, idle] at live nodup
    exact pointers_of pointers.distinct live nodup rfl rfl
  | deletes inside workType timer idle found same =>
    subst same
    have live := pointers.live
    have nodup := pointers.keys
    simp only [relied, idle] at live nodup
    refine ⟨pointers.distinct, live, nodup, fun x mem => ?_⟩
    rw [List.mem_singleton.1 mem]
    exact mem_of_find found
  | deactivates idle same =>
    subst same
    have live := pointers.live
    have nodup := pointers.keys
    simp only [relied, idle] at live nodup
    exact ⟨pointers.distinct, live, nodup, fun x mem => mem⟩
  | apart mapWork mapTimer control manager =>
    have relied : t.relied = s.relied := by simp only [State.relied, control, mapTimer]
    have handed : t.handed = s.handed := by simp only [State.handed, control]
    refine ⟨manager.distinct pointers.distinct, ?_, relied ▸ pointers.keys, ?_⟩
    · rw [relied]
      exact fun x mem => (pointers.live x mem).imp_right (live_kept pointers.distinct manager)
    · rw [handed, mapTimer]
      exact pointers.stored

theorem pointers_initial : ({} : State F).Pointers :=
  pointers_of ⟨List.nodup_nil, List.nodup_nil, fun l mem => by cases mem⟩ (fun x mem => by cases mem) List.nodup_nil rfl rfl

/-! ## No null pointer -/

/-- Every timer that was asked for was had. -/
structure Filled (s : State F) : Prop where
  inv : s.Inv
  pointers : s.Pointers
  filled : ∀ x ∈ s.mapTimer, x.2 ≠ none
  obtained : ∀ inside workType timer, s.control = .addTimer inside workType timer → timer ≠ none

theorem Filled.sound (filled : s.Filled) : s.Sound := by
  obtain ⟨inv, pointers, all, obtained⟩ := filled
  have live := pointers.live
  have stored := pointers.stored
  refine ⟨all, fun inside workType timer here => ?_, fun inside workType timer here => ?_,
    fun workType timer timers here => ?_⟩
  · simp only [relied, here] at live
    exact (live _ List.mem_cons_self).resolve_left (obtained inside workType timer here)
  · simp only [relied, handed, here] at live stored
    have mem := stored _ List.mem_cons_self
    obtain ⟨l, found, -⟩ := live_find pointers.distinct ((live _ mem).resolve_left (all _ mem))
    exact ⟨l, found⟩
  · simp only [relied, handed, here] at live stored
    have mem := stored _ List.mem_cons_self
    obtain ⟨l, found, -⟩ := live_find pointers.distinct ((live _ List.mem_cons_self).resolve_left (all _ mem))
    exact ⟨l, found⟩

/-- A pointer gets into the map by `AddWork` only. -/
theorem mem_mapTimer_of_stepControl (inv : s.Inv) {created : Bool} (h : s.stepControl created s.control = some t)
    {x : Int × Option Nat} (mem : x ∈ t.mapTimer) : x ∈ s.mapTimer ∨ ∃ inside, s.control = .addTimer inside x.1 x.2 := by
  have keys := inv.keys
  generalize s.control = control at h keys
  cases goes_of_stepControl h with
  | @addTimer inside workType timer =>
    simp only [assign_of_new (find_eq_none.1 keys.1)] at mem
    rcases mem_insert.1 mem with rfl | mem
    · exact .inr ⟨inside, rfl⟩
    · exact .inl mem
  | eraseTimer => exact .inl (mem_erase.1 mem).1
  | clearTimers => cases mem
  | _ => exact .inl mem

/-- What `AddWork` is about to store is what `GetTimerLockerByTime` has returned. -/
theorem addTimer_of_stepControl {created inside : Bool} {workType : Int}
    (h : s.stepControl created s.control = some t) (here : t.control = .addTimer inside workType timer) :
    ∃ ms, s.control = .getTimer inside workType ms ∧ s.callback = none ∧
      timer = (s.manager.getTimerLockerByTime (Decoder.getTimerName workType) ms created).1 := by
  generalize before : s.control = control at h
  cases goes_of_stepControl h with
  | @getTimer inside workType ms quiet =>
    cases here
    exact ⟨ms, rfl, quiet, rfl⟩
  | empty first => cases before.symm.trans here
  | _ => cases here

theorem Filled.step (filled : s.Filled) (granted : s.Granted a) (h : s.step a = some t) : t.Filled := by
  obtain ⟨inv, pointers, all, obtained⟩ := filled
  refine ⟨inv.step h, pointers.step inv h, ?_, ?_⟩
  · intro x mem
    cases moves_of_step h with
    | control created act goes =>
      rcases mem_mapTimer_of_stepControl inv goes mem with old | ⟨inside, here⟩
      · exact all x old
      · exact obtained inside x.1 x.2 here
    | adds inside workType ms work act idle new same =>
      subst same
      exact all x mem
    | deletes inside workType timer idle found same =>
      subst same
      exact all x mem
    | deactivates idle same =>
      subst same
      exact all x mem
    | apart mapWork mapTimer control manager => exact all x (mapTimer ▸ mem)
  · intro inside workType timer here
    cases moves_of_step h with
    | control created act goes =>
      obtain ⟨ms, before, quiet, rfl⟩ := addTimer_of_stepControl goes here
      exact granted inside workType ms created before act quiet
    | adds inside' workType' ms work act idle new same =>
      subst same
      cases here
    | deletes inside' workType' timer' idle found same =>
      subst same
      cases here
    | deactivates idle same =>
      subst same
      cases here
    | apart mapWork mapTimer control manager => exact obtained inside workType timer (control ▸ here)

/-- A request without a timer leaves `AddWork` with a null pointer. -/
theorem null_of_not_granted (refused : ¬ s.Granted a) : ∃ t, s.step a = some t ∧ ¬ t.Sound := by
  simp only [Granted, not_forall, not_not] at refused
  obtain ⟨inside, workType, ms, created, here, rfl, quiet, null⟩ := refused
  refine ⟨{ s with
      manager := (s.manager.getTimerLockerByTime (Decoder.getTimerName workType) ms created).2,
      control := .addTimer inside workType (s.manager.getTimerLockerByTime (Decoder.getTimerName workType) ms created).1 },
    by simp only [State.step, here, State.stepControl, if_pos quiet], fun sound => ?_⟩
  obtain ⟨l, -, address, -⟩ := sound.obtained inside workType _ rfl
  rw [null] at address
  cases address

end State

open State

variable {F : Type}

/-- **No null pointer gets into `m_map_timer`, and no call of `DeleteTimerLocker` meets one, exactly in the runs in which
`AddWork` is given a timer each time that it asks for one.** -/
theorem timers_sound_iff (acts : List (Act F)) :
    Throughout step Sound ({} : State F) acts ↔ Along step Granted ({} : State F) acts :=
  throughout_iff_along (fun filled granted h => Filled.step filled granted h) (fun filled => filled.sound)
    (fun _ refused => null_of_not_granted refused)
    ⟨inv_initial, pointers_initial, (fun x mem => by cases mem), (fun _ _ _ here => by cases here)⟩

/-- `AddWork` up to its return, without a timer to be had. -/
private def refused : List (Act Unit) := [.addWork false 7 1000 (some ()), .control true, .control false, .control true]

/-- `AddWork` returns 0 with a null pointer in the map, and `DeleteWork` asks it for its name. -/
theorem timers_null : ∃ t u : State Unit, run step {} refused = some t ∧ t.control = .idle ∧ t.ret = some 0 ∧
    t.mapTimer = [(7, none)] ∧ t.mapWork = [(7, some ())] ∧ ¬ t.Sound ∧ t.step (.deleteWork false 7) = some u ∧
    u.control = .deleteTimer false 7 none ∧ u.step (.control true) = none ∧ u.step (.control false) = none := by
  refine ⟨_, _, rfl, rfl, rfl, rfl, rfl, fun sound => ?_, rfl, rfl, rfl, rfl⟩
  exact sound.filled (7, none) List.mem_cons_self rfl

end CameraEv.RepeatWorkProc
