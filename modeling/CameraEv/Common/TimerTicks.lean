import CameraEv.Common.TimerLists

/-!
# When a locker is woken

A locker of the effective period `T` is in the list of the least divisor `k` of
`T`, and every tick of that list adds `k` to its count. After `n` ticks the count
is `n * k` modulo `T`, whatever happens to other lockers, so that the locker is
woken at every `T / k`-th tick.
-/

namespace CameraEv.TimerLists

open Trace

variable {W A : Type}

def Event.id : Event → Nat
  | .wakeUp id | .callback id => id

/-- Whether the operation takes the locker away, by its name or by its pointer. -/
def Act.takes (name : String) (id : Nat) : Act A → Prop
  | .getTimerLockerByTime name' _ _ _ => name' = name
  | .getTimerLockerByFps name' fps _ _ => fps ≠ 0 ∧ name' = name
  | .deleteTimerLocker name' => name' = name
  | .deletePointer id' => id' = id
  | .callbackTimer _ => False
  | .exit => True

def Act.isTick (k : Nat) : Act A → Bool
  | .callbackTimer ms => ms = k
  | _ => false

/-- The ticks of the key. -/
def ticks (k : Nat) (acts : List (Act A)) : Nat := acts.countP (Act.isTick k)

section Step

variable {m nextId : Nat} {timerEx : TimerEx W A} {M M' : Manager W} {s t : State W} {a : Act A} {k : Nat} {item : Locker}
  {e : Event}

theorem id_of_sendEvent {k : Nat} {item : Locker} (mem : e ∈ (item.sendEvent k).2) : e.id = item.id := by
  unfold Locker.sendEvent at mem
  simp only at mem
  split at mem
  · rcases List.mem_cons.1 mem with rfl | mem
    · rfl
    · split at mem
      · rw [List.mem_singleton.1 mem]
        rfl
      · cases mem
  · cases mem

/-- In the events of a tick, those of a locker are its own. -/
theorem count_callbackTimer (inv : Inv M.timers M.nextId) (mem : (k, item) ∈ held M.timers) (mine : e.id = item.id)
    (ms : Nat) : (callbackTimer M ms).2.count e = if ms = k then (item.sendEvent k).2.count e else 0 := by
  have foreign : ∀ (x : Nat × Locker) (period : Nat), x ∈ held M.timers → x ≠ (k, item) →
      e ∉ (x.2.sendEvent period).2 := by
    intro x period mem' ne raised
    exact ne (inv.eq_of_id mem' mem ((id_of_sendEvent raised).symm.trans mine))
  unfold callbackTimer
  cases found : KeyedList.find ms M.timers with
  | none =>
    have ne : ms ≠ k := by
      rintro rfl
      obtain ⟨y, there, key⟩ := held_key mem
      exact KeyedList.find_eq_none.1 found y there key
    rw [if_neg ne]
    rfl
  | some list =>
    have there := KeyedList.mem_of_find found
    have period : list.period = ms := inv.keyed _ there
    simp only [CTimerLockerList.sendEvent, period]
    by_cases here : ms = k
    · subst here
      obtain ⟨list', there', mem'⟩ := mem_held.1 mem
      have same : list' = list := (Prod.ext_iff.1 (inv.sorted.eq_of_key there' there rfl)).2
      subst same
      obtain ⟨pre, post, lockers⟩ := List.append_of_mem mem'
      have distinct : (list'.lockers.map fun x => (ms, x)).Nodup := by
        have ids := inv.ids.of_map _
        obtain ⟨before, after, lists⟩ := List.append_of_mem there
        rw [lists, held_append, held_cons] at ids
        exact (List.nodup_append.1 (List.nodup_append.1 ids).2.1).1
      rw [lockers, List.map_append, List.map_cons] at distinct
      obtain ⟨-, tail, apart⟩ := List.nodup_append.1 distinct
      have others : ∀ x ∈ pre ++ post, (ms, x) ≠ (ms, item) := by
        intro x mem'' same
        rcases List.mem_append.1 mem'' with before | after
        · exact apart _ (List.mem_map_of_mem before) _ List.mem_cons_self same
        · exact (List.nodup_cons.1 tail).1 (same ▸ List.mem_map_of_mem after)
      have silent : ∀ part : List Locker, (∀ x ∈ part, x ∈ pre ++ post) →
          (part.flatMap fun x => (x.sendEvent ms).2).count e = 0 := by
        intro part sub
        rw [List.count_eq_zero, List.mem_flatMap]
        rintro ⟨x, mem'', raised⟩
        refine foreign (ms, x) ms (mem_held.2 ⟨list', there, ?_⟩) (others x (sub x mem'')) raised
        rw [lockers]
        rcases List.mem_append.1 (sub x mem'') with before | after
        · exact List.mem_append_left _ before
        · exact List.mem_append_right _ (List.mem_cons_of_mem _ after)
      rw [if_pos rfl, lockers, List.flatMap_append, List.flatMap_cons, List.count_append, List.count_append,
        silent pre fun x h => List.mem_append_left _ h, silent post fun x h => List.mem_append_right _ h]
      omega
    · rw [if_neg here, List.count_eq_zero, List.mem_flatMap]
      rintro ⟨x, mem', raised⟩
      refine foreign (ms, x) ms (mem_held.2 ⟨list, there, mem'⟩) (fun same => here (Prod.ext_iff.1 same).1) raised

/-- The deletion of another name. -/
theorem kept_of_deleted {name : String} (inv : Inv M.timers M.nextId) (mem : (k, item) ∈ held M.timers)
    (mine : e.id = item.id) (other : item.name ≠ name) :
    (k, item) ∈ held (deleteTimerLocker timerEx M name).2.1.timers ∧
      (deleteTimerLocker timerEx M name).2.2.count e = 0 := by
  refine ⟨?_, ?_⟩
  · rw [(inv.deleted name).2]
    exact List.mem_filter.2 ⟨mem, decide_eq_true other⟩
  rcases deleteTimerLocker_taken timerEx M name with
    ⟨-, same⟩ | ⟨k', x, left, before, after, pre, post, taken, -, -, woken⟩
  · rw [same]
    rfl
  · rw [woken, List.count_eq_zero, List.mem_singleton]
    intro same
    have one := inv.eq_of_id taken.mem mem (by rw [← mine, same]; rfl)
    exact other (by rw [← taken.named]; exact congrArg (fun x => x.2.name) one.symm)

/-- A request for another name. -/
theorem kept_of_requested {name : String} {ms : Int} {callback : Bool} {answer : A} {r : Option Nat} {events : List Event}
    (inv : Inv M.timers M.nextId) (mem : (k, item) ∈ held M.timers) (mine : e.id = item.id)
    (other : item.name ≠ name) (h : getTimerLockerByTime m timerEx M name ms callback answer = some (r, M', events)) :
    (k, item) ∈ held M'.timers ∧ events.count e = 0 := by
  obtain ⟨stays, silent⟩ : (k, item) ∈ held (deleteTimerLocker timerEx M name).2.1.timers ∧
      (deleteTimerLocker timerEx M name).2.2.count e = 0 := kept_of_deleted inv mem mine other
  obtain ⟨-, rfl, ⟨-, left, -⟩ | ⟨-, -, perm⟩⟩ := getTimerLockerByTime_spec inv h
  · rw [left]
    exact ⟨stays, silent⟩
  · rw [(inv.deleted name).2] at stays
    exact ⟨perm.mem_iff.2 (List.mem_cons_of_mem _ stays), silent⟩

/-- A step that does not take a locker away: a tick of its key counts in it, and nothing else touches it. -/
theorem step_kept (inv : Inv s.manager.timers s.manager.nextId) (mem : (k, item) ∈ held s.manager.timers) (mine : e.id = item.id) (keeps : ¬ a.takes item.name item.id)
    (h : step m timerEx s a = some t) :
    (k, if a.isTick k then (item.sendEvent k).1 else item) ∈ held t.manager.timers ∧
      t.events.count e = if a.isTick k then (item.sendEvent k).2.count e else 0 := by
  cases a with
  | getTimerLockerByTime name ms callback answer =>
    obtain ⟨⟨r, M', events⟩, made, rfl⟩ := Option.map_eq_some_iff.1 h
    exact kept_of_requested inv mem mine (fun same => keeps same.symm) made
  | getTimerLockerByFps name fps callback answer =>
    obtain ⟨⟨r, M', events⟩, made, rfl⟩ := Option.map_eq_some_iff.1 h
    simp only [getTimerLockerByFps] at made
    split at made
    · cases made
      exact ⟨mem, rfl⟩
    · rename_i some
      exact kept_of_requested inv mem mine (fun same => keeps ⟨some, same.symm⟩) made
  | deleteTimerLocker name =>
    cases h
    exact kept_of_deleted inv mem mine fun same => keeps same.symm
  | deletePointer id =>
    obtain ⟨x, found, rfl⟩ := Option.map_eq_some_iff.1 h
    refine kept_of_deleted inv mem mine fun same => keeps ?_
    have here : x.2.id = id := by simpa using List.find?_some found
    have one := inv.eq_of_name mem (List.mem_of_find?_eq_some found) same
    exact here.symm.trans (congrArg (fun y => y.2.id) one.symm)
  | callbackTimer ms =>
    cases h
    refine ⟨?_, ?_⟩
    · rw [held_callbackTimer inv ms]
      refine List.mem_map.2 ⟨(k, item), mem, ?_⟩
      simp only [ticked, Act.isTick, decide_eq_true_eq]
      by_cases here : ms = k
      · rw [if_pos here.symm, if_pos here, here]
      · rw [if_neg (Ne.symm here), if_neg here]
    · simp only [count_callbackTimer inv mem mine ms, Act.isTick, decide_eq_true_eq]
  | exit => exact absurd trivial keeps

end Step

/-! ## The count of a locker -/

section Count

variable {k n T : Nat} {item : Locker}

/-- The count after one more tick, and whether the tick wakes the locker. -/
theorem sendEvent_count (positive : 0 < T) (divides : k ∣ T) (period : item.period = T)
    (count : item.periodCount = n * k % T) :
    (item.sendEvent k).1.periodCount = (n + 1) * k % T ∧
      (T ≤ item.periodCount + k ↔ T / k ∣ n + 1) := by
  obtain ⟨q, rfl⟩ := divides
  have k_pos : 0 < k := Nat.pos_of_mul_pos_right positive
  have below : n * k % (k * q) < k * q := Nat.mod_lt _ positive
  have multiple : k ∣ n * k % (k * q) := (Nat.dvd_mod_iff (Nat.dvd_mul_right k q)).2 (Nat.dvd_mul_left k n)
  have room : n * k % (k * q) + k ≤ k * q := by
    obtain ⟨c, hc⟩ := multiple
    rw [hc] at below ⊢
    rw [← Nat.mul_succ]
    exact Nat.mul_le_mul_left k (Nat.lt_of_mul_lt_mul_left below)
  have next : (n + 1) * k % (k * q) = (n * k % (k * q) + k) % (k * q) := by
    rw [Nat.add_mul, Nat.one_mul, Nat.mod_add_mod]
  have full : k * q ≤ n * k % (k * q) + k ↔ (n + 1) * k % (k * q) = 0 := by
    rw [next]
    constructor
    · intro h
      rw [le_antisymm room h, Nat.mod_self]
    · intro h
      by_contra less
      rw [Nat.mod_eq_of_lt (not_le.1 less)] at h
      omega
  refine ⟨?_, ?_⟩
  · rw [sendEvent_periodCount, period, count]
    split
    · rename_i h
      exact (full.1 h).symm
    · rename_i h
      rw [next, Nat.mod_eq_of_lt (not_le.1 h)]
  · rw [count, full, Nat.mul_div_cancel_left q k_pos, ← Nat.dvd_iff_mod_eq_zero, Nat.mul_comm (n + 1) k]
    exact Nat.mul_dvd_mul_iff_left k_pos

theorem count_sendEvent (k : Nat) (item : Locker) :
    (item.sendEvent k).2.count (.wakeUp item.id) = (if item.period ≤ item.periodCount + k then 1 else 0) ∧
      (item.sendEvent k).2.count (.callback item.id) =
        if item.callback = true ∧ item.period ≤ item.periodCount + k then 1 else 0 := by
  unfold Locker.sendEvent
  by_cases full : item.period ≤ item.periodCount + k
  · cases item.callback <;> simp [full]
  · simp [full]

end Count

/-! ## Every run -/

/-- The locker `id` of the name, the period and the callback is in the list of the key, `n` ticks after its creation. -/
def Counting (s : State W) (name : String) (id T : Nat) (callback : Bool) (k n : Nat) : Prop :=
  ∃ item, (k, item) ∈ held s.manager.timers ∧ item.name = name ∧ item.id = id ∧ item.period = T ∧
    item.callback = callback ∧ item.periodCount = n * k % T

section Run

variable {m : Nat} {timerEx : TimerEx W A} {s t : State W} {name : String} {id T : Nat} {callback : Bool} {k n : Nat}

theorem Counting.step {a : Act A} (counting : Counting s name id T callback k n)
    (inv : Inv s.manager.timers s.manager.nextId) (counted : Counted m s.manager.timers) (positive : 1 ≤ m)
    (keeps : ¬ a.takes name id) (h : step m timerEx s a = some t) :
    Counting t name id T callback k (n + if a.isTick k then 1 else 0) ∧
      t.events.count (.wakeUp id) = (if a.isTick k = true ∧ T / k ∣ n + 1 then 1 else 0) ∧
      t.events.count (.callback id) = if callback = true ∧ a.isTick k = true ∧ T / k ∣ n + 1 then 1 else 0 := by
  obtain ⟨item, mem, rfl, rfl, rfl, rfl, count⟩ := counting
  obtain ⟨le, key, -, below⟩ := counted _ mem
  have divides : k ∣ item.period := by
    rw [show k = getDivisor m item.period from key]
    exact (getDivisor_spec le).1
  obtain ⟨there, wakes⟩ := step_kept inv (e := .wakeUp item.id) mem rfl keeps h
  obtain ⟨-, calls⟩ := step_kept inv (e := .callback item.id) mem rfl keeps h
  have period_pos : 0 < item.period := lt_of_lt_of_le positive le
  obtain ⟨count', full⟩ := sendEvent_count period_pos divides rfl count
  obtain ⟨woken, called⟩ := count_sendEvent k item
  by_cases tick : a.isTick k = true
  · rw [if_pos tick] at there wakes calls
    refine ⟨⟨_, there, sendEvent_name _ _, sendEvent_id _ _, sendEvent_period _ _, sendEvent_callback _ _, ?_⟩, ?_, ?_⟩
    · rw [if_pos tick]
      exact count'
    · simp only [wakes, woken, full, tick, true_and]
    · simp only [calls, called, full, tick, true_and]
  · rw [if_neg tick] at there wakes calls
    refine ⟨⟨_, there, rfl, rfl, rfl, rfl, ?_⟩, ?_, ?_⟩
    · rw [if_neg tick]
      exact count
    · rw [wakes, if_neg fun h => tick h.1]
    · rw [calls, if_neg fun h => tick h.2.1]

theorem Counting.run {acts : List (Act A)} (counting : Counting s name id T callback k n)
    (inv : Inv s.manager.timers s.manager.nextId) (counted : Counted m s.manager.timers) (positive : 1 ≤ m)
    (keeps : ∀ a ∈ acts, ¬ a.takes name id) (ran : run (TimerLists.step m timerEx) s acts = some t) :
    Counting t name id T callback k (n + ticks k acts) ∧ Inv t.manager.timers t.manager.nextId ∧
      Counted m t.manager.timers := by
  induction acts generalizing s n with
  | nil =>
    cases ran
    exact ⟨counting, inv, counted⟩
  | cons a acts ih =>
    obtain ⟨u, first, rest⟩ := run_cons.1 ran
    obtain ⟨next, -⟩ := counting.step inv counted positive (keeps a List.mem_cons_self) first
    obtain ⟨inv', counted'⟩ := inv.step first
    have counts := ih next inv' (counted' counted) (fun b mem => keeps b (List.mem_cons_of_mem a mem)) rest
    rw [ticks, List.countP_cons, ← ticks, Nat.add_comm (ticks k acts), ← Nat.add_assoc]
    exact counts

/-- Where a locker is after its creation. -/
theorem counting_of_requested {a : Act A} {ms : Int} (inv : Inv s.manager.timers s.manager.nextId)
    (asked : a.request = some (name, ms, callback)) (created : step m timerEx s a = some t)
    (pointer : t.result = .pointer (some id)) :
    Counting t name id (effective m ms) callback (getDivisor m (effective m ms)) 0 := by
  have made : ∀ {M' answer events}, getTimerLockerByTime m timerEx s.manager name ms callback answer =
      some (some id, M', events) → Counting ⟨M', t.result, events⟩ name id (effective m ms) callback
        (getDivisor m (effective m ms)) 0 := by
    intro M' answer events h
    obtain ⟨-, -, ⟨null, -, -⟩ | ⟨new, -, perm⟩⟩ := getTimerLockerByTime_spec inv h
    · cases null
    · cases new
      refine ⟨_, perm.mem_iff.2 List.mem_cons_self, rfl, rfl, rfl, rfl, ?_⟩
      rw [Nat.zero_mul, Nat.zero_mod]
  cases a with
  | getTimerLockerByTime name' ms' callback' answer =>
    obtain ⟨⟨r, M', events⟩, h, rfl⟩ := Option.map_eq_some_iff.1 created
    cases asked
    cases pointer
    exact made h
  | getTimerLockerByFps name' fps callback' answer =>
    obtain ⟨⟨r, M', events⟩, h, rfl⟩ := Option.map_eq_some_iff.1 created
    simp only [Act.request] at asked
    simp only [getTimerLockerByFps] at h
    split at asked
    · cases asked
    · rename_i some
      rw [if_neg some] at h
      cases asked
      cases pointer
      exact made h
  | deleteTimerLocker name' => cases asked
  | deletePointer id' => cases asked
  | callbackTimer ms' => cases asked
  | exit => cases asked

end Run

/-- From `t` on and as long as no operation takes the locker away, every step wakes it and runs its callback once if it
is a tick of the key and the ticks since `t` are a multiple of `q`, and else not. -/
def Periodic (m : Nat) (timerEx : TimerEx W A) (t : State W) (name : String) (id : Nat) (callback : Bool) (k q : Nat) :
    Prop :=
  ∀ later u, (∀ a ∈ later, ¬ a.takes name id) → run (step m timerEx) t later = some u →
    ∀ a v, ¬ a.takes name id → step m timerEx u a = some v →
      v.events.count (.wakeUp id) = (if a.isTick k = true ∧ q ∣ ticks k later + 1 then 1 else 0) ∧
        v.events.count (.callback id) = if callback = true ∧ a.isTick k = true ∧ q ∣ ticks k later + 1 then 1 else 0

/-- **Lockers are woken on their period.** After any run, a request that returns a locker puts it in the list of the
least divisor of its effective period that is not below the minimal resolution. Whatever happens then to other lockers,
it is woken at the multiples of `T / k` ticks of that list and at nothing else, until it is deleted or replaced. -/
theorem locker_woken_on_period (m : Nat) (positive : 1 ≤ m) (timerEx : TimerEx W A) (w : W) (acts : List (Act A))
    (s : State W) (ran : run (step m timerEx) (initial w) acts = some s) (a : Act A) (name : String) (ms : Int)
    (callback : Bool) (t : State W) (id : Nat) (asked : a.request = some (name, ms, callback))
    (created : step m timerEx s a = some t) (pointer : t.result = .pointer (some id)) :
    ∃ T k : Nat, (T : Int) = max ms m ∧ IsLeast {d | m ≤ d ∧ d ∣ T} k ∧
      (∃ item, (k, item) ∈ held t.manager.timers ∧ item.name = name ∧ item.id = id ∧ item.period = T) ∧
      Periodic m timerEx t name id callback k (T / k) := by
  obtain ⟨inv, counted⟩ := inv_run ran
  have counting := counting_of_requested inv asked created pointer
  obtain ⟨inv', counted'⟩ := inv.step created
  obtain ⟨divides, above, least⟩ := getDivisor_spec (le_effective m ms)
  refine ⟨effective m ms, getDivisor m (effective m ms), ?_, ⟨⟨above, divides⟩, fun d h => least d h.1 h.2⟩, ?_, ?_⟩
  · rw [effective_eq]
    omega
  · obtain ⟨item, mem, named, same, period, -⟩ := counting
    exact ⟨item, mem, named, same, period⟩
  · intro later u keeps ran' b v keeps' next
    obtain ⟨counts, inv'', counted''⟩ := counting.run inv' (counted' counted) positive keeps ran'
    rw [Nat.zero_add] at counts
    exact (counts.step inv'' counted'' positive keeps' next).2

/-- A period of 33 ms, which is counted in a list of 11 ms. -/
theorem locker_woken_on_period_33 : ∃ t, step 10 told (initial ()) (.getTimerLockerByTime "a" 33 true true) = some t ∧
    ∃ T k : Nat, (T : Int) = max 33 (10 : Nat) ∧ IsLeast {d | 10 ≤ d ∧ d ∣ T} k ∧
      (∃ item, (k, item) ∈ held t.manager.timers ∧ item.name = "a" ∧ item.id = 0 ∧ item.period = T) ∧
      Periodic 10 told t "a" 0 true k (T / k) :=
  ⟨_, rfl, locker_woken_on_period 10 (by decide) told () [] (initial ()) rfl
    (.getTimerLockerByTime "a" 33 true true) "a" 33 true _ 0 rfl rfl rfl⟩

/-- The third tick wakes the locker of 33 ms, whatever the one of 22 ms in the same list does. -/
example : (run (step 10 told) (initial ()) [.getTimerLockerByTime "a" 33 true true, .getTimerLockerByTime "b" 22 false true,
    .callbackTimer 11, .callbackTimer 11, .deleteTimerLocker "b", .callbackTimer 11]).map State.events =
      some [.wakeUp 0, .callback 0] := by decide +kernel

end CameraEv.TimerLists
