import CameraEv.Common.TimerWinmm

/-!
# The slots of the timers

`CTimerImpl` keeps its timers in a vector of 64 slots that never grows.
`CreateTimer` looks for the first slot that is not used, and when there is none
the id that it has is the one behind the last slot; the system's timer is set
with that id before anybody asks for the slot. One step is `CreateTimer` up to
the return of `timeSetEvent`, the rest of it, `DeleteTimer`, or one call of the
callback, which takes no lock and comes between any two of the others.
-/

namespace CameraEv.TimerSlots

open Trace

/-- `CTimerImpl::ParamTimer`; `F` are the functions that are called back and `P` what their pointers point to. -/
structure ParamTimer (F P : Type) where
  id : Nat := 0
  ms : Int := 0
  ptr : Option P := none
  used : Bool := false
  func : Option F := none
  deriving DecidableEq

structure State (F P : Type) where
  timers : List (ParamTimer F P) := List.replicate 64 {}
  /-- Inside `CreateTimer`, behind `timeSetEvent`: the id, the timer of the system, and `param`. -/
  creating : Option (Nat × Nat × ParamTimer F P) := none
  /-- The ids that the system's timers were set with. -/
  armed : List Nat := []
  /-- The ids that `CreateTimer` has returned and that were not deleted since. -/
  live : List Nat := []
  deriving DecidableEq

inductive Act (F P : Type) where
  /-- `CreateTimer` up to the return of `timeSetEvent`, which is 0 when it fails. -/
  | createTimer (ms : Int) (func : Option F) (ptr : Option P) (hTimer : Nat)
  /-- The rest of `CreateTimer`. -/
  | store
  | deleteTimer (id : Int32)
  /-- A timer of the system that was set with this id calls `CallBack`. -/
  | callBack (id : Nat)
  deriving DecidableEq

/-- `(size_t)id`. -/
def index (id : Int32) : Nat := (id.toInt % 2 ^ 64).toNat

namespace State

variable {F P : Type}

/-- The first slot that is not used, or one behind the last. -/
def createTimerId (s : State F P) : Nat := s.timers.findIdx fun item => item.used = false

/-- What `CreateTimer` returns when `timeSetEvent` fails; otherwise it goes on. -/
def createTimer (s : State F P) (param : ParamTimer F P) (hTimer : Nat) : Option Int × State F P :=
  let id := s.createTimerId
  if hTimer = 0 then (some 1, s)
  else (none, { s with creating := some (id, hTimer, param), armed := s.armed ++ [id] })

/-- `m_timers[id]` is written; behind the vector it has no meaning. -/
def store (s : State F P) (id hTimer : Nat) (param : ParamTimer F P) : Option (Int × State F P) :=
  if id < s.timers.length then
    some (0, { s with
      timers := s.timers.set id { id := hTimer, ms := param.ms, func := param.func, ptr := param.ptr, used := true },
      creating := none, live := s.live ++ [id] })
  else none

/-- Nothing asks whether the slot is used. -/
def deleteTimer (s : State F P) (id : Int32) : Int × State F P :=
  if s.timers.length ≤ index id then (1, s)
  else
    (0, { s with
      timers := s.timers.modify (index id) fun item => { item with used := false, ptr := none },
      live := s.live.filter (· ≠ index id) })

/-- `m_timers[id]` is read, which has no meaning behind the vector; the result is the call that is made. -/
def callBack (s : State F P) (id : Nat) : Option (Option (F × Nat × Option P)) :=
  s.timers[id]?.map fun output => if output.used then output.func.map fun func => (func, id, output.ptr) else none

/-- `m_mutex_timers` keeps `DeleteTimer` and a second `CreateTimer` out of `CreateTimer`. -/
def step (s : State F P) : Act F P → Option (State F P)
  | .createTimer ms func ptr hTimer =>
    if s.creating = none then some (s.createTimer { ms, func, ptr } hTimer).2 else none
  | .store => s.creating.bind fun c => (s.store c.1 c.2.1 c.2.2).map Prod.snd
  | .deleteTimer id => if s.creating = none then some (s.deleteTimer id).2 else none
  | .callBack id => if id ∈ s.armed then (s.callBack id).map fun _ => s else none

def Full (s : State F P) : Prop := ∀ item ∈ s.timers, item.used = true

instance (s : State F P) : Decidable s.Full := inferInstanceAs (Decidable (∀ item ∈ s.timers, _))

/-- What a step may do to the slots. -/
structure Safe (s : State F P) (a : Act F P) : Prop where
  /-- The live timers have ids of their own. -/
  distinct : s.live.Nodup
  below : ∀ id ∈ s.live, id < s.timers.length
  /-- Each access of `m_timers` finds a slot. -/
  stores : a = .store → ∀ id hTimer param, s.creating = some (id, hTimer, param) → (s.store id hTimer param).isSome
  callsBack : ∀ id, a = .callBack id → id ∈ s.armed → (s.callBack id).isSome
  /-- With all slots used `CreateTimer` fails and leaves them alone. -/
  full : s.Full → s.creating = none → ∀ ms func ptr hTimer, a = .createTimer ms func ptr hTimer →
    (∃ r ≠ 0, (s.createTimer { ms, func, ptr } hTimer).1 = some r) ∧
      (s.createTimer { ms, func, ptr } hTimer).2.timers = s.timers
  /-- `DeleteTimer` changes no other slot. -/
  deletes : ∀ id, a = .deleteTimer id → ∀ i : Nat, (i : Int) ≠ id.toInt → (s.deleteTimer id).2.timers[i]? = s.timers[i]?

/-- `timeSetEvent` succeeds only while a slot is free. -/
def HasRoom (s : State F P) : Act F P → Prop
  | .createTimer _ _ _ hTimer => hTimer ≠ 0 → s.creating = none → ¬ s.Full
  | .store | .deleteTimer _ | .callBack _ => True

instance (s : State F P) : ∀ a, Decidable (s.HasRoom a)
  | .createTimer _ _ _ _ => inferInstanceAs (Decidable (_ → _ → ¬ s.Full))
  | .store | .deleteTimer _ | .callBack _ => .isTrue trivial

/-! ## The slots and the ids that are given out -/

/-- The used slots are those of the live timers, and the one that `CreateTimer` is about to use is another one. -/
structure Inv (s : State F P) : Prop where
  size : s.timers.length = 64
  distinct : s.live.Nodup
  used : ∀ i, i ∈ s.live ↔ ∃ item, s.timers[i]? = some item ∧ item.used = true
  armed : ∀ id ∈ s.armed, id < 64
  creating : ∀ id hTimer param, s.creating = some (id, hTimer, param) → id < 64 ∧ id ∉ s.live

variable {s t : State F P} {a : Act F P}

theorem index_natCast {id : Int32} {i : Nat} (here : index id = i) (small : i < 64) : (i : Int) = id.toInt := by
  have low := id.le_toInt
  have high := id.toInt_lt
  unfold index at here
  omega

theorem not_full_iff : ¬ s.Full ↔ s.createTimerId < s.timers.length := by
  rw [createTimerId, List.findIdx_lt_length]
  simp [Full]

/-- The slot that is found is not used. -/
theorem createTimerId_not_live (inv : s.Inv) (free : ¬ s.Full) : s.createTimerId ∉ s.live := by
  intro live
  obtain ⟨item, found, used⟩ := (inv.used _).1 live
  have room := not_full_iff.1 free
  have unused := List.findIdx_getElem (w := room)
  rw [List.getElem?_eq_getElem room] at found
  obtain rfl := Option.some.inj found
  rw [decide_eq_true_eq] at unused
  exact absurd used (unused ▸ Bool.false_ne_true)

theorem inv_initial : ({} : State F P).Inv where
  size := List.length_replicate
  distinct := List.nodup_nil
  used i := by
    constructor
    · intro live
      cases live
    · rintro ⟨item, found, used⟩
      rw [List.eq_of_mem_replicate (List.mem_of_getElem? found)] at used
      cases used
  armed id mem := by cases mem
  creating id hTimer param none := by cases none

theorem Inv.store (inv : s.Inv) {id hTimer : Nat} {param : ParamTimer F P} {r : Int × State F P}
    (creating : s.creating = some (id, hTimer, param)) (h : s.store id hTimer param = some r) : r.2.Inv := by
  obtain ⟨small, new⟩ := inv.creating id hTimer param creating
  unfold State.store at h
  rw [if_pos (inv.size.symm ▸ small)] at h
  cases h
  constructor
  · rw [List.length_set, inv.size]
  · exact List.nodup_append.2 ⟨inv.distinct, List.nodup_singleton id, fun a mem b mem' same => new (by
      rw [List.mem_singleton.1 mem'] at same
      exact same ▸ mem)⟩
  · intro i
    rw [List.mem_append, List.mem_singleton, inv.used, List.getElem?_set]
    by_cases here : id = i
    · subst here
      simp [inv.size, small]
    · simp [here, Ne.symm here]
  · exact inv.armed
  · intro id hTimer param none
    cases none

theorem Inv.deleteTimer (inv : s.Inv) (idle : s.creating = none) (id : Int32) : (s.deleteTimer id).2.Inv := by
  unfold State.deleteTimer
  split
  · exact inv
  rename_i room
  constructor
  · rw [List.length_modify, inv.size]
  · exact inv.distinct.filter _
  · intro i
    rw [List.mem_filter, inv.used, List.getElem?_modify]
    by_cases here : index id = i
    · simp [here]
    · simp [here, Ne.symm here]
  · exact inv.armed
  · intro id hTimer param some
    rw [idle] at some
    cases some

theorem Inv.step (inv : s.Inv) (room : s.HasRoom a) (h : s.step a = some t) : t.Inv := by
  cases a with
  | createTimer ms func ptr hTimer =>
    simp only [State.step] at h
    split at h
    · rename_i idle
      cases h
      unfold State.createTimer
      split
      · exact inv
      · rename_i success
        have free := room success idle
        have small : s.createTimerId < 64 := inv.size ▸ not_full_iff.1 free
        have new := createTimerId_not_live inv free
        refine ⟨inv.size, inv.distinct, inv.used, fun id mem => ?_, fun id hTimer param some => ?_⟩
        · rcases List.mem_append.1 mem with mem | mem
          · exact inv.armed id mem
          · exact List.mem_singleton.1 mem ▸ small
        · cases some
          exact ⟨small, new⟩
    · cases h
  | store =>
    obtain ⟨⟨id, hTimer, param⟩, creating, h⟩ := Option.bind_eq_some_iff.1 h
    obtain ⟨r, stored, rfl⟩ := Option.map_eq_some_iff.1 h
    exact inv.store creating stored
  | deleteTimer id =>
    simp only [State.step] at h
    split at h
    · rename_i idle
      cases h
      exact inv.deleteTimer idle id
    · cases h
  | callBack id =>
    simp only [State.step] at h
    split at h
    · obtain ⟨call, -, rfl⟩ := Option.map_eq_some_iff.1 h
      exact inv
    · cases h

theorem Inv.live_lt (inv : s.Inv) {id : Nat} (mem : id ∈ s.live) : id < s.timers.length := by
  obtain ⟨item, found, -⟩ := (inv.used id).1 mem
  exact (List.getElem?_eq_some_iff.1 found).1

/-- No other slot is changed, whatever the id. -/
theorem Inv.deleteTimer_other (inv : s.Inv) (id : Int32) {i : Nat} (other : (i : Int) ≠ id.toInt) :
    (s.deleteTimer id).2.timers[i]? = s.timers[i]? := by
  unfold State.deleteTimer
  split
  · rfl
  · rename_i room
    rw [inv.size, not_le] at room
    have apart : index id ≠ i := fun here => other (index_natCast here (here ▸ room))
    simp [apart]

theorem Inv.safe_iff (inv : s.Inv) : s.Safe a ↔ s.HasRoom a := by
  constructor
  · intro safe
    cases a with
    | createTimer ms func ptr hTimer =>
      intro success idle full
      obtain ⟨⟨r, -, returned⟩, -⟩ := safe.full full idle ms func ptr hTimer rfl
      rw [State.createTimer, if_neg success] at returned
      cases returned
    | store | deleteTimer id | callBack id => trivial
  · intro room
    refine ⟨inv.distinct, fun id mem => inv.live_lt mem, ?_, ?_, ?_, fun id _ i => inv.deleteTimer_other id⟩
    · rintro - id hTimer param creating
      rw [State.store, if_pos (inv.size.symm ▸ (inv.creating id hTimer param creating).1)]
      rfl
    · rintro id - armed
      rw [State.callBack, List.getElem?_eq_getElem (inv.size.symm ▸ inv.armed id armed)]
      rfl
    · rintro full idle ms func ptr hTimer rfl
      by_cases success : hTimer = 0
      · rw [State.createTimer, if_pos success]
        exact ⟨⟨1, by decide, rfl⟩, rfl⟩
      · exact absurd full (room success idle)

/-! ## The slots as the manager sees them -/

/-- What `TimerLists.CTimerWinmm` keeps of a slot. -/
def toWinmm (item : ParamTimer F P) : TimerLists.ParamTimer where
  id := item.id
  ms := item.ms.toNat
  used := item.used

variable {w : TimerLists.CTimerWinmm}

theorem createTimerId_winmm (same : w.timers = s.timers.map toWinmm) : w.createTimerId = s.createTimerId := by
  rw [TimerLists.CTimerWinmm.createTimerId, same, List.findIdx_map]
  rfl

/-- `CreateTimer` as a whole, while a slot is free or `timeSetEvent` fails. -/
theorem createTimer_winmm (same : w.timers = s.timers.map toWinmm) (param : ParamTimer F P) {hTimer : Nat}
    (room : hTimer ≠ 0 → ¬ s.Full) :
    some ((w.createTimer hTimer param.ms.toNat).1, (w.createTimer hTimer param.ms.toNat).2.2.timers) =
      if hTimer = 0 then some (1, s.timers.map toWinmm)
      else (s.store s.createTimerId hTimer param).map fun r => (r.1, r.2.timers.map toWinmm) := by
  simp only [TimerLists.CTimerWinmm.createTimer, State.store, createTimerId_winmm same]
  split
  · simp [same]
  · rename_i some'
    rw [if_pos (not_full_iff.1 (room some'))]
    simp only [Option.map_some, same, List.map_set]
    rfl

theorem deleteTimer_winmm (same : w.timers = s.timers.map toWinmm) (id : Int32) :
    (w.deleteTimer id.toInt).timers = (s.deleteTimer id).2.timers.map toWinmm := by
  have here : (id.toInt % 2 ^ 64).toNat = index id := rfl
  simp only [TimerLists.CTimerWinmm.deleteTimer, State.deleteTimer, here]
  split
  · rename_i none
    rw [List.getElem?_eq_none_iff, same, List.length_map] at none
    rw [if_pos none, same]
  · rename_i item found
    have room := (List.getElem?_eq_some_iff.1 found).1
    rw [same, List.length_map] at room
    rw [if_neg (not_le.2 room), same]
    rw [same, List.getElem?_map, List.getElem?_eq_getElem room] at found
    cases found
    rw [List.modify_eq_set_get _ room, List.map_set]
    rfl

end State

open State

variable {F P : Type}

/-- **The slots are safe exactly in the runs in which `timeSetEvent` sets no timer while all slots are used.** -/
theorem slots_safe_iff (acts : List (Act F P)) :
    Along step Safe ({} : State F P) acts ↔ Along step HasRoom ({} : State F P) acts :=
  along_iff (fun inv room h => inv.step room h) (fun inv => inv.safe_iff) inv_initial

/-- Timers that are created one after the other. -/
private def creations (n : Nat) : List (Act Unit Unit) :=
  (List.range n).flatMap fun i => [.createTimer 100 (some ()) none (i + 1), .store]

/-- Sixty-four timers are live, and the sixty-fifth waits for its slot. -/
private def fullSlots : State Unit Unit where
  timers := (List.range 64).map fun i => { id := i + 1, ms := 100, used := true, func := some () }
  creating := some (64, 65, { ms := 100, func := some () })
  armed := List.range 65
  live := List.range 64

/-- The sixty-fifth timer is stored behind the vector, and its callback reads there. -/
theorem slots_unsafe_full : ¬ Along step Safe ({} : State Unit Unit) (creations 65) ∧
    run step ({} : State Unit Unit) ((creations 65).dropLast) = some fullSlots ∧ fullSlots.Full ∧
      fullSlots.store 64 65 { ms := 100, func := some () } = none ∧ 64 ∈ fullSlots.armed ∧ fullSlots.callBack 64 = none := by
  constructor
  · intro safe
    have room := (along_iff (fun inv room h => Inv.step inv room h) (fun inv => inv.safe_iff) inv_initial).1 safe
    exact absurd room (by decide +kernel)
  · decide +kernel

end CameraEv.TimerSlots
