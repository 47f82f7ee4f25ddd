import CameraEv.Common.TimerLockerManager
import CameraEv.Lib.Trace

/-!
# The timer of a decoder's loop

Every decoder thread keeps the address `timer_fps` of a locker that it asked
the one manager for, always under the name `Decoding_fps`. One step is one use
of that address or one call of the manager. The decoded frames, and when the
loop is told to end, are left open. `RepeatWorkProc`, the other client of the
manager, asks for lockers of its own names.
-/

namespace CameraEv

open Trace

namespace Decoder

def timerName : String := "Decoding_fps"

/-- What the thread does next. -/
inductive Pc where
  /-- There is no thread. -/
  | idle
  /-- `while (m_thread_running)`. -/
  | check
  /-- The body, up to the first use of `timer_fps`. -/
  | decode
  /-- `if (timer_fps->GetFps() != change_fps)`. -/
  | change (changeFps : Int)
  /-- The call of `timer_fps->Wait()`. -/
  | wait
  /-- Inside `Wait`. -/
  | waiting
  /-- `DeleteTimerLocker(timer_fps)`. -/
  | finish
  deriving DecidableEq

structure Loop where
  pc : Pc := .idle
  timerFps : Option Nat := none
  deriving DecidableEq

structure State (ι : Type) where
  manager : CTimerLockerManager := {}
  decoder : ι → Loop := fun _ => {}

inductive Act where
  /-- `ThreadLoop` begins, with the `m_adaptive_fps` that it reads; `created` is `CreateTimer`'s outcome. -/
  | start (adaptiveFps : Int) (created : Bool)
  | loop (running : Bool)
  /-- A `break` out of the body. -/
  | skip
  /-- `GetDecodingFps` with the frames in the queue and the two settings that it reads. -/
  | decodingFps (queueSize : Nat) (adaptiveFps infoFps : Int)
  | changeFps (created : Bool)
  | wait
  | woken
  | delete
  /-- `RepeatWorkProc::AddWork` and `DeleteWork`. -/
  | addWork (workType : Int) (ms : Int) (created : Bool)
  | deleteWork (workType : Int)
  deriving DecidableEq

def decodeFpsAuto : Int := 0

/-- `GetDecodingFps`; the rounding is of quarters of a positive number. -/
def getDecodingFps (curFps queueSize : Nat) (adaptiveFps infoFps : Int) : Int :=
  if (5 * curFps + 2) / 4 < queueSize then 100
  else
    let changeFps := if infoFps = decodeFpsAuto then adaptiveFps else infoFps
    let changeFps := if infoFps = decodeFpsAuto ∧ 1 < (adaptiveFps - curFps).natAbs then adaptiveFps else changeFps
    if changeFps = 0 then curFps else changeFps

/-- `RepeatWorkProc::GetTimerName`. -/
def getTimerName (workType : Int) : String := "RepeatTimer_" ++ toString workType

variable {ι : Type} [DecidableEq ι]

namespace State

/-- The locker behind `timer_fps`, when it is still there. -/
def deref (s : State ι) (i : ι) : Option CTimerLocker := (s.decoder i).timerFps.bind s.manager.find

def setDecoder (s : State ι) (i : ι) (d : Loop) : State ι := { s with decoder := Function.update s.decoder i d }

def goto (s : State ι) (i : ι) (pc : Pc) : State ι := s.setDecoder i { s.decoder i with pc }

/-- `timer_fps = timer_manager.GetTimerLockerByFps("Decoding_fps", fps)`. -/
def request (s : State ι) (i : ι) (fps : Int) (created : Bool) (pc : Pc) : State ι :=
  let (timerFps, manager) := s.manager.getTimerLockerByFps timerName fps created
  { s.setDecoder i ⟨pc, timerFps⟩ with manager }

/-- A step of decoder `i` at `pc`; a use of a locker that is gone has no result. -/
def stepAt (s : State ι) (i : ι) : Pc → Act → Option (State ι)
  | .idle, .start fps created => some (s.request i fps created .check)
  | .check, .loop true => some (s.goto i .decode)
  | .check, .loop false => some (s.goto i .finish)
  | .decode, .skip => some (s.goto i .wait)
  | .decode, .decodingFps queueSize adaptiveFps infoFps => do
    let l ← s.deref i
    return s.goto i (.change (getDecodingFps l.getFps queueSize adaptiveFps infoFps))
  | .change fps, .changeFps created => do
    let l ← s.deref i
    return if (l.getFps : Int) = fps then s.goto i .wait else s.request i fps created .wait
  | .wait, .wait => do
    let _ ← s.deref i
    return s.goto i .waiting
  | .waiting, .woken => do
    let _ ← s.deref i
    return s.goto i .check
  | .finish, .delete => do
    let l ← s.deref i
    return { s.setDecoder i {} with manager := (s.manager.deleteTimerLocker l.name).1 }
  | _, .addWork workType ms created =>
    some { s with manager := (s.manager.getTimerLockerByTime (getTimerName workType) ms created).2 }
  | _, .deleteWork workType => some { s with manager := (s.manager.deleteTimerLocker (getTimerName workType)).1 }
  | _, _ => none

def step (s : State ι) : ι × Act → Option (State ι)
  | (i, a) => s.stepAt i (s.decoder i).pc a

/-- The steps that use `timer_fps`. -/
def uses : Pc → Act → Bool
  | .decode, .decodingFps _ _ _ | .change _, .changeFps _ | .wait, .wait | .waiting, .woken | .finish, .delete => true
  | _, _ => false

/-- A step uses a live locker only, and `DeleteTimerLocker` removes the decoder's own one and no other. -/
structure Safe (s : State ι) (l : ι × Act) : Prop where
  live : uses (s.decoder l.1).pc l.2 = true → ∃ locker, s.deref l.1 = some locker
  own : (s.decoder l.1).pc = .finish → l.2 = .delete → ∀ t, s.step l = some t →
    ∀ locker, locker ∈ t.manager.lockers ↔ locker ∈ s.manager.lockers ∧ (s.decoder l.1).timerFps ≠ some locker.id

/-- What a step asks the manager for under the decoders' name: the fps, and whether a timer can be had. -/
def requested (s : State ι) (l : ι × Act) : Option (Int × Bool) := match (s.decoder l.1).pc, l.2 with
  | .idle, .start fps created => some (fps, created)
  | .change fps, .changeFps created => do
    let locker ← s.deref l.1
    if (locker.getFps : Int) = fps then none else some (fps, created)
  | _, _ => none

/-- A decoder asks for its timer while no other decoder has one, for a rate other than 0, and gets one. -/
def Alone (s : State ι) (l : ι × Act) : Prop :=
  ∀ request ∈ s.requested l, (∀ j, j ≠ l.1 → (s.decoder j).pc = .idle) ∧ request.1 ≠ 0 ∧ request.2 = true

instance [Fintype ι] (s : State ι) (l : ι × Act) : Decidable (s.Alone l) := by
  unfold Alone
  infer_instance

/-! ## One decoder at a time -/

/-- Whoever runs has the one locker of the decoders' name. -/
structure Held (s : State ι) : Prop where
  distinct : s.manager.Distinct
  held : ∀ i, (s.decoder i).pc ≠ .idle →
    ∃ l ∈ s.manager.lockers, (s.decoder i).timerFps = some l.id ∧ l.name = timerName
  one : ∀ i j, (s.decoder i).pc ≠ .idle → (s.decoder j).pc ≠ .idle → i = j

section Held

variable {s t : State ι} {i : ι}

theorem goto_self (s : State ι) (i : ι) (pc : Pc) : (s.goto i pc).decoder i = { s.decoder i with pc } := by
  simp only [goto, setDecoder, Function.update_self]

theorem setDecoder_of_ne (s : State ι) {i j : ι} (d : Loop) (ne : j ≠ i) : (s.setDecoder i d).decoder j = s.decoder j := by
  simp only [setDecoder, Function.update_of_ne ne]

omit [DecidableEq ι] in
theorem Held.deref_eq (held : s.Held) (runs : (s.decoder i).pc ≠ .idle) :
    ∃ l ∈ s.manager.lockers, s.deref i = some l ∧ (s.decoder i).timerFps = some l.id ∧ l.name = timerName := by
  obtain ⟨l, mem, address, named⟩ := held.held i runs
  refine ⟨l, mem, ?_, address, named⟩
  rw [deref, address, Option.bind_some, held.distinct.find_eq mem]

theorem Held.goto (held : s.Held) {pc : Pc} (runs : (s.decoder i).pc ≠ .idle) : (s.goto i pc).Held := by
  have runs' {j : ι} (h : ((s.goto i pc).decoder j).pc ≠ .idle) : (s.decoder j).pc ≠ .idle := by
    by_cases same : j = i
    · rw [same]
      exact runs
    · rwa [State.goto, setDecoder_of_ne s _ same] at h
  refine ⟨held.distinct, fun j h => ?_, fun j k hj hk => held.one j k (runs' hj) (runs' hk)⟩
  obtain ⟨l, mem, address, named⟩ := held.held j (runs' h)
  refine ⟨l, mem, ?_, named⟩
  by_cases same : j = i
  · subst same
    rw [goto_self]
    exact address
  · rw [State.goto, setDecoder_of_ne s _ same]
    exact address

/-- A request while no other decoder has a timer. -/
theorem Held.request (held : s.Held) {fps : Int} {pc : Pc} (alone : ∀ j, j ≠ i → (s.decoder j).pc = .idle)
    (rate : fps ≠ 0) : (s.request i fps true pc).Held := by
  have asked : s.manager.getTimerLockerByFps timerName fps true =
      s.manager.getTimerLockerByTime timerName (Int.tdiv 1000 fps) true := if_neg rate
  have distinct := held.distinct.getTimerLockerByTime timerName (Int.tdiv 1000 fps) true
  rcases s.manager.getTimerLockerByTime_spec timerName (Int.tdiv 1000 fps) true with ⟨-, no, -⟩ | ⟨got, lockers, -⟩
  · cases no
  have self : ((s.request i fps true pc).decoder i) = ⟨pc, some s.manager.nextId⟩ := by
    simp only [State.request, asked, setDecoder, Function.update_self, got]
  have manager : (s.request i fps true pc).manager =
      (s.manager.getTimerLockerByTime timerName (Int.tdiv 1000 fps) true).2 := by
    simp only [State.request, asked]
  have only {j : ι} (runs : ((s.request i fps true pc).decoder j).pc ≠ .idle) : j = i := by
    by_contra ne
    simp only [State.request, setDecoder, Function.update_of_ne ne] at runs
    exact runs (alone j ne)
  constructor
  · rw [manager]
    exact distinct
  · intro j runs
    obtain rfl := only runs
    rw [self, manager]
    exact ⟨_, lockers.mem_iff.2 List.mem_cons_self, rfl, rfl⟩
  · intro j k hj hk
    rw [only hj, only hk]

omit [DecidableEq ι] in
/-- A call of another client, which asks for other names, keeps the decoder's locker. -/
theorem Held.other (held : s.Held) {m : CTimerLockerManager} (distinct : m.Distinct)
    (kept : ∀ l ∈ s.manager.lockers, l.name = timerName → l ∈ m.lockers) : ({ s with manager := m } : State ι).Held := by
  refine ⟨distinct, fun i runs => ?_, held.one⟩
  obtain ⟨l, mem, address, named⟩ := held.held i runs
  exact ⟨l, kept l mem named, address, named⟩

theorem getTimerName_ne (workType : Int) : getTimerName workType ≠ timerName := by
  intro same
  have first := congrArg (fun name => name.toList.head?) same
  simp [getTimerName, timerName] at first

omit [DecidableEq ι] in
theorem Held.addWork (held : s.Held) (workType ms : Int) (created : Bool) :
    ({ s with manager := (s.manager.getTimerLockerByTime (getTimerName workType) ms created).2 } : State ι).Held := by
  refine held.other (held.distinct.getTimerLockerByTime _ ms created) fun l mem named => ?_
  have stays : l ∈ s.manager.lockers.eraseP (·.name = getTimerName workType) :=
    (CTimerLockerManager.mem_eraseP_name held.distinct.names _ l).2
      ⟨mem, fun same => getTimerName_ne workType (same.symm.trans named)⟩
  rcases s.manager.getTimerLockerByTime_spec (getTimerName workType) ms created with ⟨-, -, lockers, -⟩ | ⟨-, lockers, -⟩
  · rw [lockers]
    exact stays
  · exact lockers.mem_iff.2 (List.mem_cons_of_mem _ stays)

omit [DecidableEq ι] in
theorem Held.deleteWork (held : s.Held) (workType : Int) :
    ({ s with manager := (s.manager.deleteTimerLocker (getTimerName workType)).1 } : State ι).Held := by
  have lockers := s.manager.lockers_deleteTimerLocker (getTimerName workType)
  refine held.other (held.distinct.eraseP lockers rfl) fun l mem named => ?_
  rw [lockers]
  exact (CTimerLockerManager.mem_eraseP_name held.distinct.names _ l).2
    ⟨mem, fun same => getTimerName_ne workType (same.symm.trans named)⟩

/-- The decoder that ends takes its own locker with it. -/
theorem Held.delete (held : s.Held) (runs : (s.decoder i).pc ≠ .idle) :
    ({ s.setDecoder i {} with manager := (s.manager.deleteTimerLocker timerName).1 } : State ι).Held := by
  have idle (j : ι) : ((s.setDecoder i {}).decoder j).pc = .idle := by
    by_cases same : j = i
    · simp only [same, setDecoder, Function.update_self]
    · rw [setDecoder_of_ne s _ same]
      by_contra runs'
      exact same (held.one j i runs' runs)
  exact ⟨held.distinct.eraseP (s.manager.lockers_deleteTimerLocker timerName) rfl,
    fun j runs' => absurd (idle j) runs', fun j k runs' => absurd (idle j) runs'⟩

theorem Held.step {l : ι × Act} (held : s.Held) (alone : s.Alone l) (h : s.step l = some t) : t.Held := by
  obtain ⟨i, a⟩ := l
  simp only [State.step] at h
  generalize here : (s.decoder i).pc = pc at h
  unfold stepAt at h
  split at h
  · rename_i fps created
    cases h
    obtain ⟨idle, rate, rfl⟩ := alone (fps, created) (by simp [requested, here])
    exact held.request idle rate
  · cases h
    exact held.goto (by simp [here])
  · cases h
    exact held.goto (by simp [here])
  · cases h
    exact held.goto (by simp [here])
  · simp only [Option.bind_eq_bind, Option.bind_eq_some_iff, Option.pure_def, Option.some.injEq] at h
    obtain ⟨locker, -, rfl⟩ := h
    exact held.goto (by simp [here])
  · rename_i fps created
    simp only [Option.bind_eq_bind, Option.bind_eq_some_iff, Option.pure_def, Option.some.injEq] at h
    obtain ⟨locker, found, rfl⟩ := h
    split
    · exact held.goto (by simp [here])
    · rename_i other
      obtain ⟨idle, rate, rfl⟩ := alone (fps, created) (by simp [requested, here, found, other])
      exact held.request idle rate
  · simp only [Option.bind_eq_bind, Option.bind_eq_some_iff, Option.pure_def, Option.some.injEq] at h
    obtain ⟨locker, -, rfl⟩ := h
    exact held.goto (by simp [here])
  · simp only [Option.bind_eq_bind, Option.bind_eq_some_iff, Option.pure_def, Option.some.injEq] at h
    obtain ⟨locker, -, rfl⟩ := h
    exact held.goto (by simp [here])
  · simp only [Option.bind_eq_bind, Option.bind_eq_some_iff, Option.pure_def, Option.some.injEq] at h
    obtain ⟨locker, found, rfl⟩ := h
    obtain ⟨locker', -, found', -, named⟩ := held.deref_eq (i := i) (by simp [here])
    obtain rfl := Option.some.inj (found.symm.trans found')
    rw [named]
    exact held.delete (by simp [here])
  · cases h
    exact held.addWork _ _ _
  · cases h
    exact held.deleteWork _
  · cases h

/-- Whoever has the one locker uses a live one and deletes its own. -/
theorem Held.safe {l : ι × Act} (held : s.Held) : s.Safe l := by
  obtain ⟨i, a⟩ := l
  constructor
  · intro uses
    have runs : (s.decoder i).pc ≠ .idle := by
      intro idle
      simp only [idle] at uses
      cases uses
    obtain ⟨locker, -, found, -⟩ := held.deref_eq runs
    exact ⟨locker, found⟩
  · rintro here rfl t h locker
    obtain ⟨own, mem, found, address, named⟩ := held.deref_eq (i := i) (by simp only [here]; simp)
    simp only at here
    simp only [State.step, here, stepAt, found, Option.bind_eq_bind, Option.bind_some, Option.pure_def,
      Option.some.injEq] at h
    subst h
    simp only [CTimerLockerManager.lockers_deleteTimerLocker, address, named,
      CTimerLockerManager.mem_eraseP_name held.distinct.names]
    refine and_congr_right fun mem' => not_congr ⟨fun same => ?_, fun same => ?_⟩
    · rw [held.distinct.eq_of_name mem mem' (named.trans same.symm)]
    · rw [← held.distinct.eq_of_id mem mem' (Option.some.inj same)]
      exact named

end Held

omit [DecidableEq ι] in
theorem held_fresh : ({} : State ι).Held where
  distinct := ⟨List.nodup_nil, List.nodup_nil, fun l mem => by cases mem⟩
  held i runs := absurd rfl runs
  one i j runs := absurd rfl runs

end State

open State

/-- **No decoder uses a locker that is gone** in any run in which every request of a decoder is made while
no other decoder has a timer. -/
theorem timers_live {ls : List (ι × Act)} (allowed : Along State.step State.Alone ({} : State ι) ls) :
    Along State.step State.Safe ({} : State ι) ls :=
  along_of (fun held alone h => held.step alone h) (fun held _ => held.safe) held_fresh allowed

/-- One decoder's run, with a change of the rate. -/
private def oneRun {ι : Type} (i j : ι) : List (ι × Act) :=
  [(i, .start 30 true), (i, .loop true), (i, .decodingFps 0 25 0), (i, .changeFps true), (i, .wait), (j, .addWork 0 10000 true),
    (i, .woken), (i, .loop false), (i, .delete)]

theorem timers_live_one : (∃ t, run State.step ({} : State (Fin 2)) (oneRun 0 1) = some t) ∧
    Along State.step State.Safe ({} : State (Fin 2)) (oneRun 0 1) :=
  ⟨⟨_, rfl⟩, timers_live (by decide)⟩

/-- The second decoder's first request destroys the first one's locker; the first one goes on to wait on it. -/
theorem timers_live_two : ∃ t,
    run State.step ({} : State (Fin 2)) [(0, .start 30 true), (1, .start 30 true), (0, .loop true), (0, .skip)] = some t ∧
      uses (t.decoder 0).pc .wait = true ∧ t.deref 0 = none :=
  ⟨_, rfl, rfl, by decide⟩

end Decoder

end CameraEv
