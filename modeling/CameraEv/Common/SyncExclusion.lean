import CameraEv.Common.SyncSharedMemory

/-!
# Who owns the queue mutex

A thread owns the mutex exactly while it is between its wait for it and its
`ReleaseMutex`, until a wait is satisfied by an abandoned mutex: the switches
have no case for `WAIT_ABANDONED_0`, and the thread leaves with the mutex.
-/

namespace CameraEv

open Win32 Trace

namespace SyncSharedMemory

namespace Pc

/-- The points between a granted wait for the mutex and its release. -/
def inside : Pc → Bool
  | callback _ | post _ | giveBack _ | unlock _ _ | clearQueue | refill _ | drain _ | clearUnlock => true
  | idle | waitSemaphore _ | waitMutex _ | clearWaitMutex | dead => false

def waitsForMutex : Pc → Bool
  | waitMutex _ | clearWaitMutex => true
  | _ => false

end Pc

variable {ι : Type} [DecidableEq ι]

namespace State

/-- What a step of thread `i` does to the mutex and to the thread's place relative to it. -/
inductive MutexMoved (s : State ι) (i : ι) (t : State ι) : Act → Prop
  | same {a} (mutex : t.mutex = s.mutex) (place : (t.thread i).pc.inside = (s.thread i).pc.inside) : MutexMoved s i t a
  | granted {a} (mutex : s.mutex.acquire i = some (false, t.mutex)) (before : (s.thread i).pc.inside = false)
      (place : (t.thread i).pc.inside = true) : MutexMoved s i t a
  | abandoned (mutex : s.mutex.acquire i = some (true, t.mutex)) (before : (s.thread i).pc.waitsForMutex = true)
      (place : (t.thread i).pc.inside = false) : MutexMoved s i t (.wait .abandoned)
  | released {a} (mutex : t.mutex = s.mutex.release i) (before : (s.thread i).pc.inside = true)
      (place : (t.thread i).pc.inside = false) : MutexMoved s i t a
  | died {a} (mutex : t.mutex = s.mutex.abandon i) (dead : (t.thread i).pc = .dead) : MutexMoved s i t a

theorem kill_moved (s : State ι) (i : ι) (a : Act) : MutexMoved s i (s.kill i) a :=
  .died rfl (by simp only [kill, goto_self])

theorem endMutexWait_moved {s t : State ι} {i : ι} {granted : Pc} {e : WaitEvent}
    (waits : (s.thread i).pc.waitsForMutex = true) (inside : granted.inside = true)
    (h : s.endMutexWait i granted e = some t) : MutexMoved s i t (.wait e) := by
  have before : (s.thread i).pc.inside = false := by
    revert waits
    cases (s.thread i).pc <;> simp [Pc.inside, Pc.waitsForMutex]
  have outside (ret : Nat) : ((s.leave i ret).thread i).pc.inside = false := by
    simp only [leave_self]
    rfl
  cases e with
  | signaled =>
    simp only [endMutexWait] at h
    split at h
    · rename_i mutex acquired
      cases h
      exact .granted acquired before (by simpa only [goto_self] using inside)
    · cases h
  | abandoned =>
    simp only [endMutexWait] at h
    split at h
    · rename_i mutex acquired
      cases h
      exact .abandoned acquired waits (outside _)
    · cases h
  | _ =>
    cases h
    exact .same rfl ((outside _).trans before.symm)

/-- A step that leaves the mutex alone and stays inside. -/
theorem stays_inside {s t : State ι} {i : ι} {a : Act} (mutex : t.mutex = s.mutex)
    (before : (s.thread i).pc.inside = true) (after : (t.thread i).pc.inside = true) : MutexMoved s i t a :=
  .same mutex (after.trans before.symm)

theorem runStatement_moved {ap : ActivateParam} {s t : State ι} {i : ι} {a : Act} {pc : Pc}
    (hpc : (s.thread i).pc = pc) (h : s.runStatement ap i pc = some t) : MutexMoved s i t a := by
  cases pc with
  | callback c =>
    have before : (s.thread i).pc.inside = true := by rw [hpc]; rfl
    simp only [runStatement] at h
    split at h <;> cases h
    · exact stays_inside rfl before (by simp only [setThread_self]; rfl)
    · exact stays_inside rfl before (by simp only [setThread_self]; rfl)
    · exact kill_moved s i a
  | post c =>
    have before : (s.thread i).pc.inside = true := by rw [hpc]; rfl
    simp only [runStatement] at h
    split at h <;> cases h <;> exact stays_inside rfl before (by simp only [setSem_thread, goto_self]; rfl)
  | giveBack c =>
    have before : (s.thread i).pc.inside = true := by rw [hpc]; rfl
    simp only [runStatement] at h
    split at h <;> cases h <;> exact stays_inside rfl before (by simp only [setSem_thread, goto_self]; rfl)
  | unlock c ret =>
    cases h
    exact .released rfl (by rw [hpc]; rfl) (by simp only [leave_self]; rfl)
  | clearQueue =>
    have before : (s.thread i).pc.inside = true := by rw [hpc]; rfl
    simp only [runStatement] at h
    split at h <;> cases h
    · exact stays_inside rfl before (by simp only [goto_self]; rfl)
    · exact kill_moved s i a
  | refill left =>
    have before : (s.thread i).pc.inside = true := by rw [hpc]; rfl
    cases left with
    | zero =>
      cases h
      exact stays_inside rfl before (by simp only [goto_self]; rfl)
    | succ left =>
      simp only [runStatement] at h
      split at h <;> cases h <;> exact stays_inside rfl before (by simp only [setSem_thread, goto_self]; rfl)
  | drain left =>
    have before : (s.thread i).pc.inside = true := by rw [hpc]; rfl
    cases left with
    | zero =>
      cases h
      exact stays_inside rfl before (by simp only [goto_self]; rfl)
    | succ left =>
      simp only [runStatement] at h
      split at h <;> cases h <;> exact stays_inside rfl before (by simp only [setSem_thread, goto_self]; rfl)
  | clearUnlock =>
    cases h
    exact .released rfl (by rw [hpc]; rfl) (by simp only [leave_self]; rfl)
  | _ => cases h

theorem step_moved {ap : ActivateParam} {s t : State ι} {i : ι} {a : Act} (h : s.step ap (i, a) = some t) :
    MutexMoved s i t a := by
  cases step_stepped h with
  | died => exact kill_moved s i _
  | producer here => exact .same rfl (by rw [here, goto_self]; rfl)
  | consumer here => exact .same rfl (by rw [here, goto_self]; rfl)
  | clear here => exact .same rfl (by rw [here, goto_self]; rfl)
  | token here => exact .same rfl (by rw [here, setSem_thread, goto_self]; rfl)
  | noToken here => exact .same rfl (by rw [here, leave_self]; rfl)
  | mutexWait here ended => exact endMutexWait_moved (by rw [here]; rfl) rfl ended
  | clearWait here ended => exact endMutexWait_moved (by rw [here]; rfl) rfl ended
  | refused here => exact .same rfl (by rw [here, goto_self]; rfl)
  | ran ran => exact runStatement_moved rfl ran

/-- A step of thread `i` changes no other thread. -/
theorem step_thread {ap : ActivateParam} {s t : State ι} {i : ι} {a : Act} (h : s.step ap (i, a) = some t) :
    ∃ u, t.thread = Function.update s.thread i u := by
  have wait {granted : Pc} {e : WaitEvent} {t : State ι} (h : s.endMutexWait i granted e = some t) :
      ∃ u, t.thread = Function.update s.thread i u := by
    cases e <;> simp only [endMutexWait] at h
    case signaled | abandoned =>
      split at h <;> cases h
      exact ⟨_, rfl⟩
    all_goals
      cases h
      exact ⟨_, rfl⟩
  cases step_stepped h with
  | mutexWait here ended => exact wait ended
  | clearWait here ended => exact wait ended
  | ran ran =>
    generalize (s.thread i).pc = pc at ran
    cases pc with
    | unlock c ret =>
      cases ran
      exact ⟨{ s.thread i with pc := .idle, ret }, by simp only [leave, setThread, record_thread]⟩
    | callback c | post c | giveBack c | clearQueue =>
      simp only [runStatement] at ran
      split at ran <;> cases ran <;> exact ⟨_, rfl⟩
    | refill left | drain left =>
      cases left with
      | zero =>
        cases ran
        exact ⟨_, rfl⟩
      | succ left =>
        simp only [runStatement] at ran
        split at ran <;> cases ran <;> exact ⟨_, rfl⟩
    | clearUnlock =>
      cases ran
      exact ⟨_, rfl⟩
    | _ => cases ran
  | _ => exact ⟨_, rfl⟩

theorem step_thread_of_ne {ap : ActivateParam} {s t : State ι} {i j : ι} {a : Act}
    (h : s.step ap (i, a) = some t) (ne : j ≠ i) : t.thread j = s.thread j := by
  obtain ⟨u, eq⟩ := step_thread h
  rw [eq, Function.update_of_ne ne]

/-! ## Ownership -/

/-- The mutex is owned exactly by the thread that is inside, and owned once. -/
structure Exclusive (s : State ι) : Prop where
  owner : ∀ {i recursion}, s.mutex = .owned i recursion → recursion = 0 ∧ (s.thread i).pc.inside = true
  inside : ∀ {i}, (s.thread i).pc.inside = true → s.mutex = .owned i 0

/-- The step is a wait for the mutex that is satisfied by an abandoned mutex. -/
def takesAbandoned (s : State ι) : ι × Act → Bool
  | (i, .wait .abandoned) => (s.thread i).pc.waitsForMutex && s.mutex = .free true
  | _ => false

theorem acquire_true {s : State ι} {i : ι} {m : Mutex ι} (h : s.mutex.acquire i = some (true, m)) :
    s.mutex = .free true ∧ m = .owned i 0 := by
  cases mutex : s.mutex with
  | free abandoned =>
    simp only [mutex, Mutex.acquire, Option.some.injEq, Prod.mk.injEq] at h
    exact ⟨by rw [h.1], h.2.symm⟩
  | owned j recursion =>
    simp only [mutex, Mutex.acquire] at h
    split at h <;> cases h

theorem Exclusive.acquire_false {s : State ι} (ex : Exclusive s) {i : ι} {m : Mutex ι}
    (h : s.mutex.acquire i = some (false, m)) (outside : (s.thread i).pc.inside = false) :
    s.mutex = .free false ∧ m = .owned i 0 := by
  cases mutex : s.mutex with
  | free abandoned =>
    simp only [mutex, Mutex.acquire, Option.some.injEq, Prod.mk.injEq] at h
    exact ⟨by rw [h.1], h.2.symm⟩
  | owned j recursion =>
    simp only [mutex, Mutex.acquire] at h
    split at h
    · rename_i same
      subst same
      rw [(ex.owner mutex).2] at outside
      cases outside
    · cases h

omit [DecidableEq ι] in
theorem Exclusive.unique {s : State ι} (ex : Exclusive s) {i j : ι} (hi : (s.thread i).pc.inside = true)
    (hj : (s.thread j).pc.inside = true) : j = i := by
  have same := (ex.inside hi).symm.trans (ex.inside hj)
  injection same with same
  exact same.symm

/-- Every step keeps the ownership exclusive, but for the wait that an abandoned mutex satisfies. -/
theorem Exclusive.step {ap : ActivateParam} {s t : State ι} {l : ι × Act} (ex : Exclusive s)
    (taken : s.takesAbandoned l = false) (h : s.step ap l = some t) : Exclusive t := by
  obtain ⟨i, a⟩ := l
  have others {j : ι} (ne : j ≠ i) : t.thread j = s.thread j := step_thread_of_ne h ne
  cases step_moved h with
  | same mutex place =>
    have place' (j : ι) : (t.thread j).pc.inside = (s.thread j).pc.inside := by
      by_cases eq : j = i
      · rw [eq, place]
      · rw [others eq]
    constructor
    · intro j recursion own
      rw [place']
      exact ex.owner (mutex ▸ own)
    · intro j inside
      rw [place'] at inside
      exact mutex.trans (ex.inside inside)
  | granted acquired before place =>
    obtain ⟨free, mutex⟩ := ex.acquire_false acquired before
    constructor
    · intro j recursion own
      rw [mutex] at own
      cases own
      exact ⟨rfl, place⟩
    · intro j inside
      by_cases eq : j = i
      · rw [eq, mutex]
      · rw [others eq] at inside
        rw [ex.inside inside] at free
        cases free
  | abandoned acquired before =>
    obtain ⟨free, -⟩ := acquire_true acquired
    simp [takesAbandoned, before, free] at taken
  | released mutex before place =>
    have free : t.mutex = .free false := by
      rw [mutex, ex.inside before, Mutex.release, if_pos rfl]
    constructor
    · intro j recursion own
      rw [free] at own
      cases own
    · intro j inside
      by_cases eq : j = i
      · rw [eq, place] at inside
        cases inside
      · rw [others eq] at inside
        exact absurd (ex.unique before inside) eq
  | died mutex dead =>
    have place : (t.thread i).pc.inside = false := by rw [dead]; rfl
    constructor
    · intro j recursion own
      cases owned : s.mutex with
      | free abandoned =>
        rw [mutex, owned] at own
        cases own
      | owned k recursion' =>
        rw [mutex, owned, Mutex.abandon] at own
        split at own
        · cases own
        · rename_i ne
          cases own
          rw [others ne]
          exact ex.owner owned
    · intro j inside
      by_cases eq : j = i
      · rw [eq, place] at inside
        cases inside
      · rw [others eq] at inside
        rw [mutex, ex.inside inside, Mutex.abandon, if_neg eq]

/-- While no thread dies, the mutex is never abandoned. -/
theorem Exclusive.step_alive {ap : ActivateParam} {s t : State ι} {i : ι} {a : Act} (ex : Exclusive s)
    (kept : s.mutex ≠ .free true) (h : s.step ap (i, a) = some t) (alive : (t.thread i).pc ≠ .dead) :
    Exclusive t ∧ t.mutex ≠ .free true := by
  have taken : s.takesAbandoned (i, a) = false := by
    unfold takesAbandoned
    split <;> simp_all
  refine ⟨ex.step taken h, ?_⟩
  cases step_moved h with
  | same mutex => exact mutex ▸ kept
  | granted acquired before =>
    rw [(ex.acquire_false acquired before).2]
    simp
  | abandoned acquired => exact absurd (acquire_true acquired).1 kept
  | released mutex before =>
    rw [mutex, ex.inside before, Mutex.release, if_pos rfl]
    simp
  | died mutex dead => exact absurd dead alive

omit [DecidableEq ι] in
theorem exclusive_fresh (ap : ActivateParam) (queueSize : Nat) (packetBuffer : ι → List UInt8) :
    Exclusive (fresh ap queueSize packetBuffer) where
  owner own := by cases own
  inside inside := by cases inside

/-- The owner of the mutex, if there is one, is inside one of the three functions, behind a wait that
granted it the mutex. A dead thread is not inside. -/
def OwnerInside (s : State ι) : Prop :=
  ∀ i recursion, s.mutex = .owned i recursion → (s.thread i).pc.inside = true

/-- Who takes an abandoned mutex leaves with it. -/
theorem takesAbandoned_leaks {ap : ActivateParam} {s : State ι} {l : ι × Act} (taken : s.takesAbandoned l = true) :
    ∃ t, s.step ap l = some t ∧ ¬ OwnerInside t := by
  obtain ⟨i, a⟩ := l
  cases a with
  | wait e =>
    cases e with
    | abandoned =>
      simp only [takesAbandoned, Bool.and_eq_true, decide_eq_true_eq] at taken
      obtain ⟨waits, free⟩ := taken
      refine ⟨{ s.leave i (mutexRet .abandoned) with mutex := .owned i 0 }, ?_, ?_⟩
      · cases here : (s.thread i).pc with
        | waitMutex c => simp only [step, endWait, here, endMutexWait, free, Mutex.acquire]
        | clearWaitMutex => simp only [step, endWait, here, endMutexWait, free, Mutex.acquire]
        | _ =>
          rw [here] at waits
          cases waits
      · intro inside
        have out := inside i 0 rfl
        simp only [leave_self] at out
        cases out
    | _ => cases taken
  | _ => cases taken

end State

open State

/-- **The queue mutex is held only inside the sync functions** in exactly those runs in which no
wait for it is satisfied by an abandoned mutex. -/
theorem owner_inside_iff (ap : ActivateParam) (queueSize : Nat) (packetBuffer : ι → List UInt8)
    (ls : List (ι × Act)) :
    Throughout (State.step ap) OwnerInside (fresh ap queueSize packetBuffer) ls ↔
      Along (State.step ap) (fun s l => s.takesAbandoned l = false) (fresh ap queueSize packetBuffer) ls :=
  throughout_iff_along (fun ex taken h => ex.step taken h) (fun ex _ _ own => (ex.owner own).2)
    (fun _ taken => takesAbandoned_leaks (by simpa using taken)) (exclusive_fresh ap queueSize packetBuffer)

/-- A producer dies inside; the next caller of `SyncClear` is back outside and owns the mutex. -/
theorem owner_inside_abandoned :
    ∃ t, run (State.step ⟨1, 1⟩) (fresh ⟨1, 1⟩ 16 fun _ : Fin 2 => List.replicate 8 0)
        [(0, .syncProducer ⟨[], by decide⟩), (0, .wait .signaled), (0, .wait .signaled), (0, .die), (1, .syncClear),
          (1, .wait .abandoned)] = some t ∧
      t.mutex = .owned 1 0 ∧ (t.thread 1).pc = .idle ∧ ¬ OwnerInside t := by
  refine ⟨_, rfl, rfl, rfl, ?_⟩
  intro inside
  exact absurd (inside 1 0 rfl) (by decide)

end SyncSharedMemory

end CameraEv
