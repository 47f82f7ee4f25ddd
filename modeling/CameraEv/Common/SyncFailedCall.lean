import CameraEv.Common.SyncSharedMemory

/-!
# Calls of `SyncProducer` and `SyncConsumer` that fail

One call from its first wait to its `return`, with any callback, any ends of its
waits and a `ReleaseSemaphore` that may fail: the two functions are `syncCall` at
the two sides. A call that ends at its wait for the mutex does not give back the
token that its first wait took, nor does one whose `ReleaseSemaphore` fails; every
other failing path leaves the semaphores and the queue as they were.
-/

namespace CameraEv

open Win32 Trace

namespace SyncSharedMemory

def Side.other : Side → Side
  | producer => consumer
  | consumer => producer

/-- What the calls work on, the mutex and the events apart. -/
@[ext] structure Shared where
  sem : Side → Semaphore
  queue : QueueMemory

namespace Shared

def setSem (s : Shared) (side : Side) (x : Semaphore) : Shared := { s with sem := Function.update s.sem side x }

/-- All the counts of the two semaphores. -/
def total (s : Shared) : Nat := (s.sem .producer).count + (s.sem .consumer).count

/-- `ReleaseSemaphore`, which may also fail for another reason than a full semaphore. -/
def releaseSemaphore (s : Shared) (side : Side) (fails : Bool) : Except PostError Semaphore :=
  if fails then .error .other else (s.sem side).release

/-- From the granted mutex to `ReleaseMutex`. -/
def underMutex (s : Shared) (side : Side) (callback : QueueMemory → Bool × QueueMemory) (releaseFails : Bool) :
    Nat × Shared :=
  match callback s.queue with
  | (true, queue) => match s.releaseSemaphore side.other releaseFails with
    | .ok x => (0, { s.setSem side.other x with queue })
    | .error .tooManyPosts => (0, { s with queue })
    | .error .other => (FailedCode.releaseSemaphoreFailed, { s with queue })
  | (false, queue) => match s.releaseSemaphore side releaseFails with
    | .ok x => (FailedCode.userFuncFailed, { s.setSem side x with queue })
    | .error _ => (FailedCode.userFuncFailed, { s with queue })

/-- One call; a wait for the semaphore can only be satisfied where its count is positive. -/
def syncCall (s : Shared) (side : Side) (callback : QueueMemory → Bool × QueueMemory)
    (semaphoreEvent mutexEvent : WaitEvent) (releaseFails : Bool) : Option (Nat × Shared) :=
  match semaphoreEvent with
  | .signaled => (s.sem side).acquire.map fun x =>
    match mutexEvent with
    | .signaled => (s.setSem side x).underMutex side callback releaseFails
    | e => (mutexRet e, s.setSem side x)
  | e => some (semaphoreRet e, s)

def syncProducer (s : Shared) := s.syncCall .producer

def syncConsumer (s : Shared) := s.syncCall .consumer

end Shared

/-- A call with its callback and with the ends of its two waits; `releaseFails`: the call's `ReleaseSemaphore` fails
with another error than `ERROR_TOO_MANY_POSTS`. -/
structure CallRun where
  side : Side
  callback : QueueMemory → Bool × QueueMemory
  semaphoreEvent : WaitEvent
  mutexEvent : WaitEvent
  releaseFails : Bool := false

namespace CallRun

def apply (c : CallRun) (s : Shared) : Option (Nat × Shared) := match c.side with
  | .producer => s.syncProducer c.callback c.semaphoreEvent c.mutexEvent c.releaseFails
  | .consumer => s.syncConsumer c.callback c.semaphoreEvent c.mutexEvent c.releaseFails

/-- The callback leaves the queue alone when it returns false. -/
def Careful (c : CallRun) : Prop := ∀ q, (c.callback q).1 = false → (c.callback q).2 = q

/-- The call gets its token, and does not get the mutex or cannot release a semaphore. -/
def losesToken (c : CallRun) : Bool :=
  c.semaphoreEvent = .signaled && (decide (c.mutexEvent ≠ .signaled) || c.releaseFails)

end CallRun

/-- Calls one after another, and what they return. -/
def Shared.calls : Shared → List CallRun → Option (List Nat × Shared)
  | s, [] => some ([], s)
  | s, c :: cs => do
    let (ret, s) ← c.apply s
    let (rets, s) ← s.calls cs
    return (ret :: rets, s)

namespace Shared

theorem setSem_acquire_release {s : Shared} {side : Side} {x y : Semaphore} (taken : (s.sem side).acquire = some x)
    (released : x.release = .ok y) : (s.setSem side x).setSem side y = s := by
  obtain ⟨count, max⟩ := Semaphore.acquire_eq_some.1 taken
  have back : s.sem side = y := by
    unfold Semaphore.release at released
    split at released
    · obtain rfl := Except.ok.inj released
      exact (Semaphore.mk.injEq ..).mpr ⟨count.symm, max.symm⟩
    · cases released
  ext1
  · simp only [setSem, Function.update_idem, ← back, Function.update_eq_self]
  · rfl

/-- A semaphore that was just taken can be given back. -/
theorem release_of_acquire {s : Shared} {side : Side} {x : Semaphore} (taken : (s.sem side).acquire = some x) :
    ∃ y, x.release = .ok y := by
  obtain ⟨count, max⟩ := Semaphore.acquire_eq_some.1 taken
  have le := (s.sem side).count_le
  obtain ⟨y, released, -⟩ := Semaphore.release_of_lt (s := x) (by omega)
  exact ⟨y, released⟩

/-- A call that fails under the mutex has given its token back and left the queue alone. -/
theorem underMutex_failed {s t : Shared} {side : Side} {x : Semaphore} {callback : QueueMemory → Bool × QueueMemory}
    {ret : Nat} (taken : (s.sem side).acquire = some x) (careful : ∀ q, (callback q).1 = false → (callback q).2 = q)
    (h : (s.setSem side x).underMutex side callback false = (ret, t)) (failed : ret ≠ 0) : t = s := by
  have kept := careful s.queue
  have here : (s.setSem side x).queue = s.queue := rfl
  rcases called : callback s.queue with ⟨ok, queue⟩
  rw [called] at kept
  cases ok with
  | true =>
    simp only [underMutex, releaseSemaphore, here, called, Bool.false_eq_true, if_false] at h
    split at h
    · exact absurd (congrArg Prod.fst h).symm failed
    · exact absurd (congrArg Prod.fst h).symm failed
    · rename_i other
      unfold Semaphore.release at other
      split at other <;> cases other
  | false =>
    obtain ⟨y, released⟩ := release_of_acquire taken
    have own : ((s.setSem side x).sem side).release = .ok y := by simpa only [setSem, Function.update_self] using released
    simp only [underMutex, releaseSemaphore, here, called, own, Bool.false_eq_true, if_false] at h
    obtain rfl : queue = s.queue := kept rfl
    exact (congrArg Prod.snd h).symm.trans (setSem_acquire_release taken released)

theorem total_setSem {s : Shared} {side : Side} {x : Semaphore} (taken : (s.sem side).acquire = some x) :
    (s.setSem side x).total + 1 = s.total := by
  obtain ⟨count, -⟩ := Semaphore.acquire_eq_some.1 taken
  cases side <;> simp [total, setSem, Function.update] at count ⊢ <;> omega

/-- When `ReleaseSemaphore` fails, the counts stay as the wait has left them. -/
theorem total_underMutex {s t : Shared} {side : Side} {callback : QueueMemory → Bool × QueueMemory} {ret : Nat}
    (h : s.underMutex side callback true = (ret, t)) : t.total = s.total := by
  rcases called : callback s.queue with ⟨ok, queue⟩
  cases ok <;> simp only [underMutex, releaseSemaphore, called, if_true] at h <;> cases h <;> rfl

/-- What one failed call does: nothing, or it loses one token. -/
theorem syncCall_failed {s t : Shared} {c : CallRun} {ret : Nat} (careful : c.Careful)
    (h : s.syncCall c.side c.callback c.semaphoreEvent c.mutexEvent c.releaseFails = some (ret, t))
    (failed : ret ≠ 0) : (c.losesToken = false ∧ t = s) ∨ (c.losesToken = true ∧ t.total + 1 = s.total) := by
  obtain ⟨side, callback, semaphoreEvent, mutexEvent, releaseFails⟩ := c
  by_cases token : semaphoreEvent = .signaled
  · subst token
    obtain ⟨x, taken, result⟩ := Option.map_eq_some_iff.1 h
    by_cases granted : mutexEvent = .signaled
    · subst granted
      cases releaseFails with
      | false => exact .inl ⟨rfl, underMutex_failed taken careful result failed⟩
      | true =>
        refine .inr ⟨rfl, ?_⟩
        rw [total_underMutex result]
        exact total_setSem taken
    · refine .inr ⟨by simp [CallRun.losesToken, granted], ?_⟩
      have lost : s.setSem side x = t := by
        cases mutexEvent with
        | signaled => exact absurd rfl granted
        | _ => exact congrArg Prod.snd result
      rw [← lost]
      exact total_setSem taken
  · refine .inl ⟨by simp [CallRun.losesToken, token], ?_⟩
    cases semaphoreEvent with
    | signaled => exact absurd rfl token
    | _ => exact (congrArg Prod.snd (Option.some.inj h)).symm

end Shared

theorem CallRun.apply_failed {c : CallRun} {s t : Shared} {ret : Nat} (careful : c.Careful)
    (h : c.apply s = some (ret, t)) (failed : ret ≠ 0) :
    (c.losesToken = false ∧ t = s) ∨ (c.losesToken = true ∧ t.total + 1 = s.total) := by
  have call : s.syncCall c.side c.callback c.semaphoreEvent c.mutexEvent c.releaseFails = some (ret, t) := by
    unfold CallRun.apply at h
    cases side : c.side <;> simp only [side] at h <;> exact h
  exact Shared.syncCall_failed careful call failed

/-- Of failed calls, each that loses its token lowers the total by one, and the others do nothing. -/
theorem Shared.calls_failed {cs : List CallRun} {s t : Shared} {rets : List Nat} (careful : ∀ c ∈ cs, c.Careful)
    (h : s.calls cs = some (rets, t)) (failed : ∀ ret ∈ rets, ret ≠ 0) :
    t.total + cs.countP CallRun.losesToken = s.total ∧ (cs.countP CallRun.losesToken = 0 → t = s) := by
  induction cs generalizing s rets with
  | nil =>
    cases h
    exact ⟨rfl, fun _ => rfl⟩
  | cons c cs ih =>
    simp only [Shared.calls, Option.bind_eq_bind, Option.bind_eq_some_iff, Option.pure_def, Option.some.injEq,
      Prod.mk.injEq, Prod.exists] at h
    obtain ⟨ret, u, first, rets', t', rest, rfl, rfl⟩ := h
    obtain ⟨total, same⟩ := ih (fun c mem => careful c (List.mem_cons_of_mem _ mem)) rest
      fun ret mem => failed ret (List.mem_cons_of_mem _ mem)
    rcases CallRun.apply_failed (careful c List.mem_cons_self) first (failed ret List.mem_cons_self) with
      ⟨kept, rfl⟩ | ⟨lost, less⟩
    · rw [List.countP_cons_of_neg (by simp [kept])]
      exact ⟨total, same⟩
    · rw [List.countP_cons_of_pos lost]
      exact ⟨by omega, fun none => by omega⟩

/-- **Failed calls leave the semaphores and the queue as they were** in exactly those sequences in
which each call that gets its token gets the mutex, too, and can release a semaphore. -/
theorem failed_calls_keep_iff {cs : List CallRun} {s t : Shared} {rets : List Nat} (careful : ∀ c ∈ cs, c.Careful)
    (h : s.calls cs = some (rets, t)) (failed : ∀ ret ∈ rets, ret ≠ 0) :
    t = s ↔ ∀ c ∈ cs, c.semaphoreEvent = .signaled → c.mutexEvent = .signaled ∧ c.releaseFails = false := by
  obtain ⟨total, same⟩ := Shared.calls_failed careful h failed
  have none : cs.countP CallRun.losesToken = 0 ↔
      ∀ c ∈ cs, c.semaphoreEvent = .signaled → c.mutexEvent = .signaled ∧ c.releaseFails = false := by
    simp [List.countP_eq_zero, CallRun.losesToken]
  rw [← none]
  constructor
  · rintro rfl
    omega
  · exact same

/-- A producer times out at its semaphore, and a consumer's callback fails: nothing changes. Then a producer cannot
release the consumer's semaphore. -/
theorem failed_calls_keep_iff_timeouts :
    let s : Shared := ⟨fun _ => ⟨1, 1, le_rfl⟩, QueueMemory.fresh 16⟩
    let refused : List CallRun := [⟨.producer, fun q => (false, q), .timeout, .signaled, false⟩,
      ⟨.consumer, fun q => (false, q), .signaled, .signaled, false⟩]
    (∃ rets, s.calls refused = some (rets, s)) ∧
      ∃ rets t, s.calls (refused ++ [⟨.producer, fun q => (true, q), .signaled, .signaled, true⟩]) = some (rets, t) ∧
        t ≠ s := by
  intro s refused
  constructor
  · obtain ⟨rets, t, ran, failed⟩ : ∃ rets t, s.calls refused = some (rets, t) ∧ ∀ ret ∈ rets, ret ≠ 0 :=
      ⟨_, _, rfl, by decide⟩
    have same := (failed_calls_keep_iff (by simp [refused, CallRun.Careful]) ran failed).2 (by decide)
    exact ⟨rets, same ▸ ran⟩
  · obtain ⟨rets, t, ran, failed⟩ : ∃ rets t, s.calls (refused ++
        [⟨.producer, fun q => (true, q), .signaled, .signaled, true⟩]) = some (rets, t) ∧ ∀ ret ∈ rets, ret ≠ 0 :=
      ⟨_, _, rfl, by decide⟩
    refine ⟨rets, t, ran, fun same => ?_⟩
    have kept := (failed_calls_keep_iff (by simp [refused, CallRun.Careful]) ran failed).1 same
    exact absurd kept (by decide)

/-- The mutex is busy for longer than `m_timeout_mutex`: the call fails, and its token is gone. -/
theorem failed_call_loses_token :
    ∃ ret t, (⟨fun _ => ⟨1, 1, le_rfl⟩, QueueMemory.fresh 16⟩ : Shared).syncProducer (fun q => (false, q)) .signaled
        .timeout false = some (ret, t) ∧ ret ≠ 0 ∧ (t.sem .producer).count = 0 :=
  ⟨_, _, rfl, by decide, rfl⟩

/-! ## The call as a run of one thread -/

section Solo

variable {ι : Type} [DecidableEq ι]

open State

/-- The label with which a call starts. -/
def SyncCall.act : SyncCall → Act
  | producer packet => .syncProducer packet
  | consumer => .syncConsumer

/-- The state of the objects between two calls of thread `i`. -/
structure Returned (s : State ι) (i : ι) (ret : Nat) (t : Shared) : Prop where
  sem : s.sem = t.sem
  queue : s.queue = t.queue
  mutex : s.mutex = .free false
  pc : (s.thread i).pc = .idle
  ret : (s.thread i).ret = ret

/-- Steps of thread `i` alone lead from `s` to the return of its call. -/
def Returns (ap : ActivateParam) (s : State ι) (i : ι) (ret : Nat) (u : Shared) : Prop :=
  ∃ ls t, (∀ l ∈ ls, l.1 = i) ∧ run (State.step ap) s ls = some t ∧ Returned t i ret u

section Phases

variable {ap : ActivateParam} {s t : State ι} {i : ι} {c : SyncCall} {ok : Bool} {queue : QueueMemory}
  {handle : Handle} {ret : Nat} {u : Shared}

theorem Returned.returns (h : Returned s i ret u) : Returns ap s i ret u := ⟨[], s, by simp, rfl, h⟩

theorem Returns.step {a : Act} (h : s.step ap (i, a) = some t) (rest : Returns ap t i ret u) : Returns ap s i ret u := by
  obtain ⟨ls, v, own, ran, returned⟩ := rest
  refine ⟨(i, a) :: ls, v, ?_, run_cons.2 ⟨t, h, ran⟩, returned⟩
  intro l mem
  rcases List.mem_cons.1 mem with rfl | mem
  · rfl
  · exact own l mem

/-- The release of the mutex is the last step. -/
theorem returns_unlock (there : (s.thread i).pc = .unlock c ret) (sem : s.sem = u.sem) (stored : s.queue = u.queue)
    (owned : s.mutex = .owned i 0) : Returns ap s i ret u := by
  have last : s.step ap (i, .run) = some { (s.record i ret c).leave i ret with mutex := s.mutex.release i } := by
    simp only [State.step, there, State.runStatement]
  apply Returns.step last
  apply Returned.returns
  constructor
  · exact (record_sem s i ret c).trans sem
  · exact (record_queue s i ret c).trans stored
  · simp [owned, Mutex.release]
  · simp
  · simp

/-- From the callback on: it runs, a semaphore is released, and the mutex. -/
theorem returns_callback (at_callback : (s.thread i).pc = .callback c) (owned : s.mutex = .owned i 0)
    (called : c.callback s.queue (s.thread i).handle = .ok (ok, queue, handle))
    (h : (⟨s.sem, s.queue⟩ : Shared).underMutex c.own (fun _ => (ok, queue)) false = (ret, u)) : Returns ap s i ret u := by
  let y : State ι := { s.setThread i { s.thread i with pc := if ok then .post c else .giveBack c, handle } with queue }
  have ran : s.step ap (i, .run) = some y := by
    simp only [State.step, at_callback]
    exact runStatement_callback called
  apply Returns.step ran
  have finish {after : State ι} {code : Nat} {sh : Shared} (released : y.step ap (i, .run) = some after)
      (there : (after.thread i).pc = .unlock c code) (sem : after.sem = sh.sem) (stored : after.queue = sh.queue)
      (kept : after.mutex = .owned i 0) : Returns ap y i code sh := .step released (returns_unlock there sem stored kept)
  have turned : c.own.other = c.other := by cases c <;> rfl
  simp only [Shared.underMutex, Shared.releaseSemaphore, turned, Bool.false_eq_true, if_false] at h
  cases ok with
  | true =>
    have there : (y.thread i).pc = .post c := by simp [y]
    cases released : (y.sem c.other).release with
    | ok z =>
      rw [show (s.sem c.other).release = _ from released] at h
      cases h
      exact finish (by simp only [State.step, there, State.runStatement, released]; rfl) (by simp) (by rfl) (by rfl)
          (by exact owned)
    | error e =>
      rw [show (s.sem c.other).release = _ from released] at h
      cases e <;> cases h <;>
        exact finish (by simp only [State.step, there, State.runStatement, released]; rfl) (by simp) (by rfl) (by rfl)
          (by exact owned)
  | false =>
    have there : (y.thread i).pc = .giveBack c := by simp [y]
    cases released : (y.sem c.own).release with
    | ok z =>
      rw [show (s.sem c.own).release = _ from released] at h
      cases h
      exact finish (by simp only [State.step, there, State.runStatement, released]; rfl) (by simp) (by rfl) (by rfl)
          (by exact owned)
    | error e =>
      rw [show (s.sem c.own).release = _ from released] at h
      cases h
      exact finish (by simp only [State.step, there, State.runStatement, released]; rfl) (by simp) (by rfl) (by rfl)
          (by exact owned)

/-- From the wait for the mutex on, when it is granted. -/
theorem returns_granted (at_mutex : (s.thread i).pc = .waitMutex c) (free : s.mutex = .free false)
    (called : c.callback s.queue (s.thread i).handle = .ok (ok, queue, handle))
    (h : (⟨s.sem, s.queue⟩ : Shared).underMutex c.own (fun _ => (ok, queue)) false = (ret, u)) : Returns ap s i ret u := by
  let w : State ι := { s.goto i (.callback c) with mutex := .owned i 0 }
  have taken : s.step ap (i, .wait .signaled) = some w := by
    simp only [State.step, at_mutex, State.endWait, State.endMutexWait, free, Mutex.acquire, w]
  have at_callback : w.thread i = { s.thread i with pc := .callback c } := by simp [w]
  have called' : c.callback w.queue (w.thread i).handle = .ok (ok, queue, handle) := by
    rw [at_callback]
    exact called
  apply Returns.step taken
  exact returns_callback (by rw [at_callback]) rfl called' h

/-- When the wait for the mutex ends in another way, the call is over. -/
theorem returns_refused {event : WaitEvent} (at_mutex : (s.thread i).pc = .waitMutex c) (free : s.mutex = .free false)
    (live : event ≠ .abandoned) (refused : event ≠ .signaled) :
    Returns ap s i (mutexRet event) ⟨s.sem, s.queue⟩ := by
  have gone : s.step ap (i, .wait event) = some (s.leave i (mutexRet event)) := by
    simp only [State.step, at_mutex, State.endWait]
    cases event with
    | signaled => exact absurd rfl refused
    | abandoned => exact absurd rfl live
    | _ => rfl
  exact .step gone (Returned.returns ⟨rfl, rfl, free, by simp, by simp⟩)

end Phases

/-- Alone, a thread's steps from its call to its `return` are `syncCall` with the thread's own callback. -/
theorem solo_run {ap : ActivateParam} {s : State ι} {i : ι} {c : SyncCall} {ok : Bool} {queue : QueueMemory}
    {handle : Handle} {semaphoreEvent mutexEvent : WaitEvent} {ret : Nat} {u : Shared}
    (idle : (s.thread i).pc = .idle) (free : s.mutex = .free false)
    (called : c.callback s.queue (s.thread i).handle = .ok (ok, queue, handle))
    (live : semaphoreEvent ≠ .abandoned ∧ mutexEvent ≠ .abandoned)
    (h : (⟨s.sem, s.queue⟩ : Shared).syncCall c.own (fun _ => (ok, queue)) semaphoreEvent mutexEvent false =
      some (ret, u)) :
    ∃ ls t, (∀ l ∈ ls, l.1 = i) ∧ run (State.step ap) s ls = some t ∧ Returned t i ret u := by
  have enter : s.step ap (i, c.act) = some (s.goto i (.waitSemaphore c)) := by
    cases c <;> simp only [SyncCall.act, State.step, State.enter, idle, if_true]
  show Returns ap s i ret u
  apply Returns.step enter
  by_cases token : semaphoreEvent = .signaled
  · subst token
    obtain ⟨x, taken, result⟩ := Option.map_eq_some_iff.1 h
    let v : State ι := ((s.goto i (.waitSemaphore c)).goto i (.waitMutex c)).setSem c.own x
    have entered : (s.goto i (.waitSemaphore c)).step ap (i, .wait .signaled) = some v := by
      simp only [State.step, State.endWait, goto_self, State.endSemaphoreWait]
      rw [show (s.goto i (.waitSemaphore c)).sem = s.sem from rfl, taken]
      rfl
    have at_mutex : v.thread i = { s.thread i with pc := .waitMutex c } := by simp [v]
    apply Returns.step entered
    by_cases granted : mutexEvent = .signaled
    · subst granted
      have called' : c.callback v.queue (v.thread i).handle = .ok (ok, queue, handle) := by
        rw [at_mutex]
        exact called
      exact returns_granted (by rw [at_mutex]) free called' result
    · have out : (mutexRet mutexEvent, (⟨s.sem, s.queue⟩ : Shared).setSem c.own x) = (ret, u) := by
        rw [← result]
        cases mutexEvent with
        | signaled => exact absurd rfl granted
        | _ => rfl
      cases out
      exact returns_refused (by rw [at_mutex]) free live.2 granted
  · have gone : (s.goto i (.waitSemaphore c)).step ap (i, .wait semaphoreEvent) =
        some ((s.goto i (.waitSemaphore c)).leave i (semaphoreRet semaphoreEvent)) := by
      simp only [State.step, State.endWait, goto_self]
      cases semaphoreEvent with
      | signaled => exact absurd rfl token
      | abandoned => exact absurd rfl live.1
      | _ => rfl
    have out : (semaphoreRet semaphoreEvent, (⟨s.sem, s.queue⟩ : Shared)) = (ret, u) := by
      refine Option.some.inj (Eq.trans ?_ h)
      cases semaphoreEvent with
      | signaled => exact absurd rfl token
      | _ => rfl
    cases out
    exact .step gone (Returned.returns ⟨rfl, rfl, free, by simp, by simp⟩)

end Solo

end SyncSharedMemory

end CameraEv
