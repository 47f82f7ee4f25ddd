import CameraEv.Lib.Trace
import CameraEv.Lib.Win32
import CameraEv.Network.SyncQueueCallbacks

/-!
# `SyncSharedMemory`: producers and consumers around one shared queue

The kernel objects and the queue are shared by all processes; each thread is at
a point of `SyncProducer`, `SyncConsumer` or `SyncClear`, or outside them. One
step of one thread is one wait, one callback or one release; what runs under the
mutex is not divided further. `SyncProducer` and `SyncConsumer` are one text
with the two semaphores exchanged (`SyncCall.own`, `SyncCall.other`).

Which event ends a wait is left open: every outcome that the state of the
awaited object permits is a step. A thread may die at any point. `sent` and
`delivered` record the packets of the calls that have released the mutex on a
path that returns 0.
-/

namespace CameraEv

open Win32

namespace SyncSharedMemory

/-- The counts in `ActivateParam`; the queue is part of the state. -/
structure ActivateParam where
  producerCount : Nat := 0
  consumerCount : Nat := 0

namespace FailedCode

def recvDeactivaed : Nat := 6

def recvUnlock : Nat := 7

def semaphoreTimeout : Nat := 8

def waitForObjectFailed : Nat := 10

def userFuncFailed : Nat := 11

def releaseSemaphoreFailed : Nat := 13

end FailedCode

/-- How a `WaitForExistSignal` ends: with the awaited object, with one of the two events, or otherwise. -/
inductive WaitEvent where
  | signaled
  | exit
  | unlock
  | timeout
  | abandoned
  | failed
  deriving DecidableEq

/-- The code returned where the wait for a semaphore ends without it. -/
def semaphoreRet : WaitEvent → Nat
  | .exit => FailedCode.recvDeactivaed
  | .unlock => FailedCode.recvUnlock
  | .timeout => FailedCode.semaphoreTimeout
  | _ => FailedCode.waitForObjectFailed

/-- The code returned where the wait for the mutex ends on another event than `WAIT_OBJECT_0`.
The case of `WAIT_TIMEOUT` has no `break`. -/
def mutexRet : WaitEvent → Nat
  | .exit => FailedCode.recvDeactivaed
  | .unlock => FailedCode.recvUnlock
  | _ => FailedCode.waitForObjectFailed

inductive Side where
  | producer
  | consumer
  deriving DecidableEq

/-- The maximum of a semaphore. -/
def ActivateParam.count (ap : ActivateParam) : Side → Nat
  | .producer => ap.producerCount
  | .consumer => ap.consumerCount

/-- A call of `SyncProducer` with a packet to push, or of `SyncConsumer`. -/
inductive SyncCall where
  | producer (packet : Buffer)
  | consumer
  deriving DecidableEq

namespace SyncCall

/-- The semaphore that the call waits for. -/
def own : SyncCall → Side
  | producer _ => .producer
  | consumer => .consumer

/-- The semaphore that the call releases after its callback. -/
def other : SyncCall → Side
  | producer _ => .consumer
  | consumer => .producer

def callback (q : QueueMemory) (h : Handle) : SyncCall → Exec (Bool × QueueMemory × Handle)
  | producer packet => SendWorkerSyncQueue.callbackProducer q h packet
  | consumer => RecvWorkerSyncQueue.callbackConsumer q h

end SyncCall

/-- What a thread does next. -/
inductive Pc where
  | idle
  | waitSemaphore (c : SyncCall)
  | waitMutex (c : SyncCall)
  | callback (c : SyncCall)
  /-- The callback returned true: `ReleaseSemaphore` of the other side. -/
  | post (c : SyncCall)
  /-- The callback returned false: `ReleaseSemaphore` of the own side. -/
  | giveBack (c : SyncCall)
  /-- `ReleaseMutex`, then `return ret`. -/
  | unlock (c : SyncCall) (ret : Nat)
  | clearWaitMutex
  | clearQueue
  /-- The first loop of `ResetSemaphore`, with the rounds left. -/
  | refill (left : Nat)
  /-- The second loop of `ResetSemaphore`. -/
  | drain (left : Nat)
  | clearUnlock
  | dead
  deriving DecidableEq

/-- `ret` is what the last call returned. -/
structure Thread where
  pc : Pc := .idle
  handle : Handle := {}
  ret : Nat := 0
  deriving DecidableEq

structure State (ι : Type) where
  sem : Side → Semaphore
  mutex : Mutex ι
  queue : QueueMemory
  thread : ι → Thread
  sent : List (List UInt8) := []
  delivered : List (List UInt8) := []

inductive Act where
  | syncProducer (packet : Buffer)
  | syncConsumer
  | syncClear
  /-- The current wait ends. -/
  | wait (e : WaitEvent)
  /-- The next statement. -/
  | run
  /-- The callback returns false without touching the queue. -/
  | refuse
  | die
  deriving DecidableEq

variable {ι : Type}

namespace State

def setSem (s : State ι) (side : Side) (x : Semaphore) : State ι := { s with sem := Function.update s.sem side x }

/-- The packet of a call that returns 0. -/
def record (s : State ι) (i : ι) (ret : Nat) : SyncCall → State ι
  | .producer packet => if ret = 0 then { s with sent := s.sent ++ [packet.1] } else s
  | .consumer =>
    if ret = 0 then { s with delivered := s.delivered ++ [RecvWorkerSyncQueue.packet (s.thread i).handle] } else s

@[simp] theorem setSem_mutex (s : State ι) (side : Side) (x : Semaphore) : (s.setSem side x).mutex = s.mutex := rfl

@[simp] theorem setSem_thread (s : State ι) (side : Side) (x : Semaphore) : (s.setSem side x).thread = s.thread := rfl

@[simp] theorem record_thread (s : State ι) (i : ι) (ret : Nat) (c : SyncCall) :
    (s.record i ret c).thread = s.thread := by
  cases c <;> simp only [record] <;> split <;> rfl

@[simp] theorem record_queue (s : State ι) (i : ι) (ret : Nat) (c : SyncCall) :
    (s.record i ret c).queue = s.queue := by
  cases c <;> simp only [record] <;> split <;> rfl

@[simp] theorem record_sem (s : State ι) (i : ι) (ret : Nat) (c : SyncCall) : (s.record i ret c).sem = s.sem := by
  cases c <;> simp only [record] <;> split <;> rfl

variable [DecidableEq ι]

def setThread (s : State ι) (i : ι) (t : Thread) : State ι := { s with thread := Function.update s.thread i t }

def goto (s : State ι) (i : ι) (pc : Pc) : State ι := s.setThread i { s.thread i with pc }

def leave (s : State ι) (i : ι) (ret : Nat) : State ι := s.setThread i { s.thread i with pc := .idle, ret }

/-- Thread `i` ends, and Windows abandons its mutex. -/
def kill (s : State ι) (i : ι) : State ι := { s.goto i .dead with mutex := s.mutex.abandon i }

section Simp

variable (s : State ι) (i : ι) (t : Thread) (pc : Pc) (ret : Nat)

@[simp] theorem setThread_self : (s.setThread i t).thread i = t := by
  simp only [setThread, Function.update_self]

@[simp] theorem goto_self : (s.goto i pc).thread i = { s.thread i with pc } := setThread_self s i _

@[simp] theorem leave_self : (s.leave i ret).thread i = { s.thread i with pc := .idle, ret } := setThread_self s i _

@[simp] theorem setThread_mutex : (s.setThread i t).mutex = s.mutex := rfl

@[simp] theorem goto_mutex : (s.goto i pc).mutex = s.mutex := rfl

@[simp] theorem leave_mutex : (s.leave i ret).mutex = s.mutex := rfl

end Simp

/-- A call starts. -/
def enter (s : State ι) (i : ι) (pc : Pc) : Option (State ι) :=
  if (s.thread i).pc = .idle then some (s.goto i pc) else none

/-- The switch after a wait for the own semaphore. -/
def endSemaphoreWait (s : State ι) (i : ι) (c : SyncCall) : WaitEvent → Option (State ι)
  | .signaled => (s.sem c.own).acquire.map ((s.goto i (.waitMutex c)).setSem c.own)
  | .abandoned => none
  | e => some (s.leave i (semaphoreRet e))

/-- The switch after a wait for the mutex: only `WAIT_OBJECT_0` goes on, to `granted`. -/
def endMutexWait (s : State ι) (i : ι) (granted : Pc) : WaitEvent → Option (State ι)
  | .signaled => match s.mutex.acquire i with
    | some (false, mutex) => some { s.goto i granted with mutex }
    | _ => none
  | .abandoned => match s.mutex.acquire i with
    | some (true, mutex) => some { s.leave i (mutexRet .abandoned) with mutex }
    | _ => none
  | e => some (s.leave i (mutexRet e))

def endWait (s : State ι) (i : ι) (e : WaitEvent) : Pc → Option (State ι)
  | .waitSemaphore c => s.endSemaphoreWait i c e
  | .waitMutex c => s.endMutexWait i (.callback c) e
  | .clearWaitMutex => s.endMutexWait i .clearQueue e
  | _ => none

/-- The statements that are not waits. -/
def runStatement (ap : ActivateParam) (s : State ι) (i : ι) : Pc → Option (State ι)
  | .callback c => match c.callback s.queue (s.thread i).handle with
    | .ok (true, queue, handle) => some { s.setThread i { s.thread i with pc := .post c, handle } with queue }
    | .ok (false, queue, handle) => some { s.setThread i { s.thread i with pc := .giveBack c, handle } with queue }
    -- an access violation ends the process
    | .error _ => some (s.kill i)
  | .post c => match (s.sem c.other).release with
    | .ok x => some ((s.goto i (.unlock c 0)).setSem c.other x)
    | .error .tooManyPosts => some (s.goto i (.unlock c 0))
    | .error .other => some (s.goto i (.unlock c FailedCode.releaseSemaphoreFailed))
  | .giveBack c => match (s.sem c.own).release with
    | .ok x => some ((s.goto i (.unlock c FailedCode.userFuncFailed)).setSem c.own x)
    | .error _ => some (s.goto i (.unlock c FailedCode.userFuncFailed))
  | .unlock c ret => some { (s.record i ret c).leave i ret with mutex := s.mutex.release i }
  | .clearQueue => match s.queue.clear with
    | .ok (_, queue) => some { s.goto i (.refill ap.producerCount) with queue }
    | .error _ => some (s.kill i)
  | .refill 0 => some (s.goto i (.drain ap.consumerCount))
  | .refill (left + 1) => match (s.sem .producer).release with
    | .ok x => some ((s.goto i (.refill left)).setSem .producer x)
    | .error _ => some (s.goto i (.drain ap.consumerCount))
  | .drain 0 => some (s.goto i .clearUnlock)
  | .drain (left + 1) => match (s.sem .consumer).acquire with
    | some x => some ((s.goto i (.drain left)).setSem .consumer x)
    | none => some (s.goto i .clearUnlock)
  | .clearUnlock => some { s.leave i 0 with mutex := s.mutex.release i }
  | _ => none

/-- The statement after a callback that returned. -/
theorem runStatement_callback {ap : ActivateParam} {s : State ι} {i : ι} {c : SyncCall} {ok : Bool}
    {queue : QueueMemory} {handle : Handle}
    (called : c.callback s.queue (s.thread i).handle = .ok (ok, queue, handle)) :
    s.runStatement ap i (.callback c) =
      some { s.setThread i { s.thread i with pc := if ok then .post c else .giveBack c, handle } with queue } := by
  cases ok <;> simp only [State.runStatement, called] <;> rfl

/-- One step of one thread. -/
def step (ap : ActivateParam) (s : State ι) : ι × Act → Option (State ι)
  | (i, .syncProducer packet) => s.enter i (.waitSemaphore (.producer packet))
  | (i, .syncConsumer) => s.enter i (.waitSemaphore .consumer)
  | (i, .syncClear) => s.enter i .clearWaitMutex
  | (i, .wait e) => s.endWait i e (s.thread i).pc
  | (i, .run) => s.runStatement ap i (s.thread i).pc
  | (i, .refuse) => match (s.thread i).pc with
    | .callback c => some (s.goto i (.giveBack c))
    | _ => none
  | (i, .die) => if (s.thread i).pc = .dead then none else some (s.kill i)

/-- What a step of thread `i` is, by the point that the thread is at. -/
inductive Stepped (ap : ActivateParam) (s : State ι) (i : ι) : Act → State ι → Prop
  | died (alive : (s.thread i).pc ≠ .dead) : Stepped ap s i .die (s.kill i)
  | producer {packet} (here : (s.thread i).pc = .idle) :
    Stepped ap s i (.syncProducer packet) (s.goto i (.waitSemaphore (.producer packet)))
  | consumer (here : (s.thread i).pc = .idle) : Stepped ap s i .syncConsumer (s.goto i (.waitSemaphore .consumer))
  | clear (here : (s.thread i).pc = .idle) : Stepped ap s i .syncClear (s.goto i .clearWaitMutex)
  | token {c x} (here : (s.thread i).pc = .waitSemaphore c) (taken : (s.sem c.own).acquire = some x) :
    Stepped ap s i (.wait .signaled) ((s.goto i (.waitMutex c)).setSem c.own x)
  | noToken {c e} (here : (s.thread i).pc = .waitSemaphore c) (other : e ≠ .signaled) :
    Stepped ap s i (.wait e) (s.leave i (semaphoreRet e))
  | mutexWait {c e t} (here : (s.thread i).pc = .waitMutex c) (ended : s.endMutexWait i (.callback c) e = some t) :
    Stepped ap s i (.wait e) t
  | clearWait {e t} (here : (s.thread i).pc = .clearWaitMutex) (ended : s.endMutexWait i .clearQueue e = some t) :
    Stepped ap s i (.wait e) t
  | refused {c} (here : (s.thread i).pc = .callback c) : Stepped ap s i .refuse (s.goto i (.giveBack c))
  | ran {t} (ran : s.runStatement ap i (s.thread i).pc = some t) : Stepped ap s i .run t

theorem enter_eq_some {s t : State ι} {i : ι} {pc : Pc} :
    s.enter i pc = some t ↔ (s.thread i).pc = .idle ∧ t = s.goto i pc := by
  simp only [enter]
  split <;> simp_all [eq_comm]

theorem endWait_stepped {ap : ActivateParam} {s t : State ι} {i : ι} {e : WaitEvent} {pc : Pc}
    (here : (s.thread i).pc = pc) (h : s.endWait i e pc = some t) : Stepped ap s i (.wait e) t := by
  cases pc with
  | waitSemaphore c =>
    cases e with
    | signaled =>
      obtain ⟨x, taken, rfl⟩ := Option.map_eq_some_iff.1 h
      exact .token here taken
    | abandoned => cases h
    | _ =>
      cases h
      exact .noToken here (by simp)
  | waitMutex c => exact .mutexWait here h
  | clearWaitMutex => exact .clearWait here h
  | _ => cases h

theorem step_stepped {ap : ActivateParam} {s t : State ι} {i : ι} {a : Act} (h : s.step ap (i, a) = some t) :
    Stepped ap s i a t := by
  cases a with
  | syncProducer packet =>
    obtain ⟨here, rfl⟩ := enter_eq_some.1 h
    exact .producer here
  | syncConsumer =>
    obtain ⟨here, rfl⟩ := enter_eq_some.1 h
    exact .consumer here
  | syncClear =>
    obtain ⟨here, rfl⟩ := enter_eq_some.1 h
    exact .clear here
  | wait e => exact endWait_stepped rfl h
  | run => exact .ran h
  | refuse =>
    simp only [step] at h
    split at h
    · rename_i c here
      cases h
      exact .refused here
    · cases h
  | die =>
    simp only [step] at h
    split at h
    · cases h
    · rename_i alive
      cases h
      exact .died alive

/-- The objects as `Activate` creates them, a new queue, and all threads outside the functions. -/
def fresh (ap : ActivateParam) (queueSize : Nat) (packetBuffer : ι → List UInt8) : State ι where
  sem
    | .producer => ⟨ap.producerCount, ap.producerCount, le_rfl⟩
    | .consumer => ⟨0, ap.consumerCount, Nat.zero_le _⟩
  mutex := .free false
  queue := QueueMemory.fresh queueSize
  thread i := { handle := { packetBuffer := packetBuffer i } }

end State

end SyncSharedMemory

end CameraEv
