import Mathlib.Tactic

/-!
# Win32 semaphores and mutexes

Kernel objects as values: what a satisfied wait, a release and the death of a
thread do to them. A semaphore's count never leaves its range, which is a field.
A mutex is recursive, and a mutex whose owner died is abandoned: the next wait
for it is satisfied, but reports so.
-/

namespace Win32

/-- `GetLastError()` after a failed `ReleaseSemaphore`. -/
inductive PostError where
  | tooManyPosts
  | other
  deriving DecidableEq

structure Semaphore where
  count : Nat
  max : Nat
  count_le : count ≤ max
  deriving DecidableEq

namespace Semaphore

/-- A satisfied wait; a wait is not satisfied at count zero. -/
def acquire (s : Semaphore) : Option Semaphore :=
  if 0 < s.count then some ⟨s.count - 1, s.max, (Nat.sub_le _ _).trans s.count_le⟩ else none

/-- `ReleaseSemaphore(semaphore, 1, …)`. -/
def release (s : Semaphore) : Except PostError Semaphore :=
  if h : s.count < s.max then .ok ⟨s.count + 1, s.max, h⟩ else .error .tooManyPosts

theorem acquire_eq_some {s t : Semaphore} :
    s.acquire = some t ↔ t.count + 1 = s.count ∧ t.max = s.max := by
  obtain ⟨count, max, le⟩ := s
  obtain ⟨count', max', le'⟩ := t
  unfold acquire
  split
  · rename_i pos
    simp only [Option.some.injEq, Semaphore.mk.injEq] at pos ⊢
    omega
  · rename_i pos
    simp only [reduceCtorEq, false_iff] at pos ⊢
    omega

theorem release_of_lt {s : Semaphore} (h : s.count < s.max) :
    ∃ t, s.release = .ok t ∧ t.count = s.count + 1 ∧ t.max = s.max :=
  ⟨_, dif_pos h, rfl, rfl⟩

end Semaphore

/-- `recursion` counts the waits of the owner after its first one. -/
inductive Mutex (ι : Type) where
  | free (abandoned : Bool)
  | owned (owner : ι) (recursion : Nat)
  deriving DecidableEq

namespace Mutex

variable {ι : Type} [DecidableEq ι]

/-- A satisfied wait of thread `i`: whether it reports an abandoned mutex, and the mutex after it. -/
def acquire (i : ι) : Mutex ι → Option (Bool × Mutex ι)
  | free abandoned => some (abandoned, owned i 0)
  | owned j recursion => if j = i then some (false, owned j (recursion + 1)) else none

/-- `ReleaseMutex` by thread `i`; it fails without effect where `i` is not the owner. -/
def release (i : ι) : Mutex ι → Mutex ι
  | free abandoned => free abandoned
  | owned j 0 => if j = i then free false else owned j 0
  | owned j (recursion + 1) => owned j (if j = i then recursion else recursion + 1)

/-- The end of thread `i`. -/
def abandon (i : ι) : Mutex ι → Mutex ι
  | free abandoned => free abandoned
  | owned j recursion => if j = i then free true else owned j recursion

end Mutex

end Win32
