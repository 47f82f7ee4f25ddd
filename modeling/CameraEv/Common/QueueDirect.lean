import CameraEv.Lib.Trace
import CameraEv.Common.QueueFifo

/-!
# `SetData` and `GetData`: direct access to a ring's memory

Both classes let a caller write and read the queue's bytes by position, past the
cursors. The two functions bound the same range in two ways: `GetData` compares
the position and then the distance to the end, `SetData` the 32-bit sum of
position and length. `DirectAccess` says what the pair owes a caller; the two
tests agree with it except where a range ends at the end of the queue, and where
the sum wraps around to a position inside it.
-/

namespace CameraEv

open Exec

/-- `QueueSharedMemory::RANGE_IS_NOT_RIGHT`. -/
def QueueSharedMemory.rangeIsNotRight : Nat := 7

/-- `QueueLocalMemory::RANGE_IS_NOT_RIGHT`. -/
def QueueLocalMemory.rangeIsNotRight : Nat := 6

namespace QueueMemory

/-- The position is unsigned, so the test for a negative one never succeeds. -/
def setData (A : U32) (rangeIsNotRight : Nat) (q : QueueMemory) (pos : Nat) (bytes : List UInt8) :
    Exec (Nat × QueueMemory) := do
  let up ← A.add pos bytes.length
  if pos < 0 ∨ q.queueSize ≤ up then
    return (rangeIsNotRight, q)
  let buffer ← store q.buffer pos bytes
  return (0, { q with buffer })

/-- The code and the bytes copied out. -/
def getData (A : U32) (rangeIsNotRight : Nat) (q : QueueMemory) (pos len : Nat) : Exec (Nat × List UInt8) := do
  if pos < 0 ∨ q.queueSize ≤ pos then
    return (rangeIsNotRight, [])
  let room ← A.sub q.queueSize pos
  if room < len then
    return (rangeIsNotRight, [])
  let bytes ← load q.buffer pos len
  return (0, bytes)

end QueueMemory

namespace QueueSharedMemoryImpl

open QueueSharedMemory (failedCode rangeIsNotRight)

def setData (A : U32) (s : QueueSharedMemoryImpl) (pos : Nat) (bytes : List UInt8) :
    Exec (Nat × QueueSharedMemoryImpl) :=
  match s.memory with
  | none => return (failedCode.didNotInitialize, s)
  | some q => do
    let (code, q) ← q.setData A rangeIsNotRight pos bytes
    return (code, { s with memory := some q })

def getData (A : U32) (s : QueueSharedMemoryImpl) (pos len : Nat) : Exec (Nat × List UInt8) :=
  match s.memory with
  | none => return (failedCode.didNotInitialize, [])
  | some q => q.getData A rangeIsNotRight pos len

end QueueSharedMemoryImpl

namespace QueueLocalMemoryImpl

open QueueLocalMemory (failedCode rangeIsNotRight)

def setData (A : U32) (s : QueueLocalMemoryImpl) (pos : Nat) (bytes : List UInt8) :
    Exec (Nat × QueueLocalMemoryImpl) :=
  if s.allocated then do
    let (code, memory) ← s.memory.setData A rangeIsNotRight pos bytes
    return (code, { s with memory })
  else return (failedCode.didNotInitialize, s)

def getData (A : U32) (s : QueueLocalMemoryImpl) (pos len : Nat) : Exec (Nat × List UInt8) :=
  if s.allocated then s.memory.getData A rangeIsNotRight pos len
  else return (failedCode.didNotInitialize, [])

end QueueLocalMemoryImpl

/-! ## What direct access is for -/

/-- The `n` bytes from `pos` on are bytes of a queue of `size`, whose positions end below `size`. -/
def InRange (size pos n : Nat) : Prop := pos < size ∧ pos + n ≤ size

/-- The bytes outside the `n` from `pos` on are the old ones. -/
structure Touches (pos n : Nat) (old new : List UInt8) : Prop where
  length : new.length = old.length
  outside : ∀ i, ¬ (pos ≤ i ∧ i < pos + n) → new[i]? = old[i]?

/-- What writing `bytes` at `pos` and reading as many bytes there owe the caller. `put` is the queue object over a
memory, so that a call is seen to leave everything but the buffer alone. -/
structure DirectAccess {S : Type} (setData : S → Nat → List UInt8 → Exec (Nat × S))
    (getData : S → Nat → Nat → Exec (Nat × List UInt8)) (put : QueueMemory → S) (q : QueueMemory) (pos : Nat)
    (bytes : List UInt8) : Prop where
  written : InRange q.queueSize pos bytes.length → ∃ buffer,
    setData (put q) pos bytes = .ok (0, put { q with buffer }) ∧ Touches pos bytes.length q.buffer buffer ∧
      getData (put { q with buffer }) pos bytes.length = .ok (0, bytes)
  refused : ¬ InRange q.queueSize pos bytes.length → ∃ code, code ≠ 0 ∧ setData (put q) pos bytes = .ok (code, put q)
  read : InRange q.queueSize pos bytes.length →
    getData (put q) pos bytes.length = .ok (0, (q.buffer.drop pos).take bytes.length)
  unread : ¬ InRange q.queueSize pos bytes.length → ∃ code, code ≠ 0 ∧ getData (put q) pos bytes.length = .ok (code, [])

/-- The range is empty or does not end where the queue does, and an end from `2 ^ 32` on does not wrap around to a
position inside the queue. -/
def ClearOfEnd (size pos n : Nat) : Prop := (n = 0 ∨ pos + n ≠ size) ∧ (2 ^ 32 ≤ pos + n → size ≤ pos + n - 2 ^ 32)

/-! ## One access -/

namespace QueueMemory

/-- A queue of `size` bytes that an `Initialize` made, whatever has been called since. -/
structure Initialised (size : Nat) (q : QueueMemory) : Prop where
  queueSize : q.queueSize = size
  length : q.buffer.length = size
  pos : 0 < size
  small : size < 2 ^ 32

section Spec

variable {size pos n code : Nat} {q : QueueMemory} {bytes : List UInt8}

theorem Initialised.getData_in (h : q.Initialised size) (inside : InRange size pos n) :
    q.getData wrapping code pos n = .ok (0, (q.buffer.drop pos).take n) := by
  have small := h.small
  have length := h.length
  obtain ⟨below, fits⟩ := inside
  simp only [getData, h.queueSize]
  rw [if_neg (by omega), wrapping_sub (by omega) small, ok_bind, if_neg (by omega), load_eq (by omega)]
  rfl

theorem Initialised.getData_out (h : q.Initialised size) (outside : ¬ InRange size pos n) :
    q.getData wrapping code pos n = .ok (code, []) := by
  have small := h.small
  simp only [getData, h.queueSize]
  by_cases below : pos < size
  · have long : size - pos < n := by
      by_contra short
      exact outside ⟨below, by omega⟩
    rw [if_neg (by omega), wrapping_sub (by omega) small, ok_bind, if_pos long]
    rfl
  · rw [if_pos (by omega)]
    rfl

theorem setData_refused (beyond : q.queueSize ≤ (pos + bytes.length) % 2 ^ 32) :
    q.setData wrapping code pos bytes = .ok (code, q) := by
  simp only [setData, wrapping, pure_eq_ok, ok_bind]
  rw [if_pos (.inr beyond)]

theorem setData_accepted (under : (pos + bytes.length) % 2 ^ 32 < q.queueSize) :
    q.setData wrapping code pos bytes = do
      let buffer ← store q.buffer pos bytes
      return (0, { q with buffer }) := by
  simp only [setData, wrapping, pure_eq_ok, ok_bind]
  rw [if_neg (by omega)]

/-- A write that ends before the queue does. -/
theorem Initialised.setData_in (h : q.Initialised size) (fits : pos + bytes.length < size) :
    q.setData wrapping code pos bytes = .ok (0, { q with buffer := overwrite q.buffer pos bytes }) := by
  have small := h.small
  have length := h.length
  have sum : (pos + bytes.length) % 2 ^ 32 = pos + bytes.length := Nat.mod_eq_of_lt (by omega)
  rw [setData_accepted (by rw [sum, h.queueSize]; exact fits), store_eq (by omega)]
  rfl

/-- A write whose end wraps around into the queue passes the test and leaves the buffer. -/
theorem Initialised.setData_wraps (h : q.Initialised size) (wraps : 2 ^ 32 ≤ pos + bytes.length)
    (inside : (pos + bytes.length) % 2 ^ 32 < size) : q.setData wrapping code pos bytes = .error .fault := by
  have small := h.small
  have length := h.length
  rw [setData_accepted (by rw [h.queueSize]; exact inside), store, if_neg (by omega)]
  rfl

end Spec

end QueueMemory

/-! ## The two tests compared -/

section Access

variable {S : Type}

/-- A class whose objects hand direct access on to their memory. -/
structure Accessible (setData : S → Nat → List UInt8 → Exec (Nat × S))
    (getData : S → Nat → Nat → Exec (Nat × List UInt8)) (put : QueueMemory → S) (code : Nat) : Prop where
  set : ∀ q pos bytes, setData (put q) pos bytes = do
    let (code, q) ← q.setData wrapping code pos bytes
    return (code, put q)
  get : ∀ q pos len, getData (put q) pos len = q.getData wrapping code pos len
  refuses : code ≠ 0

variable {setData : S → Nat → List UInt8 → Exec (Nat × S)} {getData : S → Nat → Nat → Exec (Nat × List UInt8)}
  {put : QueueMemory → S} {code size pos : Nat} {q : QueueMemory} {bytes : List UInt8}

theorem touches_overwrite {old : List UInt8} (fits : pos + bytes.length ≤ old.length) :
    Touches pos bytes.length old (overwrite old pos bytes) where
  length := length_overwrite fits
  outside i out := by rw [getElem?_overwrite fits, if_neg out]

/-- A range that ends before the queue does is written and read back. -/
theorem Accessible.written (h : Accessible setData getData put code) (initialised : q.Initialised size)
    (fits : pos + bytes.length < size) : ∃ buffer, setData (put q) pos bytes = .ok (0, put { q with buffer }) ∧
      Touches pos bytes.length q.buffer buffer ∧ getData (put { q with buffer }) pos bytes.length = .ok (0, bytes) := by
  have room : pos + bytes.length ≤ q.buffer.length := by
    rw [initialised.length]
    omega
  have kept : QueueMemory.Initialised size { q with buffer := overwrite q.buffer pos bytes } := by
    constructor
    · exact initialised.queueSize
    · exact (length_overwrite room).trans initialised.length
    · exact initialised.pos
    · exact initialised.small
  have back : ((overwrite q.buffer pos bytes).drop pos).take bytes.length = bytes := by
    have loaded := load_overwrite room
    rw [load_eq (by rw [length_overwrite room]; exact room)] at loaded
    exact Except.ok.inj loaded
  refine ⟨overwrite q.buffer pos bytes, ?_, touches_overwrite room, ?_⟩
  · rw [h.set, initialised.setData_in fits]
    rfl
  · rw [h.get, kept.getData_in ⟨by omega, by omega⟩, back]

theorem Accessible.refused (h : Accessible setData getData put code)
    (beyond : q.queueSize ≤ (pos + bytes.length) % 2 ^ 32) : setData (put q) pos bytes = .ok (code, put q) := by
  rw [h.set, QueueMemory.setData_refused beyond]
  rfl

/-- Direct access keeps its promise exactly on the ranges that are clear of the end. -/
theorem Accessible.direct_iff (h : Accessible setData getData put code) (initialised : q.Initialised size)
    (position : pos < 2 ^ 32) (length : bytes.length < 2 ^ 32) :
    DirectAccess setData getData put q pos bytes ↔ ClearOfEnd size pos bytes.length := by
  have small := initialised.small
  have queueSize := initialised.queueSize
  constructor
  · intro access
    constructor
    · by_contra edge
      push Not at edge
      obtain ⟨nonempty, ends⟩ := edge
      have sum : (pos + bytes.length) % 2 ^ 32 = size := by rw [ends, Nat.mod_eq_of_lt small]
      obtain ⟨buffer, ran, -⟩ := access.written ⟨by omega, by omega⟩
      rw [h.refused (by rw [sum, queueSize])] at ran
      exact h.refuses (congrArg Prod.fst (Except.ok.inj ran))
    · intro wraps
      by_contra inside
      have sum : (pos + bytes.length) % 2 ^ 32 = pos + bytes.length - 2 ^ 32 := by omega
      obtain ⟨code', -, ran⟩ := access.refused fun inRange => by
        have := inRange.2
        omega
      rw [h.set, initialised.setData_wraps wraps (by omega)] at ran
      cases ran
  · rintro ⟨edge, wrap⟩
    have refused : ¬ InRange q.queueSize pos bytes.length → q.queueSize ≤ (pos + bytes.length) % 2 ^ 32 := by
      intro outside
      have past : size ≤ pos + bytes.length := by
        by_contra before
        exact outside ⟨by omega, by omega⟩
      omega
    constructor
    · rintro ⟨below, fits⟩
      exact h.written initialised (by omega)
    · intro outside
      exact ⟨code, h.refuses, h.refused (refused outside)⟩
    · intro inside
      rw [queueSize] at inside
      rw [h.get, initialised.getData_in inside]
    · intro outside
      rw [queueSize] at outside
      exact ⟨code, h.refuses, by rw [h.get, initialised.getData_out outside]⟩

end Access

/-! ## Every reachable queue -/

/-- A call on a queue: of the ring or of its memory. -/
inductive AccessCall where
  | ring (c : QueueCall)
  | setData (pos : UInt32) (bytes : Buffer)
  | getData (pos len : UInt32)

namespace QueueMemory.Initialised

variable {size popDataLen : Nat} {q q' : QueueMemory} {A : U32} {code : FailedCode}

theorem stored {pos : Nat} {bytes buffer : List UInt8} (h : q.Initialised size)
    (ran : store q.buffer pos bytes = .ok buffer) : buffer.length = size := by
  obtain ⟨fits, rfl⟩ := store_eq_ok.1 ran
  exact (length_overwrite fits).trans h.length

/-- The cursors are no part of it. -/
theorem of_buffer (h : q.Initialised size) (queueSize : q'.queueSize = q.queueSize) (length : q'.buffer.length = size) :
    q'.Initialised size where
  queueSize := queueSize.trans h.queueSize
  length := length
  pos := h.pos
  small := h.small

theorem clear (h : q.Initialised size) {reply : Nat} (ran : q.clear = .ok (reply, q')) : q'.Initialised size := by
  obtain ⟨buffer, stored, ran⟩ := bind_eq_ok.1 ran
  cases ran
  exact h.of_buffer rfl (h.stored stored)

theorem push (h : q.Initialised size) {bytes : List UInt8} {reply : Nat} (ran : q.push A code bytes = .ok (reply, q')) :
    q'.Initialised size := by
  obtain ⟨free, -, ran⟩ := bind_eq_ok.1 ran
  split at ran
  · cases ran
    exact h
  obtain ⟨writeSize, -, ran⟩ := bind_eq_ok.1 ran
  dsimp only at ran
  split at ran
  · obtain ⟨first, storedFirst, ran⟩ := bind_eq_ok.1 ran
    obtain ⟨rest, -, ran⟩ := bind_eq_ok.1 ran
    obtain ⟨second, storedSecond, ran⟩ := bind_eq_ok.1 ran
    obtain ⟨_, made, ran⟩ := bind_eq_ok.1 ran
    cases made
    obtain ⟨useSize, -, ran⟩ := bind_eq_ok.1 ran
    cases ran
    have kept : QueueMemory.Initialised size { q with buffer := first } := h.of_buffer rfl (h.stored storedFirst)
    exact h.of_buffer rfl (kept.stored storedSecond)
  · obtain ⟨buffer, stored, ran⟩ := bind_eq_ok.1 ran
    obtain ⟨tail, -, ran⟩ := bind_eq_ok.1 ran
    obtain ⟨_, made, ran⟩ := bind_eq_ok.1 ran
    cases made
    obtain ⟨useSize, -, ran⟩ := bind_eq_ok.1 ran
    cases ran
    exact h.of_buffer rfl (h.stored stored)

theorem pop (h : q.Initialised size) {queueSize reply len : Nat}
    (ran : q.pop A code queueSize popDataLen = .ok (reply, q', len)) : q'.Initialised size := by
  unfold QueueMemory.pop at ran
  split at ran
  · cases ran
    exact h
  obtain ⟨readSize, -, ran⟩ := bind_eq_ok.1 ran
  dsimp only at ran
  split at ran
  · obtain ⟨head, -, ran⟩ := bind_eq_ok.1 ran
    obtain ⟨useSize, -, ran⟩ := bind_eq_ok.1 ran
    cases ran
    exact h.of_buffer rfl h.length
  · obtain ⟨head, -, ran⟩ := bind_eq_ok.1 ran
    obtain ⟨useSize, -, ran⟩ := bind_eq_ok.1 ran
    cases ran
    exact h.of_buffer rfl h.length

theorem setData (h : q.Initialised size) {rangeIsNotRight pos reply : Nat} {bytes : List UInt8}
    (ran : q.setData A rangeIsNotRight pos bytes = .ok (reply, q')) : q'.Initialised size := by
  obtain ⟨up, -, ran⟩ := bind_eq_ok.1 ran
  split at ran
  · cases ran
    exact h
  obtain ⟨buffer, stored, ran⟩ := bind_eq_ok.1 ran
  cases ran
  exact h.of_buffer rfl (h.stored stored)

theorem call (h : q.Initialised size) {c : QueueCall} {reply : Reply} {len : Nat}
    (ran : q.call A code popDataLen c = .ok (reply, q', len)) : q'.Initialised size := by
  cases c with
  | push bytes =>
    obtain ⟨⟨reply', q₁⟩, pushed, ran⟩ := bind_eq_ok.1 ran
    cases ran
    exact h.push pushed
  | front n =>
    obtain ⟨read, -, ran⟩ := bind_eq_ok.1 ran
    cases ran
    exact h
  | pop =>
    obtain ⟨⟨reply', q₁, len'⟩, popped, ran⟩ := bind_eq_ok.1 ran
    cases ran
    exact h.pop popped
  | clear =>
    obtain ⟨⟨reply', q₁⟩, cleared, ran⟩ := bind_eq_ok.1 ran
    cases ran
    exact h.clear cleared

end QueueMemory.Initialised

/-- The state after a call that returns. -/
def returned {S R : Type} : Exec (R × S) → Option S
  | .ok (_, s) => some s
  | .error _ => none

theorem returned_eq_some {S R : Type} {x : Exec (R × S)} {s : S} : returned x = some s ↔ ∃ r, x = .ok (r, s) := by
  cases x with
  | ok a => simp [returned, Prod.ext_iff]
  | error e => simp [returned]

namespace QueueSharedMemoryImpl

variable {size : Nat} {s t : QueueSharedMemoryImpl}

/-- The handle is attached to a queue of `size` bytes. -/
def Initialised (size : Nat) (s : QueueSharedMemoryImpl) : Prop := ∃ q, s.memory = some q ∧ q.Initialised size

def access (s : QueueSharedMemoryImpl) : AccessCall → Option QueueSharedMemoryImpl
  | .ring c => returned (s.call wrapping c)
  | .setData pos bytes => returned (s.setData wrapping pos.toNat bytes.1)
  | .getData pos len => returned do return (← s.getData wrapping pos.toNat len.toNat, s)

theorem initialised_initializeQueue (small : size < 2 ^ 32)
    (ran : ({} : QueueSharedMemoryImpl).initializeQueue size = (0, s)) : s.Initialised size := by
  unfold initializeQueue at ran
  split at ran
  · cases ran
  rename_i nonzero
  cases ran
  exact ⟨_, rfl, rfl, List.length_replicate .., Nat.pos_of_ne_zero nonzero, small⟩

theorem Initialised.access (h : s.Initialised size) {c : AccessCall} (ran : s.access c = some t) :
    t.Initialised size := by
  obtain ⟨memory, len⟩ := s
  obtain ⟨q, rfl, h⟩ := h
  cases c with
  | ring c =>
    obtain ⟨reply, ran⟩ := returned_eq_some.1 ran
    rw [call_attached] at ran
    obtain ⟨⟨reply', q', len'⟩, called, ran⟩ := bind_eq_ok.1 ran
    cases ran
    exact ⟨q', rfl, h.call called⟩
  | setData pos bytes =>
    obtain ⟨reply, ran⟩ := returned_eq_some.1 ran
    obtain ⟨⟨reply', q'⟩, called, ran⟩ := bind_eq_ok.1 ran
    cases ran
    exact ⟨q', rfl, h.setData called⟩
  | getData pos len =>
    obtain ⟨reply, ran⟩ := returned_eq_some.1 ran
    obtain ⟨bytes, -, ran⟩ := bind_eq_ok.1 ran
    cases ran
    exact ⟨q, rfl, h⟩

theorem accessible (len : Nat) : Accessible (setData wrapping) (getData wrapping) (fun q => ⟨some q, len⟩)
    QueueSharedMemory.rangeIsNotRight where
  set _ _ _ := rfl
  get _ _ _ := rfl
  refuses := by decide

/-- Whatever has been called since `Initialize`. -/
theorem initialised_of_run (small : size < 2 ^ 32) (made : ({} : QueueSharedMemoryImpl).initializeQueue size = (0, s))
    {calls : List AccessCall} (ran : Trace.run access s calls = some t) : t.Initialised size := by
  apply Trace.run_invariant ?_ (initialised_initializeQueue small made) Trace.along_true ran
  exact fun h _ ran => h.access ran

end QueueSharedMemoryImpl

namespace QueueLocalMemoryImpl

variable {size : Nat} {s t : QueueLocalMemoryImpl}

/-- The object has a buffer of `size` bytes. -/
structure Initialised (size : Nat) (s : QueueLocalMemoryImpl) : Prop where
  allocated : s.allocated = true
  memory : s.memory.Initialised size

def access (s : QueueLocalMemoryImpl) : AccessCall → Option QueueLocalMemoryImpl
  | .ring c => returned (s.call wrapping c)
  | .setData pos bytes => returned (s.setData wrapping pos.toNat bytes.1)
  | .getData pos len => returned do return (← s.getData wrapping pos.toNat len.toNat, s)

theorem initialised_initializeQueue {garbage : List UInt8}
    (ran : ({} : QueueLocalMemoryImpl).initializeQueue garbage = .ok (0, s)) : s.Initialised garbage.length := by
  obtain ⟨⟨pos, small⟩, rfl⟩ := initializeQueue_eq_ok.1 ran
  exact ⟨rfl, rfl, rfl, pos, by omega⟩

theorem Initialised.access (h : s.Initialised size) {c : AccessCall} (ran : s.access c = some t) :
    t.Initialised size := by
  obtain ⟨q, allocated, len⟩ := s
  obtain ⟨rfl, h⟩ := h
  cases c with
  | ring c =>
    obtain ⟨reply, ran⟩ := returned_eq_some.1 ran
    rw [call_allocated] at ran
    obtain ⟨⟨reply', q', len'⟩, called, ran⟩ := bind_eq_ok.1 ran
    cases ran
    exact ⟨rfl, h.call called⟩
  | setData pos bytes =>
    obtain ⟨reply, ran⟩ := returned_eq_some.1 ran
    obtain ⟨⟨reply', q'⟩, called, ran⟩ := bind_eq_ok.1 ran
    cases ran
    exact ⟨rfl, h.setData called⟩
  | getData pos len =>
    obtain ⟨reply, ran⟩ := returned_eq_some.1 ran
    obtain ⟨bytes, -, ran⟩ := bind_eq_ok.1 ran
    cases ran
    exact ⟨rfl, h⟩

theorem accessible (len : Nat) : Accessible (setData wrapping) (getData wrapping) (fun q => ⟨q, true, len⟩)
    QueueLocalMemory.rangeIsNotRight where
  set _ _ _ := rfl
  get _ _ _ := rfl
  refuses := by decide

/-- Whatever has been called since `Initialize`. -/
theorem initialised_of_run {garbage : List UInt8}
    (made : ({} : QueueLocalMemoryImpl).initializeQueue garbage = .ok (0, s)) {calls : List AccessCall}
    (ran : Trace.run access s calls = some t) : t.Initialised garbage.length := by
  apply Trace.run_invariant ?_ (initialised_initializeQueue made) Trace.along_true ran
  exact fun h _ ran => h.access ran

end QueueLocalMemoryImpl

/-- **`SetData` and `GetData` agree on the ranges that are clear of the queue's end, and only there.** For both classes,
every queue of `size` bytes, every position and every buffer. -/
theorem direct_access_iff (size : Nat) (pos : UInt32) (bytes : Buffer) (q : QueueMemory)
    (initialised : q.Initialised size) (popDataLen : Nat) :
    (DirectAccess (QueueSharedMemoryImpl.setData wrapping) (QueueSharedMemoryImpl.getData wrapping)
        (fun q => ⟨some q, popDataLen⟩) q pos.toNat bytes.1 ↔ ClearOfEnd size pos.toNat bytes.1.length) ∧
    (DirectAccess (QueueLocalMemoryImpl.setData wrapping) (QueueLocalMemoryImpl.getData wrapping)
        (fun q => ⟨q, true, popDataLen⟩) q pos.toNat bytes.1 ↔ ClearOfEnd size pos.toNat bytes.1.length) := by
  have position := pos.toNat_lt
  constructor
  · exact (QueueSharedMemoryImpl.accessible popDataLen).direct_iff initialised position bytes.2
  · exact (QueueLocalMemoryImpl.accessible popDataLen).direct_iff initialised position bytes.2

/-- Three bytes in the middle of a queue of 8, which three calls have used before. -/
theorem direct_access_iff_middle :
    ∃ s q, Trace.run QueueSharedMemoryImpl.access ⟨some (.fresh 8), 0⟩
        [.ring (.push ⟨[7, 7, 7, 7, 7], by decide⟩), .ring (.front 2), .setData 0 ⟨[9], by decide⟩] = some s ∧
      s = ⟨some q, 2⟩ ∧
      DirectAccess (QueueSharedMemoryImpl.setData wrapping) (QueueSharedMemoryImpl.getData wrapping)
        (fun q => ⟨some q, 2⟩) q 2 [1, 2, 3] ∧
      DirectAccess (QueueLocalMemoryImpl.setData wrapping) (QueueLocalMemoryImpl.getData wrapping)
        (fun q => ⟨q, true, 2⟩) q 2 [1, 2, 3] := by
  have initialised : QueueMemory.Initialised 8 ⟨5, 0, 8, 5, [9, 7, 7, 7, 7, 0, 0, 0]⟩ := by
    constructor <;> decide
  obtain ⟨shared, loc⟩ := direct_access_iff 8 2 ⟨[1, 2, 3], by decide⟩ _ initialised 2
  refine ⟨_, _, rfl, rfl, shared.mpr ?_, loc.mpr ?_⟩
  · exact ⟨by decide, by decide⟩
  · exact ⟨by decide, by decide⟩

/-- On a queue of 8 bytes the write of all 8 is refused where the read of all 8 is answered, and one byte at the last
position of all is written outside the queue. -/
theorem direct_access_edge :
    QueueSharedMemoryImpl.setData wrapping ⟨some (.fresh 8), 0⟩ 0 (List.replicate 8 1) =
      .ok (QueueSharedMemory.rangeIsNotRight, ⟨some (.fresh 8), 0⟩) ∧
    QueueSharedMemoryImpl.getData wrapping ⟨some (.fresh 8), 0⟩ 0 8 = .ok (0, List.replicate 8 0) ∧
    QueueSharedMemoryImpl.setData wrapping ⟨some (.fresh 8), 0⟩ (2 ^ 32 - 1) [1] = .error .fault ∧
    ¬ DirectAccess (QueueSharedMemoryImpl.setData wrapping) (QueueSharedMemoryImpl.getData wrapping)
      (fun q => ⟨some q, 0⟩) (.fresh 8) 0 (List.replicate 8 1) ∧
    ¬ DirectAccess (QueueLocalMemoryImpl.setData wrapping) (QueueLocalMemoryImpl.getData wrapping)
      (fun q => ⟨q, true, 0⟩) (.fresh 8) (2 ^ 32 - 1) [1] := by
  have initialised : (QueueMemory.fresh 8).Initialised 8 := by
    constructor <;> decide
  have wild (code : Nat) : (QueueMemory.fresh 8).setData wrapping code (2 ^ 32 - 1) [1] = .error .fault :=
    initialised.setData_wraps (by decide) (by decide)
  refine ⟨rfl, ?_, ?_, ?_, ?_⟩
  · exact initialised.getData_in (by constructor <;> decide)
  · simp only [QueueSharedMemoryImpl.setData, wild, error_bind]
  · intro access
    obtain ⟨buffer, ran, -⟩ := access.written (by constructor <;> decide)
    cases ran
  · intro access
    obtain ⟨code, -, ran⟩ := access.refused fun inside => absurd inside.2 (by decide)
    simp only [QueueLocalMemoryImpl.setData, if_true, wild, error_bind] at ran
    cases ran

end CameraEv
