import CameraEv.Lib.RingWindow
import CameraEv.Common.QueueMemory

/-!
# The ring queues are bounded byte FIFOs

`Fifo` says what a ring queue is for: a list of bytes, and how many of them the
next `Pop` drops. `QueueMemory.Holds` relates a queue's memory to the bytes in
it. `head` and `tail` both range over `[0, queue_size]`, and `queue_size` names
the same cell as `0`; the relation therefore fixes `tail` only up to one lap.
There is one specification lemma for each outcome of each operation, for every
exact 32-bit arithmetic, hence for the machine's and for the checked one.
-/

namespace CameraEv

open Exec RingWindow

/-- A bounded byte FIFO, with the number of bytes that the next pop drops. -/
@[ext] structure Fifo where
  bytes : List UInt8 := []
  pending : Nat := 0
  pending_le : pending ≤ bytes.length := by simp

namespace Fifo

def push (f : Fifo) (bytes : List UInt8) : Fifo where
  bytes := f.bytes ++ bytes
  pending := f.pending
  pending_le := by
    have := f.pending_le
    simp only [List.length_append]
    omega

def front (f : Fifo) (len : Nat) (h : len ≤ f.bytes.length) : Fifo := ⟨f.bytes, len, h⟩

def pop (f : Fifo) : Fifo := ⟨f.bytes.drop f.pending, 0, Nat.zero_le _⟩

/-- The abstract meaning of a call on a queue of `size` bytes. An error leaves the FIFO as it was. -/
def call (code : FailedCode) (size : Nat) (f : Fifo) : QueueCall → Reply × Fifo
  | .push b =>
    if f.bytes.length + b.1.length ≤ size - 1 then ({ code := 0 }, f.push b.1)
    else ({ code := code.notEnoughFreeSpace }, f)
  | .front len =>
    if h : len.toNat ≤ f.bytes.length then ({ code := 0, bytes := f.bytes.take len.toNat }, f.front len.toNat h)
    else ({ code := code.readBufferSizeIsBig }, f)
  | .pop => if 0 < f.pending then ({ code := 0 }, f.pop) else ({ code := code.popDataEmpty }, f)
  | .clear => ({ code := 0 }, {})

/-- The abstract meaning of a list of calls. -/
def calls (code : FailedCode) (size : Nat) : Fifo → List QueueCall → List Reply × Fifo
  | f, [] => ([], f)
  | f, c :: cs =>
    let (reply, f) := f.call code size c
    let (replies, f) := calls code size f cs
    (reply :: replies, f)

/-- `Clear` is called only while no `Front` is pending. -/
def ClearsIdle (code : FailedCode) (size : Nat) : Fifo → List QueueCall → Prop
  | _, [] => True
  | f, c :: cs => (c = .clear → f.pending = 0) ∧ ClearsIdle code size (f.call code size c).2 cs

end Fifo

namespace QueueMemory

/-- The memory of a queue of `size` bytes that holds `bytes`. -/
structure Holds (size : Nat) (q : QueueMemory) (bytes : List UInt8) : Prop where
  queueSize : q.queueSize = size
  length : q.buffer.length = size
  use : q.useSize = bytes.length
  room : bytes.length < size
  head_le : q.head ≤ size
  tail_le : q.tail ≤ size
  lap : q.tail = q.head + bytes.length ∨ q.tail + size = q.head + bytes.length
  content : window q.buffer q.head bytes.length = bytes

section Spec

variable {size : Nat} {q : QueueMemory} {bytes : List UInt8} {A : U32} {code : FailedCode}

/-- A queue whose cursors are at zero is empty, whatever its buffer contains. -/
theorem holds_nil {buffer : List UInt8} (pos : 0 < size) (len : buffer.length = size) :
    Holds size { queueSize := size, buffer } [] where
  queueSize := rfl
  length := len
  use := rfl
  room := pos
  head_le := Nat.zero_le _
  tail_le := Nat.zero_le _
  lap := .inl rfl
  content := window_zero _ _

theorem Holds.getFreeSize_eq (h : Holds size q bytes) (hs : size < 2 ^ 32) (hA : A.Exact) :
    q.getFreeSize A = .ok (size - 1 - bytes.length) := by
  have room := h.room
  simp only [getFreeSize, h.queueSize, h.use, hA.sub (show 1 ≤ size by omega) hs, ok_bind]
  exact hA.sub (by omega) (by omega)

theorem Holds.clear_spec (h : Holds size q bytes) : ∃ q', q.clear = .ok (0, q') ∧ Holds size q' [] := by
  have fits : 0 + (List.replicate q.queueSize (0 : UInt8)).length ≤ q.buffer.length := by
    simp [h.queueSize, h.length]
  refine ⟨{ q with buffer := overwrite q.buffer 0 (List.replicate q.queueSize 0), head := 0, tail := 0, useSize := 0 },
    ?_, ?_⟩
  · simp only [clear, store_eq fits, ok_bind, pure_eq_ok]
  constructor
  · exact h.queueSize
  · exact (length_overwrite fits).trans h.length
  · rfl
  · have := h.room
    simp only [List.length_nil]
    omega
  · exact Nat.zero_le _
  · exact Nat.zero_le _
  · exact .inl rfl
  · exact window_zero _ _

theorem Holds.push_full (h : Holds size q bytes) (hs : size < 2 ^ 32) (hA : A.Exact) {new : List UInt8}
    (full : size - 1 < bytes.length + new.length) : q.push A code new = .ok (code.notEnoughFreeSpace, q) := by
  have room := h.room
  simp only [push, h.getFreeSize_eq hs hA, ok_bind]
  rw [if_pos (by omega)]
  rfl

/-- A push whose bytes fit behind `tail`: one copy. -/
theorem Holds.push_direct (h : Holds size q bytes) (code : FailedCode) (hs : size < 2 ^ 32) {new : List UInt8}
    (room : bytes.length + new.length ≤ size - 1) (direct : new.length ≤ size - q.tail) :
    ∃ q', (∀ A : U32, A.Exact → q.push A code new = .ok (0, q')) ∧ Holds size q' (bytes ++ new) := by
  have free := fun A hA => h.getFreeSize_eq hs (A := A) hA
  obtain ⟨hsize, hlen, huse, hroom, hhead, htail, hlap, hcontent⟩ := h
  have fits : q.tail + new.length ≤ q.buffer.length := by omega
  refine ⟨{ q with
    buffer := overwrite q.buffer q.tail new
    tail := q.tail + new.length
    useSize := q.useSize + new.length }, ?_, ?_⟩
  · intro A hA
    simp only [push, free A hA, ok_bind]
    rw [if_neg (by omega)]
    simp only [hsize, hA.sub htail hs, ok_bind, if_neg (show ¬ size - q.tail < new.length by omega),
      store_eq fits, hA.add (show q.tail + new.length < 2 ^ 32 by omega),
      hA.add (show q.useSize + new.length < 2 ^ 32 by omega), pure_eq_ok]
  · have kept : window (overwrite q.buffer q.tail new) q.head bytes.length = bytes := by
      rw [window_overwrite (by omega) (by omega) fits, hcontent]
      intro i hi j hj
      omega
    have added : window (overwrite q.buffer q.tail new) (q.head + bytes.length) new.length = new := by
      rcases hlap with lap | lap
      · rw [← lap, window_overwrite_self fits]
      · rw [← lap, window_wrap (by rw [length_overwrite fits]; omega) (by rw [length_overwrite fits]; omega),
          length_overwrite fits, show q.tail + size - q.buffer.length = q.tail by omega,
          window_overwrite_self fits]
    constructor
    · exact hsize
    · exact (length_overwrite fits).trans hlen
    · simp only [List.length_append, huse]
    · simp only [List.length_append]
      omega
    · exact hhead
    · show q.tail + new.length ≤ size
      omega
    · simp only [List.length_append]
      omega
    · show window (overwrite q.buffer q.tail new) q.head (bytes ++ new).length = bytes ++ new
      rw [List.length_append, window_add, kept, added]

/-- A push that passes the end of the buffer: two copies, the first possibly of no byte. -/
theorem Holds.push_split (h : Holds size q bytes) (code : FailedCode) (hs : size < 2 ^ 32) {new : List UInt8}
    (room : bytes.length + new.length ≤ size - 1) (split : size - q.tail < new.length) :
    ∃ q', (∀ A : U32, A.Exact → q.push A code new = .ok (0, q')) ∧ Holds size q' (bytes ++ new) := by
  have free := fun A hA => h.getFreeSize_eq hs (A := A) hA
  obtain ⟨hsize, hlen, huse, hroom, hhead, htail, hlap, hcontent⟩ := h
  -- a queue that already wraps has no room for bytes that wrap again
  have lap : q.tail = q.head + bytes.length := by omega
  have first : (new.take (size - q.tail)).length = size - q.tail := by simp; omega
  have second : (new.drop (size - q.tail)).length = new.length - (size - q.tail) := by simp
  have fits₁ : q.tail + (new.take (size - q.tail)).length ≤ q.buffer.length := by omega
  have len₁ := length_overwrite fits₁
  have fits₂ : 0 + (new.drop (size - q.tail)).length ≤
      (overwrite q.buffer q.tail (new.take (size - q.tail))).length := by omega
  have len₂ := length_overwrite fits₂
  refine ⟨{ q with
    buffer := overwrite (overwrite q.buffer q.tail (new.take (size - q.tail))) 0 (new.drop (size - q.tail))
    tail := new.length - (size - q.tail)
    useSize := q.useSize + new.length }, ?_, ?_⟩
  · intro A hA
    simp only [push, free A hA, ok_bind]
    rw [if_neg (by omega)]
    simp only [hsize, hA.sub htail hs, ok_bind, if_pos split, store_eq fits₁,
      hA.sub (show size - q.tail ≤ new.length by omega) (by omega), store_eq fits₂,
      hA.add (show q.useSize + new.length < 2 ^ 32 by omega), pure_eq_ok]
  · have kept : window (overwrite (overwrite q.buffer q.tail (new.take (size - q.tail))) 0
        (new.drop (size - q.tail))) q.head bytes.length = bytes := by
      rw [window_overwrite (by omega) (by omega) fits₂, window_overwrite (by omega) (by omega) fits₁, hcontent]
      · intro i hi j hj
        omega
      · intro i hi j hj
        omega
    have added : window (overwrite (overwrite q.buffer q.tail (new.take (size - q.tail))) 0
        (new.drop (size - q.tail))) q.tail new.length = new := by
      rw [show new.length = (size - q.tail) + (new.length - (size - q.tail)) by omega, window_add]
      have front : window (overwrite (overwrite q.buffer q.tail (new.take (size - q.tail))) 0
          (new.drop (size - q.tail))) q.tail (size - q.tail) = new.take (size - q.tail) := by
        rw [window_overwrite (by omega) (by omega) fits₂]
        · have self := window_overwrite_self fits₁
          rwa [first] at self
        · intro i hi j hj
          omega
      have back : window (overwrite (overwrite q.buffer q.tail (new.take (size - q.tail))) 0
          (new.drop (size - q.tail))) (q.tail + (size - q.tail)) (new.length - (size - q.tail)) =
          new.drop (size - q.tail) := by
        rw [window_wrap (by omega) (by omega), len₂, len₁, hlen, show q.tail + (size - q.tail) - size = 0 by omega,
          ← second, window_overwrite_self fits₂]
      rw [front, back, List.take_append_drop]
    constructor
    · exact hsize
    · exact len₂.trans (len₁.trans hlen)
    · simp only [List.length_append, huse]
    · simp only [List.length_append]
      omega
    · exact hhead
    · show new.length - (size - q.tail) ≤ size
      omega
    · simp only [List.length_append]
      omega
    · show window _ q.head (bytes ++ new).length = bytes ++ new
      rw [List.length_append, window_add, kept, ← lap, added]

theorem Holds.push_spec (h : Holds size q bytes) (code : FailedCode) (hs : size < 2 ^ 32) {new : List UInt8}
    (room : bytes.length + new.length ≤ size - 1) :
    ∃ q', (∀ A : U32, A.Exact → q.push A code new = .ok (0, q')) ∧ Holds size q' (bytes ++ new) := by
  by_cases direct : new.length ≤ size - q.tail
  · exact h.push_direct code hs room direct
  · exact h.push_split code hs room (by omega)

theorem Holds.front_big (h : Holds size q bytes) {popDataLen len : Nat} (big : bytes.length < len) :
    q.front A code popDataLen len = .ok (code.readBufferSizeIsBig, [], popDataLen) := by
  simp only [front, h.use, if_pos big, pure_eq_ok]

theorem Holds.front_spec (h : Holds size q bytes) (hs : size < 2 ^ 32) (hA : A.Exact) {popDataLen len : Nat}
    (small : len ≤ bytes.length) : q.front A code popDataLen len = .ok (0, bytes.take len, len) := by
  obtain ⟨hsize, hlen, huse, hroom, hhead, htail, hlap, hcontent⟩ := h
  have read : window q.buffer q.head len = bytes.take len := by
    rw [← window_take small, hcontent]
  simp only [front, huse, if_neg (show ¬ bytes.length < len by omega), hsize, hA.sub hhead hs, ok_bind]
  by_cases split : size - q.head < len
  · have pieces := @window_read_split _ q.buffer q.head len (by omega) (by omega)
    rw [hlen, read] at pieces
    simp only [if_pos split, load_eq (show q.head + (size - q.head) ≤ q.buffer.length by omega), ok_bind,
      hA.sub (show size - q.head ≤ len by omega) (by omega),
      load_eq (show 0 + (len - (size - q.head)) ≤ q.buffer.length by omega), pure_eq_ok, ← pieces]
  · simp only [if_neg split, load_eq (show q.head + len ≤ q.buffer.length by omega), ok_bind, pure_eq_ok,
      ← window_read_direct (show q.head + len ≤ q.buffer.length by omega), read]

theorem pop_empty : q.pop A code size 0 = .ok (code.popDataEmpty, q, 0) := by
  simp only [pop, if_true, pure_eq_ok]

/-- On the machine a `Pop` with a length to take succeeds on every queue. -/
theorem pop_pending (q : QueueMemory) (code : FailedCode) (size : Nat) {popDataLen : Nat} (pos : 0 < popDataLen) :
    ∃ q', q.pop wrapping code size popDataLen = .ok (0, q', 0) := by
  simp only [pop, if_neg (Nat.ne_of_gt pos), wrapping, pure_eq_ok, ok_bind]
  split
  · exact ⟨_, rfl⟩
  · exact ⟨_, rfl⟩

theorem Holds.pop_spec (h : Holds size q bytes) (code : FailedCode) (hs : size < 2 ^ 32) {popDataLen : Nat}
    (pos : 0 < popDataLen) (le : popDataLen ≤ bytes.length) :
    ∃ q', (∀ A : U32, A.Exact → q.pop A code size popDataLen = .ok (0, q', 0)) ∧
      Holds size q' (bytes.drop popDataLen) := by
  obtain ⟨hsize, hlen, huse, hroom, hhead, htail, hlap, hcontent⟩ := h
  have rest : window q.buffer (q.head + popDataLen) (bytes.length - popDataLen) = bytes.drop popDataLen := by
    rw [← window_drop, hcontent]
  by_cases split : size - q.head < popDataLen
  · refine ⟨{ q with head := popDataLen - (size - q.head), useSize := q.useSize - popDataLen }, ?_, ?_⟩
    · intro A hA
      simp only [pop, if_neg (show ¬ popDataLen = 0 by omega), hA.sub hhead hs, ok_bind, if_pos split,
        hA.sub (show size - q.head ≤ popDataLen by omega) (by omega),
        hA.sub (show popDataLen ≤ q.useSize by omega) (by omega), pure_eq_ok]
    · constructor
      · exact hsize
      · exact hlen
      · simp only [List.length_drop, huse]
      · simp only [List.length_drop]
        omega
      · show popDataLen - (size - q.head) ≤ size
        omega
      · exact htail
      · simp only [List.length_drop]
        omega
      · rw [List.length_drop]
        rw [window_wrap (by omega) (by omega)] at rest
        rw [← rest]
        show window q.buffer (popDataLen - (size - q.head)) _ = _
        congr 1
        omega
  · refine ⟨{ q with head := q.head + popDataLen, useSize := q.useSize - popDataLen }, ?_, ?_⟩
    · intro A hA
      simp only [pop, if_neg (show ¬ popDataLen = 0 by omega), hA.sub hhead hs, ok_bind, if_neg split,
        hA.add (show q.head + popDataLen < 2 ^ 32 by omega),
        hA.sub (show popDataLen ≤ q.useSize by omega) (by omega), pure_eq_ok]
    · constructor
      · exact hsize
      · exact hlen
      · simp only [List.length_drop, huse]
      · simp only [List.length_drop]
        omega
      · show q.head + popDataLen ≤ size
        omega
      · exact htail
      · simp only [List.length_drop]
        omega
      · rw [List.length_drop]
        exact rest

end Spec

end QueueMemory

/-! ## Sequences of calls through one handle -/

/-- What one call does to a representation, a list of calls does. -/
theorem runCalls_refine {S : Type} {call : U32 → S → QueueCall → Exec (Reply × S)} {code : FailedCode} {size : Nat}
    {R : S → Fifo → Prop}
    (step : ∀ {s f c}, R s f → (c = .clear → f.pending = 0) →
      ∃ s', (∀ A : U32, A.Exact → call A s c = .ok ((f.call code size c).1, s')) ∧ R s' (f.call code size c).2) :
    ∀ {cs s f}, R s f → f.ClearsIdle code size cs →
      ∃ s', (∀ A : U32, A.Exact → runCalls (call A) s cs = .ok ((f.calls code size cs).1, s')) ∧
        R s' (f.calls code size cs).2 := by
  intro cs
  induction cs with
  | nil =>
    intro s f h _
    exact ⟨s, fun A hA => rfl, h⟩
  | cons c cs ih =>
    intro s f h idle
    obtain ⟨s₁, ran, h₁⟩ := step h idle.1
    obtain ⟨s₂, rest, h₂⟩ := ih h₁ idle.2
    refine ⟨s₂, ?_, h₂⟩
    intro A hA
    simp only [runCalls, ran A hA, ok_bind, rest A hA, pure_eq_ok]
    rfl

/-- The handle is attached to a queue of `size` bytes that is in the abstract state `f`. -/
structure QueueSharedMemoryImpl.Represents (size : Nat) (s : QueueSharedMemoryImpl) (f : Fifo) : Prop where
  memory : ∃ q, s.memory = some q ∧ q.Holds size f.bytes
  pending : s.popDataLen = f.pending

/-- The object has a buffer of `size` bytes and is in the abstract state `f`. -/
structure QueueLocalMemoryImpl.Represents (size : Nat) (s : QueueLocalMemoryImpl) (f : Fifo) : Prop where
  allocated : s.allocated = true
  memory : s.memory.Holds size f.bytes
  pending : s.popDataLen = f.pending

section Calls

variable {size : Nat} {f : Fifo} {c : QueueCall}

/-- Every call on the memory of a queue does what the abstract FIFO does. -/
theorem QueueMemory.Holds.call_refines {q : QueueMemory} (h : q.Holds size f.bytes) (code : FailedCode)
    (hs : size < 2 ^ 32) (idle : c = .clear → f.pending = 0) :
    ∃ q', (∀ A : U32, A.Exact →
        q.call A code f.pending c = .ok ((f.call code size c).1, q', (f.call code size c).2.pending)) ∧
      q'.Holds size (f.call code size c).2.bytes := by
  have room := h.room
  cases c with
  | push new =>
    by_cases fits : f.bytes.length + new.1.length ≤ size - 1
    · obtain ⟨q', ran, h'⟩ := h.push_spec code hs fits
      refine ⟨q', ?_, ?_⟩
      · intro A hA
        simp only [call, ran A hA, ok_bind, pure_eq_ok, Fifo.call, if_pos fits, Fifo.push]
      · simpa only [Fifo.call, if_pos fits, Fifo.push] using h'
    · refine ⟨q, ?_, ?_⟩
      · intro A hA
        simp only [call, h.push_full hs hA (show size - 1 < f.bytes.length + new.1.length by omega), ok_bind,
          pure_eq_ok, Fifo.call, if_neg fits]
      · simpa only [Fifo.call, if_neg fits] using h
  | front len =>
    by_cases small : len.toNat ≤ f.bytes.length
    · refine ⟨q, ?_, ?_⟩
      · intro A hA
        simp only [call, h.front_spec hs hA small, ok_bind, pure_eq_ok, Fifo.call, dif_pos small, Fifo.front]
      · simpa only [Fifo.call, dif_pos small, Fifo.front] using h
    · refine ⟨q, ?_, ?_⟩
      · intro A hA
        simp only [call, h.front_big (show f.bytes.length < len.toNat by omega), ok_bind, pure_eq_ok, Fifo.call,
          dif_neg small]
      · simpa only [Fifo.call, dif_neg small] using h
  | pop =>
    by_cases pos : 0 < f.pending
    · obtain ⟨q', ran, h'⟩ := h.pop_spec code hs pos f.pending_le
      refine ⟨q', ?_, ?_⟩
      · intro A hA
        simp only [call, h.queueSize, ran A hA, ok_bind, pure_eq_ok, Fifo.call, if_pos pos, Fifo.pop]
      · simpa only [Fifo.call, if_pos pos, Fifo.pop] using h'
    · have zero : f.pending = 0 := by omega
      refine ⟨q, ?_, ?_⟩
      · intro A hA
        simp only [call, zero, pop_empty, ok_bind, pure_eq_ok, Fifo.call, if_neg (lt_irrefl 0)]
      · simpa only [Fifo.call, if_neg pos] using h
  | clear =>
    obtain ⟨q', ran, h'⟩ := h.clear_spec
    refine ⟨q', ?_, h'⟩
    intro A hA
    simp only [call, ran, ok_bind, pure_eq_ok, Fifo.call, idle rfl]

/-- The calls of an attached handle are the common ones. -/
theorem QueueSharedMemoryImpl.call_attached (A : U32) (q : QueueMemory) (popDataLen : Nat) (c : QueueCall) :
    call A ⟨some q, popDataLen⟩ c = do
      let (reply, q, popDataLen) ← q.call A QueueSharedMemory.failedCode popDataLen c
      return (reply, ⟨some q, popDataLen⟩) := by
  cases c <;> simp only [call, push, front, pop, clear, QueueMemory.call, bind_assoc, pure_bind]

/-- The calls of an object with a buffer are the common ones. -/
theorem QueueLocalMemoryImpl.call_allocated (A : U32) (q : QueueMemory) (popDataLen : Nat) (c : QueueCall) :
    call A ⟨q, true, popDataLen⟩ c = do
      let (reply, q, popDataLen) ← q.call A QueueLocalMemory.failedCode popDataLen c
      return (reply, ⟨q, true, popDataLen⟩) := by
  cases c <;> simp only [call, push, front, pop, clear, getQueueSize, if_true, QueueMemory.call, bind_assoc, pure_bind]

theorem QueueSharedMemoryImpl.call_refines {s : QueueSharedMemoryImpl} (hs : size < 2 ^ 32)
    (h : s.Represents size f) (idle : c = .clear → f.pending = 0) :
    ∃ s', (∀ A : U32, A.Exact → s.call A c = .ok ((f.call QueueSharedMemory.failedCode size c).1, s')) ∧
      s'.Represents size (f.call QueueSharedMemory.failedCode size c).2 := by
  obtain ⟨memory, popDataLen⟩ := s
  obtain ⟨⟨q, rfl, holds⟩, rfl⟩ := h
  obtain ⟨q', ran, holds'⟩ := holds.call_refines QueueSharedMemory.failedCode hs idle
  refine ⟨⟨some q', _⟩, ?_, ⟨q', rfl, holds'⟩, rfl⟩
  intro A hA
  rw [call_attached, ran A hA]
  rfl

theorem QueueLocalMemoryImpl.call_refines {s : QueueLocalMemoryImpl} (hs : size < 2 ^ 32)
    (h : s.Represents size f) (idle : c = .clear → f.pending = 0) :
    ∃ s', (∀ A : U32, A.Exact → s.call A c = .ok ((f.call QueueLocalMemory.failedCode size c).1, s')) ∧
      s'.Represents size (f.call QueueLocalMemory.failedCode size c).2 := by
  obtain ⟨q, allocated, popDataLen⟩ := s
  obtain ⟨rfl, holds, rfl⟩ := h
  obtain ⟨q', ran, holds'⟩ := holds.call_refines QueueLocalMemory.failedCode hs idle
  refine ⟨⟨q', true, _⟩, ?_, rfl, holds', rfl⟩
  intro A hA
  rw [call_allocated, ran A hA]
  rfl

end Calls

/-- `Initialize` succeeds for the sizes that are positive as an `int`. It lays the new buffer under the old fields. -/
theorem QueueLocalMemoryImpl.initializeQueue_eq_ok {s s' : QueueLocalMemoryImpl} {garbage : List UInt8} :
    s.initializeQueue garbage = .ok (0, s') ↔ (0 < garbage.length ∧ garbage.length < 2 ^ 31) ∧
      s' = ⟨{ s.memory with queueSize := garbage.length, buffer := garbage }, true, s.popDataLen⟩ := by
  simp only [initializeQueue, finalize]
  constructor
  · intro init
    split at init
    · simp at init
    split at init
    · simp at init
    · cases init
      exact ⟨by omega, rfl⟩
  · rintro ⟨⟨some, small⟩, rfl⟩
    rw [if_neg (by omega), if_neg (by omega)]
    rfl

section Represents

variable {s : QueueLocalMemoryImpl} {size : Nat} {bytes : List UInt8}

/-- A push is refused and changes nothing, or it adds its bytes. -/
theorem QueueLocalMemoryImpl.Represents.push_spec (h : s.Represents size { bytes }) (hs : size < 2 ^ 32)
    (new : List UInt8) :
    (∃ code, code ≠ 0 ∧ s.push wrapping new = .ok (code, s)) ∨
      ∃ s', s.push wrapping new = .ok (0, s') ∧ s'.Represents size { bytes := bytes ++ new } := by
  obtain ⟨memory, allocated, popDataLen⟩ := s
  obtain ⟨rfl, holds, rfl⟩ := h
  by_cases room : bytes.length + new.length ≤ size - 1
  · obtain ⟨memory', ran, holds'⟩ := holds.push_spec QueueLocalMemory.failedCode hs room
    refine .inr ⟨⟨memory', true, 0⟩, ?_, rfl, holds', rfl⟩
    simp only [QueueLocalMemoryImpl.push, if_true, ran wrapping wrapping_exact, ok_bind, pure_eq_ok]
  · have full : memory.push wrapping QueueLocalMemory.failedCode new = _ :=
      holds.push_full hs wrapping_exact (show size - 1 < bytes.length + new.length by omega)
    refine .inl ⟨QueueLocalMemory.failedCode.notEnoughFreeSpace, by decide, ?_⟩
    simp only [QueueLocalMemoryImpl.push, if_true, full, ok_bind, pure_eq_ok]

/-- A `Front` and the `Pop` behind it. -/
theorem QueueLocalMemoryImpl.Represents.read_spec (h : s.Represents size { bytes }) (hs : size < 2 ^ 32) {len : Nat}
    (pos : 0 < len) (le : len ≤ bytes.length) :
    ∃ s₁ s₂, s.front wrapping len = .ok (0, bytes.take len, s₁) ∧ s₁.pop wrapping = .ok (0, s₂) ∧
      s₂.Represents size { bytes := bytes.drop len } := by
  obtain ⟨memory, allocated, popDataLen⟩ := s
  obtain ⟨rfl, holds, rfl⟩ := h
  have read : memory.front wrapping QueueLocalMemory.failedCode 0 len = _ := holds.front_spec hs wrapping_exact le
  obtain ⟨memory', ran, holds'⟩ := holds.pop_spec QueueLocalMemory.failedCode hs pos le
  have size_eq : memory.queueSize = size := holds.queueSize
  have drop : memory.pop wrapping QueueLocalMemory.failedCode size len = _ := ran wrapping wrapping_exact
  refine ⟨⟨memory, true, len⟩, ⟨memory', true, 0⟩, ?_, ?_, rfl, holds', rfl⟩
  · simp only [QueueLocalMemoryImpl.front, if_true, read, ok_bind, pure_eq_ok]
  · simp only [QueueLocalMemoryImpl.pop, QueueLocalMemoryImpl.getQueueSize, if_true, size_eq, drop, ok_bind, pure_eq_ok]

end Represents

/-- **The ring queues refine a bounded FIFO.** Every list of calls through one handle of a
freshly initialised queue gets the replies of the abstract FIFO and leaves the queue in its
state. That the checked run returns says that no copy leaves the buffer and that no 32-bit
computation wraps; the machine's run is the same. -/
theorem queues_refine_fifo (size : Nat) (pos : 1 ≤ size) (hs : size < 2 ^ 31) (garbage : List UInt8)
    (hg : garbage.length = size) (cs : List QueueCall) :
    (({} : Fifo).ClearsIdle QueueSharedMemory.failedCode size cs →
      ∃ fresh s, ({} : QueueSharedMemoryImpl).initializeQueue size = (0, fresh) ∧
        runCalls (QueueSharedMemoryImpl.call checked) fresh cs =
          .ok ((({} : Fifo).calls QueueSharedMemory.failedCode size cs).1, s) ∧
        runCalls (QueueSharedMemoryImpl.call wrapping) fresh cs =
          .ok ((({} : Fifo).calls QueueSharedMemory.failedCode size cs).1, s) ∧
        s.Represents size (({} : Fifo).calls QueueSharedMemory.failedCode size cs).2) ∧
    (({} : Fifo).ClearsIdle QueueLocalMemory.failedCode size cs →
      ∃ fresh s, ({} : QueueLocalMemoryImpl).initializeQueue garbage = .ok (0, fresh) ∧
        runCalls (QueueLocalMemoryImpl.call checked) fresh cs =
          .ok ((({} : Fifo).calls QueueLocalMemory.failedCode size cs).1, s) ∧
        runCalls (QueueLocalMemoryImpl.call wrapping) fresh cs =
          .ok ((({} : Fifo).calls QueueLocalMemory.failedCode size cs).1, s) ∧
        s.Represents size (({} : Fifo).calls QueueLocalMemory.failedCode size cs).2) := by
  have small : size < 2 ^ 32 := by omega
  constructor
  · intro idle
    have start : QueueSharedMemoryImpl.Represents size ⟨some (QueueMemory.fresh size), 0⟩ {} :=
      ⟨⟨_, rfl, QueueMemory.holds_nil (by omega) (List.length_replicate ..)⟩, rfl⟩
    obtain ⟨s, ran, represents⟩ :=
      runCalls_refine (fun h idle => QueueSharedMemoryImpl.call_refines small h idle) start idle
    refine ⟨_, s, ?_, ran checked checked_exact, ran wrapping wrapping_exact, represents⟩
    simp only [QueueSharedMemoryImpl.initializeQueue, if_neg (show ¬ size = 0 by omega)]
  · intro idle
    have start : QueueLocalMemoryImpl.Represents size ⟨{ queueSize := size, buffer := garbage }, true, 0⟩ {} :=
      ⟨rfl, QueueMemory.holds_nil (by omega) hg, rfl⟩
    obtain ⟨s, ran, represents⟩ :=
      runCalls_refine (fun h idle => QueueLocalMemoryImpl.call_refines small h idle) start idle
    refine ⟨_, s, ?_, ran checked checked_exact, ran wrapping wrapping_exact, represents⟩
    rw [QueueLocalMemoryImpl.initializeQueue_eq_ok, hg]
    exact ⟨⟨pos, hs⟩, rfl⟩

/-- Calls on a queue of four bytes that take both cursors past its end. -/
private def laps : List QueueCall :=
  [.push ⟨[1, 2], by decide⟩, .front 2, .pop, .push ⟨[3, 4, 5], by decide⟩, .push ⟨[6], by decide⟩, .front 3, .pop,
    .pop, .clear]

theorem queues_refine_fifo_laps :
    (∃ fresh s, ({} : QueueSharedMemoryImpl).initializeQueue 4 = (0, fresh) ∧
      runCalls (QueueSharedMemoryImpl.call wrapping) fresh laps =
        .ok ([{ code := 0 }, { code := 0, bytes := [1, 2] }, { code := 0 }, { code := 0 }, { code := 4 },
          { code := 0, bytes := [3, 4, 5] }, { code := 0 }, { code := 6 }, { code := 0 }], s)) ∧
    (∃ fresh s, ({} : QueueLocalMemoryImpl).initializeQueue [7, 7, 7, 7] = .ok (0, fresh) ∧
      runCalls (QueueLocalMemoryImpl.call wrapping) fresh laps =
        .ok ([{ code := 0 }, { code := 0, bytes := [1, 2] }, { code := 0 }, { code := 0 }, { code := 3 },
          { code := 0, bytes := [3, 4, 5] }, { code := 0 }, { code := 5 }, { code := 0 }], s)) := by
  obtain ⟨shared, loc⟩ := queues_refine_fifo 4 (by decide) (by decide) [7, 7, 7, 7] rfl laps
  constructor
  · obtain ⟨fresh, s, init, -, ran, -⟩ := shared (by
      simp [laps, Fifo.ClearsIdle, Fifo.call, Fifo.push, Fifo.front, Fifo.pop])
    exact ⟨fresh, s, init, ran.trans rfl⟩
  · obtain ⟨fresh, s, init, -, ran, -⟩ := loc (by
      simp [laps, Fifo.ClearsIdle, Fifo.call, Fifo.push, Fifo.front, Fifo.pop])
    exact ⟨fresh, s, init, ran.trans rfl⟩

end CameraEv
