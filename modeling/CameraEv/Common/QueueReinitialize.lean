import CameraEv.Lib.Answers
import CameraEv.Lib.Trace
import CameraEv.Common.QueueFifo

/-!
# A local queue that is initialised again

`QueueLocalMemory::Initialize` begins with `Finalize` and stores the new size,
but neither of them touches `tail`, `head`, `use_size` or `m_pop_data_len`: what
the old queue left there is laid over the new buffer. `LikeNew` is what the
caller of `Initialize` expects, and `Unused` the old contents that it takes.
-/

namespace CameraEv

open Exec RingWindow Answers Trace

/-- The calls of a user that neither clears nor finalizes the queue. -/
inductive UserCall where
  | push (bytes : Buffer)
  | front (len : UInt32)
  | pop
  | getUseSize
  | getFreeSize

/-- The abstract answer; the two getters answer with a number. -/
def Fifo.answer (code : FailedCode) (size : Nat) (f : Fifo) : UserCall → Reply × Fifo
  | .push bytes => f.call code size (.push bytes)
  | .front len => f.call code size (.front len)
  | .pop => f.call code size .pop
  | .getUseSize => ({ code := f.bytes.length }, f)
  | .getFreeSize => ({ code := size - 1 - f.bytes.length }, f)

namespace Fifo

variable {code : FailedCode} {size : Nat}

/-- A push of nothing, and one that does not fit, leave an empty queue empty. -/
theorem push_empty {bytes : Buffer} (none : bytes.1.length = 0 ∨ size - 1 < bytes.1.length) :
    ({} : Fifo).call code size (.push bytes) =
      ({ code := if bytes.1.length = 0 then 0 else code.notEnoughFreeSpace }, {}) := by
  rcases none with empty | full
  · simp [call, push, List.length_eq_zero_iff.mp empty]
  · simp [call, show ¬ bytes.1.length ≤ size - 1 by omega, show bytes.1 ≠ [] by rintro empty; simp [empty] at full]

theorem front_empty {len : UInt32} : ({} : Fifo).call code size (.front len) =
    ({ code := if len.toNat = 0 then 0 else code.readBufferSizeIsBig }, {}) := by
  by_cases empty : len.toNat = 0
  · simp [call, front, empty]
  · simp [call, empty]

end Fifo

/-- No read is pending on an empty queue. -/
theorem Fifo.eq_empty {f : Fifo} (empty : f.bytes = []) : f = {} := by
  have le := f.pending_le
  rw [empty] at le
  exact Fifo.ext empty (Nat.le_zero.mp le)

namespace QueueLocalMemoryImpl

open QueueLocalMemory (failedCode)

/-- `GetFreeSize`: without a buffer it is 0. -/
def getFreeSize (A : U32) (s : QueueLocalMemoryImpl) : Exec Nat :=
  if s.allocated then s.memory.getFreeSize A else return 0

def answer (A : U32) (s : QueueLocalMemoryImpl) : UserCall → Exec (Reply × QueueLocalMemoryImpl)
  | .push bytes => s.call A (.push bytes)
  | .front len => s.call A (.front len)
  | .pop => s.call A .pop
  | .getUseSize => return ({ code := s.getUseSize }, s)
  | .getFreeSize => do let size ← s.getFreeSize A; return ({ code := size }, s)

/-- Whatever is called next, every call returns (no copy leaves the buffer) and answers as on a new object that was
initialised with `size`. -/
def LikeNew (size : Nat) (s : QueueLocalMemoryImpl) : Prop :=
  ∀ garbage fresh, garbage.length = size → ({} : QueueLocalMemoryImpl).initializeQueue garbage = .ok (0, fresh) →
    ∀ calls, ∃ replies, answers (answer wrapping) s calls = .ok replies ∧
      answers (answer wrapping) fresh calls = .ok replies

/-- What the fields must hold for a buffer of `size` bytes to be put under them: nothing is used, no read is
pending, and the cursors name one cell of the new buffer. -/
structure Unused (size : Nat) (s : QueueLocalMemoryImpl) : Prop where
  useSize : s.memory.useSize = 0
  popDataLen : s.popDataLen = 0
  head_le : s.memory.head ≤ size
  tail_le : s.memory.tail ≤ size
  together : s.memory.head = s.memory.tail ∨ s.memory.head = 0 ∧ s.memory.tail = size ∨
    s.memory.head = size ∧ s.memory.tail = 0

end QueueLocalMemoryImpl

/-! ## From unused fields to a new queue -/

/-- All but one byte of a queue that is not used is free. -/
theorem QueueMemory.getFreeSize_unused {size : Nat} {q : QueueMemory} (pos : 0 < size) (hs : size < 2 ^ 32)
    (queueSize : q.queueSize = size) (use : q.useSize = 0) : q.getFreeSize wrapping = .ok (size - 1) := by
  have all : wrapping.sub size 1 = .ok (size - 1) := wrapping_sub pos hs
  rw [QueueMemory.getFreeSize, queueSize, use, all, ok_bind]
  exact wrapping_sub (Nat.zero_le _) (by omega)

section Lapped

variable {size : Nat} {buffer : List UInt8} {code : FailedCode}

/-- The tail at the end of the buffer is the tail at its start, for a push that fits. -/
theorem QueueMemory.push_lapped_some (hs : size < 2 ^ 32) (length : buffer.length = size) {new : List UInt8}
    (some : 0 < new.length) (room : new.length ≤ size - 1) :
    QueueMemory.push wrapping code { tail := size, queueSize := size, buffer } new =
      QueueMemory.push wrapping code { queueSize := size, buffer } new := by
  have free {tail : Nat} : QueueMemory.getFreeSize wrapping { tail, queueSize := size, buffer } = .ok (size - 1) :=
    QueueMemory.getFreeSize_unused (by omega) hs rfl rfl
  have behind : wrapping.sub size size = .ok 0 := by
    rw [wrapping_sub le_rfl hs, Nat.sub_self]
  have before : wrapping.sub size 0 = .ok size := wrapping_sub (by omega) hs
  have nothing : store buffer size (new.take 0) = .ok buffer := by
    rw [← length]
    exact store_nil
  have rest : wrapping.sub new.length 0 = .ok new.length := wrapping_sub (by omega) (by omega)
  have moved : wrapping.add 0 new.length = .ok new.length := by
    rw [wrapping_add (by omega), Nat.zero_add]
  have copied : store buffer 0 new = .ok (overwrite buffer 0 new) := store_eq (by omega)
  simp only [QueueMemory.push, free, behind, before, ok_bind,
    if_neg (show ¬ size - 1 < new.length by omega), if_pos some, if_neg (show ¬ size < new.length by omega), nothing,
    rest, List.drop_zero, copied, moved, pure_eq_ok]

/-- A push of nothing, and one that does not fit, leave the tail where it is. -/
theorem QueueMemory.push_lapped_none (pos : 0 < size) (hs : size < 2 ^ 32) (length : buffer.length = size)
    {new : List UInt8} (none : new.length = 0 ∨ size - 1 < new.length) :
    QueueMemory.push wrapping code { tail := size, queueSize := size, buffer } new =
      .ok (if new.length = 0 then 0 else code.notEnoughFreeSpace, { tail := size, queueSize := size, buffer }) := by
  have free : QueueMemory.getFreeSize wrapping { tail := size, queueSize := size, buffer } = .ok (size - 1) :=
    QueueMemory.getFreeSize_unused pos hs rfl rfl
  have behind : wrapping.sub size size = .ok 0 := by
    rw [wrapping_sub le_rfl hs, Nat.sub_self]
  rcases none with empty | full
  · obtain rfl := List.length_eq_zero_iff.mp empty
    have nothing : store buffer size [] = .ok buffer := by
      rw [← length]
      exact store_nil
    have stays : wrapping.add size 0 = .ok size := wrapping_add (by omega)
    have unused : wrapping.add 0 0 = .ok 0 := wrapping_add (by omega)
    simp only [QueueMemory.push, free, behind, ok_bind, List.length_nil,
      Nat.not_lt_zero, if_false, if_true, nothing, stays, unused, pure_eq_ok]
  · simp only [QueueMemory.push, free, ok_bind, if_pos full,
      if_neg (show ¬ new.length = 0 by omega), pure_eq_ok]

/-- A `Front` of an empty queue returns only when it asks for nothing. -/
theorem QueueMemory.front_lapped (hs : size < 2 ^ 32) (len : Nat) :
    QueueMemory.front wrapping code { tail := size, queueSize := size, buffer } 0 len =
      .ok (if len = 0 then 0 else code.readBufferSizeIsBig, [], 0) := by
  have behind : wrapping.sub size 0 = .ok size := wrapping_sub (by omega) hs
  rcases Nat.eq_zero_or_pos len with rfl | some
  · have nothing : load buffer 0 0 = .ok [] := load_eq (by omega)
    simp only [QueueMemory.front, lt_irrefl, if_false, if_true, behind, ok_bind, Nat.not_lt_zero, nothing, pure_eq_ok]
  · simp only [QueueMemory.front, if_pos some, if_neg (Nat.ne_of_gt some), pure_eq_ok]

end Lapped

namespace QueueLocalMemoryImpl

open QueueLocalMemory (failedCode)

section Step

variable {size : Nat} {s : QueueLocalMemoryImpl} {f : Fifo}

/-- A new buffer under a tail that is its end and a head that is its start. -/
def lapped (size : Nat) (buffer : List UInt8) : QueueLocalMemoryImpl :=
  ⟨{ tail := size, queueSize := size, buffer }, true, 0⟩

/-- The object is in the abstract state `f`, or it is empty and its tail is one lap ahead. -/
def Serves (size : Nat) (s : QueueLocalMemoryImpl) (f : Fifo) : Prop :=
  s.Represents size f ∨ f.bytes = [] ∧ ∃ buffer : List UInt8, buffer.length = size ∧ s = lapped size buffer

theorem Represents.answer_spec (hs : size < 2 ^ 32) (h : s.Represents size f) (c : UserCall) :
    ∃ t, s.answer wrapping c = .ok ((f.answer failedCode size c).1, t) ∧
      t.Represents size (f.answer failedCode size c).2 := by
  have called (c : QueueCall) (idle : c ≠ .clear) :
      ∃ t, s.call wrapping c = .ok ((f.call failedCode size c).1, t) ∧
        t.Represents size (f.call failedCode size c).2 := by
    obtain ⟨t, ran, reached⟩ := call_refines hs h (fun eq => absurd eq idle)
    exact ⟨t, ran wrapping wrapping_exact, reached⟩
  cases c with
  | push bytes => exact called (.push bytes) (by rintro ⟨⟩)
  | front len => exact called (.front len) (by rintro ⟨⟩)
  | pop => exact called .pop (by rintro ⟨⟩)
  | getUseSize =>
    refine ⟨s, ?_, h⟩
    simp only [answer, getUseSize, h.allocated, if_true, h.memory.use, pure_eq_ok, Fifo.answer]
  | getFreeSize =>
    refine ⟨s, ?_, h⟩
    simp only [answer, getFreeSize, h.allocated, if_true, h.memory.getFreeSize_eq hs wrapping_exact, ok_bind,
      pure_eq_ok, Fifo.answer]

/-- A push of some bytes that fit gets the tail back on this lap. -/
theorem lapped_push (pos : 0 < size) (hs : size < 2 ^ 32) {buffer : List UInt8} (length : buffer.length = size)
    (bytes : Buffer) (some : 0 < bytes.1.length) (room : bytes.1.length ≤ size - 1) :
    ∃ t, (lapped size buffer).answer wrapping (.push bytes) =
        .ok ((({} : Fifo).answer failedCode size (.push bytes)).1, t) ∧
      t.Represents size (({} : Fifo).answer failedCode size (.push bytes)).2 := by
  have new : Represents size ⟨{ queueSize := size, buffer }, true, 0⟩ {} :=
    ⟨rfl, QueueMemory.holds_nil pos length, rfl⟩
  obtain ⟨t, ran, reached⟩ := new.answer_spec hs (.push bytes)
  refine ⟨t, ?_, reached⟩
  rw [← ran]
  simp only [answer, call, push, lapped, if_true, QueueMemory.push_lapped_some hs length some room]

/-- The empty queue whose tail is a lap ahead answers like the one whose tail is at the start. -/
theorem lapped_answer (pos : 0 < size) (hs : size < 2 ^ 32) {buffer : List UInt8} (length : buffer.length = size)
    (c : UserCall) :
    ∃ t, (lapped size buffer).answer wrapping c = .ok ((({} : Fifo).answer failedCode size c).1, t) ∧
      t.Serves size (({} : Fifo).answer failedCode size c).2 := by
  have here : (lapped size buffer).Serves size {} := .inr ⟨rfl, buffer, length, rfl⟩
  cases c with
  | push bytes =>
    by_cases some : 0 < bytes.1.length ∧ bytes.1.length ≤ size - 1
    · obtain ⟨t, ran, reached⟩ := lapped_push pos hs length bytes some.1 some.2
      exact ⟨t, ran, .inl reached⟩
    · have none : bytes.1.length = 0 ∨ size - 1 < bytes.1.length := by omega
      rw [Fifo.answer, Fifo.push_empty none]
      refine ⟨lapped size buffer, ?_, here⟩
      simp only [answer, call, push, lapped, if_true, QueueMemory.push_lapped_none pos hs length none, ok_bind,
        pure_eq_ok]
  | front len =>
    rw [Fifo.answer, Fifo.front_empty]
    refine ⟨lapped size buffer, ?_, here⟩
    simp only [answer, call, front, lapped, if_true, QueueMemory.front_lapped hs, ok_bind, pure_eq_ok]
  | pop => exact ⟨lapped size buffer, rfl, here⟩
  | getUseSize => exact ⟨lapped size buffer, rfl, here⟩
  | getFreeSize =>
    have free : (lapped size buffer).memory.getFreeSize wrapping = .ok (size - 1) :=
      QueueMemory.getFreeSize_unused pos hs rfl rfl
    refine ⟨lapped size buffer, ?_, here⟩
    simp only [answer, getFreeSize, show (lapped size buffer).allocated = true from rfl, if_true, free, ok_bind,
      pure_eq_ok, Fifo.answer, List.length_nil, Nat.sub_zero]

theorem Serves.answer_spec (pos : 0 < size) (hs : size < 2 ^ 32) (h : s.Serves size f) (c : UserCall) :
    ∃ t, s.answer wrapping c = .ok ((f.answer failedCode size c).1, t) ∧ t.Serves size (f.answer failedCode size c).2 := by
  rcases h with represents | ⟨empty, buffer, length, rfl⟩
  · obtain ⟨t, ran, reached⟩ := represents.answer_spec hs c
    exact ⟨t, ran, .inl reached⟩
  · obtain rfl := Fifo.eq_empty empty
    exact lapped_answer pos hs length c

/-- Every list of calls gets the abstract answers. -/
theorem Serves.answers_eq (pos : 0 < size) (hs : size < 2 ^ 32) (h : s.Serves size f) (calls : List UserCall) :
    answers (answer wrapping) s calls = answers (fun f c => .ok (f.answer failedCode size c)) f calls := by
  apply Answers.answers_eq (R := Serves size)
  · intro s f c related
    obtain ⟨t, ran, reached⟩ := related.answer_spec pos hs c
    exact .inr ⟨_, t, _, ran, rfl, reached⟩
  · exact h

theorem Serves.likeNew (pos : 0 < size) (hs : size < 2 ^ 32) (h : s.Serves size {}) : s.LikeNew size := by
  rintro garbage fresh rfl init calls
  have new : fresh.Serves garbage.length {} := by
    obtain ⟨-, rfl⟩ := initializeQueue_eq_ok.mp init
    exact .inl ⟨rfl, QueueMemory.holds_nil pos rfl, rfl⟩
  obtain ⟨replies, abstract⟩ : ∃ replies, answers (fun (f : Fifo) c => (.ok (f.answer failedCode garbage.length c) :
      Exec _)) {} calls = .ok replies := answers_ok _ calls
  refine ⟨replies, ?_, ?_⟩
  · rw [h.answers_eq pos hs, abstract]
  · rw [new.answers_eq pos hs, abstract]

end Step

end QueueLocalMemoryImpl

/-! ## From a queue like new to unused fields -/

section OneByte

variable {size : Nat} {q : QueueMemory} {code : FailedCode}

/-- One byte pushed to an empty queue goes to the cell that the tail names. -/
theorem QueueMemory.push_one (two : 2 ≤ size) (hs : size < 2 ^ 32) (queueSize : q.queueSize = size)
    (length : q.buffer.length = size) (use : q.useSize = 0) (tail_le : q.tail ≤ size) (b : UInt8) :
    q.push wrapping code [b] = .ok (0, { q with
      buffer := overwrite q.buffer (if q.tail = size then 0 else q.tail) [b]
      tail := (if q.tail = size then 0 else q.tail) + 1
      useSize := 1 }) := by
  have free : q.getFreeSize wrapping = .ok (size - 1) :=
    QueueMemory.getFreeSize_unused (by omega) hs queueSize use
  have used : wrapping.add 0 1 = .ok 1 := wrapping_add (by omega)
  have behind : wrapping.sub size q.tail = .ok (size - q.tail) := wrapping_sub tail_le hs
  simp only [QueueMemory.push, free, queueSize, use, behind, ok_bind,
    List.length_singleton, if_neg (show ¬ size - 1 < 1 by omega)]
  by_cases last : q.tail = size
  · have nothing : store q.buffer q.tail ([b].take (size - q.tail)) = .ok q.buffer := by
      rw [last, Nat.sub_self, ← length]
      exact store_nil
    have rest : wrapping.sub 1 (size - q.tail) = .ok 1 := by
      rw [last, Nat.sub_self]
      exact wrapping_sub (by omega) (by omega)
    have copied : store q.buffer 0 ([b].drop (size - q.tail)) = .ok (overwrite q.buffer 0 [b]) := by
      rw [last, Nat.sub_self]
      exact store_eq (by simp; omega)
    simp only [if_pos (show size - q.tail < 1 by omega), nothing, rest, copied, used, ok_bind, pure_eq_ok, if_pos last,
      Nat.zero_add]
  · have copied : store q.buffer q.tail [b] = .ok (overwrite q.buffer q.tail [b]) := store_eq (by simp; omega)
    have moved : wrapping.add q.tail 1 = .ok (q.tail + 1) := wrapping_add (by omega)
    simp only [if_neg (show ¬ size - q.tail < 1 by omega), copied, moved, used, ok_bind, pure_eq_ok, if_neg last]

/-- One byte read is the cell that the head names. -/
theorem QueueMemory.front_one (pos : 0 < size) (hs : size < 2 ^ 32) (queueSize : q.queueSize = size)
    (length : q.buffer.length = size) (use : q.useSize = 1) (head_le : q.head ≤ size) (popDataLen : Nat) :
    q.front wrapping code popDataLen 1 = .ok (0, window q.buffer q.head 1, 1) := by
  have ahead : wrapping.sub size q.head = .ok (size - q.head) := wrapping_sub head_le hs
  simp only [QueueMemory.front, queueSize, use, lt_irrefl, if_false, ahead, ok_bind]
  by_cases last : q.head = size
  · have rest : wrapping.sub 1 (size - q.head) = .ok (1 - (size - q.head)) := wrapping_sub (by omega) (by omega)
    have first : load q.buffer q.head (size - q.head) = .ok _ := load_eq (by omega)
    have second : load q.buffer 0 (1 - (size - q.head)) = .ok _ := load_eq (by omega)
    rw [if_pos (by omega), window_read_split (by omega) (by omega), length]
    simp only [first, rest, second, ok_bind, pure_eq_ok]
  · rw [if_neg (by omega), window_read_direct (by omega), load_eq (by omega)]
    rfl

/-- The byte pushed to an empty queue whose cursors name different cells is not the one that is read. -/
theorem QueueMemory.read_apart (code : FailedCode) (two : 2 ≤ size) (hs : size < 2 ^ 32) (queueSize : q.queueSize = size)
    (length : q.buffer.length = size) (use : q.useSize = 0) (tail_le : q.tail ≤ size) (head_le : q.head ≤ size)
    (apart : ¬ (q.head = q.tail ∨ q.head = 0 ∧ q.tail = size ∨ q.head = size ∧ q.tail = 0)) (b : UInt8) :
    ∃ q', q.push wrapping code [b] = .ok (0, q') ∧
      ∀ popDataLen, q'.front wrapping code popDataLen 1 = .ok (0, window q.buffer q.head 1, 1) := by
  have fits : (if q.tail = size then 0 else q.tail) + [b].length ≤ q.buffer.length := by
    rw [List.length_singleton]
    split <;> omega
  have untouched : window (overwrite q.buffer (if q.tail = size then 0 else q.tail) [b]) q.head 1 =
      window q.buffer q.head 1 := by
    apply window_overwrite (by omega) (by omega) fits
    intro i hi j hj
    rw [List.length_singleton] at hj
    split <;> omega
  refine ⟨_, push_one two hs queueSize length use tail_le b, ?_⟩
  intro popDataLen
  rw [← untouched]
  apply front_one (show 0 < size by omega)
  · exact hs
  · exact queueSize
  · exact (length_overwrite fits).trans length
  · rfl
  · exact head_le

end OneByte

namespace QueueLocalMemoryImpl

open QueueLocalMemory (failedCode)

/-- `Initialize` has put a buffer of `size` bytes under the fields. -/
structure Buffered (size : Nat) (s : QueueLocalMemoryImpl) : Prop where
  allocated : s.allocated = true
  queueSize : s.memory.queueSize = size
  length : s.memory.buffer.length = size

namespace LikeNew

variable {size : Nat} {s : QueueLocalMemoryImpl}

theorem answers_eq (pos : 0 < size) (small : size < 2 ^ 31) (h : s.LikeNew size) (calls : List UserCall) :
    answers (answer wrapping) s calls = answers (fun (f : Fifo) c => .ok (f.answer failedCode size c)) {} calls := by
  have length : (List.replicate size (0 : UInt8)).length = size := List.length_replicate ..
  obtain ⟨fresh, init⟩ : ∃ fresh, ({} : QueueLocalMemoryImpl).initializeQueue (List.replicate size 0) = .ok (0, fresh) :=
    ⟨_, initializeQueue_eq_ok.mpr ⟨by omega, rfl⟩⟩
  have new : fresh.Serves size {} := by
    obtain ⟨-, rfl⟩ := initializeQueue_eq_ok.mp init
    rw [length]
    exact .inl ⟨rfl, QueueMemory.holds_nil pos length, rfl⟩
  obtain ⟨replies, mine, theirs⟩ := h _ fresh length init calls
  rw [mine, ← new.answers_eq pos (by omega), theirs]

theorem useSize_eq (pos : 0 < size) (small : size < 2 ^ 31) (buffered : s.Buffered size) (h : s.LikeNew size) :
    s.memory.useSize = 0 := by
  have told := h.answers_eq pos small [.getUseSize]
  simpa [answers, answer, getUseSize, buffered.allocated, Fifo.answer, Except.map] using told

theorem popDataLen_eq (pos : 0 < size) (small : size < 2 ^ 31) (h : s.LikeNew size) : s.popDataLen = 0 := by
  by_contra pending
  obtain ⟨q, popped⟩ := s.memory.pop_pending failedCode s.getQueueSize (Nat.pos_of_ne_zero pending)
  have told := h.answers_eq pos small [.pop]
  simp [answers, answer, call, pop, popped, Fifo.answer, Fifo.call, Except.map] at told
  contradiction

/-- With the tail past the buffer a push of no byte has nowhere to copy to. -/
theorem tail_le (pos : 0 < size) (small : size < 2 ^ 31) (buffered : s.Buffered size) (h : s.LikeNew size) :
    s.memory.tail ≤ size := by
  by_contra past
  have use := useSize_eq pos small buffered h
  have length := buffered.length
  have free : s.memory.getFreeSize wrapping = .ok (size - 1) :=
    QueueMemory.getFreeSize_unused pos (by omega) buffered.queueSize use
  obtain ⟨behind, eq⟩ : ∃ n, wrapping.sub size s.memory.tail = .ok n := ⟨_, rfl⟩
  have outside : store s.memory.buffer s.memory.tail [] = .error .fault := if_neg (by simp; omega)
  have told := h.answers_eq pos small [.push ⟨[], by decide⟩]
  simp [answers, answer, call, push, buffered.allocated, QueueMemory.push, free, buffered.queueSize, eq,
     outside, Fifo.answer, Fifo.call, Except.map] at told

/-- With the head past the buffer a read of no byte has nowhere to copy from. -/
theorem head_le (pos : 0 < size) (small : size < 2 ^ 31) (buffered : s.Buffered size) (h : s.LikeNew size) :
    s.memory.head ≤ size := by
  by_contra past
  have use := useSize_eq pos small buffered h
  have length := buffered.length
  obtain ⟨ahead, eq⟩ : ∃ n, wrapping.sub size s.memory.head = .ok n := ⟨_, rfl⟩
  have outside : load s.memory.buffer s.memory.head 0 = .error .fault := if_neg (by omega)
  have told := h.answers_eq pos small [.front 0]
  simp [answers, answer, call, front, buffered.allocated, QueueMemory.front, buffered.queueSize, use, eq, outside,
    Fifo.answer, Fifo.call, Except.map] at told

/-- A byte that is written to one cell and read from another comes back only by accident. -/
theorem together (pos : 0 < size) (small : size < 2 ^ 31) (buffered : s.Buffered size) (h : s.LikeNew size) :
    s.memory.head = s.memory.tail ∨ s.memory.head = 0 ∧ s.memory.tail = size ∨
      s.memory.head = size ∧ s.memory.tail = 0 := by
  by_contra apart
  have use := useSize_eq pos small buffered h
  have tail_le := tail_le pos small buffered h
  have head_le := head_le pos small buffered h
  have length := buffered.length
  obtain ⟨old, found⟩ : ∃ old, window s.memory.buffer s.memory.head 1 = [old] :=
    List.length_eq_one_iff.mp (length_window (by omega) (by omega))
  obtain ⟨q, pushed, read⟩ := QueueMemory.read_apart failedCode (by omega) (by omega) buffered.queueSize length use
    tail_le head_le apart (old + 1)
  have told := h.answers_eq pos small [.push ⟨[old + 1], by simp⟩, .front 1]
  simp [answers, answer, call, push, front, buffered.allocated, pushed, read, found, Fifo.answer, Fifo.call, Fifo.push,
    Except.map, show 1 ≤ size - 1 by omega] at told

theorem unused (pos : 0 < size) (small : size < 2 ^ 31) (buffered : s.Buffered size) (h : s.LikeNew size) :
    s.Unused size where
  useSize := useSize_eq pos small buffered h
  popDataLen := popDataLen_eq pos small h
  head_le := head_le pos small buffered h
  tail_le := tail_le pos small buffered h
  together := together pos small buffered h

end LikeNew

/-- A new buffer under unused fields is an empty queue. -/
theorem Unused.serves {size : Nat} {s : QueueLocalMemoryImpl} (pos : 0 < size) (buffered : s.Buffered size)
    (h : s.Unused size) : s.Serves size {} := by
  obtain ⟨⟨tail, head, queueSize, useSize, buffer⟩, allocated, popDataLen⟩ := s
  obtain ⟨rfl, rfl, length⟩ := buffered
  obtain ⟨rfl, rfl, head_le, tail_le, together⟩ := h
  by_cases lap : head = 0 ∧ tail = queueSize
  · obtain ⟨rfl, rfl⟩ := lap
    exact .inr ⟨rfl, buffer, length, rfl⟩
  · left
    refine ⟨rfl, ?_, rfl⟩
    constructor
    · rfl
    · exact length
    · rfl
    · exact pos
    · exact head_le
    · exact tail_le
    · show tail = head + 0 ∨ tail + queueSize = head + 0
      simp only [] at together
      omega
    · exact window_zero _ _

/-- An empty queue with no pending read can be initialised again with its own size. -/
theorem Represents.unused {size : Nat} {s : QueueLocalMemoryImpl} (h : s.Represents size {}) : s.Unused size where
  useSize := h.memory.use
  popDataLen := h.pending
  head_le := h.memory.head_le
  tail_le := h.memory.tail_le
  together := by
    have head_le := h.memory.head_le
    have tail_le := h.memory.tail_le
    have lap := h.memory.lap
    simp only [List.length_nil, Nat.add_zero] at lap
    omega

/-- **`Initialize` gives a new queue if and only if the object's old fields are unused.** The object is in any state,
whatever calls have led there; `garbage` is what the new buffer contains. -/
theorem likeNew_iff_unused (s s' : QueueLocalMemoryImpl) (garbage : List UInt8)
    (init : s.initializeQueue garbage = .ok (0, s')) : s'.LikeNew garbage.length ↔ s.Unused garbage.length := by
  obtain ⟨⟨pos, small⟩, rfl⟩ := initializeQueue_eq_ok.mp init
  have buffered : Buffered garbage.length
      ⟨{ s.memory with queueSize := garbage.length, buffer := garbage }, true, s.popDataLen⟩ := ⟨rfl, rfl, rfl⟩
  constructor
  · intro new
    obtain ⟨useSize, popDataLen, head_le, tail_le, together⟩ := new.unused pos small buffered
    exact ⟨useSize, popDataLen, head_le, tail_le, together⟩
  · rintro ⟨useSize, popDataLen, head_le, tail_le, together⟩
    have unused : Unused garbage.length
        ⟨{ s.memory with queueSize := garbage.length, buffer := garbage }, true, s.popDataLen⟩ :=
      ⟨useSize, popDataLen, head_le, tail_le, together⟩
    exact (unused.serves pos buffered).likeNew pos (by omega)

/-- The calls of a list that do what they are asked, from a new object on. -/
private def after (calls : List QueueCall) (garbage : List UInt8) : Exec QueueLocalMemoryImpl := do
  let (_, s) ← ({} : QueueLocalMemoryImpl).initializeQueue garbage
  let (_, s) ← runCalls (call wrapping) s calls
  return s

theorem likeNew_iff_unused_read :
    ∃ s s', after [.push ⟨[1, 2, 3], by decide⟩, .front 3, .pop] (List.replicate 8 0) = .ok s ∧
      s.initializeQueue (List.replicate 8 7) = .ok (0, s') ∧ s'.LikeNew 8 := by
  refine ⟨_, _, rfl, rfl, (likeNew_iff_unused _ _ (List.replicate 8 7) rfl).mpr ?_⟩
  constructor <;> decide

/-- Three bytes of the old queue are read out of the new buffer; and a queue that has been emptied makes a push into
a smaller buffer leave it. -/
theorem initialized_over_rest :
    (∃ s s' s'', after [.push ⟨[1, 2, 3], by decide⟩] (List.replicate 8 0) = .ok s ∧
      s.initializeQueue (List.replicate 8 7) = .ok (0, s') ∧ s'.getUseSize = 3 ∧
      s'.front wrapping 3 = .ok (0, [7, 7, 7], s'') ∧ ¬ s'.LikeNew 8) ∧
    ∃ s s', after [.push ⟨List.replicate 10 1, by decide⟩, .front 10, .pop] (List.replicate 16 0) = .ok s ∧
      s.initializeQueue (List.replicate 4 7) = .ok (0, s') ∧ s'.push wrapping [1] = .error .fault ∧ ¬ s'.LikeNew 4 := by
  constructor
  · refine ⟨_, _, _, rfl, rfl, rfl, rfl, ?_⟩
    intro new
    exact absurd (new.useSize_eq (show 0 < 8 by decide) (show 8 < 2 ^ 31 by decide) ⟨rfl, rfl, rfl⟩) (by decide)
  · refine ⟨_, _, rfl, rfl, rfl, ?_⟩
    intro new
    exact absurd (new.tail_le (show 0 < 4 by decide) (show 4 < 2 ^ 31 by decide) ⟨rfl, rfl, rfl⟩) (by decide)

/-! ## The whole life of an object -/

/-- What is done to an object between its construction and its end. -/
inductive Event where
  | initializeQueue (garbage : List UInt8)
  | call (c : QueueCall)
  | finalize

/-- A `new` that throws leaves the object as `Finalize` has left it. -/
def step (s : QueueLocalMemoryImpl) : Event → Option QueueLocalMemoryImpl
  | .initializeQueue garbage => match s.initializeQueue garbage with
    | .ok (_, t) => some t
    | .error _ => some s.finalize
  | .call c => match s.call wrapping c with
    | .ok (_, t) => some t
    | .error _ => none
  | .finalize => some s.finalize

/-- A new buffer is put under unused fields only, and `Clear` is called while no read is pending. -/
def Orderly (s : QueueLocalMemoryImpl) : Event → Prop
  | .initializeQueue garbage => s.Unused garbage.length
  | .call .clear => s.popDataLen = 0
  | .call _ | .finalize => True

/-- An object with a buffer is a queue of some size. -/
def Serving (s : QueueLocalMemoryImpl) : Prop :=
  s.allocated = true → ∃ size f, 0 < size ∧ size < 2 ^ 32 ∧ s.Serves size f

section Life

variable {s t : QueueLocalMemoryImpl} {size : Nat} {f : Fifo} {c : QueueCall}

/-- Every call on a queue returns, and leaves a queue. -/
theorem Serves.call_spec (pos : 0 < size) (hs : size < 2 ^ 32) (h : s.Serves size f)
    (idle : c = .clear → s.popDataLen = 0) : ∃ reply t f', s.call wrapping c = .ok (reply, t) ∧ t.Serves size f' := by
  have answered {a : UserCall} (same : s.answer wrapping a = s.call wrapping c) :
      ∃ reply t f', s.call wrapping c = .ok (reply, t) ∧ t.Serves size f' := by
    obtain ⟨t, ran, reached⟩ := h.answer_spec pos hs a
    exact ⟨_, t, _, same ▸ ran, reached⟩
  cases c with
  | push bytes => exact answered (a := .push bytes) rfl
  | front len => exact answered (a := .front len) rfl
  | pop => exact answered (a := .pop) rfl
  | clear =>
    rcases h with represents | ⟨-, buffer, length, rfl⟩
    · obtain ⟨t, ran, reached⟩ := call_refines hs represents (c := .clear) fun _ => represents.pending ▸ idle rfl
      exact ⟨_, t, _, ran wrapping wrapping_exact, .inl reached⟩
    · have fits : 0 + (List.replicate size (0 : UInt8)).length ≤ buffer.length := by simp [length]
      refine ⟨{ code := 0 }, ⟨{ queueSize := size, buffer := overwrite buffer 0 (List.replicate size 0) }, true, 0⟩,
        {}, ?_, .inl ⟨rfl, QueueMemory.holds_nil pos ((length_overwrite fits).trans length), rfl⟩⟩
      simp only [call, clear, lapped, if_true, QueueMemory.clear, store_eq fits, ok_bind, pure_eq_ok]

/-- A call on an object without a buffer returns, and does not get it one. -/
theorem call_finalized (finalized : s.allocated = false) (c : QueueCall) :
    ∃ reply t, s.call wrapping c = .ok (reply, t) ∧ t.allocated = false := by
  cases c with
  | push bytes => exact ⟨_, s, by simp only [call, push, finalized, Bool.false_eq_true, if_false]; rfl, finalized⟩
  | front len => exact ⟨_, s, by simp only [call, front, finalized, Bool.false_eq_true, if_false]; rfl, finalized⟩
  | clear => exact ⟨_, s, by simp only [call, clear, finalized, Bool.false_eq_true, if_false]; rfl, finalized⟩
  | pop =>
    rcases Nat.eq_zero_or_pos s.popDataLen with none | pending
    · refine ⟨{ code := failedCode.popDataEmpty }, { s with memory := s.memory, popDataLen := 0 }, ?_, finalized⟩
      simp only [call, pop, none, QueueMemory.pop_empty, ok_bind, pure_eq_ok]
    · obtain ⟨q, ran⟩ := s.memory.pop_pending failedCode s.getQueueSize pending
      refine ⟨{ code := 0 }, { s with memory := q, popDataLen := 0 }, ?_, finalized⟩
      simp only [call, pop, ran, ok_bind, pure_eq_ok]

/-- In order, an event is always possible, and a queue stays a queue. -/
theorem Serving.step_spec (h : s.Serving) {e : Event} (orderly : s.Orderly e) : ∃ t, s.step e = some t ∧ t.Serving := by
  have unbuffered {t : QueueLocalMemoryImpl} (finalized : t.allocated = false) : t.Serving := by
    intro allocated
    rw [finalized] at allocated
    cases allocated
  cases e with
  | initializeQueue garbage =>
    by_cases fits : 0 < garbage.length ∧ garbage.length < 2 ^ 31
    · have init : s.initializeQueue garbage =
          .ok (0, ⟨{ s.memory with queueSize := garbage.length, buffer := garbage }, true, s.popDataLen⟩) :=
        initializeQueue_eq_ok.mpr ⟨fits, rfl⟩
      refine ⟨⟨{ s.memory with queueSize := garbage.length, buffer := garbage }, true, s.popDataLen⟩, ?_, ?_⟩
      · simp only [step, init]
      intro _
      have unused : Unused garbage.length
          ⟨{ s.memory with queueSize := garbage.length, buffer := garbage }, true, s.popDataLen⟩ := by
        obtain ⟨useSize, popDataLen, head_le, tail_le, together⟩ := orderly
        exact ⟨useSize, popDataLen, head_le, tail_le, together⟩
      exact ⟨garbage.length, {}, fits.1, by omega, unused.serves fits.1 ⟨rfl, rfl, rfl⟩⟩
    · refine ⟨s.finalize, ?_, unbuffered rfl⟩
      simp only [step, initializeQueue]
      by_cases empty : garbage.length = 0
      · rw [if_pos empty]
        rfl
      · rw [if_neg empty, if_pos (by omega)]
        rfl
  | call c =>
    cases buffered : s.allocated with
    | false =>
      obtain ⟨reply, t, ran, finalized⟩ := call_finalized buffered c
      exact ⟨t, by simp only [step, ran], unbuffered finalized⟩
    | true =>
      obtain ⟨size, f, pos, hs, serves⟩ := h buffered
      have idle : c = .clear → s.popDataLen = 0 := by
        rintro rfl
        exact orderly
      obtain ⟨reply, t, f', ran, reached⟩ := serves.call_spec pos hs idle
      exact ⟨t, by simp only [step, ran], fun _ => ⟨size, f', pos, hs, reached⟩⟩
  | finalize => exact ⟨s.finalize, rfl, unbuffered rfl⟩

end Life

/-- **An object that is used in order is a queue all its life**: no call stops, and in every state with a buffer it
answers like the FIFO that it serves. -/
theorem serving_throughout {events : List Event} (orderly : Along step Orderly {} events) :
    (∃ t, run step {} events = some t) ∧ Throughout step Serving {} events := by
  have new : Serving {} := by rintro ⟨⟩
  have preserved {s t : QueueLocalMemoryImpl} {e : Event} (h : s.Serving) (inOrder : s.Orderly e)
      (ran : s.step e = some t) : t.Serving := by
    obtain ⟨u, ran', serving⟩ := h.step_spec inOrder
    rw [ran] at ran'
    cases ran'
    exact serving
  refine ⟨?_, throughout preserved id new orderly⟩
  generalize ({} : QueueLocalMemoryImpl) = s at new orderly
  induction events generalizing s with
  | nil => exact ⟨s, rfl⟩
  | cons e es ih =>
    obtain ⟨t, ran, serving⟩ := new.step_spec orderly.1
    have rest := orderly.2
    simp only [ran] at rest
    obtain ⟨u, ran'⟩ := ih t serving rest
    exact ⟨u, run_cons.mpr ⟨t, ran, ran'⟩⟩

end QueueLocalMemoryImpl

end CameraEv
