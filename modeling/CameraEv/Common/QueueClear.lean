import CameraEv.Lib.Answers
import CameraEv.Common.QueueFifo

/-!
# `Clear` in the middle of a read

`Clear` sets the cursors and the used size of a ring queue back and leaves
`m_pop_data_len` alone. A handle whose `Front` has not been popped yet keeps the
old length over the `Clear`, and its next `Pop` takes that many bytes from an
empty queue. What a queue owes its callers after a `Clear` is `ClearSafe`; the
section on a queue in general says when it is met, from what one call does, and
both classes instantiate it.
-/

namespace CameraEv

open Exec Answers

/-- The used size leaves one byte free and is the distance from head to tail around the ring. -/
structure QueueMemory.Sane (q : QueueMemory) : Prop where
  use_le : q.useSize ≤ q.queueSize - 1
  distance : ((q.tail : Int) - q.head) % q.queueSize = q.useSize

theorem QueueMemory.Holds.sane {size : Nat} {q : QueueMemory} {bytes : List UInt8} (h : q.Holds size bytes) :
    q.Sane := by
  have room := h.room
  have use := h.use
  refine ⟨?_, ?_⟩
  · rw [h.queueSize]
    omega
  · rw [h.queueSize, use]
    rcases h.lap with lap | lap
    · rw [lap, Nat.cast_add, add_sub_cancel_left]
      exact Int.emod_eq_of_lt (by omega) (by omega)
    · have around : (q.tail : Int) - q.head = bytes.length - size := by omega
      rw [around, Int.sub_emod_right]
      exact Int.emod_eq_of_lt (by omega) (by omega)

/-- Every state of a run satisfies `sane`, every call returns, and after a `Clear` the object answers whatever is
called next as `fresh` does. -/
def ClearSafe {S : Type} (call : S → QueueCall → Exec (Reply × S)) (sane : S → Prop) (fresh : S) :
    S → List QueueCall → Prop
  | s, [] => sane s
  | s, c :: cs => sane s ∧ ∃ reply t, call s c = .ok (reply, t) ∧
      (c = .clear → ∀ continuation, answers call t continuation = answers call fresh continuation) ∧
        ClearSafe call sane fresh t cs

/-! ## A queue in general -/

section Queue

variable {S : Type}

/-- What one call does to a queue, seen from the FIFO it represents. A `Clear` leaves nothing of the queue but a
pending read, whose `Pop` is then answered with success. -/
structure Clearable (call : S → QueueCall → Exec (Reply × S)) (sane : S → Prop) (code : FailedCode) (size : Nat)
    (R : S → Fifo → Prop) : Prop where
  sane : ∀ {s f}, R s f → sane s
  step : ∀ {s f c}, R s f → (c = .clear → f.pending = 0) →
    ∃ t, call s c = .ok ((f.call code size c).1, t) ∧ R t (f.call code size c).2
  cleared : ∀ {s u f}, R s f → R u f → ∃ t, call s .clear = .ok ({ code := 0 }, t) ∧
    call u .clear = .ok ({ code := 0 }, t) ∧ (0 < f.pending → ∃ v, call t .pop = .ok ({ code := 0 }, v))
  empty : code.popDataEmpty ≠ 0

variable {call : S → QueueCall → Exec (Reply × S)} {sane : S → Prop} {code : FailedCode} {size : Nat}
  {R : S → Fifo → Prop}

/-- Two queues in one abstract state answer alike, however a `Clear` finds them. -/
theorem Clearable.answers_eq (h : Clearable call sane code size R) {s u : S} {f : Fifo} (left : R s f) (right : R u f)
    (cs : List QueueCall) : answers call s cs = answers call u cs := by
  apply Answers.answers_eq (R := fun s u => s = u ∨ ∃ f, R s f ∧ R u f)
  · rintro s u c (rfl | ⟨f, left, right⟩)
    · exact (Agree.refl _).weaken fun _ _ => Or.inl
    · right
      by_cases idle : c = .clear → f.pending = 0
      · obtain ⟨t, ran, reached⟩ := h.step left idle
        obtain ⟨v, ran', reached'⟩ := h.step right idle
        exact ⟨_, t, v, ran, ran', .inr ⟨_, reached, reached'⟩⟩
      · push Not at idle
        obtain ⟨rfl, -⟩ := idle
        obtain ⟨t, ran, ran', -⟩ := h.cleared left right
        exact ⟨_, t, t, ran, ran', .inl rfl⟩
  · exact .inr ⟨f, left, right⟩

/-- A `Clear` of a queue with a pending read is not the start of a fresh queue: the next `Pop` tells. -/
theorem Clearable.pending_of_clear (h : Clearable call sane code size R) {s t fresh : S} {f : Fifo} {reply : Reply}
    (represents : R s f) (start : R fresh {}) (ran : call s .clear = .ok (reply, t))
    (same : ∀ continuation, answers call t continuation = answers call fresh continuation) : f.pending = 0 := by
  by_contra pending
  obtain ⟨t', cleared, -, stale⟩ := h.cleared represents represents
  obtain ⟨v, popped⟩ := stale (Nat.pos_of_ne_zero pending)
  obtain ⟨rfl⟩ : t = t' := by
    rw [ran] at cleared
    exact congrArg Prod.snd (Except.ok.inj cleared)
  obtain ⟨w, refused, -⟩ := h.step (c := .pop) start (by rintro ⟨⟩)
  exact answers_ne popped refused (fun eq => h.empty (congrArg Reply.code eq).symm) (same [.pop])

theorem Clearable.safe_iff (h : Clearable call sane code size R) {fresh : S} (start : R fresh {}) {s : S} {f : Fifo}
    (represents : R s f) (cs : List QueueCall) : ClearSafe call sane fresh s cs ↔ f.ClearsIdle code size cs := by
  induction cs generalizing s f with
  | nil =>
    constructor
    · exact fun _ => trivial
    · exact fun _ => h.sane represents
  | cons c cs ih =>
    constructor
    · rintro ⟨-, reply, t, ran, same, safe⟩
      have idle : c = .clear → f.pending = 0 := by
        rintro rfl
        exact h.pending_of_clear represents start ran (same rfl)
      obtain ⟨t', ran', reached⟩ := h.step represents idle
      rw [ran] at ran'
      obtain ⟨rfl⟩ : t = t' := congrArg Prod.snd (Except.ok.inj ran')
      exact ⟨idle, (ih reached).mp safe⟩
    · rintro ⟨idle, rest⟩
      obtain ⟨t, ran, reached⟩ := h.step represents idle
      refine ⟨h.sane represents, _, t, ran, ?_, (ih reached).mpr rest⟩
      rintro rfl continuation
      exact h.answers_eq reached start continuation

end Queue

/-! ## The two classes -/

section Memory

variable {size : Nat} {q : QueueMemory} {bytes : List UInt8}

/-- `Clear` leaves the memory of a new mapping. -/
theorem QueueMemory.Holds.clear_eq (h : q.Holds size bytes) : q.clear = .ok (0, QueueMemory.fresh size) := by
  have fits : 0 + (List.replicate q.queueSize (0 : UInt8)).length ≤ q.buffer.length := by
    simp [h.queueSize, h.length]
  have zeros : overwrite q.buffer 0 (List.replicate q.queueSize 0) = List.replicate size 0 := by
    simp [overwrite, h.queueSize, h.length]
  simp only [QueueMemory.clear, store_eq fits, ok_bind, pure_eq_ok, zeros]
  rw [h.queueSize]
  rfl

end Memory

namespace QueueSharedMemoryImpl

/-- The handle is attached to a queue in order. -/
def Sane (s : QueueSharedMemoryImpl) : Prop := ∃ q, s.memory = some q ∧ q.Sane

theorem clearable {size : Nat} (hs : size < 2 ^ 32) :
    Clearable (call wrapping) Sane QueueSharedMemory.failedCode size (Represents size) where
  sane := by
    rintro s f ⟨⟨q, attached, holds⟩, -⟩
    exact ⟨q, attached, holds.sane⟩
  step := by
    intro s f c represents idle
    obtain ⟨t, ran, reached⟩ := call_refines hs represents idle
    exact ⟨t, ran wrapping wrapping_exact, reached⟩
  cleared := by
    rintro ⟨-, _⟩ ⟨-, _⟩ f ⟨⟨q, rfl, holds⟩, rfl⟩ ⟨⟨q', rfl, holds'⟩, rfl⟩
    refine ⟨⟨some (.fresh size), f.pending⟩, ?_, ?_, ?_⟩
    · simp only [call, clear, holds.clear_eq, ok_bind, pure_eq_ok]
    · simp only [call, clear, holds'.clear_eq, ok_bind, pure_eq_ok]
    · intro pending
      obtain ⟨q', ran⟩ := (QueueMemory.fresh size).pop_pending QueueSharedMemory.failedCode size pending
      refine ⟨⟨some q', 0⟩, ?_⟩
      simp only [call, pop, show (QueueMemory.fresh size).queueSize = size from rfl, ran, ok_bind, pure_eq_ok]
  empty := by decide

/-- Any list of calls through one handle of a new mapping. -/
theorem clearSafe_iff {size : Nat} (pos : 1 ≤ size) (hs : size < 2 ^ 32) (cs : List QueueCall) :
    ClearSafe (call wrapping) Sane ⟨some (.fresh size), 0⟩ ⟨some (.fresh size), 0⟩ cs ↔
      ({} : Fifo).ClearsIdle QueueSharedMemory.failedCode size cs := by
  have start : Represents size ⟨some (.fresh size), 0⟩ {} :=
    ⟨⟨_, rfl, QueueMemory.holds_nil pos (List.length_replicate ..)⟩, rfl⟩
  exact (clearable hs).safe_iff start start cs

end QueueSharedMemoryImpl

namespace QueueLocalMemoryImpl

/-- The object's queue is in order. -/
def Sane (s : QueueLocalMemoryImpl) : Prop := s.memory.Sane

theorem clearable {size : Nat} (hs : size < 2 ^ 32) :
    Clearable (call wrapping) Sane QueueLocalMemory.failedCode size (Represents size) where
  sane represents := represents.memory.sane
  step := by
    intro s f c represents idle
    obtain ⟨t, ran, reached⟩ := call_refines hs represents idle
    exact ⟨t, ran wrapping wrapping_exact, reached⟩
  cleared := by
    rintro ⟨q, -, _⟩ ⟨q', -, _⟩ f ⟨rfl, holds, rfl⟩ ⟨rfl, holds', rfl⟩
    refine ⟨⟨.fresh size, true, f.pending⟩, ?_, ?_, ?_⟩
    · simp only [call, clear, if_true, holds.clear_eq, ok_bind, pure_eq_ok]
    · simp only [call, clear, if_true, holds'.clear_eq, ok_bind, pure_eq_ok]
    · intro pending
      obtain ⟨q', ran⟩ := (QueueMemory.fresh size).pop_pending QueueLocalMemory.failedCode size pending
      refine ⟨⟨q', true, 0⟩, ?_⟩
      simp only [call, pop, getQueueSize, if_true, show (QueueMemory.fresh size).queueSize = size from rfl, ran,
        ok_bind, pure_eq_ok]
  empty := by decide

/-- Any list of calls on an object with a new buffer; another new buffer need not have the same bytes. -/
theorem clearSafe_iff {garbage garbage' : List UInt8} (pos : 1 ≤ garbage.length) (hs : garbage.length < 2 ^ 32)
    (same : garbage'.length = garbage.length) (cs : List QueueCall) :
    ClearSafe (call wrapping) Sane ⟨{ queueSize := garbage'.length, buffer := garbage' }, true, 0⟩
        ⟨{ queueSize := garbage.length, buffer := garbage }, true, 0⟩ cs ↔
      ({} : Fifo).ClearsIdle QueueLocalMemory.failedCode garbage.length cs := by
  have start : Represents garbage.length ⟨{ queueSize := garbage.length, buffer := garbage }, true, 0⟩ {} :=
    ⟨rfl, QueueMemory.holds_nil pos rfl, rfl⟩
  have start' : Represents garbage.length ⟨{ queueSize := garbage'.length, buffer := garbage' }, true, 0⟩ {} := by
    rw [same]
    exact ⟨rfl, QueueMemory.holds_nil pos same, rfl⟩
  exact (clearable hs).safe_iff start' start cs

end QueueLocalMemoryImpl

/-- **A `Clear` is safe when no read is pending, and only then.** For both classes, every size they can be made
with and every list of calls through one handle. The mapping has room for its 48 bytes of `QueueInfo` and the
queue; `new` takes the size of a local queue as an `int`. -/
theorem clear_safe_iff (size : Nat) (pos : 1 ≤ size) (cs : List QueueCall) :
    (size + 48 < 2 ^ 32 → ∃ fresh, ({} : QueueSharedMemoryImpl).initializeQueue size = (0, fresh) ∧
      (ClearSafe (QueueSharedMemoryImpl.call wrapping) QueueSharedMemoryImpl.Sane fresh fresh cs ↔
        ({} : Fifo).ClearsIdle QueueSharedMemory.failedCode size cs)) ∧
    (size < 2 ^ 31 → ∀ garbage garbage' : List UInt8, garbage.length = size → garbage'.length = size →
      ∃ start fresh, ({} : QueueLocalMemoryImpl).initializeQueue garbage = .ok (0, start) ∧
        ({} : QueueLocalMemoryImpl).initializeQueue garbage' = .ok (0, fresh) ∧
        (ClearSafe (QueueLocalMemoryImpl.call wrapping) QueueLocalMemoryImpl.Sane fresh start cs ↔
          ({} : Fifo).ClearsIdle QueueLocalMemory.failedCode size cs)) := by
  constructor
  · intro room
    refine ⟨⟨some (.fresh size), 0⟩, ?_, QueueSharedMemoryImpl.clearSafe_iff pos (by omega) cs⟩
    simp only [QueueSharedMemoryImpl.initializeQueue, if_neg (show ¬ size = 0 by omega)]
  · rintro small garbage garbage' rfl same
    exact ⟨_, _, QueueLocalMemoryImpl.initializeQueue_eq_ok.mpr ⟨⟨pos, small⟩, rfl⟩,
      QueueLocalMemoryImpl.initializeQueue_eq_ok.mpr ⟨by omega, rfl⟩,
      QueueLocalMemoryImpl.clearSafe_iff pos (by omega) same cs⟩

/-- A frame is written, read and dropped, and the queue cleared. -/
private def idleClear : List QueueCall := [.push ⟨[1, 2, 3], by decide⟩, .front 3, .pop, .clear]

theorem clear_safe_iff_idle :
    (∃ fresh, ({} : QueueSharedMemoryImpl).initializeQueue 8 = (0, fresh) ∧
      ClearSafe (QueueSharedMemoryImpl.call wrapping) QueueSharedMemoryImpl.Sane fresh fresh idleClear) ∧
    ∃ start fresh, ({} : QueueLocalMemoryImpl).initializeQueue (List.replicate 8 1) = .ok (0, start) ∧
      ({} : QueueLocalMemoryImpl).initializeQueue (List.replicate 8 2) = .ok (0, fresh) ∧
      ClearSafe (QueueLocalMemoryImpl.call wrapping) QueueLocalMemoryImpl.Sane fresh start idleClear := by
  obtain ⟨shared, loc⟩ := clear_safe_iff 8 (by decide) idleClear
  constructor
  · obtain ⟨fresh, init, safe⟩ := shared (by decide)
    refine ⟨fresh, init, safe.mpr ?_⟩
    simp [idleClear, Fifo.ClearsIdle, Fifo.call, Fifo.push, Fifo.front, Fifo.pop]
  · obtain ⟨start, fresh, init, init', safe⟩ := loc (by decide) (List.replicate 8 1) (List.replicate 8 2) rfl rfl
    refine ⟨start, fresh, init, init', safe.mpr ?_⟩
    simp [idleClear, Fifo.ClearsIdle, Fifo.call, Fifo.push, Fifo.front, Fifo.pop]

/-- `Clear` between a `Front` and its `Pop`, on queues of 8 bytes. -/
private def clearUnderRead : List QueueCall := [.push ⟨[1, 2, 3], by decide⟩, .front 3, .clear, .pop]

/-- The `Pop` behind the `Clear` succeeds on an empty queue and `use_size` wraps around. -/
theorem clear_under_read :
    (∃ fresh s, ({} : QueueSharedMemoryImpl).initializeQueue 8 = (0, fresh) ∧
      runCalls (QueueSharedMemoryImpl.call wrapping) fresh clearUnderRead =
        .ok ([{ code := 0 }, { code := 0, bytes := [1, 2, 3] }, { code := 0 }, { code := 0 }], s) ∧
      s.getUseSize = 2 ^ 32 - 3 ∧
      ¬ ClearSafe (QueueSharedMemoryImpl.call wrapping) QueueSharedMemoryImpl.Sane fresh fresh clearUnderRead) ∧
    ∃ fresh s, ({} : QueueLocalMemoryImpl).initializeQueue (List.replicate 8 0) = .ok (0, fresh) ∧
      runCalls (QueueLocalMemoryImpl.call wrapping) fresh clearUnderRead =
        .ok ([{ code := 0 }, { code := 0, bytes := [1, 2, 3] }, { code := 0 }, { code := 0 }], s) ∧
      s.getUseSize = 2 ^ 32 - 3 ∧
      ¬ ClearSafe (QueueLocalMemoryImpl.call wrapping) QueueLocalMemoryImpl.Sane fresh fresh clearUnderRead := by
  constructor
  · refine ⟨_, _, rfl, rfl, rfl, ?_⟩
    intro safe
    have idle := (QueueSharedMemoryImpl.clearSafe_iff (by decide) (by decide) _).mp safe
    simp [clearUnderRead, Fifo.ClearsIdle, Fifo.call, Fifo.push, Fifo.front] at idle
  · refine ⟨_, _, rfl, rfl, rfl, ?_⟩
    intro safe
    have pos : 1 ≤ (List.replicate 8 (0 : UInt8)).length := by decide
    have idle := (QueueLocalMemoryImpl.clearSafe_iff pos (by decide) rfl _).mp safe
    simp [clearUnderRead, Fifo.ClearsIdle, Fifo.call, Fifo.push, Fifo.front] at idle

end CameraEv
