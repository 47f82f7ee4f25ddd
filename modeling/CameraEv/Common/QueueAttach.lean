import CameraEv.Common.QueueMemory
import CameraEv.Lib.Trace

/-!
# Attaching to a shared queue

`QueueSharedMemoryImpl::Initialize` opens the mapping of its name or creates it,
maps it, and stores `queue_size` where it took the creating branch. Nothing locks
these calls against each other, so one step is one of them, by any process, with
the system's answer to it. `CreateFileMapping` returns the mapping that is there,
with the size it has, and a new mapping is zero-filled. The objects stay alive.
-/

namespace CameraEv

open Exec Trace

namespace QueueAttach

/-- `sizeof(QueueInfo)`. -/
def infoSize : Nat := 48

/-- A `queue_size` argument. -/
abbrev QueueSize := {n : Nat // 0 < n ∧ n < 2 ^ 32}

/-- `sizeof(QueueInfo) + queue_size`, as the `DWORD` that `CreateFileMapping` gets. -/
def mappingSize (queueSize : Nat) : Nat := (infoSize + queueSize) % 2 ^ 32

/-- The mapping of the name: its size, what it contains, and the process whose call made it. -/
structure Mapping (ι : Type) where
  size : Nat
  memory : QueueMemory
  creator : ι

/-- Where `Initialize` is: the call it makes next, or what it returned. `create` is its local variable. -/
inductive Pc where
  | openSharedMemory
  | createSharedMemory
  | getSharedPoint (create : Bool)
  | storeQueueSize
  | returned (create : Bool)
  | failed (code : Nat)
  deriving DecidableEq

structure State (ι : Type) where
  mapping : Option (Mapping ι) := none
  pc : ι → Pc := fun _ => .openSharedMemory

variable {ι : Type} [DecidableEq ι]

/-- A new mapping, made by process `i`. -/
def Mapping.zeroFilled (i : ι) (queueSize : Nat) : Mapping ι where
  size := mappingSize queueSize
  memory := { buffer := List.replicate (mappingSize queueSize - infoSize) 0 }
  creator := i

/-- `m_queue_info->queue_size = queue_size`. -/
def Mapping.store (m : Mapping ι) (queueSize : Nat) : Mapping ι := { m with memory := { m.memory with queueSize } }

def openSharedMemory (mapping : Option (Mapping ι)) (granted : Bool) : Bool := mapping.isSome && granted

/-- The mapping of the name behind the call, unless it fails. A new mapping of no bytes is refused. -/
def createSharedMemory (mapping : Option (Mapping ι)) (i : ι) (queueSize : Nat) (granted : Bool) : Option (Mapping ι) :=
  if queueSize = 0 then none
  else if mappingSize queueSize = 0 ∨ granted = false then none
  else some (mapping.getD (.zeroFilled i queueSize))

namespace State

def goto (s : State ι) (i : ι) (pc : Pc) : State ι := { s with pc := Function.update s.pc i pc }

/-- One call of process `i`, with the system's answer to it. -/
def step (q : ι → QueueSize) (s : State ι) : ι × Bool → Option (State ι)
  | (i, granted) => match s.pc i with
    | .openSharedMemory =>
      some (s.goto i (if openSharedMemory s.mapping granted then .getSharedPoint false else .createSharedMemory))
    | .createSharedMemory => match createSharedMemory s.mapping i (q i).1 granted with
      | some m => some (State.goto { s with mapping := some m } i (.getSharedPoint true))
      | none => some (s.goto i (.failed 1))
    | .getSharedPoint create =>
      if granted then some (s.goto i (if create then .storeQueueSize else .returned false))
      else some (s.goto i (.failed 2))
    | .storeQueueSize => some (State.goto { s with mapping := s.mapping.map (·.store (q i).1) } i (.returned true))
    | .returned _ | .failed _ => none

end State

/-- What `Push`, `Front` and `GetFreeSize` rely on, and that no `Push` on the new queue leaves the mapping. -/
structure Usable (m : Mapping ι) : Prop where
  nonzero : m.memory.queueSize ≠ 0
  fits : infoSize + m.memory.queueSize ≤ m.size
  push : ∀ bytes : Buffer, ∃ reply, ({ memory := some m.memory } : QueueSharedMemoryImpl).push wrapping bytes.1 = .ok reply

/-- Every process whose `Initialize` has returned 0 is attached to a usable mapping. -/
def Safe (s : State ι) : Prop := ∀ i create, s.pc i = .returned create → ∃ m, s.mapping = some m ∧ Usable m

/-- A process that found the mapping returns behind one that took the creating branch, and a process that
stores its size asked for no more than the one whose call made the mapping did. -/
structure InOrder (q : ι → QueueSize) (s : State ι) (l : ι × Bool) : Prop where
  opener : s.pc l.1 = .getSharedPoint false → l.2 = true → ∃ j, s.pc j = .returned true
  creator : s.pc l.1 = .storeQueueSize → ∀ m ∈ s.mapping, infoSize + (q l.1).1 ≤ mappingSize (q m.creator).1

/-! ## What a step does -/

/-- Points behind which the process has a handle of the mapping. -/
def Pc.hasHandle : Pc → Bool
  | .getSharedPoint _ | .storeQueueSize | .returned _ => true
  | _ => false

section Step

variable {q : ι → QueueSize} {s t : State ι} {l : ι × Bool}

/-- What a call of process `i` with the answer `granted` may do. -/
inductive Effect (q : ι → QueueSize) (s : State ι) (i : ι) (granted : Bool) : State ι → Prop where
  | moves (pc : Pc) (silent : ∀ create, pc ≠ .returned create)
      (handle : pc.hasHandle = true → s.mapping.isSome = true ∨ (s.pc i).hasHandle = true) : Effect q s i granted (s.goto i pc)
  | makes (unmade : s.mapping = none) :
      Effect q s i granted (State.goto { s with mapping := some (.zeroFilled i (q i).1) } i (.getSharedPoint true))
  | opens (found : s.pc i = .getSharedPoint false) (answer : granted = true) :
      Effect q s i granted (s.goto i (.returned false))
  | stores (created : s.pc i = .storeQueueSize) :
      Effect q s i granted (State.goto { s with mapping := s.mapping.map (·.store (q i).1) } i (.returned true))

theorem State.goto_self (s : State ι) (i : ι) (pc : Pc) : (s.goto i pc).pc i = pc := by
  simp only [goto, Function.update_self]

theorem State.goto_of_ne (s : State ι) {i j : ι} (pc : Pc) (ne : j ≠ i) : (s.goto i pc).pc j = s.pc j := by
  simp only [goto, Function.update_of_ne ne]

/-- A process that has returned takes no step. -/
theorem State.step_live (h : s.step q l = some t) (create : Bool) : s.pc l.1 ≠ .returned create := by
  intro returned
  obtain ⟨i, granted⟩ := l
  simp only [step, returned, reduceCtorEq] at h

theorem State.step_effect (h : s.step q l = some t) : Effect q s l.1 l.2 t := by
  obtain ⟨i, granted⟩ := l
  simp only [State.step] at h
  cases here : s.pc i with
  | openSharedMemory =>
    simp only [here, Option.some.injEq] at h
    subst h
    cases found : openSharedMemory s.mapping granted with
    | true =>
      simp only [openSharedMemory, Bool.and_eq_true] at found
      exact .moves _ nofun fun _ => .inl found.1
    | false => exact .moves _ nofun nofun
  | createSharedMemory =>
    cases made : createSharedMemory s.mapping i (q i).1 granted with
    | none =>
      simp only [here, made, Option.some.injEq] at h
      subst h
      exact .moves _ nofun nofun
    | some m =>
      simp only [here, made, Option.some.injEq] at h
      subst h
      simp only [createSharedMemory] at made
      split at made
      · cases made
      split at made
      · cases made
      cases named : s.mapping with
      | none =>
        rw [named, Option.getD_none, Option.some.injEq] at made
        subst made
        exact .makes named
      | some m' =>
        rw [named, Option.getD_some, Option.some.injEq] at made
        subst made
        rw [← named]
        exact .moves _ nofun fun _ => .inl (by simp [named])
  | getSharedPoint create =>
    cases granted with
    | false =>
      simp only [here, Bool.false_eq_true, if_false, Option.some.injEq] at h
      subst h
      exact .moves _ nofun nofun
    | true =>
      simp only [here, if_true, Option.some.injEq] at h
      subst h
      cases create with
      | true => exact .moves _ nofun fun _ => .inr (by simp [here, Pc.hasHandle])
      | false => exact .opens here rfl
  | storeQueueSize =>
    simp only [here, Option.some.injEq] at h
    subst h
    exact .stores here
  | returned create => simp only [here, reduceCtorEq] at h
  | failed code => simp only [here, reduceCtorEq] at h

end Step

/-! ## Runs of calls in order -/

/-- A mapping is as its maker's call left it but for the stored size. -/
structure Mapping.Made (q : ι → QueueSize) (m : Mapping ι) : Prop where
  size : m.size = mappingSize (q m.creator).1
  memory : m.memory = { queueSize := m.memory.queueSize, buffer := List.replicate (m.size - infoSize) 0 }

/-- The size is stored when a process has returned from the creating branch, and then it fits. -/
structure Published (q : ι → QueueSize) (s : State ι) : Prop where
  mapped : ∀ i, (s.pc i).hasHandle = true → s.mapping.isSome = true
  made : ∀ m ∈ s.mapping, m.Made q
  stored : ∀ i, s.pc i = .returned true → ∀ m ∈ s.mapping, m.memory.queueSize ≠ 0 ∧
    infoSize + m.memory.queueSize ≤ m.size
  empty : (∀ i, s.pc i ≠ .returned true) → ∀ m ∈ s.mapping, m.memory.queueSize = 0
  opener : ∀ i, s.pc i = .returned false → ∃ j, s.pc j = .returned true

section Runs

variable {q : ι → QueueSize} {s t : State ι} {l : ι × Bool}

omit [DecidableEq ι] in
theorem published_start (q : ι → QueueSize) : Published q {} where
  mapped := nofun
  made := nofun
  stored := nofun
  empty := nofun
  opener := nofun

omit [DecidableEq ι] in
theorem Mapping.Made.usable {m : Mapping ι} (made : m.Made q) (nonzero : m.memory.queueSize ≠ 0)
    (fits : infoSize + m.memory.queueSize ≤ m.size) : Usable m where
  nonzero := nonzero
  fits := fits
  push bytes := by
    have bound : m.size < 2 ^ 32 := by
      rw [made.size]
      exact Nat.mod_lt _ (by omega)
    obtain ⟨bytes, -⟩ := bytes
    rw [made.memory]
    generalize m.memory.queueSize = n at nonzero fits
    have free : wrapping.sub n 1 = .ok (n - 1) := wrapping_sub (by omega) (by omega)
    have free' : wrapping.sub (n - 1) 0 = .ok (n - 1) := wrapping_sub (by omega) (by omega)
    by_cases full : n - 1 < bytes.length
    · simp [QueueSharedMemoryImpl.push, QueueMemory.push, QueueMemory.getFreeSize, free, free', full]
    have rest : wrapping.sub n 0 = .ok n := wrapping_sub (by omega) (by omega)
    have room : 0 + bytes.length ≤ (List.replicate (m.size - infoSize) (0 : UInt8)).length := by
      rw [List.length_replicate]
      omega
    have add : wrapping.add 0 bytes.length = .ok (0 + bytes.length) := wrapping_add (by omega)
    simp only [QueueSharedMemoryImpl.push, QueueMemory.push, QueueMemory.getFreeSize, free, free', if_neg full, rest,
      if_neg (show ¬ n < bytes.length by omega), store_eq room, add, ok_bind, pure_eq_ok]
    exact ⟨_, rfl⟩

theorem Published.step (h : Published q s) (order : InOrder q s l) (ran : s.step q l = some t) : Published q t := by
  have live := State.step_live ran
  have kept {pc : Pc} {j : ι} {create : Bool} (returned : s.pc j = .returned create) :
      Function.update s.pc l.1 pc j = .returned create := by
    have ne : j ≠ l.1 := by
      rintro rfl
      exact live create returned
    rw [Function.update_of_ne ne, returned]
  -- only `opens` and `stores` reach a point where 0 is returned
  have before {pc : Pc} (silent : ∀ create, pc ≠ .returned create) {j : ι} {create : Bool}
      (returned : Function.update s.pc l.1 pc j = .returned create) : s.pc j = .returned create := by
    by_cases same : j = l.1
    · subst same
      rw [Function.update_self] at returned
      exact absurd returned (silent create)
    · rwa [Function.update_of_ne same] at returned
  cases State.step_effect ran with
  | moves pc silent handle =>
    constructor
    · intro j has
      by_cases same : j = l.1
      · subst same
        rw [s.goto_self] at has
        rcases handle has with some | has
        · exact some
        · exact h.mapped l.1 has
      · rw [s.goto_of_ne pc same] at has
        exact h.mapped j has
    · exact h.made
    · exact fun j returned => h.stored j (before silent returned)
    · exact fun none => h.empty fun j returned => none j (kept returned)
    · intro j returned
      obtain ⟨k, stored⟩ := h.opener j (before silent returned)
      exact ⟨k, kept stored⟩
  | makes unmade =>
    constructor
    · exact fun j has => rfl
    · rintro m ⟨⟩
      exact ⟨rfl, rfl⟩
    · intro j returned
      have some := h.mapped j (by rw [before (by simp) returned]; rfl)
      rw [unmade] at some
      cases some
    · rintro - m ⟨⟩
      rfl
    · intro j returned
      obtain ⟨k, stored⟩ := h.opener j (before (by simp) returned)
      exact ⟨k, kept stored⟩
  | opens found answer =>
    constructor
    · intro j has
      by_cases same : j = l.1
      · exact h.mapped l.1 (by rw [found]; rfl)
      · rw [s.goto_of_ne _ same] at has
        exact h.mapped j has
    · exact h.made
    · intro j returned
      by_cases same : j = l.1
      · subst same
        rw [s.goto_self] at returned
        cases returned
      · rw [s.goto_of_ne _ same] at returned
        exact h.stored j returned
    · exact fun none => h.empty fun j returned => none j (kept returned)
    · intro j returned
      obtain ⟨k, stored⟩ := order.opener found answer
      exact ⟨k, kept stored⟩
  | stores created =>
    constructor
    · intro j has
      show (s.mapping.map _).isSome = true
      rw [Option.isSome_map]
      exact h.mapped l.1 (by rw [created]; rfl)
    · intro m mem
      obtain ⟨old, found, rfl⟩ := Option.map_eq_some_iff.1 mem
      obtain ⟨size, memory⟩ := h.made old found
      refine ⟨size, ?_⟩
      show ({ old.memory with queueSize := (q l.1).1 } : QueueMemory) = _
      rw [memory]
      rfl
    · intro j returned m mem
      obtain ⟨old, found, rfl⟩ := Option.map_eq_some_iff.1 mem
      refine ⟨(q l.1).2.1.ne', ?_⟩
      have fits := order.creator created old found
      rwa [← (h.made old found).size] at fits
    · intro none
      exact absurd (s.goto_self l.1 _) (none l.1)
    · exact fun j returned => ⟨l.1, s.goto_self l.1 _⟩

omit [DecidableEq ι] in
theorem Published.safe (h : Published q s) : Safe s := by
  intro i create returned
  obtain ⟨j, stored⟩ : ∃ j, s.pc j = .returned true := by
    cases create with
    | true => exact ⟨i, returned⟩
    | false => exact h.opener i returned
  obtain ⟨m, mem⟩ := Option.isSome_iff_exists.1 (h.mapped j (by rw [stored]; rfl))
  obtain ⟨nonzero, fits⟩ := h.stored j stored m mem
  exact ⟨m, mem, (h.made m mem).usable nonzero fits⟩

/-- A call that is out of order returns 0 to a process whose queue is not usable. -/
theorem Published.breaks (h : Published q s) (disorder : ¬ InOrder q s l) : ∃ t, s.step q l = some t ∧ ¬ Safe t := by
  obtain ⟨i, granted⟩ := l
  by_cases opener : s.pc i = .getSharedPoint false ∧ granted = true ∧ ∀ j, s.pc j ≠ .returned true
  · obtain ⟨found, rfl, none⟩ := opener
    refine ⟨s.goto i (.returned false), by simp [State.step, found], fun safe => ?_⟩
    obtain ⟨m, mem, usable⟩ := safe i false (s.goto_self i _)
    exact usable.nonzero (h.empty none m mem)
  by_cases creator : s.pc i = .storeQueueSize
  · refine ⟨State.goto { s with mapping := s.mapping.map (·.store (q i).1) } i (.returned true), by simp [State.step, creator],
      fun safe => disorder ⟨?_, ?_⟩⟩
    · intro found
      rw [creator] at found
      cases found
    · intro _ m mem
      obtain ⟨m', mem', usable⟩ := safe i true (s.goto_self i _)
      obtain ⟨old, found, rfl⟩ := Option.map_eq_some_iff.1 mem'
      obtain rfl : m = old := Option.some.inj (mem.symm.trans found)
      rw [← (h.made m mem).size]
      exact usable.fits
  · refine absurd ⟨?_, fun created => absurd created creator⟩ disorder
    intro found answer
    by_contra none
    push Not at none
    exact opener ⟨found, answer, none⟩

end Runs

/-- **When every process that is attached can use the queue.** In a run of `Initialize` calls by any number
of processes, the stored size is always one that is not 0 and fits the mapping, wherever a process has
returned 0, if and only if all returns from the opening branch come behind a store and all stores are of a
size that the mapping was made for. -/
theorem attached_iff_in_order (q : ι → QueueSize) (ls : List (ι × Bool)) :
    Throughout (State.step q) Safe {} ls ↔ Along (State.step q) (InOrder q) {} ls :=
  throughout_iff_along Published.step Published.safe Published.breaks (published_start q)

/-- Two processes that ask for 16 and for 8192 bytes; a page has 4096. -/
private def sizes : Fin 2 → QueueSize := ![⟨16, by decide⟩, ⟨8192, by decide⟩]

/-- The first process creates the mapping, and the second one opens it and returns. -/
private def early (i j : ι) : List (ι × Bool) := [(i, true), (i, true), (j, true), (j, true)]

/-- Both processes find no mapping, the first one makes it, and the second one stores last. -/
private def larger (i j : ι) : List (ι × Bool) :=
  [(i, true), (j, true), (i, true), (j, true), (i, true), (i, true), (j, true), (j, true)]

/-- Behind the first run the size is 0, and behind the second one it is 8192 in a mapping of 64 bytes. -/
theorem attached_out_of_order :
    ¬ Throughout (State.step sizes) Safe {} (early 0 1) ∧ ¬ Throughout (State.step sizes) Safe {} (larger 0 1) := by
  constructor
  · intro safe
    obtain ⟨m, mem, usable⟩ := safe.last (show Trace.run _ _ (early 0 1) = some _ from rfl) 1 false rfl
    cases mem
    exact usable.nonzero rfl
  · intro safe
    obtain ⟨m, mem, usable⟩ := safe.last (show Trace.run _ _ (larger 0 1) = some _ from rfl) 1 true rfl
    cases mem
    have fits : 48 + 8192 ≤ (48 + 16) % 2 ^ 32 := usable.fits
    omega

end QueueAttach

end CameraEv
