import CameraEv.Common.SyncTokens

/-!
# `SyncClear` and the tokens in flight

`ResetSemaphore` brings the counts of a queue at rest back: it posts the
producer semaphore until it is full and takes all there is of the consumer
semaphore. It does not see the tokens of calls that wait for the mutex behind
it. `Phases` is what holds while nobody's token is in its way: a reset in
progress is on its way to the ledger of an empty queue, and outside a reset the
ledger holds.
-/

namespace CameraEv

open Win32 Trace Census

namespace SyncSharedMemory

variable {ι : Type}

namespace State

variable [Fintype ι]

/-- Nothing is in the way of the step: who holds a token gets the mutex, the producer semaphore is posted
only where no producer holds a token or a slot is missing, and no consumer holds a token during the drain. -/
def Unhindered (P : Nat) (s : State ι) (l : ι × Act) : Prop :=
  l.2.Orderly ∧ s.MutexGranted l ∧ match (s.thread l.1).pc with
    | .refill (_ + 1) => census s.pcs (Pc.carries .producer) = 0 ∨ s.tokens .producer < P
    | .drain _ => census s.pcs (Pc.carries .consumer) = 0
    | _ => True

instance (P : Nat) (s : State ι) (l : ι × Act) : Decidable (s.Unhindered P l) := by
  unfold Unhindered
  cases (s.thread l.1).pc with
  | refill left => cases left <;> infer_instance
  | _ => infer_instance

/-- The account, by the place of the thread that resets. -/
structure Phases (P : Nat) (fs : List Frame) (s : State ι) : Prop where
  settled : (∀ i, (s.thread i).pc.resets = false) → Ledger P fs s
  refill : ∀ i left, (s.thread i).pc = .refill left →
    fs = [] ∧ (left = P ∨ s.tokens .producer ≤ P) ∧ P ≤ s.tokens .producer + left
  drain : ∀ i left, (s.thread i).pc = .drain left →
    fs = [] ∧ s.tokens .producer = P ∧ (s.sem .consumer).count ≤ left

section Step

variable {P size : Nat} {fs fs' : List Frame} {s t : State ι} {i : ι} {a : Act}

omit [Fintype ι] in
theorem Sound.count_le (sound : Sound size ⟨P, P⟩ fs s) (side : Side) : (s.sem side).count ≤ P := by
  have le := (s.sem side).count_le
  have max : (s.sem side).max = P := (sound.max side).trans (by cases side <;> rfl)
  omega

theorem inside_of_resets {pc : Pc} (resets : pc.resets = true) : pc.inside = true := by
  revert resets
  cases pc <;> simp [Pc.resets, Pc.inside]

/-- A thread that moves while another one resets takes a token, or none. -/
theorem Moves.beside {ap : ActivateParam} (moves : Moves ap s i a t fs fs') (granted : s.MutexGranted (i, a))
    (outside : (s.thread i).pc.inside = false) (outside' : (t.thread i).pc.inside = false) :
    fs' = fs ∧ t.tokens .producer = s.tokens .producer ∧ (t.sem .consumer).count ≤ (s.sem .consumer).count := by
  have same {before after : Pc} (goes : Goes s i t before after) (sem : t.sem = s.sem)
      (kept : before.carries .producer = after.carries .producer) :
      fs = fs ∧ t.tokens .producer = s.tokens .producer ∧ (t.sem .consumer).count ≤ (s.sem .consumer).count := by
    have producer := goes.tokens_same sem .producer
    rw [kept] at producer
    exact ⟨rfl, by omega, by rw [sem]⟩
  cases moves with
  | entered goes sem => exact same goes sem rfl
  | enteredClear _ goes sem => exact same goes sem rfl
  | @token c goes down =>
    have producer := goes.tokens_down down .producer
    cases c with
    | producer packet =>
      have kept := down.others .consumer (by simp [SyncCall.own])
      simp only [Pc.carries, SyncCall.own, decide_true, if_true, Bool.false_eq_true, if_false] at producer
      exact ⟨rfl, by omega, by rw [kept]⟩
    | consumer =>
      have less := down.count
      simp only [Pc.carries, SyncCall.own, reduceCtorEq, decide_false, Bool.false_eq_true, if_false] at producer less
      exact ⟨rfl, by omega, by omega⟩
  | noToken goes sem => exact same goes sem rfl
  | leaked lost goes => exact absurd (granted (by rw [goes.before]; rfl)) lost
  | noClear goes sem => exact same goes sem rfl
  | granted goes | grantedClear goes =>
    rw [goes.after] at outside'
    cases outside'
  | failed goes | pushed goes | taken goes | posted goes | overflow goes | gaveBack goes | notGivenBack goes
  | unlocked goes | cleared goes | refilled goes | refillEnd goes | drained goes | drainEnd goes
  | clearUnlocked goes =>
    rw [goes.before] at outside
    cases outside

/-- Another thread moves while `j` resets. -/
theorem Phases.beside {ap : ActivateParam} (phases : Phases P fs s) (ex : Exclusive s) (ex' : Exclusive t)
    (granted : s.MutexGranted (i, a)) (moves : Moves ap s i a t fs fs') (others : ∀ j, j ≠ i → t.thread j = s.thread j)
    {j : ι} (ne : j ≠ i) (resets : (s.thread j).pc.resets = true) : Phases P fs' t := by
  have same := others j ne
  have alone {u : State ι} (exu : Exclusive u) (at_j : (u.thread j).pc.resets = true) {k : ι} (other : k ≠ j) :
      (u.thread k).pc.inside = false := by
    cases h : (u.thread k).pc.inside with
    | false => rfl
    | true => exact absurd (exu.unique (inside_of_resets at_j) h) other
  have resets' : (t.thread j).pc.resets = true := by rw [same]; exact resets
  obtain ⟨rfl, producer, consumer⟩ := moves.beside granted (alone ex resets ne.symm) (alone ex' resets' ne.symm)
  have only {k : ι} (inside : (t.thread k).pc.inside = true) : k = j := by
    by_contra other
    rw [alone ex' resets' other] at inside
    cases inside
  constructor
  · intro calm
    rw [calm j] at resets'
    cases resets'
  · intro k left here
    obtain rfl := only (k := k) (by rw [here]; rfl)
    rw [producer]
    exact phases.refill k left (same ▸ here)
  · intro k left here
    obtain rfl := only (k := k) (by rw [here]; rfl)
    obtain ⟨empty, full, less⟩ := phases.drain k left (same ▸ here)
    exact ⟨empty, producer.trans full, consumer.trans less⟩

omit [Fintype ι] in
/-- A reset begins with `clearQueue`. -/
theorem Moves.starts {ap : ActivateParam} (moves : Moves ap s i a t fs fs') (outside : (s.thread i).pc.resets = false)
    (left : Nat) : (t.thread i).pc ≠ .refill left ∧ (t.thread i).pc ≠ .drain left := by
  cases moves with
  | cleared goes | refilled goes | refillEnd goes | drained goes | drainEnd goes =>
    rw [goes.before] at outside
    cases outside
  | entered goes | enteredClear _ goes | token goes | noToken goes | granted goes | leaked _ goes | grantedClear goes
  | noClear goes | failed goes | pushed goes | taken goes | posted goes | overflow goes | gaveBack goes
  | notGivenBack goes | unlocked goes | clearUnlocked goes => simp [goes.after]

/-- The reset is at the point `after`, and the other threads are elsewhere. -/
theorem Phases.of_resets {before after : Pc} (goes : Goes s i t before after)
    (calm : ∀ j, j ≠ i → (s.thread j).pc.resets = false) (settled : after.resets = false → Ledger P fs t)
    (refill : ∀ left, after = .refill left →
      fs = [] ∧ (left = P ∨ t.tokens .producer ≤ P) ∧ P ≤ t.tokens .producer + left)
    (drain : ∀ left, after = .drain left → fs = [] ∧ t.tokens .producer = P ∧ (t.sem .consumer).count ≤ left) :
    Phases P fs t := by
  have only {j : ι} (resets : (t.thread j).pc.resets = true) : j = i := by
    by_contra ne
    rw [goes.others j ne, calm j ne] at resets
    cases resets
  constructor
  · intro none
    exact settled (goes.after ▸ none i)
  · intro j left here
    obtain rfl := only (j := j) (by rw [here]; rfl)
    exact refill left (goes.after.symm.trans here)
  · intro j left here
    obtain rfl := only (j := j) (by rw [here]; rfl)
    exact drain left (goes.after.symm.trans here)

/-- A thread moves while no other one resets. -/
theorem Phases.move (phases : Phases P fs s) (one : 1 ≤ P) (sound : Sound size ⟨P, P⟩ fs s)
    (sound' : Sound size ⟨P, P⟩ fs' t) (unhindered : s.Unhindered P (i, a)) (moves : Moves ⟨P, P⟩ s i a t fs fs')
    (calm : ∀ j, j ≠ i → (s.thread j).pc.resets = false) : Phases P fs' t := by
  obtain ⟨-, granted, clear⟩ := unhindered
  by_cases outside : (s.thread i).pc.resets = false
  · have ledger : Ledger P fs s := phases.settled fun j => by
      by_cases same : j = i
      · rw [same]
        exact outside
      · exact calm j same
    have ledger' := ledger.move sound granted outside moves
    obtain ⟨before, after, goes⟩ : ∃ before after, Goes s i t before after := moves.goes
    refine .of_resets goes calm (fun _ => ledger') ?_ ?_
    · intro left here
      exact absurd (goes.after.trans here) (moves.starts outside left).1
    · intro left here
      exact absurd (goes.after.trans here) (moves.starts outside left).2
  cases moves with
  | cleared goes sem =>
    refine .of_resets goes calm (by simp [Pc.resets]) ?_ (by simp)
    rintro left ⟨⟩
    exact ⟨rfl, .inl rfl, Nat.le_add_left _ _⟩
  | @refilled left goes up =>
    obtain ⟨empty, less, enough⟩ := phases.refill i (left + 1) goes.before
    simp only [goes.before] at clear
    have producer := goes.tokens_up up .producer
    simp only [Pc.carries, if_true, Bool.false_eq_true, if_false] at producer
    have room : s.tokens .producer < P := by
      rcases clear with none | room
      · have count := sound'.count_le .producer
        rw [up.count] at count
        simp only [tokens, none]
        omega
      · exact room
    refine .of_resets goes calm (by simp [Pc.resets]) ?_ (by simp)
    rintro left' ⟨⟩
    exact ⟨empty, .inr (by omega), by omega⟩
  | @refillEnd left goes ended sem =>
    obtain ⟨empty, less, enough⟩ := phases.refill i left goes.before
    have producer := goes.tokens_same sem .producer
    simp only [Pc.carries, Bool.false_eq_true, if_false] at producer
    have count := sound'.count_le .consumer
    have full : s.tokens .producer = P := by
      cases left with
      | zero => omega
      | succ left =>
        -- the semaphore is full, so that no producer holds a token
        have top : (s.sem .producer).count = P :=
          (ended.resolve_left (by omega)).trans (sound.max .producer)
        simp only [goes.before] at clear
        simp only [tokens] at clear ⊢
        omega
    refine .of_resets goes calm (by simp [Pc.resets]) (by simp) ?_
    rintro left' ⟨⟩
    exact ⟨empty, by omega, count⟩
  | @drained left goes down =>
    obtain ⟨empty, full, less⟩ := phases.drain i (left + 1) goes.before
    have producer := goes.tokens_down down .producer
    simp only [Pc.carries, reduceCtorEq, Bool.false_eq_true, if_false] at producer
    have count := down.count
    refine .of_resets goes calm (by simp [Pc.resets]) (by simp) ?_
    rintro left' ⟨⟩
    exact ⟨empty, by omega, by omega⟩
  | @drainEnd left goes ended sem =>
    obtain ⟨empty, full, less⟩ := phases.drain i left goes.before
    have producer := goes.tokens_same sem .producer
    have consumer := goes.tokens_same sem .consumer
    simp only [Pc.carries, Bool.false_eq_true, if_false] at producer consumer
    simp only [goes.before] at clear
    have drained : (s.sem .consumer).count = 0 := by omega
    have none : s.tokens .consumer = 0 := by simp only [tokens, drained, clear]
    refine .of_resets goes calm (fun _ => ?_) (by simp) (by simp)
    subst empty
    constructor <;> rw [List.length_nil] <;> omega
  | entered goes | enteredClear _ goes | token goes | noToken goes | granted goes | leaked _ goes | grantedClear goes
  | noClear goes | failed goes | pushed goes | taken goes | posted goes | overflow goes | gaveBack goes
  | notGivenBack goes | unlocked goes | clearUnlocked goes => exact absurd (by rw [goes.before]; rfl) outside

end Step

end State

open State

variable [DecidableEq ι] [Fintype ι]

/-- **`SyncClear` restores the account** in every run in which no token is in its way: from any state
that is reached by any calls, with some thread at its `m_queue->Clear()`, every later state at rest has one
count for every frame and one for every free slot. -/
theorem clear_restores {P size : Nat} (one : 1 ≤ P) (pos : 1 ≤ size) (hs : size < 2 ^ 32)
    {packetBuffer : ι → List UInt8} (room : ∀ i, 8 ≤ (packetBuffer i).length) {before after : List (ι × Act)}
    {s t : State ι} {i : ι}
    (history : Along (State.step ⟨P, P⟩) (fun _ l => l.2.Orderly) (fresh ⟨P, P⟩ size packetBuffer) before)
    (reached : run (State.step ⟨P, P⟩) (fresh ⟨P, P⟩ size packetBuffer) before = some s)
    (clearing : (s.thread i).pc = .clearQueue) (allowed : Along (State.step ⟨P, P⟩) (State.Unhindered P) s after)
    (ran : run (State.step ⟨P, P⟩) s after = some t) (rest : ∀ j, (t.thread j).pc = .idle) :
    ∃ fs : List Frame, t.queue.Holds size (flat fs) ∧ (t.sem .consumer).count = fs.length ∧
      (t.sem .producer).count + fs.length = P := by
  let Safe (fs : List Frame) (s : State ι) : Prop := Sound size ⟨P, P⟩ fs s ∧ Exclusive s ∧ s.mutex ≠ .free true
  have safe {fs : List Frame} {s t : State ι} {l : ι × Act} (inv : Safe fs s) (orderly : l.2.Orderly)
      (h : s.step ⟨P, P⟩ l = some t) : ∃ fs', Safe fs' t ∧ Moves ⟨P, P⟩ s l.1 l.2 t fs fs' := by
    obtain ⟨sound, ex, kept⟩ := inv
    obtain ⟨fs', sound', moves⟩ := sound.step hs orderly h
    exact ⟨fs', ⟨sound', ex.step_alive kept h (sound'.alive l.1)⟩, moves⟩
  have start : ∃ fs, Safe fs (fresh ⟨P, P⟩ size packetBuffer) :=
    ⟨[], sound_fresh ⟨P, P⟩ pos room, exclusive_fresh ⟨P, P⟩ size packetBuffer, by simp [fresh]⟩
  have safe_step {s t : State ι} {l : ι × Act} (inv : ∃ fs, Safe fs s) (orderly : l.2.Orderly)
      (h : s.step ⟨P, P⟩ l = some t) : ∃ fs, Safe fs t := by
    obtain ⟨fs, inv⟩ := inv
    obtain ⟨fs', inv', -⟩ := safe inv orderly h
    exact ⟨fs', inv'⟩
  obtain ⟨fs, inv⟩ := run_invariant safe_step start history reached
  have cleared : Phases P fs s := by
    have only {j : ι} (inside : (s.thread j).pc.inside = true) : j = i :=
      inv.2.1.unique (by rw [clearing]; rfl) inside
    constructor
    · intro none
      have no := none i
      rw [clearing] at no
      cases no
    · intro j left here
      obtain rfl := only (j := j) (by rw [here]; rfl)
      rw [clearing] at here
      cases here
    · intro j left here
      obtain rfl := only (j := j) (by rw [here]; rfl)
      rw [clearing] at here
      cases here
  have preserved {s t : State ι} {l : ι × Act} (inv : ∃ fs, Safe fs s ∧ Phases P fs s) (ok : s.Unhindered P l)
      (h : s.step ⟨P, P⟩ l = some t) : ∃ fs, Safe fs t ∧ Phases P fs t := by
    obtain ⟨fs, inv, phases⟩ := inv
    obtain ⟨fs', inv', moves⟩ := safe inv ok.1 h
    refine ⟨fs', inv', ?_⟩
    by_cases other : ∃ j, j ≠ l.1 ∧ (s.thread j).pc.resets = true
    · obtain ⟨j, ne, resets⟩ := other
      exact phases.beside inv.2.1 inv'.2.1 ok.2.1 moves (fun j ne => step_thread_of_ne h ne) ne resets
    · refine phases.move one inv.1 inv'.1 ok moves fun j ne => ?_
      cases h : (s.thread j).pc.resets with
      | false => rfl
      | true => exact absurd ⟨j, ne, h⟩ other
  obtain ⟨fs, inv, phases⟩ := run_invariant preserved ⟨fs, inv, cleared⟩ allowed ran
  have ledger := phases.settled fun j => by rw [rest j]; rfl
  have none (side : Side) : census t.pcs (Pc.carries side) = 0 :=
    census_eq_zero.2 fun j => by simp only [pcs, rest j]; rfl
  have slots := ledger.slots
  have frames := ledger.frames
  simp only [tokens, none, Nat.add_zero] at slots frames
  exact ⟨fs, inv.1.stored, frames, slots⟩

private def intoClear (i j : ι) : List (ι × Act) :=
  [(i, .syncProducer Frame.shortest.buffer), (j, .syncClear), (j, .wait .signaled)]

/-- A producer waits for its token while another process clears, and sends after it. -/
private def clearThenSend (i j : ι) : List (ι × Act) :=
  [(j, .run), (j, .run), (j, .run), (i, .wait .signaled), (j, .run), (i, .wait .signaled), (i, .run), (i, .run),
    (i, .run)]

theorem clear_restores_then_send : ∃ s t fs,
    run (State.step ⟨1, 1⟩) (fresh ⟨1, 1⟩ 16 fun _ : Fin 2 => List.replicate 8 0) (intoClear 0 1) = some s ∧
      run (State.step ⟨1, 1⟩) s (clearThenSend 0 1) = some t ∧ t.queue.Holds 16 (flat fs) ∧
      (t.sem .consumer).count = fs.length ∧ (t.sem .producer).count + fs.length = 1 := by
  obtain ⟨s, t, reached, clearing, history, allowed, ran, rest⟩ : ∃ s t,
      run (State.step ⟨1, 1⟩) (fresh ⟨1, 1⟩ 16 fun _ : Fin 2 => List.replicate 8 0) (intoClear 0 1) = some s ∧
        (s.thread 1).pc = .clearQueue ∧
        Along (State.step ⟨1, 1⟩) (fun _ l => l.2.Orderly) (fresh ⟨1, 1⟩ 16 fun _ : Fin 2 => List.replicate 8 0)
          (intoClear 0 1) ∧
        Along (State.step ⟨1, 1⟩) (State.Unhindered 1) s (clearThenSend 0 1) ∧
        run (State.step ⟨1, 1⟩) s (clearThenSend 0 1) = some t ∧ ∀ j, (t.thread j).pc = .idle :=
    ⟨_, _, rfl, rfl, by decide, by decide, rfl, by decide⟩
  obtain ⟨fs, stored, consumer, producer⟩ :=
    clear_restores (by decide) (by decide) (by decide) (by decide) history reached clearing allowed ran rest
  exact ⟨s, t, fs, reached, ran, stored, consumer, producer⟩

/-- A producer has its token and waits for the mutex while another process clears: there is a second slot. -/
theorem clear_restores_in_flight : ∃ t,
    run (State.step ⟨1, 1⟩) (fresh ⟨1, 1⟩ 16 fun _ : Fin 2 => List.replicate 8 0)
      [(0, .syncProducer ⟨Frame.shortest.1, by decide⟩), (0, .wait .signaled), (1, .syncClear), (1, .wait .signaled),
        (1, .run), (1, .run), (1, .run), (1, .run), (1, .run), (0, .wait .signaled), (0, .run), (0, .run),
        (0, .run)] = some t ∧
      (∀ i, (t.thread i).pc = .idle) ∧ t.queue.Holds 16 (flat [Frame.shortest]) ∧
      (t.sem .producer).count + [Frame.shortest].length ≠ 1 := by
  refine ⟨_, rfl, by decide, ?_, by decide⟩
  constructor <;> decide

end SyncSharedMemory

end CameraEv
