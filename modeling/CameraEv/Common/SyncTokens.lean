import CameraEv.Common.SyncMoves
import CameraEv.Lib.Census

/-!
# The tokens of the two semaphores

Every slot of the queue is a count of the producer semaphore, a token in the
hands of a thread, or a frame; every frame has one count of the consumer
semaphore or one token. `Ledger` is this account. A thread that has run its
callback holds a token of the other side until it posts it.
-/

namespace CameraEv

open Win32 Trace Census

namespace SyncSharedMemory

namespace Pc

/-- The thread holds a token of `side`: its own one up to the callback, then the one that it is to post. -/
def carries (side : Side) : Pc → Bool
  | waitMutex c | callback c | giveBack c => c.own = side
  | post c => c.other = side
  | _ => false

/-- A call of `side` is behind its wait for the semaphore and has not released one. -/
def between (side : Side) : Pc → Bool
  | waitMutex c | callback c | post c | giveBack c => c.own = side
  | _ => false

/-- The callback has returned true, and the semaphore is not yet released. -/
def posts : Pc → Bool
  | post _ => true
  | _ => false

/-- The thread waits for the mutex and holds a token. -/
def waitsWithToken : Pc → Bool
  | waitMutex _ => true
  | _ => false

/-- The points of `SyncClear` that change the queue or the semaphores. -/
def resets : Pc → Bool
  | clearQueue | refill _ | drain _ => true
  | _ => false

end Pc

variable {ι : Type}

namespace State

def pcs (s : State ι) (i : ι) : Pc := (s.thread i).pc

/-- A thread that waits for the mutex with a token gets it. -/
def MutexGranted (s : State ι) (l : ι × Act) : Prop :=
  (s.thread l.1).pc.waitsWithToken = true → l.2 = .wait .signaled

instance (s : State ι) (l : ι × Act) : Decidable (s.MutexGranted l) := by
  unfold MutexGranted
  infer_instance

section Goes

variable [Fintype ι] {s t : State ι} {i : ι} {before after : Pc}

/-- The counts of one semaphore, and the tokens of its side that threads hold. -/
def tokens (s : State ι) (side : Side) : Nat := (s.sem side).count + census s.pcs (Pc.carries side)

theorem Goes.census (goes : Goes s i t before after) (p : Pc → Bool) :
    census t.pcs p + (if p before then 1 else 0) = census s.pcs p + (if p after then 1 else 0) := by
  classical
  have moved : t.pcs = Function.update s.pcs i after := by
    funext j
    by_cases same : j = i
    · subst same
      simp only [pcs, goes.after, Function.update_self]
    · simp only [pcs, goes.others j same, Function.update_of_ne same]
  have here : s.pcs i = before := goes.before
  rw [moved, ← here]
  exact census_update s.pcs p i after

theorem Goes.tokens_same (goes : Goes s i t before after) (sem : t.sem = s.sem) (side : Side) :
    t.tokens side + (if before.carries side then 1 else 0) = s.tokens side + (if after.carries side then 1 else 0) := by
  have moved := goes.census (Pc.carries side)
  simp only [tokens, sem]
  omega

theorem Goes.tokens_up (goes : Goes s i t before after) {o : Side} (up : Up s t o) (side : Side) :
    t.tokens side + (if before.carries side then 1 else 0) =
      s.tokens side + (if after.carries side then 1 else 0) + (if side = o then 1 else 0) := by
  have moved := goes.census (Pc.carries side)
  simp only [tokens]
  by_cases same : side = o
  · subst same
    rw [if_pos rfl, up.count]
    omega
  · rw [if_neg same, up.others side same]
    omega

theorem Goes.tokens_down (goes : Goes s i t before after) {o : Side} (down : Down s t o) (side : Side) :
    t.tokens side + (if before.carries side then 1 else 0) + (if side = o then 1 else 0) =
      s.tokens side + (if after.carries side then 1 else 0) := by
  have moved := goes.census (Pc.carries side)
  simp only [tokens]
  by_cases same : side = o
  · subst same
    rw [if_pos rfl, ← down.count]
    omega
  · rw [if_neg same, down.others side same]
    omega

end Goes

/-! ## The ledger -/

section Ledger

variable [Fintype ι] {ap : ActivateParam} {size P : Nat} {fs fs' : List Frame} {s t : State ι} {i : ι}
  {a : Act}

/-- Every slot and every frame is accounted for. -/
structure Ledger (P : Nat) (fs : List Frame) (s : State ι) : Prop where
  slots : s.tokens .producer + fs.length = P
  frames : s.tokens .consumer = fs.length

theorem count_lt_tokens {pc : Pc} {side : Side} (here : (s.thread i).pc = pc) (carries : pc.carries side = true) :
    (s.sem side).count < s.tokens side := by
  have held : 0 < census s.pcs (Pc.carries side) := census_pos (i := i) (by simpa only [pcs, here] using carries)
  simp only [tokens]
  omega

theorem Ledger.tokens_le (ledger : Ledger P fs s) (side : Side) : s.tokens side ≤ P := by
  have slots := ledger.slots
  have frames := ledger.frames
  cases side <;> omega

/-- There is room in a semaphore for the token that a thread holds. -/
theorem Ledger.not_full (ledger : Ledger P fs s) (sound : Sound size ⟨P, P⟩ fs s) {pc : Pc} {side : Side}
    (here : (s.thread i).pc = pc) (carries : pc.carries side = true) : (s.sem side).count < (s.sem side).max := by
  have less := count_lt_tokens here carries
  have le := ledger.tokens_le side
  have max : (s.sem side).max = P := (sound.max side).trans (by cases side <;> rfl)
  omega

/-- The account is kept by every step outside a reset. -/
theorem Ledger.move (ledger : Ledger P fs s) (sound : Sound size ⟨P, P⟩ fs s) (granted : s.MutexGranted (i, a))
    (outside : (s.thread i).pc.resets = false) (moves : Moves ap s i a t fs fs') : Ledger P fs' t := by
  have slots := ledger.slots
  have frames := ledger.frames
  -- all that is left of a case is the sum of the tokens on each side
  have same {before after : Pc} (goes : Goes s i t before after) (sem : t.sem = s.sem)
      (kept : ∀ side, before.carries side = after.carries side) : Ledger P fs t := by
    have producer := goes.tokens_same sem .producer
    have consumer := goes.tokens_same sem .consumer
    rw [kept] at producer consumer
    constructor <;> omega
  have up {before after : Pc} {side : Side} (goes : Goes s i t before after) (up : Up s t side)
      (held : ∀ o, before.carries o = decide (side = o)) (empty : ∀ o, after.carries o = false) : Ledger P fs t := by
    have producer := goes.tokens_up up .producer
    have consumer := goes.tokens_up up .consumer
    cases side <;> simp [held, empty] at producer consumer <;> constructor <;> omega
  cases moves with
  | entered goes sem => exact same goes sem fun _ => rfl
  | enteredClear _ goes sem => exact same goes sem fun _ => rfl
  | @token c goes down =>
    have producer := goes.tokens_down down .producer
    have consumer := goes.tokens_down down .consumer
    cases c <;> simp [Pc.carries, SyncCall.own] at producer consumer <;> constructor <;> omega
  | noToken goes sem => exact same goes sem fun _ => rfl
  | granted goes sem => exact same goes sem fun _ => rfl
  | leaked lost goes => exact absurd (granted (by rw [goes.before]; rfl)) lost
  | grantedClear goes sem => exact same goes sem fun _ => rfl
  | noClear goes sem => exact same goes sem fun _ => rfl
  | failed goes sem => exact same goes sem fun _ => rfl
  | pushed goes _ sem =>
    have producer := goes.tokens_same sem .producer
    have consumer := goes.tokens_same sem .consumer
    simp [Pc.carries, SyncCall.own, SyncCall.other] at producer consumer
    constructor <;> rw [List.length_append, List.length_singleton] <;> omega
  | taken goes first _ sem =>
    have producer := goes.tokens_same sem .producer
    have consumer := goes.tokens_same sem .consumer
    simp [Pc.carries, SyncCall.own, SyncCall.other] at producer consumer
    rw [first, List.length_cons] at slots frames
    constructor <;> omega
  | posted goes sem => exact up goes sem (fun _ => rfl) fun _ => rfl
  | @overflow c goes full =>
    have room := ledger.not_full sound goes.before (show Pc.carries c.other (.post c) = true by simp [Pc.carries])
    omega
  | gaveBack goes sem => exact up goes sem (fun _ => rfl) fun _ => rfl
  | @notGivenBack c goes full =>
    have room := ledger.not_full sound goes.before (show Pc.carries c.own (.giveBack c) = true by simp [Pc.carries])
    omega
  | unlocked goes sem => exact same goes sem fun _ => rfl
  | clearUnlocked goes sem => exact same goes sem fun _ => rfl
  | cleared goes | refilled goes | refillEnd goes | drained goes | drainEnd goes =>
    rw [goes.before] at outside
    cases outside

theorem ledger_fresh (ap : ActivateParam) (producers : ap.producerCount = P) (packetBuffer : ι → List UInt8) :
    Ledger P [] (fresh ap size packetBuffer) := by
  have none (side : Side) : census (fresh ap size packetBuffer).pcs (Pc.carries side) = 0 :=
    census_eq_zero.2 fun _ => rfl
  constructor
  · rw [tokens, none]
    exact producers
  · rw [tokens, none]
    rfl

end Ledger

/-! ## Runs without `SyncClear` -/

section Conserved

variable [Fintype ι]

/-- What the ledger says about the semaphores, the frames and the next statement of each thread. -/
structure Conserved (P : Nat) (fs : List Frame) (s : State ι) : Prop where
  ledger : Ledger P fs s
  slots : (∀ i, (s.thread i).pc.posts = false) →
    (s.sem .producer).count + census s.pcs (Pc.between .producer) + fs.length = P
  frames : (∀ i, (s.thread i).pc.posts = false) →
    (s.sem .consumer).count + census s.pcs (Pc.between .consumer) = fs.length
  bounded : fs.length ≤ P
  posted : ∀ i c, (s.thread i).pc = .post c → ∃ x, (s.sem c.other).release = .ok x
  givenBack : ∀ i c, (s.thread i).pc = .giveBack c → ∃ x, (s.sem c.own).release = .ok x
  found : ∀ i, (s.thread i).pc = .waitMutex .consumer ∨ (s.thread i).pc = .callback .consumer →
    ∃ f rest queue handle, fs = f :: rest ∧
      RecvWorkerSyncQueue.callbackConsumer s.queue (s.thread i).handle = .ok (true, queue, handle) ∧
      RecvWorkerSyncQueue.packet handle = f.1

/-- Where no thread is about to post, a token is held exactly between the wait and the release. -/
theorem between_eq_carries {s : State ι} (still : ∀ i, (s.thread i).pc.posts = false) (side : Side) :
    census s.pcs (Pc.between side) = census s.pcs (Pc.carries side) := by
  refine congrArg Finset.card (Finset.filter_congr fun i _ => ?_)
  have here : (s.pcs i).posts = false := still i
  cases at_pc : s.pcs i <;> simp_all [Pc.between, Pc.carries, Pc.posts]

theorem Ledger.conserved {size P : Nat} {fs : List Frame} {s : State ι} (ledger : Ledger P fs s)
    (sound : Sound size ⟨P, P⟩ fs s) (hs : size < 2 ^ 32) : Conserved P fs s where
  ledger := ledger
  slots still := by
    rw [between_eq_carries still]
    exact ledger.slots
  frames still := by
    rw [between_eq_carries still]
    exact ledger.frames
  bounded := by
    have slots := ledger.slots
    omega
  posted i c here := by
    have room := ledger.not_full sound here (show Pc.carries c.other (.post c) = true by simp [Pc.carries])
    obtain ⟨x, released, -⟩ := Semaphore.release_of_lt room
    exact ⟨x, released⟩
  givenBack i c here := by
    have room := ledger.not_full sound here (show Pc.carries c.own (.giveBack c) = true by simp [Pc.carries])
    obtain ⟨x, released, -⟩ := Semaphore.release_of_lt room
    exact ⟨x, released⟩
  found i here := by
    have held : (s.sem .consumer).count < s.tokens .consumer := by
      rcases here with here | here <;> exact count_lt_tokens here (by decide)
    have frames := ledger.frames
    cases fs with
    | nil =>
      rw [List.length_nil] at frames
      omega
    | cons f rest =>
      have first : s.queue.Holds size (f.1 ++ flat rest) := by simpa only [flat_cons] using sound.stored
      obtain ⟨queue, handle, called, -, packet, -⟩ :=
        RecvWorkerSyncQueue.callbackConsumer_frame first hs (sound.room i)
      exact ⟨f, rest, queue, handle, rfl, called, packet⟩

end Conserved

/-- Frames only, no thread dies, no `SyncClear`, and every wait for the mutex gets it. -/
def Undisturbed (s : State ι) (l : ι × Act) : Prop :=
  l.2.Orderly ∧ l.2 ≠ .syncClear ∧ s.MutexGranted l

instance (s : State ι) (l : ι × Act) : Decidable (s.Undisturbed l) := by
  unfold Undisturbed
  infer_instance

end State

open State

variable [DecidableEq ι] [Fintype ι]

/-- **Tokens are conserved** in every state that is reached without `SyncClear` while waits for the
mutex succeed. -/
theorem tokens_conserved {P size : Nat} (pos : 1 ≤ size) (hs : size < 2 ^ 32) {packetBuffer : ι → List UInt8}
    (room : ∀ i, 8 ≤ (packetBuffer i).length) {ls : List (ι × Act)} {t : State ι}
    (allowed : Along (State.step ⟨P, P⟩) State.Undisturbed (fresh ⟨P, P⟩ size packetBuffer) ls)
    (ran : run (State.step ⟨P, P⟩) (fresh ⟨P, P⟩ size packetBuffer) ls = some t) :
    ∃ fs : List Frame, t.queue.Holds size (flat fs) ∧ Conserved P fs t := by
  let Inv (s : State ι) : Prop := ∃ fs, Sound size ⟨P, P⟩ fs s ∧ Ledger P fs s ∧ ∀ i, (s.thread i).pc.clears = false
  have start : Inv (fresh ⟨P, P⟩ size packetBuffer) :=
    ⟨[], sound_fresh ⟨P, P⟩ pos room, ledger_fresh ⟨P, P⟩ rfl packetBuffer, fun _ => rfl⟩
  have preserved {s t : State ι} {l : ι × Act} (inv : Inv s) (ok : s.Undisturbed l)
      (h : s.step ⟨P, P⟩ l = some t) : Inv t := by
    obtain ⟨fs, sound, ledger, calm⟩ := inv
    obtain ⟨orderly, quiet, granted⟩ := ok
    obtain ⟨fs', sound', moves⟩ := sound.step hs orderly h
    have outside : (s.thread l.1).pc.resets = false := by
      have calm := calm l.1
      revert calm
      cases (s.thread l.1).pc <;> simp [Pc.clears, Pc.resets]
    exact ⟨fs', sound', ledger.move sound granted outside moves, moves.clears quiet calm⟩
  obtain ⟨fs, sound, ledger, -⟩ := run_invariant preserved start allowed ran
  exact ⟨fs, sound.stored, ledger.conserved sound hs⟩

/-- A producer's call and a consumer's call, one behind the other. -/
private def pushThenTake (i j : ι) : List (ι × Act) :=
  [(i, .syncProducer Frame.shortest.buffer), (i, .wait .signaled), (i, .wait .signaled), (i, .run), (i, .run),
    (i, .run), (j, .syncConsumer), (j, .wait .signaled), (j, .wait .signaled), (j, .run), (j, .run), (j, .run)]

theorem tokens_conserved_push_take :
    ∃ t, run (State.step ⟨1, 1⟩) (fresh ⟨1, 1⟩ 16 fun _ : Fin 2 => List.replicate 8 0) (pushThenTake 0 1) = some t ∧
      ∃ fs : List Frame, t.queue.Holds 16 (flat fs) ∧ Conserved 1 fs t := by
  have allowed : Along (State.step ⟨1, 1⟩) State.Undisturbed
      (fresh ⟨1, 1⟩ 16 fun _ : Fin 2 => List.replicate 8 0) (pushThenTake 0 1) := by decide
  exact ⟨_, rfl, tokens_conserved (by decide) (by decide) (by decide) allowed rfl⟩

/-- Between its push and its `ReleaseSemaphore` a producer is counted twice: its frame is in the queue. -/
theorem tokens_conserved_at_post :
    ∃ t, run (State.step ⟨1, 1⟩) (fresh ⟨1, 1⟩ 16 fun _ : Fin 2 => List.replicate 8 0) ((pushThenTake 0 1).take 4) = some t ∧
      t.queue.Holds 16 (flat [Frame.shortest]) ∧
      (t.sem .producer).count + census t.pcs (Pc.between .producer) + 1 ≠ 1 ∧
      (t.sem .consumer).count + census t.pcs (Pc.between .consumer) ≠ 1 := by
  refine ⟨_, rfl, ?_, by decide, by decide⟩
  constructor <;> decide

end SyncSharedMemory

end CameraEv
