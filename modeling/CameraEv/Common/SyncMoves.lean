import CameraEv.Common.SyncExclusion

/-!
# The shared queue as a list of frames

`Sound` says what no step breaks while only whole frames are pushed and no
thread dies: the queue's bytes are a list of frames, and every thread can run
its callback. `Moves` lists what a step can then do to a thread's place, to the
semaphores and to that list. The protocol's invariants are proved from `Moves`
and never look at a callback again.
-/

namespace CameraEv

open Win32 Exec

namespace SyncSharedMemory

/-- The call that a thread is in, `SyncClear` excepted. -/
def Pc.call : Pc → Option SyncCall
  | waitSemaphore c | waitMutex c | callback c | post c | giveBack c | unlock c _ => some c
  | _ => none

/-- The points of `SyncClear`. -/
def Pc.clears : Pc → Bool
  | clearWaitMutex | clearQueue | refill _ | drain _ | clearUnlock => true
  | _ => false

/-- Producers push whole frames, and no thread dies. -/
def Act.Orderly : Act → Prop
  | syncProducer packet => IsFrame packet.1
  | die => False
  | _ => True

instance (a : Act) : Decidable a.Orderly := by
  cases a <;> unfold Act.Orderly <;> infer_instance

variable {ι : Type}

namespace State

/-- The queue holds the frames `fs`, and every thread's next callback can run. -/
structure Sound (size : Nat) (ap : ActivateParam) (fs : List Frame) (s : State ι) : Prop where
  stored : s.queue.Holds size (flat fs)
  room : ∀ i, 8 ≤ (s.thread i).handle.packetBuffer.length
  framed : ∀ i packet, (s.thread i).pc.call = some (.producer packet) → IsFrame packet.1
  alive : ∀ i, (s.thread i).pc ≠ .dead
  max : ∀ side, (s.sem side).max = ap.count side

/-- Thread `i` goes from one point to another, and the others stay. -/
structure Goes (s : State ι) (i : ι) (t : State ι) (before after : Pc) : Prop where
  before : (s.thread i).pc = before
  after : (t.thread i).pc = after
  others : ∀ j, j ≠ i → t.thread j = s.thread j

/-- One semaphore is counted up. -/
structure Up (s t : State ι) (side : Side) : Prop where
  count : (t.sem side).count = (s.sem side).count + 1
  others : ∀ o, o ≠ side → t.sem o = s.sem o

/-- One semaphore is counted down. -/
structure Down (s t : State ι) (side : Side) : Prop where
  count : (t.sem side).count + 1 = (s.sem side).count
  others : ∀ o, o ≠ side → t.sem o = s.sem o

/-- What the step `a` of thread `i` from `s` to `t` does; the last argument is the frames after it. -/
inductive Moves (ap : ActivateParam) (s : State ι) (i : ι) (a : Act) (t : State ι) (fs : List Frame) :
    List Frame → Prop
  | entered {c} (goes : Goes s i t .idle (.waitSemaphore c)) (sem : t.sem = s.sem) : Moves ap s i a t fs fs
  | enteredClear (clear : a = .syncClear) (goes : Goes s i t .idle .clearWaitMutex) (sem : t.sem = s.sem) :
      Moves ap s i a t fs fs
  | token {c} (goes : Goes s i t (.waitSemaphore c) (.waitMutex c)) (sem : Down s t c.own) : Moves ap s i a t fs fs
  | noToken {c} (goes : Goes s i t (.waitSemaphore c) .idle) (sem : t.sem = s.sem) : Moves ap s i a t fs fs
  | granted {c} (goes : Goes s i t (.waitMutex c) (.callback c)) (sem : t.sem = s.sem) : Moves ap s i a t fs fs
  | leaked {c} (lost : a ≠ .wait .signaled) (goes : Goes s i t (.waitMutex c) .idle) (sem : t.sem = s.sem) :
      Moves ap s i a t fs fs
  | grantedClear (goes : Goes s i t .clearWaitMutex .clearQueue) (sem : t.sem = s.sem) : Moves ap s i a t fs fs
  | noClear (goes : Goes s i t .clearWaitMutex .idle) (sem : t.sem = s.sem) : Moves ap s i a t fs fs
  | failed {c} (goes : Goes s i t (.callback c) (.giveBack c)) (sem : t.sem = s.sem) : Moves ap s i a t fs fs
  | pushed {f : Frame} {packet} (goes : Goes s i t (.callback (.producer packet)) (.post (.producer packet)))
      (frame : packet.1 = f.1) (sem : t.sem = s.sem) : Moves ap s i a t fs (fs ++ [f])
  | taken {f fs'} (goes : Goes s i t (.callback .consumer) (.post .consumer)) (first : fs = f :: fs')
      (packet : RecvWorkerSyncQueue.packet (t.thread i).handle = f.1) (sem : t.sem = s.sem) : Moves ap s i a t fs fs'
  | posted {c} (goes : Goes s i t (.post c) (.unlock c 0)) (sem : Up s t c.other) : Moves ap s i a t fs fs
  | overflow {c} (goes : Goes s i t (.post c) (.unlock c 0)) (full : (s.sem c.other).count = (s.sem c.other).max)
      (sem : t.sem = s.sem) : Moves ap s i a t fs fs
  | gaveBack {c} (goes : Goes s i t (.giveBack c) (.unlock c FailedCode.userFuncFailed)) (sem : Up s t c.own) :
      Moves ap s i a t fs fs
  | notGivenBack {c} (goes : Goes s i t (.giveBack c) (.unlock c FailedCode.userFuncFailed))
      (full : (s.sem c.own).count = (s.sem c.own).max) (sem : t.sem = s.sem) : Moves ap s i a t fs fs
  | unlocked {c ret} (goes : Goes s i t (.unlock c ret) .idle) (sem : t.sem = s.sem) : Moves ap s i a t fs fs
  | cleared (goes : Goes s i t .clearQueue (.refill ap.producerCount)) (sem : t.sem = s.sem) : Moves ap s i a t fs []
  | refilled {left} (goes : Goes s i t (.refill (left + 1)) (.refill left)) (sem : Up s t .producer) :
      Moves ap s i a t fs fs
  | refillEnd {left} (goes : Goes s i t (.refill left) (.drain ap.consumerCount))
      (ended : left = 0 ∨ (s.sem .producer).count = (s.sem .producer).max) (sem : t.sem = s.sem) : Moves ap s i a t fs fs
  | drained {left} (goes : Goes s i t (.drain (left + 1)) (.drain left)) (sem : Down s t .consumer) :
      Moves ap s i a t fs fs
  | drainEnd {left} (goes : Goes s i t (.drain left) .clearUnlock) (ended : left = 0 ∨ (s.sem .consumer).count = 0)
      (sem : t.sem = s.sem) : Moves ap s i a t fs fs
  | clearUnlocked (goes : Goes s i t .clearUnlock .idle) (sem : t.sem = s.sem) : Moves ap s i a t fs fs

/-- What a thread's move must keep for the state to stay sound. -/
theorem Sound.of_goes {size : Nat} {ap : ActivateParam} {fs fs' : List Frame} {s t : State ι} (sound : Sound size ap fs s) {i : ι}
    {before after : Pc} (goes : Goes s i t before after) (stored : t.queue.Holds size (flat fs'))
    (room : 8 ≤ (t.thread i).handle.packetBuffer.length)
    (framed : ∀ packet, after.call = some (.producer packet) → IsFrame packet.1) (alive : after ≠ .dead)
    (max : ∀ side, (t.sem side).max = (s.sem side).max) : Sound size ap fs' t where
  stored := stored
  room j := by
    by_cases same : j = i
    · rw [same]
      exact room
    · rw [goes.others j same]
      exact sound.room j
  framed j packet h := by
    by_cases same : j = i
    · rw [same, goes.after] at h
      exact framed packet h
    · rw [goes.others j same] at h
      exact sound.framed j packet h
  alive j := by
    by_cases same : j = i
    · rw [same, goes.after]
      exact alive
    · rw [goes.others j same]
      exact sound.alive j
  max side := (max side).trans (sound.max side)

/-- A call goes on with the packet it was made with. -/
theorem Sound.framed_call {size : Nat} {ap : ActivateParam} {fs : List Frame} {s : State ι} (sound : Sound size ap fs s) {i : ι}
    {before after : Pc} (here : (s.thread i).pc = before) (call : after.call = none ∨ after.call = before.call) :
    ∀ packet, after.call = some (.producer packet) → IsFrame packet.1 := by
  intro packet h
  rcases call with call | call
  · rw [call] at h
    cases h
  · exact sound.framed i packet (by rw [here, ← call, h])

theorem setSem_self (s : State ι) (side : Side) (x : Semaphore) : (s.setSem side x).sem side = x := by
  simp only [setSem, Function.update_self]

theorem setSem_of_ne (s : State ι) {side o : Side} (h : o ≠ side) (x : Semaphore) :
    (s.setSem side x).sem o = s.sem o := by
  simp only [setSem, Function.update_of_ne h]

theorem setSem_max (s : State ι) (side o : Side) {x : Semaphore} (h : x.max = (s.sem side).max) :
    ((s.setSem side x).sem o).max = (s.sem o).max := by
  by_cases same : o = side
  · rw [same, setSem_self, h]
  · rw [setSem_of_ne s same]

theorem up_setSem {s t : State ι} {side : Side} {x : Semaphore} (released : (s.sem side).release = .ok x)
    (sem : t.sem = (s.setSem side x).sem) : Up s t side ∧ ∀ o, (t.sem o).max = (s.sem o).max := by
  unfold Semaphore.release at released
  split at released
  · cases released
    refine ⟨⟨by rw [sem, setSem_self], fun o h => by rw [sem, setSem_of_ne s h]⟩, fun o => ?_⟩
    rw [sem]
    exact setSem_max s side o rfl
  · cases released

theorem down_setSem {s t : State ι} {side : Side} {x : Semaphore} (taken : (s.sem side).acquire = some x)
    (sem : t.sem = (s.setSem side x).sem) : Down s t side ∧ ∀ o, (t.sem o).max = (s.sem o).max := by
  obtain ⟨count, max⟩ := Semaphore.acquire_eq_some.1 taken
  refine ⟨⟨by rw [sem, setSem_self, count], fun o h => by rw [sem, setSem_of_ne s h]⟩, fun o => ?_⟩
  rw [sem]
  exact setSem_max s side o max

theorem full_of_release {x : Semaphore} {e : PostError} (h : x.release = .error e) : x.count = x.max := by
  unfold Semaphore.release at h
  split at h
  · cases h
  · have := x.count_le
    omega

theorem empty_of_acquire {x : Semaphore} (h : x.acquire = none) : x.count = 0 := by
  unfold Semaphore.acquire at h
  split at h
  · cases h
  · omega

section Step

variable [DecidableEq ι] {ap : ActivateParam} {size : Nat} {fs : List Frame} {s t : State ι} {i : ι} {a : Act}

omit [DecidableEq ι] in
/-- A move that touches neither the queue nor the thread's handle. -/
theorem Sound.move (sound : Sound size ap fs s) (others : ∀ j, j ≠ i → t.thread j = s.thread j) {before : Pc}
    (here : (s.thread i).pc = before) (after : Pc) (there : (t.thread i).pc = after)
    (handle : (t.thread i).handle = (s.thread i).handle) (call : after.call = none ∨ after.call = before.call)
    (alive : after ≠ .dead) (queue : t.queue = s.queue) (max : ∀ side, (t.sem side).max = (s.sem side).max) :
    Sound size ap fs t ∧ Goes s i t before after := by
  have goes : Goes s i t before after := ⟨here, there, others⟩
  refine ⟨sound.of_goes goes (queue ▸ sound.stored) ?_ (sound.framed_call here call) alive max, goes⟩
  rw [handle]
  exact sound.room i

theorem Sound.endMutexWait (sound : Sound size ap fs s) (others : ∀ j, j ≠ i → t.thread j = s.thread j)
    {before granted : Pc} (here : (s.thread i).pc = before) {e : WaitEvent}
    (h : s.endMutexWait i granted e = some t) (call : granted.call = none ∨ granted.call = before.call)
    (alive : granted ≠ .dead) :
    Sound size ap fs t ∧ t.sem = s.sem ∧ (Goes s i t before granted ∨ e ≠ .signaled ∧ Goes s i t before .idle) := by
  have left (lost : e ≠ .signaled) (there : (t.thread i).pc = .idle)
      (handle : (t.thread i).handle = (s.thread i).handle) (queue : t.queue = s.queue) (sem : t.sem = s.sem) :
      Sound size ap fs t ∧ t.sem = s.sem ∧ (Goes s i t before granted ∨ e ≠ .signaled ∧ Goes s i t before .idle) := by
    obtain ⟨sound', goes⟩ := sound.move others here .idle there handle (.inl rfl) (by simp) queue
      fun side => by rw [sem]
    exact ⟨sound', sem, .inr ⟨lost, goes⟩⟩
  cases e with
  | signaled =>
    simp only [State.endMutexWait] at h
    split at h <;> cases h
    obtain ⟨sound', goes⟩ := sound.move others here granted (by simp) (by simp) call alive rfl fun _ => rfl
    exact ⟨sound', rfl, .inl goes⟩
  | abandoned =>
    simp only [State.endMutexWait] at h
    split at h <;> cases h
    exact left (by simp) (by simp) (by simp) rfl rfl
  | _ =>
    cases h
    exact left (by simp) (by simp) (by simp) rfl rfl

/-- The callback under the mutex: it takes or adds one whole frame, or does nothing. -/
theorem Sound.runCallback (sound : Sound size ap fs s) (hs : size < 2 ^ 32)
    (others : ∀ j, j ≠ i → t.thread j = s.thread j) {c : SyncCall} (here : (s.thread i).pc = .callback c)
    (h : s.runStatement ap i (.callback c) = some t) : ∃ fs', Sound size ap fs' t ∧ Moves ap s i a t fs fs' := by
  have failed (called : c.callback s.queue (s.thread i).handle = .ok (false, s.queue, (s.thread i).handle)) :
      ∃ fs', Sound size ap fs' t ∧ Moves ap s i a t fs fs' := by
    rw [runStatement_callback called] at h
    obtain rfl := Option.some.inj h
    obtain ⟨sound', goes⟩ := sound.move others here (.giveBack c) (by simp) (by simp) (.inr rfl) (by simp) rfl
      fun _ => rfl
    exact ⟨fs, sound', .failed goes rfl⟩
  cases c with
  | producer packet =>
    obtain ⟨ok, queue, called, pushed, kept⟩ := callbackProducer_spec sound.stored hs (s.thread i).handle packet
    have frame : IsFrame packet.1 := sound.framed i packet (by rw [here]; rfl)
    cases ok with
    | false =>
      rw [kept rfl] at called
      exact failed called
    | true =>
      rw [runStatement_callback (c := .producer packet) called] at h
      obtain rfl := Option.some.inj h
      have stored : queue.Holds size (flat (fs ++ [⟨packet.1, frame⟩])) := by
        simpa only [flat_append, flat_cons, flat_nil, List.append_nil] using pushed rfl
      have goes : Goes s i _ (.callback (.producer packet)) (.post (.producer packet)) := ⟨here, by simp, others⟩
      refine ⟨_, sound.of_goes goes stored ?_ (sound.framed_call here (.inr rfl)) (by simp) fun _ => rfl,
        .pushed (f := ⟨packet.1, frame⟩) goes rfl rfl⟩
      simp only [setThread_self]
      exact sound.room i
  | consumer =>
    cases fs with
    | nil => exact failed (RecvWorkerSyncQueue.callbackConsumer_empty sound.stored (s.thread i).handle)
    | cons f fs' =>
      have first : s.queue.Holds size (f.1 ++ flat fs') := by simpa only [flat_cons] using sound.stored
      obtain ⟨queue, handle, called, stored, packet, room⟩ :=
        RecvWorkerSyncQueue.callbackConsumer_frame first hs (sound.room i)
      rw [runStatement_callback (c := .consumer) called] at h
      obtain rfl := Option.some.inj h
      have goes : Goes s i _ (.callback .consumer) (.post .consumer) := ⟨here, by simp, others⟩
      refine ⟨fs', sound.of_goes goes stored ?_ (sound.framed_call here (.inr rfl)) (by simp) fun _ => rfl,
        .taken goes rfl ?_ rfl⟩
      · simpa only [setThread_self] using room
      · simpa only [setThread_self] using packet

/-- The statements that are not waits. -/
theorem Sound.runStatement (sound : Sound size ap fs s) (hs : size < 2 ^ 32)
    (others : ∀ j, j ≠ i → t.thread j = s.thread j) {pc : Pc} (here : (s.thread i).pc = pc)
    (h : s.runStatement ap i pc = some t) : ∃ fs', Sound size ap fs' t ∧ Moves ap s i a t fs fs' := by
  -- a statement that only posts a semaphore, or finds that it cannot
  have goto {after : Pc} (there : t = s.goto i after) (call : after.call = none ∨ after.call = pc.call)
      (alive : after ≠ .dead) : Sound size ap fs t ∧ Goes s i t pc after :=
    sound.move others here after (by simp [there]) (by simp [there]) call alive (by rw [there]; rfl)
      fun _ => by rw [there]; rfl
  have post {after : Pc} {side : Side} {x : Semaphore} (released : (s.sem side).release = .ok x)
      (there : t = (s.goto i after).setSem side x) (call : after.call = none ∨ after.call = pc.call)
      (alive : after ≠ .dead) : Sound size ap fs t ∧ Goes s i t pc after ∧ Up s t side := by
    obtain ⟨up, max⟩ := up_setSem (t := t) released (by rw [there]; rfl)
    obtain ⟨sound', goes⟩ := sound.move others here after (by simp [there]) (by simp [there]) call alive
      (by rw [there]; rfl) max
    exact ⟨sound', goes, up⟩
  cases pc with
  | callback c => exact sound.runCallback hs others here h
  | post c =>
    simp only [State.runStatement] at h
    split at h
    · rename_i x released
      obtain ⟨sound', goes, up⟩ := post released (Option.some.inj h).symm (.inr rfl) (by simp)
      exact ⟨fs, sound', .posted goes up⟩
    · rename_i full
      obtain ⟨sound', goes⟩ := goto (Option.some.inj h).symm (.inr rfl) (by simp)
      exact ⟨fs, sound', .overflow goes (full_of_release full) (by cases h; rfl)⟩
    · rename_i other
      unfold Semaphore.release at other
      split at other <;> cases other
  | giveBack c =>
    simp only [State.runStatement] at h
    split at h
    · rename_i x released
      obtain ⟨sound', goes, up⟩ := post released (Option.some.inj h).symm (.inr rfl) (by simp)
      exact ⟨fs, sound', .gaveBack goes up⟩
    · rename_i full
      obtain ⟨sound', goes⟩ := goto (Option.some.inj h).symm (.inr rfl) (by simp)
      exact ⟨fs, sound', .notGivenBack goes (full_of_release full) (by cases h; rfl)⟩
  | unlock c ret =>
    cases h
    have sem : (s.record i ret c).sem = s.sem := record_sem s i ret c
    obtain ⟨sound', goes⟩ := sound.move others here .idle (by simp) (by simp) (.inl rfl) (by simp)
      (record_queue s i ret c) fun side => congrArg (fun f => (f side).max) sem
    exact ⟨fs, sound', .unlocked goes sem⟩
  | clearQueue =>
    obtain ⟨queue, cleared, empty⟩ := sound.stored.clear_spec
    simp only [State.runStatement, cleared] at h
    cases h
    have goes : Goes s i _ .clearQueue (.refill ap.producerCount) := ⟨here, by simp, others⟩
    refine ⟨[], sound.of_goes goes empty ?_ (sound.framed_call here (.inl rfl)) (by simp) fun _ => rfl,
      .cleared goes rfl⟩
    simp only [goto_self]
    exact sound.room i
  | refill left =>
    cases left with
    | zero =>
      obtain ⟨sound', goes⟩ := goto (Option.some.inj h).symm (.inl rfl) (by simp)
      exact ⟨fs, sound', .refillEnd goes (.inl rfl) (by cases h; rfl)⟩
    | succ left =>
      simp only [State.runStatement] at h
      split at h
      · rename_i x released
        obtain ⟨sound', goes, up⟩ := post released (Option.some.inj h).symm (.inl rfl) (by simp)
        exact ⟨fs, sound', .refilled goes up⟩
      · rename_i full
        obtain ⟨sound', goes⟩ := goto (Option.some.inj h).symm (.inl rfl) (by simp)
        exact ⟨fs, sound', .refillEnd goes (.inr (full_of_release full)) (by cases h; rfl)⟩
  | drain left =>
    cases left with
    | zero =>
      obtain ⟨sound', goes⟩ := goto (Option.some.inj h).symm (.inl rfl) (by simp)
      exact ⟨fs, sound', .drainEnd goes (.inl rfl) (by cases h; rfl)⟩
    | succ left =>
      simp only [State.runStatement] at h
      split at h
      · rename_i x taken
        cases h
        obtain ⟨down, max⟩ := down_setSem (t := (s.goto i (.drain left)).setSem .consumer x) taken rfl
        obtain ⟨sound', goes⟩ := sound.move others here (.drain left) (by simp) (by simp) (.inl rfl) (by simp) rfl max
        exact ⟨fs, sound', .drained goes down⟩
      · rename_i empty
        obtain ⟨sound', goes⟩ := goto (Option.some.inj h).symm (.inl rfl) (by simp)
        exact ⟨fs, sound', .drainEnd goes (.inr (empty_of_acquire empty)) (by cases h; rfl)⟩
  | clearUnlock =>
    cases h
    obtain ⟨sound', goes⟩ := sound.move others here .idle (by simp) (by simp) (.inl rfl) (by simp) rfl fun _ => rfl
    exact ⟨fs, sound', .clearUnlocked goes rfl⟩
  | _ => cases h

/-- While only frames are pushed and no thread dies, every step is one of the moves. -/
theorem Sound.step (sound : Sound size ap fs s) (hs : size < 2 ^ 32) (orderly : a.Orderly)
    (h : s.step ap (i, a) = some t) : ∃ fs', Sound size ap fs' t ∧ Moves ap s i a t fs fs' := by
  have others (j : ι) (ne : j ≠ i) : t.thread j = s.thread j := step_thread_of_ne h ne
  cases step_stepped h with
  | died => exact orderly.elim
  | @producer packet here =>
    have goes : Goes s i _ .idle (.waitSemaphore (.producer packet)) := ⟨here, by simp, others⟩
    refine ⟨fs, sound.of_goes goes sound.stored ?_ ?_ (by simp) fun _ => rfl, .entered goes rfl⟩
    · simp only [goto_self]
      exact sound.room i
    · intro packet same
      cases same
      exact orderly
  | consumer here =>
    have goes : Goes s i _ .idle (.waitSemaphore .consumer) := ⟨here, by simp, others⟩
    refine ⟨fs, sound.of_goes goes sound.stored ?_ ?_ (by simp) fun _ => rfl, .entered goes rfl⟩
    · simp only [goto_self]
      exact sound.room i
    · intro packet same
      cases same
  | clear here =>
    obtain ⟨sound', goes⟩ := sound.move others here .clearWaitMutex (by simp) (by simp) (.inl rfl) (by simp) rfl
      fun _ => rfl
    exact ⟨fs, sound', .enteredClear rfl goes rfl⟩
  | @token c x here taken =>
    obtain ⟨down, max⟩ := down_setSem (t := (s.goto i (.waitMutex c)).setSem c.own x) taken rfl
    obtain ⟨sound', goes⟩ := sound.move others here (.waitMutex c) (by simp) (by simp) (.inr rfl) (by simp) rfl max
    exact ⟨fs, sound', .token goes down⟩
  | noToken here =>
    obtain ⟨sound', goes⟩ := sound.move others here .idle (by simp) (by simp) (.inl rfl) (by simp) rfl fun _ => rfl
    exact ⟨fs, sound', .noToken goes rfl⟩
  | mutexWait here ended =>
    obtain ⟨sound', sem, goes | ⟨lost, goes⟩⟩ := sound.endMutexWait others here ended (.inr rfl) (by simp)
    · exact ⟨fs, sound', .granted goes sem⟩
    · exact ⟨fs, sound', .leaked (by simpa using lost) goes sem⟩
  | clearWait here ended =>
    obtain ⟨sound', sem, goes | ⟨-, goes⟩⟩ := sound.endMutexWait others here ended (.inl rfl) (by simp)
    · exact ⟨fs, sound', .grantedClear goes sem⟩
    · exact ⟨fs, sound', .noClear goes sem⟩
  | @refused c here =>
    obtain ⟨sound', goes⟩ := sound.move others here (.giveBack c) (by simp) (by simp) (.inr rfl) (by simp) rfl
      fun _ => rfl
    exact ⟨fs, sound', .failed goes rfl⟩
  | ran ran => exact sound.runStatement hs others rfl ran

end Step

/-- Every move is from one point to another. -/
theorem Moves.goes {ap : ActivateParam} {fs fs' : List Frame} {s t : State ι} {i : ι} {a : Act}
    (moves : Moves ap s i a t fs fs') : ∃ before after, Goes s i t before after := by
  cases moves with
  | entered goes | enteredClear _ goes | token goes | noToken goes | granted goes | leaked _ goes | grantedClear goes
  | noClear goes | failed goes | pushed goes | taken goes | posted goes | overflow goes | gaveBack goes
  | notGivenBack goes | unlocked goes | cleared goes | refilled goes | refillEnd goes | drained goes | drainEnd goes
  | clearUnlocked goes => exact ⟨_, _, goes⟩

/-- Without a call of `SyncClear`, no thread gets into it. -/
theorem Moves.clears {ap : ActivateParam} {fs fs' : List Frame} {s t : State ι} {i : ι} {a : Act}
    (moves : Moves ap s i a t fs fs') (quiet : a ≠ .syncClear)
    (calm : ∀ j, (s.thread j).pc.clears = false) : ∀ j, (t.thread j).pc.clears = false := by
  obtain ⟨before, after, goes, kept⟩ : ∃ before after, Goes s i t before after ∧
      (before.clears = false → after.clears = false) := by
    cases moves with
    | enteredClear clear => exact absurd clear quiet
    | entered goes | token goes | noToken goes | granted goes | leaked _ goes | grantedClear goes | noClear goes
    | failed goes | pushed goes | taken goes | posted goes | overflow goes | gaveBack goes | notGivenBack goes
    | unlocked goes | cleared goes | refilled goes | refillEnd goes | drained goes | drainEnd goes
    | clearUnlocked goes => exact ⟨_, _, goes, by simp [Pc.clears]⟩
  intro j
  by_cases same : j = i
  · rw [same, goes.after]
    exact kept (goes.before ▸ calm i)
  · rw [goes.others j same]
    exact calm j

/-- A new queue is empty. -/
theorem sound_fresh (ap : ActivateParam) {size : Nat} (pos : 1 ≤ size) {packetBuffer : ι → List UInt8} (room : ∀ i, 8 ≤ (packetBuffer i).length) :
    Sound size ap [] (fresh ap size packetBuffer) where
  stored := QueueMemory.holds_nil pos List.length_replicate
  room := room
  framed i packet h := by cases h
  alive i h := by cases h
  max side := by cases side <;> rfl

end State

end SyncSharedMemory

end CameraEv
