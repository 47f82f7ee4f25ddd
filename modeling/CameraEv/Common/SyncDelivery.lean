import CameraEv.Common.SyncMoves

/-!
# Frames are delivered exactly once and in order

A packet that was pushed is in the queue before its call returns, and a packet
that was popped has left it before. Between the two the thread that owns the
mutex has it in hand (`sending`, `taking`). Up to what is in hand, the packets
sent are the packets delivered and behind them the frames in the queue.
-/

namespace CameraEv

open Win32 Trace

namespace SyncSharedMemory

/-- A callback has returned true, and the call has not yet completed. -/
def Pc.hands : Pc → Bool
  | post _ | unlock _ 0 => true
  | _ => false

namespace Thread

/-- The packet that is in the queue while its producer has not returned 0 yet. -/
def sending (u : Thread) : List (List UInt8) := match u.pc with
  | .post (.producer packet) | .unlock (.producer packet) 0 => [packet.1]
  | _ => []

/-- The packet that has left the queue while its consumer has not returned 0 yet. -/
def taking (u : Thread) : List (List UInt8) := match u.pc with
  | .post .consumer | .unlock .consumer 0 => [RecvWorkerSyncQueue.packet u.handle]
  | _ => []

theorem sending_none {u : Thread} (none : u.pc.hands = false) : u.sending = [] := by
  unfold sending
  split <;> simp_all [Pc.hands]

theorem taking_none {u : Thread} (none : u.pc.hands = false) : u.taking = [] := by
  unfold taking
  split <;> simp_all [Pc.hands]

theorem hands_outside {u : Thread} (outside : u.pc.inside = false) : u.pc.hands = false := by
  revert outside
  cases u.pc <;> simp [Pc.inside, Pc.hands]

end Thread

variable {ι : Type}

namespace State

/-- What the owner of the mutex has in hand. -/
def held (f : Thread → List (List UInt8)) (s : State ι) : List (List UInt8) := match s.mutex with
  | .free _ => []
  | .owned i _ => f (s.thread i)

/-- Nothing that was sent is lost, doubled or overtaken. -/
def Accounted (fs : List Frame) (s : State ι) : Prop :=
  s.sent ++ s.held Thread.sending = s.delivered ++ s.held Thread.taking ++ fs.map Subtype.val

section Held

variable {s t : State ι} {i : ι} {before after : Pc} {f : Thread → List (List UInt8)}

theorem Exclusive.held_eq (ex : Exclusive s) (inside : (s.thread i).pc.inside = true) : s.held f = f (s.thread i) := by
  simp only [held, ex.inside inside]

/-- In the hands of others nothing changes, and where a thread is inside the others have nothing. -/
theorem Exclusive.held_moved [DecidableEq ι] (ex : Exclusive s) (ex' : Exclusive t) (goes : Goes s i t before after)
    (outside : ∀ u : Thread, u.pc.inside = false → f u = []) :
    ∃ rest, s.held f = f (s.thread i) ++ rest ∧ t.held f = f (t.thread i) ++ rest ∧
      ((before.inside = true ∨ after.inside = true) → rest = []) := by
  have unchanged {j : ι} (ne : j ≠ i) : t.thread j = s.thread j := goes.others j ne
  by_cases other : ∃ j, j ≠ i ∧ (s.thread j).pc.inside = true
  · obtain ⟨j, ne, inside⟩ := other
    have inside' : (t.thread j).pc.inside = true := by rw [unchanged ne]; exact inside
    have out : before.inside = false := by
      cases h : before.inside with
      | false => rfl
      | true => exact absurd (ex.unique inside (by rw [goes.before, h])).symm ne
    have out' : after.inside = false := by
      cases h : after.inside with
      | false => rfl
      | true => exact absurd (ex'.unique inside' (by rw [goes.after, h])).symm ne
    refine ⟨f (s.thread j), ?_, ?_, by simp [out, out']⟩
    · rw [ex.held_eq inside, outside (s.thread i) (by rw [goes.before, out]), List.nil_append]
    · rw [ex'.held_eq inside', unchanged ne, outside (t.thread i) (by rw [goes.after, out']), List.nil_append]
  · have alone {u : State ι} (exu : Exclusive u) (none : ∀ j, j ≠ i → (u.thread j).pc.inside = false) :
        u.held f = f (u.thread i) := by
      cases owned : u.mutex with
      | free abandoned =>
        have out : (u.thread i).pc.inside = false := by
          cases h : (u.thread i).pc.inside with
          | false => rfl
          | true =>
            rw [exu.inside h] at owned
            cases owned
        simp only [held, owned, outside _ out]
      | owned j recursion =>
        have inside := (exu.owner owned).2
        by_cases same : j = i
        · rw [← same, exu.held_eq inside]
        · rw [none j same] at inside
          cases inside
    have none (j : ι) (ne : j ≠ i) : (s.thread j).pc.inside = false := by
      cases h : (s.thread j).pc.inside with
      | false => rfl
      | true => exact absurd ⟨j, ne, h⟩ other
    refine ⟨[], ?_, ?_, fun _ => rfl⟩
    · rw [alone ex none, List.append_nil]
    · rw [alone ex' fun j ne => by rw [unchanged ne]; exact none j ne, List.append_nil]

end Held

section Step

variable [DecidableEq ι] {ap : ActivateParam} {size : Nat} {fs fs' : List Frame} {s t : State ι} {i : ι} {a : Act}

theorem endMutexWait_kept {granted : Pc} {e : WaitEvent} (h : s.endMutexWait i granted e = some t) :
    t.sent = s.sent ∧ t.delivered = s.delivered ∧ (t.thread i).handle = (s.thread i).handle := by
  cases e <;> simp only [endMutexWait] at h
  case signaled | abandoned =>
    split at h <;> cases h
    exact ⟨rfl, rfl, by simp⟩
  all_goals
    cases h
    exact ⟨rfl, rfl, by simp⟩

/-- Only `ReleaseMutex` completes a call, and only a callback writes to the thread's buffer. -/
theorem step_kept (h : s.step ap (i, a) = some t) :
    ((∀ c ret, (s.thread i).pc ≠ .unlock c ret) → t.sent = s.sent ∧ t.delivered = s.delivered) ∧
      ((∀ c, (s.thread i).pc ≠ .callback c) → (t.thread i).handle = (s.thread i).handle) := by
  cases step_stepped h with
  | mutexWait _ ended | clearWait _ ended =>
    obtain ⟨sent, delivered, handle⟩ := endMutexWait_kept ended
    exact ⟨fun _ => ⟨sent, delivered⟩, fun _ => handle⟩
  | died => exact ⟨fun _ => ⟨rfl, rfl⟩, fun _ => by simp [kill]⟩
  | ran ran =>
    generalize (s.thread i).pc = pc at ran ⊢
    cases pc with
    | callback c =>
      refine ⟨fun _ => ?_, fun other => absurd rfl (other c)⟩
      simp only [runStatement] at ran
      split at ran <;> cases ran <;> exact ⟨rfl, rfl⟩
    | unlock c ret =>
      cases ran
      exact ⟨fun other => absurd rfl (other c ret), fun _ => by simp⟩
    | post c | giveBack c | clearQueue =>
      simp only [runStatement] at ran
      split at ran <;> cases ran <;> exact ⟨fun _ => ⟨rfl, rfl⟩, fun _ => by simp [kill]⟩
    | refill left | drain left =>
      cases left with
      | zero =>
        cases ran
        exact ⟨fun _ => ⟨rfl, rfl⟩, fun _ => by simp⟩
      | succ left =>
        simp only [runStatement] at ran
        split at ran <;> cases ran <;> exact ⟨fun _ => ⟨rfl, rfl⟩, fun _ => by simp⟩
    | clearUnlock =>
      cases ran
      exact ⟨fun _ => ⟨rfl, rfl⟩, fun _ => by simp⟩
    | _ => cases ran
  | _ => exact ⟨fun _ => ⟨rfl, rfl⟩, fun _ => by simp⟩

/-- A step at `ReleaseMutex` completes the call. -/
theorem step_unlock (h : s.step ap (i, a) = some t) (orderly : a.Orderly) {c : SyncCall} {ret : Nat}
    (here : (s.thread i).pc = .unlock c ret) :
    t.sent = (s.record i ret c).sent ∧ t.delivered = (s.record i ret c).delivered := by
  cases step_stepped h with
  | died => exact orderly.elim
  | ran ran =>
    rw [here] at ran
    cases ran
    exact ⟨rfl, rfl⟩
  | producer idle | consumer idle | clear idle | token idle | noToken idle | mutexWait idle | clearWait idle
  | refused idle =>
    rw [here] at idle
    cases idle

/-- One call's effect on the account: what its thread has in hand before and after, the logs and the frames. -/
theorem Accounted.move (accounted : Accounted fs s) (ex : Exclusive s) (ex' : Exclusive t) (orderly : a.Orderly)
    (calm : (s.thread i).pc.clears = false) (h : s.step ap (i, a) = some t) (moves : Moves ap s i a t fs fs') :
    Accounted fs' t := by
  unfold Accounted at accounted ⊢
  obtain ⟨logs, handle⟩ := step_kept h
  -- the account in terms of the moving thread
  have account {before after : Pc} (goes : Goes s i t before after) :
      ∃ sending taking, s.held Thread.sending = (s.thread i).sending ++ sending ∧
        t.held Thread.sending = (t.thread i).sending ++ sending ∧
        s.held Thread.taking = (s.thread i).taking ++ taking ∧ t.held Thread.taking = (t.thread i).taking ++ taking ∧
        ((before.inside = true ∨ after.inside = true) → sending = [] ∧ taking = []) := by
    obtain ⟨sending, hs, ht, out⟩ := ex.held_moved ex' goes fun _ out => Thread.sending_none (Thread.hands_outside out)
    obtain ⟨taking, hs', ht', out'⟩ := ex.held_moved ex' goes fun _ out => Thread.taking_none (Thread.hands_outside out)
    exact ⟨sending, taking, hs, ht, hs', ht', fun inside => ⟨out inside, out' inside⟩⟩
  -- a move that changes neither the logs nor the frames nor what is in hand
  have same {before after : Pc} (goes : Goes s i t before after) (quiet : ∀ c ret, before ≠ .unlock c ret)
      (sending : (t.thread i).sending = (s.thread i).sending) (taking : (t.thread i).taking = (s.thread i).taking) :
      t.sent ++ t.held Thread.sending = t.delivered ++ t.held Thread.taking ++ fs.map Subtype.val := by
    obtain ⟨sent, delivered⟩ := logs (by rw [goes.before]; exact quiet)
    obtain ⟨_, _, hs, ht, hs', ht', -⟩ := account goes
    rw [sent, delivered, ht, ht', sending, taking, ← hs, ← hs', accounted]
  have posted {c : SyncCall} (goes : Goes s i t (.post c) (.unlock c 0)) :
      t.sent ++ t.held Thread.sending = t.delivered ++ t.held Thread.taking ++ fs.map Subtype.val := by
    have kept : (t.thread i).handle = (s.thread i).handle := handle (by simp [goes.before])
    cases c <;> exact same goes (by simp) (by simp only [Thread.sending, goes.before, goes.after])
      (by simp only [Thread.taking, goes.before, goes.after, kept])
  have idles {before after : Pc} (goes : Goes s i t before after) (quiet : ∀ c ret, before ≠ .unlock c ret)
      (none : before.hands = false) (none' : after.hands = false) :
      t.sent ++ t.held Thread.sending = t.delivered ++ t.held Thread.taking ++ fs.map Subtype.val :=
    same goes quiet (by rw [Thread.sending_none, Thread.sending_none] <;> simp only [goes.before, goes.after, none, none'])
      (by rw [Thread.taking_none, Thread.taking_none] <;> simp only [goes.before, goes.after, none, none'])
  cases moves with
  | entered goes => exact idles goes (by simp) rfl rfl
  | enteredClear _ goes => exact idles goes (by simp) rfl rfl
  | token goes => exact idles goes (by simp) rfl rfl
  | noToken goes => exact idles goes (by simp) rfl rfl
  | granted goes => exact idles goes (by simp) rfl rfl
  | leaked _ goes => exact idles goes (by simp) rfl rfl
  | failed goes => exact idles goes (by simp) rfl rfl
  | gaveBack goes => exact idles goes (by simp) rfl rfl
  | notGivenBack goes => exact idles goes (by simp) rfl rfl
  | @pushed f packet goes frame =>
    obtain ⟨sent, delivered⟩ := logs (by simp [goes.before])
    obtain ⟨x, y, hs, ht, hs', ht', alone⟩ := account goes
    obtain ⟨rfl, rfl⟩ := alone (.inl rfl)
    simp only [Thread.sending, Thread.taking, goes.before, goes.after, List.append_nil] at hs ht hs' ht'
    simp only [hs, hs', List.append_nil] at accounted
    simp only [ht, ht', sent, delivered, accounted, frame, List.append_nil, List.map_append, List.map_cons, List.map_nil,
      List.append_assoc]
  | @taken f fs' goes first packet =>
    obtain ⟨sent, delivered⟩ := logs (by simp [goes.before])
    obtain ⟨x, y, hs, ht, hs', ht', alone⟩ := account goes
    obtain ⟨rfl, rfl⟩ := alone (.inl rfl)
    simp only [Thread.sending, Thread.taking, goes.before, goes.after, List.append_nil, packet] at hs ht hs' ht'
    simp only [hs, hs', List.append_nil, first, List.map_cons] at accounted
    simp only [ht, ht', sent, delivered, accounted, List.append_nil, List.append_assoc, List.singleton_append]
  | @posted c goes => exact posted goes
  | @overflow c goes => exact posted goes
  | @unlocked c ret goes =>
    obtain ⟨sent, delivered⟩ := step_unlock h orderly goes.before
    obtain ⟨x, y, hs, ht, hs', ht', alone⟩ := account goes
    obtain ⟨rfl, rfl⟩ := alone (.inl rfl)
    simp only [Thread.sending, Thread.taking, goes.after, List.append_nil] at ht ht'
    rw [hs, hs'] at accounted
    rw [sent, delivered, ht, ht']
    cases c <;> cases ret <;> simp [record, Thread.sending, Thread.taking, goes.before] at accounted ⊢ <;> exact accounted
  | grantedClear goes | noClear goes | cleared goes | refilled goes | refillEnd goes | drained goes | drainEnd goes
  | clearUnlocked goes =>
    rw [goes.before] at calm
    cases calm

end Step

/-- Frames only, no thread dies, and no `SyncClear`. -/
def Uncleared (_ : State ι) (l : ι × Act) : Prop := l.2.Orderly ∧ l.2 ≠ .syncClear

instance (s : State ι) (l : ι × Act) : Decidable (s.Uncleared l) := by
  unfold Uncleared
  infer_instance

end State

open State

variable [DecidableEq ι]

/-- **Exactly-once delivery in order**: where nobody holds the mutex, what the successful producers
sent is what the successful consumers were handed, and behind it the frames that the queue holds. -/
theorem delivered_in_order (ap : ActivateParam) {size : Nat} (pos : 1 ≤ size) (hs : size < 2 ^ 32)
    {packetBuffer : ι → List UInt8} (room : ∀ i, 8 ≤ (packetBuffer i).length) {ls : List (ι × Act)} {t : State ι}
    (allowed : Along (State.step ap) State.Uncleared (fresh ap size packetBuffer) ls)
    (ran : run (State.step ap) (fresh ap size packetBuffer) ls = some t)
    (free : ∀ i recursion, t.mutex ≠ .owned i recursion) :
    ∃ fs : List Frame, t.queue.Holds size (flat fs) ∧ t.sent = t.delivered ++ fs.map Subtype.val := by
  let Inv (s : State ι) : Prop := ∃ fs, Sound size ap fs s ∧ (Exclusive s ∧ s.mutex ≠ .free true) ∧
    (∀ i, (s.thread i).pc.clears = false) ∧ Accounted fs s
  have start : Inv (fresh ap size packetBuffer) :=
    ⟨[], sound_fresh ap pos room, ⟨exclusive_fresh ap size packetBuffer, by simp [fresh]⟩, fun _ => rfl, rfl⟩
  have preserved {s t : State ι} {l : ι × Act} (inv : Inv s) (ok : s.Uncleared l) (h : s.step ap l = some t) :
      Inv t := by
    obtain ⟨fs, sound, ⟨ex, kept⟩, calm, accounted⟩ := inv
    obtain ⟨orderly, quiet⟩ := ok
    obtain ⟨fs', sound', moves⟩ := sound.step hs orderly h
    obtain ⟨ex', kept'⟩ := ex.step_alive kept h (sound'.alive l.1)
    exact ⟨fs', sound', ⟨ex', kept'⟩, moves.clears quiet calm, accounted.move ex ex' orderly (calm l.1) h moves⟩
  obtain ⟨fs, sound, -, -, accounted⟩ := run_invariant preserved start allowed ran
  refine ⟨fs, sound.stored, ?_⟩
  cases owned : t.mutex with
  | free abandoned => simpa only [Accounted, held, owned, List.append_nil] using accounted
  | owned i recursion => exact absurd owned (free i recursion)

/-- Two producers, of which the one that called later pushes first, and a consumer in between. -/
private def twoSend (i j k : ι) : List (ι × Act) :=
  [(i, .syncProducer ⟨CPacketDefine.stx ++ [9, 0, 0, 0, 7], by decide⟩), (k, .syncProducer Frame.shortest.buffer),
    (i, .wait .signaled), (k, .wait .signaled), (k, .wait .signaled), (k, .run), (k, .run), (j, .syncConsumer),
    (j, .wait .signaled), (k, .run), (i, .wait .signaled), (i, .run), (i, .run), (i, .run), (j, .wait .signaled),
    (j, .run), (j, .run), (j, .run)]

theorem delivered_in_order_two : ∃ t fs,
    run (State.step ⟨2, 2⟩) (fresh ⟨2, 2⟩ 32 fun _ : Fin 3 => List.replicate 8 0) (twoSend 0 1 2) = some t ∧
      t.delivered = [Frame.shortest.1] ∧ t.queue.Holds 32 (flat fs) ∧
      t.sent = t.delivered ++ fs.map Subtype.val := by
  have allowed : Along (State.step ⟨2, 2⟩) State.Uncleared (fresh ⟨2, 2⟩ 32 fun _ : Fin 3 => List.replicate 8 0)
      (twoSend 0 1 2) := by decide
  obtain ⟨t, ran, free, delivered⟩ : ∃ t,
      run (State.step ⟨2, 2⟩) (fresh ⟨2, 2⟩ 32 fun _ : Fin 3 => List.replicate 8 0) (twoSend 0 1 2) = some t ∧
        t.mutex = .free false ∧ t.delivered = [Frame.shortest.1] := ⟨_, rfl, rfl, rfl⟩
  obtain ⟨fs, stored, sent⟩ :=
    delivered_in_order ⟨2, 2⟩ (by decide) (by decide) (by decide) allowed ran (by simp [free])
  exact ⟨t, fs, ran, delivered, stored, sent⟩

end SyncSharedMemory

end CameraEv
