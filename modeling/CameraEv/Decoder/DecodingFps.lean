import CameraEv.Decoder.DecoderTimers

/-!
# The rate of the decoding loop

One decoder, whose thread paces itself with a locker of the manager. The rate
goes round: it is divided into a period, the period is raised to the minimal
resolution, and what is compared with the next rate is the quotient of the
period. `m_adaptive_fps` is written by `QueuePush` in another thread, so that
each read and each write of it is a step of its own. `RepeatWorkProc`, the other
client of the manager, asks for lockers of its own names.
-/

namespace CameraEv.DecodingFps

open Trace

/-- What the thread does next. -/
inductive Pc where
  /-- There is no thread. -/
  | idle
  /-- `if (0 == m_adaptive_fps)`. -/
  | test
  /-- `m_adaptive_fps = DECODE_DEFAULT_FPS`. -/
  | setDefault
  /-- The first `GetTimerLockerByFps`. -/
  | request
  /-- `while (m_thread_running)`. -/
  | check
  /-- The body, up to the test of the queue's length in `GetDecodingFps`. -/
  | decode
  /-- The first value of `change_fps`. -/
  | target (curFps : Nat)
  /-- `fps_diff`. -/
  | difference (curFps : Nat) (changeFps : Int)
  /-- `change_fps = m_adaptive_fps`. -/
  | adapt (curFps : Nat)
  /-- `if (timer_fps->GetFps() != change_fps)`, with the result of `GetDecodingFps`. -/
  | change (changeFps : Int)
  /-- The call of `timer_fps->Wait()`. -/
  | wait
  /-- Inside `Wait`. -/
  | waiting
  /-- `DeleteTimerLocker(timer_fps)`. -/
  | finish
  deriving DecidableEq

/-- `infoFps` is what `Initialize` was given. -/
structure State where
  manager : CTimerLockerManager := {}
  infoFps : Int
  adaptiveFps : Int
  pc : Pc := .idle
  timerFps : Option Nat := none
  deriving DecidableEq

inductive Act where
  /-- `ThreadLoop` begins. -/
  | activate
  /-- `QueuePush` has measured a rate. -/
  | queuePush (fps : Nat)
  /-- A step of the thread that nobody else has a say in. -/
  | thread
  /-- `while`, with the `m_thread_running` that is read. -/
  | loop (running : Bool)
  /-- A `break` out of the body. -/
  | skip
  /-- A frame is decoded; `queueSize` more are in the queue. -/
  | decoded (queueSize : Nat)
  /-- Where the manager may be asked for a timer; `created` is `CreateTimer`'s outcome. -/
  | request (created : Bool)
  /-- `RepeatWorkProc::AddWork` and `DeleteWork`. -/
  | addWork (workType : Int) (ms : Int) (created : Bool)
  | deleteWork (workType : Int)
  deriving DecidableEq

def decodeDefaultFps : Int := 30

/-- After `Decoder::Initialize`. -/
def initial (infoFps : Int) : State where
  infoFps
  adaptiveFps :=
    let fps := if infoFps = Decoder.decodeFpsAuto then decodeDefaultFps else infoFps
    if fps = 0 then decodeDefaultFps else fps

namespace State

def isFpsAuto (s : State) : Bool := s.infoFps = Decoder.decodeFpsAuto

/-- The locker behind `timer_fps`, when there is one. -/
def deref (s : State) : Option CTimerLocker := s.timerFps.bind s.manager.find

def goto (s : State) (pc : Pc) : State := { s with pc }

/-- `timer_fps = timer_manager.GetTimerLockerByFps("Decoding_fps", fps)`. -/
def request (s : State) (fps : Int) (created : Bool) (pc : Pc) : State :=
  let (timerFps, manager) := s.manager.getTimerLockerByFps Decoder.timerName fps created
  { s with manager, timerFps, pc }

/-- The end of `GetDecodingFps`. -/
def result (curFps : Nat) (changeFps : Int) : Pc := .change (if changeFps = 0 then curFps else changeFps)

/-- A use of a locker that is not there has no result; so has a division by a period or a rate of zero. -/
def stepAt (s : State) : Pc → Act → Option State
  | .idle, .activate => some (s.goto .test)
  | .test, .thread => some (s.goto (if s.adaptiveFps = 0 then .setDefault else .request))
  | .setDefault, .thread => some { s with adaptiveFps := decodeDefaultFps, pc := .request }
  | .request, .request created => some (s.request s.adaptiveFps created .check)
  | .check, .loop running => some (s.goto (if running then .decode else .finish))
  | .decode, .skip => some (s.goto .wait)
  | .decode, .decoded queueSize => do
    let l ← s.deref
    return s.goto (if (5 * l.getFps + 2) / 4 < queueSize then .change 100 else .target l.getFps)
  | .target curFps, .thread =>
    some (s.goto (if s.isFpsAuto then .difference curFps s.adaptiveFps else result curFps s.infoFps))
  | .difference curFps changeFps, .thread =>
    some (s.goto (if 1 < (s.adaptiveFps - curFps).natAbs then .adapt curFps else result curFps changeFps))
  | .adapt curFps, .thread => some (s.goto (result curFps s.adaptiveFps))
  | .change changeFps, .request created => do
    let l ← s.deref
    return if (l.getFps : Int) = changeFps then s.goto .wait else s.request changeFps created .wait
  | .wait, .thread => do
    let _ ← s.deref
    return s.goto .waiting
  | .waiting, .thread => do
    let _ ← s.deref
    return s.goto .check
  | .finish, .thread => do
    let l ← s.deref
    return { s with manager := (s.manager.deleteTimerLocker l.name).1, pc := .idle, timerFps := none }
  | _, .queuePush fps => some (if s.isFpsAuto then { s with adaptiveFps := fps } else s)
  | _, .addWork workType ms created =>
    some { s with manager := (s.manager.getTimerLockerByTime (Decoder.getTimerName workType) ms created).2 }
  | _, .deleteWork workType =>
    some { s with manager := (s.manager.deleteTimerLocker (Decoder.getTimerName workType)).1 }
  | _, _ => none

def step (s : State) (a : Act) : Option State := s.stepAt s.pc a

end State

/-- The thread has not asked for a locker yet. -/
def Pc.starts : Pc → Bool
  | .test | .setDefault | .request => true
  | _ => false

/-- The thread has asked for its first locker. -/
def Pc.inLoop : Pc → Bool
  | .idle | .test | .setDefault | .request => false
  | _ => true

/-- The rates that `GetDecodingFps` has at hand. -/
def Pc.Rated : Pc → Prop
  | .target curFps | .difference curFps _ | .adapt curFps => 1 ≤ curFps
  | .change changeFps => changeFps ≠ 0
  | _ => True

namespace State

/-- What every iteration relies on. -/
structure Usable (s : State) : Prop where
  /-- `timer_fps` is not null and its locker is still there, with a period and a rate that can be divided by. -/
  held : s.pc.inLoop = true → ∃ l, s.deref = some l ∧ l.period ≠ 0 ∧ 1 ≤ l.getFps ∧ l.getFps ≤ 100
  /-- `GetDecodingFps` does not return zero. -/
  rate : ∀ changeFps, s.pc = .change changeFps → changeFps ≠ 0

/-- `CreateTimer` succeeds for the decoder. -/
def Created (_ : State) : Act → Prop
  | .request created => created = true
  | _ => True

instance (s : State) : ∀ a, Decidable (s.Created a)
  | .request _ => inferInstanceAs (Decidable (_ = _))
  | .activate | .queuePush _ | .thread | .loop _ | .skip | .decoded _ | .addWork _ _ _ | .deleteWork _ => .isTrue trivial

/-- The rate that `ThreadLoop` asks for first is not zero when it reads it. -/
def Measured (s : State) (a : Act) : Prop := s.pc = .request → ∀ created, a = .request created → s.adaptiveFps ≠ 0

instance (s : State) : ∀ a, Decidable (s.Measured a)
  | .request created => decidable_of_iff (s.pc = .request → s.adaptiveFps ≠ 0)
    ⟨fun h here _ _ => h here, fun h here => h here created rfl⟩
  | .activate | .queuePush _ | .thread | .loop _ | .skip | .decoded _ | .addWork _ _ _ | .deleteWork _ =>
    .isTrue fun _ _ same => by cases same

/-! ## What a step does -/

/-- The steps by what they do to the decoder's locker. -/
inductive Moves (s : State) (a : Act) : State → Prop where
  /-- The thread goes on, or a rate is written. -/
  | goes (pc : Pc) (adaptiveFps : Int) (rated : s.pc.Rated → (∀ l, s.deref = some l → 1 ≤ l.getFps) → pc.Rated)
      (loops : pc.inLoop = s.pc.inLoop) (starts : pc.starts = true → a = .activate ∨ s.pc.starts = true) :
      Moves s a { s with pc, adaptiveFps }
  | starts (created : Bool) (act : a = .request created) (here : s.pc = .request) :
      Moves s a (s.request s.adaptiveFps created .check)
  | changes (created : Bool) (changeFps : Int) (l : CTimerLocker) (act : a = .request created)
      (here : s.pc = .change changeFps) (found : s.deref = some l) (other : (l.getFps : Int) ≠ changeFps) :
      Moves s a (s.request changeFps created .wait)
  | ends (l : CTimerLocker) (here : s.pc = .finish) (found : s.deref = some l) :
      Moves s a { s with manager := (s.manager.deleteTimerLocker l.name).1, pc := .idle, timerFps := none }
  /-- Another client of the manager. -/
  | others (manager : CTimerLockerManager) (distinct : s.manager.Distinct → manager.Distinct)
      (kept : s.manager.Distinct → ∀ l ∈ s.manager.lockers, l.name = Decoder.timerName → l ∈ manager.lockers) :
      Moves s a { s with manager }

variable {s t : State} {a : Act}

theorem rated_result {curFps : Nat} (positive : 1 ≤ curFps) (changeFps : Int) : (result curFps changeFps).Rated := by
  simp only [result, Pc.Rated]
  split <;> omega

theorem moves_addWork (s : State) (a : Act) (workType ms : Int) (created : Bool) :
    Moves s a { s with manager := (s.manager.getTimerLockerByTime (Decoder.getTimerName workType) ms created).2 } := by
  refine .others _ (fun distinct => distinct.getTimerLockerByTime _ ms created) fun distinct l mem named => ?_
  have stays : l ∈ s.manager.lockers.eraseP (·.name = Decoder.getTimerName workType) :=
    (CTimerLockerManager.mem_eraseP_name distinct.names _ l).2
      ⟨mem, fun same => Decoder.State.getTimerName_ne workType (same.symm.trans named)⟩
  rcases s.manager.getTimerLockerByTime_spec (Decoder.getTimerName workType) ms created with
    ⟨-, -, lockers, -⟩ | ⟨-, lockers, -⟩
  · rw [lockers]
    exact stays
  · exact lockers.mem_iff.2 (List.mem_cons_of_mem _ stays)

theorem moves_deleteWork (s : State) (a : Act) (workType : Int) :
    Moves s a { s with manager := (s.manager.deleteTimerLocker (Decoder.getTimerName workType)).1 } := by
  have lockers := s.manager.lockers_deleteTimerLocker (Decoder.getTimerName workType)
  refine .others _ (fun distinct => distinct.eraseP lockers rfl) fun distinct l mem named => ?_
  rw [lockers]
  exact (CTimerLockerManager.mem_eraseP_name distinct.names _ l).2
    ⟨mem, fun same => Decoder.State.getTimerName_ne workType (same.symm.trans named)⟩

theorem moves_of_step (h : s.step a = some t) : Moves s a t := by
  simp only [step] at h
  generalize here : s.pc = pc at h
  unfold stepAt at h
  split at h
  · cases h
    exact .goes .test _ (fun _ _ => trivial) (by rw [here]; rfl) fun _ => .inl rfl
  · cases h
    refine .goes _ _ (fun _ _ => ?_) ?_ fun _ => .inr (by rw [here]; rfl)
    · split <;> trivial
    · rw [here]
      split <;> rfl
  · cases h
    exact .goes .request _ (fun _ _ => trivial) (by rw [here]; rfl) fun _ => .inr (by rw [here]; rfl)
  · cases h
    exact .starts _ rfl here
  · rename_i running
    cases h
    cases running with
    | true => exact .goes .decode _ (fun _ _ => trivial) (by rw [here]; rfl) fun starts => by cases starts
    | false => exact .goes .finish _ (fun _ _ => trivial) (by rw [here]; rfl) fun starts => by cases starts
  · cases h
    exact .goes .wait _ (fun _ _ => trivial) (by rw [here]; rfl) fun starts => by cases starts
  · simp only [Option.bind_eq_bind, Option.bind_eq_some_iff, Option.pure_def, Option.some.injEq] at h
    obtain ⟨l, found, rfl⟩ := h
    split
    · exact .goes (.change 100) _ (fun _ _ => Int.ofNat_ne_zero.2 (by decide : 100 ≠ 0)) (by rw [here]; rfl)
        fun starts => by cases starts
    · exact .goes (.target l.getFps) _ (fun _ positive => positive l found) (by rw [here]; rfl)
        fun starts => by cases starts
  · rename_i curFps
    cases h
    have positive (rated : s.pc.Rated) : 1 ≤ curFps := by
      rw [here] at rated
      exact rated
    split
    · exact .goes (.difference _ _) _ (fun rated _ => positive rated) (by rw [here]; rfl) fun starts => by cases starts
    · exact .goes (result _ _) _ (fun rated _ => rated_result (positive rated) _) (by rw [here]; rfl)
        fun starts => by cases starts
  · rename_i curFps changeFps
    cases h
    have positive (rated : s.pc.Rated) : 1 ≤ curFps := by
      rw [here] at rated
      exact rated
    split
    · exact .goes (.adapt _) _ (fun rated _ => positive rated) (by rw [here]; rfl) fun starts => by cases starts
    · exact .goes (result _ _) _ (fun rated _ => rated_result (positive rated) _) (by rw [here]; rfl)
        fun starts => by cases starts
  · rename_i curFps
    cases h
    have positive (rated : s.pc.Rated) : 1 ≤ curFps := by
      rw [here] at rated
      exact rated
    exact .goes (result _ _) _ (fun rated _ => rated_result (positive rated) _) (by rw [here]; rfl)
      fun starts => by cases starts
  · rename_i changeFps created
    simp only [Option.bind_eq_bind, Option.bind_eq_some_iff, Option.pure_def, Option.some.injEq] at h
    obtain ⟨l, found, rfl⟩ := h
    split
    · exact .goes .wait _ (fun _ _ => trivial) (by rw [here]; rfl) fun starts => by cases starts
    · rename_i other
      exact .changes created changeFps l rfl here found other
  · simp only [Option.bind_eq_bind, Option.bind_eq_some_iff, Option.pure_def, Option.some.injEq] at h
    obtain ⟨l, -, rfl⟩ := h
    exact .goes .waiting _ (fun _ _ => trivial) (by rw [here]; rfl) fun starts => by cases starts
  · simp only [Option.bind_eq_bind, Option.bind_eq_some_iff, Option.pure_def, Option.some.injEq] at h
    obtain ⟨l, -, rfl⟩ := h
    exact .goes .check _ (fun _ _ => trivial) (by rw [here]; rfl) fun starts => by cases starts
  · simp only [Option.bind_eq_bind, Option.bind_eq_some_iff, Option.pure_def, Option.some.injEq] at h
    obtain ⟨l, found, rfl⟩ := h
    exact .ends l here found
  · rename_i fps
    cases h
    split
    · exact .goes s.pc _ (fun rated _ => rated) rfl .inr
    · exact .goes s.pc s.adaptiveFps (fun rated _ => rated) rfl .inr
  · cases h
    exact moves_addWork s _ _ _ _
  · cases h
    exact moves_deleteWork s _ _
  · cases h

/-- Without a measurement in between, `GetDecodingFps` is the function of `Decoder.getDecodingFps`. -/
theorem decodingFps_undisturbed {l : CTimerLocker} (here : s.pc = .decode) (found : s.deref = some l) (queueSize : Nat) :
    ∃ n ≤ 3, run step s (.decoded queueSize :: List.replicate n .thread) =
      some (s.goto (.change (Decoder.getDecodingFps l.getFps queueSize s.adaptiveFps s.infoFps))) := by
  have first : s.step (.decoded queueSize) =
      some (s.goto (if (5 * l.getFps + 2) / 4 < queueSize then .change 100 else .target l.getFps)) := by
    simp [step, here, stepAt, found]
  simp only [run, first, Decoder.getDecodingFps]
  by_cases crowded : (5 * l.getFps + 2) / 4 < queueSize
  · exact ⟨0, by decide, by simp [run, crowded]⟩
  simp only [if_neg crowded]
  by_cases auto : s.infoFps = Decoder.decodeFpsAuto
  · by_cases far : 1 < (s.adaptiveFps - l.getFps).natAbs
    · exact ⟨3, le_rfl, by simp [List.replicate, run, step, stepAt, goto, isFpsAuto, auto, far, result]⟩
    · exact ⟨2, by decide, by simp [List.replicate, run, step, stepAt, goto, isFpsAuto, auto, far, result]⟩
  · exact ⟨1, by decide, by simp [List.replicate, run, step, stepAt, goto, isFpsAuto, auto, result]⟩

/-! ## The decoder's locker -/

/-- Whatever `CreateTimer` does and whatever was measured. -/
structure Inv (s : State) : Prop where
  distinct : s.manager.Distinct
  held : ∀ id, s.timerFps = some id →
    ∃ l ∈ s.manager.lockers, l.id = id ∧ l.name = Decoder.timerName ∧ 10 ≤ l.period ∧ l.period ≤ 1000
  rated : s.pc.Rated

theorem getFps_bounds {l : CTimerLocker} (low : 10 ≤ l.period) (high : l.period ≤ 1000) : 1 ≤ l.getFps ∧ l.getFps ≤ 100 := by
  unfold CTimerLocker.getFps
  refine ⟨(Nat.le_div_iff_mul_le (by omega)).2 (by omega), ?_⟩
  exact (Nat.div_le_div_left low (by decide)).trans (by decide)

/-- The period that a request for a rate gets. -/
def period (fps : Int) : Nat := (max (CTimerLockerManager.timerMinResolution : Int) (Int.tdiv 1000 fps)).toNat

theorem period_bounds (fps : Int) : 10 ≤ period fps ∧ period fps ≤ 1000 := by
  have small : Int.tdiv 1000 fps ≤ 1000 := Int.tdiv_le_self fps (by decide)
  have least : (CTimerLockerManager.timerMinResolution : Int) = 10 := rfl
  unfold period
  omega

theorem Inv.deref (inv : s.Inv) {id : Nat} (address : s.timerFps = some id) :
    ∃ l ∈ s.manager.lockers, s.deref = some l ∧ l.name = Decoder.timerName ∧ 10 ≤ l.period ∧ l.period ≤ 1000 := by
  obtain ⟨l, mem, same, rest⟩ := inv.held id address
  refine ⟨l, mem, ?_, rest⟩
  rw [State.deref, address, Option.bind_some, ← same, inv.distinct.find_eq mem]

theorem Inv.of_deref (inv : s.Inv) {l : CTimerLocker} (found : s.deref = some l) :
    l ∈ s.manager.lockers ∧ l.name = Decoder.timerName ∧ 10 ≤ l.period ∧ l.period ≤ 1000 := by
  obtain ⟨id, address, -⟩ := Option.bind_eq_some_iff.1 found
  obtain ⟨l', mem, found', rest⟩ := inv.deref address
  obtain rfl := Option.some.inj (found.symm.trans found')
  exact ⟨mem, rest⟩

/-- A request gives no locker, or a new one with the period of the rate. -/
theorem request_cases (s : State) (fps : Int) (created : Bool) (pc : Pc) :
    (s.request fps created pc).timerFps = none ∧ (fps = 0 ∨ created = false) ∨
      fps ≠ 0 ∧ (s.request fps created pc).timerFps = some s.manager.nextId ∧
        (s.request fps created pc).manager.lockers.Perm
          (⟨s.manager.nextId, Decoder.timerName, period fps⟩ :: s.manager.lockers.eraseP (·.name = Decoder.timerName)) := by
  by_cases zero : fps = 0
  · simp [State.request, CTimerLockerManager.getTimerLockerByFps, zero]
  have asked : s.manager.getTimerLockerByFps Decoder.timerName fps created =
      s.manager.getTimerLockerByTime Decoder.timerName (Int.tdiv 1000 fps) created := if_neg zero
  simp only [State.request, asked]
  rcases s.manager.getTimerLockerByTime_spec Decoder.timerName (Int.tdiv 1000 fps) created with
    ⟨null, failed, -⟩ | ⟨got, lockers, -⟩
  · exact .inl ⟨null, .inr failed⟩
  · exact .inr ⟨zero, got, lockers⟩

theorem distinct_request (distinct : s.manager.Distinct) (fps : Int) (created : Bool) (pc : Pc) :
    (s.request fps created pc).manager.Distinct := by
  simp only [State.request, CTimerLockerManager.getTimerLockerByFps]
  split
  · exact distinct
  · exact distinct.getTimerLockerByTime _ _ created

theorem Inv.request (inv : s.Inv) (fps : Int) (created : Bool) {pc : Pc} (rated : pc.Rated) :
    (s.request fps created pc).Inv := by
  refine ⟨distinct_request inv.distinct fps created pc, fun id address => ?_, rated⟩
  rcases request_cases s fps created pc with ⟨null, -⟩ | ⟨-, got, lockers⟩
  · cases null.symm.trans address
  · obtain rfl := Option.some.inj (got.symm.trans address)
    exact ⟨_, lockers.mem_iff.2 List.mem_cons_self, rfl, rfl, period_bounds fps⟩

/-- The locker of a request. -/
theorem period_request (inv : s.Inv) {fps : Int} {created : Bool} {pc : Pc} {l : CTimerLocker}
    (found : (s.request fps created pc).deref = some l) : l.period = period fps := by
  rcases request_cases s fps created pc with ⟨null, -⟩ | ⟨-, got, lockers⟩
  · rw [State.deref, null] at found
    cases found
  · have new := (distinct_request inv.distinct fps created pc).find_eq (lockers.mem_iff.2 List.mem_cons_self)
    rw [State.deref, got, Option.bind_some] at found
    obtain rfl := Option.some.inj (new.symm.trans found)
    rfl

theorem Inv.step (inv : s.Inv) (h : s.step a = some t) : t.Inv := by
  cases moves_of_step h with
  | goes pc adaptiveFps rated =>
    refine ⟨inv.distinct, inv.held, rated inv.rated fun l found => ?_⟩
    obtain ⟨-, -, low, high⟩ := inv.of_deref found
    exact (getFps_bounds low high).1
  | starts created act here => exact inv.request _ created trivial
  | changes created changeFps l act here found other => exact inv.request changeFps created trivial
  | ends l here found =>
    refine ⟨inv.distinct.eraseP (s.manager.lockers_deleteTimerLocker l.name) rfl, fun id address => ?_, trivial⟩
    cases address
  | others manager distinct kept =>
    refine ⟨distinct inv.distinct, fun id address => ?_, inv.rated⟩
    obtain ⟨l, mem, same, named, bounds⟩ := inv.held id address
    exact ⟨l, kept inv.distinct l mem named, same, named, bounds⟩

theorem inv_initial (infoFps : Int) : (initial infoFps).Inv where
  distinct := ⟨List.nodup_nil, List.nodup_nil, fun l mem => by cases mem⟩
  held id address := by cases address
  rated := trivial

/-! ## A usable timer -/

/-- The loop has a locker. -/
structure Held (s : State) : Prop where
  inv : s.Inv
  some : s.pc.inLoop = true → ∃ id, s.timerFps = .some id

theorem Held.usable (held : s.Held) : s.Usable := by
  constructor
  · intro loops
    obtain ⟨id, address⟩ := held.some loops
    obtain ⟨l, -, found, -, low, high⟩ := held.inv.deref address
    exact ⟨l, found, by omega, getFps_bounds low high⟩
  · intro changeFps here
    have rated := held.inv.rated
    rw [here] at rated
    exact rated

/-- A request for a rate other than zero, with a timer to be had. -/
theorem request_some (fps : Int) (pc : Pc) (rate : fps ≠ 0) : ∃ id, (s.request fps true pc).timerFps = some id := by
  rcases request_cases s fps true pc with ⟨-, zero | failed⟩ | ⟨-, got, -⟩
  · exact absurd zero rate
  · cases failed
  · exact ⟨_, got⟩

theorem Held.step (held : s.Held) (created : s.Created a) (measured : s.Measured a) (h : s.step a = .some t) : t.Held := by
  refine ⟨held.inv.step h, fun loops => ?_⟩
  cases moves_of_step h with
  | goes pc adaptiveFps _ same =>
    obtain ⟨id, address⟩ := held.some (same ▸ loops)
    exact ⟨id, address⟩
  | starts c act here =>
    subst act
    cases created
    exact request_some _ _ (measured here true rfl)
  | changes c changeFps l act here found other =>
    subst act
    cases created
    have rated := held.inv.rated
    rw [here] at rated
    exact request_some _ _ rated
  | ends l here found => cases loops
  | others manager distinct kept =>
    obtain ⟨id, address⟩ := held.some loops
    exact ⟨id, address⟩

/-- A rate of zero has no timer, and the loop goes on without one. -/
theorem null_of_not_measured (zero : ¬ s.Measured a) : ∃ t, s.step a = some t ∧ ¬ t.Usable := by
  simp only [Measured, not_forall, not_not] at zero
  obtain ⟨here, created, rfl, zero⟩ := zero
  refine ⟨s.request s.adaptiveFps created .check, by simp only [State.step, here, stepAt], fun usable => ?_⟩
  obtain ⟨l, found, -⟩ := usable.held rfl
  rcases request_cases s s.adaptiveFps created .check with ⟨null, -⟩ | ⟨rate, -⟩
  · rw [deref, null] at found
    cases found
  · exact rate zero

end State

open State

/-- **The loop holds a usable timer throughout a run exactly when no first request of it reads a rate of zero.** -/
theorem loop_holds_timer_iff (infoFps : Int) {acts : List Act} (created : Along step Created (initial infoFps) acts) :
    Throughout step Usable (initial infoFps) acts ↔ Along step Measured (initial infoFps) acts :=
  throughout_iff_along_of (fun held created measured h => Held.step held created measured h) (fun held => held.usable)
    (fun _ _ zero => null_of_not_measured zero) ⟨inv_initial infoFps, fun loops => by cases loops⟩ created

/-- A decoder that measures its rate, with a frame that comes late. -/
private def lateFrame : List Act :=
  [.activate, .thread, .request true, .loop true, .decoded 3, .thread, .thread, .request true, .thread, .queuePush 0, .thread,
    .loop true, .decoded 3, .thread, .thread, .thread, .request true, .thread, .thread, .loop false, .thread]

theorem loop_holds_timer_late : (∃ t, run step (initial 0) lateFrame = some t ∧ t.adaptiveFps = 0) ∧
    Throughout step Usable (initial 0) lateFrame :=
  ⟨⟨_, rfl, rfl⟩, (loop_holds_timer_iff 0 (by decide)).2 (by decide)⟩

private def lateStart : List Act := [.activate, .thread, .thread, .queuePush 0, .request true]

/-- The loop starts again, and a late frame is measured between the test of the rate and the request for it. -/
theorem loop_null_timer : Along step Created (initial 0) (lateFrame ++ lateStart) ∧ ∃ t,
    run step (initial 0) (lateFrame ++ lateStart) = some t ∧ t.pc = .check ∧ t.timerFps = none ∧ ¬ t.Usable ∧
      run step t [.loop true, .skip, .thread] = none := by
  refine ⟨by decide, _, rfl, rfl, rfl, fun usable => ?_, rfl⟩
  obtain ⟨l, found, -⟩ := usable.held rfl
  cases found

/-! ## A rate that stays -/

/-- The rate is the quotient of its own period. -/
def Settled (fps : Nat) : Prop := 1000 / period fps = fps

instance (fps : Nat) : Decidable (Settled fps) := inferInstanceAs (Decidable (_ = _))

/-- The thread compares the rate of its timer with the next one. -/
def Compares (s : State) (a : Act) : Prop :=
  ∃ changeFps created l, s.pc = .change changeFps ∧ a = .request created ∧ s.deref = some l

/-- The two differ, and the locker is given up for another. -/
def Requests (s : State) (a : Act) : Prop :=
  ∃ changeFps created l, s.pc = .change changeFps ∧ a = .request created ∧ s.deref = some l ∧ (l.getFps : Int) ≠ changeFps

/-- `GetDecodingFps` returns the one rate. -/
def Targets (fps : Nat) (s : State) : Prop := ∀ changeFps, s.pc = .change changeFps → changeFps = fps

instance (fps : Nat) (s : State) : Decidable (Targets fps s) :=
  match here : s.pc with
  | .change changeFps => decidable_of_iff (changeFps = fps)
    ⟨fun same _ here' => Pc.change.inj (here.symm.trans here') ▸ same, fun targets => targets changeFps here⟩
  | .idle | .test | .setDefault | .request | .check | .decode | .target _ | .difference _ _ | .adapt _ | .wait | .waiting
  | .finish => .isTrue fun _ here' => by cases here.symm.trans here'

namespace State

variable {s t : State} {a : Act} {fps : Nat}

theorem period_natCast (fps : Nat) : period fps = max 10 (1000 / fps) := by
  have cast : Int.tdiv 1000 fps = ((1000 / fps : Nat) : Int) := rfl
  have least : (CTimerLockerManager.timerMinResolution : Int) = 10 := rfl
  unfold period
  omega

/-- A quotient is the quotient of its own quotient. -/
theorem settled_div {p : Nat} (low : 10 ≤ p) (high : p ≤ 1000) : Settled (1000 / p) := by
  have positive : 0 < 1000 / p := Nat.div_pos high (by omega)
  have above : p ≤ 1000 / (1000 / p) := (Nat.le_div_iff_mul_le positive).2 (Nat.mul_div_le 1000 p)
  have back : 1000 / p ≤ 1000 / (1000 / (1000 / p)) :=
    (Nat.le_div_iff_mul_le (by omega)).2 (Nat.mul_div_le 1000 (1000 / p))
  unfold Settled
  rw [period_natCast, max_eq_right (low.trans above)]
  exact le_antisymm (Nat.div_le_div_left above (by omega)) back

/-- From the end of an iteration with the rate on: the timer, if there is one, is that of the rate. -/
structure Paced (fps : Nat) (s : State) : Prop where
  inv : s.Inv
  started : s.pc.starts = false
  rate : ∀ l, s.deref = some l → l.getFps = 1000 / period fps

/-- An iteration with the rate. -/
theorem paced_of_change (inv : s.Inv) (here : s.pc = .change fps) {created : Bool}
    (h : s.step (.request created) = some t) : Paced fps t := by
  have inv' := inv.step h
  simp only [State.step, here, stepAt, Option.bind_eq_bind, Option.bind_eq_some_iff, Option.pure_def,
    Option.some.injEq] at h
  obtain ⟨l, found, rfl⟩ := h
  by_cases same : (l.getFps : Int) = fps
  · rw [if_pos same] at inv' ⊢
    refine ⟨inv', rfl, fun l' found' => ?_⟩
    obtain rfl := Option.some.inj (found.symm.trans found')
    obtain ⟨-, -, low, high⟩ := inv.of_deref found
    rw [← Int.ofNat_inj.1 same]
    exact (settled_div low high).symm
  · rw [if_neg same] at inv' ⊢
    exact ⟨inv', rfl, fun l' found' => by rw [CTimerLocker.getFps, period_request inv found']⟩

/-- A step of an iteration with the rate, or of another thread. -/
theorem Paced.step (paced : Paced fps s) (targets : Targets fps s) (one : a ≠ .activate) (h : s.step a = some t) :
    Paced fps t := by
  have inv' := paced.inv.step h
  cases moves_of_step h with
  | goes pc adaptiveFps rated loops starts =>
    refine ⟨inv', ?_, paced.rate⟩
    by_contra new
    rcases starts (Bool.eq_true_of_not_eq_false new) with act | started
    · exact one act
    · exact absurd started (paced.started ▸ Bool.false_ne_true)
  | starts created act here =>
    have started := paced.started
    rw [here] at started
    cases started
  | changes created changeFps l act here found other =>
    obtain rfl := targets changeFps here
    exact ⟨inv', rfl, fun l' found' => by rw [CTimerLocker.getFps, period_request paced.inv found']⟩
  | ends l here found =>
    refine ⟨inv', rfl, fun l' found' => ?_⟩
    cases found'
  | others manager distinct kept =>
    refine ⟨inv', paced.started, fun l' found' => paced.rate l' ?_⟩
    obtain ⟨id, address, later⟩ := Option.bind_eq_some_iff.1 found'
    obtain ⟨l, mem, same, named, -⟩ := paced.inv.held id address
    have still := (distinct paced.inv.distinct).find_eq (kept paced.inv.distinct l mem named)
    obtain rfl := Option.some.inj (still.symm.trans (same ▸ later))
    have address' : s.timerFps = some l.id := by
      rw [same]
      exact address
    rw [deref, address', Option.bind_some, paced.inv.distinct.find_eq mem]

/-- Later iterations ask for a locker exactly when the rate is not settled. -/
theorem Paced.requests_iff (paced : Paced fps s) (targets : Targets fps s) :
    Requests s a ↔ Compares s a ∧ ¬ Settled fps := by
  constructor
  · rintro ⟨changeFps, created, l, here, act, found, other⟩
    refine ⟨⟨changeFps, created, l, here, act, found⟩, fun settled => other ?_⟩
    rw [targets changeFps here, paced.rate l found, settled]
  · rintro ⟨⟨changeFps, created, l, here, act, found⟩, other⟩
    refine ⟨changeFps, created, l, here, act, found, fun same => other ?_⟩
    rw [targets changeFps here, paced.rate l found] at same
    exact Int.ofNat_inj.1 same

end State

open State

/-- **After an iteration in which `GetDecodingFps` returns the rate, and as long as it returns no other, no locker is asked
for exactly when the rate is settled, or there is no other iteration.** -/
theorem rate_settles_iff (infoFps : Int) {fps : Nat} {acts rest : List Act} {s t : State} {created : Bool}
    (ran : run step (initial infoFps) acts = some s) (here : s.pc = .change fps) (next : s.step (.request created) = some t)
    (targets : Throughout step (Targets fps) t rest) (one : Act.activate ∉ rest) :
    Along step (fun u a => ¬ Requests u a) t rest ↔ Settled fps ∨ Along step (fun u a => ¬ Compares u a) t rest := by
  have inv := run_invariant (fun inv _ h => Inv.step inv h) (inv_initial infoFps) along_true ran
  have paced := paced_of_change inv here next
  have allowed : Along step (fun u a => Targets fps u ∧ a ≠ .activate) t rest :=
    targets.along.and (along_of_mem fun a mem same => one (same ▸ mem))
  by_cases settled : Settled fps
  · have never {u : State} {a : Act} (paced : Paced fps u) (ok : Targets fps u ∧ a ≠ .activate) : ¬ Requests u a :=
      fun requests => ((paced.requests_iff ok.1).1 requests).2 settled
    exact ⟨fun _ => .inl settled, fun _ => along_of (fun paced ok h => Paced.step paced ok.1 ok.2 h) never paced allowed⟩
  · rw [or_iff_right settled]
    exact along_congr (fun paced ok h => Paced.step paced ok.1 ok.2 h)
      (fun paced ok => not_congr ((Paced.requests_iff paced ok.1).trans (and_iff_left settled))) paced allowed

/-- The first iteration of a decoder with a rate of its own, up to the comparison, and an iteration after it. -/
private def firstIteration : List Act := [.activate, .thread, .request true, .loop true, .decoded 0, .thread]

private def nextIteration : List Act := [.thread, .thread, .loop true, .decoded 0, .thread, .request true]

theorem rate_settles_25 : ∃ s t, run step (initial 25) firstIteration = some s ∧ s.step (.request true) = some t ∧
    Along step (fun u a => ¬ Requests u a) t (nextIteration ++ nextIteration) := by
  refine ⟨_, _, rfl, rfl, ?_⟩
  refine (@rate_settles_iff 25 25 firstIteration _ _ _ true rfl rfl rfl ?_ (by decide)).2 (.inl (by decide))
  decide

/-- The period of 36 is 27, and the rate of this period is 37: each decoded frame has a new locker. -/
theorem rate_unsettled_36 : ∃ s t u v, run step (initial 36) firstIteration = some s ∧ s.pc = .change 36 ∧
    s.step (.request true) = some t ∧ Throughout step (Targets 36) t (nextIteration ++ nextIteration) ∧
    run step t nextIteration.dropLast = some u ∧ Requests u (.request true) ∧
    run step t (nextIteration ++ nextIteration.dropLast) = some v ∧ Requests v (.request true) ∧
    u.timerFps ≠ v.timerFps := by
  refine ⟨_, _, _, _, rfl, rfl, rfl, ?_, rfl, ?_, rfl, ?_, by decide⟩
  · decide
  · exact ⟨36, true, _, rfl, rfl, rfl, by decide⟩
  · exact ⟨36, true, _, rfl, rfl, rfl, by decide⟩

end CameraEv.DecodingFps
