import CameraEv.Common.CmdLineParser
import CameraEv.Lib.NamedEvents
import CameraEv.Lib.Trace

/-!
# `Application` and `main`: one camera for a process name

Each process creates the event of its process name. The one that finds no event
runs the camera; one that finds the event there asks for the exit, and sets the
event that it shares with the first. `main` waits for that event. What the camera
answers and which keys are pressed are arguments of the steps; that a process ends
in any other way, by an exception or from outside, is a step of its own. Which
event object a name stands for is an argument, too: it depends on the logon
session and on the name's namespace, and without a name every event is a new one.
-/

namespace CameraEv

open NamedEvents Trace CmdLineParser

namespace Application

/-- `APP_ERROR_CODE`. -/
def APP_EXIST_PROCESS_NAME : Int := 1

def APP_ONCE_EVENT_FAILED : Int := 2

/-- `CMD_KEY_PROCESS_NAME`, `PROCESS_NAME`. -/
def CMD_KEY_PROCESS_NAME : Text := [80, 82, 79, 67, 69, 83, 83, 95, 78, 65, 77, 69]

/-- `PROCESS_CAMERA`. -/
def defaultProcessName : Text := [80, 82, 79, 67, 69, 83, 83, 95, 67, 65, 77, 69, 82, 65]

/-- The process name of a command line. -/
def processName (argv : List Text) : Text :=
  (readCmdLineValue (parseCommandLine ∅ (some argv)) CMD_KEY_PROCESS_NAME).getD defaultProcessName

/-- How a process is started. -/
structure Launch where
  argv : List Text := []
  /-- The logon session. -/
  session : Nat := 1

/-- `m_process_name`. -/
def Launch.name (l : Launch) : Text := processName l.argv

/-- `event` is what `CreateEventA` opens in each process: under one name, the processes of a session share one. -/
def SharesByName {ν ι : Type} (launch : ι → Launch) (event : ι → ν) : Prop :=
  ∀ i j, (launch i).name ≠ [] → (launch i).name = (launch j).name → (launch i).session = (launch j).session →
    event i = event j

/-- The events of names without a namespace: an event of the session, and without a name one of the process. -/
def eventObject {ι : Type} (launch : ι → Launch) (i : ι) : ι ⊕ Nat × Text :=
  if (launch i).name = [] then .inl i else .inr ((launch i).session, (launch i).name)

theorem eventObject_shares {ι : Type} (launch : ι → Launch) : SharesByName launch (eventObject launch) := by
  intro i j named same session
  rw [eventObject, eventObject, if_neg named, if_neg (same ▸ named), same, session]

/-- The next statement of `main`. -/
inductive Pc where
  /-- `CreateEventA` in `Initialize`. -/
  | createEvent
  /-- `Initialize` behind it. -/
  | cameraInitialize
  | cameraActivate
  /-- `_kbhit`, at the head of the loop. -/
  | kbhit
  | getchar
  | waitForExitEvent
  | deactivate
  /-- `m_camera->Finalize()`. -/
  | finalize
  | closeHandle
  | exited
  deriving DecidableEq

structure Process where
  pc : Pc := .createEvent
  /-- `m_singleton_event` is not null. -/
  singletonEvent : Bool := false
  /-- `ERROR_ALREADY_EXISTS == code`. -/
  alreadyExists : Bool := false
  /-- `m_camera` is there, and has not been finalized. -/
  camera : Bool := false
  doExit : Bool := false
  exitCode : Int := 0
  deriving DecidableEq

structure State (ν ι : Type) where
  events : Events ν ι
  process : ι → Process

inductive Act where
  /-- `fails`: a null handle is returned. -/
  | createEvent (fails : Bool)
  /-- `ret` is what `Camera::Initialize` returns. -/
  | cameraInitialize (ret : Int)
  /-- `ret` is what `Camera::Activate` returns. -/
  | cameraActivate (ret : Int)
  /-- `hit`: a key has been pressed. -/
  | kbhit (hit : Bool)
  /-- A character is there to be read, as soon as the line has been entered. `quit`: it is a `q`. -/
  | getchar (quit : Bool)
  | waitForExitEvent
  | deactivate
  | finalize
  | closeHandle
  /-- The process ends in another way. -/
  | terminate
  deriving DecidableEq

namespace State

variable {ν ι : Type} [DecidableEq ν] [DecidableEq ι]

def setProcess (s : State ν ι) (i : ι) (p : Process) : State ν ι := { s with process := Function.update s.process i p }

def goto (s : State ν ι) (i : ι) (pc : Pc) : State ν ι := s.setProcess i { s.process i with pc }

/-- `SetEvent` of a null handle does nothing. -/
def setExitCode (event : ι → ν) (s : State ν ι) (i : ι) (code : Int) : State ν ι :=
  let s := s.setProcess i { s.process i with exitCode := code, doExit := true }
  if (s.process i).singletonEvent then { s with events := set s.events (event i) } else s

/-- The handle is closed. -/
def closeEvent (event : ι → ν) (s : State ν ι) (i : ι) : State ν ι :=
  let s := s.setProcess i { s.process i with pc := .exited, singletonEvent := false, camera := false }
  { s with events := close s.events (event i) i }

/-- `event` are the event objects that the processes' names stand for. -/
def step (event : ι → ν) (s : State ν ι) : ι × Act → Option (State ν ι)
  | (i, .createEvent fails) =>
    if (s.process i).pc = .createEvent then
      if fails then some (s.goto i .cameraInitialize)
      else
        let (existed, events) := create s.events (event i) i
        some { s.setProcess i { s.process i with
          pc := .cameraInitialize, singletonEvent := true, alreadyExists := existed } with events }
    else none
  | (i, .cameraInitialize ret) =>
    if (s.process i).pc = .cameraInitialize then
      if !(s.process i).singletonEvent then some ((s.goto i .kbhit).setExitCode event i APP_ONCE_EVENT_FAILED)
      else if (s.process i).alreadyExists then some ((s.goto i .kbhit).setExitCode event i APP_EXIST_PROCESS_NAME)
      else
        let p := { s.process i with camera := true }
        if ret ≠ 0 then some ((s.setProcess i { p with pc := .kbhit }).setExitCode event i ret)
        else some (s.setProcess i { p with pc := .cameraActivate })
    else none
  | (i, .cameraActivate ret) =>
    if (s.process i).pc = .cameraActivate then
      if ret ≠ 0 then some ((s.goto i .kbhit).setExitCode event i ret) else some (s.goto i .kbhit)
    else none
  | (i, .kbhit hit) =>
    if (s.process i).pc = .kbhit then some (s.goto i (if hit then .getchar else .waitForExitEvent)) else none
  | (i, .getchar quit) =>
    if (s.process i).pc = .getchar then some (s.goto i (if quit then .deactivate else .waitForExitEvent)) else none
  | (i, .waitForExitEvent) =>
    if (s.process i).pc = .waitForExitEvent then
      -- a wait for a null handle fails at once
      if !(s.process i).singletonEvent then some (s.goto i .kbhit)
      else if signaled s.events (event i) then some (s.goto i .deactivate)
      else none
    else none
  | (i, .deactivate) => if (s.process i).pc = .deactivate then some (s.goto i .finalize) else none
  | (i, .finalize) =>
    if (s.process i).pc = .finalize then some (s.setProcess i { s.process i with pc := .closeHandle, camera := false })
    else none
  | (i, .closeHandle) =>
    if (s.process i).pc = .closeHandle then
      if (s.process i).singletonEvent then some (s.closeEvent event i) else some (s.goto i .exited)
    else none
  | (i, .terminate) =>
    if (s.process i).pc = .exited then none
    else if (s.process i).singletonEvent then some (s.closeEvent event i)
    else some (s.setProcess i { s.process i with pc := .exited, camera := false })

/-- No process has been started. -/
def initial : State ν ι := ⟨fun _ => none, fun _ => {}⟩

/-- The step is a call of `SetExitCode` by a process that has this event. -/
def Tells (event : ι → ν) (s : State ν ι) (e : ν) (l : ι × Act) : Prop :=
  event l.1 = e ∧ (s.process l.1).singletonEvent = true ∧ match l.2 with
    | .cameraInitialize ret => (s.process l.1).alreadyExists = true ∨ ret ≠ 0
    | .cameraActivate ret => ret ≠ 0
    | _ => False

instance (event : ι → ν) (s : State ν ι) (e : ν) : ∀ l, Decidable (s.Tells event e l)
  | (_, .cameraInitialize _) | (_, .cameraActivate _) => by unfold Tells; infer_instance
  | (_, .createEvent _) | (_, .kbhit _) | (_, .getchar _) | (_, .waitForExitEvent) | (_, .deactivate) | (_, .finalize)
  | (_, .closeHandle) | (_, .terminate) => by unfold Tells; infer_instance

end State

open State

variable {ν ι : Type} [DecidableEq ν] [DecidableEq ι] {event : ι → ν} {s t : State ν ι} {i : ι} {a : Act}

/-- A process that keeps its handle. -/
structure Process.Keeps (p q : Process) : Prop where
  singletonEvent : q.singletonEvent = p.singletonEvent
  alreadyExists : q.alreadyExists = p.alreadyExists
  camera : q.camera = true → p.camera = true ∨ p.singletonEvent = true ∧ p.alreadyExists = false
  started : q.pc ≠ .createEvent

/-- What a step does to the event of the process. -/
inductive Moves (event : ι → ν) (s : State ν ι) (i : ι) (a : Act) (t : State ν ι) : Prop
  | stays {p} (quiet : ¬ s.Tells event (event i) (i, a)) (events : t.events = s.events)
      (process : t.process = Function.update s.process i p) (keeps : (s.process i).Keeps p)
  | sets {p} (tells : s.Tells event (event i) (i, a)) (events : t.events = set s.events (event i))
      (process : t.process = Function.update s.process i p) (keeps : (s.process i).Keeps p)
  | opens {p} (quiet : ¬ s.Tells event (event i) (i, a)) (start : (s.process i).pc = .createEvent)
      (events : t.events = (create s.events (event i) i).2) (process : t.process = Function.update s.process i p)
      (opened : p.singletonEvent = true) (existed : p.alreadyExists = (create s.events (event i) i).1)
      (camera : p.camera = (s.process i).camera) (started : p.pc ≠ .createEvent)
  | closes {p} (quiet : ¬ s.Tells event (event i) (i, a)) (opened : (s.process i).singletonEvent = true)
      (events : t.events = close s.events (event i) i) (process : t.process = Function.update s.process i p)
      (closed : p.singletonEvent = false) (camera : p.camera = false) (exited : p.pc = .exited)

/-- `SetExitCode`, with a handle or without. -/
theorem moves_setExitCode {p : Process} {code : Int}
    (told : s.Tells event (event i) (i, a) ↔ (s.process i).singletonEvent = true) (keeps : (s.process i).Keeps p) :
    Moves event s i a ((s.setProcess i p).setExitCode event i code) := by
  have here : (s.setProcess i p).process i = p := Function.update_self _ _ _
  have keeps' : (s.process i).Keeps { p with exitCode := code, doExit := true } :=
    ⟨keeps.singletonEvent, keeps.alreadyExists, keeps.camera, keeps.started⟩
  have twice : ((s.setProcess i p).setProcess i { p with exitCode := code, doExit := true }).process =
      Function.update s.process i { p with exitCode := code, doExit := true } := Function.update_idem _ _ _
  unfold setExitCode
  rw [here]
  dsimp only
  have handle : ((s.setProcess i p).setProcess i { p with exitCode := code, doExit := true }).process i =
      { p with exitCode := code, doExit := true } := Function.update_self _ _ _
  by_cases opened : (s.process i).singletonEvent = true
  · rw [if_pos (by rw [handle]; exact keeps.singletonEvent.trans opened)]
    exact .sets (told.2 opened) rfl twice keeps'
  · rw [if_neg (by rw [handle]; exact fun yes => opened (keeps.singletonEvent.symm.trans yes))]
    exact .stays (fun tells => opened (told.1 tells)) rfl twice keeps'

/-- A step that only changes what is neither the event nor its handle. -/
theorem moves_setProcess {p : Process} (quiet : ¬ s.Tells event (event i) (i, a)) (keeps : (s.process i).Keeps p) :
    Moves event s i a (s.setProcess i p) := .stays quiet rfl rfl keeps

omit [DecidableEq ν] [DecidableEq ι] in
theorem keeps_goto {pc : Pc} (started : pc ≠ .createEvent) : (s.process i).Keeps { s.process i with pc } :=
  ⟨rfl, rfl, .inl, started⟩

/-- A statement behind which the process only goes on. -/
theorem moves_goto {pc next : Pc} (quiet : ¬ s.Tells event (event i) (i, a)) (started : next ≠ .createEvent)
    (h : (if (s.process i).pc = pc then some (s.goto i next) else none) = some t) : Moves event s i a t := by
  split at h
  · cases h
    exact moves_setProcess quiet (keeps_goto started)
  · cases h

theorem moves_closeEvent (quiet : ¬ s.Tells event (event i) (i, a)) (opened : (s.process i).singletonEvent = true) :
    Moves event s i a (s.closeEvent event i) := .closes quiet opened rfl rfl rfl rfl rfl

theorem moves_of_step (h : s.step event (i, a) = some t) : Moves event s i a t := by
  cases a with
  | createEvent fails =>
    have quiet : ¬ s.Tells event (event i) (i, .createEvent fails) := fun tells => tells.2.2
    simp only [step] at h
    split at h
    · rename_i start
      split at h
      · cases h
        exact moves_setProcess quiet (keeps_goto Pc.noConfusion)
      · cases h
        exact .opens quiet start rfl rfl rfl rfl rfl Pc.noConfusion
    · cases h
  | cameraInitialize ret =>
    have told : s.Tells event (event i) (i, .cameraInitialize ret) ↔
        (s.process i).singletonEvent = true ∧ ((s.process i).alreadyExists = true ∨ ret ≠ 0) := and_iff_right rfl
    simp only [step] at h
    split at h
    · split at h
      · rename_i null
        cases h
        rw [Bool.not_eq_true'] at null
        exact moves_setExitCode (by simp [told, null]) (keeps_goto Pc.noConfusion)
      · rename_i opened
        rw [Bool.not_eq_true', Bool.not_eq_false] at opened
        split at h
        · rename_i existed
          cases h
          exact moves_setExitCode (by simp [told, opened, existed]) (keeps_goto Pc.noConfusion)
        · rename_i new
          rw [Bool.not_eq_true] at new
          have keeps {pc : Pc} (started : pc ≠ .createEvent) :
              (s.process i).Keeps { s.process i with camera := true, pc } :=
            ⟨rfl, rfl, fun _ => .inr ⟨opened, new⟩, started⟩
          split at h
          · rename_i failed
            cases h
            exact moves_setExitCode (by simp [told, opened, failed]) (keeps Pc.noConfusion)
          · rename_i succeeded
            cases h
            exact moves_setProcess (by simp [told, new, succeeded]) (keeps Pc.noConfusion)
    · cases h
  | cameraActivate ret =>
    have told : s.Tells event (event i) (i, .cameraActivate ret) ↔ (s.process i).singletonEvent = true ∧ ret ≠ 0 :=
      and_iff_right rfl
    simp only [step] at h
    split at h
    · split at h
      · rename_i failed
        cases h
        exact moves_setExitCode (by simp [told, failed]) (keeps_goto Pc.noConfusion)
      · rename_i succeeded
        cases h
        exact moves_setProcess (by simpa [told] using fun _ => succeeded) (keeps_goto Pc.noConfusion)
    · cases h
  | kbhit hit => exact moves_goto (fun tells => tells.2.2) (by cases hit <;> exact Pc.noConfusion) h
  | getchar quit => exact moves_goto (fun tells => tells.2.2) (by cases quit <;> exact Pc.noConfusion) h
  | waitForExitEvent =>
    have quiet : ¬ s.Tells event (event i) (i, .waitForExitEvent) := fun tells => tells.2.2
    simp only [step] at h
    split at h
    · split at h
      · cases h
        exact moves_setProcess quiet (keeps_goto Pc.noConfusion)
      · split at h
        · cases h
          exact moves_setProcess quiet (keeps_goto Pc.noConfusion)
        · cases h
    · cases h
  | deactivate => exact moves_goto (fun tells => tells.2.2) Pc.noConfusion h
  | finalize =>
    have quiet : ¬ s.Tells event (event i) (i, .finalize) := fun tells => tells.2.2
    simp only [step] at h
    split at h
    · cases h
      exact moves_setProcess quiet ⟨rfl, rfl, fun no => (nomatch no), Pc.noConfusion⟩
    · cases h
  | closeHandle =>
    have quiet : ¬ s.Tells event (event i) (i, .closeHandle) := fun tells => tells.2.2
    simp only [step] at h
    split at h
    · split at h
      · rename_i opened
        cases h
        exact moves_closeEvent quiet opened
      · cases h
        exact moves_setProcess quiet (keeps_goto Pc.noConfusion)
    · cases h
  | terminate =>
    have quiet : ¬ s.Tells event (event i) (i, .terminate) := fun tells => tells.2.2
    simp only [step] at h
    split at h
    · cases h
    · split at h
      · rename_i opened
        cases h
        exact moves_closeEvent quiet opened
      · cases h
        exact moves_setProcess quiet ⟨rfl, rfl, fun no => (nomatch no), Pc.noConfusion⟩

/-! ## Who has the event -/

structure Inv (event : ι → ν) (s : State ν ι) : Prop where
  sound : Sound s.events
  openers : ∀ i n, i ∈ openers s.events n ↔ (s.process i).singletonEvent = true ∧ event i = n
  nodup : ∀ n, (NamedEvents.openers s.events n).Nodup
  start : ∀ i, (s.process i).pc = .createEvent → (s.process i).singletonEvent = false ∧ (s.process i).camera = false
  camera : ∀ i, (s.process i).camera = true → (s.process i).singletonEvent = true ∧ (s.process i).alreadyExists = false
  first : ∀ i j, (s.process i).singletonEvent = true → (s.process j).singletonEvent = true → event i = event j →
    (s.process i).alreadyExists = false → (s.process j).alreadyExists = false → i = j

omit [DecidableEq ν] [DecidableEq ι] in
theorem inv_initial (event : ι → ν) : Inv event initial where
  sound := sound_none
  openers i n := by simp [initial, NamedEvents.openers]
  nodup n := List.nodup_nil
  start i _ := ⟨rfl, rfl⟩
  camera i no := nomatch no
  first i j no := nomatch no

omit [DecidableEq ν] in
/-- A step that keeps the handle keeps everything, whether the event is set or not. -/
theorem Inv.keeps (inv : Inv event s) {p : Process} (process : t.process = Function.update s.process i p)
    (keeps : (s.process i).Keeps p) (sound : Sound t.events)
    (openers : ∀ n, NamedEvents.openers t.events n = NamedEvents.openers s.events n) : Inv event t := by
  have same (j : ι) : (t.process j).singletonEvent = (s.process j).singletonEvent ∧
      (t.process j).alreadyExists = (s.process j).alreadyExists := by
    rw [process]
    by_cases here : j = i
    · subst here
      rw [Function.update_self]
      exact ⟨keeps.singletonEvent, keeps.alreadyExists⟩
    · rw [Function.update_of_ne here]
      exact ⟨rfl, rfl⟩
  refine ⟨sound, fun j n => ?_, fun n => ?_, fun j start => ?_, fun j camera => ?_, fun j k => ?_⟩
  · rw [openers, inv.openers, (same j).1]
  · rw [openers]
    exact inv.nodup n
  · rw [process] at start ⊢
    by_cases here : j = i
    · subst here
      rw [Function.update_self] at start
      exact absurd start keeps.started
    · rw [Function.update_of_ne here] at start ⊢
      exact inv.start j start
  · rw [(same j).1, (same j).2]
    rw [process] at camera
    by_cases here : j = i
    · subst here
      rw [Function.update_self] at camera
      rcases keeps.camera camera with before | now
      · exact inv.camera j before
      · exact now
    · rw [Function.update_of_ne here] at camera
      exact inv.camera j camera
  · rw [(same j).1, (same j).2, (same k).1, (same k).2]
    exact inv.first j k

theorem Inv.step (inv : Inv event s) (h : s.step event (i, a) = some t) : Inv event t := by
  cases moves_of_step h with
  | stays _ events process keeps =>
    exact inv.keeps process keeps (events ▸ inv.sound) fun n => by rw [events]
  | sets _ events process keeps =>
    exact inv.keeps process keeps (events ▸ inv.sound.set) fun n => by rw [events, openers_set]
  | @opens p _ start events process opened existed camera started =>
    have self : t.process i = p := by rw [process, Function.update_self]
    have other {j : ι} (ne : j ≠ i) : t.process j = s.process j := by rw [process, Function.update_of_ne ne]
    have absent (n : ν) : i ∉ NamedEvents.openers s.events n := fun mem => by
      have holds := ((inv.openers i n).1 mem).1
      rw [(inv.start i start).1] at holds
      cases holds
    -- a process that finds no event finds no other process that has it
    have alone {j : ι} (ne : j ≠ i) (holds : (s.process j).singletonEvent = true) (same : event j = event i)
        (new : p.alreadyExists = false) : False := by
      have taken := (create_existed (i := i) inv.sound).2
        (List.ne_nil_of_mem ((inv.openers j (event i)).2 ⟨holds, same⟩))
      rw [existed, taken] at new
      cases new
    refine ⟨events ▸ inv.sound.create, fun j n => ?_, fun n => ?_, fun j begin' => ?_, fun j cam => ?_, fun j k => ?_⟩
    · rw [events, openers_create]
      by_cases here : j = i
      · subst here
        rw [self, opened]
        by_cases same : n = event j
        · simp [same]
        · simp [same, absent, Ne.symm same]
      · rw [other here]
        by_cases same : n = event i
        · simp [same, here, inv.openers]
        · simp [same, inv.openers]
    · rw [events, openers_create]
      split
      · exact List.nodup_cons.2 ⟨absent _, inv.nodup _⟩
      · exact inv.nodup n
    · by_cases here : j = i
      · subst here
        rw [self] at begin'
        exact absurd begin' started
      · rw [other here] at begin' ⊢
        exact inv.start j begin'
    · by_cases here : j = i
      · subst here
        rw [self, camera, (inv.start j start).2] at cam
        cases cam
      · rw [other here] at cam ⊢
        exact inv.camera j cam
    · by_cases hj : j = i
      · by_cases hk : k = i
        · exact fun _ _ _ _ _ => hj.trans hk.symm
        · subst hj
          rw [self, other hk]
          exact fun _ holds same new _ => (alone hk holds same.symm new).elim
      · by_cases hk : k = i
        · subst hk
          rw [self, other hj]
          exact fun holds _ same _ new => (alone hj holds same new).elim
        · rw [other hj, other hk]
          exact inv.first j k
  | @closes p _ opened events process closed camera exited =>
    have self : t.process i = p := by rw [process, Function.update_self]
    have other {j : ι} (ne : j ≠ i) : t.process j = s.process j := by rw [process, Function.update_of_ne ne]
    refine ⟨events ▸ inv.sound.close, fun j n => ?_, fun n => ?_, fun j begin' => ?_, fun j cam => ?_, fun j k => ?_⟩
    · rw [events, openers_close]
      by_cases here : j = i
      · subst here
        rw [self, closed]
        by_cases same : n = event j
        · simp [same, (inv.nodup _).mem_erase_iff]
        · simp [same, inv.openers, Ne.symm same]
      · rw [other here]
        by_cases same : n = event i
        · simp [same, here, inv.openers, (inv.nodup _).mem_erase_iff]
        · simp [same, inv.openers]
    · rw [events, openers_close]
      split
      · exact (inv.nodup _).erase i
      · exact inv.nodup n
    · by_cases here : j = i
      · subst here
        rw [self, exited] at begin'
        cases begin'
      · rw [other here] at begin' ⊢
        exact inv.start j begin'
    · by_cases here : j = i
      · subst here
        rw [self, camera] at cam
        cases cam
      · rw [other here] at cam ⊢
        exact inv.camera j cam
    · by_cases hj : j = i
      · subst hj
        rw [self, closed]
        exact fun no => nomatch no
      · by_cases hk : k = i
        · subst hk
          rw [self, closed]
          exact fun _ no => nomatch no
        · rw [other hj, other hk]
          exact inv.first j k

theorem one_camera_per_event {ls : List (ι × Act)} (ran : run (State.step event) initial ls = some t) {p q : ι}
    (same : event p = event q) (hp : (t.process p).camera = true) (hq : (t.process q).camera = true) : p = q := by
  have inv : Inv event t := run_invariant (fun inv _ h => inv.step h) (inv_initial event) along_true ran
  obtain ⟨holds, new⟩ := inv.camera p hp
  obtain ⟨holds', new'⟩ := inv.camera q hq
  exact inv.first p q holds holds' same new new'

/-- **One camera for a process name**: whatever the processes do, and however they end, at no time do two processes of
one name and session have a camera. The name must not be empty. -/
theorem one_camera_per_name {launch : ι → Launch} (shares : SharesByName launch event) {ls : List (ι × Act)}
    (ran : run (State.step event) initial ls = some t) {p q : ι} (named : (launch p).name ≠ [])
    (same : (launch p).name = (launch q).name) (session : (launch p).session = (launch q).session)
    (hp : (t.process p).camera = true) (hq : (t.process q).camera = true) : p = q :=
  one_camera_per_event ran (shares p q named same session) hp hq

/-- The first two processes have the same name, the third another one, and the last two none. -/
def exampleLaunch (i : Nat) : Launch where
  argv :=
    if i < 2 then []
    else if i = 2 then [[], [45] ++ CMD_KEY_PROCESS_NAME ++ [58, 66]]
    else [[], [45] ++ CMD_KEY_PROCESS_NAME ++ [58]]

def exampleEvent : Nat → Nat ⊕ Nat × Text := eventObject exampleLaunch

def exampleStart (i : Nat) : List (Nat × Act) :=
  [(i, .createEvent false), (i, .cameraInitialize 0), (i, .cameraActivate 0)]

/-- Cameras under two names and twice without a name, and a second start under the first name. -/
def exampleStarts : List (Nat × Act) :=
  exampleStart 0 ++ exampleStart 2 ++ exampleStart 3 ++ exampleStart 4 ++ [(1, .createEvent false)]

theorem one_camera_per_name_two : ∃ t, run (State.step exampleEvent) initial exampleStarts = some t ∧
    (∀ q ∈ [0, 2, 3, 4], (t.process q).camera = true) ∧ (exampleLaunch 3).name = (exampleLaunch 4).name ∧
    ∀ q, (exampleLaunch 0).name = (exampleLaunch q).name → (t.process q).camera = true → 0 = q := by
  obtain ⟨t, ran, cameras⟩ : ∃ t, run (State.step exampleEvent) initial exampleStarts = some t ∧
      ∀ q ∈ [0, 2, 3, 4], (t.process q).camera = true := ⟨_, rfl, by decide⟩
  refine ⟨t, ran, cameras, rfl, fun q same camera => ?_⟩
  exact one_camera_per_name (eventObject_shares exampleLaunch) ran (by decide) same rfl (cameras 0 (by decide)) camera

/-! ## Who ends the wait -/

omit [DecidableEq ν] [DecidableEq ι] in
theorem tells_iff {e : ν} : s.Tells event e (i, a) ↔ event i = e ∧ s.Tells event (event i) (i, a) :=
  ⟨fun tells => ⟨tells.1, rfl, tells.2⟩, fun ⟨same, tells⟩ => ⟨same, tells.2⟩⟩

/-- A step that leaves the process its handle sets its event exactly if it tells so. -/
theorem signaled_step (inv : Inv event s) {p : ι} (h : s.step event (i, a) = some t)
    (holds : (s.process p).singletonEvent = true) (still : (t.process p).singletonEvent = true) :
    signaled t.events (event p) = true ↔ signaled s.events (event p) = true ∨ s.Tells event (event p) (i, a) := by
  rw [tells_iff]
  cases moves_of_step h with
  | stays quiet events => simp [events, quiet]
  | sets tells events =>
    have there := isSome_of_mem ((inv.openers i (event i)).2 ⟨tells.2.1, rfl⟩)
    rw [events, signaled_set, and_iff_left there, and_iff_left tells, eq_comm (a := event p)]
  | opens quiet _ events => simp [events, quiet]
  | closes quiet _ events process closed =>
    have other : p ≠ i := by
      rintro rfl
      rw [process, Function.update_self, closed] at still
      cases still
    -- the event stays, as the process still has it open
    have open' (same : event p = event i) : (openers s.events (event i)).erase i ≠ [] :=
      List.ne_nil_of_mem ((List.mem_erase_of_ne other).2 ((inv.openers p (event i)).2 ⟨holds, same⟩))
    simp [events, quiet, signaled_close open']

theorem started_of_step (h : s.step event (i, a) = some t) : (s.process i).pc ≠ .exited := by
  intro exited
  cases a <;> simp [step, exited] at h

theorem process_of_ne {p : ι} (h : s.step event (i, a) = some t) (other : p ≠ i) : t.process p = s.process p := by
  cases moves_of_step h with
  | stays _ _ process => rw [process, Function.update_of_ne other]
  | sets _ _ process => rw [process, Function.update_of_ne other]
  | opens _ _ _ process => rw [process, Function.update_of_ne other]
  | closes _ _ _ process => rw [process, Function.update_of_ne other]

/-- A process has its handle until it ends. -/
theorem holds_step {p : ι} (h : s.step event (i, a) = some t) (holds : (s.process p).singletonEvent = true) :
    (t.process p).singletonEvent = true ∨ (t.process p).pc = .exited := by
  by_cases here : p = i
  · subst here
    cases moves_of_step h with
    | stays _ _ process keeps =>
      rw [process, Function.update_self]
      exact .inl (keeps.singletonEvent.trans holds)
    | sets _ _ process keeps =>
      rw [process, Function.update_self]
      exact .inl (keeps.singletonEvent.trans holds)
    | opens _ _ _ process opened =>
      rw [process, Function.update_self]
      exact .inl opened
    | closes _ _ _ process _ _ exited =>
      rw [process, Function.update_self]
      exact .inr exited
  · rw [process_of_ne h here]
    exact .inl holds

/-- A process that has ended does nothing more. -/
theorem exited_run {p : ι} {ls : List (ι × Act)} (exited : (s.process p).pc = .exited)
    (ran : run (State.step event) s ls = some t) : (t.process p).pc = .exited := by
  refine run_invariant (I := fun s => (s.process p).pc = .exited) (fun {s t l} exited _ h => ?_) exited along_true ran
  obtain ⟨i, a⟩ := l
  have other : p ≠ i := fun here => started_of_step h (here ▸ exited)
  rw [process_of_ne h other]
  exact exited

/-- While a process has its handle, its event is set by nothing else than `SetExitCode`. -/
theorem signaled_run (inv : Inv event s) {p : ι} {ls : List (ι × Act)} (ran : run (State.step event) s ls = some t)
    (holds : (s.process p).singletonEvent = true) (lives : (t.process p).pc ≠ .exited) :
    (t.process p).singletonEvent = true ∧ (signaled t.events (event p) = true ↔ signaled s.events (event p) = true ∨
      ¬ Along (State.step event) (fun s l => ¬ s.Tells event (event p) l) s ls) := by
  induction ls generalizing s with
  | nil =>
    cases ran
    exact ⟨holds, by simp [Along]⟩
  | cons l ls ih =>
    obtain ⟨u, hu, ran⟩ := run_cons.1 ran
    have holds' : (u.process p).singletonEvent = true :=
      (holds_step hu holds).resolve_right fun exited => lives (exited_run exited ran)
    obtain ⟨still, ih⟩ := ih (inv.step hu) ran holds'
    refine ⟨still, ih.trans ?_⟩
    rw [signaled_step inv hu holds holds']
    simp only [Along, hu]
    tauto

theorem opened_of_start (h : s.step event (i, .createEvent false) = some t) :
    (t.process i).singletonEvent = true ∧ (t.process i).alreadyExists = (create s.events (event i) i).1 ∧
      t.events = (create s.events (event i) i).2 := by
  simp only [step] at h
  split at h
  · rw [if_neg (by decide)] at h
    cases h
    simp [setProcess]
  · cases h

/-- **What ends the wait**: the process that found no event under its name leaves its wait exactly if, since then, one
of the processes that share the event (a second start, or its own camera) has set the exit code. -/
theorem wait_ends_iff_told (event : ι → ν) {p : ι} {started : State ν ι} {ls₀ ls : List (ι × Act)}
    (reached : run (State.step event) initial ls₀ = some s)
    (start : s.step event (p, .createEvent false) = some started)
    (first : (started.process p).alreadyExists = false) (ran : run (State.step event) started ls = some t)
    (waiting : (t.process p).pc = .waitForExitEvent) :
    (∃ u, t.step event (p, .waitForExitEvent) = some u ∧ (u.process p).pc = .deactivate) ↔
      ¬ Along (State.step event) (fun s l => ¬ s.Tells event (event p) l) started ls := by
  have inv : Inv event s := run_invariant (fun inv _ h => inv.step h) (inv_initial event) along_true reached
  obtain ⟨holds, existed, events⟩ := opened_of_start start
  obtain ⟨still, told⟩ := signaled_run (inv.step start) ran holds (by simp [waiting])
  rw [events, signaled_create, signaled_of_new (existed.symm.trans first)] at told
  have wait : t.step event (p, .waitForExitEvent) =
      if signaled t.events (event p) then some (t.goto p .deactivate) else none := by
    simp [step, waiting, still]
  rw [wait, ← told.trans (or_iff_right Bool.false_ne_true)]
  by_cases set : signaled t.events (event p) = true
  · simp [set, goto, setProcess]
  · simp [set]

/-- The first waits, and is started a second time. -/
def exampleSecond : List (Nat × Act) :=
  [(0, .cameraInitialize 0), (0, .cameraActivate 0), (0, .kbhit false), (1, .createEvent false),
    (1, .cameraInitialize 0)]

theorem wait_ends_iff_told_second : ∃ started t u : State (Nat ⊕ Nat × Text) Nat,
    initial.step exampleEvent (0, .createEvent false) = some started ∧
    run (State.step exampleEvent) started exampleSecond = some t ∧
    t.step exampleEvent (0, .waitForExitEvent) = some u ∧ (u.process 0).pc = .deactivate := by
  obtain ⟨started, start, first, t, ran, waiting, told⟩ : ∃ started : State (Nat ⊕ Nat × Text) Nat,
      initial.step exampleEvent (0, .createEvent false) = some started ∧ (started.process 0).alreadyExists = false ∧
      ∃ t, run (State.step exampleEvent) started exampleSecond = some t ∧ (t.process 0).pc = .waitForExitEvent ∧
        ¬ Along (State.step exampleEvent) (fun s l => ¬ s.Tells exampleEvent (exampleEvent 0) l) started
          exampleSecond :=
    ⟨_, rfl, by decide, _, rfl, by decide, by decide⟩
  obtain ⟨u, ends, left⟩ := (wait_ends_iff_told exampleEvent
    (show run (State.step exampleEvent) initial [] = some initial from rfl) start first ran waiting).2 told
  exact ⟨started, t, u, start, ran, ends, left⟩

/-! ## A process without an event -/

/-- `CreateEventA` has returned a null handle. -/
structure NoEvent (s : State ν ι) (i : ι) : Prop where
  null : (s.process i).singletonEvent = false
  pc : (s.process i).pc = .cameraInitialize ∨ (s.process i).doExit = true ∧
    (s.process i).exitCode = APP_ONCE_EVENT_FAILED ∧
    ((s.process i).pc = .kbhit ∨ (s.process i).pc = .getchar ∨ (s.process i).pc = .waitForExitEvent)

omit [DecidableEq ν] [DecidableEq ι] in
theorem in_loop (none : NoEvent s i) : (s.process i).pc ≠ .createEvent ∧ (s.process i).pc ≠ .cameraActivate ∧
    (s.process i).pc ≠ .deactivate ∧ (s.process i).pc ≠ .finalize ∧ (s.process i).pc ≠ .closeHandle := by
  rcases none.pc with pc | ⟨-, -, pc | pc | pc⟩ <;> rw [pc] <;> decide

theorem NoEvent.step {p : ι} (none : NoEvent s p) (alone : (i, a) ≠ (p, .getchar true) ∧ (i, a) ≠ (p, .terminate))
    (h : s.step event (i, a) = some t) : NoEvent t p := by
  by_cases here : p = i
  · subst here
    obtain ⟨created, activated, deactivated, finalized, closed⟩ := in_loop none
    have null := none.null
    -- behind the head of the loop the exit code is set
    have told (inLoop : (s.process p).pc ≠ .cameraInitialize) := none.pc.resolve_left inLoop
    cases a with
    | createEvent | cameraActivate | deactivate | finalize | closeHandle =>
      simp_all [State.step]
    | terminate => exact absurd rfl alone.2
    | cameraInitialize ret =>
      simp only [State.step, null] at h
      split at h
      · cases h
        constructor <;> simp [setExitCode, goto, setProcess, null]
      · cases h
    | kbhit hit =>
      simp only [State.step] at h
      split at h
      · rename_i pc
        cases h
        constructor <;> cases hit <;> simp [goto, setProcess, null, told (by simp [pc])]
      · cases h
    | getchar quit =>
      have idle : quit = false := by simpa using alone.1
      simp only [State.step, idle] at h
      split at h
      · rename_i pc
        cases h
        constructor <;> simp [goto, setProcess, null, told (by simp [pc])]
      · cases h
    | waitForExitEvent =>
      simp only [State.step, null] at h
      split at h
      · rename_i pc
        cases h
        constructor <;> simp [goto, setProcess, null, told (by simp [pc])]
      · cases h
  · have same := process_of_ne h here
    exact ⟨same ▸ none.null, same ▸ none.pc⟩

/-- **A failed `CreateEventA` is no end**: such a process has its exit code and is to exit, and yet never leaves the
loop of `main`, as long as no `q` is read and it is not ended from outside. It is blocked nowhere but in `getchar`,
between a key and the end of the line. -/
theorem failed_create_stays (event : ι → ν) {p : ι} {failed : State ν ι} {ls₀ ls : List (ι × Act)}
    (reached : run (State.step event) initial ls₀ = some s) (fails : s.step event (p, .createEvent true) = some failed)
    (ran : run (State.step event) failed ls = some t)
    (alone : Along (State.step event) (fun _ l => l ≠ (p, .getchar true) ∧ l ≠ (p, .terminate)) failed ls) :
    NoEvent t p ∧ ((t.process p).pc ≠ .getchar →
      ∃ a, (∀ quit, a ≠ .getchar quit) ∧ a ≠ .terminate ∧ (t.step event (p, a)).isSome = true) := by
  have inv : Inv event s := run_invariant (fun inv _ h => inv.step h) (inv_initial event) along_true reached
  have start : NoEvent failed p := by
    simp only [State.step] at fails
    split at fails
    · rename_i pc
      rw [if_pos trivial] at fails
      cases fails
      constructor <;> simp [goto, setProcess, (inv.start p pc).1]
    · cases fails
  have none : NoEvent t p :=
    run_invariant (I := fun s => NoEvent s p)
      (fun {_ _ l} none alone h => none.step (i := l.1) (a := l.2) alone h) start alone ran
  refine ⟨none, fun notReading => ?_⟩
  rcases none.pc with pc | ⟨-, -, pc | pc | pc⟩
  · exact ⟨.cameraInitialize 0, by simp, by decide, by simp [State.step, pc, none.null]⟩
  · exact ⟨.kbhit false, by simp, by decide, by simp [State.step, pc]⟩
  · exact absurd pc notReading
  · exact ⟨.waitForExitEvent, by simp, by decide, by simp [State.step, pc, none.null]⟩

/-- The first process has no event; neither a second start nor the loop ends it, nor a key that is not `q`. -/
def exampleFailed : List (Nat × Act) :=
  [(0, .cameraInitialize 0), (0, .kbhit false), (1, .createEvent false), (0, .waitForExitEvent), (0, .kbhit true),
    (0, .getchar false), (0, .waitForExitEvent)]

theorem failed_create_stays_second : ∃ failed t : State (Nat ⊕ Nat × Text) Nat,
    initial.step exampleEvent (0, .createEvent true) = some failed ∧
    run (State.step exampleEvent) failed exampleFailed = some t ∧ NoEvent t 0 ∧
    ∃ a, (∀ quit, a ≠ .getchar quit) ∧ a ≠ .terminate ∧ (t.step exampleEvent (0, a)).isSome = true := by
  obtain ⟨failed, fails, t, ran, reads, alone⟩ : ∃ failed : State (Nat ⊕ Nat × Text) Nat,
      initial.step exampleEvent (0, .createEvent true) = some failed ∧
      ∃ t, run (State.step exampleEvent) failed exampleFailed = some t ∧ (t.process 0).pc ≠ .getchar ∧
        Along (State.step exampleEvent) (fun _ l => l ≠ (0, .getchar true) ∧ l ≠ (0, .terminate)) failed
          exampleFailed :=
    ⟨_, rfl, _, rfl, by decide, by decide⟩
  obtain ⟨none, moves⟩ := failed_create_stays exampleEvent
    (show run (State.step exampleEvent) initial [] = some initial from rfl) fails ran alone
  exact ⟨failed, t, fails, ran, none, moves reads⟩

end Application

end CameraEv
