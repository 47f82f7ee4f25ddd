import CameraEv.Stream.Streamer

/-!
# The streamers of a `Camera`

`LoadCamerasPbFile` restarts the streamers that the setup file uses;
`OnTimerCheckStream` restarts one whose frames have stopped coming. What a
restart answers (whether the session and the decoder initialise and activate) is
an argument of the call. Of a stream's settings only `stream_used` decides
anything here; the others are handed to the streamer.
-/

namespace CameraEv

open Trace

namespace Camera

structure StreamInfo where
  streamUsed : Bool := false
  deriving DecidableEq

/-- What `LoadCameraInfoPB` finds at the path. -/
inductive SetupFile where
  | missing
  | unreadable
  | camera (streamInfo : List StreamInfo)
  deriving DecidableEq

/-- The stream settings; a message with fewer than three streams is read outside its list. -/
def loadCameraInfoPB : SetupFile → Option (Nat × (Fin 3 → StreamInfo))
  | .missing => some (1, fun _ => {})
  | .unreadable => some (2, fun _ => {})
  | .camera streamInfo =>
    if 3 ≤ streamInfo.length then some (0, fun ii => streamInfo.getD ii {}) else none

/-- What the parts of a streamer answer when it is started. -/
structure Outcome where
  decoderInitialized : Bool := true
  sessionInitialized : Bool := true
  sessionActivated : Bool := true
  decoderActivated : Bool := true
  deriving DecidableEq

structure State where
  streamers : Fin 3 → Streamer.State := fun _ => {}

namespace State

def set (c : State) (ii : Fin 3) (streamer : Streamer.State) : State :=
  { c with streamers := Function.update c.streamers ii streamer }

@[simp] theorem set_self (c : State) (ii : Fin 3) (streamer : Streamer.State) :
    (c.set ii streamer).streamers ii = streamer := Function.update_self ..

theorem set_of_ne {ii jj : Fin 3} (ne : jj ≠ ii) (c : State) (streamer : Streamer.State) :
    (c.set ii streamer).streamers jj = c.streamers jj := Function.update_of_ne ne ..

/-- A call on one streamer. -/
def onStreamer (c : State) (ii : Fin 3) (body : Streamer.State → Option Streamer.State) : Option State := do
  return c.set ii (← body (c.streamers ii))

/-- A loop over the streamers. -/
def forStreamers (c : State) (body : Fin 3 → Streamer.State → Option Streamer.State) : Option State :=
  (List.finRange 3).foldlM (fun c ii => c.onStreamer ii (body ii)) c

/-- The body of `LoadCamerasPbFile` for a used stream. -/
def reload (streamer : Streamer.State) (outcome : Outcome) : Option Streamer.State := do
  let (_, streamer) ← streamer.deactivate
  let (_, streamer) ← streamer.finalize
  let (_, streamer) ← streamer.initializeStreamer outcome.decoderInitialized outcome.sessionInitialized
  let (_, streamer) ← streamer.activate outcome.sessionActivated outcome.decoderActivated
  return streamer

def loadCamerasPbFile (c : State) (file : SetupFile) (outcomes : Fin 3 → Outcome) : Option (Nat × State) := do
  let (ret, info) ← loadCameraInfoPB file
  if ret ≠ 0 then return (1, c)
  else
    let c ← c.forStreamers fun ii streamer =>
      if (info ii).streamUsed then reload streamer (outcomes ii) else some streamer
    return (0, c)

/-- `late` is whether the last frame is three seconds old. -/
def onTimerCheckStream (streamer : Streamer.State) (late : Bool) (outcome : Outcome) : Option Streamer.State :=
  if !streamer.isActivate then some streamer
  else if !late then some streamer
  else do
    let (_, streamer) ← streamer.deactivate
    let (_, streamer) ← streamer.activate outcome.sessionActivated outcome.decoderActivated
    return streamer

/-- The stream of the command line, which `Activate` starts. A failure resets the streamer's pointer, and
the pointer is used right after. -/
def sample (streamer : Streamer.State) (outcome : Outcome) : Option Streamer.State := do
  match ← streamer.initializeStreamer outcome.decoderInitialized outcome.sessionInitialized with
  | (0, streamer) => return (← streamer.activate outcome.sessionActivated outcome.decoderActivated).2
  | _ => none

end State

inductive Act where
  | loadCamerasPbFile (file : SetupFile) (outcomes : Fin 3 → Outcome)
  | onTimerCheckStream (ii : Fin 3) (late : Bool) (outcome : Outcome)
  | sample (outcome : Outcome)
  /-- The streamers' part of `Deactivate`. -/
  | deactivate
  /-- A thread of a streamer raises its flag. -/
  | raiseSession (ii : Fin 3)
  | raiseDecoder (ii : Fin 3)

namespace State

def step (c : State) : Act → Option State
  | .loadCamerasPbFile file outcomes => (c.loadCamerasPbFile file outcomes).map Prod.snd
  | .onTimerCheckStream ii late outcome => c.onStreamer ii fun s => onTimerCheckStream s late outcome
  | .sample outcome => c.onStreamer 0 fun s => sample s outcome
  | .deactivate => c.forStreamers fun _ s => s.deactivate.map Prod.snd
  | .raiseSession ii => c.onStreamer ii Streamer.State.raiseSession
  | .raiseDecoder ii => c.onStreamer ii Streamer.State.raiseDecoder

end State

open State

variable {c d : State} {a : Act}

/-! ## The loops over the streamers -/

theorem onStreamer_eq {ii : Fin 3} {body : Streamer.State → Option Streamer.State} (h : c.onStreamer ii body = some d) :
    body (c.streamers ii) = some (d.streamers ii) ∧ ∀ jj, jj ≠ ii → d.streamers jj = c.streamers jj := by
  simp only [State.onStreamer, Option.bind_eq_bind, Option.bind_eq_some_iff] at h
  obtain ⟨s, ran, h⟩ := h
  cases h
  exact ⟨by rw [ran, set_self], fun jj ne => set_of_ne ne c s⟩

theorem foldlM_streamers {body : Fin 3 → Streamer.State → Option Streamer.State} {iis : List (Fin 3)}
    (nodup : iis.Nodup) (h : iis.foldlM (fun c ii => State.onStreamer c ii (body ii)) c = some d) (ii : Fin 3) :
    if ii ∈ iis then body ii (c.streamers ii) = some (d.streamers ii) else d.streamers ii = c.streamers ii := by
  induction iis generalizing c with
  | nil =>
    cases h
    rfl
  | cons jj iis ih =>
    simp only [List.foldlM_cons, Option.bind_eq_bind, Option.bind_eq_some_iff] at h
    obtain ⟨c', first, rest⟩ := h
    obtain ⟨ran, others⟩ := onStreamer_eq first
    obtain ⟨fresh, nodup⟩ := List.nodup_cons.1 nodup
    have ih := ih nodup rest
    by_cases same : ii = jj
    · subst same
      rw [if_neg fresh] at ih
      rw [if_pos List.mem_cons_self, ih]
      exact ran
    · rw [others ii same] at ih
      simpa only [List.mem_cons, same, false_or] using ih

/-- Each streamer goes through the body. -/
theorem forStreamers_eq {body : Fin 3 → Streamer.State → Option Streamer.State} (h : c.forStreamers body = some d)
    (ii : Fin 3) : body ii (c.streamers ii) = some (d.streamers ii) := by
  have each := foldlM_streamers (List.nodup_finRange 3) h ii
  rwa [if_pos (List.mem_finRange ii)] at each

/-! ## Nothing runs of a streamer that is not initialised -/

def Idle (s : Streamer.State) : Prop := s.initialized = false → Streamer.Quiet s

section Idle

open Streamer (Quiet)

variable {s t : Streamer.State} {code : Nat} {outcome : Outcome}

theorem quiet_deactivate (idle : Idle s) (h : s.deactivate = some (code, t)) : Quiet t := by
  rcases Streamer.deactivate_cases h with ⟨notInitialized, rfl⟩ | ⟨-, part, -, rfl⟩
  · exact idle notInitialized
  · exact ⟨rfl, rfl, rfl⟩

theorem quiet_finalize (quiet : Quiet s) (h : s.finalize = some (code, t)) : Quiet t := by
  obtain rfl := Streamer.finalize_eq h
  exact ⟨quiet.inactive, quiet.session, quiet.decoder⟩

theorem quiet_initializeStreamer {decoderReady sessionReady : Bool} (quiet : Quiet s)
    (h : s.initializeStreamer decoderReady sessionReady = some (code, t)) : Quiet t := by
  obtain ⟨inactive, session, decoder⟩ := quiet
  rcases Streamer.initializeStreamer_cases h with ⟨-, rfl⟩ | ⟨-, -, -, ⟨-, rfl⟩ | ⟨-, -, rfl⟩⟩
  · exact ⟨inactive, session, decoder⟩
  · exact ⟨inactive, session, rfl⟩
  · exact ⟨inactive, rfl, rfl⟩

/-- An `Activate` that does something is one of an initialised streamer. -/
theorem activate_quiet_or {sessionReady decoderReady : Bool} (quiet : Quiet s)
    (h : s.activate sessionReady decoderReady = some (code, t)) :
    Quiet t ∨ (s.initialized = true ∧ t.initialized = true) := by
  rcases Streamer.activate_cases h with ⟨-, rfl⟩ | ⟨ready, -, old, new, part, -, -, -, ⟨-, rfl⟩ | ⟨-, -, rfl⟩⟩
  · exact .inl quiet
  · exact .inr ⟨ready, ready⟩
  · exact .inr ⟨ready, ready⟩

theorem idle_initializeStreamer {decoderReady sessionReady : Bool} (idle : Idle s)
    (h : s.initializeStreamer decoderReady sessionReady = some (code, t)) : Idle t := by
  by_cases ready : s.initialized = true
  · rcases Streamer.initializeStreamer_cases h with ⟨-, rfl⟩ | ⟨notReady, -⟩
    · exact idle
    · rw [ready] at notReady
      cases notReady
  · exact fun _ => quiet_initializeStreamer (idle (by simpa using ready)) h

theorem idle_activate {sessionReady decoderReady : Bool} (idle : Idle s)
    (h : s.activate sessionReady decoderReady = some (code, t)) : Idle t := by
  intro notReady
  rcases Streamer.activate_cases h with ⟨-, rfl⟩ | ⟨ready, -, old, new, part, -, -, -, ⟨-, rfl⟩ | ⟨-, -, rfl⟩⟩
  · exact idle notReady
  · cases ready.symm.trans notReady
  · cases ready.symm.trans notReady

theorem idle_raised (raised : Streamer.Raised s t) (idle : Idle s) : Idle t := by
  intro notReady
  rw [raised.initialized] at notReady
  exact raised.quiet (idle notReady)

/-- The four calls of a restart, one after the other. -/
theorem reload_eq (h : reload s outcome = some t) : ∃ c₁ s₁ c₂ s₂ c₃ s₃ c₄, s.deactivate = some (c₁, s₁) ∧
    s₁.finalize = some (c₂, s₂) ∧
    s₂.initializeStreamer outcome.decoderInitialized outcome.sessionInitialized = some (c₃, s₃) ∧
    s₃.activate outcome.sessionActivated outcome.decoderActivated = some (c₄, t) := by
  simp only [reload, Option.bind_eq_bind, Option.bind_eq_some_iff, Prod.exists] at h
  obtain ⟨c₁, s₁, deactivated, c₂, s₂, finalized, c₃, s₃, initialized, c₄, s₄, activated, h⟩ := h
  cases h
  exact ⟨c₁, s₁, c₂, s₂, c₃, s₃, c₄, deactivated, finalized, initialized, activated⟩

theorem idle_reload (idle : Idle s) (h : reload s outcome = some t) : Idle t := by
  obtain ⟨c₁, s₁, c₂, s₂, c₃, s₃, c₄, deactivated, finalized, initialized, activated⟩ := reload_eq h
  have quiet := quiet_finalize (quiet_deactivate idle deactivated) finalized
  apply idle_activate _ activated
  exact fun _ => quiet_initializeStreamer quiet initialized

/-- A restart whose parts all answer leaves the streamer active. -/
theorem active_reload (idle : Idle s) (h : reload s {} = some t) : t.activated = true := by
  obtain ⟨c₁, s₁, c₂, s₂, c₃, s₃, c₄, deactivated, finalized, initialized, activated⟩ := reload_eq h
  have inactive := (quiet_deactivate idle deactivated).inactive
  obtain rfl := Streamer.finalize_eq finalized
  have ready : s₃.initialized = true := by
    rcases Streamer.initializeStreamer_cases initialized with ⟨busy, -⟩ | ⟨-, -, -, ⟨unready, -⟩ | ⟨-, -, rfl⟩⟩
    · rcases busy with busy | busy
      · cases busy
      · rw [show s₁.activated = true from busy] at inactive
        cases inactive
    · cases unready
    · rfl
  rcases Streamer.activate_cases activated with ⟨no, -⟩ | ⟨-, -, old, new, part, -, -, -, ⟨unready, -⟩ | ⟨-, -, rfl⟩⟩
  · rcases no with notReady | unready
    · rw [ready] at notReady
      cases notReady
    · cases unready
  · cases unready
  · rfl

theorem idle_onTimerCheckStream {late : Bool} (idle : Idle s) (h : onTimerCheckStream s late outcome = some t) :
    Idle t := by
  simp only [onTimerCheckStream] at h
  split at h
  · cases h
    exact idle
  split at h
  · cases h
    exact idle
  simp only [Option.bind_eq_bind, Option.bind_eq_some_iff, Prod.exists] at h
  obtain ⟨c₁, s₁, deactivated, c₂, s₂, activated, h⟩ := h
  cases h
  exact idle_activate (fun _ => quiet_deactivate idle deactivated) activated

theorem idle_sample (idle : Idle s) (h : sample s outcome = some t) : Idle t := by
  simp only [sample, Option.bind_eq_bind, Option.bind_eq_some_iff, Prod.exists] at h
  obtain ⟨code, s₁, initialized, h⟩ := h
  have idle₁ := idle_initializeStreamer idle initialized
  split at h
  · rename_i same
    cases same
    simp only [Option.bind_eq_some_iff, Prod.exists] at h
    obtain ⟨c₂, s₂, activated, h⟩ := h
    cases h
    exact idle_activate idle₁ activated
  · cases h

end Idle

/-! ## Reloading -/

theorem idle_onStreamer {ii : Fin 3} {body : Streamer.State → Option Streamer.State} (idle : ∀ jj, Idle (c.streamers jj))
    (kept : ∀ {s t}, Idle s → body s = some t → Idle t) (h : c.onStreamer ii body = some d) (jj : Fin 3) :
    Idle (d.streamers jj) := by
  obtain ⟨ran, others⟩ := onStreamer_eq h
  by_cases same : jj = ii
  · subst same
    exact kept (idle jj) ran
  · rw [others jj same]
    exact idle jj

/-- What `LoadCamerasPbFile` does when it returns 0. -/
theorem loadCamerasPbFile_eq {file : SetupFile} {info : Fin 3 → StreamInfo} {outcomes : Fin 3 → Outcome}
    (read : loadCameraInfoPB file = some (0, info)) (h : c.loadCamerasPbFile file outcomes = some (0, d)) (ii : Fin 3) :
    if (info ii).streamUsed then reload (c.streamers ii) (outcomes ii) = some (d.streamers ii)
    else d.streamers ii = c.streamers ii := by
  simp only [State.loadCamerasPbFile, read, Option.bind_eq_bind, Option.bind_some, ne_eq, not_true_eq_false, if_false,
    Option.bind_eq_some_iff] at h
  obtain ⟨c', loop, h⟩ := h
  cases h
  have each := forStreamers_eq loop ii
  split at each
  · rename_i used
    rwa [if_pos used]
  · rename_i unused
    rw [if_neg unused]
    exact (Option.some.inj each).symm

theorem idle_step (idle : ∀ ii, Idle (c.streamers ii)) (h : c.step a = some d) : ∀ ii, Idle (d.streamers ii) := by
  cases a with
  | loadCamerasPbFile file outcomes =>
    obtain ⟨⟨code, c'⟩, ran, rfl⟩ := Option.map_eq_some_iff.1 h
    simp only [State.loadCamerasPbFile, Option.bind_eq_bind, Option.bind_eq_some_iff, Prod.exists] at ran
    obtain ⟨ret, info, -, ran⟩ := ran
    split at ran
    · cases ran
      exact idle
    · simp only [Option.bind_eq_some_iff] at ran
      obtain ⟨c', loop, ran⟩ := ran
      cases ran
      intro ii
      have each := forStreamers_eq loop ii
      split at each
      · exact idle_reload (idle ii) each
      · rw [← Option.some.inj each]
        exact idle ii
  | onTimerCheckStream ii late outcome => exact idle_onStreamer idle idle_onTimerCheckStream h
  | sample outcome => exact idle_onStreamer idle idle_sample h
  | deactivate =>
    intro ii
    obtain ⟨⟨code, s⟩, ran, same⟩ := Option.map_eq_some_iff.1 (forStreamers_eq h ii)
    rw [← same]
    exact fun _ => quiet_deactivate (idle ii) ran
  | raiseSession ii =>
    exact idle_onStreamer idle (fun idle h => idle_raised (Streamer.raiseSession_raised h) idle) h
  | raiseDecoder ii =>
    exact idle_onStreamer idle (fun idle h => idle_raised (Streamer.raiseDecoder_raised h) idle) h

theorem idle_of_run {acts : List Act} (ran : run State.step {} acts = some c) : ∀ ii, Idle (c.streamers ii) :=
  run_invariant (I := fun c => ∀ ii, Idle (c.streamers ii)) (fun idle _ h => idle_step idle h)
    (fun _ _ => ⟨rfl, rfl, rfl⟩) along_true ran

/-- **A reload makes the running streams match the file** exactly when no stream is active before that the file
does not use: `LoadCamerasPbFile` leaves the streamers of unused streams as they are. -/
theorem reload_matches {acts : List Act} (ran : run State.step {} acts = some c) {file : SetupFile}
    {info : Fin 3 → StreamInfo} (read : loadCameraInfoPB file = some (0, info))
    (h : c.loadCamerasPbFile file (fun _ => {}) = some (0, d)) :
    (∀ ii, (d.streamers ii).isActivate = true ↔ (info ii).streamUsed = true) ↔
      ∀ ii, (info ii).streamUsed = false → (c.streamers ii).isActivate = false := by
  have each := loadCamerasPbFile_eq read h
  have idle := idle_of_run ran
  have used (ii : Fin 3) (used : (info ii).streamUsed = true) : (d.streamers ii).isActivate = true := by
    have reloaded := each ii
    rw [if_pos used] at reloaded
    exact active_reload (idle ii) reloaded
  have unused (ii : Fin 3) (unused : (info ii).streamUsed = false) : d.streamers ii = c.streamers ii := by
    have kept := each ii
    rwa [if_neg (by simp [unused])] at kept
  constructor
  · intro matching ii notUsed
    by_contra active
    rw [← unused ii notUsed] at active
    rw [(matching ii).1 (by simpa using active)] at notUsed
    cases notUsed
  · intro none ii
    refine ⟨fun active => ?_, used ii⟩
    by_contra notUsed
    have notUsed : (info ii).streamUsed = false := by simpa using notUsed
    rw [unused ii notUsed, none ii notUsed] at active
    cases active

/-- Stream 0 runs, and a file that uses streams 0 and 2 is loaded. -/
theorem reload_matches_two :
    let first : SetupFile := .camera [{ streamUsed := true }, {}, {}]
    let second : SetupFile := .camera [{ streamUsed := true }, {}, { streamUsed := true }]
    ∃ c d info, run State.step {} [.loadCamerasPbFile first fun _ => {}, .raiseSession 0, .raiseDecoder 0] = some c ∧
      loadCameraInfoPB second = some (0, info) ∧ c.loadCamerasPbFile second (fun _ => {}) = some (0, d) ∧
        ∀ ii, (d.streamers ii).isActivate = true ↔ (info ii).streamUsed = true := by
  intro first second
  have read : loadCameraInfoPB second = some (0, _) := rfl
  refine ⟨_, _, _, rfl, read, rfl, (reload_matches (show run State.step {} [.loadCamerasPbFile first fun _ => {},
    .raiseSession 0, .raiseDecoder 0] = some _ from rfl) read rfl).2 ?_⟩
  decide

/-- The second file does not use the stream that the first one has started: it goes on. -/
theorem reload_leaves_unused :
    let first : SetupFile := .camera [{ streamUsed := true }, {}, {}]
    let second : SetupFile := .camera [{}, { streamUsed := true }, {}]
    ∃ c d info, run State.step {} [.loadCamerasPbFile first fun _ => {}, .raiseSession 0, .raiseDecoder 0] = some c ∧
      loadCameraInfoPB second = some (0, info) ∧ c.loadCamerasPbFile second (fun _ => {}) = some (0, d) ∧
        (d.streamers 0).isActivate = true ∧ (info 0).streamUsed = false :=
  ⟨_, _, _, rfl, rfl, rfl, rfl, rfl⟩

end Camera

end CameraEv
