import CameraEv.Camera.CameraPackets
import CameraEv.Camera.CameraStreams
import CameraEv.Network.PacketFields
import CameraEv.Session.StopRequest

/-!
# `Camera::OnRecvWorker`

The receive thread hands every packet that it has read to `OnRecvWorker`, under
no `try`: the factory makes the object for the main name, its reader takes the
fields, and one of three handlers acts. A run of it that has no value is a null
pointer, an index outside an array, an exception, or a call on a streamer that
does not return. What the environment answers (files, the parts of a streamer,
where the threads are that a restart joins, a new send worker) is an argument.
-/

namespace CameraEv

open Exec Trace CPacketDefine

/-! ## When a streamer's restart returns -/

namespace Camera

open State

/-- The streamer goes from `s` to `t` by calls on it. -/
def Calls (s t : Streamer.State) : Prop := ∃ acts, run Streamer.State.step s acts = some t

theorem Calls.refl (s : Streamer.State) : Calls s s := ⟨[], rfl⟩

theorem Calls.parts {s t : Streamer.State} (calls : Calls s t) (parts : Streamer.Parts s) : Streamer.Parts t := by
  obtain ⟨acts, ran⟩ := calls
  exact run_invariant (fun parts _ h => Streamer.Parts.step parts h) parts along_true ran

section Calls

variable {s t : Streamer.State} {outcome : Outcome}

theorem calls_reload (h : reload s outcome = some t) : Calls s t := by
  obtain ⟨c₁, s₁, c₂, s₂, c₃, s₃, c₄, deactivated, finalized, initialized, activated⟩ := reload_eq h
  refine ⟨[.deactivate, .finalize, .initializeStreamer outcome.decoderInitialized outcome.sessionInitialized,
    .activate outcome.sessionActivated outcome.decoderActivated], ?_⟩
  simp only [run, Streamer.State.step, deactivated, finalized, initialized, activated, Option.map_some]

theorem calls_onTimerCheckStream {late : Bool} (h : onTimerCheckStream s late outcome = some t) : Calls s t := by
  simp only [onTimerCheckStream] at h
  split at h
  · cases h
    exact .refl s
  split at h
  · cases h
    exact .refl s
  simp only [Option.bind_eq_bind, Option.bind_eq_some_iff, Prod.exists] at h
  obtain ⟨c₁, s₁, deactivated, c₂, s₂, activated, h⟩ := h
  cases h
  refine ⟨[.deactivate, .activate outcome.sessionActivated outcome.decoderActivated], ?_⟩
  simp only [run, Streamer.State.step, deactivated, activated, Option.map_some]

theorem calls_sample (h : sample s outcome = some t) : Calls s t := by
  simp only [sample, Option.bind_eq_bind, Option.bind_eq_some_iff, Prod.exists] at h
  obtain ⟨code, s₁, initialized, h⟩ := h
  split at h
  · rename_i same
    cases same
    simp only [Option.bind_eq_some_iff, Prod.exists] at h
    obtain ⟨c₂, s₂, activated, h⟩ := h
    cases h
    refine ⟨[.initializeStreamer outcome.decoderInitialized outcome.sessionInitialized,
      .activate outcome.sessionActivated outcome.decoderActivated], ?_⟩
    simp only [run, Streamer.State.step, initialized, activated, Option.map_some]
  · cases h

end Calls

theorem calls_onStreamer {c d : Camera.State} {ii : Fin 3} {body : Streamer.State → Option Streamer.State}
    (calls : ∀ {s t}, body s = some t → Calls s t) (h : c.onStreamer ii body = some d) (jj : Fin 3) :
    Calls (c.streamers jj) (d.streamers jj) := by
  obtain ⟨ran, others⟩ := onStreamer_eq h
  by_cases same : jj = ii
  · subst same
    exact calls ran
  · rw [others jj same]
    exact .refl _

theorem calls_loadCamerasPbFile {c d : Camera.State} {file : SetupFile} {outcomes : Fin 3 → Outcome} {code : Nat}
    (h : c.loadCamerasPbFile file outcomes = some (code, d)) (ii : Fin 3) :
    Calls (c.streamers ii) (d.streamers ii) := by
  simp only [State.loadCamerasPbFile, Option.bind_eq_bind, Option.bind_eq_some_iff, Prod.exists] at h
  obtain ⟨ret, info, -, h⟩ := h
  split at h
  · cases h
    exact .refl _
  · simp only [Option.bind_eq_some_iff] at h
    obtain ⟨c', loop, h⟩ := h
    cases h
    have each := forStreamers_eq loop ii
    split at each
    · exact calls_reload each
    · rw [← Option.some.inj each]
      exact .refl _

/-- A step of the camera is calls on its streamers. -/
theorem calls_step {c d : Camera.State} {a : Act} (h : c.step a = some d) (ii : Fin 3) :
    Calls (c.streamers ii) (d.streamers ii) := by
  cases a with
  | loadCamerasPbFile file outcomes =>
    obtain ⟨⟨code, c'⟩, ran, rfl⟩ := Option.map_eq_some_iff.1 h
    exact calls_loadCamerasPbFile ran ii
  | onTimerCheckStream jj late outcome => exact calls_onStreamer calls_onTimerCheckStream h ii
  | sample outcome => exact calls_onStreamer calls_sample h ii
  | deactivate =>
    refine ⟨[.deactivate], ?_⟩
    simp only [run, Streamer.State.step, forStreamers_eq h ii]
  | raiseSession jj =>
    refine calls_onStreamer (fun {s t} raised => ⟨[.raiseSession], ?_⟩) h ii
    simp only [run, Streamer.State.step, raised]
  | raiseDecoder jj =>
    refine calls_onStreamer (fun {s t} raised => ⟨[.raiseDecoder], ?_⟩) h ii
    simp only [run, Streamer.State.step, raised]

/-- A streamer between two packets. -/
structure Sound (s : Streamer.State) : Prop where
  parts : Streamer.Parts s
  idle : Idle s

theorem sound_step {c d : Camera.State} {a : Act} (sound : ∀ ii, Sound (c.streamers ii)) (h : c.step a = some d)
    (ii : Fin 3) : Sound (d.streamers ii) :=
  ⟨(calls_step h ii).parts (sound ii).parts, idle_step (fun jj => (sound jj).idle) h ii⟩

/-- The thread has not been started, or has come as far as `m_thread_running = true`. -/
def begun (w : WorkerThread) : Bool := !w.joinable || w.running

/-- A streamer that `LoadCamerasPbFile` can take down: threads that it joins have begun, and the decoder that it
finalizes has its stream queue. -/
structure Restartable (s : Streamer.State) : Prop where
  session : s.initialized = true → s.session.all begun = true
  decoder : s.initialized = true → (s.decoder.all fun d => begun d.thread) = true
  queue : s.decoder.all Streamer.Decoder.queue = true

section Restart

open Streamer (Quiet)

variable {s : Streamer.State} {outcome : Outcome}

end Restart

/-! ## When a setup file can be loaded -/

/-- Nothing that can be loaded, or settings for three streams whose streamers can be taken down where they are used. -/
def Loadable (c : Camera.State) : SetupFile → Prop
  | .missing | .unreadable => True
  | .camera streamInfo => 3 ≤ streamInfo.length ∧
      ∀ ii : Fin 3, (streamInfo.getD ii {}).streamUsed = true → Restartable (c.streamers ii)

end Camera

/-! ## The receive thread -/

namespace OnRecvWorker

open Camera (SetupFile Outcome Loadable)

/-- What the environment answers while a packet is handled. -/
structure Environment where
  /-- The setup file at a path. -/
  files : List UInt8 → SetupFile := fun _ => .missing
  outcomes : Fin 3 → Outcome := fun _ => {}
  /-- Where the thread of each session is in the join, when nothing comes from the network any more. -/
  sessions : Fin 3 → Session_RTSP.State := fun _ => { loop := .wait }
  /-- Whether the timer of each decoder wakes the decoder's thread in the join. -/
  woken : Fin 3 → Bool := fun _ => true
  /-- Whether the activation of a new send worker succeeds. -/
  activated : Bool := true

namespace Environment

/-- Whether `Deactivate` of the streamer comes out of its two joins, where there is a thread to join. -/
def joins (env : Environment) (ii : Fin 3) (s : Streamer.State) : Bool :=
  !s.initialized ||
    (s.session.all fun w => !w.joinable || (env.sessions ii).joins) &&
      s.decoder.all fun d => !d.thread.joinable || env.woken ii

/-- The threads that are joined can be stopped where they are. -/
structure Stops (env : Environment) (ii : Fin 3) (s : Streamer.State) : Prop where
  session : s.initialized = true → ∀ w, s.session = some w → w.joinable = true → (env.sessions ii).Stoppable
  decoder : s.initialized = true → ∀ d, s.decoder = some d → d.thread.joinable = true → env.woken ii = true

/-- The file can be loaded, and the threads of the streamers that it uses can be stopped. -/
def Restarts (env : Environment) (c : Camera.State) (file : SetupFile) : Prop :=
  Loadable c file ∧ ∀ code info, Camera.loadCameraInfoPB file = some (code, info) →
    ∀ ii, (info ii).streamUsed = true → env.Stops ii (c.streamers ii)

end Environment

structure State where
  camera : Camera.State := {}
  sendManager : SendWorkerManager := {}
  /-- The frame settings of each streamer's decoder. -/
  frameInfo : Fin 3 → Fin ftNum → FrameInfo := fun _ _ => {}

namespace State

/-- What the handlers of requests see of the camera. -/
def packets (s : State) : CameraPackets.State :=
  { sendManager := s.sendManager, active := fun ii => (s.camera.streamers ii).isActivate, frameInfo := s.frameInfo }

/-- What they change of it. -/
def withPackets (s : State) (packets : CameraPackets.State) : State :=
  { s with sendManager := packets.sendManager, frameInfo := packets.frameInfo }

def onRecvProcessInfoReq (env : Environment) (s : State) (packet : PacketProcessInfoReq) : State :=
  s.withPackets (s.packets.onRecvProcessInfoReq packet env.activated)

/-- A used stream is restarted, and gets a new decoder, which has the settings of a new `DecoderInfo`. -/
def onRecvStreamInfo (env : Environment) (s : State) (packet : PacketStreamInfo) : Exec State :=
  match s.camera.loadCamerasPbFile (env.files packet.setupFile) env.outcomes,
      Camera.loadCameraInfoPB (env.files packet.setupFile) with
  | some (_, camera), some (_, info) =>
    if ∀ ii, (info ii).streamUsed = true → env.joins ii (s.camera.streamers ii) = true then
      return { s with camera, frameInfo := fun ii => if (info ii).streamUsed then fun _ => {} else s.frameInfo ii }
    else throw .fault
  | _, _ => throw .fault

def onRecvStreamRequest (s : State) (packet : PacketStreamRequest) : Exec State :=
  return s.withPackets (← s.packets.onRecvStreamRequest packet)

/-- `OnRecvWorker`; the object of an unknown name is a null pointer. -/
def onRecvWorker (env : Environment) (s : State) (packetName : List UInt8) (packetReader : CPacketReader) :
    Exec State :=
  match PacketStruct.createFactory packetName with
  | none => throw .fault
  | some packet => do
    match ← packet.reader packetReader with
    | (_, .processInfoReq packet) => return s.onRecvProcessInfoReq env packet
    | (_, .streamInfo packet) => s.onRecvStreamInfo env packet
    | (_, .streamRequest packet) => s.onRecvStreamRequest packet
    | _ => return s

end State

inductive Act where
  | onRecvWorker (env : Environment) (packetName : List UInt8) (packetReader : CPacketReader)
  /-- A call on the camera from elsewhere, or a step of a streamer's thread; the table and the frame settings are
  as it leaves them. -/
  | camera (a : Camera.Act) (sendManager : SendWorkerManager) (frameInfo : Fin 3 → Fin ftNum → FrameInfo)

def State.step (s : State) : Act → Option State
  | .onRecvWorker env packetName packetReader => (s.onRecvWorker env packetName packetReader).toOption
  | .camera a sendManager frameInfo => do return { camera := ← s.camera.step a, sendManager, frameInfo }

/-- The packet has a known name, numbers in its numeric fields and what its handler needs: a setup file that can be
loaded and streamers that can be restarted, or one of the three streams and, for an active one, a frame type. -/
def Usable (env : Environment) (s : State) (name : List UInt8) (blocks : List Block) : Prop :=
  ∃ packet, PacketStruct.createFactory name = some packet ∧
    (∀ key ∈ packet.numericKeys, numericField blocks key = true) ∧
      match packet with
      | .streamInfo p => env.Restarts s.camera (env.files (textField blocks (ascii "SetupFile") p.setupFile))
      | .streamRequest p => ∃ ii,
        CameraPackets.streamerIndex (IntegerType.int32.field blocks (ascii "StreamIndex") p.streamIndex) = some ii ∧
          ((s.camera.streamers ii).isActivate = true →
            (frameIndex (IntegerType.int32.field blocks (ascii "FrameType") p.frameType)).isSome = true)
      | _ => True

variable {env : Environment} {s t : State} {a : Act}

def Sound (s : State) : Prop := ∀ ii, Camera.Sound (s.camera.streamers ii)

/-- A handled packet changes the streamers by a load at most. -/
theorem camera_of_onRecvWorker {name : List UInt8} {r : CPacketReader} (h : s.onRecvWorker env name r = .ok t) :
    t.camera = s.camera ∨ ∃ file outcomes, s.camera.step (.loadCamerasPbFile file outcomes) = some t.camera := by
  unfold State.onRecvWorker at h
  split at h
  · cases h
  obtain ⟨⟨ret, read⟩, -, h⟩ := bind_eq_ok.1 h
  cases read with
  | streamInfo p =>
    simp only [State.onRecvStreamInfo] at h
    split at h
    · rename_i code camera _ _ loaded _
      split at h
      · cases h
        refine .inr ⟨env.files p.setupFile, env.outcomes, ?_⟩
        simp only [Camera.State.step, loaded, Option.map_some]
      · cases h
    · cases h
  | streamRequest p =>
    simp only [State.onRecvStreamRequest] at h
    obtain ⟨packets, -, h⟩ := bind_eq_ok.1 h
    cases h
    exact .inl rfl
  | frame p | processInfoReq p | processInfo p | streamStatus p =>
    cases h
    exact .inl rfl

theorem Sound.step (sound : Sound s) (h : s.step a = some t) : Sound t := by
  cases a with
  | onRecvWorker env packetName packetReader =>
    have handled : s.onRecvWorker env packetName packetReader = .ok t := by
      simp only [State.step] at h
      cases ran : s.onRecvWorker env packetName packetReader with
      | error e =>
        rw [ran] at h
        cases h
      | ok u =>
        rw [ran] at h
        rw [Option.some.inj h]
    intro ii
    rcases camera_of_onRecvWorker handled with same | ⟨file, outcomes, loaded⟩
    · rw [same]
      exact sound ii
    · exact Camera.sound_step sound loaded ii
  | camera a sendManager frameInfo =>
    obtain ⟨camera, moved, h⟩ := Option.bind_eq_some_iff.1 h
    cases h
    exact Camera.sound_step sound moved

end OnRecvWorker

end CameraEv
