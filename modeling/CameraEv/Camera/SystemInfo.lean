import CameraEv.Camera.CameraStreams
import CameraEv.Decoder.DecoderQueues
import CameraEv.Decoder.DecoderTimers

/-!
# The settings of a setup file

A stream's settings are copied from `CameraInfo` into the message of the setup
file, back into a `CameraInfo`, and from there into what its `Streamer` is
initialised with. What is not copied at one of these hops has the default of the
next structure. The message is a parameter as far as its bytes go: `serialize`
and `parse` are protobuf's; so are the conversions of the camera's name.
-/

namespace CameraEv.SystemInfo

open DecoderQueues Exec

/-! ## The structures -/

structure StreamInfo where
  url : String := "rtsp://"
  ip : String := ""
  userId : String := ""
  userPw : String := ""
  port : Int32 := 554
  streamAccumulateTime : Int32 := 500
  fps : Int32 := 0
  tcp : Bool := true
  streamUsed : Bool := false
  deriving DecidableEq

/-- `W` is the type of wide strings. -/
structure CameraInfo (W : Type) where
  cameraId : Int32 := -1
  cameraFile : String := ""
  cameraGuid : String := ""
  cameraName : W
  streamInfo : Fin 3 → StreamInfo := fun _ => {}

/-- The message `Camera.StreamInfo`. -/
structure StreamNode where
  url : String := ""
  ip : String := ""
  port : UInt32 := 0
  userId : String := ""
  userPw : String := ""
  tcp : Bool := false
  streamAccumulateTime : UInt32 := 0
  fps : UInt32 := 0
  streamUsed : Bool := false
  deriving DecidableEq

/-- The message `Camera`. -/
structure CameraPb where
  cameraGuid : String := ""
  cameraName : String := ""
  streamInfo : List StreamNode := []
  deriving DecidableEq

def sessionTypeRtsp : Int32 := 2

structure SessionInfo where
  name : String := ""
  url : String := ""
  authId : String := ""
  authPw : String := ""
  type : Int32 := 0
  port : Int32 := 0
  useTcp : Bool := true
  deriving DecidableEq

structure DecoderInfo where
  type : Int32 := 1
  vcodecId : Int32 := vcodecIdH264
  frameInfo : Fin ftNum → FrameInfo := fun _ => {}
  queueAccumulateTime : Int32 := 1000
  fps : Int32 := 0
  deriving DecidableEq

/-- Without the callback. -/
structure StreamerInfo where
  streamIndex : Int32 := 0
  streamUsed : Bool := false
  sessionInfo : SessionInfo := {}
  decoderInfo : DecoderInfo := {}
  deriving DecidableEq

/-! ## The setup file -/

def saveStream (info : StreamInfo) : StreamNode where
  url := info.url
  ip := info.ip
  port := info.port.toUInt32
  userId := info.userId
  userPw := info.userPw
  tcp := info.tcp
  streamAccumulateTime := info.streamAccumulateTime.toUInt32
  fps := info.fps.toUInt32
  streamUsed := info.streamUsed

def loadStream (node : StreamNode) : StreamInfo where
  url := node.url
  ip := node.ip
  port := node.port.toInt32
  userId := node.userId
  userPw := node.userPw
  tcp := node.tcp
  streamAccumulateTime := node.streamAccumulateTime.toInt32
  fps := node.fps.toInt32
  streamUsed := node.streamUsed

variable {W B : Type}

/-- What is returned, and what the file holds when the message was written. -/
def saveCameraInfoPB (serialize : CameraPb → Option B) (toUtf8 : W → String) (info : CameraInfo W) : Nat × Option B :=
  match serialize {
    cameraGuid := info.cameraGuid
    cameraName := toUtf8 info.cameraName
    streamInfo := (List.finRange 3).map fun ii => saveStream (info.streamInfo ii) } with
  | none => (1, none)
  | some bytes => (0, some bytes)

/-- The loop over the streams; `camera_pb.stream_info(ii)` has no meaning behind the last one. -/
def loadStreams (pb : CameraPb) (info : CameraInfo W) : Option (CameraInfo W) :=
  (List.finRange 3).foldlM (fun info ii => do
    let node ← pb.streamInfo[ii.val]?
    return { info with streamInfo := Function.update info.streamInfo ii (loadStream node) }) info

/-- What is returned, and the caller's `camera_info`; `file` is what the file holds, if it exists. -/
def loadCameraInfoPB (parse : B → Option CameraPb) (toUnicode : String → W) (file : Option B) (info : CameraInfo W) :
    Option (Nat × CameraInfo W) :=
  match file with
  | none => some (1, info)
  | some bytes => match parse bytes with
    | none => some (2, info)
    | some pb =>
      (loadStreams pb { info with cameraGuid := pb.cameraGuid, cameraName := toUnicode pb.cameraName }).map fun info => (0, info)

/-! ## The streamers -/

/-- `streamer_init` in `LoadCamerasPbFile`. -/
def streamerInit (ii : Fin 3) (info : StreamInfo) : StreamerInfo where
  streamIndex := Int32.ofNat ii
  streamUsed := info.streamUsed
  sessionInfo := {
    name := "Rtsp  stream index[" ++ toString ii.val ++ "] Url[" ++ info.url ++ "]"
    url := info.url
    authId := info.userId
    authPw := info.userPw
    type := sessionTypeRtsp
    port := info.port
    useTcp := info.tcp }
  decoderInfo := { fps := info.fps }

/-- What is returned, and the streamers that are initialised, in order, with what. -/
def loadCamerasPbFile [Inhabited W] (parse : B → Option CameraPb) (toUnicode : String → W) (setupFile : String)
    (file : Option B) : Option (Nat × List (Fin 3 × StreamerInfo)) := do
  let (ret, info) ← loadCameraInfoPB parse toUnicode file { cameraFile := setupFile, cameraName := default }
  if ret ≠ 0 then return (1, [])
  else return (0, ((List.finRange 3).filter fun ii => (info.streamInfo ii).streamUsed).map fun ii =>
    (ii, streamerInit ii (info.streamInfo ii)))

/-- The settings of a stream are in force in what its streamer is initialised with. `decodingFps` is the rate of the
decoder's loop where the queue is short, measured if none is configured, and `holdsBack` the loop's pop section, with a
frame in front that was pushed at `item.time`. -/
structure Reaches (saved : StreamInfo) (init : StreamerInfo) : Prop where
  url : init.sessionInfo.url = saved.url
  authId : init.sessionInfo.authId = saved.userId
  authPw : init.sessionInfo.authPw = saved.userPw
  port : init.sessionInfo.port = saved.port
  useTcp : init.sessionInfo.useTcp = saved.tcp
  fps : init.decoderInfo.fps = saved.fps
  decodingFps : ∀ (curFps queueSize : Nat) (adaptiveFps : Int), queueSize ≤ (5 * curFps + 2) / 4 → adaptiveFps ≠ 0 →
    Decoder.getDecodingFps curFps queueSize adaptiveFps init.decoderInfo.fps.toInt =
      if saved.fps.toInt = Decoder.decodeFpsAuto then adaptiveFps else saved.fps.toInt
  holdsBack : ∀ (q : Queues) (item : QueueVideoSrc) (rest : List QueueVideoSrc) (arr : List UInt8) (now : Int),
    q.queueSrc = item :: rest → q.queueAccumulateTime = init.decoderInfo.queueAccumulateTime →
      (popSection q arr now = .ok (none, arr, q) ↔
        now - item.time < saved.streamAccumulateTime.toInt * 1000000)

/-! ## What is loaded -/

@[simp] theorem loadStream_saveStream (info : StreamInfo) : loadStream (saveStream info) = info := rfl

/-- The streams are all there and each is copied, or the loop reads behind the last one. -/
theorem loadStreams_eq (pb : CameraPb) (info : CameraInfo W) :
    loadStreams pb info = if 3 ≤ pb.streamInfo.length then
      some { info with streamInfo := fun ii => loadStream (pb.streamInfo.getD ii {}) } else none := by
  obtain ⟨guid, name, nodes⟩ := pb
  match nodes with
  | [] => rfl
  | [_] => rfl
  | [_, _] => rfl
  | a :: b :: c :: rest =>
    have all : Function.update (Function.update (Function.update info.streamInfo 0 (loadStream a)) 1 (loadStream b)) 2
        (loadStream c) = fun ii : Fin 3 => loadStream ((a :: b :: c :: rest).getD ii {}) := by
      funext ii
      match ii with
      | 0 => rfl
      | 1 => rfl
      | 2 => rfl
    rw [if_pos (by simp only [List.length_cons]; omega), ← all]
    rfl

section Load

variable (parse : B → Option CameraPb) (toUnicode : String → W)

/-- The file as the streamers' run sees it. -/
def setupFile (file : Option B) : Camera.SetupFile :=
  match file with
  | none => .missing
  | some bytes => match parse bytes with
    | none => .unreadable
    | some pb => .camera (pb.streamInfo.map fun node => { streamUsed := node.streamUsed })

/-- The streamers' run reads `stream_used` as the loader leaves it in a new `CameraInfo`. -/
theorem loadCameraInfoPB_used (file : Option B) (cameraFile : String) (cameraName : W) :
    (loadCameraInfoPB parse toUnicode file { cameraFile, cameraName }).map (fun r =>
      (r.1, fun ii => ({ streamUsed := (r.2.streamInfo ii).streamUsed } : Camera.StreamInfo))) =
      Camera.loadCameraInfoPB (setupFile parse file) := by
  cases file with
  | none => rfl
  | some bytes =>
    cases read : parse bytes with
    | none => simp only [loadCameraInfoPB, setupFile, read, Option.map_some, Camera.loadCameraInfoPB]
    | some pb =>
      simp only [loadCameraInfoPB, setupFile, read, loadStreams_eq, Camera.loadCameraInfoPB, List.length_map]
      split
      · have used (ii : Fin 3) : ({ streamUsed := (pb.streamInfo.getD ii {}).streamUsed } : Camera.StreamInfo) =
            (pb.streamInfo.map fun node => ({ streamUsed := node.streamUsed } : Camera.StreamInfo)).getD ii {} := by
          simp only [List.getD_eq_getElem?_getD, List.getElem?_map]
          cases pb.streamInfo[ii.val]? with
          | none => rfl
          | some node => rfl
        simp only [Option.map_some, loadStream, used]
      · rfl

/-- What a loader owes its caller: no element is read that is not there, a failure leaves `camera_info`,
and of the streams that are there each is copied, in order. -/
def LoadsSafely (file : Option B) (info : CameraInfo W) : Prop :=
  ∃ ret loaded, loadCameraInfoPB parse toUnicode file info = some (ret, loaded) ∧
    (ret ≠ 0 → loaded = info) ∧
    ∀ bytes pb, file = some bytes → parse bytes = some pb → ret = 0 → ∀ ii : Fin 3,
      loaded.streamInfo ii = (pb.streamInfo[ii.val]?).elim (info.streamInfo ii) loadStream

/-- **Exactly the messages with at least three streams load safely.** -/
theorem load_safe_iff (file : Option B) (info : CameraInfo W) :
    LoadsSafely parse toUnicode file info ↔
      ∀ bytes pb, file = some bytes → parse bytes = some pb → 3 ≤ pb.streamInfo.length := by
  constructor
  · rintro ⟨ret, loaded, ran, -, -⟩ bytes pb rfl read
    by_contra short
    simp only [loadCameraInfoPB, read, loadStreams_eq, if_neg short, Option.map_none, reduceCtorEq] at ran
  · intro enough
    cases file with
    | none => exact ⟨1, info, rfl, fun _ => rfl, fun _ _ absent => by cases absent⟩
    | some bytes =>
      cases read : parse bytes with
      | none =>
        refine ⟨2, info, by simp only [loadCameraInfoPB, read], fun _ => rfl, ?_⟩
        rintro _ pb ⟨⟩ parsed
        simp only [read, reduceCtorEq] at parsed
      | some pb =>
        have long := enough bytes pb rfl read
        refine ⟨0, { info with
          cameraGuid := pb.cameraGuid
          cameraName := toUnicode pb.cameraName
          streamInfo := fun ii => loadStream (pb.streamInfo.getD ii {}) }, ?_, fun failed => absurd rfl failed, ?_⟩
        · simp only [loadCameraInfoPB, read, loadStreams_eq, if_pos long, Option.map_some]
        · rintro _ pb' ⟨⟩ parsed - ii
          cases read.symm.trans parsed
          have there : ii.val < pb.streamInfo.length := by omega
          simp only [List.getD_eq_getElem?_getD, List.getElem?_eq_getElem there, Option.getD_some, Option.elim_some]

/-- A message with one stream parses, and its second stream is read. -/
theorem load_unsafe_one :
    loadCameraInfoPB some id (some { streamInfo := [{}] }) { cameraName := "" } = none ∧
      ¬ LoadsSafely some id (some { streamInfo := [{}] }) { cameraName := "" } := by
  refine ⟨rfl, ?_⟩
  rintro ⟨ret, loaded, ran, -, -⟩
  cases ran

/-! ## What reaches the decoder -/

/-- The loop breaks in front of a frame exactly as long as the accumulation time of the decoder has not passed. -/
theorem popSection_breaks_iff {q : Queues} {item : QueueVideoSrc} {rest : List QueueVideoSrc}
    (front : q.queueSrc = item :: rest) (arr : List UInt8) (now : Int) :
    popSection q arr now = .ok (none, arr, q) ↔ now - item.time < q.queueAccumulateTime.toInt * 1000000 := by
  constructor
  · intro ran
    by_contra late
    simp only [popSection, front, if_neg late, bind_eq_ok, pure_eq_ok, Except.ok.injEq, Prod.mk.injEq, reduceCtorEq,
      false_and, and_false, exists_const, exists_false] at ran
  · intro early
    simp only [popSection, front, if_pos early, pure_eq_ok]

/-- A configured rate is the one that the loop decodes with; without one it is the measured rate. -/
theorem getDecodingFps_short {curFps queueSize : Nat} {adaptiveFps : Int} (short : queueSize ≤ (5 * curFps + 2) / 4)
    (measured : adaptiveFps ≠ 0) (fps : Int) : Decoder.getDecodingFps curFps queueSize adaptiveFps fps =
      if fps = Decoder.decodeFpsAuto then adaptiveFps else fps := by
  rw [Decoder.getDecodingFps, if_neg (Nat.not_lt.2 short)]
  by_cases auto : fps = Decoder.decodeFpsAuto
  · simp only [auto, true_and, if_true, ite_self, if_neg measured]
  · simp only [auto, false_and, if_false, if_neg (show ¬ fps = 0 from auto)]

/-- All but the accumulation time is handed on, and a new `DecoderInfo` has the one of a second. -/
theorem reaches_streamerInit_iff (ii : Fin 3) (info : StreamInfo) :
    Reaches info (streamerInit ii info) ↔ info.streamAccumulateTime = 1000 := by
  constructor
  · intro reaches
    have due (now : Int) : now < 1000 * 1000000 ↔ now < info.streamAccumulateTime.toInt * 1000000 := by
      have pops := reaches.holdsBack ⟨{}, [⟨⟨{}, false, ⟨0, 0⟩⟩, 0⟩], 1000⟩ _ _ [] now rfl rfl
      rw [popSection_breaks_iff rfl, Int.sub_zero] at pops
      exact pops
    -- neither time is over before the other one
    have configured := due (info.streamAccumulateTime.toInt * 1000000)
    have second := due (1000 * 1000000)
    have same : info.streamAccumulateTime.toInt = (1000 : Int32).toInt := by
      rw [show (1000 : Int32).toInt = 1000 from rfl]
      omega
    exact Int32.toInt_inj.1 same
  · intro same
    refine ⟨rfl, rfl, rfl, rfl, rfl, rfl, fun _ _ _ short measured => getDecodingFps_short short measured _,
      fun q item rest arr now front settings => ?_⟩
    rw [popSection_breaks_iff front, settings, same]
    rfl

/-- What was saved is loaded, and the used streams get their streamers. -/
theorem loadCamerasPbFile_saved [Inhabited W] {serialize : CameraPb → Option B} {toUtf8 : W → String}
    {info : CameraInfo W} {bytes : B} (lossless : ∀ pb, serialize pb = some bytes → parse bytes = some pb)
    (saved : saveCameraInfoPB serialize toUtf8 info = (0, some bytes)) (file : String) :
    loadCamerasPbFile parse toUnicode file (some bytes) =
      some (0, ((List.finRange 3).filter fun ii => (info.streamInfo ii).streamUsed).map fun ii =>
        (ii, streamerInit ii (info.streamInfo ii))) := by
  simp only [saveCameraInfoPB] at saved
  split at saved
  · simp only [Prod.mk.injEq, reduceCtorEq, and_false] at saved
  · rename_i written serialized
    obtain rfl : written = bytes := by
      simpa only [Prod.mk.injEq, Option.some.injEq, true_and] using saved
    have streams : (fun ii : Fin 3 => loadStream
        (((List.finRange 3).map fun ii => saveStream (info.streamInfo ii)).getD ii {})) = info.streamInfo := by
      funext ii
      have there : ((List.finRange 3).map fun ii => saveStream (info.streamInfo ii))[ii.val]? =
          some (saveStream (info.streamInfo ii)) := by
        simp
      rw [List.getD_eq_getElem?_getD, there, Option.getD_some, loadStream_saveStream]
    have three : 3 ≤ ((List.finRange 3).map fun ii => saveStream (info.streamInfo ii)).length := by
      simp only [List.length_map, List.length_finRange, le_refl]
    simp only [loadCamerasPbFile, loadCameraInfoPB, lossless _ serialized, loadStreams_eq, if_pos three, streams,
      Option.map_some, Option.bind_eq_bind, Option.bind_some, ne_eq, not_true_eq_false, if_false]
    rfl

/-- **Exactly the accumulation time of a second reaches the decoder**, whatever was saved: the other
settings of a used stream always do. -/
theorem settings_reach_iff [Inhabited W] (serialize : CameraPb → Option B) (toUtf8 : W → String)
    (info : CameraInfo W) (bytes : B) (lossless : ∀ pb, serialize pb = some bytes → parse bytes = some pb)
    (saved : saveCameraInfoPB serialize toUtf8 info = (0, some bytes)) (file : String) :
    ∃ inits, loadCamerasPbFile parse toUnicode file (some bytes) = some (0, inits) ∧
      inits.map Prod.fst = (List.finRange 3).filter (fun ii => (info.streamInfo ii).streamUsed) ∧
      ((∀ x ∈ inits, Reaches (info.streamInfo x.1) x.2) ↔
        ∀ ii, (info.streamInfo ii).streamUsed = true → (info.streamInfo ii).streamAccumulateTime = 1000) := by
  refine ⟨_, loadCamerasPbFile_saved parse toUnicode lossless saved file, ?_, ?_⟩
  · simp only [List.map_map, Function.comp_def, List.map_id']
  · simp only [List.forall_mem_map, List.mem_filter, List.mem_finRange, true_and, reaches_streamerInit_iff]

end Load

/-! Runs on a medium that keeps the message as it is. -/

/-- Two streams of three are used. -/
def twoStreams (streamAccumulateTime : Int32) : CameraInfo String where
  cameraName := "entrance"
  streamInfo ii := { url := "rtsp://entrance", fps := 30, tcp := false, streamAccumulateTime, streamUsed := ii.val < 2 }

theorem settings_reach_second :
    ∃ bytes inits, saveCameraInfoPB some id (twoStreams 1000) = (0, some bytes) ∧
      loadCamerasPbFile some id "setup" (some bytes) = some (0, inits) ∧
      inits.map Prod.fst = [0, 1] ∧ ∀ x ∈ inits, Reaches ((twoStreams 1000).streamInfo x.1) x.2 := by
  obtain ⟨inits, loaded, used, reach⟩ :=
    settings_reach_iff some id some id (twoStreams 1000) _ (fun _ kept => kept.symm) rfl "setup"
  exact ⟨_, inits, rfl, loaded, used.trans rfl, reach.2 fun _ _ => rfl⟩

/-- The accumulation time of a new `StreamInfo` is lost: the decoder waits a second instead of half of one. -/
theorem settings_lost_default :
    ∃ bytes inits, saveCameraInfoPB some id (twoStreams 500) = (0, some bytes) ∧
      loadCamerasPbFile some id "setup" (some bytes) = some (0, inits) ∧
      ∃ x ∈ inits, x.2.decoderInfo.queueAccumulateTime = 1000 ∧ ¬ Reaches ((twoStreams 500).streamInfo x.1) x.2 := by
  refine ⟨_, _, rfl, rfl, (0, streamerInit 0 ((twoStreams 500).streamInfo 0)), .head _, rfl, ?_⟩
  rw [reaches_streamerInit_iff]
  decide

end CameraEv.SystemInfo
