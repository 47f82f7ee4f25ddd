import CameraEv.Decoder.BufferSizes

/-!
# What the callback is told of the frames

The runs of `Decoder.Buffers` with a record beside them: the picture that the
iteration has decoded, the frame types that `Decode` has converted in it, the
size of the picture that each vector holds and the settings that
`SetAllocBuffer` has sized it for. `SetDstBufferInfo` copies the frame infos
before `Decode` stores the size of the picture and before it decides which types
are converted, so the copy can be about an earlier picture, and a vector can
keep one.
-/

namespace CameraEv.Decoder.Buffers.Delivery

open Trace Exec SendWorkerManager

/-- Width and height. -/
def infoSize (info : FrameInfo) : Int32 × Int32 := (info.width, info.height)

def pictureSize (picture : Picture) : Int32 × Int32 := (picture.width, picture.height)

structure Watched where
  memory : Memory
  /-- What the iteration has decoded. -/
  picture : Option Picture := none
  /-- The size of the last picture before; at first what the decoder starts with. -/
  previous : Int32 × Int32
  /-- The types that the iteration has converted. -/
  converted : Fin ftNum → Bool := fun _ => false
  /-- The size of the picture in each vector, from the conversion that has written it. -/
  held : Fin ftNum → Option (Int32 × Int32) := fun _ => none
  /-- The same when the iteration began. -/
  heldBefore : Fin ftNum → Option (Int32 × Int32) := fun _ => none
  /-- What `SetAllocBuffer` has sized each vector for. -/
  sized : Fin ftNum → List FrameInfo := fun _ => []

/-- The size of the last picture. -/
def Watched.recorded (s : Watched) : Int32 × Int32 :=
  match s.picture with
  | some picture => pictureSize picture
  | none => s.previous

/-- The loop of `SetAllocBuffer` is entered next. -/
def allocates (m : Memory) : Bool :=
  match m.point with
  | .decoded _ ret => ret = 0 ∧ 0 < (m.frameInfo ftOriginal).width ∧ 0 < (m.frameInfo ftOriginal).height
  | _ => false

/-- What a conversion does to the record; a failed one spoils what it writes to. -/
def Watched.noteConvert (s : Watched) (ii : Fin ftNum) (p : ConvertParam) (code written : Nat) : Watched :=
  if code = 0 then
    { s with
      converted := Function.update s.converted ii true
      held := Function.update s.held ii (some (p.dstWidth, p.dstHeight)) }
  else if written = 0 then s
  else { s with held := Function.update s.held ii none }

def Watched.noteSized (s : Watched) : Watched :=
  { s with sized := fun ii =>
      if Skipped (s.memory.frameInfo ii) then s.sized ii else s.memory.frameInfo ii :: s.sized ii }

/-- What a step adds to the record. -/
def Watched.note (s : Watched) : Act → Watched
  | .threadLoop _ => { s with held := fun _ => none, sized := fun _ => [] }
  | .setDstBufferInfo =>
    { s with picture := none, previous := s.recorded, converted := fun _ => false, heldBefore := s.held }
  | .decode (some picture) => if picture.width ≤ 0 then s else { s with picture := some picture }
  | .convert answers =>
    match converting s.memory.point with
    | some (p, ii) =>
      s.noteConvert ii p (s.memory.converter.convert p answers).1 (s.memory.converter.convert p answers).2.1
    | none => s
  | .setAllocBuffer _ => if allocates s.memory then s.noteSized else s
  | _ => s

def step (bufferSize : Int32 → Int32 → Int32 → Int32) (s : Watched) (a : Act) : Option Watched :=
  (Buffers.step bufferSize s.memory a).map fun memory => { s.note a with memory }

def Watched.initial (frameInfo : Fin ftNum → FrameInfo) (addresses : Fin ftNum → Nat) (param : ConvertParam) :
    Watched where
  memory := .initial frameInfo addresses param
  previous := infoSize (frameInfo ftOriginal)

/-- The record changes nothing in what the thread does. -/
theorem run_memory (bufferSize : Int32 → Int32 → Int32 → Int32) (s : Watched) (acts : List Act) :
    (run (step bufferSize) s acts).map Watched.memory = run (Buffers.step bufferSize) s.memory acts := by
  induction acts generalizing s with
  | nil => rfl
  | cons a acts ih =>
    simp only [run, step]
    cases Buffers.step bufferSize s.memory a with
    | none => rfl
    | some memory => exact ih _

/-- What the callback gets, when it is next. -/
def delivering : Point → Option Dest
  | .callback dst => some dst
  | _ => none

def isStart : Point → Bool
  | .start => true
  | _ => false

/-- `SetFrameInfo` stores between two iterations only. -/
def Quiet (s : Watched) : Act → Prop
  | .store => isStart s.memory.point = true
  | _ => True

instance (s : Watched) : ∀ a, Decidable (Quiet s a)
  | .store => inferInstanceAs (Decidable (_ = true))
  | .threadLoop _ | .setFrameInfo .. | .setDstBufferInfo | .decode _ | .read | .convert _ | .setAllocBuffer _ | .callback =>
    .isTrue trivial

/-- The original size is that of the picture of this iteration, and the size of a type that is enabled that of the
picture in its vector. -/
def Described (s : Watched) : Act → Prop
  | .callback => ∀ dst ∈ delivering s.memory.point,
    s.picture.map pictureSize = some (infoSize (dst.frameInfo ftOriginal)) ∧
      ∀ ii, ¬ Skipped (s.memory.frameInfo ii) → s.held ii = some (infoSize (dst.frameInfo ii))
  | _ => True

instance (s : Watched) : ∀ a, Decidable (Described s a)
  | .callback => inferInstanceAs (Decidable (∀ dst ∈ delivering s.memory.point, _ ∧ ∀ _ : Fin ftNum, _ → _))
  | .threadLoop _ | .setFrameInfo .. | .store | .setDstBufferInfo | .decode _ | .read | .convert _ | .setAllocBuffer _ =>
    .isTrue trivial

/-- Every packet that `SendFrame` makes of the delivered frames has these sizes. -/
def Labelled (s : Watched) : Act → Prop
  | .callback => ∀ dst ∈ delivering s.memory.point, ∀ (m : SendWorkerManager) (cameraGuid : List UInt8)
      (streamIndex : Int32) (data : DecoderVideoDest) (sent : List (List UInt8 × PacketFrame)),
    data.frameInfo = dst.frameInfo → m.sendFrame cameraGuid streamIndex data = .ok sent →
    ∀ x ∈ sent, s.picture.map pictureSize = some (x.2.streamWidth, x.2.streamHeight) ∧
      ∀ ii, frameIndex x.2.frameType = some ii → ¬ Skipped (s.memory.frameInfo ii) →
        s.held ii = some (x.2.frameWidth, x.2.frameHeight)
  | _ => True

/-- The first three tests of the loop body of `Decode`. -/
def Wanted (info : FrameInfo) (b : Buffer) : Prop :=
  (pointTo {} b).data ≠ none ∧ ¬ (pointTo {} b).dataSize < 128 ∧ info.decode = true ∧ info.pixelFormat ≠ 0

/-- `Decode` converts into the vector. -/
def Passes (bufferSize : Int32 → Int32 → Int32 → Int32) (info : FrameInfo) (b : Buffer) : Prop :=
  Wanted info b ∧
    ¬ (pointTo {} b).dataSize < bufferSize (FFmpeg.getToAVPixelFormat info.pixelFormat) info.width info.height

instance (info : FrameInfo) (b : Buffer) : Decidable (Wanted info b) := inferInstanceAs (Decidable (_ ∧ _ ∧ _ ∧ _))

instance (bufferSize : Int32 → Int32 → Int32 → Int32) (info : FrameInfo) (b : Buffer) :
    Decidable (Passes bufferSize info b) := inferInstanceAs (Decidable (_ ∧ _))

/-- The picture has the size of the one before, and the vector of a type that is enabled passes the tests of `Decode`
or held a picture of this size before. -/
def Settled (bufferSize : Int32 → Int32 → Int32 → Int32) (s : Watched) : Act → Prop
  | .callback => (delivering s.memory.point).isSome = true →
    s.picture.map pictureSize = some s.previous ∧
      ∀ ii, ¬ Skipped (s.memory.frameInfo ii) →
        Passes bufferSize (s.memory.frameInfo ii) (s.memory.buffers ii) ∨
          s.heldBefore ii = some (infoSize (s.memory.frameInfo ii))
  | _ => True

instance (bufferSize : Int32 → Int32 → Int32 → Int32) (s : Watched) : ∀ a, Decidable (Settled bufferSize s a)
  | .callback => inferInstanceAs (Decidable (_ → _ ∧ ∀ _ : Fin ftNum, _ → _ ∨ _))
  | .threadLoop _ | .setFrameInfo .. | .store | .setDstBufferInfo | .decode _ | .read | .convert _ | .setAllocBuffer _ =>
    .isTrue trivial

/-! ## One iteration -/

section Iteration

variable {bufferSize : Int32 → Int32 → Int32 → Int32} {s t : Watched} {a : Act}

/-- The iteration has left the type alone. -/
def Untouched (s : Watched) (ii : Fin ftNum) : Prop := s.converted ii = false ∧ s.held ii = s.heldBefore ii

/-- What the loop body of `Decode` has done with the type, where no conversion has failed. -/
def Treated (bufferSize : Int32 → Int32 → Int32 → Int32) (s : Watched) (ii : Fin ftNum) : Prop :=
  (Passes bufferSize (s.memory.frameInfo ii) (s.memory.buffers ii) →
    s.converted ii = true ∧ s.held ii = some (infoSize (s.memory.frameInfo ii))) ∧
  (¬ Passes bufferSize (s.memory.frameInfo ii) (s.memory.buffers ii) → Untouched s ii)

/-- The frame infos in `dst` are the decoder's from before `Decode`. -/
structure Copied (s : Watched) (dst : Dest) : Prop where
  original : infoSize (dst.frameInfo ftOriginal) = s.previous
  others : ∀ ii, ii ≠ ftOriginal → dst.frameInfo ii = s.memory.frameInfo ii

/-- What the loop body of `Decode` has found out where it is. -/
def ReadSo (bufferSize : Int32 → Int32 → Int32 → Int32) (info : FrameInfo) (b : Buffer) : Reading → Prop
  | .frame => True
  | .decode => (pointTo {} b).data ≠ none ∧ ¬ (pointTo {} b).dataSize < 128
  | .isNone => (pointTo {} b).data ≠ none ∧ ¬ (pointTo {} b).dataSize < 128 ∧ info.decode = true
  | .pixelFormat => Wanted info b
  | .width f => Wanted info b ∧ f = FFmpeg.getToAVPixelFormat info.pixelFormat
  | .height f w => Wanted info b ∧ f = FFmpeg.getToAVPixelFormat info.pixelFormat ∧ w = info.width
  | .compare f w h => Wanted info b ∧ f = FFmpeg.getToAVPixelFormat info.pixelFormat ∧ w = info.width ∧ h = info.height
  | .convert _ w h => Passes bufferSize info b ∧ (w, h) = infoSize info

/-- What holds where the iteration is. -/
def PointOk (bufferSize : Int32 → Int32 → Int32 → Int32) (s : Watched) : Point → Prop
  | .start => True
  | .decode dst => s.picture = none ∧ Taken dst s.memory.buffers ∧ Copied s dst ∧ ∀ ii, Untouched s ii
  | .loop dst picture ret ii reading =>
    s.picture = some picture ∧ Taken dst s.memory.buffers ∧ Copied s dst ∧
      (ret = 0 → (∀ jj < ii, Treated bufferSize s jj) ∧ ∀ jj, ii ≤ jj → Untouched s jj) ∧
      ReadSo bufferSize (s.memory.frameInfo ii) (s.memory.buffers ii) reading
  | .decoded dst ret =>
    s.picture.isSome = true ∧ Taken dst s.memory.buffers ∧ Copied s dst ∧ (ret = 0 → ∀ ii, Treated bufferSize s ii)
  | .callback dst => s.picture.isSome = true ∧ Copied s dst ∧ ∀ ii, Treated bufferSize s ii

structure Inv (bufferSize : Int32 → Int32 → Int32 → Int32) (s : Watched) : Prop where
  /-- Of the original frames only the format is ever stored. -/
  stores : ∀ info fs, s.memory.writer = some (ftOriginal, info, fs) → ∀ f ∈ fs, f = .pixelFormat
  recorded : infoSize (s.memory.frameInfo ftOriginal) = s.recorded
  point : PointOk bufferSize s s.memory.point

/-- A read leaves the type untreated because of a test, or it finds out more. -/
theorem readItem_cases {info : FrameInfo} {dst : Dest} {b : Buffer} {picture : Picture} {ret : Nat} {ii : Fin ftNum}
    {reading : Reading} {point : Point} (taken : dst.frame ii = pointTo {} b) (so : ReadSo bufferSize info b reading)
    (read : readItem bufferSize info dst picture ret ii reading = some point) :
    point = nextItem dst picture ret ii ∧ ¬ Passes bufferSize info b ∨
      ∃ reading', point = .loop dst picture ret ii reading' ∧ ReadSo bufferSize info b reading' := by
  cases reading with
  | frame =>
    simp only [readItem, taken] at read
    split at read
    · rename_i small
      cases read
      refine .inl ⟨rfl, ?_⟩
      rintro ⟨⟨present, large, -⟩, -⟩
      rcases small with none | less
      · exact present none
      · exact large less
    · rename_i large
      cases read
      exact .inr ⟨_, rfl, fun none => large (.inl none), fun less => large (.inr less)⟩
  | decode =>
    simp only [readItem] at read
    split at read
    · rename_i decode
      cases read
      exact .inr ⟨_, rfl, so.1, so.2, decode⟩
    · rename_i off
      cases read
      exact .inl ⟨rfl, fun passes => off passes.1.2.2.1⟩
  | isNone =>
    simp only [readItem] at read
    split at read
    · rename_i none
      cases read
      exact .inl ⟨rfl, fun passes => passes.1.2.2.2 none⟩
    · rename_i format
      cases read
      exact .inr ⟨_, rfl, so.1, so.2.1, so.2.2, format⟩
  | pixelFormat =>
    cases read
    exact .inr ⟨_, rfl, so, rfl⟩
  | width f =>
    cases read
    exact .inr ⟨_, rfl, so.1, so.2, rfl⟩
  | height f w =>
    cases read
    exact .inr ⟨_, rfl, so.1, so.2.1, so.2.2, rfl⟩
  | compare f w h =>
    obtain ⟨wanted, rfl, rfl, rfl⟩ := so
    simp only [readItem, taken] at read
    split at read
    · rename_i less
      cases read
      exact .inl ⟨rfl, fun passes => passes.2 less⟩
    · rename_i enough
      cases read
      exact .inr ⟨_, rfl, ⟨wanted, enough⟩, rfl⟩
  | convert f w h => cases read

/-- `Decode` is done with a type. -/
theorem pointOk_nextItem {dst : Dest} {picture : Picture} {ret : Nat} {ii : Fin ftNum} (decoded : s.picture = some picture)
    (taken : Taken dst s.memory.buffers) (copied : Copied s dst)
    (treated : ret = 0 → (∀ jj ≤ ii, Treated bufferSize s jj) ∧ ∀ jj, ii < jj → Untouched s jj) :
    PointOk bufferSize s (nextItem dst picture ret ii) := by
  unfold nextItem
  split
  · rename_i more
    refine ⟨decoded, taken, copied, fun zero => ⟨fun jj before => ?_, fun jj behind => ?_⟩, trivial⟩
    · exact (treated zero).1 jj (Fin.le_def.2 (Nat.le_of_lt_succ (Fin.lt_def.1 before)))
    · exact (treated zero).2 jj (Fin.lt_def.2 (Nat.lt_of_succ_le (Fin.le_def.1 behind)))
  · rename_i last
    refine ⟨?_, taken, copied, fun zero jj => (treated zero).1 jj (Fin.le_def.2 ?_)⟩
    · rw [decoded]
      rfl
    · have bound := jj.isLt
      omega

/-- Both records are of one iteration, and the decoder has not changed in between. -/
structure Agree (s u : Watched) : Prop where
  frameInfo : u.memory.frameInfo = s.memory.frameInfo
  buffers : u.memory.buffers = s.memory.buffers
  picture : u.picture = s.picture
  previous : u.previous = s.previous
  heldBefore : u.heldBefore = s.heldBefore

variable {u : Watched} {jj : Fin ftNum} {dst : Dest}

theorem Copied.agree (copied : Copied s dst) (agree : Agree s u) : Copied u dst := by
  refine ⟨?_, fun ii other => ?_⟩
  · rw [agree.previous, copied.original]
  · rw [agree.frameInfo, copied.others ii other]

theorem Untouched.agree (untouched : Untouched s jj) (agree : Agree s u) (converted : u.converted jj = s.converted jj)
    (held : u.held jj = s.held jj) : Untouched u jj := by
  unfold Untouched
  rw [converted, held, agree.heldBefore]
  exact untouched

theorem Treated.agree (treated : Treated bufferSize s jj) (agree : Agree s u)
    (converted : u.converted jj = s.converted jj) (held : u.held jj = s.held jj) : Treated bufferSize u jj := by
  unfold Treated
  rw [agree.frameInfo, agree.buffers, converted, held]
  exact ⟨treated.1, fun fails => (treated.2 fails).agree agree converted held⟩

/-- A point asks for nothing else of the record. -/
theorem PointOk.agree {point : Point} (ok : PointOk bufferSize s point) (agree : Agree s u)
    (converted : u.converted = s.converted) (held : u.held = s.held) : PointOk bufferSize u point := by
  have untouched : ∀ {ii}, Untouched s ii → Untouched u ii := fun left =>
    left.agree agree (congrFun converted _) (congrFun held _)
  have treated : ∀ {ii}, Treated bufferSize s ii → Treated bufferSize u ii := fun done =>
    done.agree agree (congrFun converted _) (congrFun held _)
  cases point with
  | start => trivial
  | decode dst =>
    obtain ⟨fresh, taken, copied, left⟩ := ok
    exact ⟨agree.picture.trans fresh, agree.buffers ▸ taken, copied.agree agree, fun ii => untouched (left ii)⟩
  | loop dst picture ret ii reading =>
    obtain ⟨decoded, taken, copied, done, so⟩ := ok
    refine ⟨agree.picture.trans decoded, agree.buffers ▸ taken, copied.agree agree, fun zero => ?_, ?_⟩
    · exact ⟨fun jj before => treated ((done zero).1 jj before), fun jj behind => untouched ((done zero).2 jj behind)⟩
    · rw [agree.frameInfo, agree.buffers]
      exact so
  | decoded dst ret =>
    obtain ⟨decoded, taken, copied, done⟩ := ok
    exact ⟨agree.picture ▸ decoded, agree.buffers ▸ taken, copied.agree agree, fun zero ii => treated (done zero ii)⟩
  | callback dst =>
    obtain ⟨decoded, copied, done⟩ := ok
    exact ⟨agree.picture ▸ decoded, copied.agree agree, fun ii => treated (done ii)⟩

theorem agree_noteConvert (ii : Fin ftNum) (p : ConvertParam) (code written : Nat) :
    Agree s (s.noteConvert ii p code written) := by
  unfold Watched.noteConvert
  split
  · exact ⟨rfl, rfl, rfl, rfl, rfl⟩
  split
  · exact ⟨rfl, rfl, rfl, rfl, rfl⟩
  · exact ⟨rfl, rfl, rfl, rfl, rfl⟩

/-- A conversion that succeeds treats its type; behind one that fails there is no callback. -/
theorem pointOk_convert {picture : Picture} {ret code written : Nat} {ii : Fin ftNum} {f w h : Int32} {p : ConvertParam}
    (ok : PointOk bufferSize s (.loop dst picture ret ii (.convert f w h))) (size : (p.dstWidth, p.dstHeight) = (w, h))
    (agree : Agree s u) (converted : u.converted = (s.noteConvert ii p code written).converted)
    (held : u.held = (s.noteConvert ii p code written).held) :
    PointOk bufferSize u (nextItem dst picture (if code ≠ 0 then 4 else ret) ii) := by
  obtain ⟨decoded, taken, copied, treated, passes, size'⟩ := ok
  have taken : Taken dst u.memory.buffers := agree.buffers ▸ taken
  apply pointOk_nextItem (agree.picture.trans decoded) taken (copied.agree agree)
  intro zero
  by_cases success : code = 0
  · unfold Watched.noteConvert at converted held
    rw [if_pos success] at converted held
    rw [if_neg (not_not.2 success)] at zero
    obtain ⟨before, behind⟩ := treated zero
    have others : ∀ {jj}, jj ≠ ii → u.converted jj = s.converted jj ∧ u.held jj = s.held jj := by
      intro jj other
      rw [converted, held]
      exact ⟨Function.update_of_ne other .., Function.update_of_ne other ..⟩
    refine ⟨fun jj upTo => ?_, fun jj later => ?_⟩
    · rcases lt_or_eq_of_le upTo with less | rfl
      · exact (before jj less).agree agree (others (ne_of_lt less)).1 (others (ne_of_lt less)).2
      · refine ⟨fun _ => ⟨?_, ?_⟩, fun fails => ?_⟩
        · rw [converted]
          exact Function.update_self ..
        · rw [held, agree.frameInfo, ← size', ← size]
          exact Function.update_self ..
        · rw [agree.frameInfo, agree.buffers] at fails
          exact absurd passes fails
    · exact (behind jj later.le).agree agree (others (ne_of_gt later)).1 (others (ne_of_gt later)).2
  · rw [if_pos success] at zero
    cases zero

theorem allocItem_kept {info : FrameInfo} {frame : DestFrame} {b : Buffer} {address : Nat}
    (kept : (allocItem info frame b address).2.2 = false) : (allocItem info frame b address).2.1 = b := by
  by_cases skipped : Skipped info
  · rw [allocItem_skipped skipped]
  rw [allocItem_enabled skipped] at kept ⊢
  simp only at kept ⊢
  split
  · rename_i less
    rw [if_pos less] at kept
    cases kept
  · rfl

/-- Where nothing is allocated the vectors stay as they are. -/
theorem setAllocBuffer_kept {frameInfo : Fin ftNum → FrameInfo} {buffers : Fin ftNum → Buffer}
    {addresses : Fin ftNum → Nat} (kept : (Decoder.setAllocBuffer frameInfo dst buffers addresses).2.2 = false) :
    (Decoder.setAllocBuffer frameInfo dst buffers addresses).2.1 = buffers := by
  funext ii
  have item := List.any_eq_false.1 kept ii (List.mem_finRange ii)
  exact allocItem_kept (eq_false_of_ne_true item)

theorem eq_start {point : Point} (start : isStart point = true) : point = .start := by
  cases point with
  | start => rfl
  | decode dst => cases start
  | loop dst picture ret ii reading => cases start
  | decoded dst ret => cases start
  | callback dst => cases start

/-- No store changes the size of the original frames. -/
theorem infoSize_store {frameInfo : Fin ftNum → FrameInfo} {type : Fin ftNum} {info : FrameInfo} {f : Field}
    (original : type = ftOriginal → f = .pixelFormat) :
    infoSize (Function.update frameInfo type (f.copy info (frameInfo type)) ftOriginal) =
      infoSize (frameInfo ftOriginal) := by
  by_cases same : type = ftOriginal
  · rw [original same, same, Function.update_self]
    rfl
  · rw [Function.update_of_ne (Ne.symm same)]

theorem note_noPicture {picture : Option Picture} (small : ∀ p ∈ picture, p.width ≤ 0) : s.note (.decode picture) = s := by
  cases picture with
  | none => rfl
  | some p => exact if_pos (small p rfl)

theorem note_picture {picture : Picture} (positive : ¬ picture.width ≤ 0) :
    s.note (.decode (some picture)) = { s with picture := some picture } := if_neg positive

theorem note_convert {picture : Picture} {ret : Nat} {ii : Fin ftNum} {f w h : Int32} {answers : Converter.Answers}
    (point : s.memory.point = .loop dst picture ret ii (.convert f w h)) :
    s.note (.convert answers) = s.noteConvert ii (convertParam dst picture ii f w h)
      (s.memory.converter.convert (convertParam dst picture ii f w h) answers).1
      (s.memory.converter.convert (convertParam dst picture ii f w h) answers).2.1 := by
  simp only [Watched.note, point, converting]

theorem note_failed {ret : Nat} {addresses : Fin ftNum → Nat} (point : s.memory.point = .decoded dst ret) (ne : ret ≠ 0) :
    s.note (.setAllocBuffer addresses) = s := by
  simp only [Watched.note, allocates, point, ne, decide_false, false_and, Bool.false_eq_true, if_false]

theorem note_allocated {addresses : Fin ftNum → Nat} (point : s.memory.point = .decoded dst 0)
    (resolution : 0 < (s.memory.frameInfo ftOriginal).width ∧ 0 < (s.memory.frameInfo ftOriginal).height) :
    s.note (.setAllocBuffer addresses) = s.noteSized := by
  simp only [Watched.note, allocates, point, resolution, and_self, decide_true, if_true]

theorem note_noResolution {ret : Nat} {addresses : Fin ftNum → Nat} (point : s.memory.point = .decoded dst ret)
    (unknown : ¬ (0 < (s.memory.frameInfo ftOriginal).width ∧ 0 < (s.memory.frameInfo ftOriginal).height)) :
    s.note (.setAllocBuffer addresses) = s := by
  simp only [Watched.note, allocates, point, unknown, and_false, decide_false, Bool.false_eq_true, if_false]

theorem Inv.step (inv : Inv bufferSize s) (quiet : Quiet s a) (h : Delivery.step bufferSize s a = some t) :
    Inv bufferSize t := by
  obtain ⟨stores, recorded, ok⟩ := inv
  obtain ⟨m, moved, rfl⟩ := Option.map_eq_some_iff.1 h
  cases moves_of_step moved with
  | threadLoop point =>
    refine ⟨stores, recorded, ?_⟩
    show PointOk bufferSize _ s.memory.point
    rw [point]
    trivial
  | @setFrameInfo type info free =>
    refine ⟨?_, recorded, ok.agree ⟨rfl, rfl, rfl, rfl, rfl⟩ rfl rfl⟩
    intro info' fs writer f mem
    cases writer
    exact List.mem_singleton.1 mem
  | @store type info f fs writer =>
    refine ⟨?_, ?_, ?_⟩
    · intro info' fs' rest g mem
      simp only at rest
      split at rest
      · cases rest
      · have rest := Option.some.inj rest
        cases rest
        exact stores _ _ writer g (List.mem_cons_of_mem f mem)
    · refine (infoSize_store ?_).trans recorded
      rintro rfl
      exact stores info (f :: fs) writer f List.mem_cons_self
    · show PointOk bufferSize _ s.memory.point
      rw [eq_start quiet]
      trivial
  | setDstBufferInfo point free =>
    exact ⟨stores, recorded, rfl, fun ii => rfl, ⟨recorded, fun ii other => rfl⟩, fun ii => ⟨rfl, rfl⟩⟩
  | @noPicture dst picture point small =>
    rw [note_noPicture small]
    exact ⟨stores, recorded, trivial⟩
  | @picture dst picture point positive =>
    rw [point] at ok
    obtain ⟨-, taken, copied, untouched⟩ := ok
    rw [note_picture positive]
    refine ⟨stores, ?_, rfl, taken, ⟨copied.original, fun ii other => ?_⟩, fun _ => ⟨fun jj before => ?_, fun jj _ => ?_⟩,
      trivial⟩
    · simp only [Watched.recorded, Function.update_self]
      rfl
    · exact (copied.others ii other).trans (Function.update_of_ne other ..).symm
    · exact absurd before (Nat.not_lt_zero _)
    · exact untouched jj
  | @read dst picture ret ii reading point' point read =>
    rw [point] at ok
    obtain ⟨decoded, taken, copied, treated, so⟩ := ok
    have ok' : PointOk bufferSize s point' := by
      rcases readItem_cases (taken ii) so read with ⟨rfl, fails⟩ | ⟨reading', rfl, so'⟩
      · apply pointOk_nextItem decoded taken copied
        intro zero
        obtain ⟨before, behind⟩ := treated zero
        refine ⟨fun jj upTo => ?_, fun jj later => behind jj later.le⟩
        rcases lt_or_eq_of_le upTo with less | rfl
        · exact before jj less
        · exact ⟨fun passes => absurd passes fails, fun _ => behind jj le_rfl⟩
      · exact ⟨decoded, taken, copied, treated, so'⟩
    exact ⟨stores, recorded, ok'.agree ⟨rfl, rfl, rfl, rfl, rfl⟩ rfl rfl⟩
  | @convert dst picture ret ii f w height answers point =>
    rw [point] at ok
    rw [note_convert point]
    have agree := @agree_noteConvert s ii (convertParam dst picture ii f w height)
      (s.memory.converter.convert (convertParam dst picture ii f w height) answers).1
      (s.memory.converter.convert (convertParam dst picture ii f w height) answers).2.1
    refine ⟨stores, ?_, pointOk_convert ok rfl ⟨rfl, rfl, agree.picture, agree.previous, agree.heldBefore⟩ rfl rfl⟩
    simp only [Watched.recorded, agree.picture, agree.previous]
    exact recorded
  | @failed dst ret addresses point ne =>
    rw [note_failed point ne]
    exact ⟨stores, recorded, trivial⟩
  | @setAllocBuffer dst addresses point resolution free =>
    rw [point] at ok
    obtain ⟨decoded, taken, copied, treated⟩ := ok
    rw [note_allocated point resolution]
    refine ⟨stores, recorded, ?_⟩
    simp only
    split
    · trivial
    · rename_i kept
      have same := setAllocBuffer_kept (eq_false_of_ne_true kept)
      have ok' : PointOk bufferSize s
          (.callback (Decoder.setAllocBuffer s.memory.frameInfo dst s.memory.buffers addresses).1) :=
        ⟨decoded, ⟨copied.original, copied.others⟩, treated rfl⟩
      exact ok'.agree ⟨rfl, same, rfl, rfl, rfl⟩ rfl rfl
  | @noResolution dst addresses point unknown =>
    rw [point] at ok
    obtain ⟨decoded, taken, copied, treated⟩ := ok
    rw [note_noResolution point unknown]
    have ok' : PointOk bufferSize s (.callback dst) := ⟨decoded, copied, treated rfl⟩
    exact ⟨stores, recorded, ok'.agree ⟨rfl, rfl, rfl, rfl, rfl⟩ rfl rfl⟩
  | callback point => exact ⟨stores, recorded, trivial⟩

theorem inv_initial (frameInfo : Fin ftNum → FrameInfo) (addresses : Fin ftNum → Nat) (param : ConvertParam) :
    Inv bufferSize (.initial frameInfo addresses param) :=
  ⟨fun info fs writer => (by cases writer), rfl, trivial⟩

/-! ## The callback -/

/-- The point of a callback, and what is known there. -/
theorem Inv.delivering (inv : Inv bufferSize s) (mem : dst ∈ Delivery.delivering s.memory.point) :
    s.picture.isSome = true ∧ Copied s dst ∧ ∀ ii, Treated bufferSize s ii := by
  have ok := inv.point
  cases point : s.memory.point with
  | callback dst' =>
    rw [point] at mem ok
    cases mem
    exact ok
  | start => rw [point] at mem; cases mem
  | decode dst' => rw [point] at mem; cases mem
  | loop dst' picture ret ii reading => rw [point] at mem; cases mem
  | decoded dst' ret => rw [point] at mem; cases mem

/-- Where the picture has the size of the one before, the copied sizes are the decoder's. -/
theorem Inv.copied_size (inv : Inv bufferSize s) (copied : Copied s dst)
    (same : s.picture.map pictureSize = some s.previous) (ii : Fin ftNum) :
    infoSize (dst.frameInfo ii) = infoSize (s.memory.frameInfo ii) := by
  by_cases original : ii = ftOriginal
  · obtain ⟨picture, decoded, size⟩ := Option.map_eq_some_iff.1 same
    rw [original, copied.original, inv.recorded, Watched.recorded, decoded]
    exact size.symm
  · rw [copied.others ii original]

theorem Inv.described_iff (inv : Inv bufferSize s) : Described s a ↔ Settled bufferSize s a := by
  cases a with
  | callback =>
    show (∀ dst ∈ Delivery.delivering s.memory.point, _) ↔ ((Delivery.delivering s.memory.point).isSome = true → _)
    constructor
    · intro described some
      obtain ⟨dst, mem⟩ := Option.isSome_iff_exists.1 some
      obtain ⟨-, copied, treated⟩ := inv.delivering mem
      obtain ⟨original, sizes⟩ := described dst mem
      have same : s.picture.map pictureSize = Option.some s.previous := by rw [original, copied.original]
      refine ⟨same, fun ii enabled => ?_⟩
      by_cases passes : Passes bufferSize (s.memory.frameInfo ii) (s.memory.buffers ii)
      · exact .inl passes
      · rw [← inv.copied_size copied same, ← sizes ii enabled]
        exact .inr ((treated ii).2 passes).2.symm
    · intro settled dst mem
      obtain ⟨-, copied, treated⟩ := inv.delivering mem
      obtain ⟨same, types⟩ := settled (Option.isSome_iff_exists.2 ⟨dst, mem⟩)
      refine ⟨by rw [same, copied.original], fun ii enabled => ?_⟩
      rw [inv.copied_size copied same]
      by_cases passes : Passes bufferSize (s.memory.frameInfo ii) (s.memory.buffers ii)
      · exact ((treated ii).1 passes).2
      · rw [((treated ii).2 passes).2]
        exact (types ii enabled).resolve_left passes
  | _ => exact ⟨fun _ => trivial, fun _ => trivial⟩

end Iteration

/-! ## The packets -/

section Packets

variable {data : DecoderVideoDest} {streamIndex : Int32} {p p' : PacketFrame}
  {sent sent' : List (List UInt8 × PacketFrame)}

/-- The packet has the size of the original frames. -/
def Heads (data : DecoderVideoDest) (p : PacketFrame) : Prop :=
  (p.streamWidth, p.streamHeight) = infoSize (data.frameInfo ftOriginal)

/-- And the size of its own frame type. -/
def Tells (data : DecoderVideoDest) (p : PacketFrame) : Prop :=
  Heads data p ∧ ∀ ii, frameIndex p.frameType = some ii → (p.frameWidth, p.frameHeight) = infoSize (data.frameInfo ii)

theorem tells_sendItem {item : SendWorkInfo} (heads : Heads data p) (told : ∀ x ∈ sent, Tells data x.2)
    (ran : sendItem streamIndex data (p, sent) item = .ok (p', sent')) : Heads data p' ∧ ∀ x ∈ sent', Tells data x.2 := by
  simp only [sendItem] at ran
  split at ran
  · cases ran
    exact ⟨heads, told⟩
  split at ran
  · cases ran
    exact ⟨heads, told⟩
  split at ran
  · cases ran
    exact ⟨heads, told⟩
  · obtain ⟨info, element_info, ran⟩ := bind_eq_ok.1 ran
    obtain ⟨frame, -, ran⟩ := bind_eq_ok.1 ran
    cases ran
    refine ⟨heads, fun x mem => ?_⟩
    rcases List.mem_append.1 mem with earlier | last
    · exact told x earlier
    · rw [List.mem_singleton.1 last]
      refine ⟨heads, fun ii typed => ?_⟩
      simp only [element, typed, pure_eq_ok, Except.ok.injEq] at element_info
      rw [element_info]
      rfl

theorem tells_foldlM {items : List SendWorkInfo} (heads : Heads data p) (told : ∀ x ∈ sent, Tells data x.2)
    (ran : items.foldlM (sendItem streamIndex data) (p, sent) = .ok (p', sent')) : ∀ x ∈ sent', Tells data x.2 := by
  induction items generalizing p sent with
  | nil =>
    cases ran
    exact told
  | cons item items ih =>
    rw [List.foldlM_cons] at ran
    obtain ⟨⟨p₁, sent₁⟩, first, ran⟩ := bind_eq_ok.1 ran
    obtain ⟨heads, told⟩ := tells_sendItem heads told first
    exact ih heads told ran

/-- Every packet has the sizes of the frame infos that `SendFrame` gets. -/
theorem tells_sendFrame {m : SendWorkerManager} {cameraGuid : List UInt8}
    (ran : m.sendFrame cameraGuid streamIndex data = .ok sent) : ∀ x ∈ sent, Tells data x.2 := by
  simp only [sendFrame] at ran
  obtain ⟨⟨p, sent'⟩, looped, ran⟩ := bind_eq_ok.1 ran
  cases ran
  refine tells_foldlM ?_ (fun x mem => (by cases mem)) looped
  rfl

end Packets

theorem Described.labelled {s : Watched} {a : Act} (described : Described s a) : Labelled s a := by
  cases a with
  | callback =>
    intro dst mem m cameraGuid streamIndex data sent same ran x packet
    obtain ⟨original, sizes⟩ := described dst mem
    obtain ⟨heads, told⟩ := tells_sendFrame ran x packet
    refine ⟨?_, fun ii typed enabled => ?_⟩
    · rw [heads, same, original]
    · rw [told ii typed, same, sizes ii enabled]
  | _ => trivial

/-- **The sizes that are delivered belong to the frames** in exactly the iterations that decode a picture of the size of
the one before and whose enabled types are converted, or keep a picture of the same size; the packets of `SendFrame`
then have them too. -/
theorem described_iff_settled {bufferSize : Int32 → Int32 → Int32 → Int32} {frameInfo : Fin ftNum → FrameInfo}
    {addresses : Fin ftNum → Nat} {param : ConvertParam} {acts : List Act}
    (quiet : Along (step bufferSize) Quiet (.initial frameInfo addresses param) acts) :
    Along (step bufferSize) (fun s a => Described s a ∧ Labelled s a) (.initial frameInfo addresses param) acts ↔
      Along (step bufferSize) (Settled bufferSize) (.initial frameInfo addresses param) acts :=
  along_congr (fun inv quiet h => inv.step quiet h)
    (fun inv _ => ⟨fun both => inv.described_iff.1 both.1, fun settled =>
      ⟨inv.described_iff.2 settled, (inv.described_iff.2 settled).labelled⟩⟩)
    (inv_initial frameInfo addresses param) quiet

/-- Display frames of 8 by 8 points in RGB. -/
def displayFrames (type : Fin ftNum) : FrameInfo :=
  if type.val = 1 then { pixelFormat := 4, width := 8, height := 8, decode := true } else {}

def displayStart : Watched := .initial displayFrames (fun _ => 5) ⟨0, 0, 0, none, 0, 0, 0, 0⟩

/-- An iteration that decodes a picture, converts the display frames and delivers. -/
def iteration (width height : Int32) : List Act :=
  [.setDstBufferInfo, .decode (some ⟨0, width, height⟩), .read, .read, .read, .read, .read, .read, .read, .read,
    .convert ⟨true, true, true, 192, 8, 192⟩, .read, .setAllocBuffer fun _ => 7, .callback]

/-- The first iteration allocates. -/
def firstIteration (width height : Int32) : List Act :=
  [.setDstBufferInfo, .decode (some ⟨0, width, height⟩), .read, .read, .read, .setAllocBuffer fun _ => 7]

/-- The second picture has the size of the first. -/
theorem described_iff_settled_display :
    Along (step packedSize) (fun s a => Described s a ∧ Labelled s a) displayStart
      (firstIteration 16 16 ++ iteration 16 16) :=
  (described_iff_settled (by decide +kernel)).2 (by decide +kernel)

/-- The third picture is larger: the callback gets the size of the second one with it. -/
theorem resolution_change_misdescribed :
    (∃ s, run (step packedSize) displayStart (firstIteration 16 16 ++ iteration 16 16 ++ iteration 32 24) = some s) ∧
      ¬ Along (step packedSize) Described displayStart (firstIteration 16 16 ++ iteration 16 16 ++ iteration 32 24) :=
  ⟨Option.isSome_iff_exists.1 (by decide +kernel), by decide +kernel⟩

end CameraEv.Decoder.Buffers.Delivery
