import CameraEv.Decoder.DecoderBuffers
import CameraEv.Lib.Resources

/-!
# The cached scaler of `Converter_FFmpeg`

A converter keeps its two frames and its context from one `Convert` to the next
and makes them anew when the formats or sizes of the request are others. Each call
of FFmpeg that makes, uses or frees one of the three is an event of a log, with
the pointer that is handed over, null or not; `sws_scale` needs a context for the
request of the call that it is in. What the allocating calls return is part of
the call: a pointer to nothing that is in use, or null. The branches for FFmpeg 3
are not compiled and are left out.
-/

namespace CameraEv.ScalerCache

open Resources Trace

/-- The formats and sizes of a conversion: what `sws_getContext` is asked for. -/
structure Request where
  srcPixelFormat : Int32
  srcWidth : Int32
  srcHeight : Int32
  dstPixelFormat : Int32
  dstWidth : Int32
  dstHeight : Int32
  deriving DecidableEq

def request (p : ConvertParam) : Request :=
  ⟨p.srcPixelFormat, p.srcWidth, p.srcHeight, p.dstPixelFormat, p.dstWidth, p.dstHeight⟩

inductive Resource where
  | frame
  | context (request : Request)
  deriving DecidableEq

abbrev Log := List (Event Nat Resource)

/-- `Converter_FFmpeg`, with the log of all its calls of FFmpeg. -/
structure State where
  avframeSrc : Option Nat := none
  avframeDst : Option Nat := none
  swsContexts : Option Nat := none
  param : ConvertParam
  log : Log := []
  destroyed : Bool := false

/-- What FFmpeg answers during one `Convert`. -/
structure Answers where
  avframeSrc : Option Nat
  avframeDst : Option Nat
  swsContexts : Option Nat
  fillSrc : Int32
  fillDst : Int32
  scale : Int32

/-- A call that returns a new resource or null; there is no such call that returns a pointer in use. -/
def allocate (log : Log) (r : Resource) : Option Nat → Option Log
  | none => some log
  | some h => if heapOf log h = none then some (log ++ [.create h r]) else none

def free (log : Log) : Option Nat → Log
  | none => log
  | some h => log ++ [.destroy h]

namespace State

def use (s : State) (h : Option Nat) (r : Resource) : State := { s with log := s.log ++ [.use h r] }

def isEqualParam (s : State) (p : ConvertParam) : Bool := ({ param := s.param } : Converter).isEqualParam p

def finalize (s : State) : State := { s with
  avframeSrc := none
  avframeDst := none
  swsContexts := none
  log := free (free (free s.log s.avframeSrc) s.avframeDst) s.swsContexts }

/-- `if (nullptr == m_avframe_src) m_avframe_src = av_frame_alloc()`. -/
def allocSrc (s : State) (answer : Option Nat) : Option State :=
  match s.avframeSrc with
  | some _ => some s
  | none => (allocate s.log .frame answer).map fun log => { s with avframeSrc := answer, log }

def allocDst (s : State) (answer : Option Nat) : Option State :=
  match s.avframeDst with
  | some _ => some s
  | none => (allocate s.log .frame answer).map fun log => { s with avframeDst := answer, log }

/-- The context is made for `m_param`. -/
def getContext (s : State) (answer : Option Nat) : Option State :=
  match s.swsContexts with
  | some _ => some s
  | none => (allocate s.log (.context (request s.param)) answer).map fun log => { s with swsContexts := answer, log }

/-- `Converter_FFmpeg::Initialize`. -/
def initializeConverter (s : State) (p : ConvertParam) (a : Answers) : Option (Nat × State) := do
  let s := if s.isEqualParam p then s else s.finalize
  let s := { s with param := p }
  let s ← s.allocSrc a.avframeSrc
  if s.avframeSrc = none then return (1, s)
  let s ← s.allocDst a.avframeDst
  if s.avframeDst = none then return (1, s)
  let s ← s.getContext a.swsContexts
  if s.swsContexts = none then return (2, s)
  return (0, s)

/-- The line size of a DIB is stored into the frame. -/
def setLineSize (s : State) (p : ConvertParam) : State := if 0 < p.dstLineSize then s.use s.avframeDst .frame else s

/-- `Convert` of an `AVFrame`, which is the caller's. -/
def convertFrame (s : State) (p : ConvertParam) (a : Answers) : Option (Nat × State) := do
  let (code, s) ← s.initializeConverter p a
  if code ≠ 0 then return (1, s)
  let s := s.setLineSize p
  let s := s.use s.avframeDst .frame
  if a.fillDst < 0 then return (1, s)
  let s := (s.use s.swsContexts (.context (request p))).use s.avframeDst .frame
  return (if a.scale ≤ 0 then 2 else 0, s)

/-- `Convert` of a buffer. -/
def convertBuffer (s : State) (p : ConvertParam) (a : Answers) : Option (Nat × State) := do
  let (code, s) ← s.initializeConverter p a
  if code ≠ 0 then return (1, s)
  let s := s.setLineSize p
  let s := s.use s.avframeSrc .frame
  if a.fillSrc < 0 then return (1, s)
  let s := s.use s.avframeDst .frame
  if a.fillDst < 0 then return (1, s)
  let s := ((s.use s.swsContexts (.context (request p))).use s.avframeSrc .frame).use s.avframeDst .frame
  return (if a.scale ≤ 0 then 3 else 0, s)

end State

inductive Act where
  | convertFrame (p : ConvertParam) (a : Answers)
  | convertBuffer (p : ConvertParam) (a : Answers)
  | destructor

/-- There is no call of a destroyed converter. -/
def step (s : State) (act : Act) : Option State :=
  if s.destroyed then none
  else match act with
    | .convertFrame p a => (s.convertFrame p a).map Prod.snd
    | .convertBuffer p a => (s.convertBuffer p a).map Prod.snd
    | .destructor => some { s.finalize with destroyed := true }

/-- A new converter; its constructor leaves what is in `m_param`. -/
def initial (param : ConvertParam) : State := { param }

def Act.request : Act → Option Request
  | .convertFrame p _ => some (ScalerCache.request p)
  | .convertBuffer p _ => some (ScalerCache.request p)
  | .destructor => none

/-! ## The log grows -/

/-- Events were added, and a context is used in them for this request, if any. -/
def Extends (request : Option Request) (log log' : Log) : Prop :=
  ∃ events, log' = log ++ events ∧ ∀ h r, .use h (.context r) ∈ events → request = some r

variable {r : Option Request} {log log' log'' : Log}

theorem Extends.refl (r : Option Request) (log : Log) : Extends r log log :=
  ⟨[], by simp, fun _ _ mem => absurd mem List.not_mem_nil⟩

theorem Extends.trans (h : Extends r log log') (h' : Extends r log' log'') : Extends r log log'' := by
  obtain ⟨events, rfl, only⟩ := h
  obtain ⟨events', rfl, only'⟩ := h'
  refine ⟨events ++ events', by simp, fun h r' mem => ?_⟩
  rcases List.mem_append.1 mem with before | now
  · exact only h r' before
  · exact only' h r' now

/-- One event that is no use of a context for another request. -/
theorem Extends.concat (log : Log) {event : Event Nat Resource}
    (fits : ∀ h r', event = .use h (.context r') → r = some r') : Extends r log (log ++ [event]) :=
  ⟨[event], rfl, fun h r' mem => fits h r' (List.mem_singleton.1 mem).symm⟩

/-- Where no context is used, none is used for another request. -/
theorem Extends.quiet (h : Extends none log log') : Extends r log log' := by
  obtain ⟨events, grown, only⟩ := h
  refine ⟨events, grown, fun h r' mem => ?_⟩
  cases only h r' mem

/-! ## What the calls of FFmpeg keep -/

/-- What an allocating call answers is behind its pointer, beside what was there before. -/
theorem allocate_spec {res : Resource} {answer : Option Nat} (done : allocate log res answer = some log')
    (sound : Sound log) :
    Sound log' ∧ (∀ h, answer = some h → heapOf log h = none ∧ heapOf log' h = some res) ∧
      (∀ h res', heapOf log h = some res' → heapOf log' h = some res') ∧ Extends none log log' := by
  cases answer with
  | none =>
    cases done
    refine ⟨sound, fun h absent => ?_, fun h res' there => there, .refl none log⟩
    cases absent
  | some h =>
    simp only [allocate] at done
    split at done
    · rename_i free
      cases done
      refine ⟨sound.concat free, fun h' same => ?_, fun h' res' there => ?_, .concat log fun _ _ same => by cases same⟩
      · cases same
        exact ⟨free, by simp only [heapOf_concat, after, Function.update_self]⟩
      · have ne : h' ≠ h := by
          rintro rfl
          cases free.symm.trans there
        simp only [heapOf_concat, after, Function.update_of_ne ne, there]
    · cases done

/-- A free of what is there takes away that alone; one of null does nothing. -/
theorem free_spec {p : Option Nat} (there : ∀ h, p = some h → heapOf log h ≠ none) (sound : Sound log) :
    Sound (free log p) ∧ (∀ h, p ≠ some h → heapOf (free log p) h = heapOf log h) ∧ Extends none log (free log p) := by
  cases p with
  | none => exact ⟨sound, fun _ _ => rfl, .refl none log⟩
  | some h =>
    refine ⟨sound.concat (there h rfl), fun h' ne => ?_, .concat log fun _ _ same => by cases same⟩
    have ne' : h' ≠ h := by
      rintro rfl
      exact ne rfl
    simp only [free, heapOf_concat, after, Function.update_of_ne ne']

/-! ## The converter's pointers -/

/-- Each pointer is null or what the converter takes it for: the context is the one for `m_param`. -/
structure Inv (s : State) : Prop where
  sound : Sound s.log
  src : ∀ h, s.avframeSrc = some h → heapOf s.log h = some .frame
  dst : ∀ h, s.avframeDst = some h → heapOf s.log h = some .frame
  apart : ∀ h, s.avframeSrc = some h → s.avframeDst ≠ some h
  context : ∀ h, s.swsContexts = some h → heapOf s.log h = some (.context (request s.param))

variable {s t : State} {p : ConvertParam} {a : Answers} {code : Nat}

theorem Inv.finalize (inv : Inv s) : Inv s.finalize ∧ Extends none s.log s.finalize.log := by
  obtain ⟨sound₁, kept₁, grows₁⟩ := free_spec (p := s.avframeSrc)
    (fun h there => by simp [inv.src h there]) inv.sound
  obtain ⟨sound₂, kept₂, grows₂⟩ := free_spec (p := s.avframeDst)
    (fun h there => by simp [kept₁ h fun same => inv.apart h same there, inv.dst h there]) sound₁
  have context (h : Nat) (there : s.swsContexts = some h) : heapOf (free (free s.log s.avframeSrc) s.avframeDst) h ≠ none := by
    have made := inv.context h there
    have notSrc : s.avframeSrc ≠ some h := fun same => by cases made.symm.trans (inv.src h same)
    have notDst : s.avframeDst ≠ some h := fun same => by cases made.symm.trans (inv.dst h same)
    simp [kept₂ h notDst, kept₁ h notSrc, made]
  obtain ⟨sound₃, -, grows₃⟩ := free_spec context sound₂
  refine ⟨⟨sound₃, ?_, ?_, ?_, ?_⟩, (grows₁.trans grows₂).trans grows₃⟩
  all_goals
    intro h there
    cases there

theorem isEqualParam_iff : s.isEqualParam p = true ↔ request p = request s.param := by
  simp only [State.isEqualParam, Converter.isEqualParam, Bool.and_eq_true, decide_eq_true_eq, request, Request.mk.injEq,
    and_assoc]

/-- Where the parameters are others, nothing is kept that is not for the new ones. -/
theorem Inv.setParam (inv : Inv s) (p : ConvertParam) :
    Inv { (if s.isEqualParam p then s else s.finalize) with param := p } ∧
      Extends none s.log (if s.isEqualParam p then s else s.finalize).log := by
  cases equal : s.isEqualParam p with
  | true =>
    have same : request p = request s.param := isEqualParam_iff.1 equal
    refine ⟨⟨inv.sound, inv.src, inv.dst, inv.apart, fun h there => ?_⟩, .refl none s.log⟩
    show heapOf s.log h = some (.context (request p))
    rw [same]
    exact inv.context h there
  | false =>
    obtain ⟨inv', grows⟩ := inv.finalize
    exact ⟨⟨inv'.sound, inv'.src, inv'.dst, inv'.apart, fun h there => by cases there⟩, grows⟩

/-- What one of the three allocations comes to. -/
structure Allocated (s t : State) : Prop where
  inv : Inv t
  param : t.param = s.param
  grows : Extends none s.log t.log

theorem Inv.allocSrc (inv : Inv s) {answer : Option Nat} (done : s.allocSrc answer = some t) : Allocated s t := by
  simp only [State.allocSrc] at done
  split at done
  · cases done
    exact ⟨inv, rfl, .refl none s.log⟩
  · obtain ⟨log, made, rfl⟩ := Option.map_eq_some_iff.1 done
    obtain ⟨sound, new, kept, grows⟩ := allocate_spec made inv.sound
    refine ⟨⟨sound, fun h there => (new h there).2, fun h there => kept h _ (inv.dst h there), ?_,
      fun h there => kept h _ (inv.context h there)⟩, rfl, grows⟩
    intro h there same
    cases (new h there).1.symm.trans (inv.dst h same)

theorem Inv.allocDst (inv : Inv s) {answer : Option Nat} (done : s.allocDst answer = some t) :
    Allocated s t ∧ t.avframeSrc = s.avframeSrc := by
  simp only [State.allocDst] at done
  split at done
  · cases done
    exact ⟨⟨inv, rfl, .refl none s.log⟩, rfl⟩
  · obtain ⟨log, made, rfl⟩ := Option.map_eq_some_iff.1 done
    obtain ⟨sound, new, kept, grows⟩ := allocate_spec made inv.sound
    refine ⟨⟨⟨sound, fun h there => kept h _ (inv.src h there), fun h there => (new h there).2, ?_,
      fun h there => kept h _ (inv.context h there)⟩, rfl, grows⟩, rfl⟩
    intro h there same
    cases (new h same).1.symm.trans (inv.src h there)

theorem Inv.getContext (inv : Inv s) {answer : Option Nat} (done : s.getContext answer = some t) :
    Allocated s t ∧ t.avframeSrc = s.avframeSrc ∧ t.avframeDst = s.avframeDst := by
  simp only [State.getContext] at done
  split at done
  · cases done
    exact ⟨⟨inv, rfl, .refl none s.log⟩, rfl, rfl⟩
  · obtain ⟨log, made, rfl⟩ := Option.map_eq_some_iff.1 done
    obtain ⟨sound, new, kept, grows⟩ := allocate_spec made inv.sound
    exact ⟨⟨⟨sound, fun h there => kept h _ (inv.src h there), fun h there => kept h _ (inv.dst h there), inv.apart,
      fun h there => (new h there).2⟩, rfl, grows⟩, rfl, rfl⟩

/-- `Initialize` keeps the invariant however far it comes, and returns 0 with everything there. -/
structure Ready (p : ConvertParam) (s : State) (code : Nat) (t : State) : Prop where
  inv : Inv t
  param : t.param = p
  grows : Extends none s.log t.log
  src : code = 0 → t.avframeSrc ≠ none
  dst : code = 0 → t.avframeDst ≠ none
  context : code = 0 → t.swsContexts ≠ none

theorem Ready.failed (inv : Inv t) (param : t.param = p) (grows : Extends none s.log t.log) (nonzero : code ≠ 0) :
    Ready p s code t :=
  ⟨inv, param, grows, fun zero => absurd zero nonzero, fun zero => absurd zero nonzero, fun zero => absurd zero nonzero⟩

theorem Inv.initializeConverter (inv : Inv s) (done : s.initializeConverter p a = some (code, t)) : Ready p s code t := by
  obtain ⟨inv₀, grows₀⟩ := inv.setParam p
  simp only [State.initializeConverter, Option.bind_eq_bind, Option.bind_eq_some_iff] at done
  obtain ⟨s₁, made₁, done⟩ := done
  have src := inv₀.allocSrc made₁
  split at done
  · cases done
    exact .failed src.inv src.param (grows₀.trans src.grows) (by simp)
  rename_i hasSrc
  obtain ⟨s₂, made₂, done⟩ := Option.bind_eq_some_iff.1 done
  obtain ⟨dst, sameSrc⟩ := src.inv.allocDst made₂
  have grows₂ := (grows₀.trans src.grows).trans dst.grows
  split at done
  · cases done
    exact .failed dst.inv (dst.param.trans src.param) grows₂ (by simp)
  rename_i hasDst
  obtain ⟨s₃, made₃, done⟩ := Option.bind_eq_some_iff.1 done
  obtain ⟨context, sameSrc', sameDst⟩ := dst.inv.getContext made₃
  have grows₃ := grows₂.trans context.grows
  have param := (context.param.trans dst.param).trans src.param
  split at done
  · cases done
    exact .failed context.inv param grows₃ (by simp)
  · rename_i hasContext
    cases done
    exact ⟨context.inv, param, grows₃, fun _ => by rwa [sameSrc', sameSrc], fun _ => by rwa [sameDst], fun _ => hasContext⟩

/-! ## What the converter uses -/

/-- A use of what is there. -/
theorem Inv.use (inv : Inv s) {h : Option Nat} {r : Resource} (there : h.bind (heapOf s.log) = some r) : Inv (s.use h r) := by
  have heap : heapOf (s.use h r).log = heapOf s.log := by
    simp only [State.use, heapOf_concat, after]
  refine ⟨inv.sound.concat there, ?_, ?_, inv.apart, ?_⟩
  · rw [heap]
    exact inv.src
  · rw [heap]
    exact inv.dst
  · rw [heap]
    exact inv.context

/-- Inside a `Convert` that has everything; `base` is the log before it. -/
structure Full (p : ConvertParam) (base : Log) (s : State) : Prop where
  inv : Inv s
  param : s.param = p
  grows : Extends (some (request p)) base s.log
  src : s.avframeSrc ≠ none
  dst : s.avframeDst ≠ none
  context : s.swsContexts ≠ none

variable {base : Log}

theorem Ready.full (ready : Ready p s 0 t) : Full p s.log t :=
  ⟨ready.inv, ready.param, ready.grows.quiet, ready.src rfl, ready.dst rfl, ready.context rfl⟩

theorem Full.use (full : Full p base s) {h : Option Nat} {r : Resource} (there : h.bind (heapOf s.log) = some r)
    (fits : ∀ r', r = .context r' → request p = r') : Full p base (s.use h r) := by
  have one : Extends (some (request p)) s.log (s.use h r).log := by
    refine .concat s.log fun h' r' same => ?_
    cases same
    exact congrArg some (fits r' rfl)
  exact ⟨full.inv.use there, full.param, full.grows.trans one, full.src, full.dst, full.context⟩

theorem Full.useSrc (full : Full p base s) : Full p base (s.use s.avframeSrc .frame) := by
  obtain ⟨h, there⟩ := Option.ne_none_iff_exists'.1 full.src
  refine full.use ?_ fun _ same => by cases same
  rw [there, Option.bind_some, full.inv.src h there]

theorem Full.useDst (full : Full p base s) : Full p base (s.use s.avframeDst .frame) := by
  obtain ⟨h, there⟩ := Option.ne_none_iff_exists'.1 full.dst
  refine full.use ?_ fun _ same => by cases same
  rw [there, Option.bind_some, full.inv.dst h there]

/-- The context is the one for this request. -/
theorem Full.useContext (full : Full p base s) : Full p base (s.use s.swsContexts (.context (request p))) := by
  obtain ⟨h, there⟩ := Option.ne_none_iff_exists'.1 full.context
  refine full.use ?_ fun _ same => by cases same; rfl
  rw [there, Option.bind_some, full.inv.context h there, full.param]

theorem Full.setLineSize (full : Full p base s) : Full p base (s.setLineSize p) := by
  unfold State.setLineSize
  split
  · exact full.useDst
  · exact full

/-- A call keeps the invariant, and uses contexts for what it is asked for alone. -/
structure Called (request : Option Request) (s t : State) : Prop where
  inv : Inv t
  grows : Extends request s.log t.log

theorem Full.called (full : Full p s.log t) : Called (some (request p)) s t := ⟨full.inv, full.grows⟩

theorem Inv.convertFrame (inv : Inv s) (done : s.convertFrame p a = some (code, t)) : Called (some (request p)) s t := by
  simp only [State.convertFrame, Option.bind_eq_bind] at done
  obtain ⟨⟨code₀, s₀⟩, started, done⟩ := Option.bind_eq_some_iff.1 done
  have ready := inv.initializeConverter started
  split at done
  · cases done
    exact ⟨ready.inv, ready.grows.quiet⟩
  · rename_i zero
    obtain rfl : code₀ = 0 := not_not.1 zero
    have filled := ready.full.setLineSize.useDst
    simp only at done
    generalize (s₀.setLineSize p).use (s₀.setLineSize p).avframeDst .frame = s₁ at filled done
    split at done
    · cases done
      exact filled.called
    · cases done
      exact filled.useContext.useDst.called

theorem Inv.convertBuffer (inv : Inv s) (done : s.convertBuffer p a = some (code, t)) : Called (some (request p)) s t := by
  simp only [State.convertBuffer, Option.bind_eq_bind] at done
  obtain ⟨⟨code₀, s₀⟩, started, done⟩ := Option.bind_eq_some_iff.1 done
  have ready := inv.initializeConverter started
  split at done
  · cases done
    exact ⟨ready.inv, ready.grows.quiet⟩
  · rename_i zero
    obtain rfl : code₀ = 0 := not_not.1 zero
    have filledSrc := ready.full.setLineSize.useSrc
    simp only at done
    generalize (s₀.setLineSize p).use (s₀.setLineSize p).avframeSrc .frame = s₁ at filledSrc done
    split at done
    · cases done
      exact filledSrc.called
    · have filled := filledSrc.useDst
      generalize s₁.use s₁.avframeDst .frame = s₂ at filled done
      split at done
      · cases done
        exact filled.called
      · cases done
        exact filled.useContext.useSrc.useDst.called

theorem Inv.step {act : Act} (inv : Inv s) (stepped : step s act = some t) : Called act.request s t := by
  simp only [ScalerCache.step] at stepped
  split at stepped
  · cases stepped
  cases act with
  | convertFrame p a =>
    obtain ⟨⟨code, t⟩, done, rfl⟩ := Option.map_eq_some_iff.1 stepped
    exact inv.convertFrame done
  | convertBuffer p a =>
    obtain ⟨⟨code, t⟩, done, rfl⟩ := Option.map_eq_some_iff.1 stepped
    exact inv.convertBuffer done
  | destructor =>
    cases stepped
    obtain ⟨inv', grows⟩ := inv.finalize
    exact ⟨⟨inv'.sound, inv'.src, inv'.dst, inv'.apart, inv'.context⟩, grows⟩

theorem inv_initial (param : ConvertParam) : Inv (initial param) := by
  refine ⟨sound_nil, ?_, ?_, ?_, ?_⟩
  all_goals
    intro h there
    cases there

/-! ## The converter without its pointers -/

/-- The same converter, of whose pointers only what they stand for is kept. -/
structure Simulates (s : State) (c : Converter) : Prop where
  src : c.avframeSrc = s.avframeSrc.isSome
  dst : c.avframeDst = s.avframeDst.isSome
  context : c.swsContexts.isSome = s.swsContexts.isSome
  made : ∀ q, c.swsContexts = some q → request q = request s.param
  param : c.param = s.param

variable {c : Converter}

def Answers.forget (a : Answers) (written : Nat) : Converter.Answers where
  avframeSrc := a.avframeSrc.isSome
  avframeDst := a.avframeDst.isSome
  swsContexts := a.swsContexts.isSome
  fillArrays := a.fillDst
  scale := a.scale
  written := written

theorem Simulates.setParam (sim : Simulates s c) (p : ConvertParam) :
    Simulates { (if s.isEqualParam p then s else s.finalize) with param := p } (c.setParam p) := by
  have same : c.isEqualParam p = s.isEqualParam p := by
    simp only [State.isEqualParam, Converter.isEqualParam, sim.param]
  simp only [Converter.setParam, same]
  cases equal : s.isEqualParam p with
  | true => exact ⟨sim.src, sim.dst, sim.context, fun q made => (sim.made q made).trans (isEqualParam_iff.1 equal).symm, rfl⟩
  | false =>
    refine ⟨rfl, rfl, rfl, fun q made => ?_, rfl⟩
    cases made

/-- What an allocation leaves of the pointers. -/
theorem allocSrc_pointers {answer : Option Nat} (done : s.allocSrc answer = some t) :
    t.avframeSrc.isSome = (s.avframeSrc.isSome || answer.isSome) ∧ t.avframeDst = s.avframeDst ∧
      t.swsContexts = s.swsContexts ∧ t.param = s.param := by
  simp only [State.allocSrc] at done
  split at done
  · rename_i there
    cases done
    simp [there]
  · rename_i null
    obtain ⟨log, -, rfl⟩ := Option.map_eq_some_iff.1 done
    simp [null]

theorem allocDst_pointers {answer : Option Nat} (done : s.allocDst answer = some t) :
    t.avframeDst.isSome = (s.avframeDst.isSome || answer.isSome) ∧ t.avframeSrc = s.avframeSrc ∧
      t.swsContexts = s.swsContexts ∧ t.param = s.param := by
  simp only [State.allocDst] at done
  split at done
  · rename_i there
    cases done
    simp [there]
  · rename_i null
    obtain ⟨log, -, rfl⟩ := Option.map_eq_some_iff.1 done
    simp [null]

theorem getContext_pointers {answer : Option Nat} (done : s.getContext answer = some t) :
    t.swsContexts.isSome = (s.swsContexts.isSome || answer.isSome) ∧ t.avframeSrc = s.avframeSrc ∧
      t.avframeDst = s.avframeDst ∧ t.param = s.param := by
  simp only [State.getContext] at done
  split at done
  · rename_i there
    cases done
    simp [there]
  · rename_i null
    obtain ⟨log, -, rfl⟩ := Option.map_eq_some_iff.1 done
    simp [null]

/-- `Initialize` answers the same with and without the pointers. -/
theorem Simulates.initializeConverter (sim : Simulates s c) (done : s.initializeConverter p a = some (code, t)) (written : Nat) :
    (c.initializeConverter p (a.forget written)).1 = code ∧
      Simulates t (c.initializeConverter p (a.forget written)).2 := by
  have started := sim.setParam p
  simp only [State.initializeConverter, Option.bind_eq_bind, Option.bind_eq_some_iff] at done
  simp only [Converter.initializeConverter, Converter.create, Answers.forget, ← Bool.not_or]
  generalize c.setParam p = c₀ at started ⊢
  obtain ⟨src, dst, context, made, param⟩ := started
  obtain ⟨s₁, made₁, done⟩ := done
  obtain ⟨src₁, dst₁, context₁, param₁⟩ := allocSrc_pointers made₁
  rw [← src] at src₁
  rw [← dst₁] at dst
  rw [← context₁] at context
  rw [← param₁] at made param
  rw [← src₁]
  split at done
  · rename_i null
    cases done
    rw [null, Option.isSome_none] at src₁ ⊢
    refine ⟨rfl, ?_, dst, context, made, param⟩
    rw [null]
    exact (Bool.or_eq_false_iff.1 src₁.symm).1
  rename_i has₁
  rw [Option.isSome_iff_ne_none.2 has₁]
  simp only [Bool.not_true, Bool.false_eq_true, if_false]
  obtain ⟨s₂, made₂, done⟩ := Option.bind_eq_some_iff.1 done
  obtain ⟨dst₂, src₂, context₂, param₂⟩ := allocDst_pointers made₂
  rw [← dst] at dst₂
  rw [← src₂] at has₁
  rw [← context₂] at context
  rw [← param₂] at made param
  rw [← dst₂]
  split at done
  · rename_i null
    cases done
    rw [null, Option.isSome_none] at dst₂ ⊢
    refine ⟨rfl, (Option.isSome_iff_ne_none.2 has₁).symm, ?_, context, made, param⟩
    rw [null]
    exact (Bool.or_eq_false_iff.1 dst₂.symm).1
  rename_i has₂
  rw [Option.isSome_iff_ne_none.2 has₂]
  simp only [Bool.not_true, Bool.false_eq_true, if_false]
  obtain ⟨s₃, made₃, done⟩ := Option.bind_eq_some_iff.1 done
  obtain ⟨context₃, src₃, dst₃, param₃⟩ := getContext_pointers made₃
  rw [← context] at context₃
  rw [← src₃] at has₁
  rw [← dst₃] at has₂
  rw [← param₃] at made param
  have hasSrc := (Option.isSome_iff_ne_none.2 has₁).symm
  have hasDst := (Option.isSome_iff_ne_none.2 has₂).symm
  cases there : c₀.swsContexts with
  | some q =>
    rw [there, Option.isSome_some, Bool.true_or] at context₃
    rw [if_neg (Option.isSome_iff_ne_none.1 context₃)] at done
    cases done
    simp only [Option.isNone_some, Bool.false_eq_true, if_false]
    exact ⟨trivial, hasSrc, hasDst, context₃.symm, fun q' same => made q' (there.trans same), param⟩
  | none =>
    rw [there, Option.isSome_none, Bool.false_or] at context₃
    split at done
    · rename_i null
      cases done
      rw [null, Option.isSome_none] at context₃
      simp only [Option.isNone_none, ← context₃, Bool.false_eq_true, if_false, if_true]
      refine ⟨trivial, hasSrc, hasDst, ?_, fun q same => ?_, param⟩
      · rw [null, Option.isSome_none, Option.isSome_none]
      · cases same
    · rename_i has₃
      cases done
      rw [Option.isSome_iff_ne_none.2 has₃] at context₃
      simp only [Option.isNone_none, ← context₃, if_true]
      refine ⟨trivial, hasSrc, hasDst, (Option.isSome_iff_ne_none.2 has₃).symm, fun q same => ?_, param⟩
      cases same
      rw [param]

/-- **The pointers change no answer**: with them and without them `Convert` of a frame returns the same. -/
theorem Simulates.convertFrame (sim : Simulates s c) (done : s.convertFrame p a = some (code, t)) (written : Nat) :
    (c.convert p (a.forget written)).1 = code ∧ Simulates t (c.convert p (a.forget written)).2.2 := by
  simp only [State.convertFrame, Option.bind_eq_bind] at done
  obtain ⟨⟨code₀, s₀⟩, started, done⟩ := Option.bind_eq_some_iff.1 done
  obtain ⟨same, sim'⟩ := sim.initializeConverter started written
  simp only [Converter.convert, same]
  split at done
  · rename_i failed
    cases done
    rw [if_pos failed]
    exact ⟨rfl, sim'⟩
  · rename_i zero
    rw [if_neg zero]
    have filled : Simulates ((s₀.setLineSize p).use (s₀.setLineSize p).avframeDst .frame)
        (c.initializeConverter p (a.forget written)).2 := by
      unfold State.setLineSize
      split <;> exact ⟨sim'.src, sim'.dst, sim'.context, sim'.made, sim'.param⟩
    split at done
    · rename_i negative
      cases done
      rw [if_pos (show (a.forget written).fillArrays < 0 from negative)]
      exact ⟨rfl, filled⟩
    · rename_i positive
      cases done
      rw [if_neg (show ¬ (a.forget written).fillArrays < 0 from positive)]
      exact ⟨rfl, filled.src, filled.dst, filled.context, filled.made, filled.param⟩

/-! ## Every run -/

/-- **The context that scales is the one for the call**, in every run: it was made for this call's formats and
sizes and not freed since; and nothing that was freed is used again. -/
theorem scaler_matches (param : ConvertParam) (acts : List Act) (act : Act) (s t : State)
    (ran : run step (initial param) acts = some s) (called : step s act = some t) :
    Sound t.log ∧
    (∀ before h between r rest, t.log = before ++ .destroy h :: between ++ .use (some h) r :: rest →
      .create h r ∈ between) ∧
    ∃ events, t.log = s.log ++ events ∧
      ∀ before context request rest, events = before ++ .use context (.context request) :: rest →
        act.request = some request ∧ ∃ h made since, context = some h ∧
          s.log ++ before = made ++ .create h (.context request) :: since ∧ .destroy h ∉ since ∧ ∀ r, .create h r ∉ since := by
  have inv : Inv s := run_invariant (fun inv _ h => (Inv.step inv h).inv) (inv_initial param) along_true ran
  obtain ⟨inv', events, grown, only⟩ := inv.step called
  refine ⟨inv'.sound, fun before h between r rest used => inv'.sound.recreated used, events, grown, ?_⟩
  rintro before context request rest rfl
  refine ⟨only context request (by simp), ?_⟩
  have used : t.log = (s.log ++ before) ++ .use context (.context request) :: rest := by
    rw [grown, List.append_assoc]
  exact inv'.sound.created used

/-- A picture in YUV 4:2:0 is converted to BGR. -/
def toBgr (width height : Int32) : ConvertParam where
  srcPixelFormat := 0
  srcWidth := width
  srcHeight := height
  dstBuffer := some 4096
  dstPixelFormat := 3
  dstWidth := width
  dstHeight := height

/-- After a conversion to the large picture behind one to the small picture, for which there was no context at first;
the large picture's context has the small one's address. -/
def rescaled : State where
  avframeSrc := some 2
  avframeDst := some 1
  swsContexts := some 3
  param := toBgr 1920 1080
  log := [.create 1 .frame, .create 2 .frame, .create 3 (.context (request (toBgr 640 360))), .use (some 2) .frame,
    .use (some 3) (.context (request (toBgr 640 360))), .use (some 2) .frame, .destroy 1, .destroy 2, .destroy 3,
    .create 2 .frame, .create 1 .frame, .create 3 (.context (request (toBgr 1920 1080))), .use (some 1) .frame,
    .use (some 3) (.context (request (toBgr 1920 1080))), .use (some 1) .frame]

def rescaling : List Act :=
  [.convertFrame (toBgr 640 360) ⟨some 1, some 2, none, 0, 0, 0⟩,
    .convertFrame (toBgr 640 360) ⟨none, none, some 3, 0, 0, 360⟩,
    .convertFrame (toBgr 1920 1080) ⟨some 2, some 1, some 3, 0, 0, 1080⟩]

theorem run_rescaling : run step (initial (toBgr 0 0)) rescaling = some rescaled := rfl

/-- The next call uses the context that is there. -/
theorem scaler_matches_reused :
    let act : Act := .convertFrame (toBgr 1920 1080) ⟨none, none, none, 0, 0, 1080⟩
    let t : State := { rescaled with log := rescaled.log ++
      [.use (some 1) .frame, .use (some 3) (.context (request (toBgr 1920 1080))), .use (some 1) .frame] }
    run step (initial (toBgr 0 0)) rescaling = some rescaled ∧ step rescaled act = some t ∧ Sound t.log := by
  intro act t
  have called : step rescaled act = some t := rfl
  exact ⟨run_rescaling, called, (scaler_matches (toBgr 0 0) rescaling act rescaled t run_rescaling called).1⟩

end CameraEv.ScalerCache
