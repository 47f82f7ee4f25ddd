import Mathlib.Tactic

/-!
# The RTSP callbacks

One client with its `StreamClientState`, and the handlers that live555 calls on
it. A handler is a function from the client to the client; the sending of a
command leaves it `pending` until its response handler is called. What the
network decides (result codes, the session description, whether `initiate()`
succeeds) are arguments or data of the session.
-/

namespace CameraEv

/-- `initiate` is what `initiate()` returns, and `sink` whether there is a data sink. -/
structure MediaSubsession where
  mediumName : String
  codecName : String
  initiate : Bool
  sink : Bool := false
  deriving DecidableEq

/-- `timed` is whether the session has an end, so that `scs.duration` comes out positive. -/
structure MediaSession where
  subsessions : List MediaSubsession
  timed : Bool := false
  deriving DecidableEq

inductive Command where
  | describe
  /-- For the subsession at an index. -/
  | setup (k : Nat)
  | play
  | teardown
  deriving DecidableEq

inductive Event where
  | sent (command : Command)
  | handled (command : Command)
  deriving DecidableEq

/-- The client and its stream state. `calls` counts the calls of `setupNextSubsession`. -/
structure CustomRTSPClient where
  session : Option MediaSession := none
  /-- How far `scs.iter` has come. -/
  iter : Nat := 0
  subsession : Option Nat := none
  duration : Bool := false
  streamTimerTask : Bool := false
  /-- The command whose response handler is still to be called. -/
  pending : Option Command := none
  closed : Bool := false
  log : List Event := []
  calls : Nat := 0
  deriving DecidableEq

namespace MediaSubsession

/-- The test of `setupNextSubsession`. -/
def passes (m : MediaSubsession) : Bool := m.mediumName = "video" || m.codecName = "H264"

/-- The test of `continueAfterSETUP`, behind which a sink is created. -/
def sinks (m : MediaSubsession) : Bool := m.mediumName = "video" && m.codecName = "H264"

end MediaSubsession

namespace CustomRTSPClient

def subsessions (c : CustomRTSPClient) : List MediaSubsession := (c.session.map MediaSession.subsessions).getD []

def send (c : CustomRTSPClient) (command : Command) : CustomRTSPClient :=
  { c with pending := some command, log := c.log ++ [.sent command] }

/-- A response handler begins. -/
def handle (c : CustomRTSPClient) : CustomRTSPClient :=
  { c with pending := none, log := c.log ++ (c.pending.map Event.handled).toList }

def setSink (c : CustomRTSPClient) (k : Nat) (sink : Bool) : CustomRTSPClient :=
  { c with session := c.session.map fun s => { s with subsessions := s.subsessions.modify k fun m => { m with sink } } }

/-- `openURL` has created the client and sent its first command. -/
def opened : CustomRTSPClient := send {} .describe

/-- The recursion of `setupNextSubsession` over what the iterator has left. -/
def setupNext (c : CustomRTSPClient) : List MediaSubsession → CustomRTSPClient
  | [] =>
    let duration := (c.session.map MediaSession.timed).getD false
    { c with subsession := none, calls := c.calls + 1, duration }.send .play
  | m :: rest =>
    let k := c.iter
    let c := { c with subsession := some k, iter := k + 1, calls := c.calls + 1 }
    if !m.passes then c.setupNext rest
    else if !m.initiate then c.setupNext rest
    else c.send (.setup k)

def setupNextSubsession (c : CustomRTSPClient) : CustomRTSPClient := c.setupNext (c.subsessions.drop c.iter)

/-- The second component is whether the handler calls `Reconnect`. -/
def continueAfterDESCRIBE (c : CustomRTSPClient) (resultCode : Int) (session : Option MediaSession) :
    CustomRTSPClient × Bool :=
  let c := c.handle
  if resultCode ≠ 0 then (c, true)
  else match session with
    | none => (c, true)
    | some s =>
      if s.subsessions.isEmpty then ({ c with session := some s }, true)
      else ({ c with session := some s, iter := 0 }.setupNextSubsession, false)

def continueAfterSETUP (c : CustomRTSPClient) (resultCode : Int) : CustomRTSPClient :=
  let c := c.handle
  match c.subsession with
  | some k =>
    if resultCode = 0 && (c.subsessions[k]?).any MediaSubsession.sinks then (c.setSink k true).setupNextSubsession
    else c.setupNextSubsession
  -- a SETUP is sent for a subsession
  | none => c.setupNextSubsession

/-- `Medium::close` of every sink. -/
def closeSinks (c : CustomRTSPClient) : CustomRTSPClient :=
  let close (m : MediaSubsession) : MediaSubsession := { m with sink := false }
  { c with session := c.session.map fun s => { s with subsessions := s.subsessions.map close } }

/-- A TEARDOWN is sent if there was a sink to close; then the client is destroyed, its timer with it. -/
def shutdownStream (c : CustomRTSPClient) : CustomRTSPClient :=
  let log := if c.subsessions.any MediaSubsession.sink then c.log ++ [.sent .teardown] else c.log
  { c.closeSinks with log, closed := true, pending := none, streamTimerTask := false }

def continueAfterPLAY (c : CustomRTSPClient) (resultCode : Int) : CustomRTSPClient :=
  let c := c.handle
  if resultCode ≠ 0 then c.shutdownStream
  else if c.duration then { c with streamTimerTask := true }
  else c

/-- For the end of a source and, through `subsessionByeHandler`, for a BYE. -/
def subsessionAfterPlaying (c : CustomRTSPClient) (k : Nat) : CustomRTSPClient :=
  let c := c.setSink k false
  if c.subsessions.any MediaSubsession.sink then c else c.shutdownStream

/-- Followed by `Reconnect`. -/
def streamTimerHandler (c : CustomRTSPClient) : CustomRTSPClient := { c with streamTimerTask := false }

/-! ## The set-up sequence -/

/-- SETUP responses one after another; there has to be a SETUP to respond to. -/
def setups : CustomRTSPClient → List Int → Option CustomRTSPClient
  | c, [] => some c
  | c, code :: codes => match c.pending with
    | some (.setup _) => setups (c.continueAfterSETUP code) codes
    | _ => none

/-- The indices, from `k` on, of the subsessions that pass the test and initiate. -/
def wantedFrom (k : Nat) (ms : List MediaSubsession) : List Nat :=
  ((ms.zipIdx k).filter fun p => p.1.passes && p.1.initiate).map Prod.snd

/-- The command behind the wanted subsessions that are left. -/
def nextCommand : List Nat → Command
  | [] => .play
  | k :: _ => .setup k

theorem wantedFrom_cons (k : Nat) (m : MediaSubsession) (ms : List MediaSubsession) :
    wantedFrom k (m :: ms) = if m.passes && m.initiate then k :: wantedFrom (k + 1) ms else wantedFrom (k + 1) ms := by
  simp only [wantedFrom, List.zipIdx_cons, List.filter_cons]
  split <;> rfl

/-- A data sink is nothing that the sequence looks at. -/
theorem wantedFrom_congr {ms ms' : List MediaSubsession} (k : Nat)
    (same : ms.map (fun m => (m.passes, m.initiate)) = ms'.map fun m => (m.passes, m.initiate)) :
    wantedFrom k ms = wantedFrom k ms' := by
  induction ms generalizing ms' k with
  | nil =>
    cases ms' with
    | nil => rfl
    | cons m' ms' => cases same
  | cons m ms ih =>
    cases ms' with
    | nil => cases same
    | cons m' ms' =>
      simp only [List.map_cons, List.cons.injEq, Prod.mk.injEq] at same
      obtain ⟨⟨passes, initiate⟩, rest⟩ := same
      rw [wantedFrom_cons, wantedFrom_cons, passes, initiate, ih (k + 1) rest]

/-- What one call of `setupNextSubsession` comes to: the command for the next wanted subsession, or PLAY. -/
structure Advanced (c : CustomRTSPClient) (rest : List MediaSubsession) (d : CustomRTSPClient) : Prop where
  session : d.session = c.session
  pending : d.pending = some (nextCommand (wantedFrom c.iter rest))
  log : d.log = c.log ++ [.sent (nextCommand (wantedFrom c.iter rest))]
  moved : c.iter ≤ d.iter
  within : d.iter ≤ c.iter + rest.length
  left : (wantedFrom c.iter rest).tail = wantedFrom d.iter (rest.drop (d.iter - c.iter))
  calls : d.calls + c.iter ≤ c.calls + d.iter + if wantedFrom c.iter rest = [] then 1 else 0

theorem setupNext_advanced (c : CustomRTSPClient) (rest : List MediaSubsession) :
    c.Advanced rest (c.setupNext rest) := by
  induction rest generalizing c with
  | nil =>
    exact ⟨rfl, rfl, rfl, le_rfl, le_rfl, by simp [wantedFrom], by simp [setupNext, send, wantedFrom]; omega⟩
  | cons m rest ih =>
    let c' := { c with subsession := some c.iter, iter := c.iter + 1, calls := c.calls + 1 }
    -- the subsession is given up
    have skip (no : (m.passes && m.initiate) = false) : c.Advanced (m :: rest) (c'.setupNext rest) := by
      obtain ⟨session, pending, log, moved, within, left, calls⟩ := ih c'
      have iter : c'.iter = c.iter + 1 := rfl
      have count : c'.calls = c.calls + 1 := rfl
      rw [iter] at moved within calls
      have wanted : wantedFrom c.iter (m :: rest) = wantedFrom (c.iter + 1) rest := by
        rw [wantedFrom_cons, no]
        rfl
      refine ⟨session, wanted ▸ pending, wanted ▸ log, ?_, ?_, ?_, ?_⟩
      · exact (Nat.le_succ _).trans moved
      · simp only [List.length_cons]
        omega
      · rw [wanted, left, iter,
          show (c'.setupNext rest).iter - c.iter = (c'.setupNext rest).iter - (c.iter + 1) + 1 by omega,
          List.drop_succ_cons]
      · rw [wanted]
        omega
    simp only [setupNext]
    cases passes : m.passes with
    | false =>
      simp only [Bool.not_false, if_true]
      exact skip (by rw [passes]; rfl)
    | true =>
      cases initiate : m.initiate with
      | false =>
        simp only [Bool.not_true, Bool.false_eq_true, if_false, Bool.not_false, if_true]
        exact skip (by rw [initiate, Bool.and_false])
      | true =>
        have wanted : wantedFrom c.iter (m :: rest) = c.iter :: wantedFrom (c.iter + 1) rest := by
          rw [wantedFrom_cons, passes, initiate]
          rfl
        simp only [Bool.not_true, Bool.false_eq_true, if_false]
        refine ⟨rfl, ?_, ?_, Nat.le_succ _, ?_, ?_, ?_⟩
        · rw [wanted]
          rfl
        · rw [wanted]
          rfl
        · simp [send]
        · rw [wanted]
          simp [send]
        · simp [send, wanted]
          omega

/-- What the sequence reads of the subsessions. -/
def kinds (ms : List MediaSubsession) : List (Bool × Bool) := ms.map fun m => (m.passes, m.initiate)

theorem kinds_setSink (c : CustomRTSPClient) (k : Nat) (sink : Bool) :
    kinds (c.setSink k sink).subsessions = kinds c.subsessions := by
  have same (ms : List MediaSubsession) : kinds (ms.modify k fun m => { m with sink }) = kinds ms := by
    refine List.ext_getElem? fun i => ?_
    simp only [kinds, List.getElem?_map, List.getElem?_modify]
    cases ms[i]? with
    | none => rfl
    | some m => by_cases at_k : k = i <;> simp [at_k, MediaSubsession.passes]
  cases session : c.session with
  | none => simp [subsessions, setSink, session]
  | some s => simpa [subsessions, setSink, session] using same s.subsessions

/-- Where the sequence stands: the responses to `past` are handled, and `left` is still wanted. -/
structure Progress (ms : List MediaSubsession) (past left : List Nat) (c : CustomRTSPClient) : Prop where
  same : kinds c.subsessions = kinds ms
  within : c.iter ≤ ms.length
  rest : left.tail = wantedFrom c.iter (ms.drop c.iter)
  pending : c.pending = some (nextCommand left)
  log : c.log = [.sent .describe, .handled .describe] ++
    (past.flatMap fun k => [.sent (.setup k), .handled (.setup k)]) ++ [.sent (nextCommand left)]
  calls : c.calls ≤ c.iter + if left = [] then 1 else 0

/-- The sequence goes on with the next wanted subsession. -/
theorem Progress.advance {ms : List MediaSubsession} {past left : List Nat} {c : CustomRTSPClient}
    (same : kinds c.subsessions = kinds ms) (within : c.iter ≤ ms.length)
    (wanted : left = wantedFrom c.iter (ms.drop c.iter)) (calls : c.calls ≤ c.iter)
    (log : c.log = [.sent .describe, .handled .describe] ++
      past.flatMap fun k => [.sent (.setup k), .handled (.setup k)]) :
    Progress ms past left c.setupNextSubsession := by
  have dropped (i : Nat) : kinds (c.subsessions.drop i) = kinds (ms.drop i) := by
    simp only [kinds, List.map_drop] at same ⊢
    rw [same]
  have length : c.subsessions.length = ms.length := by
    simpa [kinds] using congrArg List.length same
  obtain ⟨session, pending, log', moved, within', tail, calls'⟩ := setupNext_advanced c (c.subsessions.drop c.iter)
  rw [wantedFrom_congr c.iter (dropped c.iter), ← wanted] at pending log' tail calls'
  rw [List.length_drop] at within'
  refine ⟨?_, ?_, ?_, pending, ?_, ?_⟩
  · rw [setupNextSubsession, subsessions, session]
    exact same
  · show (c.setupNext (c.subsessions.drop c.iter)).iter ≤ ms.length
    omega
  · rw [tail, List.drop_drop, show c.iter + ((c.setupNext (c.subsessions.drop c.iter)).iter - c.iter) =
      (c.setupNext (c.subsessions.drop c.iter)).iter by omega]
    exact wantedFrom_congr _ (dropped _)
  · rw [setupNextSubsession, log', log]
  · show (c.setupNext (c.subsessions.drop c.iter)).calls ≤ (c.setupNext (c.subsessions.drop c.iter)).iter + _
    omega

/-- The response to a SETUP is handled, whatever its code. -/
theorem Progress.respond {ms : List MediaSubsession} {past left : List Nat} {k : Nat} {c : CustomRTSPClient}
    (progress : Progress ms past (k :: left) c) (code : Int) :
    Progress ms (past ++ [k]) left (c.continueAfterSETUP code) := by
  have calls := progress.calls
  rw [if_neg (List.cons_ne_nil _ _)] at calls
  have log : c.handle.log = [.sent .describe, .handled .describe] ++
      (past ++ [k]).flatMap fun k => [.sent (.setup k), .handled (.setup k)] := by
    simp [handle, progress.log, progress.pending, nextCommand]
  have plain : Progress ms (past ++ [k]) left c.handle.setupNextSubsession :=
    .advance progress.same progress.within progress.rest calls log
  simp only [continueAfterSETUP]
  split
  · rename_i j _
    split
    · refine .advance ?_ progress.within progress.rest calls log
      rw [kinds_setSink]
      exact progress.same
    · exact plain
  · exact plain

theorem Progress.setups {ms : List MediaSubsession} {past left : List Nat} {c : CustomRTSPClient}
    (progress : Progress ms past left c) (codes : List Int) :
    (∀ n, codes.length = n → n ≤ left.length → ∃ d, c.setups codes = some d ∧
      Progress ms (past ++ left.take n) (left.drop n) d) ∧ (left.length < codes.length → c.setups codes = none) := by
  induction codes generalizing c past left with
  | nil =>
    refine ⟨?_, fun less => absurd less (Nat.not_lt_zero _)⟩
    rintro n rfl -
    exact ⟨c, rfl, by simpa using progress⟩
  | cons code codes ih =>
    cases left with
    | nil =>
      have play : c.pending = some .play := progress.pending
      refine ⟨?_, fun _ => by simp only [CustomRTSPClient.setups, play]⟩
      rintro n rfl less
      cases less
    | cons k left =>
      have setup : c.pending = some (.setup k) := progress.pending
      obtain ⟨within, more⟩ := ih (progress.respond code)
      simp only [CustomRTSPClient.setups, setup]
      refine ⟨?_, fun less => more (by simpa using less)⟩
      rintro n rfl less
      obtain ⟨d, ran, done⟩ := within codes.length rfl (by simpa using less)
      exact ⟨d, ran, by simpa using done⟩

/-- The sequence begins behind the description of a session. -/
theorem Progress.start {session : MediaSession} (some_subsession : session.subsessions ≠ []) :
    Progress session.subsessions [] (wantedFrom 0 session.subsessions)
      (opened.continueAfterDESCRIBE 0 (some session)).1 := by
  have described : (opened.continueAfterDESCRIBE 0 (some session)).1 =
      ({ opened.handle with session := some session, iter := 0 } : CustomRTSPClient).setupNextSubsession := by
    simp only [continueAfterDESCRIBE, ne_eq, not_true_eq_false, if_false]
    rw [if_neg (by simpa [List.isEmpty_iff] using some_subsession)]
  rw [described]
  exact .advance rfl (Nat.zero_le _) rfl le_rfl rfl

end CustomRTSPClient

open CustomRTSPClient

/-- **The set-up sequence**: after the description of a session with subsessions, as many SETUPs are
answered as are wanted, each is sent behind the response to the one before it, PLAY is sent behind the last
response, and there is never another command; `setupNextSubsession` is called at most once for each
subsession and once more. -/
theorem setup_sequence (session : MediaSession) (some_subsession : session.subsessions ≠ []) (codes : List Int) :
    let wanted := wantedFrom 0 session.subsessions
    let described := (CustomRTSPClient.opened.continueAfterDESCRIBE 0 (some session)).1
    (codes.length ≤ wanted.length → ∃ c, described.setups codes = some c ∧
      c.log = [.sent .describe, .handled .describe] ++
        ((wanted.take codes.length).flatMap fun k => [.sent (.setup k), .handled (.setup k)]) ++
          [.sent (nextCommand (wanted.drop codes.length))] ∧
      c.pending = some (nextCommand (wanted.drop codes.length)) ∧
      c.calls ≤ session.subsessions.length + 1) ∧
    (wanted.length < codes.length → described.setups codes = none) := by
  intro wanted described
  obtain ⟨done, more⟩ := (Progress.start some_subsession).setups codes
  refine ⟨fun less => ?_, more⟩
  obtain ⟨c, ran, progress⟩ := done codes.length rfl less
  refine ⟨c, ran, by simpa using progress.log, progress.pending, ?_⟩
  have within := progress.within
  have calls := progress.calls
  split at calls <;> omega

/-- Of an audio stream and three video streams one does not initiate; the first SETUP is refused. -/
theorem setup_sequence_mixed :
    let session : MediaSession := ⟨[⟨"audio", "MPEG4-GENERIC", true, false⟩, ⟨"video", "H264", true, false⟩,
      ⟨"video", "H264", false, false⟩, ⟨"video", "JPEG", true, false⟩], false⟩
    let wanted := wantedFrom 0 session.subsessions
    wanted = [1, 3] ∧ ∃ c, (CustomRTSPClient.opened.continueAfterDESCRIBE 0 (some session)).1.setups [404, 0] = some c ∧
      c.log = [.sent .describe, .handled .describe] ++
        ((wanted.take 2).flatMap fun k => [.sent (.setup k), .handled (.setup k)]) ++
          [.sent (nextCommand (wanted.drop 2))] ∧
      c.pending = some (nextCommand (wanted.drop 2)) ∧ c.calls ≤ session.subsessions.length + 1 :=
  ⟨by decide, (setup_sequence _ (by simp) [404, 0]).1 (by decide)⟩

/-- A session without subsessions is described: the handler asks for the reconnection, and no PLAY is ever sent. -/
theorem no_subsessions_no_play :
    let described := CustomRTSPClient.opened.continueAfterDESCRIBE 0 (some ⟨[], false⟩)
    described.2 = true ∧ described.1.pending = none ∧
      ∀ codes c, described.1.setups codes = some c → .sent .play ∉ c.log := by
  refine ⟨rfl, rfl, fun codes c ran => ?_⟩
  cases codes with
  | nil =>
    cases ran
    decide
  | cons code codes => cases ran

end CameraEv
