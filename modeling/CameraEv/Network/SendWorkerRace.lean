import CameraEv.Network.SendWorkerManager
import CameraEv.Lib.Trace

/-!
# `InsertSendWork` on several threads

`InsertSendWork` looks for the name under the lock, activates the worker without
it, and takes the lock again for the `push_back`. Here each of the three is a
step of the thread that runs it, between which the other threads take theirs;
`SetFrameInfo`, `DeleteSendWork` and `ClearSendWork` are one step each. Without
another thread in between the steps are the `insertSendWork` of the table
(`insertSendWork_alone`).
-/

namespace CameraEv.SendWorkerManager

open Trace

/-- Where a thread stands in `InsertSendWork`. -/
inductive Insertion where
  | idle
  /-- Before `IsExistSendWork`. -/
  | called (queueName : List UInt8) (syncCount : Int32)
  /-- The name was not there. -/
  | missing (queueName : List UInt8) (syncCount : Int32)
  /-- The worker is activated and not in the table yet. -/
  | activated (queueName : List UInt8) (syncCount : Int32)
  | returned (code : Nat)
  deriving DecidableEq

/-- The thread may call `InsertSendWork`. -/
def Insertion.outside : Insertion → Bool
  | .idle | .returned _ => true
  | _ => false

structure Shared (ι : Type) where
  manager : SendWorkerManager := {}
  threads : ι → Insertion := fun _ => .idle

inductive Act (ι : Type) where
  | insertSendWork (i : ι) (queueName : List UInt8) (syncCount : Int32)
  | isExistSendWork (i : ι)
  | activate (i : ι) (succeeds : Bool)
  | pushBack (i : ι)
  | setFrameInfo (queueName : List UInt8) (subscription : Subscription)
  | deleteSendWork (queueName : List UInt8)
  | clearSendWork

/-- The table after the `push_back` of a new worker. -/
def pushBack (m : SendWorkerManager) (queueName : List UInt8) (syncCount : Int32) : SendWorkerManager :=
  { m with sendWorkers := m.sendWorkers ++ [{ queueName, syncCount }] }

section Steps

variable {ι : Type} [DecidableEq ι]

def Shared.at (s : Shared ι) (i : ι) (place : Insertion) : Shared ι :=
  { s with threads := Function.update s.threads i place }

def step (s : Shared ι) : Act ι → Option (Shared ι)
  | .insertSendWork i queueName syncCount =>
    if (s.threads i).outside then some (s.at i (.called queueName syncCount)) else none
  | .isExistSendWork i =>
    match s.threads i with
    | .called queueName syncCount =>
      if s.manager.isExistSendWork queueName then some (s.at i (.returned 1))
      else some (s.at i (.missing queueName syncCount))
    | _ => none
  | .activate i succeeds =>
    match s.threads i with
    | .missing queueName syncCount =>
      if succeeds then some (s.at i (.activated queueName syncCount)) else some (s.at i (.returned 2))
    | _ => none
  | .pushBack i =>
    match s.threads i with
    | .activated queueName syncCount =>
      some { s.at i (.returned 0) with manager := s.manager.pushBack queueName syncCount }
    | _ => none
  | .setFrameInfo queueName f =>
    some { s with manager := s.manager.setFrameInfo queueName f.frameType f.streamIndex f.videoStreaming }
  | .deleteSendWork queueName => some { s with manager := s.manager.deleteSendWork queueName }
  | .clearSendWork => some { s with manager := s.manager.clearSendWork }

/-- The steps of one call that no other thread interrupts. -/
def alone (m : SendWorkerManager) (i : ι) (queueName : List UInt8) (syncCount : Int32) (succeeds : Bool) : List (Act ι) :=
  [.insertSendWork i queueName syncCount, .isExistSendWork i] ++
    if m.isExistSendWork queueName then [] else .activate i succeeds :: if succeeds then [.pushBack i] else []

/-- Without another thread in between, the steps are the call. -/
theorem insertSendWork_alone {s : Shared ι} {i : ι} (outside : (s.threads i).outside = true) (queueName : List UInt8)
    (syncCount : Int32) (succeeds : Bool) :
    run step s (alone s.manager i queueName syncCount succeeds) =
      some { manager := (s.manager.insertSendWork queueName syncCount succeeds).2
             threads := Function.update s.threads i
               (.returned (s.manager.insertSendWork queueName syncCount succeeds).1) } := by
  cases found : s.manager.isExistSendWork queueName with
  | true => simp [alone, found, run, step, outside, Shared.at, insertSendWork]
  | false =>
    cases succeeds with
    | true => simp [alone, found, run, step, outside, Shared.at, insertSendWork, pushBack]
    | false => simp [alone, found, run, step, outside, Shared.at, insertSendWork]

/-! ## One worker a queue -/

/-- One call reaches every worker of a queue, and a frame is sent to it once. -/
structure Unique (m : SendWorkerManager) : Prop where
  nodup : m.names.Nodup
  set : ∀ queueName f, ∀ item ∈ (m.setFrameInfo queueName f.frameType f.streamIndex f.videoStreaming).sendWorkers,
    item.queueName = queueName → item.subscription = f
  deleted : ∀ queueName, queueName ∉ (m.deleteSendWork queueName).names
  sentOnce : ∀ cameraGuid streamIndex data sent, m.sendFrame cameraGuid streamIndex data = .ok sent →
    (sent.map Prod.fst).Nodup

open Exec in
/-- An item adds one `SendPacket` to the queue's own, or none. -/
theorem sendItem_sent {streamIndex : Int32} {data : DecoderVideoDest} {p p' : PacketFrame}
    {sent sent' : List (List UInt8 × PacketFrame)} {item : SendWorkInfo}
    (ran : sendItem streamIndex data (p, sent) item = .ok (p', sent')) :
    sent'.map Prod.fst = sent.map Prod.fst ∨ sent'.map Prod.fst = sent.map Prod.fst ++ [item.queueName] := by
  simp only [sendItem] at ran
  split at ran
  · cases ran
    exact .inl rfl
  split at ran
  · cases ran
    exact .inl rfl
  split at ran
  · cases ran
    exact .inl rfl
  · obtain ⟨info, -, ran⟩ := bind_eq_ok.1 ran
    obtain ⟨frame, -, ran⟩ := bind_eq_ok.1 ran
    cases ran
    exact .inr (by simp only [List.map_append, List.map_cons, List.map_nil])

open Exec in
theorem foldlM_sent {streamIndex : Int32} {data : DecoderVideoDest} {items : List SendWorkInfo} {p p' : PacketFrame}
    {sent sent' : List (List UInt8 × PacketFrame)}
    (ran : items.foldlM (sendItem streamIndex data) (p, sent) = .ok (p', sent')) :
    ∃ more, sent'.map Prod.fst = sent.map Prod.fst ++ more ∧ more.Sublist (items.map SendWorkInfo.queueName) := by
  induction items generalizing p sent with
  | nil =>
    cases ran
    exact ⟨[], by simp, .slnil⟩
  | cons item items ih =>
    rw [List.foldlM_cons] at ran
    obtain ⟨⟨p₁, sent₁⟩, first, ran⟩ := bind_eq_ok.1 ran
    obtain ⟨more, names, sub⟩ := ih ran
    rcases sendItem_sent first with same | added
    · exact ⟨more, by rw [names, same], sub.cons _⟩
    · exact ⟨item.queueName :: more, by rw [names, added, List.append_assoc, List.singleton_append], sub.cons_cons _⟩

open Exec in
/-- Whatever the frames are, `SendFrame` sends to the items of the table in their order. -/
theorem sendFrame_sublist {m : SendWorkerManager} {cameraGuid : List UInt8} {streamIndex : Int32} {data : DecoderVideoDest}
    {sent : List (List UInt8 × PacketFrame)} (ran : m.sendFrame cameraGuid streamIndex data = .ok sent) :
    (sent.map Prod.fst).Sublist m.names := by
  simp only [sendFrame] at ran
  obtain ⟨⟨p, sent'⟩, looped, ran⟩ := bind_eq_ok.1 ran
  cases ran
  obtain ⟨more, names, sub⟩ := foldlM_sent looped
  rw [names, List.map_nil, List.nil_append]
  exact sub

theorem unique_iff {m : SendWorkerManager} : m.Unique ↔ m.names.Nodup := by
  refine ⟨Unique.nodup, fun nodup => ⟨nodup, ?_, ?_, ?_⟩⟩
  · rintro queueName f item member rfl
    have nodup' : (m.setFrameInfo item.queueName f.frameType f.streamIndex f.videoStreaming).names.Nodup := by
      rw [names_setFrameInfo]
      exact nodup
    have found := lookup_setFrameInfo m item.queueName f item.queueName
    rw [if_pos rfl, lookup, (mem_iff_find nodup' item).1 member, Option.map_some] at found
    obtain ⟨-, -, same⟩ := Option.map_eq_some_iff.1 found.symm
    exact same.symm
  · intro queueName
    rw [names_deleteSendWork]
    exact nodup.not_mem_erase
  · intro cameraGuid streamIndex data sent ran
    exact (sendFrame_sublist ran).nodup nodup

theorem names_pushBack (m : SendWorkerManager) (queueName : List UInt8) (syncCount : Int32) :
    (m.pushBack queueName syncCount).names = m.names ++ [queueName] := by
  simp only [names, pushBack, List.map_append, List.map_cons, List.map_nil]

theorem nodup_pushBack {m : SendWorkerManager} {queueName : List UInt8} {syncCount : Int32} :
    (m.pushBack queueName syncCount).names.Nodup ↔ m.names.Nodup ∧ m.isExistSendWork queueName = false := by
  rw [names_pushBack, List.nodup_append, ← Bool.not_eq_true, isExistSendWork_iff]
  constructor
  · rintro ⟨nodup, -, apart⟩
    exact ⟨nodup, fun member => apart _ member _ (List.mem_singleton.2 rfl) rfl⟩
  · rintro ⟨nodup, absent⟩
    refine ⟨nodup, List.nodup_singleton _, ?_⟩
    rintro name member _ added rfl
    exact absent (List.mem_singleton.1 added ▸ member)

/-- At its `push_back` the thread would still find no worker of the name. -/
def StillMissing (s : Shared ι) : Act ι → Prop
  | .pushBack i => match s.threads i with
    | .activated queueName _ => s.manager.isExistSendWork queueName = false
    | _ => True
  | _ => True

/-- What a step does to the table. -/
theorem step_manager {s t : Shared ι} {a : Act ι} (h : step s a = some t) :
    t.manager = s.manager ∨
    (∃ i queueName syncCount, a = .pushBack i ∧ s.threads i = .activated queueName syncCount ∧
      t.manager = s.manager.pushBack queueName syncCount) ∨
    (∃ queueName f, a = .setFrameInfo queueName f ∧
      t.manager = s.manager.setFrameInfo queueName f.frameType f.streamIndex f.videoStreaming) ∨
    (∃ queueName, a = .deleteSendWork queueName ∧ t.manager = s.manager.deleteSendWork queueName) ∨
    (a = .clearSendWork ∧ t.manager = {}) := by
  cases a with
  | insertSendWork i queueName syncCount =>
    simp only [step] at h
    split at h
    · cases h
      exact .inl rfl
    · cases h
  | isExistSendWork i =>
    simp only [step] at h
    split at h
    · split at h
      · cases h
        exact .inl rfl
      · cases h
        exact .inl rfl
    · cases h
  | activate i succeeds =>
    simp only [step] at h
    split at h
    · split at h
      · cases h
        exact .inl rfl
      · cases h
        exact .inl rfl
    · cases h
  | pushBack i =>
    simp only [step] at h
    split at h
    · rename_i queueName syncCount place
      cases h
      exact .inr (.inl ⟨i, queueName, syncCount, rfl, place, rfl⟩)
    · cases h
  | setFrameInfo queueName f =>
    cases h
    exact .inr (.inr (.inl ⟨queueName, f, rfl, rfl⟩))
  | deleteSendWork queueName =>
    cases h
    exact .inr (.inr (.inr (.inl ⟨queueName, rfl, rfl⟩)))
  | clearSendWork =>
    cases h
    exact .inr (.inr (.inr (.inr ⟨rfl, rfl⟩)))

theorem nodup_step {s t : Shared ι} {a : Act ι} (nodup : s.manager.names.Nodup) (ok : StillMissing s a)
    (h : step s a = some t) : t.manager.names.Nodup := by
  rcases step_manager h with same | ⟨i, queueName, syncCount, rfl, place, table⟩ | ⟨queueName, f, -, table⟩ |
    ⟨queueName, -, table⟩ | ⟨-, table⟩
  · rw [same]
    exact nodup
  · simp only [StillMissing, place] at ok
    rw [table]
    exact nodup_pushBack.2 ⟨nodup, ok⟩
  · rw [table, names_setFrameInfo]
    exact nodup
  · rw [table, names_deleteSendWork]
    exact nodup.erase queueName
  · rw [table]
    exact List.nodup_nil

theorem breaks_step {s : Shared ι} {a : Act ι} (bad : ¬ StillMissing s a) :
    ∃ t, step s a = some t ∧ ¬ t.manager.Unique := by
  cases a with
  | pushBack i =>
    simp only [StillMissing] at bad
    split at bad
    · rename_i queueName syncCount place
      refine ⟨{ s.at i (.returned 0) with manager := s.manager.pushBack queueName syncCount }, ?_, ?_⟩
      · simp only [step, place]
      · intro unique
        exact bad (nodup_pushBack.1 unique.nodup).2
    · exact absurd trivial bad
  | _ => exact absurd trivial bad

/-- **One worker a queue, exactly while no insertion overtakes another.** In a run of any threads, every state has one
worker a queue at most, so that one `SetFrameInfo` or `DeleteSendWork` reaches them all and no frame is sent twice
to one queue, if and only if each `push_back` still finds the name missing. -/
theorem workers_unique_iff (acts : List (Act ι)) :
    Throughout step (fun s => s.manager.Unique) {} acts ↔ Along step StillMissing {} acts :=
  throughout_iff_along (I := fun s => s.manager.names.Nodup) nodup_step unique_iff.2 (fun _ bad => breaks_step bad)
    List.nodup_nil

/-! ## Insertions that stay apart -/

/-- The thread is between the check of this name and its `push_back`. -/
def Insertion.between (queueName : List UInt8) : Insertion → Prop
  | .missing name _ | .activated name _ => name = queueName
  | _ => False

/-- No thread looks for a name while another is between its check of the name and its `push_back`. -/
def Apart (s : Shared ι) : Act ι → Prop
  | .isExistSendWork i => match s.threads i with
    | .called queueName _ => ∀ j, ¬ (s.threads j).between queueName
    | _ => True
  | _ => True

/-- Between its check and its `push_back` a thread is alone with its name, which is not in the table. -/
structure Reserved (s : Shared ι) : Prop where
  alone : ∀ i j queueName, (s.threads i).between queueName → (s.threads j).between queueName → i = j
  absent : ∀ i queueName, (s.threads i).between queueName → queueName ∉ s.manager.names

/-- A step that leaves the table alone and moves a thread from outside a window to outside, or ahead in its own. -/
theorem Reserved.move {s : Shared ι} (r : Reserved s) {i : ι} {place : Insertion}
    (same : ∀ queueName, place.between queueName → (s.threads i).between queueName) : Reserved (s.at i place) := by
  have before : ∀ j queueName, ((s.at i place).threads j).between queueName → (s.threads j).between queueName := by
    intro j queueName inside
    by_cases h : j = i
    · subst h
      simp only [Shared.at, Function.update_self] at inside
      exact same queueName inside
    · simp only [Shared.at, Function.update_of_ne h] at inside
      exact inside
  constructor
  · intro j k queueName inside inside'
    exact r.alone j k queueName (before j queueName inside) (before k queueName inside')
  · intro j queueName inside
    exact r.absent j queueName (before j queueName inside)

omit [DecidableEq ι] in
/-- A name that leaves the table, or no change of the names. -/
theorem Reserved.table {s : Shared ι} (r : Reserved s) {m : SendWorkerManager}
    (fewer : ∀ queueName ∈ m.names, queueName ∈ s.manager.names) : Reserved { s with manager := m } :=
  ⟨r.alone, fun i queueName inside member => r.absent i queueName inside (fewer queueName member)⟩

/-- A thread begins its window for a name that is in no other window and not in the table. -/
theorem Reserved.enter {s : Shared ι} (r : Reserved s) {i : ι} {queueName : List UInt8} {syncCount : Int32}
    (apart : ∀ j, ¬ (s.threads j).between queueName) (missing : queueName ∉ s.manager.names) :
    Reserved (s.at i (.missing queueName syncCount)) := by
  constructor
  · intro j k name inside inside'
    by_cases hj : j = i
    · by_cases hk : k = i
      · rw [hj, hk]
      · subst hj
        simp only [Shared.at, Function.update_self, Function.update_of_ne hk] at inside inside'
        cases (inside : queueName = name)
        exact absurd inside' (apart k)
    · by_cases hk : k = i
      · subst hk
        simp only [Shared.at, Function.update_self, Function.update_of_ne hj] at inside inside'
        cases (inside' : queueName = name)
        exact absurd inside (apart j)
      · simp only [Shared.at, Function.update_of_ne hj, Function.update_of_ne hk] at inside inside'
        exact r.alone j k name inside inside'
  · intro j name inside
    by_cases hj : j = i
    · subst hj
      simp only [Shared.at, Function.update_self] at inside
      cases (inside : queueName = name)
      exact missing
    · simp only [Shared.at, Function.update_of_ne hj] at inside
      exact r.absent j name inside

/-- A thread ends its window with its name in the table. -/
theorem Reserved.push {s : Shared ι} (r : Reserved s) {i : ι} {queueName : List UInt8} {syncCount : Int32}
    (own : (s.threads i).between queueName) :
    Reserved { s.at i (.returned 0) with manager := s.manager.pushBack queueName syncCount } := by
  have moved : Reserved (s.at i (.returned 0)) := r.move fun _ inside => inside.elim
  refine ⟨moved.alone, ?_⟩
  intro j name inside member
  have other : j ≠ i := by
    rintro rfl
    simp only [Shared.at, Function.update_self] at inside
    exact inside
  simp only [Shared.at, Function.update_of_ne other] at inside
  rw [names_pushBack] at member
  rcases List.mem_append.1 member with old | new
  · exact r.absent j name inside old
  · rw [List.mem_singleton.1 new] at inside
    exact other (r.alone j i queueName inside own)

theorem Reserved.step {s t : Shared ι} {a : Act ι} (r : Reserved s) (apart : Apart s a)
    (h : SendWorkerManager.step s a = some t) : Reserved t := by
  cases a with
  | insertSendWork i queueName syncCount =>
    simp only [SendWorkerManager.step] at h
    split at h
    · cases h
      exact r.move fun _ inside => inside.elim
    · cases h
  | isExistSendWork i =>
    simp only [SendWorkerManager.step] at h
    split at h
    · rename_i queueName syncCount place
      simp only [Apart, place] at apart
      split at h
      · cases h
        exact r.move fun _ inside => inside.elim
      · rename_i missing
        rw [isExistSendWork_iff] at missing
        cases h
        exact r.enter apart missing
    · cases h
  | activate i succeeds =>
    simp only [SendWorkerManager.step] at h
    split at h
    · rename_i queueName syncCount place
      split at h
      · cases h
        apply r.move
        intro name inside
        rw [place]
        exact inside
      · cases h
        exact r.move fun _ inside => inside.elim
    · cases h
  | pushBack i =>
    simp only [SendWorkerManager.step] at h
    split at h
    · rename_i queueName syncCount place
      cases h
      apply r.push
      rw [place]
      rfl
    · cases h
  | setFrameInfo queueName f =>
    cases h
    exact r.table fun name member => names_setFrameInfo s.manager queueName _ _ _ ▸ member
  | deleteSendWork queueName =>
    cases h
    apply r.table
    intro name member
    rw [names_deleteSendWork] at member
    exact List.mem_of_mem_erase member
  | clearSendWork =>
    cases h
    exact r.table fun _ member => absurd member List.not_mem_nil

omit [DecidableEq ι] in
theorem Reserved.stillMissing {s : Shared ι} (r : Reserved s) (a : Act ι) : StillMissing s a := by
  cases a with
  | pushBack i =>
    simp only [StillMissing]
    split
    · rename_i queueName syncCount place
      rw [← Bool.not_eq_true, isExistSendWork_iff]
      apply r.absent i
      rw [place]
      rfl
    · trivial
  | _ => trivial

/-- Where no insertion of a name starts while another is under way, as with one receiving thread, no insertion is
overtaken. -/
theorem along_stillMissing {acts : List (Act ι)} (apart : Along step Apart {} acts) : Along step StillMissing {} acts :=
  along_of (I := Reserved) Reserved.step (fun r _ => r.stillMissing _) ⟨fun _ _ _ inside => inside.elim, nofun⟩ apart

end Steps

/-- Both threads look for the name before either has its worker in the table. -/
def overtaken {ι : Type} (i j : ι) : List (Act ι) :=
  [.insertSendWork i [65] 3, .insertSendWork j [65] 3, .isExistSendWork i, .isExistSendWork j, .activate i true,
    .activate j true, .pushBack i, .pushBack j]

/-- Two workers of one queue, of which a deletion takes one. -/
theorem overtaken_twice :
    (run step ({} : Shared Bool) (overtaken false true)).map (fun s => (s.manager.names, (s.manager.deleteSendWork [65]).names)) =
        some ([[65], [65]], [[65]]) ∧
      ¬ Throughout step (fun s => s.manager.Unique) ({} : Shared Bool) (overtaken false true) := by
  have twice : (run step ({} : Shared Bool) (overtaken false true)).map
      (fun s => (s.manager.names, (s.manager.deleteSendWork [65]).names)) = some ([[65], [65]], [[65]]) := by
    decide
  refine ⟨twice, fun unique => ?_⟩
  obtain ⟨s, ran, names⟩ := Option.map_eq_some_iff.1 twice
  have nodup := (unique.last ran).nodup
  rw [(Prod.mk.inj names).1] at nodup
  exact absurd nodup (by decide)

end CameraEv.SendWorkerManager
