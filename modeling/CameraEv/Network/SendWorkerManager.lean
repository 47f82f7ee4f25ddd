import CameraEv.Network.PacketStruct
import CameraEv.Decoder.DecoderDefine

/-!
# `SendWorkerManager`

The table of the queues that frames are sent to. A send worker is its queue's
name and sync count; whether its activation succeeds is an argument. `SendFrame`
returns the `SendPacket` calls it makes, each with the packet as it is at that
call: one packet object serves all of them and is changed in between. `latest`
is what the calls made so far say about a queue, without the table.
-/

namespace CameraEv

open Exec

/-- The place of a frame type in an array with one element a type. -/
def frameIndex (frameType : Int32) : Option (Fin ftNum) :=
  if h : 0 ≤ frameType.toInt ∧ frameType.toInt < ftNum then some ⟨frameType.toInt.toNat, by omega⟩ else none

/-- `array[frame_type]`. -/
def element {α : Type} (array : Fin ftNum → α) (frameType : Int32) : Exec α :=
  match frameIndex frameType with
  | some t => return array t
  | none => throw .fault

structure SendWorkInfo where
  frameType : Int32 := -1
  streamIndex : Int32 := -1
  videoStreaming : Bool := false
  /-- The name and the sync count of `send_worker`. -/
  queueName : List UInt8
  syncCount : Int32
  deriving DecidableEq

structure SendWorkerManager where
  sendWorkers : List SendWorkInfo := []
  deriving DecidableEq

namespace SendWorkerManager

/-- `queue_name == item.send_worker->GetQueueName()`. -/
def isNamed (queueName : List UInt8) (item : SendWorkInfo) : Bool := queueName = item.queueName

def isExistSendWork (m : SendWorkerManager) (queueName : List UInt8) : Bool := m.sendWorkers.any (isNamed queueName)

def insertSendWork (m : SendWorkerManager) (queueName : List UInt8) (syncCount : Int32) (activated : Bool) :
    Nat × SendWorkerManager :=
  if m.isExistSendWork queueName then (1, m)
  else if !activated then (2, m)
  else (0, { m with sendWorkers := m.sendWorkers ++ [{ queueName, syncCount }] })

/-- What `SetFrameInfo` does to an item. -/
def setItem (frameType streamIndex : Int32) (videoStreaming : Bool) (item : SendWorkInfo) : SendWorkInfo :=
  { item with frameType, streamIndex, videoStreaming }

/-- The loops of `SetFrameInfo` and `DeleteSendWork` act on the first item of the name and leave. -/
def atFirst (queueName : List UInt8) (act : SendWorkInfo → List SendWorkInfo) : List SendWorkInfo → List SendWorkInfo
  | [] => []
  | item :: items => if isNamed queueName item then act item ++ items else item :: atFirst queueName act items

def setFrameInfo (m : SendWorkerManager) (queueName : List UInt8) (frameType streamIndex : Int32)
    (videoStreaming : Bool) : SendWorkerManager :=
  { m with sendWorkers :=
    atFirst queueName (fun item => [setItem frameType streamIndex videoStreaming item]) m.sendWorkers }

def deleteSendWork (m : SendWorkerManager) (queueName : List UInt8) : SendWorkerManager :=
  { m with sendWorkers := atFirst queueName (fun _ => []) m.sendWorkers }

def clearSendWork (_ : SendWorkerManager) : SendWorkerManager := {}

/-- The body of the loop of `SendFrame`: the packet, and the `SendPacket` calls so far. -/
def sendItem (streamIndex : Int32) (data : DecoderVideoDest) (state : PacketFrame × List (List UInt8 × PacketFrame))
    (item : SendWorkInfo) : Exec (PacketFrame × List (List UInt8 × PacketFrame)) :=
  let (packet, sent) := state
  if !item.videoStreaming then return (packet, sent)
  else if item.streamIndex ≠ streamIndex then return (packet, sent)
  else if item.frameType = -1 then return (packet, sent)
  else do
    let info ← element data.frameInfo item.frameType
    let frame ← element data.frame item.frameType
    let packet := { packet with
      frameType := item.frameType, framePixelFormat := info.pixelFormat, frameWidth := info.width,
      frameHeight := info.height, frameBuffer := frame.data, frameBufferLen := frame.dataSize }
    return (packet, sent ++ [(item.queueName, packet)])

def sendFrame (m : SendWorkerManager) (cameraGuid : List UInt8) (streamIndex : Int32) (data : DecoderVideoDest) :
    Exec (List (List UInt8 × PacketFrame)) := do
  let packet : PacketFrame :=
    { cameraGuid, streamIndex, orderNum := data.index, vcodecId := vcodecIdH264,
      streamWidth := (data.frameInfo ftOriginal).width, streamHeight := (data.frameInfo ftOriginal).height }
  return (← m.sendWorkers.foldlM (sendItem streamIndex data) (packet, [])).2

/-! ## What the calls say about a queue -/

/-- The arguments of a `SetFrameInfo`. -/
structure Subscription where
  frameType : Int32 := -1
  streamIndex : Int32 := -1
  videoStreaming : Bool := false
  deriving DecidableEq

inductive Call where
  | insertSendWork (queueName : List UInt8) (syncCount : Int32) (activated : Bool)
  | setFrameInfo (queueName : List UInt8) (subscription : Subscription)
  | deleteSendWork (queueName : List UInt8)
  | clearSendWork
  deriving DecidableEq

def call (m : SendWorkerManager) : Call → SendWorkerManager
  | .insertSendWork queueName syncCount activated => (m.insertSendWork queueName syncCount activated).2
  | .setFrameInfo queueName s => m.setFrameInfo queueName s.frameType s.streamIndex s.videoStreaming
  | .deleteSendWork queueName => m.deleteSendWork queueName
  | .clearSendWork => m.clearSendWork

/-- What a call adds to what is known of a queue. -/
def record (queueName : List UInt8) (known : Option (Option Subscription)) : Call → Option (Option Subscription)
  | .insertSendWork name _ activated => if name = queueName ∧ activated = true ∧ known = none then some none else known
  | .setFrameInfo name s => if name = queueName then known.map fun _ => some s else known
  | .deleteSendWork name => if name = queueName then none else known
  | .clearSendWork => none

/-- Nothing for a queue that is not present, else its latest `SetFrameInfo` since it was inserted, if there is one. -/
def latest (queueName : List UInt8) (calls : List Call) : Option (Option Subscription) :=
  calls.foldl (record queueName) none

end SendWorkerManager

open SendWorkerManager

def SendWorkInfo.subscription (item : SendWorkInfo) : Subscription :=
  ⟨item.frameType, item.streamIndex, item.videoStreaming⟩

namespace SendWorkerManager

/-- The subscription of the first item of the name. -/
def lookup (m : SendWorkerManager) (queueName : List UInt8) : Option Subscription :=
  (m.sendWorkers.find? (isNamed queueName)).map SendWorkInfo.subscription

def names (m : SendWorkerManager) : List (List UInt8) := m.sendWorkers.map SendWorkInfo.queueName

section Table

variable {m : SendWorkerManager} {name queueName : List UInt8}

@[simp] theorem isNamed_iff {item : SendWorkInfo} : isNamed queueName item = true ↔ queueName = item.queueName :=
  decide_eq_true_iff

theorem isExistSendWork_iff : m.isExistSendWork queueName = true ↔ queueName ∈ m.names := by
  simp only [isExistSendWork, names, List.any_eq_true, isNamed_iff, List.mem_map, @eq_comm _ queueName]

theorem lookup_eq_none : m.lookup queueName = none ↔ queueName ∉ m.names := by
  simp only [lookup, Option.map_eq_none_iff, List.find?_eq_none, isNamed_iff, names, List.mem_map, not_exists, not_and,
    @eq_comm _ queueName]

/-- In a table without two items of a name the item of a name is the one that is found. -/
theorem mem_iff_find {items : List SendWorkInfo} (nodup : (items.map SendWorkInfo.queueName).Nodup) (item : SendWorkInfo) :
    item ∈ items ↔ items.find? (isNamed item.queueName) = some item := by
  constructor
  · intro member
    induction items with
    | nil => cases member
    | cons head items ih =>
      obtain ⟨fresh, nodup⟩ := List.nodup_cons.1 nodup
      rcases List.mem_cons.1 member with rfl | member
      · exact List.find?_cons_of_pos (isNamed_iff.2 rfl)
      · have differs : ¬ isNamed item.queueName head = true := fun same =>
          fresh (List.mem_map.2 ⟨item, member, isNamed_iff.1 same⟩)
        rw [List.find?_cons_of_neg differs]
        exact ih nodup member
  · exact List.mem_of_find?_eq_some

/-- An action on the first item of a name keeps the others. -/
theorem find_atFirst_ne {act : SendWorkInfo → List SendWorkInfo} (keeps : ∀ item, ∀ new ∈ act item, new.queueName = item.queueName)
    (ne : name ≠ queueName) (items : List SendWorkInfo) :
    (atFirst queueName act items).find? (isNamed name) = items.find? (isNamed name) := by
  induction items with
  | nil => rfl
  | cons head items ih =>
    unfold atFirst
    split
    · rename_i same
      rw [isNamed_iff] at same
      have missed : (act head).find? (isNamed name) = none := by
        rw [List.find?_eq_none]
        intro new member
        rw [isNamed_iff, keeps head new member, ← same]
        exact ne
      have differs : ¬ isNamed name head = true := by
        rw [isNamed_iff, ← same]
        exact ne
      rw [List.find?_append, missed, Option.none_or, List.find?_cons_of_neg differs]
    · simp only [List.find?_cons, ih]

/-- `SetFrameInfo` keeps the names. -/
theorem names_setFrameInfo (m : SendWorkerManager) (queueName : List UInt8) (frameType streamIndex : Int32)
    (videoStreaming : Bool) : (m.setFrameInfo queueName frameType streamIndex videoStreaming).names = m.names := by
  simp only [names, setFrameInfo]
  induction m.sendWorkers with
  | nil => rfl
  | cons head items ih =>
    unfold atFirst
    split
    · rfl
    · simp only [List.map_cons, ih]

theorem find_setItem (items : List SendWorkInfo) (frameType streamIndex : Int32) (videoStreaming : Bool) :
    (atFirst queueName (fun item => [setItem frameType streamIndex videoStreaming item]) items).find? (isNamed queueName) =
      (items.find? (isNamed queueName)).map (setItem frameType streamIndex videoStreaming) := by
  induction items with
  | nil => rfl
  | cons head items ih =>
    unfold atFirst
    split
    · rename_i same
      have same' : isNamed queueName (setItem frameType streamIndex videoStreaming head) = true := same
      rw [List.singleton_append, List.find?_cons_of_pos same', List.find?_cons_of_pos same, Option.map_some]
    · rename_i differs
      rw [List.find?_cons_of_neg differs, List.find?_cons_of_neg differs, ih]

theorem names_deleteSendWork (m : SendWorkerManager) (queueName : List UInt8) :
    (m.deleteSendWork queueName).names = m.names.erase queueName := by
  simp only [names, deleteSendWork]
  induction m.sendWorkers with
  | nil => rfl
  | cons head items ih =>
    unfold atFirst
    split
    · rename_i same
      rw [List.nil_append, List.map_cons, isNamed_iff.1 same, List.erase_cons_head]
    · rename_i differs
      rw [isNamed_iff] at differs
      rw [List.map_cons, ih, List.map_cons, List.erase_cons_tail (by simpa using Ne.symm differs)]

theorem lookup_insertSendWork (m : SendWorkerManager) (queueName : List UInt8) (syncCount : Int32) (activated : Bool)
    (name : List UInt8) : (m.insertSendWork queueName syncCount activated).2.lookup name =
      if queueName = name ∧ activated = true ∧ m.lookup name = none then some {} else m.lookup name := by
  unfold insertSendWork
  split
  · rename_i exists'
    rw [if_neg]
    rintro ⟨rfl, -, absent⟩
    exact lookup_eq_none.1 absent (isExistSendWork_iff.1 exists')
  split
  · rename_i failed
    rw [if_neg]
    rintro ⟨-, activated, -⟩
    simp [activated] at failed
  · rename_i absent notFailed
    have ready : activated = true := by simpa using notFailed
    simp only [lookup, List.find?_append, Option.map_eq_none_iff]
    cases found : m.sendWorkers.find? (isNamed name) with
    | some item => simp
    | none =>
      by_cases same : queueName = name
      · have named : isNamed name ({ queueName, syncCount } : SendWorkInfo) = true := isNamed_iff.2 same.symm
        rw [if_pos ⟨same, ready, rfl⟩, Option.none_or, List.find?_cons_of_pos named]
        rfl
      · have other : ¬ isNamed name ({ queueName, syncCount } : SendWorkInfo) = true := fun named =>
          same (isNamed_iff.1 named).symm
        rw [if_neg fun h => same h.1, Option.none_or, List.find?_cons_of_neg other, List.find?_nil]

theorem lookup_setFrameInfo (m : SendWorkerManager) (queueName : List UInt8) (s : Subscription) (name : List UInt8) :
    (m.setFrameInfo queueName s.frameType s.streamIndex s.videoStreaming).lookup name =
      if queueName = name then (m.lookup name).map fun _ => s else m.lookup name := by
  by_cases same : queueName = name
  · subst same
    rw [if_pos rfl, lookup, setFrameInfo, find_setItem, Option.map_map, lookup, Option.map_map]
    rfl
  · rw [if_neg same, lookup, setFrameInfo, find_atFirst_ne (by simp [setItem]) (Ne.symm same), lookup]

theorem lookup_deleteSendWork (nodup : m.names.Nodup) (queueName name : List UInt8) :
    (m.deleteSendWork queueName).lookup name = if queueName = name then none else m.lookup name := by
  by_cases same : queueName = name
  · subst same
    rw [if_pos rfl, lookup_eq_none, names_deleteSendWork]
    exact nodup.not_mem_erase
  · rw [if_neg same, lookup, deleteSendWork, find_atFirst_ne (by simp) (Ne.symm same), lookup]

theorem record_eq {known : Option (Option Subscription)} {c : Call} {s : Subscription}
    (recorded : record name known c = some (some s)) : known = some (some s) ∨ c = .setFrameInfo name s := by
  cases c with
  | insertSendWork queueName syncCount activated =>
    simp only [record] at recorded
    split at recorded
    · cases recorded
    · exact .inl recorded
  | setFrameInfo queueName s' =>
    simp only [record] at recorded
    split at recorded
    · rename_i same
      obtain ⟨-, -, latest⟩ := Option.map_eq_some_iff.1 recorded
      rw [same, Option.some.inj latest]
      exact .inr rfl
    · exact .inl recorded
  | deleteSendWork queueName =>
    simp only [record] at recorded
    split at recorded
    · cases recorded
    · exact .inl recorded
  | clearSendWork => cases recorded

/-- The latest `SetFrameInfo` is one of the calls. -/
theorem foldl_record_eq {calls : List Call} {known : Option (Option Subscription)} {s : Subscription}
    (after : calls.foldl (record name) known = some (some s)) :
    known = some (some s) ∨ .setFrameInfo name s ∈ calls := by
  induction calls generalizing known with
  | nil => exact .inl after
  | cons c calls ih =>
    rcases ih after with recorded | member
    · rcases record_eq recorded with before | rfl
      · exact .inl before
      · exact .inr List.mem_cons_self
    · exact .inr (List.mem_cons_of_mem c member)

/-! ## The table -/

/-- What the table says of a queue, as what is known from the calls. -/
def entry (known : Option (Option Subscription)) : Option Subscription := known.map fun s => s.getD {}

/-- The table stands for what is known of every queue. -/
structure Tabled (m : SendWorkerManager) (known : List UInt8 → Option (Option Subscription)) : Prop where
  nodup : m.names.Nodup
  entries : ∀ name, m.lookup name = entry (known name)

theorem Tabled.call {known : List UInt8 → Option (Option Subscription)} (tabled : m.Tabled known) (c : Call) :
    (m.call c).Tabled fun name => record name (known name) c := by
  obtain ⟨nodup, entries⟩ := tabled
  have absent (name : List UInt8) : m.lookup name = none ↔ known name = none := by
    rw [entries, entry, Option.map_eq_none_iff]
  cases c with
  | insertSendWork queueName syncCount activated =>
    constructor
    · simp only [SendWorkerManager.call, insertSendWork]
      split
      · exact nodup
      split
      · exact nodup
      · rename_i missing _
        rw [isExistSendWork_iff] at missing
        simp only [names, List.map_append, List.map_cons, List.map_nil]
        exact List.nodup_append.2 ⟨nodup, List.nodup_singleton _, by
          rintro name member _ added rfl
          exact missing (List.mem_singleton.1 added ▸ member)⟩
    · intro name
      simp only [SendWorkerManager.call, lookup_insertSendWork, absent, record]
      split
      · rfl
      · exact entries name
  | setFrameInfo queueName s =>
    constructor
    · rw [SendWorkerManager.call, names_setFrameInfo]
      exact nodup
    · intro name
      simp only [SendWorkerManager.call, lookup_setFrameInfo, record]
      split
      · rw [entries, entry, entry, Option.map_map, Option.map_map]
        rfl
      · exact entries name
  | deleteSendWork queueName =>
    constructor
    · rw [SendWorkerManager.call, names_deleteSendWork]
      exact nodup.erase queueName
    · intro name
      simp only [SendWorkerManager.call, lookup_deleteSendWork nodup, record]
      split
      · rfl
      · exact entries name
  | clearSendWork => exact ⟨List.nodup_nil, fun name => rfl⟩

theorem tabled_calls {known : List UInt8 → Option (Option Subscription)} (tabled : m.Tabled known) (calls : List Call) :
    (calls.foldl SendWorkerManager.call m).Tabled fun name => calls.foldl (record name) (known name) := by
  induction calls generalizing m known with
  | nil => exact tabled
  | cons c calls ih => exact ih (tabled.call c)

end Table

/-! ## The frames -/

section Frames

variable {cameraGuid : List UInt8} {streamIndex : Int32} {data : DecoderVideoDest}

/-- The packet for a queue with frame type `t`. -/
def framePacket (cameraGuid : List UInt8) (streamIndex : Int32) (data : DecoderVideoDest) (frameType : Int32)
    (t : Fin ftNum) : PacketFrame where
  cameraGuid := cameraGuid
  streamIndex := streamIndex
  orderNum := data.index
  streamWidth := (data.frameInfo ftOriginal).width
  streamHeight := (data.frameInfo ftOriginal).height
  frameType := frameType
  framePixelFormat := (data.frameInfo t).pixelFormat
  frameWidth := (data.frameInfo t).width
  frameHeight := (data.frameInfo t).height
  vcodecId := vcodecIdH264
  frameBuffer := (data.frame t).data
  frameBufferLen := (data.frame t).dataSize

/-- The item wants the frames of the stream. -/
def Wants (streamIndex : Int32) (item : SendWorkInfo) : Prop :=
  item.videoStreaming = true ∧ item.streamIndex = streamIndex ∧ item.frameType ≠ -1

instance (item : SendWorkInfo) : Decidable (Wants streamIndex item) := inferInstanceAs (Decidable (_ ∧ _ ∧ _))

/-- What `SendFrame` sends to an item, which nothing but the item's own frame type decides. -/
def sendTo (cameraGuid : List UInt8) (streamIndex : Int32) (data : DecoderVideoDest) (item : SendWorkInfo) :
    Option (List UInt8 × PacketFrame) :=
  if Wants streamIndex item then
    (frameIndex item.frameType).map fun t => (item.queueName, framePacket cameraGuid streamIndex data item.frameType t)
  else none

/-- The fields of the packet that are set before the loop. -/
structure Headed (cameraGuid : List UInt8) (streamIndex : Int32) (data : DecoderVideoDest) (p : PacketFrame) : Prop where
  cameraGuid : p.cameraGuid = cameraGuid
  streamIndex : p.streamIndex = streamIndex
  orderNum : p.orderNum = data.index
  vcodecId : p.vcodecId = vcodecIdH264
  streamWidth : p.streamWidth = (data.frameInfo ftOriginal).width
  streamHeight : p.streamHeight = (data.frameInfo ftOriginal).height

theorem sendItem_skip {item : SendWorkInfo} (no : ¬ Wants streamIndex item) (p : PacketFrame)
    (sent : List (List UInt8 × PacketFrame)) : sendItem streamIndex data (p, sent) item = .ok (p, sent) := by
  simp only [sendItem]
  split
  · rfl
  rename_i streaming
  split
  · rfl
  rename_i same
  split
  · rfl
  rename_i typed
  exact absurd ⟨by simpa using streaming, by simpa using same, typed⟩ no

theorem sendItem_send {item : SendWorkInfo} {t : Fin ftNum} (wants : Wants streamIndex item)
    (inRange : frameIndex item.frameType = some t) {p : PacketFrame} (headed : Headed cameraGuid streamIndex data p)
    (sent : List (List UInt8 × PacketFrame)) :
    sendItem streamIndex data (p, sent) item =
      .ok (framePacket cameraGuid streamIndex data item.frameType t,
        sent ++ [(item.queueName, framePacket cameraGuid streamIndex data item.frameType t)]) := by
  obtain ⟨streaming, same, typed⟩ := wants
  obtain ⟨guid, stream, order, codec, width, height⟩ := headed
  simp only [sendItem, streaming, Bool.not_true, Bool.false_eq_true, if_false, same, ne_eq, not_true_eq_false, typed,
    element, inRange, pure_eq_ok, ok_bind, guid, stream, order, codec, width, height, framePacket]

/-- Each item is sent to by itself. -/
theorem foldlM_sendItem {items : List SendWorkInfo}
    (inRange : ∀ item ∈ items, Wants streamIndex item → (frameIndex item.frameType).isSome = true) {p : PacketFrame}
    (headed : Headed cameraGuid streamIndex data p) (sent : List (List UInt8 × PacketFrame)) :
    ∃ p', items.foldlM (sendItem streamIndex data) (p, sent) =
      .ok (p', sent ++ items.filterMap (sendTo cameraGuid streamIndex data)) := by
  induction items generalizing p sent with
  | nil => exact ⟨p, by simp⟩
  | cons item items ih =>
    have inRange' : ∀ other ∈ items, Wants streamIndex other → (frameIndex other.frameType).isSome = true :=
      fun other member => inRange other (List.mem_cons_of_mem item member)
    by_cases wants : Wants streamIndex item
    · obtain ⟨t, typed⟩ := Option.isSome_iff_exists.1 (inRange item List.mem_cons_self wants)
      have own : sendTo cameraGuid streamIndex data item =
          some (item.queueName, framePacket cameraGuid streamIndex data item.frameType t) := by
        rw [sendTo, if_pos wants, typed, Option.map_some]
      obtain ⟨p', rest⟩ := ih inRange' (p := framePacket cameraGuid streamIndex data item.frameType t)
        ⟨rfl, rfl, rfl, rfl, rfl, rfl⟩ (sent ++ [(item.queueName, framePacket cameraGuid streamIndex data item.frameType t)])
      refine ⟨p', ?_⟩
      rw [List.foldlM_cons, sendItem_send wants typed headed, ok_bind, rest, List.filterMap_cons_some own,
        List.append_assoc, List.singleton_append]
    · have own : sendTo cameraGuid streamIndex data item = none := if_neg wants
      obtain ⟨p', rest⟩ := ih inRange' headed sent
      exact ⟨p', by rw [List.foldlM_cons, sendItem_skip wants, ok_bind, rest, List.filterMap_cons_none own]⟩

/-- `SendFrame` sends to the items that want the stream's frames. -/
theorem sendFrame_eq {m : SendWorkerManager}
    (inRange : ∀ item ∈ m.sendWorkers, Wants streamIndex item → (frameIndex item.frameType).isSome = true) :
    m.sendFrame cameraGuid streamIndex data =
      .ok (m.sendWorkers.filterMap (sendTo cameraGuid streamIndex data)) := by
  have headed : Headed cameraGuid streamIndex data
      { cameraGuid, streamIndex, orderNum := data.index, vcodecId := vcodecIdH264,
        streamWidth := (data.frameInfo ftOriginal).width, streamHeight := (data.frameInfo ftOriginal).height } :=
    ⟨rfl, rfl, rfl, rfl, rfl, rfl⟩
  obtain ⟨p', ran⟩ := foldlM_sendItem inRange headed []
  simp only [sendFrame, ran, ok_bind, pure_eq_ok, List.nil_append]

theorem names_sent (items : List SendWorkInfo) :
    ((items.filterMap (sendTo cameraGuid streamIndex data)).map Prod.fst).Sublist (items.map SendWorkInfo.queueName) := by
  induction items with
  | nil => exact .slnil
  | cons item items ih =>
    cases own : sendTo cameraGuid streamIndex data item with
    | none =>
      rw [List.filterMap_cons_none own, List.map_cons]
      exact ih.cons _
    | some entry =>
      have name : entry.1 = item.queueName := by
        simp only [sendTo] at own
        split at own
        · obtain ⟨t, -, rfl⟩ := Option.map_eq_some_iff.1 own
          rfl
        · cases own
      rw [List.filterMap_cons_some own, List.map_cons, List.map_cons, name]
      exact ih.cons_cons _

/-- What is known of the queue of an item that video is sent to. -/
theorem Tabled.known_of_streaming {m : SendWorkerManager} {known : List UInt8 → Option (Option Subscription)}
    (tabled : m.Tabled known) {item : SendWorkInfo} (member : item ∈ m.sendWorkers) (streaming : item.videoStreaming = true) :
    known item.queueName = some (some item.subscription) := by
  have found : m.lookup item.queueName = some item.subscription := by
    rw [lookup, (mem_iff_find tabled.nodup item).1 member, Option.map_some]
  rw [tabled.entries, entry] at found
  obtain ⟨s, isKnown, same⟩ := Option.map_eq_some_iff.1 found
  cases s with
  | none =>
    have off := congrArg Subscription.videoStreaming same
    rw [SendWorkInfo.subscription, streaming] at off
    cases off
  | some s =>
    rw [isKnown, show s = item.subscription from same]

/-- A queue with a known `SetFrameInfo` has an item that carries it. -/
theorem Tabled.item_of_known {m : SendWorkerManager} {known : List UInt8 → Option (Option Subscription)}
    (tabled : m.Tabled known) {name : List UInt8} {s : Subscription} (isKnown : known name = some (some s)) :
    ∃ item ∈ m.sendWorkers, item.queueName = name ∧ item.subscription = s := by
  have found := tabled.entries name
  rw [isKnown] at found
  obtain ⟨item, found, same⟩ := Option.map_eq_some_iff.1 found
  exact ⟨item, List.mem_of_find?_eq_some found, (isNamed_iff.1 (List.find?_some found)).symm, same⟩

end Frames

/-- **Frames go where the latest subscriptions say.** After any calls each queue is in the table once at most, and
`SendFrame` sends one packet to every present queue whose latest `SetFrameInfo` asks for frames of the stream, and
to no other: the packet of that queue's own frame type, whatever the other queues are. -/
theorem frames_routed (calls : List Call) :
    (calls.foldl call {}).names.Nodup ∧ ∀ cameraGuid streamIndex data,
      (∀ name s, latest name calls = some (some s) → s.streamIndex = streamIndex → s.videoStreaming = true →
        s.frameType = -1 ∨ (frameIndex s.frameType).isSome = true) →
      ∃ sent, (calls.foldl call {}).sendFrame cameraGuid streamIndex data = .ok sent ∧ (sent.map Prod.fst).Nodup ∧
        ∀ name packet, (name, packet) ∈ sent ↔ ∃ s t, latest name calls = some (some s) ∧
          s.streamIndex = streamIndex ∧ s.videoStreaming = true ∧ s.frameType ≠ -1 ∧ frameIndex s.frameType = some t ∧
            packet = framePacket cameraGuid streamIndex data s.frameType t := by
  have empty : Tabled {} fun _ => none := ⟨List.nodup_nil, fun _ => rfl⟩
  have tabled : (calls.foldl call {}).Tabled fun name => latest name calls := tabled_calls empty calls
  refine ⟨tabled.nodup, fun cameraGuid streamIndex data typed => ⟨_, sendFrame_eq ?_, ?_, ?_⟩⟩
  · intro item member wants
    obtain ⟨streaming, same, notNone⟩ := wants
    rcases typed _ _ (tabled.known_of_streaming member streaming) same streaming with none | inRange
    · exact absurd none notNone
    · exact inRange
  · exact (names_sent _).nodup tabled.nodup
  · intro name packet
    rw [List.mem_filterMap]
    constructor
    · rintro ⟨item, member, sent⟩
      simp only [sendTo] at sent
      split at sent
      · rename_i wants
        obtain ⟨t, inRange, same⟩ := Option.map_eq_some_iff.1 sent
        cases same
        exact ⟨_, t, tabled.known_of_streaming member wants.1, wants.2.1, wants.1, wants.2.2, inRange, rfl⟩
      · cases sent
    · rintro ⟨s, t, isKnown, same, streaming, notNone, inRange, rfl⟩
      obtain ⟨item, member, rfl, rfl⟩ := tabled.item_of_known isKnown
      have wants : Wants streamIndex item := ⟨streaming, same, notNone⟩
      refine ⟨item, member, ?_⟩
      rw [sendTo, if_pos wants, show frameIndex item.frameType = some t from inRange, Option.map_some]
      rfl

/-- Two queues of one stream with different frame types, one of them inserted again after a deletion. -/
theorem frames_routed_two :
    let calls : List Call := [.insertSendWork [65] 3 true, .setFrameInfo [65] ⟨0, 1, true⟩, .insertSendWork [66] 3 true,
      .setFrameInfo [66] ⟨0, 1, true⟩, .deleteSendWork [66], .insertSendWork [66] 3 true, .setFrameInfo [66] ⟨2, 1, true⟩]
    ∀ data, ∃ sent, (calls.foldl call {}).sendFrame [] 1 data = .ok sent ∧
      ([66], framePacket [] 1 data 2 2) ∈ sent := by
  intro calls data
  have typed : ∀ name s, latest name calls = some (some s) → s.streamIndex = 1 → s.videoStreaming = true →
      s.frameType = -1 ∨ (frameIndex s.frameType).isSome = true := by
    intro name s known _ _
    have member := (foldl_record_eq known).resolve_left nofun
    simp only [calls, List.mem_cons, Call.setFrameInfo.injEq, List.not_mem_nil, or_false, reduceCtorEq, false_or] at member
    rcases member with ⟨-, rfl⟩ | ⟨-, rfl⟩ | ⟨-, rfl⟩ <;> decide
  obtain ⟨sent, ran, -, routed⟩ := (frames_routed calls).2 [] 1 data typed
  exact ⟨sent, ran, (routed _ _).2 ⟨⟨2, 1, true⟩, 2, by decide, rfl, rfl, by decide, by decide, rfl⟩⟩

end SendWorkerManager

end CameraEv
