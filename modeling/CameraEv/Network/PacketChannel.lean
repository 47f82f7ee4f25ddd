import CameraEv.Common.SyncDelivery
import CameraEv.Network.PacketStructRoundTrip

/-!
# From the send workers to the receive worker

`SendPacket` writes a packet with the writer of its worker and pushes the bytes
up to the cursor with `SyncProducer`. `RecvWorkerSyncQueue::ThreadLoop` takes
bytes with `SyncConsumer`, analyses them and hands its reader to the callback,
whose first act is to build and fill the object. The state is that of the shared
queue's protocol with what the workers keep beside it; any number of threads
send, and one receives. `handed` is what the callback was called with.

The stop of the receive worker is the exit event that ends a wait; its flag and
the sender's lock, under which it writes and sends, are left out.
-/

namespace CameraEv

open Exec CPacketDefine Trace

namespace PacketChannel

/-- What a thread's worker is in. -/
inductive Worker where
  | idle
  /-- In `SendPacket`, behind `Writer`. -/
  | sending (packet : PacketStruct)
  /-- In or just behind `SyncConsumer`. -/
  | receiving
  /-- `ThreadLoop` was left. -/
  | finished

structure State (ι : Type) where
  sync : SyncSharedMemory.State ι
  /-- `m_packet_writer` of each send worker. -/
  writer : ι → CPacketWriter
  worker : ι → Worker
  /-- `m_packet_reader` of the receive worker. -/
  reader : CPacketReader := {}
  /-- The packets of the `SendPacket` calls that have released the mutex on their way to return 0. -/
  sent : List PacketStruct := []
  handed : List PacketStruct := []

inductive Act where
  | sendPacket (packet : PacketStruct)
  /-- The next round of `ThreadLoop`. -/
  | syncConsumer
  /-- What a thread does inside `SyncProducer` or `SyncConsumer`. -/
  | wait (e : SyncSharedMemory.WaitEvent)
  | run
  /-- The callback returns false at once: the receive worker is to stop, for example. -/
  | refuse
  /-- What follows the call in `SendPacket` or in `ThreadLoop`. -/
  | returned

/-- The bytes that `SendPacket` pushes: from `GetBufferPtr()`, as many as `(uint32_t)GetPos()`. -/
def pushed (w : CPacketWriter) : Buffer :=
  ⟨(w.buffer.getD []).take (w.pos % 2 ^ 32), by
    rw [List.length_take]
    exact lt_of_le_of_lt (Nat.min_le_left _ _) (Nat.mod_lt _ (by decide))⟩

/-- `ThreadLoop` behind a successful `SyncConsumer`, up to the object that `OnRecvWorker` fills. Nothing is handed
on where the analysis fails. -/
def receive (fuel : Nat) (r : CPacketReader) (packetBuffer : List UInt8) :
    Exec (Option PacketStruct × CPacketReader) := do
  let mainLen ← getMainLength packetBuffer
  let (ret, r) ← r.doAnalyze fuel packetBuffer (toInt32 mainLen)
  if ret ≠ 0 then
    return (none, r)
  match PacketStruct.createFactory r.getReadMainName with
  | none => throw .fault
  | some packet => do
    let (_, packet) ← packet.reader r
    return (some packet, r)

namespace State

variable {ι : Type} [DecidableEq ι]

def setWorker (s : State ι) (i : ι) (worker : Worker) : State ι :=
  { s with worker := Function.update s.worker i worker }

/-- The packet of a call that this step lets return 0. -/
def completed (s : State ι) (i : ι) : List PacketStruct := match (s.sync.thread i).pc, s.worker i with
  | .unlock (.producer _) 0, .sending packet => [packet]
  | _, _ => []

/-- `ThreadLoop` behind `SyncConsumer`. -/
def endConsumer (fuel : Nat) (s : State ι) (i : ι) : Option (State ι) :=
  let u := s.sync.thread i
  if u.ret = SyncSharedMemory.FailedCode.recvDeactivaed then some (s.setWorker i .finished)
  else if u.ret ≠ 0 then some (s.setWorker i .idle)
  else match receive fuel s.reader u.handle.packetBuffer with
    | .ok (packet, reader) => some { s.setWorker i .idle with reader, handed := s.handed ++ packet.toList }
    -- a null pointer or an exception ends the process
    | .error _ => none

/-- A step inside the call of thread `i`. -/
def inside (ap : SyncSharedMemory.ActivateParam) (s : State ι) (i : ι) (a : SyncSharedMemory.Act) : Option (State ι) :=
  (s.sync.step ap (i, a)).map fun sync => { s with sync, sent := s.sent ++ s.completed i }

/-- One step of one thread; the thread `r` receives, the others send. -/
def step (ap : SyncSharedMemory.ActivateParam) (fuel : Nat) (r : ι) (s : State ι) : ι × Act → Option (State ι)
  | (i, .sendPacket packet) => match s.worker i with
    | .idle => if i = r then none else match packet.writer (s.writer i) with
      | .ok (_, w) => (s.sync.step ap (i, .syncProducer (pushed w))).map fun sync =>
        { s.setWorker i (.sending packet) with sync, writer := Function.update s.writer i w }
      -- an access violation ends the process
      | .error _ => none
    | _ => none
  | (i, .syncConsumer) => match s.worker i with
    | .idle => if i = r then (s.sync.step ap (i, .syncConsumer)).map fun sync => { s.setWorker i .receiving with sync }
      else none
    | _ => none
  | (i, .wait e) => s.inside ap i (.wait e)
  | (i, .run) => s.inside ap i .run
  | (i, .refuse) => s.inside ap i .refuse
  | (i, .returned) => if (s.sync.thread i).pc = .idle then match s.worker i with
      | .sending _ => some (s.setWorker i .idle)
      | .receiving => s.endConsumer fuel i
      | _ => none
    else none

end State

/-- New kernel objects and an empty queue; every send worker has its writer, and nobody has begun. -/
def fresh {ι : Type} (ap : SyncSharedMemory.ActivateParam) (queueSize : Nat) (packetBuffer : ι → List UInt8)
    (writer : ι → CPacketWriter) : State ι where
  sync := SyncSharedMemory.State.fresh ap queueSize packetBuffer
  writer := writer
  worker _ := .idle

/-! ## The bytes of one packet -/

/-- The bytes are those of this packet, whose length is an `int`. -/
structure Carries (packet : PacketStruct) (bytes : List UInt8) : Prop where
  readable : packet.Readable
  small : packetLength packet.packetTypeStr packet.blocks < 2 ^ 31
  encoded : bytes = encodePacket packet.packetTypeStr packet.blocks

/-- The receiver's object has the sender's type and fields. -/
structure Same (packet received : PacketStruct) : Prop where
  type : received.packetType = packet.packetType
  fields : received.fields = packet.fields

/-- What the receive worker makes of these bytes. -/
def ReadFrom (received : PacketStruct) (bytes : List UInt8) : Prop :=
  ∃ packet, Carries packet bytes ∧ Same packet received

section Bytes

variable {packet : PacketStruct} {bytes : List UInt8}

theorem isFrame_encodePacket {name : List UInt8} {blocks : List Block} (small : packetLength name blocks < 2 ^ 32) :
    IsFrame (encodePacket name blocks) where
  long := by
    rw [length_encodePacket, packetLength]
    omega
  marked := List.take_left' rfl
  sized := by
    have behind : (encodePacket name blocks).drop 4 =
        LittleEndian.encode 4 (packetLength name blocks) ++ (encodeBody name blocks ++ etx) := List.drop_left' rfl
    rw [behind, List.take_left' (LittleEndian.length_encode 4 _), LittleEndian.decode_encode, length_encodePacket,
      Nat.mod_eq_of_lt (by simpa using small)]

theorem Carries.isFrame (carries : Carries packet bytes) : IsFrame bytes := by
  have small := carries.small
  rw [carries.encoded]
  exact isFrame_encodePacket (by omega)

/-- A packet that was written is what is pushed, whatever the writer's buffer held before. -/
theorem carries_pushed {w w' : CPacketWriter} {buffer : List UInt8} (hw : w.buffer = some buffer) {ret : Nat}
    (wrote : packet.writer w = .ok (ret, w')) (readable : packet.Readable)
    (small : packetLength packet.packetTypeStr packet.blocks < 2 ^ 31) :
    Carries packet (pushed w').1 ∧ ∃ buffer', w'.buffer = some buffer' := by
  rw [PacketStruct.writer_eq readable, bind_eq_ok] at wrote
  obtain ⟨⟨code, w''⟩, wrote, same⟩ := wrote
  cases same
  obtain ⟨len, bytes⟩ := PacketStruct.written_bytes hw wrote
  obtain ⟨-, -, written⟩ := (writePacket_spec hw _ _).sound wrote
  obtain ⟨rest, buffer', -⟩ := written.buffer
  refine ⟨⟨readable, small, ?_⟩, _, buffer'⟩
  show (w'.buffer.getD []).take (w'.pos % 2 ^ 32) = _
  rw [Nat.mod_eq_of_lt (by omega), bytes]

/-- The receive worker reads the packet back from a buffer that starts with its bytes. -/
theorem receive_spec {fuel : Nat} (fueled : 11 < fuel) (carries : Carries packet bytes) (rest : List UInt8)
    (r : CPacketReader) :
    ∃ received r', receive fuel r (bytes ++ rest) = .ok (some received, r') ∧ Same packet received := by
  obtain ⟨readable, small, rfl⟩ := carries
  obtain ⟨nonempty, delimited, -⟩ := PacketStruct.packetTypeStr_named packet
  have analyzed := CPacketReader.doAnalyze_spec nonempty delimited (fun b => PacketStruct.wellNamed_of_mem_blocks) small
    (Nat.lt_of_le_of_lt (PacketStruct.length_blocks_le packet) fueled) r rest
  have main : getMainLength (encodePacket packet.packetTypeStr packet.blocks ++ rest) =
      .ok (packetLength packet.packetTypeStr packet.blocks) := by
    rw [getMainLength_encodePacket, Nat.mod_eq_of_lt (by omega)]
  obtain ⟨r', analyzed', named, items⟩ : ∃ r',
      r.doAnalyze fuel (encodePacket packet.packetTypeStr packet.blocks ++ rest)
        (packetLength packet.packetTypeStr packet.blocks) = .ok (0, r') ∧ r'.getReadMainName = packet.packetTypeStr ∧
      r'.blockItems = CPacketReader.recorded (etx ++ rest) packet.blocks := ⟨_, analyzed, rfl, rfl⟩
  obtain ⟨new, received, made, read, type, fields⟩ := PacketStruct.reader_spec (r := r') readable
    (items ▸ CPacketReader.recorded_reads (etx ++ rest) packet.blocks)
  refine ⟨received, r', ?_, type, fields⟩
  have len : toInt32 (packetLength packet.packetTypeStr packet.blocks) =
      packetLength packet.packetTypeStr packet.blocks := toInt32_eq (by omega) (by omega)
  rw [receive, main, ok_bind, len, analyzed', ok_bind]
  simp only [ne_eq, not_true_eq_false, if_false, named]
  rw [PacketStruct.createFactory_packetTypeStr, made]
  simp only [read, ok_bind, pure_eq_ok]

/-- Bytes that carry a packet determine what is made of them. -/
theorem ReadFrom.same {received : PacketStruct} (from' : ReadFrom received bytes) (carries : Carries packet bytes) :
    Same packet received := by
  obtain ⟨packet', carries', same'⟩ := from'
  obtain ⟨made, r, ran, same⟩ := receive_spec (Nat.lt_succ_self 11) carries [] {}
  obtain ⟨made', r', ran', same''⟩ := receive_spec (Nat.lt_succ_self 11) carries' [] {}
  cases ran.symm.trans ran'
  exact ⟨same'.type.trans (same''.type.symm.trans same.type), same'.fields.trans (same''.fields.symm.trans same.fields)⟩

theorem forall_same {packets received : List PacketStruct} {bytes : List (List UInt8)}
    (carry : List.Forall₂ Carries packets bytes) (read : List.Forall₂ ReadFrom received bytes) :
    List.Forall₂ Same packets received := by
  induction carry generalizing received with
  | nil =>
    cases read
    exact .nil
  | cons carries _ ih =>
    cases read with
    | cons from' read => exact .cons (from'.same carries) (ih read)

/-- The bytes of packets one after the other. -/
def stream (packets : List PacketStruct) : List UInt8 :=
  packets.flatMap fun packet => encodePacket packet.packetTypeStr packet.blocks

theorem flatten_eq {packets : List PacketStruct} {bytes : List (List UInt8)}
    (carry : List.Forall₂ Carries packets bytes) : bytes.flatten = stream packets := by
  induction carry with
  | nil => rfl
  | cons carries _ ih => rw [List.flatten_cons, ih, carries.encoded, stream, stream, List.flatMap_cons]

end Bytes

end PacketChannel

/-! ## A call from its start to its end -/

namespace SyncSharedMemory

/-- What a thread does in a call that has begun. -/
def Act.within : Act → Bool
  | wait _ | run | refuse => true
  | _ => false

namespace State

variable {ι : Type} [DecidableEq ι] {ap : ActivateParam} {size : Nat} {fs fs' : List Frame} {s t : State ι} {i : ι}
  {a : Act}

theorem busy_of_step (h : s.step ap (i, a) = some t) (within : a.within = true) : (s.thread i).pc ≠ .idle := by
  intro idle
  cases step_stepped h with
  | producer | consumer | clear | died => cases within
  | token here | noToken here | mutexWait here | clearWait here | refused here =>
    rw [here] at idle
    cases idle
  | ran ran =>
    rw [idle] at ran
    cases ran

/-- A call that has begun keeps what it was made with, or ends. -/
theorem call_of_step (h : s.step ap (i, a) = some t) (within : a.within = true) (moves : Moves ap s i a t fs fs') :
    (t.thread i).pc.call = none ∨ (t.thread i).pc.call = (s.thread i).pc.call := by
  have busy := busy_of_step h within
  cases moves with
  | entered goes | enteredClear _ goes => exact absurd goes.before busy
  | token goes | noToken goes | granted goes | leaked _ goes | grantedClear goes | noClear goes | failed goes
  | pushed goes | taken goes | posted goes | overflow goes | gaveBack goes | notGivenBack goes | unlocked goes
  | cleared goes | refilled goes | refillEnd goes | drained goes | drainEnd goes | clearUnlocked goes =>
    simp [goes.before, goes.after, Pc.call]

/-- A call that returns 0 has released the mutex. -/
theorem unlock_of_step (h : s.step ap (i, a) = some t) (calm : (s.thread i).pc.clears = false)
    (idle : (t.thread i).pc = .idle) (zero : (t.thread i).ret = 0) : ∃ c, (s.thread i).pc = .unlock c 0 := by
  have refused {granted : Pc} {e : WaitEvent} (ended : s.endMutexWait i granted e = some t) (goes : granted ≠ .idle) :
      False := by
    cases e <;> simp only [endMutexWait] at ended
    case signaled =>
      split at ended <;> cases ended
      exact goes (by simpa using idle)
    case abandoned =>
      split at ended <;> cases ended
      simp [mutexRet, FailedCode.waitForObjectFailed] at zero
    all_goals
      cases ended
      simp [mutexRet, FailedCode.waitForObjectFailed, FailedCode.recvUnlock, FailedCode.recvDeactivaed] at zero
  cases step_stepped h with
  | died => simp [kill] at idle
  | producer | consumer | clear | refused => simp at idle
  | token => simp [setSem] at idle
  | @noToken c e here other =>
    rw [leave_self] at zero
    cases e <;>
      simp [semaphoreRet, FailedCode.waitForObjectFailed, FailedCode.recvUnlock, FailedCode.recvDeactivaed,
        FailedCode.semaphoreTimeout] at zero other
  | mutexWait here ended => exact (refused ended (by simp)).elim
  | clearWait here ended => exact (refused ended (by simp)).elim
  | ran ran =>
    generalize here : (s.thread i).pc = pc at ran calm
    cases pc with
    | unlock c ret =>
      cases ran
      obtain rfl : ret = 0 := by simpa using zero
      exact ⟨c, rfl⟩
    | callback c | post c | giveBack c =>
      simp only [runStatement] at ran
      split at ran <;> cases ran <;> simp [kill, setSem] at idle
    | clearQueue | refill | drain | clearUnlock => cases calm
    | _ => cases ran

/-- The thread that releases the mutex is outside again, with the code of its call. -/
theorem thread_of_unlock (h : s.step ap (i, a) = some t) (within : a.within = true) {c : SyncCall} {ret : Nat}
    (here : (s.thread i).pc = .unlock c ret) : t.thread i = { s.thread i with pc := .idle, ret } := by
  cases step_stepped h with
  | producer | consumer | clear | died => cases within
  | token idle | noToken idle | mutexWait idle | clearWait idle | refused idle =>
    rw [here] at idle
    cases idle
  | ran ran =>
    rw [here] at ran
    cases ran
    rw [leave_self, record_thread]

/-- What every step of a run without `SyncClear` keeps: the frames are accounted for. -/
structure InOrder (size : Nat) (ap : ActivateParam) (s : State ι) : Prop where
  accounted : ∃ fs, Sound size ap fs s ∧ Accounted fs s
  exclusive : Exclusive s
  kept : s.mutex ≠ .free true
  calm : ∀ i, (s.thread i).pc.clears = false

theorem InOrder.step (inv : InOrder size ap s) (hs : size < 2 ^ 32) (orderly : a.Orderly) (quiet : a ≠ .syncClear)
    (h : s.step ap (i, a) = some t) : InOrder size ap t ∧ ∃ fs fs', Moves ap s i a t fs fs' := by
  obtain ⟨fs, sound, accounted⟩ := inv.accounted
  obtain ⟨fs', sound', moves⟩ := sound.step hs orderly h
  obtain ⟨exclusive, kept⟩ := inv.exclusive.step_alive inv.kept h (sound'.alive i)
  exact ⟨⟨⟨fs', sound', accounted.move inv.exclusive exclusive orderly (inv.calm i) h moves⟩, exclusive, kept,
    moves.clears quiet inv.calm⟩, fs, fs', moves⟩

omit [DecidableEq ι] in
theorem inOrder_fresh (ap : ActivateParam) (pos : 1 ≤ size) {packetBuffer : ι → List UInt8}
    (room : ∀ i, 8 ≤ (packetBuffer i).length) : InOrder size ap (fresh ap size packetBuffer) where
  accounted := ⟨[], sound_fresh ap pos room, rfl⟩
  exclusive := exclusive_fresh ap size packetBuffer
  kept h := by cases h
  calm _ := rfl

end State

end SyncSharedMemory

namespace PacketChannel

open SyncSharedMemory (SyncCall Thread)
open SyncSharedMemory.State (InOrder)

/-! ## One packet after the other -/

variable {ι : Type}

namespace State

/-- What the receiver has taken and not yet handed on. -/
def unread (r : ι) (s : State ι) : List (List UInt8) :=
  match s.worker r, (s.sync.thread r).pc, (s.sync.thread r).ret with
  | .receiving, .idle, 0 => [RecvWorkerSyncQueue.packet (s.sync.thread r).handle]
  | _, _, _ => []

/-- The packet that is in the queue while its `SendPacket` has not released the mutex. -/
def pushing (s : State ι) : List PacketStruct := match s.sync.mutex with
  | .free _ => []
  | .owned i _ => match (s.sync.thread i).sending, s.worker i with
    | [_], .sending packet => [packet]
    | _, _ => []

/-- The bytes in the queue's protocol are those of the workers' packets. -/
structure Inv (size : Nat) (ap : SyncSharedMemory.ActivateParam) (r : ι) (s : State ι) : Prop where
  inOrder : InOrder size ap s.sync
  writers : ∀ i, ∃ buffer, (s.writer i).buffer = some buffer
  sends : ∀ i bytes, (s.sync.thread i).pc.call = some (.producer bytes) →
    ∃ packet, s.worker i = .sending packet ∧ Carries packet bytes.1
  receives : ∀ i, (s.sync.thread i).pc.call = some .consumer → s.worker i = .receiving
  alone : ∀ i, s.worker i = .receiving → i = r
  sent : List.Forall₂ Carries s.sent s.sync.sent
  handed : ∃ read, s.sync.delivered = read ++ s.unread r ∧ List.Forall₂ ReadFrom s.handed read

end State

/-- Packets of which the bytes can be read and counted in an `int`. -/
def Sendable (_ : State ι) : ι × Act → Prop
  | (_, .sendPacket packet) => packet.Readable ∧ packetLength packet.packetTypeStr packet.blocks < 2 ^ 31
  | _ => True

section Step

variable [DecidableEq ι] {ap : SyncSharedMemory.ActivateParam} {size fuel : Nat} {r i : ι} {s t : State ι}

namespace State

/-- What a step of thread `i` is. -/
inductive Stepped (ap : SyncSharedMemory.ActivateParam) (fuel : Nat) (r : ι) (s : State ι) (i : ι) :
    Act → State ι → Prop
  | sendPacket {packet w ret sync} (idle : s.worker i = .idle) (other : i ≠ r)
      (wrote : packet.writer (s.writer i) = .ok (ret, w))
      (entered : s.sync.step ap (i, .syncProducer (pushed w)) = some sync) :
      Stepped ap fuel r s i (.sendPacket packet)
        { s.setWorker i (.sending packet) with sync, writer := Function.update s.writer i w }
  | syncConsumer {sync} (idle : s.worker i = .idle) (receiver : i = r)
      (entered : s.sync.step ap (i, .syncConsumer) = some sync) :
      Stepped ap fuel r s i .syncConsumer { s.setWorker i .receiving with sync }
  | inside {act a sync} (within : a.within = true) (moved : s.sync.step ap (i, a) = some sync) :
      Stepped ap fuel r s i act { s with sync, sent := s.sent ++ s.completed i }
  | sent {packet} (outside : (s.sync.thread i).pc = .idle) (sending : s.worker i = .sending packet) :
      Stepped ap fuel r s i .returned (s.setWorker i .idle)
  | received {u} (outside : (s.sync.thread i).pc = .idle) (receiving : s.worker i = .receiving)
      (ended : s.endConsumer fuel i = some u) : Stepped ap fuel r s i .returned u

theorem step_stepped {a : Act} (h : s.step ap fuel r (i, a) = some t) : Stepped ap fuel r s i a t := by
  cases a with
  | sendPacket packet =>
    simp only [step] at h
    split at h
    · rename_i idle
      split at h
      · cases h
      · rename_i other
        split at h
        · rename_i wrote
          obtain ⟨sync, entered, rfl⟩ := Option.map_eq_some_iff.1 h
          exact .sendPacket idle other wrote entered
        · cases h
    · cases h
  | syncConsumer =>
    simp only [step] at h
    split at h
    · rename_i idle
      split at h
      · rename_i receiver
        obtain ⟨sync, entered, rfl⟩ := Option.map_eq_some_iff.1 h
        exact .syncConsumer idle receiver entered
      · cases h
    · cases h
  | wait e =>
    obtain ⟨sync, moved, rfl⟩ := Option.map_eq_some_iff.1 h
    exact .inside (a := .wait e) rfl moved
  | run =>
    obtain ⟨sync, moved, rfl⟩ := Option.map_eq_some_iff.1 h
    exact .inside (a := .run) rfl moved
  | refuse =>
    obtain ⟨sync, moved, rfl⟩ := Option.map_eq_some_iff.1 h
    exact .inside (a := .refuse) rfl moved
  | returned =>
    simp only [step] at h
    split at h
    · rename_i outside
      split at h
      · rename_i sending
        cases h
        exact .sent outside sending
      · rename_i receiving
        exact .received outside receiving h
      · cases h
    · cases h

omit [DecidableEq ι] in
theorem unread_congr (worker : t.worker r = s.worker r) (thread : t.sync.thread r = s.sync.thread r) :
    t.unread r = s.unread r := by
  simp only [unread, worker, thread]

omit [DecidableEq ι] in
theorem unread_of_busy (busy : (s.sync.thread r).pc ≠ .idle) : s.unread r = [] := by
  unfold unread
  split
  · rename_i idle _
    exact absurd idle busy
  · rfl

omit [DecidableEq ι] in
theorem unread_of_worker (other : s.worker r ≠ .receiving) : s.unread r = [] := by
  unfold unread
  split
  · rename_i receiving _ _
    exact absurd receiving other
  · rfl

omit [DecidableEq ι] in
/-- The receiver between a successful call and the next. -/
theorem unread_eq (receiving : s.worker r = .receiving) (outside : (s.sync.thread r).pc = .idle) :
    s.unread r = if (s.sync.thread r).ret = 0 then [RecvWorkerSyncQueue.packet (s.sync.thread r).handle] else [] := by
  unfold unread
  rw [receiving, outside]
  cases (s.sync.thread r).ret <;> rfl

/-- A call that starts: the thread's worker is in it, and nothing else has changed. -/
theorem Inv.enter (inv : Inv size ap r s) (idle : s.worker i = .idle) {c : SyncCall}
    {sync : SyncSharedMemory.State ι} (entered : s.sync.enter i (.waitSemaphore c) = some sync)
    (inOrder : InOrder size ap sync) {worker : Worker} {w : CPacketWriter} (writer : ∃ buffer, w.buffer = some buffer)
    (sends : ∀ bytes, c = .producer bytes → ∃ packet, worker = .sending packet ∧ Carries packet bytes.1)
    (receives : c = .consumer → worker = .receiving) (alone : worker = .receiving → i = r) :
    Inv size ap r { s.setWorker i worker with sync, writer := Function.update s.writer i w } := by
  obtain ⟨outside, rfl⟩ := SyncSharedMemory.State.enter_eq_some.1 entered
  have others (j : ι) (ne : j ≠ i) : (s.sync.goto i (.waitSemaphore c)).thread j = s.sync.thread j :=
    Function.update_of_ne ne _ _
  have here : ((s.sync.goto i (.waitSemaphore c)).thread i).pc = .waitSemaphore c := by simp
  refine ⟨inOrder, fun j => ?_, fun j bytes call => ?_, fun j call => ?_, fun j receiving => ?_, inv.sent, ?_⟩
  · by_cases same : j = i
    · rw [same]
      simpa using writer
    · simpa [same] using inv.writers j
  · by_cases same : j = i
    · subst same
      rw [here] at call
      simpa [setWorker] using sends bytes (Option.some.inj call)
    · rw [others j same] at call
      simpa [setWorker, same] using inv.sends j bytes call
  · by_cases same : j = i
    · subst same
      rw [here] at call
      simpa [setWorker] using receives (Option.some.inj call)
    · rw [others j same] at call
      simpa [setWorker, same] using inv.receives j call
  · by_cases same : j = i
    · subst same
      exact alone (by simpa [setWorker] using receiving)
    · exact inv.alone j (by simpa [setWorker, same] using receiving)
  · obtain ⟨read, delivered, handed⟩ := inv.handed
    refine ⟨read, ?_, handed⟩
    by_cases same : r = i
    · subst same
      rw [unread_of_worker (by simp [idle])] at delivered
      rw [unread_of_busy]
      · exact delivered
      · show ((s.sync.goto r (.waitSemaphore c)).thread r).pc ≠ .idle
        simp
    · rw [unread_congr (s := s) (by simp [setWorker, same]) (others r same)]
      exact delivered

/-- A step inside a call: it goes on, fails, or releases the mutex and is counted. -/
theorem Inv.inside (inv : Inv size ap r s) (hs : size < 2 ^ 32) {a : SyncSharedMemory.Act} (within : a.within = true)
    {sync : SyncSharedMemory.State ι} (moved : s.sync.step ap (i, a) = some sync) :
    Inv size ap r { s with sync, sent := s.sent ++ s.completed i } := by
  have orderly : a.Orderly := by
    cases a <;> trivial
  have quiet : a ≠ .syncClear := by
    rintro rfl
    cases within
  obtain ⟨inOrder, fs, fs', moves⟩ := inv.inOrder.step hs orderly quiet moved
  have others (j : ι) (ne : j ≠ i) : sync.thread j = s.sync.thread j :=
    SyncSharedMemory.State.step_thread_of_ne moved ne
  have busy : (s.sync.thread i).pc ≠ .idle := SyncSharedMemory.State.busy_of_step moved within
  have call (j : ι) : (sync.thread j).pc.call = none ∨ (sync.thread j).pc.call = (s.sync.thread j).pc.call := by
    by_cases same : j = i
    · rw [same]
      exact SyncSharedMemory.State.call_of_step moved within moves
    · rw [others j same]
      exact .inr rfl
  obtain ⟨logs, handle⟩ := SyncSharedMemory.State.step_kept moved
  obtain ⟨read, delivered, handed⟩ := inv.handed
  have logged : List.Forall₂ Carries (s.sent ++ s.completed i) sync.sent ∧
      sync.delivered = read ++ unread r { s with sync, sent := s.sent ++ s.completed i } := by
    by_cases unlocks : ∃ c ret, (s.sync.thread i).pc = .unlock c ret
    · obtain ⟨c, ret, here⟩ := unlocks
      obtain ⟨sent', delivered'⟩ := SyncSharedMemory.State.step_unlock moved orderly here
      have there := SyncSharedMemory.State.thread_of_unlock moved within here
      cases c with
      | producer bytes =>
        obtain ⟨packet, sending, carries⟩ := inv.sends i bytes (by rw [here]; rfl)
        have unread' : unread r { s with sync, sent := s.sent ++ s.completed i } = s.unread r := by
          by_cases same : r = i
          · have other : s.worker r ≠ .receiving := by simp [same, sending]
            rw [unread_of_worker (s := s) other, unread_of_worker]
            exact other
          · exact unread_congr rfl (others r same)
        refine ⟨?_, ?_⟩
        · cases ret with
          | zero =>
            have one : s.completed i = [packet] := by simp [completed, here, sending]
            rw [one, sent']
            exact List.rel_append inv.sent (.cons carries .nil)
          | succ ret =>
            have none : s.completed i = [] := by simp [completed, here, sending]
            rw [none, List.append_nil, sent']
            exact inv.sent
        · rw [unread', delivered', ← delivered]
          cases ret <;> rfl
      | consumer =>
        have receiving := inv.receives i (by rw [here]; rfl)
        obtain rfl := inv.alone i receiving
        have none : s.completed i = [] := by simp [completed, here]
        have unread' : unread i { s with sync, sent := s.sent ++ s.completed i } =
            if ret = 0 then [RecvWorkerSyncQueue.packet (s.sync.thread i).handle] else [] := by
          have idle : (sync.thread i).pc = .idle := by rw [there]
          rw [unread_eq (s := { s with sync, sent := s.sent ++ s.completed i }) receiving idle, there]
        rw [unread_of_busy busy, List.append_nil] at delivered
        rw [unread', none, List.append_nil, sent', delivered', ← delivered]
        cases ret with
        | zero => exact ⟨inv.sent, rfl⟩
        | succ ret => exact ⟨inv.sent, (List.append_nil _).symm⟩
    · have none : s.completed i = [] := by
        unfold completed
        split
        · rename_i here _
          exact absurd ⟨_, _, here⟩ unlocks
        · rfl
      obtain ⟨sent', delivered'⟩ := logs fun c ret here => unlocks ⟨c, ret, here⟩
      have unread' : unread r { s with sync, sent := s.sent ++ s.completed i } = s.unread r := by
        by_cases same : r = i
        · subst same
          rw [unread_of_busy busy]
          unfold unread
          split
          · rename_i idle zero
            exact absurd (SyncSharedMemory.State.unlock_of_step moved (inv.inOrder.calm _) idle zero) fun ⟨c, here⟩ =>
              unlocks ⟨c, 0, here⟩
          · rfl
        · exact unread_congr rfl (others r same)
      rw [unread', none, List.append_nil, sent', delivered']
      exact ⟨inv.sent, delivered⟩
  refine ⟨inOrder, inv.writers, fun j bytes made => ?_, fun j made => ?_, inv.alone, logged.1, read,
    logged.2, handed⟩
  · rcases call j with none | same
    · rw [none] at made
      cases made
    · exact inv.sends j bytes (same ▸ made)
  · rcases call j with none | same
    · rw [none] at made
      cases made
    · exact inv.receives j (same ▸ made)

omit [DecidableEq ι] in
/-- The packets of the sending calls, up to the one in hand, are those of the bytes accounted for. -/
theorem Inv.carried (inv : Inv size ap r s) :
    List.Forall₂ Carries (s.sent ++ s.pushing) (s.sync.sent ++ s.sync.held Thread.sending) := by
  refine List.rel_append inv.sent ?_
  unfold pushing SyncSharedMemory.State.held
  cases s.sync.mutex with
  | free abandoned => exact .nil
  | owned i recursion =>
    by_cases hands : ∃ bytes, (s.sync.thread i).pc.call = some (.producer bytes) ∧ (s.sync.thread i).sending = [bytes.1]
    · obtain ⟨bytes, call, sending⟩ := hands
      obtain ⟨packet, worker, carries⟩ := inv.sends i bytes call
      simp only [sending, worker]
      exact .cons carries .nil
    · have none : (s.sync.thread i).sending = [] := by
        unfold Thread.sending at hands ⊢
        split
        · rename_i bytes here
          exact absurd ⟨bytes, by rw [here]; rfl, by simp only [here]⟩ hands
        · rename_i bytes here
          exact absurd ⟨bytes, by rw [here]; rfl, by simp only [here]⟩ hands
        · rfl
      simp only [none]
      exact .nil

omit [DecidableEq ι] in
/-- What is behind the bytes that the receiver was handed. -/
theorem Inv.account (inv : Inv size ap r s) :
    ∃ fs : List Frame, SyncSharedMemory.State.Sound size ap fs s.sync ∧
      List.Forall₂ Carries (s.sent ++ s.pushing)
        (s.sync.delivered ++ (s.sync.held Thread.taking ++ fs.map Subtype.val)) := by
  obtain ⟨fs, sound, accounted⟩ := inv.inOrder.accounted
  have carried := inv.carried
  rw [accounted, List.append_assoc] at carried
  exact ⟨fs, sound, carried⟩

omit [DecidableEq ι] in
/-- After a successful call the analysis succeeds, and the object is the one that was sent. -/
theorem Inv.analyzed (inv : Inv size ap r s) (fueled : 11 < fuel) (receiving : s.worker r = .receiving)
    (outside : (s.sync.thread r).pc = .idle) (zero : (s.sync.thread r).ret = 0) :
    ∃ read bytes received reader, s.sync.delivered = read ++ [bytes] ∧ List.Forall₂ ReadFrom s.handed read ∧
      receive fuel s.reader (s.sync.thread r).handle.packetBuffer = .ok (some received, reader) ∧
      ReadFrom received bytes := by
  obtain ⟨read, delivered, handed⟩ := inv.handed
  rw [unread_eq receiving outside, if_pos zero] at delivered
  obtain ⟨fs, -, carried⟩ := inv.account
  rw [delivered, List.append_assoc] at carried
  obtain ⟨packet, rest, carries, -, -⟩ := List.forall₂_cons_right_iff.1 (List.forall₂_drop_append _ _ _ carried)
  obtain ⟨received, reader, ran, same⟩ := receive_spec fueled carries
    ((s.sync.thread r).handle.packetBuffer.drop (RecvWorkerSyncQueue.packet (s.sync.thread r).handle).length) s.reader
  have first : RecvWorkerSyncQueue.packet (s.sync.thread r).handle <+: (s.sync.thread r).handle.packetBuffer :=
    List.take_prefix _ _
  rw [List.prefix_iff_eq_append.1 first] at ran
  exact ⟨read, _, received, reader, delivered, handed, ran, packet, carries, same⟩

/-- A thread that is outside the queue's functions goes on to another call, or to none. -/
theorem Inv.leaves (inv : Inv size ap r s) (outside : (s.sync.thread i).pc = .idle) {worker : Worker}
    (other : worker ≠ .receiving) {reader : CPacketReader} {handed : List PacketStruct}
    (log : ∃ read, s.sync.delivered = read ++ (s.setWorker i worker).unread r ∧ List.Forall₂ ReadFrom handed read) :
    Inv size ap r { s.setWorker i worker with reader, handed } := by
  have busy {j : ι} {c : SyncCall} (call : (s.sync.thread j).pc.call = some c) : j ≠ i := by
    rintro rfl
    rw [outside] at call
    cases call
  refine ⟨inv.inOrder, inv.writers, fun j bytes call => ?_, fun j call => ?_, fun j receiving => ?_, inv.sent, log⟩
  · simpa [setWorker, busy call] using inv.sends j bytes call
  · simpa [setWorker, busy call] using inv.receives j call
  · by_cases same : j = i
    · subst same
      exact absurd (by simpa [setWorker] using receiving) other
    · exact inv.alone j (by simpa [setWorker, same] using receiving)

theorem unread_setWorker {worker : Worker} (other : worker ≠ .receiving) : (s.setWorker r worker).unread r = [] :=
  unread_of_worker (by simpa [setWorker] using other)

/-- `SendPacket` is back from its call. -/
theorem Inv.sent_returned (inv : Inv size ap r s) (outside : (s.sync.thread i).pc = .idle) {packet : PacketStruct}
    (sending : s.worker i = .sending packet) : Inv size ap r (s.setWorker i .idle) := by
  obtain ⟨read, delivered, handed⟩ := inv.handed
  refine inv.leaves outside (by simp) ⟨read, ?_, handed⟩
  by_cases same : r = i
  · subst same
    rw [unread_of_worker (by simp [sending])] at delivered
    rw [unread_setWorker (by simp)]
    exact delivered
  · have kept : (s.setWorker i .idle).unread r = s.unread r := unread_congr (by simp [setWorker, same]) rfl
    rw [kept]
    exact delivered

/-- The receive worker goes on behind its call, and hands on what it was given. -/
theorem Inv.received (inv : Inv size ap r s) (fueled : 11 < fuel) (receiving : s.worker r = .receiving)
    (outside : (s.sync.thread r).pc = .idle) : ∃ u, s.endConsumer fuel r = some u ∧ Inv size ap r u := by
  by_cases zero : (s.sync.thread r).ret = 0
  · obtain ⟨read, bytes, received, reader, delivered, handed, ran, from'⟩ := inv.analyzed fueled receiving outside zero
    have stays : (0 : Nat) ≠ SyncSharedMemory.FailedCode.recvDeactivaed := by decide
    refine ⟨{ s.setWorker r .idle with reader, handed := s.handed ++ [received] }, ?_, ?_⟩
    · simp only [endConsumer, zero, stays, if_false, ne_eq, not_true_eq_false, ran, Option.toList_some]
    · refine inv.leaves outside (by simp) ⟨read ++ [bytes], ?_, List.rel_append handed (.cons from' .nil)⟩
      rw [unread_setWorker (by simp), List.append_nil, delivered]
  · obtain ⟨read, delivered, handed⟩ := inv.handed
    rw [unread_eq receiving outside, if_neg zero] at delivered
    have left {worker : Worker} (other : worker ≠ .receiving) : Inv size ap r (s.setWorker r worker) :=
      inv.leaves outside other ⟨read, by rw [unread_setWorker other, delivered], handed⟩
    by_cases stopped : (s.sync.thread r).ret = SyncSharedMemory.FailedCode.recvDeactivaed
    · exact ⟨_, if_pos stopped, left (by simp)⟩
    · refine ⟨s.setWorker r .idle, ?_, left (by simp)⟩
      simp only [endConsumer, stopped, zero, if_false, ne_eq, not_false_eq_true, if_true]

/-- What every step keeps. -/
theorem Inv.step (inv : Inv size ap r s) (hs : size < 2 ^ 32) (fueled : 11 < fuel) {l : ι × Act}
    (sendable : Sendable s l) (h : s.step ap fuel r l = some t) : Inv size ap r t := by
  obtain ⟨i, a⟩ := l
  cases step_stepped h with
  | @sendPacket packet w ret sync idle other wrote entered =>
    obtain ⟨readable, small⟩ := sendable
    obtain ⟨buffer, hw⟩ := inv.writers i
    obtain ⟨carries, writer⟩ := carries_pushed hw wrote readable small
    obtain ⟨inOrder, -⟩ := inv.inOrder.step hs (a := .syncProducer (pushed w)) carries.isFrame (by simp) entered
    refine inv.enter idle entered inOrder writer ?_ (by simp) (by simp)
    rintro bytes ⟨⟩
    exact ⟨packet, rfl, carries⟩
  | @syncConsumer sync idle receiver entered =>
    obtain ⟨inOrder, -⟩ := inv.inOrder.step hs (a := .syncConsumer) trivial (by simp) entered
    have calls : Inv size ap r
        { s.setWorker i .receiving with sync, writer := Function.update s.writer i (s.writer i) } :=
      inv.enter idle entered inOrder (inv.writers i) (by simp) (fun _ => rfl) fun _ => receiver
    rwa [Function.update_eq_self] at calls
  | inside within moved => exact inv.inside hs within moved
  | sent outside sending => exact inv.sent_returned outside sending
  | received outside receiving ended =>
    obtain rfl := inv.alone i receiving
    obtain ⟨u, ended', inv'⟩ := inv.received fueled receiving outside
    cases ended.symm.trans ended'
    exact inv'

omit [DecidableEq ι] in
theorem inv_fresh (ap : SyncSharedMemory.ActivateParam) (r : ι) (pos : 1 ≤ size) {packetBuffer : ι → List UInt8}
    (room : ∀ i, 8 ≤ (packetBuffer i).length) {writer : ι → CPacketWriter}
    (writers : ∀ i, ∃ buffer, (writer i).buffer = some buffer) : Inv size ap r (fresh ap size packetBuffer writer) where
  inOrder := SyncSharedMemory.State.inOrder_fresh ap pos room
  writers := writers
  sends i bytes call := by cases call
  receives i call := by cases call
  alone i receiving := by cases receiving
  sent := .nil
  handed := ⟨[], rfl, .nil⟩

end State

end Step

variable [DecidableEq ι]

/-- **Every packet that is sent comes out as it went in, once and in the order of the sends**: in every reachable state
the objects that the receiver's callback was given are the first of the packets that were sent. What is left of them is
in the queue when nobody is at it and the receiver has nothing in hand, and what it has in hand can be analysed. -/
theorem handed_in_order (ap : SyncSharedMemory.ActivateParam) (r : ι) {size fuel : Nat} (pos : 1 ≤ size)
    (hs : size < 2 ^ 32) (fueled : 11 < fuel) {packetBuffer : ι → List UInt8} (room : ∀ i, 8 ≤ (packetBuffer i).length)
    {writer : ι → CPacketWriter} (writers : ∀ i, ∃ buffer, (writer i).buffer = some buffer) {ls : List (ι × Act)}
    {t : State ι} (sendable : Along (State.step ap fuel r) Sendable (fresh ap size packetBuffer writer) ls)
    (ran : run (State.step ap fuel r) (fresh ap size packetBuffer writer) ls = some t) :
    (∃ read waiting, t.sent ++ t.pushing = read ++ waiting ∧ List.Forall₂ Same read t.handed ∧
      ((∀ i recursion, t.sync.mutex ≠ .owned i recursion) → t.unread r = [] →
        t.sync.queue.Holds size (stream waiting))) ∧
    (t.worker r = .receiving → (t.sync.thread r).pc = .idle → ∃ u, t.step ap fuel r (r, .returned) = some u) := by
  have inv : State.Inv size ap r t := run_invariant (fun inv ok h => State.Inv.step inv hs fueled ok h)
    (State.inv_fresh ap r pos room writers) sendable ran
  refine ⟨?_, fun receiving outside => ?_⟩
  · obtain ⟨fs, sound, carried⟩ := inv.account
    obtain ⟨bytes, delivered, handed⟩ := inv.handed
    rw [delivered, List.append_assoc] at carried
    have read := List.forall₂_take_append _ _ _ carried
    have waiting := List.forall₂_drop_append _ _ _ carried
    refine ⟨_, _, (List.take_append_drop bytes.length _).symm, forall_same read handed, fun free none => ?_⟩
    have untaken : t.sync.held Thread.taking = [] := by
      unfold SyncSharedMemory.State.held
      split
      · rfl
      · rename_i i recursion owned
        exact absurd owned (free i recursion)
    rw [none, untaken, List.nil_append, List.nil_append] at waiting
    have stored := sound.stored
    rwa [flat, flatten_eq waiting] at stored
  · obtain ⟨u, ended, -⟩ := inv.received fueled receiving outside
    exact ⟨u, by simp only [State.step, outside, receiving, if_true, ended]⟩

private def three : State Nat := fresh ⟨2, 2⟩ 128 (fun _ => List.replicate 8 0) fun _ => ⟨0, some []⟩

/-- Two senders, of which the one that called later pushes first, and one round of the receiver in between. -/
private def twoPackets : List (Nat × Act) :=
  [(0, .sendPacket (.processInfoReq { queueName := [65, 0], syncCount := 2 })),
    (1, .sendPacket (.streamInfo { setupFile := [66] })), (1, .wait .signaled), (1, .wait .signaled), (1, .run),
    (1, .run), (1, .run), (0, .wait .signaled), (0, .wait .signaled), (0, .run), (2, .syncConsumer), (0, .run),
    (0, .run), (0, .returned), (2, .wait .signaled), (2, .wait .signaled), (2, .run), (2, .run), (2, .run),
    (2, .returned)]

theorem handed_in_order_two : ∃ t read waiting, run (State.step ⟨2, 2⟩ 12 2) three twoPackets = some t ∧
    t.sent.length = 2 ∧ t.sent ++ t.pushing = read ++ waiting ∧ t.handed.length = 1 ∧ List.Forall₂ Same read t.handed ∧
      t.sync.queue.Holds 128 (stream waiting) := by
  have sendable : Along (State.step ⟨2, 2⟩ 12 2) Sendable three twoPackets := along_of_mem (by
    simp only [twoPackets, List.forall_mem_cons]
    exact ⟨⟨trivial, by decide⟩, ⟨trivial, by decide⟩, by simp⟩)
  have shape : (run (State.step ⟨2, 2⟩ 12 2) three twoPackets).map
      (fun t => (t.sync.mutex, t.sent.length, t.handed.length, t.unread 2)) = some (.free false, 2, 1, []) := by
    decide +kernel
  obtain ⟨t, ran, shape⟩ := Option.map_eq_some_iff.1 shape
  simp only [Prod.mk.injEq] at shape
  obtain ⟨free, sent, handed, none⟩ := shape
  obtain ⟨⟨read, waiting, split, same, stored⟩, -⟩ := handed_in_order ⟨2, 2⟩ 2 (by decide) (by decide)
    (by decide) (fun _ => by decide) (fun _ => ⟨[], rfl⟩) sendable ran
  exact ⟨t, read, waiting, ran, sent, split, handed, same, stored (by simp [free]) none⟩

end PacketChannel

end CameraEv
