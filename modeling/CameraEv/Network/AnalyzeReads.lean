import CameraEv.Network.AnalyzeLoop
import CameraEv.Network.SyncQueueCallbacks

/-!
# What `DoAnalyze` reads

The receive buffer is larger than most packets and keeps the bytes of earlier
ones. On the first `main_len` bytes alone, every read behind them is a fault, so
`ReadsInside` says that `DoAnalyze` reads the packet and nothing else. It does
exactly on the packets of `Readable`: long enough for the end mark, and behind
an end mark names that end and blocks that lie in the packet.
-/

namespace CameraEv

open Exec CPacketDefine CPacketReader

/-- What `CallbackConsumer` leaves: a packet at the start of `m_packet_buffer`, of the length that its header gives. -/
structure Received where
  buffer : List UInt8
  mainLen : Nat
  marked : buffer.take 4 = stx
  sized : LittleEndian.decode ((buffer.drop 4).take 4) = mainLen
  header : 8 ≤ buffer.length
  room : mainLen ≤ buffer.length

namespace Received

variable (p : Received)

/-- The bytes of the packet. -/
def packet : List UInt8 := p.buffer.take p.mainLen

/-- The argument of `DoAnalyze`. -/
def len : Int := toInt32 p.mainLen

theorem length_packet : p.packet.length = p.mainLen := List.length_take_of_le p.room

theorem mainLen_lt : p.mainLen < 2 ^ 32 := by
  have field := LittleEndian.decode_lt ((p.buffer.drop 4).take 4)
  rw [p.sized] at field
  exact lt_of_lt_of_le field (Nat.pow_le_pow_right (by decide) (List.length_take_le _ _))

end Received

/-! ## The property -/

/-- What a caller gets to see of an item. -/
def CPacketDefine.BlockItem.view (item : BlockItem) : List UInt8 × List UInt8 × Int :=
  (item.name, item.data.take item.length.toNat, item.length)

/-- What a caller gets to see of an analysis. -/
def seen (x : Exec (Nat × CPacketReader)) : Exec (Nat × List UInt8 × List (List UInt8 × List UInt8 × Int)) :=
  x.map fun r => (r.1, r.2.mainName, r.2.blockItems.map BlockItem.view)

/-- The item's range lies in the memory that its pointer has. -/
def CPacketDefine.BlockItem.Inside (item : BlockItem) : Prop := 0 ≤ item.length ∧ item.length ≤ item.data.length

/-- `DoAnalyze` reads no byte behind the packet, records ranges inside it, and what it finds does not depend on what is
behind it. -/
structure ReadsInside (packet : List UInt8) (len : Int) : Prop where
  reads : ∀ fuel (r : CPacketReader), r.doAnalyze fuel packet len ≠ .error .fault
  items : ∀ {name nPos nEndPos}, LoopAt packet len name nPos nEndPos → ∀ {n p q item},
    walk packet nEndPos n nPos = some p → p < nEndPos → round packet p = .ok (q, item) → item.Inside
  stale : ∀ fuel (r : CPacketReader) rest,
    seen (r.doAnalyze fuel (packet ++ rest) len) = seen (r.doAnalyze fuel packet len)

/-! ## The condition -/

/-- A name as the `do`-`while` loops take it: the delimiter may be its first byte, and no other. -/
structure Terminated (stop : UInt8) (name : List UInt8) : Prop where
  nonempty : name ≠ []
  delimited : stop ∉ name.tail

/-- Blocks that lie in the packet one behind the other, until no more than the end mark is left. -/
inductive BlocksInside : List UInt8 → Prop where
  | done {rest : List UInt8} (short : rest.length ≤ 4) : BlocksInside rest
  | block {name data rest : List UInt8} (terminated : Terminated getBlockDataDelimiter name)
      (small : blockLength (name, data) < 2 ^ 32) (inside : BlocksInside rest) :
      BlocksInside (encodeBlock (name, data) ++ rest)

structure Readable (packet : List UInt8) : Prop where
  long : 4 ≤ packet.length
  small : packet.length < 2 ^ 31
  sections : packet.drop (packet.length - 4) = etx → ∃ name rest,
    packet.drop 8 = name ++ getStartBlockDelimiter :: rest ∧ Terminated getStartBlockDelimiter name ∧ BlocksInside rest

/-! ## The reading functions -/

section Reading

variable {mem name : List UInt8} {stop : UInt8}

theorem takeName_eq_ok : takeName stop mem = .ok name ↔
    ∃ rest, mem = name ++ stop :: rest ∧ Terminated stop name := by
  constructor
  · intro taken
    induction mem generalizing name with
    | nil => cases taken
    | cons b mem ih =>
      cases mem with
      | nil => cases taken
      | cons c mem =>
        unfold takeName at taken
        split at taken
        · rename_i differs
          obtain ⟨rest', found, taken⟩ := bind_eq_ok.1 taken
          cases taken
          obtain ⟨rest, split, nonempty, delimited⟩ := ih found
          refine ⟨rest, by rw [split, List.cons_append], by simp, ?_⟩
          cases rest' with
          | nil => exact absurd rfl nonempty
          | cons d rest' =>
            have head := (List.cons.inj split).1
            intro member
            rcases List.mem_cons.1 member with same | member
            · exact differs (head.trans same.symm)
            · exact delimited member
        · rename_i same
          rw [not_not] at same
          cases taken
          exact ⟨mem, by rw [same]; rfl, by simp, by simp⟩
  · rintro ⟨rest, rfl, nonempty, delimited⟩
    induction name with
    | nil => exact absurd rfl nonempty
    | cons b name ih =>
      cases name with
      | nil => simp only [List.cons_append, List.nil_append, takeName, ne_eq, not_true_eq_false, if_false, pure_eq_ok]
      | cons c name =>
        have differs : c ≠ stop := fun same => delimited (by simp [same])
        have tail := ih (by simp) fun member => delimited (List.mem_cons_of_mem c member)
        rw [List.cons_append] at tail
        simp only [List.cons_append, takeName, differs, ne_eq, not_false_eq_true, if_true, tail, ok_bind, pure_eq_ok]

theorem pointer_eq_ok {pos : Int} {back : List UInt8} : pointer mem pos = .ok back ↔
    ∃ n : Nat, pos = n ∧ n ≤ mem.length ∧ back = mem.drop n := by
  unfold pointer
  constructor
  · intro at'
    split at at'
    · rename_i inside
      cases at'
      exact ⟨pos.toNat, by omega, by omega, rfl⟩
    · cases at'
  · rintro ⟨n, rfl, inside, rfl⟩
    rw [if_pos (by omega), Int.toNat_natCast, pure_eq_ok]

theorem getBlockLength_eq_ok {nLen : Nat} : getBlockLength mem = .ok nLen ↔
    4 ≤ mem.length ∧ nLen = LittleEndian.decode (mem.take 4) := by
  unfold getBlockLength load
  simp only [getSizeBlockLength, Nat.zero_add, List.drop_zero]
  split
  · rename_i room
    simp only [pure_eq_ok, ok_bind, Except.ok.injEq, room, true_and, @eq_comm _ nLen]
  · rename_i short
    simp only [throw_eq_error, error_bind, reduceCtorEq, short, false_and]

/-- A block is its length field, its name and what is behind the delimiter. -/
theorem getBlock_eq_ok {item : BlockItem} : getBlock mem = .ok item ↔
    ∃ field, mem = field ++ (item.name ++ getBlockDataDelimiter :: item.data) ∧ field.length = 4 ∧
      Terminated getBlockDataDelimiter item.name ∧
      item.length = toInt32 (LittleEndian.decode field - (5 + item.name.length : Nat)) := by
  have behind (field name rest : List UInt8) (width : field.length = 4) :
      (field ++ (name ++ getBlockDataDelimiter :: rest)).drop (getSizeBlockLength + name.length + 1) = rest := by
    have split : field ++ (name ++ getBlockDataDelimiter :: rest) = (field ++ (name ++ [getBlockDataDelimiter])) ++ rest := by
      simp only [List.append_assoc, List.cons_append, List.nil_append]
    rw [split]
    apply List.drop_left'
    simp only [List.length_append, width, List.length_singleton, getSizeBlockLength, Nat.add_assoc]
  simp only [getBlock, bind_eq_ok, getBlockLength_eq_ok, pointer_eq_ok, takeName_eq_ok, pure_eq_ok, Except.ok.injEq]
  constructor
  · rintro ⟨nLen, ⟨room, rfl⟩, _, ⟨n, four, -, rfl⟩, name, ⟨rest, split, terminated⟩, data, ⟨m, at', -, rfl⟩, rfl⟩
    rw [← Int.natCast_inj.1 four] at split
    rw [← Int.natCast_inj.1 at']
    have mem_eq : mem = mem.take 4 ++ (name ++ getBlockDataDelimiter :: rest) := by
      rw [← split]
      exact (List.take_append_drop 4 mem).symm
    have width : (mem.take 4).length = 4 := List.length_take_of_le room
    refine ⟨mem.take 4, ?_, width, terminated, ?_⟩
    · have data : mem.drop (getSizeBlockLength + name.length + 1) = rest := by
        rw [mem_eq]
        exact behind _ _ _ width
      simp only [data]
      exact mem_eq
    · rfl
  · obtain ⟨name, data, length⟩ := item
    simp only
    rintro ⟨field, rfl, width, terminated, rfl⟩
    refine ⟨LittleEndian.decode field, ⟨?_, ?_⟩, _, ⟨4, rfl, ?_, rfl⟩, name, ⟨data, ?_, terminated⟩, _, ⟨_, rfl, ?_, rfl⟩, ?_⟩
    · simp only [List.length_append, width]
      omega
    · rw [List.take_left' width]
    · simp only [List.length_append, width]
      omega
    · rw [List.drop_left' width]
    · simp only [List.length_append, List.length_cons, width, getSizeBlockLength]
      omega
    · rw [behind _ _ _ width]
      rfl

theorem sameBytes_eq {bytes : List UInt8} (length : mem.length = bytes.length) :
    sameBytes mem bytes = .ok (decide (mem = bytes)) := by
  induction mem generalizing bytes with
  | nil =>
    cases bytes with
    | nil => rfl
    | cons c bytes => cases length
  | cons b mem ih =>
    cases bytes with
    | nil => cases length
    | cons c bytes =>
      have rest := ih (Nat.succ.inj length)
      by_cases same : b = c
      · simp only [sameBytes, same, ne_eq, not_true_eq_false, if_false, rest, List.cons.injEq, true_and]
      · simp only [sameBytes, same, ne_eq, not_false_eq_true, if_true, pure_eq_ok, List.cons.injEq, false_and, decide_false]

/-- The comparison runs off a memory that holds the start of the mark only. -/
theorem sameBytes_short {bytes : List UInt8} {n : Nat} (short : n < bytes.length) :
    sameBytes (bytes.take n) bytes = .error .fault := by
  induction bytes generalizing n with
  | nil => cases short
  | cons b bytes ih =>
    cases n with
    | zero => rfl
    | succ n =>
      simp only [List.take_succ_cons, sameBytes, ne_eq, not_true_eq_false, if_false]
      exact ih (Nat.lt_of_succ_lt_succ short)

theorem take_of_sameBytes {bytes : List UInt8} (same : sameBytes mem bytes = .ok true) : mem.take bytes.length = bytes := by
  induction bytes generalizing mem with
  | nil => rfl
  | cons c bytes ih =>
    cases mem with
    | nil => cases same
    | cons b mem =>
      unfold sameBytes at same
      split at same
      · cases same
      · rename_i equal
        rw [List.length_cons, List.take_succ_cons, ih same, not_not.1 equal]

/-! ## More memory behind the packet -/

variable {packet rest : List UInt8} {len nPos nEndPos : Int} {b : Bool} {fuel : Nat}

theorem pointer_more {pos : Int} {back : List UInt8} (at' : pointer mem pos = .ok back) (rest : List UInt8) :
    pointer (mem ++ rest) pos = .ok (back ++ rest) := by
  obtain ⟨n, rfl, inside, rfl⟩ := pointer_eq_ok.1 at'
  refine pointer_eq_ok.2 ⟨n, rfl, ?_, ?_⟩
  · rw [List.length_append]
    omega
  · rw [List.drop_append_of_le_length inside]

theorem sameBytes_more {bytes : List UInt8} (same : sameBytes mem bytes = .ok b) (rest : List UInt8) :
    sameBytes (mem ++ rest) bytes = .ok b := by
  induction mem generalizing bytes with
  | nil =>
    cases bytes with
    | nil =>
      cases same
      cases rest <;> rfl
    | cons c bytes => cases same
  | cons d mem ih =>
    cases bytes with
    | nil => exact same
    | cons c bytes =>
      rw [List.cons_append]
      unfold sameBytes at same ⊢
      split
      · rename_i differs
        rw [if_pos differs] at same
        exact same
      · rename_i equal
        rw [if_neg equal] at same
        exact ih same

theorem getMainName_eq_ok : getMainName mem = .ok name ↔ 8 ≤ mem.length ∧ ∃ rest,
    mem.drop 8 = name ++ getStartBlockDelimiter :: rest ∧ Terminated getStartBlockDelimiter name := by
  simp only [getMainName, bind_eq_ok, pointer_eq_ok, takeName_eq_ok]
  constructor
  · rintro ⟨_, ⟨n, eight, inside, rfl⟩, rest, split, terminated⟩
    rw [← Int.natCast_inj.1 eight] at inside split
    exact ⟨inside, rest, split, terminated⟩
  · rintro ⟨inside, rest, split, terminated⟩
    exact ⟨_, ⟨8, rfl, inside, rfl⟩, rest, split, terminated⟩

theorem getMainName_more (taken : getMainName mem = .ok name) (rest : List UInt8) : getMainName (mem ++ rest) = .ok name := by
  obtain ⟨inside, back, split, terminated⟩ := getMainName_eq_ok.1 taken
  refine getMainName_eq_ok.2 ⟨?_, back ++ rest, ?_, terminated⟩
  · rw [List.length_append]
    omega
  · rw [List.drop_append_of_le_length inside, split, List.append_assoc, List.cons_append]

theorem getMainLength_eq_ok {nLen : Nat} : getMainLength mem = .ok nLen ↔
    8 ≤ mem.length ∧ nLen = LittleEndian.decode ((mem.drop 4).take 4) := by
  unfold getMainLength load
  have field : getPosMainLength + getSizeMainLength = 8 := rfl
  rw [field]
  split
  · rename_i room
    simp only [pure_eq_ok, ok_bind, Except.ok.injEq, room, true_and, @eq_comm _ nLen]
    rfl
  · rename_i short
    simp only [throw_eq_error, error_bind, reduceCtorEq, short, false_and]

theorem getMainLength_more {nLen : Nat} (length : getMainLength mem = .ok nLen) (rest : List UInt8) :
    getMainLength (mem ++ rest) = .ok nLen := by
  obtain ⟨inside, rfl⟩ := getMainLength_eq_ok.1 length
  refine getMainLength_eq_ok.2 ⟨?_, ?_⟩
  · rw [List.length_append]
    omega
  · rw [List.drop_append_of_le_length (by omega), List.take_append_of_le_length (by rw [List.length_drop]; omega)]

theorem hasETX_more (found : hasETX mem len = .ok b) (rest : List UInt8) : hasETX (mem ++ rest) len = .ok b := by
  obtain ⟨back, at', same⟩ := bind_eq_ok.1 found
  exact bind_eq_ok.2 ⟨back ++ rest, pointer_more at' rest, sameBytes_more same rest⟩

theorem getBlock_more {item : BlockItem} (got : getBlock mem = .ok item) (rest : List UInt8) :
    getBlock (mem ++ rest) = .ok { item with data := item.data ++ rest } := by
  obtain ⟨field, rfl, width, terminated, length⟩ := getBlock_eq_ok.1 got
  refine getBlock_eq_ok.2 ⟨field, ?_, width, terminated, length⟩
  simp only [List.append_assoc, List.cons_append]

theorem round_more {q : Int} {item : BlockItem} (ran : round packet nPos = .ok (q, item)) (rest : List UInt8) :
    round (packet ++ rest) nPos = .ok (q, { item with data := item.data ++ rest }) := by
  obtain ⟨got, nLen, length, rfl⟩ := round_eq_ok.1 ran
  obtain ⟨block, at', got⟩ := bind_eq_ok.1 got
  obtain ⟨block', at'', length⟩ := bind_eq_ok.1 length
  rw [at'] at at''
  cases at''
  obtain ⟨room, rfl⟩ := getBlockLength_eq_ok.1 length
  have behind := pointer_more at' rest
  refine round_eq_ok.2 ⟨bind_eq_ok.2 ⟨_, behind, getBlock_more got rest⟩, _, bind_eq_ok.2 ⟨_, behind, ?_⟩, rfl⟩
  refine getBlockLength_eq_ok.2 ⟨?_, ?_⟩
  · rw [List.length_append]
    omega
  · rw [List.take_append_of_le_length room]

theorem analyzeHead_more {found : Except Nat (List UInt8 × Int × Int)} (head : analyzeHead packet len = .ok found)
    (rest : List UInt8) : analyzeHead (packet ++ rest) len = .ok found := by
  unfold analyzeHead at head ⊢
  obtain ⟨stx, marked, head⟩ := bind_eq_ok.1 head
  rw [show hasSTX (packet ++ rest) = .ok stx from sameBytes_more marked rest, ok_bind]
  split at head
  · rename_i missing
    rw [if_pos missing]
    exact head
  rename_i present
  rw [if_neg present]
  obtain ⟨etx, ended, head⟩ := bind_eq_ok.1 head
  rw [hasETX_more ended rest, ok_bind]
  split at head
  · rename_i missing
    rw [if_pos missing]
    exact head
  rename_i present
  rw [if_neg present]
  obtain ⟨name, named, head⟩ := bind_eq_ok.1 head
  rw [getMainName_more named rest, ok_bind]
  split at head
  · rename_i empty
    rw [if_pos empty]
    exact head
  rename_i nonempty
  rw [if_neg nonempty]
  obtain ⟨nLen, length, head⟩ := bind_eq_ok.1 head
  rw [getMainLength_more length rest, ok_bind]
  exact head

end Reading

/-! ## What `CallbackConsumer` lets through -/

namespace RecvWorkerSyncQueue

/-- A `Front` that succeeds has had so many bytes in the queue and so much room in the buffer. -/
theorem frontPacketBuffer_inv {size : Nat} {q : QueueMemory} {bytes : List UInt8} (holds : q.Holds size bytes)
    (hs : size < 2 ^ 32) {h h' : Handle} {len : Nat} (ran : frontPacketBuffer q h len = .ok (0, h')) :
    len ≤ bytes.length ∧ len ≤ h.packetBuffer.length ∧
      h'.packetBuffer = bytes.take len ++ h.packetBuffer.drop len := by
  by_cases small : len ≤ bytes.length
  · have taken : (bytes.take len).length = len := List.length_take_of_le small
    simp only [frontPacketBuffer, holds.front_spec hs wrapping_exact small, ok_bind, bind_eq_ok, store_eq_ok, pure_eq_ok,
      Except.ok.injEq, Prod.mk.injEq, true_and] at ran
    obtain ⟨_, ⟨room, rfl⟩, rfl⟩ := ran
    rw [taken] at room
    refine ⟨small, by omega, ?_⟩
    simp only [overwrite, List.take_zero, List.nil_append, taken, Nat.zero_add]
  · exfalso
    have big : q.front wrapping QueueSharedMemory.failedCode h.popDataLen len = _ :=
      holds.front_big (show bytes.length < len by omega)
    simp only [frontPacketBuffer, big, ok_bind, bind_eq_ok, pure_eq_ok, Except.ok.injEq, Prod.mk.injEq] at ran
    obtain ⟨_, -, code, -⟩ := ran
    exact absurd code (by decide)

/-- A call that succeeds has read a header and then as many bytes as the header says. -/
theorem callbackConsumer_inv {q q' : QueueMemory} {h h' : Handle} (ran : callbackConsumer q h = .ok (true, q', h')) :
    ∃ h₁ mainLen h₂, frontPacketBuffer q h 8 = .ok (0, h₁) ∧ hasSTX h₁.packetBuffer = .ok true ∧
      getMainLength h₁.packetBuffer = .ok mainLen ∧ mainLen ≤ q.useSize ∧
      frontPacketBuffer q (if h₁.packetBuffer.length < mainLen then
        { h₁ with packetBuffer := resize h₁.packetBuffer mainLen } else h₁) mainLen = .ok (0, h₂) ∧
      h'.packetBuffer = h₂.packetBuffer := by
  unfold callbackConsumer at ran
  obtain ⟨⟨ret, h₁⟩, first, ran⟩ := bind_eq_ok.1 ran
  by_cases code : ret = 0
  swap
  · simp only [ne_eq, code, not_false_eq_true, if_true] at ran
    cases ran
  subst code
  simp only [ne_eq, not_true_eq_false, if_false] at ran
  obtain ⟨marked, found, ran⟩ := bind_eq_ok.1 ran
  cases marked with
  | false => cases ran
  | true =>
  simp only [Bool.not_true, Bool.false_eq_true, if_false] at ran
  obtain ⟨mainLen, length, ran⟩ := bind_eq_ok.1 ran
  by_cases used : mainLen > q.useSize
  · rw [if_pos used] at ran
    cases ran
  rw [if_neg used] at ran
  obtain ⟨⟨ret, h₂⟩, second, ran⟩ := bind_eq_ok.1 ran
  by_cases code : ret = 0
  swap
  · simp only [code, not_false_eq_true, if_true] at ran
    cases ran
  subst code
  simp only [not_true_eq_false, if_false] at ran
  refine ⟨h₁, mainLen, h₂, first, found, length, Nat.le_of_not_lt used, second, ?_⟩
  obtain ⟨⟨ret, q₁, popDataLen⟩, -, ran⟩ := bind_eq_ok.1 ran
  by_cases code : ret = 0
  · simp only [code, not_true_eq_false, if_false] at ran
    cases ran
    rfl
  · simp only [code, not_false_eq_true, if_true] at ran
    cases ran

/-- Whatever bytes are in the queue, what `CallbackConsumer` takes from it is a received packet. -/
theorem received_of_callbackConsumer {size : Nat} {q q' : QueueMemory} {bytes : List UInt8} (holds : q.Holds size bytes)
    (hs : size < 2 ^ 32) {h h' : Handle} (ran : callbackConsumer q h = .ok (true, q', h')) :
    ∃ p : Received, p.buffer = h'.packetBuffer ∧ p.mainLen ≤ bytes.length := by
  obtain ⟨h₁, mainLen, h₂, first, found, length, used, second, result⟩ := callbackConsumer_inv ran
  obtain ⟨long, room, buffer₁⟩ := frontPacketBuffer_inv holds hs first
  obtain ⟨-, room₂, buffer₂⟩ := frontPacketBuffer_inv holds hs second
  have eight : (bytes.take 8).length = 8 := List.length_take_of_le long
  obtain ⟨rest₁, resized⟩ : ∃ rest, (if h₁.packetBuffer.length < mainLen then
      { h₁ with packetBuffer := resize h₁.packetBuffer mainLen } else h₁).packetBuffer = bytes.take 8 ++ rest := by
    split
    · rename_i grows
      refine ⟨h.packetBuffer.drop 8 ++ List.replicate (mainLen - h₁.packetBuffer.length) 0, ?_⟩
      rw [resize, List.take_of_length_le grows.le, buffer₁, List.append_assoc]
    · exact ⟨_, buffer₁⟩
  rw [resized] at room₂ buffer₂
  -- the second copy leaves the header as it is
  obtain ⟨rest, head⟩ : ∃ rest, h₂.packetBuffer = bytes.take 8 ++ rest := by
    rw [buffer₂]
    by_cases whole : 8 ≤ mainLen
    · refine ⟨(bytes.drop 8).take (mainLen - 8) ++ (bytes.take 8 ++ rest₁).drop mainLen, ?_⟩
      rw [← List.append_assoc, ← List.take_add, Nat.add_sub_cancel' whole]
    · refine ⟨rest₁, ?_⟩
      have short : bytes.take mainLen = (bytes.take 8).take mainLen := by
        rw [List.take_take, Nat.min_eq_left (by omega)]
      rw [List.drop_append_of_le_length (by omega), ← List.append_assoc, short, List.take_append_drop]
  have start (n : Nat) (small : n ≤ 8) (back : List UInt8) : (bytes.take 8 ++ back).take n = (bytes.take 8).take n :=
    List.take_append_of_le_length (by omega)
  have field (back : List UInt8) : ((bytes.take 8 ++ back).drop 4).take 4 = ((bytes.take 8).drop 4).take 4 := by
    rw [List.drop_append_of_le_length (by omega), List.take_append_of_le_length (by rw [List.length_drop]; omega)]
  refine ⟨⟨h'.packetBuffer, mainLen, ?_, ?_, ?_, ?_⟩, rfl, ?_⟩
  · have four := take_of_sameBytes found
    rw [buffer₁] at four
    rw [result, head, start 4 (by omega), ← start 4 (by omega) (h.packetBuffer.drop 8)]
    exact four
  · have decoded := (getMainLength_eq_ok.1 length).2
    rw [buffer₁, field] at decoded
    rw [result, head, field, decoded]
  · rw [result, head, List.length_append]
    omega
  · rw [result, buffer₂, List.length_append, List.length_drop]
    have taken : (bytes.take mainLen).length = mainLen := by
      rw [List.length_take, Nat.min_eq_left]
      have use := holds.use
      omega
    omega
  · have use := holds.use
    show mainLen ≤ bytes.length
    omega

end RecvWorkerSyncQueue

/-! ## The rounds -/

/-- Every round that is reached reads the packet and records a range inside it. -/
def RoundsInside (packet : List UInt8) (nEndPos nPos : Int) : Prop :=
  ∀ n p, walk packet nEndPos n nPos = some p → p < nEndPos → ∃ q item, round packet p = .ok (q, item) ∧ item.Inside

section Rounds

variable {packet front rest : List UInt8} {nPos nEndPos q : Int} {item : BlockItem} {n fuel : Nat}

theorem roundsInside_done (done : nEndPos ≤ nPos) : RoundsInside packet nEndPos nPos := by
  intro n p at' more
  cases n with
  | zero =>
    cases at'
    exact absurd more (not_lt.2 done)
  | succ n =>
    rw [walk_done done] at at'
    cases at'

theorem roundsInside_round (ran : round packet nPos = .ok (q, item)) (inside : item.Inside)
    (after : RoundsInside packet nEndPos q) : RoundsInside packet nEndPos nPos := by
  intro n p at' more
  cases n with
  | zero =>
    cases at'
    exact ⟨q, item, ran, inside⟩
  | succ n =>
    by_cases here : nPos < nEndPos
    · rw [walk_succ here ran] at at'
      exact after n p at' more
    · rw [walk_done (not_lt.1 here)] at at'
      cases at'

theorem RoundsInside.next (h : RoundsInside packet nEndPos nPos) (more : nPos < nEndPos)
    (ran : round packet nPos = .ok (q, item)) : RoundsInside packet nEndPos q := by
  intro n p at' more'
  refine h (n + 1) p ?_ more'
  rw [walk_succ more ran]
  exact at'

theorem RoundsInside.analyzeBlocks_ne (h : RoundsInside packet nEndPos nPos) (fuel : Nat) (items : List BlockItem) :
    analyzeBlocks packet nEndPos fuel nPos items ≠ .error .fault := by
  induction fuel generalizing nPos items with
  | zero => nofun
  | succ fuel ih =>
    rw [analyzeBlocks_succ]
    by_cases more : nPos < nEndPos
    · obtain ⟨q, item, ran, -⟩ := h 0 nPos rfl more
      rw [if_pos more, ran, ok_bind]
      exact ih (h.next more ran) _
    · rw [if_neg more]
      nofun

/-- A loop that never reads outside has not done so in any round that it reaches. -/
theorem round_ne_of_analyzeBlocks {items : List BlockItem}
    (reads : analyzeBlocks packet nEndPos (n + 1) nPos items ≠ .error .fault) {p : Int}
    (at' : walk packet nEndPos n nPos = some p) (more : p < nEndPos) : round packet p ≠ .error .fault := by
  induction n generalizing nPos items with
  | zero =>
    cases at'
    rw [analyzeBlocks_succ, if_pos more] at reads
    intro ran
    exact reads (by rw [ran, error_bind])
  | succ n ih =>
    by_cases here : nPos < nEndPos
    · cases ran : round packet nPos with
      | error e =>
        rw [walk_fault ran] at at'
        cases at'
      | ok r =>
        obtain ⟨q, item⟩ := r
        rw [walk_succ here ran] at at'
        rw [analyzeBlocks_succ, if_pos here, ran, ok_bind] at reads
        exact ih reads at'
    · rw [walk_done (not_lt.1 here)] at at'
      cases at'

/-- What a caller sees of the items does not depend on what is behind the packet. -/
theorem RoundsInside.analyzeBlocks_more (h : RoundsInside packet nEndPos nPos) (rest : List UInt8) (fuel : Nat)
    {items items' : List BlockItem} (same : items'.map BlockItem.view = items.map BlockItem.view) :
    (analyzeBlocks (packet ++ rest) nEndPos fuel nPos items').map (List.map BlockItem.view) =
      (analyzeBlocks packet nEndPos fuel nPos items).map (List.map BlockItem.view) := by
  induction fuel generalizing nPos items items' with
  | zero => rfl
  | succ fuel ih =>
    rw [analyzeBlocks_succ, analyzeBlocks_succ]
    by_cases more : nPos < nEndPos
    · obtain ⟨q, item, ran, inside⟩ := h 0 nPos rfl more
      rw [if_pos more, if_pos more, ran, round_more ran rest, ok_bind, ok_bind]
      refine ih (h.next more ran) ?_
      have short : item.length.toNat ≤ item.data.length := by
        obtain ⟨lo, hi⟩ := inside
        omega
      simp only [List.map_append, same, List.map_cons, List.map_nil, BlockItem.view, List.take_append_of_le_length short]
    · rw [if_neg more, if_neg more]
      exact congrArg Except.ok same

/-- A round over a block of the layout. -/
theorem round_encodeBlock {name data : List UInt8} (terminated : Terminated getBlockDataDelimiter name)
    (small : (front ++ (encodeBlock (name, data) ++ rest)).length < 2 ^ 31) :
    round (front ++ (encodeBlock (name, data) ++ rest)) front.length =
      .ok (((front ++ encodeBlock (name, data)).length : Nat), ⟨name, data ++ rest, data.length⟩) := by
  simp only [List.length_append, length_encodeBlock, blockLength] at small
  have field : LittleEndian.decode (LittleEndian.encode 4 (blockLength (name, data))) = blockLength (name, data) := by
    rw [LittleEndian.decode_encode]
    exact Nat.mod_eq_of_lt (show blockLength (name, data) < 256 ^ 4 by simp only [blockLength]; omega)
  refine round_eq_ok.2 ⟨bind_eq_ok.2 ⟨_, pointer_append rfl, getBlock_eq_ok.2 ⟨LittleEndian.encode 4 (blockLength (name, data)),
    ?_, LittleEndian.length_encode 4 _, terminated, ?_⟩⟩, blockLength (name, data), bind_eq_ok.2 ⟨_, pointer_append rfl,
    getBlockLength_encodeBlock (by simp only [blockLength]; omega) rest⟩, ?_⟩
  · simp only [encodeBlock, List.append_assoc, List.cons_append]
  · rw [field, toInt32_eq] <;> simp only [blockLength] <;> omega
  · rw [toInt32_eq] <;> simp only [List.length_append, length_encodeBlock, blockLength] <;> omega

theorem roundsInside_of_blocks (blocks : BlocksInside rest) (finish : nEndPos = (front ++ rest).length - 4)
    (small : (front ++ rest).length < 2 ^ 31) : RoundsInside (front ++ rest) nEndPos front.length := by
  induction blocks generalizing front with
  | done short =>
    apply roundsInside_done
    rw [List.length_append] at finish
    omega
  | @block name data rest terminated blockSmall inside ih =>
    refine roundsInside_round (round_encodeBlock terminated small) ⟨Int.natCast_nonneg _, ?_⟩ ?_
    · simp only [List.length_append]
      omega
    · have after := @ih (front ++ encodeBlock (name, data)) (by rw [finish, List.append_assoc])
        (by rw [List.append_assoc]; exact small)
      rw [List.append_assoc] at after
      exact after

/-- The block that a round with a range inside has read. -/
theorem block_of_round (small : (front ++ rest).length < 2 ^ 31) (ran : round (front ++ rest) front.length = .ok (q, item))
    (inside : item.Inside) : ∃ data rest', Terminated getBlockDataDelimiter item.name ∧
      blockLength (item.name, data) < 2 ^ 32 ∧ rest = encodeBlock (item.name, data) ++ rest' ∧
      q = (front ++ encodeBlock (item.name, data)).length := by
  obtain ⟨got, nLen, length, next⟩ := round_eq_ok.1 ran
  rw [pointer_append rfl, ok_bind] at got length
  obtain ⟨field, split, width, terminated, itemLength⟩ := getBlock_eq_ok.1 got
  have nLen_eq := (getBlockLength_eq_ok.1 length).2
  rw [split, List.take_left' width] at nLen_eq
  rw [next, nLen_eq, split]
  have sizes := congrArg List.length split
  simp only [List.length_append, List.length_cons, width] at sizes small
  have field_lt := LittleEndian.decode_lt field
  rw [width] at field_lt
  obtain ⟨lo, hi⟩ := inside
  -- a length below the header or from `2 ^ 31` on would make the item's length negative
  have count : LittleEndian.decode field = 5 + item.name.length + item.length.toNat := by
    rw [itemLength] at lo
    by_cases fits : (LittleEndian.decode field : Int) - (5 + item.name.length : Nat) < 2 ^ 31
    · rw [toInt32_eq (by omega) fits] at itemLength lo
      omega
    · rw [toInt32_wrap (by omega) (by omega)] at lo
      omega
  have dataLength : (item.data.take item.length.toNat).length = item.length.toNat := List.length_take_of_le (by omega)
  have whole : blockLength (item.name, item.data.take item.length.toNat) = LittleEndian.decode field := by
    simp only [blockLength, dataLength, count]
  refine ⟨item.data.take item.length.toNat, item.data.drop item.length.toNat, terminated, by omega, ?_, ?_⟩
  · have encoded : LittleEndian.encode 4 (LittleEndian.decode field) = field := by
      rw [← width, LittleEndian.encode_decode]
    rw [encodeBlock, whole, encoded, List.append_assoc, List.append_assoc, List.cons_append, List.take_append_drop]
  · rw [List.length_append, length_encodeBlock, whole, toInt32_eq] <;> omega

theorem blocks_of_roundsInside (h : RoundsInside (front ++ rest) nEndPos front.length)
    (finish : nEndPos = (front ++ rest).length - 4) (small : (front ++ rest).length < 2 ^ 31) : BlocksInside rest := by
  induction size : rest.length using Nat.strong_induction_on generalizing front rest with
  | _ size ih =>
    by_cases short : rest.length ≤ 4
    · exact .done short
    have more : (front.length : Int) < nEndPos := by
      rw [List.length_append] at finish
      omega
    obtain ⟨q, item, ran, inside⟩ := h 0 _ rfl more
    obtain ⟨data, rest', terminated, blockSmall, rfl, rfl⟩ := block_of_round small ran inside
    have after := h.next more ran
    rw [← List.append_assoc] at after finish small
    refine .block terminated blockSmall (ih rest'.length ?_ after finish small rfl)
    rw [← size, List.length_append, length_encodeBlock, blockLength]
    omega

end Rounds

/-! ## The head -/

section Head

variable {packet : List UInt8} {len : Int}

theorem ReadsInside.head_ne (h : ReadsInside packet len) : analyzeHead packet len ≠ .error .fault := by
  intro head
  apply h.reads 0 {}
  rw [doAnalyze_eq, head, error_bind]

/-- A round that is reached reads inside, or `DoAnalyze` would not. -/
theorem ReadsInside.roundsInside (h : ReadsInside packet len) {name : List UInt8} {nPos nEndPos : Int}
    (loop : LoopAt packet len name nPos nEndPos) : RoundsInside packet nEndPos nPos := by
  intro n p at' more
  have loopReads : analyzeBlocks packet nEndPos (n + 1) nPos [] ≠ .error .fault := by
    intro fault
    apply h.reads (n + 1) {}
    rw [doAnalyze_eq, show analyzeHead packet len = _ from loop]
    simp only [ok_bind, fault, error_bind]
  cases ran : round packet p with
  | error e =>
    rw [onlyFaults_round packet p e ran] at ran
    exact absurd ran (round_ne_of_analyzeBlocks loopReads at' more)
  | ok r =>
    obtain ⟨q, item⟩ := r
    exact ⟨q, item, rfl, h.items loop at' more ran⟩

/-- A head that ends the call with a code: there are no rounds. -/
theorem readsInside_of_code {code : Nat} (head : analyzeHead packet len = .ok (.error code)) :
    ReadsInside packet len where
  reads fuel r := by
    rw [doAnalyze_eq, head]
    nofun
  items loop := by
    rw [show analyzeHead packet len = _ from loop] at head
    cases head
  stale fuel r rest := by
    rw [doAnalyze_eq, doAnalyze_eq, head, analyzeHead_more head rest]
    rfl

/-- Items that look alike make packets that look alike. -/
theorem seen_items {x y : Exec (List BlockItem)}
    (same : x.map (List.map BlockItem.view) = y.map (List.map BlockItem.view)) (name : List UInt8) :
    seen (x >>= fun items => .ok (0, { mainName := name, blockItems := items })) =
      seen (y >>= fun items => .ok (0, { mainName := name, blockItems := items })) := by
  cases x with
  | error e =>
    cases y with
    | error e' =>
      cases same
      rfl
    | ok ys => cases same
  | ok xs =>
    cases y with
    | error e' => cases same
    | ok ys =>
      have views : xs.map BlockItem.view = ys.map BlockItem.view := Except.ok.inj same
      simp only [ok_bind, seen, Except.map, views]

/-- A head that leads to the rounds: they do what the call does. -/
theorem RoundsInside.readsInside {name : List UInt8} {nPos nEndPos : Int} (inside : RoundsInside packet nEndPos nPos)
    (head : LoopAt packet len name nPos nEndPos) : ReadsInside packet len where
  reads fuel r := by
    rw [doAnalyze_eq, show analyzeHead packet len = _ from head]
    simp only [ok_bind]
    cases ran : analyzeBlocks packet nEndPos fuel nPos [] with
    | error e =>
      simp only [error_bind, ne_eq, Except.error.injEq]
      rintro rfl
      exact inside.analyzeBlocks_ne fuel [] ran
    | ok items => nofun
  items := by
    intro name' nPos' nEndPos' loop n p q item at' more ran
    cases Except.ok.inj ((show analyzeHead packet len = _ from head).symm.trans loop)
    obtain ⟨q, item, ran', itemInside⟩ := inside _ _ at' more
    rw [ran] at ran'
    cases ran'
    exact itemInside
  stale fuel r rest := by
    have items := @RoundsInside.analyzeBlocks_more _ _ _ inside rest fuel [] [] rfl
    rw [doAnalyze_eq, doAnalyze_eq, show analyzeHead packet len = _ from head, analyzeHead_more head rest]
    exact seen_items items name

/-- The head and the rounds decide what `DoAnalyze` reads. -/
theorem readsInside_iff_rounds : ReadsInside packet len ↔ analyzeHead packet len ≠ .error .fault ∧
    ∀ name nPos nEndPos, LoopAt packet len name nPos nEndPos → RoundsInside packet nEndPos nPos := by
  constructor
  · intro h
    exact ⟨h.head_ne, fun name nPos nEndPos loop => h.roundsInside loop⟩
  · rintro ⟨headReads, rounds⟩
    cases head : analyzeHead packet len with
    | error e =>
      rw [onlyFaults_analyzeHead packet len e head] at head
      exact absurd head headReads
    | ok found =>
      cases found with
      | error code => exact readsInside_of_code head
      | ok found => exact (rounds _ _ _ head).readsInside head

end Head

section Received

variable (p : Received)

theorem take_packet (long : 4 ≤ p.mainLen) : p.packet.take 4 = stx := by
  rw [Received.packet, List.take_take, Nat.min_eq_left long]
  exact p.marked

theorem hasSTX_packet (long : 4 ≤ p.mainLen) : hasSTX p.packet = .ok true := by
  rw [hasSTX, ← List.take_append_drop 4 p.packet, take_packet p long]
  exact sameBytes_append stx _

theorem hasSTX_short (short : p.mainLen < 4) : hasSTX p.packet = .error .fault := by
  have prefixed : p.packet = stx.take p.mainLen := by
    rw [Received.packet, ← p.marked, List.take_take, Nat.min_eq_left (by omega)]
  rw [hasSTX, prefixed]
  exact sameBytes_short short

theorem hasETX_packet (long : 4 ≤ p.mainLen) (small : p.mainLen < 2 ^ 31) :
    hasETX p.packet p.len = .ok (decide (p.packet.drop (p.packet.length - 4) = etx)) := by
  have length := p.length_packet
  have at' : pointer p.packet (getPosETX p.len) = .ok (p.packet.drop (p.packet.length - 4)) := by
    refine pointer_eq_ok.2 ⟨p.packet.length - 4, ?_, by omega, rfl⟩
    rw [getPosETX, Received.len, toInt32_eq (by omega) (by omega), length]
    have four : getSizeETX = 4 := rfl
    omega
  rw [hasETX, at', ok_bind]
  apply sameBytes_eq
  rw [List.length_drop, length]
  show p.mainLen - (p.mainLen - 4) = 4
  omega

/-- An `int` has no room for the length, so the end mark is looked for in front of the packet. -/
theorem hasETX_huge (huge : 2 ^ 31 ≤ p.mainLen) : hasETX p.packet p.len = .error .fault := by
  have before : pointer p.packet (getPosETX p.len) = .error .fault := by
    have lt := p.mainLen_lt
    have four : getSizeETX = 4 := rfl
    rw [pointer, if_neg, throw_eq_error]
    rw [getPosETX, Received.len, toInt32_wrap (by omega) (by omega)]
    omega
  rw [hasETX, before, error_bind]

theorem getMainLength_packet (long : 8 ≤ p.mainLen) : getMainLength p.packet = .ok p.mainLen := by
  refine getMainLength_eq_ok.2 ⟨by rw [p.length_packet]; exact long, ?_⟩
  have field : (p.packet.drop 4).take 4 = (p.buffer.drop 4).take 4 := by
    rw [Received.packet, List.drop_take, List.take_take, Nat.min_eq_left (by omega)]
  rw [field, p.sized]

/-- With an end mark and a name the loop starts behind the name and goes to the end mark. -/
theorem loopAt_packet {name rest : List UInt8} (small : p.mainLen < 2 ^ 31) (long : 8 ≤ p.mainLen)
    (marked : p.packet.drop (p.packet.length - 4) = etx) (split : p.packet.drop 8 = name ++ getStartBlockDelimiter :: rest)
    (terminated : Terminated getStartBlockDelimiter name) :
    LoopAt p.packet p.len name (9 + name.length : Nat) (p.mainLen - 4 : Nat) := by
  have sizes := congrArg List.length split
  rw [List.length_drop, p.length_packet, List.length_append, List.length_cons] at sizes
  have nonempty : name.isEmpty = false := by simpa using terminated.nonempty
  have named : getMainName p.packet = .ok name :=
    getMainName_eq_ok.2 ⟨by rw [p.length_packet]; exact long, rest, split, terminated⟩
  have first : toInt32 (getPosMainName + name.length + 1) = (9 + name.length : Nat) := by
    have eight : getPosMainName = 8 := rfl
    rw [toInt32_eq] <;> omega
  have finish : toInt32 (getPosSTX + p.mainLen - getSizeETX) = (p.mainLen - 4 : Nat) := by
    have zero : getPosSTX = 0 := rfl
    have four : getSizeETX = 4 := rfl
    rw [toInt32_eq] <;> omega
  simp only [LoopAt, analyzeHead, hasSTX_packet p (by omega), hasETX_packet p (by omega) small, marked, decide_true,
    ok_bind, Bool.not_true, Bool.false_eq_true, if_false, named, nonempty, getMainLength_packet p long, first, finish,
    pure_eq_ok]

/-- The packet up to its first block. -/
theorem packet_split {name rest : List UInt8} (split : p.packet.drop 8 = name ++ getStartBlockDelimiter :: rest) :
    p.packet = (p.packet.take 8 ++ (name ++ [getStartBlockDelimiter])) ++ rest := by
  rw [List.append_assoc, List.append_assoc, List.singleton_append, ← split, List.take_append_drop]

theorem length_front {name : List UInt8} (long : 8 ≤ p.mainLen) :
    (p.packet.take 8 ++ (name ++ [getStartBlockDelimiter])).length = 9 + name.length := by
  rw [List.length_append, List.length_take_of_le (by rw [p.length_packet]; exact long), List.length_append,
    List.length_singleton]
  omega

/-- Behind an end mark the head finds the name, and the rounds find the blocks. -/
theorem sections_of_rounds (long : 4 ≤ p.mainLen) (small : p.mainLen < 2 ^ 31)
    (marked : p.packet.drop (p.packet.length - 4) = etx) (head : analyzeHead p.packet p.len ≠ .error .fault)
    (rounds : ∀ name nPos nEndPos, LoopAt p.packet p.len name nPos nEndPos → RoundsInside p.packet nEndPos nPos) :
    ∃ name rest, p.packet.drop 8 = name ++ getStartBlockDelimiter :: rest ∧ Terminated getStartBlockDelimiter name ∧
      BlocksInside rest := by
  cases named : getMainName p.packet with
  | error e =>
    exfalso
    apply head
    simp only [analyzeHead, hasSTX_packet p long, hasETX_packet p long small, marked, decide_true, ok_bind,
      Bool.not_true, Bool.false_eq_true, if_false, named, error_bind, onlyFaults_getMainName p.packet e named]
  | ok name =>
    obtain ⟨long', rest, split, terminated⟩ := getMainName_eq_ok.1 named
    rw [p.length_packet] at long'
    have inside := rounds name _ _ (loopAt_packet p small long' marked split terminated)
    rw [packet_split p split, ← length_front p long'] at inside
    have sizes := congrArg List.length (packet_split p split)
    rw [p.length_packet] at sizes
    exact ⟨name, rest, split, terminated, blocks_of_roundsInside inside (by omega) (by omega)⟩

theorem readable_of_rounds (head : analyzeHead p.packet p.len ≠ .error .fault)
    (rounds : ∀ name nPos nEndPos, LoopAt p.packet p.len name nPos nEndPos → RoundsInside p.packet nEndPos nPos) :
    Readable p.packet := by
  have long : 4 ≤ p.mainLen := by
    by_contra short
    apply head
    rw [analyzeHead, hasSTX_short p (by omega), error_bind]
  have small : p.mainLen < 2 ^ 31 := by
    by_contra huge
    apply head
    simp only [analyzeHead, hasSTX_packet p long, ok_bind, Bool.not_true, Bool.false_eq_true, if_false,
      hasETX_huge p (by omega), error_bind]
  refine ⟨?_, ?_, ?_⟩
  · rw [p.length_packet]
    exact long
  · rw [p.length_packet]
    exact small
  · intro marked
    exact sections_of_rounds p long small marked head rounds

theorem analyzeHead_unmarked (long : 4 ≤ p.mainLen) (small : p.mainLen < 2 ^ 31)
    (unmarked : p.packet.drop (p.packet.length - 4) ≠ etx) : analyzeHead p.packet p.len = .ok (.error 2) := by
  simp only [analyzeHead, hasSTX_packet p long, hasETX_packet p long small, unmarked, decide_false, ok_bind,
    Bool.not_true, Bool.not_false, Bool.false_eq_true, if_false, if_true, pure_eq_ok]

theorem rounds_of_readable (readable : Readable p.packet) : analyzeHead p.packet p.len ≠ .error .fault ∧
    ∀ name nPos nEndPos, LoopAt p.packet p.len name nPos nEndPos → RoundsInside p.packet nEndPos nPos := by
  have long := readable.long
  have small := readable.small
  rw [p.length_packet] at long small
  by_cases marked : p.packet.drop (p.packet.length - 4) = etx
  · obtain ⟨name, rest, split, terminated, blocks⟩ := readable.sections marked
    have long' : 8 ≤ p.mainLen := by
      have sizes := congrArg List.length split
      rw [List.length_drop, p.length_packet, List.length_append, List.length_cons] at sizes
      omega
    have loop := loopAt_packet p small long' marked split terminated
    constructor
    · rw [show analyzeHead p.packet p.len = _ from loop]
      nofun
    · intro name' nPos nEndPos loop'
      rw [LoopAt, show analyzeHead p.packet p.len = _ from loop] at loop'
      cases loop'
      rw [packet_split p split, ← length_front p long']
      have sizes := congrArg List.length (packet_split p split)
      rw [p.length_packet] at sizes
      exact roundsInside_of_blocks blocks (by omega) (by omega)
  · have other := analyzeHead_unmarked p long small marked
    constructor
    · rw [other]
      nofun
    · intro name nPos nEndPos loop
      rw [LoopAt, other] at loop
      cases loop

/-- **`DoAnalyze` reads the packet and nothing else exactly when the packet is readable.** For any packet that
`CallbackConsumer` lets through, with any bytes in the receive buffer. -/
theorem reads_inside_iff : ReadsInside p.packet p.len ↔ Readable p.packet := by
  rw [readsInside_iff_rounds]
  constructor
  · intro h
    exact readable_of_rounds p h.1 h.2
  · exact rounds_of_readable p

end Received

/-- A packet of 20 bytes whose block says that it has 100, in front of what an earlier packet has left. -/
def oversized : Received where
  buffer := stx ++ [20, 0, 0, 0] ++ [65, 0] ++ [100, 0, 0, 0, 107, 58] ++ etx ++ List.replicate 80 7
  mainLen := 20
  marked := rfl
  sized := rfl
  header := by decide
  room := by decide

/-- The recorded range goes 90 bytes behind the packet, and a caller sees what is there. -/
theorem oversized_outside : ¬ ReadsInside oversized.packet oversized.len ∧
    seen (({} : CPacketReader).doAnalyze 2 (oversized.packet ++ List.replicate 90 7) oversized.len) =
      .ok (0, [65], [([107], etx ++ List.replicate 90 7, 94)]) := by
  have loop : LoopAt oversized.packet oversized.len [65] 10 16 := by
    unfold LoopAt
    decide +kernel
  have ran : round oversized.packet 10 = .ok (110, ⟨[107], etx, 94⟩) := by decide +kernel
  refine ⟨fun inside => ?_, rfl⟩
  exact absurd (inside.items loop (n := 0) rfl (by decide) ran).2 (by decide)

end CameraEv
