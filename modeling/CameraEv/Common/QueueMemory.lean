import CameraEv.Lib.Exec

/-!
# The ring queues: `QueueSharedMemory` and `QueueLocalMemory`

Both classes keep a `QueueInfo` (`tail`, `head`, `queue_size`, `use_size`) and
`queue_size` bytes of buffer, and their `Clear`, `Push`, `Front` and `Pop` are
the same code but for the numbers of the error codes and for the pointer each
function tests for null. The common bodies are functions of `QueueMemory`;
`QueueSharedMemoryImpl` and `QueueLocalMemoryImpl` add their own null tests.
`m_pop_data_len` belongs to the handle: two processes attached to one mapping
share a `QueueMemory` and have a `popDataLen` each.

The mapping's `m_user_space`, the names and the OS error code are left out: no
function here reads them. Every operation takes its 32-bit arithmetic as a
parameter, so that the same text is the machine's code (`Exec.wrapping`) and
the code that stops at a wrap-around (`Exec.checked`).
-/

namespace CameraEv

open Exec

/-- A buffer argument: its length is an `uint32_t`. -/
abbrev Buffer := {bytes : List UInt8 // bytes.length < 2 ^ 32}

/-- The error codes the queue operations return. -/
structure FailedCode where
  didNotInitialize : Nat
  notEnoughFreeSpace : Nat
  readBufferSizeIsBig : Nat
  popDataEmpty : Nat

/-- `QueueSharedMemory::FailedCode`; 1 and 2 are the codes of `Initialize`. -/
def QueueSharedMemory.failedCode : FailedCode := ⟨3, 4, 5, 6⟩

/-- `QueueLocalMemory::FailedCode`; 1 is the code of `Initialize`. -/
def QueueLocalMemory.failedCode : FailedCode := ⟨2, 3, 4, 5⟩

/-- `QueueInfo` and the bytes that `m_queue_buffer` points to. -/
structure QueueMemory where
  tail : Nat := 0
  head : Nat := 0
  queueSize : Nat := 0
  useSize : Nat := 0
  buffer : List UInt8 := []
  deriving DecidableEq

namespace QueueMemory

/-- A new mapping as `Initialize` leaves it: zero-filled, with its `queue_size` stored. -/
def fresh (queueSize : Nat) : QueueMemory := { queueSize, buffer := List.replicate queueSize 0 }

/-- `queue_size - sizeof(uint8_t) - use_size`, truncated to `uint32_t`. -/
def getFreeSize (A : U32) (q : QueueMemory) : Exec Nat := do
  let size ← A.sub q.queueSize 1
  A.sub size q.useSize

def clear (q : QueueMemory) : Exec (Nat × QueueMemory) := do
  let buffer ← store q.buffer 0 (List.replicate q.queueSize 0)
  return (0, { q with buffer, head := 0, tail := 0, useSize := 0 })

def push (A : U32) (code : FailedCode) (q : QueueMemory) (bytes : List UInt8) : Exec (Nat × QueueMemory) := do
  let free ← q.getFreeSize A
  if free < bytes.length then
    return (code.notEnoughFreeSpace, q)
  let writeSize ← A.sub q.queueSize q.tail
  let q ← if writeSize < bytes.length then do
      -- the bytes that still fit after tail, then the others from the start of the buffer
      let buffer ← store q.buffer q.tail (bytes.take writeSize)
      let rest ← A.sub bytes.length writeSize
      let buffer ← store buffer 0 (bytes.drop writeSize)
      pure { q with buffer, tail := rest }
    else do
      let buffer ← store q.buffer q.tail bytes
      let tail ← A.add q.tail bytes.length
      pure { q with buffer, tail }
  let useSize ← A.add q.useSize bytes.length
  return (0, { q with useSize })

/-- The code, the bytes copied out and the handle's new `m_pop_data_len`. -/
def front (A : U32) (code : FailedCode) (q : QueueMemory) (popDataLen len : Nat) :
    Exec (Nat × List UInt8 × Nat) := do
  if q.useSize < len then
    return (code.readBufferSizeIsBig, [], popDataLen)
  let readSize ← A.sub q.queueSize q.head
  let bytes ← if readSize < len then do
      let first ← load q.buffer q.head readSize
      let rest ← A.sub len readSize
      let second ← load q.buffer 0 rest
      pure (first ++ second)
    else
      load q.buffer q.head len
  return (0, bytes, len)

/-- `queueSize` is what `GetQueueSize()` returns to the handle. -/
def pop (A : U32) (code : FailedCode) (q : QueueMemory) (queueSize popDataLen : Nat) :
    Exec (Nat × QueueMemory × Nat) := do
  if popDataLen = 0 then
    return (code.popDataEmpty, q, popDataLen)
  let readSize ← A.sub queueSize q.head
  let head ← if readSize < popDataLen then A.sub popDataLen readSize else A.add q.head popDataLen
  let useSize ← A.sub q.useSize popDataLen
  return (0, { q with head, useSize }, 0)

end QueueMemory

/-- What a caller gets back: the return code and the bytes written to its buffer. -/
structure Reply where
  code : Nat
  bytes : List UInt8 := []
  deriving DecidableEq

/-! ## `QueueSharedMemory` -/

/-- A handle: the mapping (`none` while `m_queue_info` is null) and `m_pop_data_len`. -/
structure QueueSharedMemoryImpl where
  memory : Option QueueMemory := none
  popDataLen : Nat := 0
  deriving DecidableEq

namespace QueueSharedMemoryImpl

open QueueSharedMemory (failedCode)

/-- `Initialize` when no mapping of the name exists and the OS calls succeed. -/
def initializeQueue (s : QueueSharedMemoryImpl) (queueSize : Nat) : Nat × QueueSharedMemoryImpl :=
  if queueSize = 0 then (1, s) else (0, { s with memory := some (QueueMemory.fresh queueSize) })

def clear (s : QueueSharedMemoryImpl) : Exec (Nat × QueueSharedMemoryImpl) :=
  match s.memory with
  | none => return (failedCode.didNotInitialize, s)
  | some q => do
    let (code, q) ← q.clear
    return (code, { s with memory := some q })

def push (A : U32) (s : QueueSharedMemoryImpl) (bytes : List UInt8) : Exec (Nat × QueueSharedMemoryImpl) :=
  match s.memory with
  | none => return (failedCode.didNotInitialize, s)
  | some q => do
    let (code, q) ← q.push A failedCode bytes
    return (code, { s with memory := some q })

def front (A : U32) (s : QueueSharedMemoryImpl) (len : Nat) : Exec (Nat × List UInt8 × QueueSharedMemoryImpl) :=
  match s.memory with
  | none => return (failedCode.didNotInitialize, [], s)
  | some q => do
    let (code, bytes, popDataLen) ← q.front A failedCode s.popDataLen len
    return (code, bytes, { s with popDataLen })

/-- `Pop` tests only `m_pop_data_len` and then reads `m_queue_info->head`. -/
def pop (A : U32) (s : QueueSharedMemoryImpl) : Exec (Nat × QueueSharedMemoryImpl) :=
  match s.memory with
  | none => if s.popDataLen = 0 then return (failedCode.popDataEmpty, s) else throw .fault
  | some q => do
    let (code, q, popDataLen) ← q.pop A failedCode q.queueSize s.popDataLen
    return (code, { memory := some q, popDataLen })

def getUseSize (s : QueueSharedMemoryImpl) : Nat := (s.memory.map QueueMemory.useSize).getD 0

end QueueSharedMemoryImpl

/-! ## `QueueLocalMemory` -/

/-- `m_queue_info` lives in the object and outlives the buffer; `allocated` is
`m_queue_buffer != nullptr`. -/
structure QueueLocalMemoryImpl where
  memory : QueueMemory := {}
  allocated : Bool := false
  popDataLen : Nat := 0
  deriving DecidableEq

namespace QueueLocalMemoryImpl

open QueueLocalMemory (failedCode)

def finalize (s : QueueLocalMemoryImpl) : QueueLocalMemoryImpl :=
  { s with memory := { s.memory with buffer := [] }, allocated := false }

/-- `Initialize`; `garbage` is what `new uint8_t[queue_size]` leaves in the buffer. The
size reaches `new` as an `int`, and a negative one throws. -/
def initializeQueue (s : QueueLocalMemoryImpl) (garbage : List UInt8) : Exec (Nat × QueueLocalMemoryImpl) :=
  let s := s.finalize
  if garbage.length = 0 then return (1, s)
  else if 2 ^ 31 ≤ garbage.length then throw .thrown
  else return (0, { s with
    memory := { s.memory with queueSize := garbage.length, buffer := garbage }, allocated := true })

def getQueueSize (s : QueueLocalMemoryImpl) : Nat := if s.allocated then s.memory.queueSize else 0

def getUseSize (s : QueueLocalMemoryImpl) : Nat := if s.allocated then s.memory.useSize else 0

def clear (s : QueueLocalMemoryImpl) : Exec (Nat × QueueLocalMemoryImpl) :=
  if s.allocated then do
    let (code, memory) ← s.memory.clear
    return (code, { s with memory })
  else return (failedCode.didNotInitialize, s)

def push (A : U32) (s : QueueLocalMemoryImpl) (bytes : List UInt8) : Exec (Nat × QueueLocalMemoryImpl) :=
  if s.allocated then do
    let (code, memory) ← s.memory.push A failedCode bytes
    return (code, { s with memory })
  else return (failedCode.didNotInitialize, s)

def front (A : U32) (s : QueueLocalMemoryImpl) (len : Nat) : Exec (Nat × List UInt8 × QueueLocalMemoryImpl) :=
  if s.allocated then do
    let (code, bytes, popDataLen) ← s.memory.front A failedCode s.popDataLen len
    return (code, bytes, { s with popDataLen })
  else return (failedCode.didNotInitialize, [], s)

def pop (A : U32) (s : QueueLocalMemoryImpl) : Exec (Nat × QueueLocalMemoryImpl) := do
  let (code, memory, popDataLen) ← s.memory.pop A failedCode s.getQueueSize s.popDataLen
  return (code, { s with memory, popDataLen })

end QueueLocalMemoryImpl

/-! ## Sequences of calls -/

/-- A call of one of the four queue operations. -/
inductive QueueCall where
  | push (bytes : Buffer)
  | front (len : UInt32)
  | pop
  | clear

/-- The calls of a list in order: the replies and the last state. -/
def runCalls {S : Type} (call : S → QueueCall → Exec (Reply × S)) : S → List QueueCall → Exec (List Reply × S)
  | s, [] => return ([], s)
  | s, c :: cs => do
    let (reply, s) ← call s c
    let (replies, s) ← runCalls call s cs
    return (reply :: replies, s)

/-- A call through a handle with a non-null buffer: the memory and `m_pop_data_len` after it. -/
def QueueMemory.call (A : U32) (code : FailedCode) (q : QueueMemory) (popDataLen : Nat) :
    QueueCall → Exec (Reply × QueueMemory × Nat)
  | .push bytes => do let (code, q) ← q.push A code bytes.1; return ({ code }, q, popDataLen)
  | .front len => do
    let (code, bytes, popDataLen) ← q.front A code popDataLen len.toNat
    return ({ code, bytes }, q, popDataLen)
  | .pop => do let (code, q, popDataLen) ← q.pop A code q.queueSize popDataLen; return ({ code }, q, popDataLen)
  | .clear => do let (code, q) ← q.clear; return ({ code }, q, popDataLen)

def QueueSharedMemoryImpl.call (A : U32) (s : QueueSharedMemoryImpl) : QueueCall → Exec (Reply × QueueSharedMemoryImpl)
  | .push bytes => do let (code, s) ← s.push A bytes.1; return ({ code }, s)
  | .front len => do let (code, bytes, s) ← s.front A len.toNat; return ({ code, bytes }, s)
  | .pop => do let (code, s) ← s.pop A; return ({ code }, s)
  | .clear => do let (code, s) ← s.clear; return ({ code }, s)

def QueueLocalMemoryImpl.call (A : U32) (s : QueueLocalMemoryImpl) : QueueCall → Exec (Reply × QueueLocalMemoryImpl)
  | .push bytes => do let (code, s) ← s.push A bytes.1; return ({ code }, s)
  | .front len => do let (code, bytes, s) ← s.front A len.toNat; return ({ code, bytes }, s)
  | .pop => do let (code, s) ← s.pop A; return ({ code }, s)
  | .clear => do let (code, s) ← s.clear; return ({ code }, s)

end CameraEv
