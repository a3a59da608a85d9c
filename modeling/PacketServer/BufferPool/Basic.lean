import PacketServer.Bytes
import PacketServer.Text.Record

/-!
# Pooled buffers

A buffer holds bytes and has a capacity, which grows by doubling and never
shrinks. A pool lends buffers out and counts those that are out. A *pooled*
policy keeps returned buffers in a bounded list, first in, first out; a
buffer that has grown past eight times the nominal size is not kept.
-/

namespace PacketServer

/-- How a pool allocates. -/
inductive BufferPolicy
  /-- Returned buffers are kept, at most `capacity` of them. -/
  | pooled (capacity bufferSize : Nat)
  /-- Every buffer is a new one. -/
  | unpooled (bufferSize : Nat)
deriving DecidableEq

namespace BufferPolicy

/-- The policy of a pool of which nothing is said. -/
def default : BufferPolicy := .pooled 1024 8192

/-- The nominal size of a buffer. -/
def bufferSize : BufferPolicy → Nat
  | pooled _ size => size
  | unpooled size => size

/-- Whether returned buffers are kept. -/
def isPooled : BufferPolicy → Bool
  | pooled .. => true
  | unpooled _ => false

/-- How many returned buffers are kept; a pooled policy keeps at least one. -/
def keeps : BufferPolicy → Nat
  | pooled capacity _ => max capacity 1
  | unpooled _ => 0

/-- How many bytes of memory it takes to be able to keep a buffer. -/
def placeBytes : Nat := 40

/-- Whether there can be room in memory for the buffers that are kept. -/
def hasRoom (p : BufferPolicy) : Bool := p.keeps * placeBytes < Bytes.memoryBound

/-- A policy in a log. -/
def text : BufferPolicy → String
  | pooled capacity size =>
    Text.record "Pooled" [("capacity", toString capacity), ("buffer_size", toString size)]
  | unpooled size => Text.record "Unpooled" [("buffer_size", toString size)]

end BufferPolicy

/-- Bytes and the room for them. -/
structure Buffer where
  data : Bytes
  capacity : Nat
deriving DecidableEq

namespace Buffer

/-- An empty buffer with room for exactly `capacity` bytes. -/
def ofCapacity (capacity : Nat) : Buffer := ⟨[], capacity⟩

/-- Makes room for `n` more bytes: a buffer that is too small at least
doubles. -/
def reserve (b : Buffer) (n : Nat) : Buffer :=
  if b.data.length + n ≤ b.capacity then b
  else { b with capacity := max (max (2 * b.capacity) (b.data.length + n)) 8 }

/-- Puts bytes behind those that are there. -/
def extend (b : Buffer) (s : Bytes) : Buffer :=
  let b := b.reserve s.length
  { b with data := b.data ++ s }

/-- Keeps the first `n` bytes only. -/
def truncate (b : Buffer) (n : Nat) : Buffer := { b with data := b.data.take n }

/-- Keeps the room only. -/
def clear (b : Buffer) : Buffer := { b with data := [] }

@[simp] theorem data_reserve (b : Buffer) (n : Nat) : (b.reserve n).data = b.data := by
  unfold reserve; split <;> rfl

@[simp] theorem data_extend (b : Buffer) (s : Bytes) : (b.extend s).data = b.data ++ s := by
  simp [extend]

theorem capacity_le_reserve (b : Buffer) (n : Nat) : b.capacity ≤ (b.reserve n).capacity := by
  by_cases room : b.data.length + n ≤ b.capacity
  · simp only [reserve, if_pos room, Nat.le_refl]
  · rw [reserve, if_neg room]
    show b.capacity ≤ max (max (2 * b.capacity) (b.data.length + n)) 8
    omega

/-- A borrowed buffer in a log. -/
def text (b : Buffer) : String :=
  Text.record "PooledBuffer"
    [("len", toString b.data.length), ("capacity", toString b.capacity)]

end Buffer

/-- A lender of buffers. -/
structure BufferPool where
  policy : BufferPolicy
  /-- The buffers that wait for a borrower, the next one first. -/
  free : List Buffer := []
  /-- How many buffers are out. -/
  outstanding : Nat := 0
deriving DecidableEq

namespace BufferPool

/-- A pool of which nothing is out and nothing waits. -/
def ofPolicy (policy : BufferPolicy) : BufferPool := { policy := policy }

/-- How many buffers wait for a borrower. -/
def idle (p : BufferPool) : Nat := p.free.length

/-- Buffers that outgrow the nominal size by more than this are not kept. -/
def growthKept : Nat := 8

/-- Lends the buffer that has waited longest, or a new one. -/
def acquire (p : BufferPool) : Buffer × BufferPool :=
  let size := p.policy.bufferSize
  match p.free with
  | [] => ((Buffer.ofCapacity size).reserve size, { p with outstanding := p.outstanding + 1 })
  | b :: free => (b.reserve size, { p with free := free, outstanding := p.outstanding + 1 })

/-- Takes a buffer back. It is kept, emptied, if the policy keeps buffers, it
has not grown too much and there is a place for it. -/
def release (p : BufferPool) (b : Buffer) : BufferPool :=
  let p := { p with outstanding := p.outstanding - 1 }
  if p.policy.isPooled && b.capacity ≤ p.policy.bufferSize * growthKept &&
      p.free.length < p.policy.keeps then
    { p with free := p.free ++ [b.clear] }
  else p

@[simp] theorem policy_acquire (p : BufferPool) : p.acquire.2.policy = p.policy := by
  unfold acquire; cases p.free <;> rfl

@[simp] theorem outstanding_acquire (p : BufferPool) :
    p.acquire.2.outstanding = p.outstanding + 1 := by
  unfold acquire; cases p.free <;> rfl

@[simp] theorem policy_release (p : BufferPool) (b : Buffer) :
    (p.release b).policy = p.policy := by
  unfold release; simp only []; split <;> rfl

@[simp] theorem outstanding_release (p : BufferPool) (b : Buffer) :
    (p.release b).outstanding = p.outstanding - 1 := by
  unfold release; simp only []; split <;> rfl

/-- A pool in a log. -/
def text (p : BufferPool) : String :=
  Text.record "BufferPool"
    [("policy", p.policy.text), ("outstanding", toString p.outstanding),
      ("idle", toString p.idle)]

end BufferPool

end PacketServer
