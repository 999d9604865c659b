import CoroutineGateway.Framework.Machine
import CoroutineGateway.Framework.Memory

/-!
# The memory pool

`MemoryPool` (`memorypool/memorypool.hpp`).  A pool cuts blocks into slots.  A slot that is given
back becomes a node of the free list, whose link is stored in the slot itself; a block begins with
a link to the block before it.

Addresses are numbers below `2^64`, and a pointer takes eight bytes.  `operator new` is outside the
code: the address it returns is an argument of `allocate`, used where the source calls it.
`construct` and `destroy` run code of the element type in a slot, which is covered by what the
owner of a slot writes into it.
-/

namespace CoroutineGateway

/-- `slot_type_`, an element or a pointer: its size and alignment. -/
structure SlotType where
  size : ℕ
  align : ℕ
  size_ge : 8 ≤ size
  align_pos : 0 < align
  align_le : align ≤ 16
  align_dvd : align ∣ size

/-- `MemoryPool` -/
structure MemoryPool where
  /-- `currentBlock_` -/
  currentBlock : ℕ
  /-- `currentSlot_` -/
  currentSlot : ℕ
  /-- `lastSlot_` -/
  lastSlot : ℕ
  /-- `freeSlots_` -/
  freeSlots : ℕ

namespace MemoryPool

/-- `MemoryPool()` -/
def init : MemoryPool := ⟨0, 0, 0, 0⟩

variable (T : SlotType) (blockSize : ℕ)

/-- The part of `allocate` that opens a block. -/
def openBlock (pool : MemoryPool) (memory : Memory) (newBlock : ℕ) : MemoryPool × Memory :=
  let memory := memory.store newBlock 8 pool.currentBlock
  let body := newBlock + 8
  let bodyPadding := T.align - body % T.align
  ({ pool with
      currentBlock := newBlock
      currentSlot := body + bodyPadding
      lastSlot := newBlock + blockSize - T.size + 1 }, memory)

/-- Whether `allocate` calls `operator new`. -/
def callsNew (pool : MemoryPool) : Bool :=
  pool.freeSlots = 0 && pool.lastSlot ≤ pool.currentSlot

/-- `allocate` -/
def allocate (pool : MemoryPool) (memory : Memory) (newBlock : ℕ) : ℕ × MemoryPool × Memory :=
  if pool.freeSlots ≠ 0 then
    (pool.freeSlots, { pool with freeSlots := memory.load pool.freeSlots 8 }, memory)
  else
    let (pool, memory) :=
      if pool.lastSlot ≤ pool.currentSlot then pool.openBlock T blockSize memory newBlock
      else (pool, memory)
    (pool.currentSlot, { pool with currentSlot := pool.currentSlot + T.size }, memory)

/-- `deallocate` -/
def deallocate (pool : MemoryPool) (memory : Memory) (p : ℕ) : MemoryPool × Memory :=
  if p ≠ 0 then ({ pool with freeSlots := p }, memory.store p 8 pool.freeSlots)
  else (pool, memory)

/-- The loop of `~MemoryPool`: the blocks that are deleted, `none` where the bound is reached. -/
def destruct (memory : Memory) : ℕ → ℕ → Option (List ℕ)
  | bound, curr =>
    if curr = 0 then some []
    else
      match bound with
      | 0 => none
      | bound + 1 => (destruct memory bound (memory.load curr 8)).map (curr :: ·)

end MemoryPool

/-! ## A program with a pool -/

/-- A pool, the memory, and what has become of the slots. -/
structure PoolState where
  pool : MemoryPool
  memory : Memory
  /-- The blocks that `operator new` has returned, the last one first. -/
  blocks : List ℕ
  /-- The slots handed out at the moment. -/
  out : List ℕ
  /-- What `allocate` has taken from blocks, with the block. -/
  taken : List (ℕ × ℕ)

/-- What a program can do. -/
inductive PoolAction where
  /-- Call `allocate`, with what `operator new` would return. -/
  | allocate (newBlock : ℕ)
  | deallocate (p : ℕ)
  /-- Write a byte. -/
  | write (a : ℕ) (byte : UInt8)

namespace PoolState

variable (T : SlotType) (blockSize : ℕ)

/-- Before the first call. -/
def init (memory : Memory) : PoolState := ⟨.init, memory, [], [], []⟩

/-- What `operator new` can return: an aligned block that overlaps no other one. -/
def fresh (s : PoolState) (newBlock : ℕ) : Bool :=
  0 < newBlock && newBlock + blockSize < 2 ^ 64 && newBlock % 16 = 0 &&
    s.blocks.all fun b => newBlock + blockSize ≤ b || b + blockSize ≤ newBlock

/-- What the program may write: a slot that it has, and what is in no block. -/
def writable (s : PoolState) (a : ℕ) : Bool :=
  (s.out.any fun p => p ≤ a && a < p + T.size) ||
    s.blocks.all fun b => a < b || b + blockSize ≤ a

/-- One action.  Only a slot that is handed out can be given back. -/
def step (s : PoolState) : PoolAction → Option PoolState
  | .allocate newBlock =>
    if s.pool.callsNew && !s.fresh blockSize newBlock then none
    else
      let (p, pool, memory) := s.pool.allocate T blockSize s.memory newBlock
      some
        { pool, memory
          blocks := if s.pool.callsNew then newBlock :: s.blocks else s.blocks
          out := p :: s.out
          taken := if s.pool.freeSlots = 0 then (p, pool.currentBlock) :: s.taken else s.taken }
  | .deallocate p =>
    if p ∈ s.out then
      let (pool, memory) := s.pool.deallocate s.memory p
      some { s with pool, memory, out := s.out.erase p }
    else none
  | .write a byte =>
    if s.writable T blockSize a then
      some { s with memory := fun a' => if a' = a then byte else s.memory a' }
    else none

end PoolState

/-- The runs of a program with a pool. -/
def poolMachine (T : SlotType) (blockSize : ℕ) : Machine PoolState PoolAction where
  step s := s.step T blockSize

end CoroutineGateway
