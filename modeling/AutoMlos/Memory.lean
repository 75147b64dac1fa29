import AutoMlos.Lib.Memory
import AutoMlos.SystemErrors
import Mathlib.Data.List.FinRange

/-!
# AutoMlos.Memory

The kernel's pool allocator (`kernel/core/memory.c`): eight pools of
fixed-size blocks, carved out of one heap array, each with a bitmap of its
free blocks.

A pointer into the heap is the offset of the byte it designates in
`g_kernel_heap`; `none` is `NULL`.  The bitmap of a pool is not a separate
object: `free_list` is an offset into the same heap.
-/

namespace AutoMlos

open Lib

/-- `MEMORY_KERNEL_HEAP_SIZE`. -/
def memoryKernelHeapSize : Nat := 1024 * 1024

/-- `memory_pool_t`. -/
structure MemoryPool where
  baseAddress : Nat
  blockSize : Nat
  blockCount : UInt16
  freeCount : UInt16
  freeList : Nat
  allocationCount : UInt16
  maxAllocationTimeUs : UInt32
  deriving DecidableEq, Repr

/-- A zeroed pool. -/
def MemoryPool.zero : MemoryPool := ⟨0, 0, 0, 0, 0, 0, 0⟩

/-- The statics of the allocator: the pools, the heap bytes and
`g_used_memory`. -/
structure KernelMemory where
  pools : Vector MemoryPool 8
  heap : Nat → UInt8
  usedMemory : Nat

namespace KernelMemory

/-- The statics before initialisation. -/
def zero : KernelMemory where
  pools := Vector.replicate 8 MemoryPool.zero
  heap := fun _ => 0
  usedMemory := 0

/-- `g_memory_pools[i]`. -/
def pool (mem : KernelMemory) (i : Fin 8) : MemoryPool := mem.pools[i]

/-- Replace a pool and the heap it describes. -/
def setPool (mem : KernelMemory) (i : Fin 8) (pool : MemoryPool) (heap : Nat → UInt8) :
    KernelMemory :=
  { mem with pools := mem.pools.set i pool, heap }

@[simp] theorem pool_setPool_self (mem : KernelMemory) (i : Fin 8) (pool : MemoryPool)
    (heap : Nat → UInt8) : (mem.setPool i pool heap).pool i = pool := by
  simp [KernelMemory.pool, setPool]

theorem pool_setPool_of_ne (mem : KernelMemory) {i j : Fin 8} (h : i ≠ j) (pool : MemoryPool)
    (heap : Nat → UInt8) : (mem.setPool i pool heap).pool j = mem.pool j := by
  have hval : i.val ≠ j.val := Fin.val_ne_of_ne h
  simp [KernelMemory.pool, setPool, hval]

@[simp] theorem heap_setPool (mem : KernelMemory) (i : Fin 8) (pool : MemoryPool)
    (heap : Nat → UInt8) : (mem.setPool i pool heap).heap = heap := rfl

end KernelMemory

/-! ## initialisation -/

/-- The success value of this file. -/
def memoryOk : SystemError := systemErrorCreate errBaseOk .system .low moduleIdMemory

/-- `memset` on the heap. -/
def heapFill (heap : Nat → UInt8) (start size : Nat) (value : UInt8) : Nat → UInt8 :=
  fun a => if start ≤ a ∧ a < start + size then value else heap a

/-- `memory_pool_init`.  The free list is placed at the start of the pool's
own blocks. -/
def memoryPoolInit (mem : KernelMemory) (i : Fin 8) (blockSize : Nat) (blockCount : UInt16) :
    SystemError × KernelMemory :=
  if blockSize = 0 ∨ blockCount = 0 then
    (systemErrorCreate errSafeCriticalNull .safety .critical moduleIdMemory, mem)
  else
    let poolSize := blockSize * blockCount.toNat
    if mem.usedMemory + poolSize > memoryKernelHeapSize then
      (systemErrorCreate errModMemOutOfMemory .module .high moduleIdMemory, mem)
    else
      let baseAddress := mem.usedMemory
      let pool : MemoryPool :=
        { baseAddress
          blockSize
          blockCount
          freeCount := blockCount
          freeList := baseAddress
          allocationCount := 0
          maxAllocationTimeUs := 10 }
      let heap := heapFill mem.heap pool.freeList ((blockCount.toNat + 7) / 8) 0xFF
      (memoryOk, { mem.setPool i pool heap with usedMemory := mem.usedMemory + poolSize })

/-- The pools of `memory_init`: index, block size and number of blocks. -/
def memoryPoolConfig : List (Fin 8 × Nat × UInt16) :=
  [(0, 32, 64), (1, 64, 32), (2, 128, 16), (3, 256, 8), (4, 512, 4), (5, 1024, 2), (6, 2048, 1),
    (7, 4096, 1)]

/-- The calls of `memory_init`, up to the first error. -/
def memoryInitPools : List (Fin 8 × Nat × UInt16) → KernelMemory → SystemError × KernelMemory
  | [], mem => (memoryOk, mem)
  | (i, blockSize, blockCount) :: rest, mem =>
      let (error, mem) := memoryPoolInit mem i blockSize blockCount
      if error.errorCode ≠ errBaseOk then (error, mem) else memoryInitPools rest mem

/-- `memory_init`. -/
def memoryInit (mem : KernelMemory) : SystemError × KernelMemory :=
  memoryInitPools memoryPoolConfig mem

/-! ## allocation -/

/-- The byte of the free list that a block index selects: `uint8_t byte_index = i / 8`. -/
def MemoryPool.freeByte (pool : MemoryPool) (i : Nat) : Nat :=
  pool.freeList + (UInt8.ofNat (i / 8)).toNat

/-- `1 << bit_index`, with `uint8_t bit_index = i % 8`. -/
def blockMask (i : Nat) : UInt8 := 1 <<< UInt8.ofNat (i % 8)

/-- `memory_pool_alloc`. -/
def memoryPoolAlloc (mem : KernelMemory) (p : Fin 8) : Option Nat × KernelMemory :=
  let pool := mem.pool p
  if pool.freeCount = 0 then (none, mem)
  else
    match (List.range pool.blockCount.toNat).find?
      fun i => mem.heap (pool.freeByte i) &&& blockMask i ≠ 0 with
    | none => (none, mem)
    | some i =>
        let heap := Function.update mem.heap (pool.freeByte i)
          (mem.heap (pool.freeByte i) &&& ~~~blockMask i)
        let pool :=
          { pool with
            freeCount := pool.freeCount - 1
            allocationCount := pool.allocationCount + 1 }
        (some (pool.baseAddress + i * pool.blockSize), mem.setPool p pool heap)

/-- The loop of `memory_alloc`: the first of the given pools that is large
enough and has a block. -/
def memoryAllocFrom (size : Nat) : List (Fin 8) → KernelMemory → Option Nat × KernelMemory
  | [], mem => (none, mem)
  | p :: rest, mem =>
      if size ≤ (mem.pool p).blockSize then
        match memoryPoolAlloc mem p with
        | (some ptr, mem) => (some ptr, mem)
        | (none, mem) => memoryAllocFrom size rest mem
      else memoryAllocFrom size rest mem

/-- `memory_alloc`. -/
def memoryAlloc (mem : KernelMemory) (size : Nat) : Option Nat × KernelMemory :=
  if size = 0 then (none, mem) else memoryAllocFrom size (List.finRange 8) mem

/-- `memory_pool_free`, called with a pointer that is not below the pool. -/
def memoryPoolFree (mem : KernelMemory) (p : Fin 8) (ptr : Nat) : KernelMemory :=
  let pool := mem.pool p
  let blockOffset := ptr - pool.baseAddress
  let blockIndex := UInt16.ofNat (blockOffset / pool.blockSize)
  if blockIndex < pool.blockCount then
    let i := blockIndex.toNat
    let heap := Function.update mem.heap (pool.freeByte i)
      (mem.heap (pool.freeByte i) ||| blockMask i)
    let pool :=
      { pool with
        freeCount := pool.freeCount + 1
        allocationCount := pool.allocationCount - 1 }
    mem.setPool p pool heap
  else mem

/-- The addresses from `pool_start` to `pool_end`. -/
def MemoryPool.region (pool : MemoryPool) : Region :=
  ⟨pool.baseAddress, pool.blockSize * pool.blockCount.toNat⟩

/-- The pool a pointer belongs to: the loop of `memory_free`. -/
def KernelMemory.owner (mem : KernelMemory) (ptr : Nat) : Option (Fin 8) :=
  (List.finRange 8).find? fun p => (mem.pool p).region.Contains ptr

/-- `memory_free`. -/
def memoryFree (mem : KernelMemory) (ptr : Option Nat) : KernelMemory :=
  match ptr with
  | none => mem
  | some ptr =>
      match mem.owner ptr with
      | none => mem
      | some p => memoryPoolFree mem p ptr

/-- `memory_get_free_size`. -/
def memoryGetFreeSize (mem : KernelMemory) : Nat := memoryKernelHeapSize - mem.usedMemory

/-! ## clients -/

/-- The bytes of a pool's bitmap. -/
def MemoryPool.bitmap (pool : MemoryPool) : Region :=
  ⟨pool.freeList, (pool.blockCount.toNat + 7) / 8⟩

/-- The block a returned pointer stands for: the block size is that of the
pool the pointer belongs to. -/
def KernelMemory.blockAt (mem : KernelMemory) (ptr : Nat) : Region :=
  ⟨ptr, match mem.owner ptr with
    | none => 0
    | some p => (mem.pool p).blockSize⟩

/-- The allocator with its clients: the blocks that were returned and not
freed since. -/
structure MemoryState where
  memory : KernelMemory
  live : List Region

/-- What a client can do: allocate, free a live pointer, write a byte of a
live block. -/
inductive MemoryCall where
  | alloc (size : Nat)
  | free (ptr : Nat)
  | write (addr : Nat) (value : UInt8)
  deriving DecidableEq, Repr

/-- One client action; the reply is the pointer an allocation returns.  A
free of a pointer that is not live and a write outside the live blocks are
not client actions: they are skipped. -/
def MemoryState.step (s : MemoryState) : MemoryCall → Option Nat × MemoryState
  | .alloc size =>
      match memoryAlloc s.memory size with
      | (none, memory) => (none, { s with memory })
      | (some ptr, memory) => (some ptr, { memory, live := memory.blockAt ptr :: s.live })
  | .free ptr =>
      if ptr ∈ s.live.map Region.base then
        (none, { memory := memoryFree s.memory (some ptr)
                 live := s.live.eraseP fun block => block.base = ptr })
      else (none, s)
  | .write addr value =>
      if ∃ block ∈ s.live, block.Contains addr then
        (none, { s with memory :=
          { s.memory with heap := Function.update s.memory.heap addr value } })
      else (none, s)

/-- The state after `memory_init`. -/
def MemoryState.init : MemoryState := { memory := (memoryInit .zero).2, live := [] }

/-! ## pointer values -/

/-- The pool a pointer value belongs to, with `g_kernel_heap` at
`heapAddress`: the loop of `memory_free`. -/
def KernelMemory.ownerAt (heapAddress : Nat) (mem : KernelMemory) (ptr : Nat) : Option (Fin 8) :=
  (List.finRange 8).find? fun p =>
    let poolStart := heapAddress + (mem.pool p).baseAddress
    let poolEnd := poolStart + (mem.pool p).blockSize * (mem.pool p).blockCount.toNat
    ptr ≥ poolStart ∧ ptr < poolEnd

/-- `memory_free` on any pointer value; `NULL` is 0. -/
def memoryFreeAt (heapAddress : Nat) (mem : KernelMemory) (ptr : Nat) : KernelMemory :=
  if ptr = 0 then mem
  else
    match mem.ownerAt heapAddress ptr with
    | none => mem
    | some p => memoryPoolFree mem p (ptr - heapAddress)

/-- What any code can do: allocate, and free any pointer value. -/
inductive PointerCall where
  | alloc (size : Nat)
  | free (ptr : Nat)
  deriving DecidableEq, Repr

/-- One such call. -/
def KernelMemory.step (heapAddress : Nat) (mem : KernelMemory) :
    PointerCall → Option Nat × KernelMemory
  | .alloc size => memoryAlloc mem size
  | .free ptr => (none, memoryFreeAt heapAddress mem ptr)

end AutoMlos
