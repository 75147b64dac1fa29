import AutoMlos.Kernel
import AutoMlos.Memory.Disjoint

/-!
# AutoMlos.Kernel.CoreServices

Whether the core services start.

Message passing asks the kernel allocator for a shared buffer of 64 KiB, and
the largest block of a pool has 4 KiB.  Allocation and free change neither
the block sizes nor the free size that the allocator reports, so no history of
calls brings message passing up (`ipc_never_brought_up`).
-/

namespace AutoMlos

open Lib

/-! ## what calls leave alone -/

/-- The same block sizes and the same used memory. -/
structure KernelMemory.SameShape (mem mem' : KernelMemory) : Prop where
  blockSize : ∀ p, (mem'.pool p).blockSize = (mem.pool p).blockSize
  usedMemory : mem'.usedMemory = mem.usedMemory

section Shape

variable {mem mem' mem'' : KernelMemory} {p : Fin 8} {size : Nat}

theorem KernelMemory.SameShape.refl (mem : KernelMemory) : mem.SameShape mem := ⟨fun _ => rfl, rfl⟩

theorem KernelMemory.SameShape.trans (h : mem.SameShape mem') (h' : mem'.SameShape mem'') :
    mem.SameShape mem'' :=
  ⟨fun p => (h'.blockSize p).trans (h.blockSize p), h'.usedMemory.trans h.usedMemory⟩

theorem KernelMemory.sameShape_setPool {pool : MemoryPool} {heap : Nat → UInt8}
    (h : pool.blockSize = (mem.pool p).blockSize) : mem.SameShape (mem.setPool p pool heap) := by
  refine ⟨fun q => ?_, rfl⟩
  by_cases hpq : p = q
  · subst hpq
    rw [KernelMemory.pool_setPool_self, h]
  · rw [KernelMemory.pool_setPool_of_ne mem hpq]

theorem sameShape_memoryPoolAlloc (mem : KernelMemory) (p : Fin 8) :
    mem.SameShape (memoryPoolAlloc mem p).2 := by
  rw [memoryPoolAlloc]
  split
  · exact .refl mem
  · split
    · exact .refl mem
    · exact KernelMemory.sameShape_setPool rfl

theorem sameShape_memoryAllocFrom (mem : KernelMemory) (size : Nat) (ps : List (Fin 8)) :
    mem.SameShape (memoryAllocFrom size ps mem).2 := by
  induction ps generalizing mem with
  | nil => exact .refl mem
  | cons p ps ih =>
      have hpool := sameShape_memoryPoolAlloc mem p
      rw [memoryAllocFrom]
      split
      · split
        · rename_i heq
          rwa [heq] at hpool
        · rename_i heq
          rw [heq] at hpool
          exact hpool.trans (ih _)
      · exact ih mem

theorem sameShape_memoryAlloc (mem : KernelMemory) (size : Nat) :
    mem.SameShape (memoryAlloc mem size).2 := by
  rw [memoryAlloc]
  split
  · exact .refl mem
  · exact sameShape_memoryAllocFrom mem size _

theorem sameShape_memoryFreeAt (heapAddress : Nat) (mem : KernelMemory) (ptr : Nat) :
    mem.SameShape (memoryFreeAt heapAddress mem ptr) := by
  rw [memoryFreeAt]
  split
  · exact .refl mem
  · split
    · exact .refl mem
    · rw [memoryPoolFree]
      split
      · exact KernelMemory.sameShape_setPool rfl
      · exact .refl mem

/-- **One call**, whatever it is, keeps block sizes and used memory. -/
theorem KernelMemory.sameShape_step (heapAddress : Nat) (mem : KernelMemory) (call : PointerCall) :
    mem.SameShape (mem.step heapAddress call).2 := by
  cases call with
  | alloc size => exact sameShape_memoryAlloc mem size
  | free ptr => exact sameShape_memoryFreeAt heapAddress mem ptr

/-- A run keeps block sizes and used memory. -/
theorem KernelMemory.sameShape_run (heapAddress : Nat) (mem : KernelMemory)
    (calls : List PointerCall) :
    mem.SameShape (mealy (KernelMemory.step heapAddress) mem calls).2 := by
  have hstep (mem' : KernelMemory) (call : PointerCall) (h : mem.SameShape mem') :
      mem.SameShape (mem'.step heapAddress call).2 :=
    h.trans (mem'.sameShape_step heapAddress call)
  exact mealy_invariant hstep (.refl mem) calls

end Shape

/-! ## requests no pool can serve -/

section Large

variable {mem : KernelMemory} {size : Nat} {pools : List (Fin 8)}

/-- The blocks of these pools have at most 4096 bytes. -/
def KernelMemory.Small (mem : KernelMemory) (pools : List (Fin 8)) : Prop :=
  ∀ p ∈ pools, (mem.pool p).blockSize ≤ 4096

/-- A successful `memory_pool_init` sets the block size of its pool. -/
theorem KernelMemory.Small.poolInit (h : mem.Small pools) {i : Fin 8} {blockSize : Nat}
    {blockCount : UInt16} (hle : blockSize ≤ 4096)
    (hok : (memoryPoolInit mem i blockSize blockCount).1.errorCode = errBaseOk) :
    (memoryPoolInit mem i blockSize blockCount).2.Small (i :: pools) := by
  simp only [memoryPoolInit] at hok ⊢
  split at hok
  · exact absurd hok (show errSafeCriticalNull ≠ errBaseOk by decide)
  · rename_i hpos
    rw [if_neg hpos]
    split at hok
    · exact absurd hok (show errModMemOutOfMemory ≠ errBaseOk by decide)
    · rename_i hroom
      rw [if_neg hroom]
      intro p hp
      by_cases hip : i = p
      · subst hip
        simpa [KernelMemory.pool, KernelMemory.setPool] using hle
      · have hmem : p ∈ pools := (List.mem_cons.mp hp).resolve_left (Ne.symm hip)
        simpa [KernelMemory.pool, KernelMemory.setPool, Fin.val_ne_of_ne hip] using h p hmem

/-- Successful initialisations of a list of pools set the block sizes of all
of them. -/
theorem KernelMemory.Small.initPools {configs : List (Fin 8 × Nat × UInt16)} (h : mem.Small pools)
    (hle : ∀ config ∈ configs, config.2.1 ≤ 4096)
    (hok : (memoryInitPools configs mem).1.errorCode = errBaseOk) :
    (memoryInitPools configs mem).2.Small (configs.map Prod.fst ++ pools) := by
  induction configs generalizing mem pools with
  | nil => exact h
  | cons config configs ih =>
      obtain ⟨i, blockSize, blockCount⟩ := config
      obtain ⟨hle, hrest⟩ := List.forall_mem_cons.mp hle
      simp only [memoryInitPools] at hok ⊢
      split at hok
      · contradiction
      · rename_i hfirst
        rw [if_neg hfirst]
        have hsmall := ih (h.poolInit hle (Classical.not_not.mp hfirst)) hrest hok
        intro p hp
        refine hsmall p ?_
        simp only [List.map_cons, List.mem_append, List.mem_cons] at hp ⊢
        tauto

/-- **After `memory_init`** no pool has blocks above 4096 bytes. -/
theorem memoryInit_small (hok : (memoryInit mem).1.errorCode = errBaseOk) (p : Fin 8) :
    ((memoryInit mem).2.pool p).blockSize ≤ 4096 := by
  have hnone : mem.Small [] := by simp [KernelMemory.Small]
  have hsizes : ∀ config ∈ memoryPoolConfig, config.2.1 ≤ 4096 := by decide
  have hall : ∀ p, p ∈ memoryPoolConfig.map Prod.fst ++ [] := by decide
  rw [memoryInit] at hok ⊢
  exact hnone.initPools hsizes hok p (hall p)

end Large

/-! ## message passing and the core services -/

/-- Message passing can be brought up: if the allocator has
`IPC_SHARED_BUFFER_SIZE` bytes left, initialisation succeeds and the shared
buffer is that many bytes the allocator returned. -/
def IpcBroughtUp (heapAddress : Nat) (mem : KernelMemory) (ipc : KernelIpc) : Prop :=
  ipcSharedBufferSize ≤ memoryGetFreeSize mem →
    (ipcKernelInit (kernelAlloc heapAddress) mem ipc).1.errorCode = errSysOk ∧
      ∃ base, (kernelAlloc heapAddress mem ipcSharedBufferSize).1 = some base ∧
        (ipcKernelInit (kernelAlloc heapAddress) mem ipc).2.1.sharedBuffer.baseAddress = base ∧
        (ipcKernelInit (kernelAlloc heapAddress) mem ipc).2.1.sharedBuffer.size.toNat =
          ipcSharedBufferSize

/-- The core services start whenever the memory does. -/
def CoreServicesStart (heapAddress : Nat) (k : Kernel) (sys : SysReadings) (published : Bool) :
    Prop :=
  (memoryInit k.memory).1.errorCode = errBaseOk →
    ∃ error k', kernelInitCoreServices heapAddress k sys published = .ok (error, k') ∧
      error.errorCode = errBaseOk

section BringUp

variable {mem : KernelMemory} {ipc : KernelIpc} {heapAddress : Nat}

/-- The shared buffer is larger than any block. -/
theorem ipcKernelInit_of_small (h : ∀ p, (mem.pool p).blockSize ≤ 4096)
    (hinit : ipc.initialized = false) :
    (ipcKernelInit (kernelAlloc heapAddress) mem ipc).1 = ipcResourceUnavail := by
  have halloc : kernelAlloc heapAddress mem ipcSharedBufferSize = (none, mem) := by
    rw [kernelAlloc, memoryAlloc_of_small h (by decide)]
    rfl
  rw [ipcKernelInit_of_not_initialized _ hinit, halloc]

/-- **Message passing never comes up**: after every history of allocator
calls there is enough memory, and initialisation fails; so do the core
services whenever `memory_init` succeeds. -/
theorem ipc_never_brought_up (heapAddress : Nat) (calls : List PointerCall)
    (hinit : ipc.initialized = false) :
    ¬ IpcBroughtUp heapAddress
        (mealy (KernelMemory.step heapAddress) MemoryState.init.memory calls).2 ipc ∧
      ∀ (k : Kernel) (sys : SysReadings) (published : Bool), k.ipc.initialized = false →
        (memoryInit k.memory).1.errorCode = errBaseOk →
        ¬ CoreServicesStart heapAddress k sys published := by
  have hne : errSysResourceUnavail ≠ errBaseOk := by decide
  constructor
  · have hshape := KernelMemory.sameShape_run heapAddress MemoryState.init.memory calls
    have hsmall (p : Fin 8) : ((mealy (KernelMemory.step heapAddress) MemoryState.init.memory
        calls).2.pool p).blockSize ≤ 4096 := by
      rw [hshape.blockSize p, (MemoryState.laidOut_init p).size]
      exact poolLayout_size_le p
    have hfree : ipcSharedBufferSize ≤ memoryGetFreeSize
        (mealy (KernelMemory.step heapAddress) MemoryState.init.memory calls).2 := by
      rw [memoryGetFreeSize, hshape.usedMemory]
      decide
    intro hup
    obtain ⟨hok, -⟩ := hup hfree
    rw [ipcKernelInit_of_small hsmall hinit] at hok
    exact hne hok
  · intro k sys published hk hmemory hstart
    obtain ⟨error, k', hservices, herror⟩ := hstart hmemory
    have hfail : (ipcKernelInit (kernelAlloc heapAddress) (memoryInit k.memory).2 k.ipc).1 =
        ipcResourceUnavail :=
      ipcKernelInit_of_small (memoryInit_small hmemory) hk
    simp only [kernelInitCoreServices, hmemory, ne_eq, not_true_eq_false, if_false,
      hfail] at hservices
    rw [if_pos (show ipcResourceUnavail.errorCode ≠ errBaseOk from hne)] at hservices
    cases hservices
    exact hne herror

end BringUp

/-- Right after `memory_init`. -/
theorem ipc_never_brought_up_after_init :
    ¬ IpcBroughtUp 4096 MemoryState.init.memory .zero ∧
      ∀ (k : Kernel) (sys : SysReadings) (published : Bool), k.ipc.initialized = false →
        (memoryInit k.memory).1.errorCode = errBaseOk → ¬ CoreServicesStart 4096 k sys published :=
  ipc_never_brought_up 4096 [] rfl

/-- There 1030144 bytes are free, and the 65536 bytes are refused. -/
theorem ipc_not_always_brought_up :
    (memoryGetFreeSize MemoryState.init.memory = 1030144 ∧
        (ipcKernelInit (kernelAlloc 4096) MemoryState.init.memory .zero).1 = ipcResourceUnavail) ∧
      ¬ ∀ (heapAddress : Nat) (calls : List PointerCall) (ipc : KernelIpc),
        ipc.initialized = false → IpcBroughtUp heapAddress
          (mealy (KernelMemory.step heapAddress) MemoryState.init.memory calls).2 ipc := by
  have hfree : memoryGetFreeSize MemoryState.init.memory = 1030144 := by decide
  have hfail : (ipcKernelInit (kernelAlloc 4096) MemoryState.init.memory .zero).1 =
      ipcResourceUnavail := by
    decide +kernel
  refine ⟨⟨hfree, hfail⟩, fun h => ?_⟩
  have hup := (h 4096 [] .zero rfl (by rw [mealy, hfree]; decide)).1
  rw [mealy, hfail] at hup
  exact absurd hup (by decide)

end AutoMlos
