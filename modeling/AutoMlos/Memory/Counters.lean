import AutoMlos.Memory.Bookkeeping

/-!
# AutoMlos.Memory.Counters

The pool counters under frees of any pointer value.

`memory_pool_free` counts a block as freed without looking at the bit it
sets.  A pointer into a block whose bit is clear is taken back correctly, be
it the start of the block or not; a pointer into a block whose bit is set
makes `free_count` one too large (`memory_counters_iff`).
-/

namespace AutoMlos

open Lib

/-- The pointer value lies in block `k` of pool `p`. -/
def KernelMemory.PointsInto (heapAddress : Nat) (mem : KernelMemory) (ptr : Nat) (p : Fin 8)
    (k : Nat) : Prop :=
  ptr ≠ 0 ∧ heapAddress ≤ ptr ∧ k < (mem.pool p).blockCount.toNat ∧
    ((mem.pool p).block k).Contains (ptr - heapAddress)

/-- What the counters of a pool promise: `free_count` is the number of set
bits, never more than the pool has blocks, and the scan of
`memory_pool_alloc` finds a block whenever it is not 0. -/
structure KernelMemory.CountersSound (mem : KernelMemory) (p : Fin 8) : Prop where
  free_le : (mem.pool p).freeCount ≤ (mem.pool p).blockCount
  free_eq : (mem.pool p).freeCount.toNat =
    bitCount mem.heap (mem.pool p).freeList (mem.pool p).blockCount.toNat
  alloc : (mem.pool p).freeCount ≠ 0 → (memoryPoolAlloc mem p).1 ≠ none

/-- A call keeps the counters of every pool sound, and a free does not wrap
`allocation_count`. -/
def KernelMemory.KeepsCounters (mem : KernelMemory) (call : PointerCall) (mem' : KernelMemory) :
    Prop :=
  (∀ p, mem'.CountersSound p) ∧
    ∀ ptr, call = .free ptr → ∀ p, (mem'.pool p).allocationCount ≤ (mem.pool p).allocationCount

/-- A free whose pointer is in no block that is available: `NULL`, a pointer
outside the pools, or a pointer into a block that is handed out. -/
def KernelMemory.Harmless (heapAddress : Nat) (mem : KernelMemory) : PointerCall → Prop
  | .alloc _ => True
  | .free ptr => ∀ p k, mem.PointsInto heapAddress ptr p k → ¬ mem.Available p k

section Free

variable {mem : KernelMemory} {heapAddress ptr : Nat} {p q : Fin 8} {j k : Nat}

/-- An address of a pool lies in one of its blocks. -/
theorem PoolLayout.block_of_region_contains {l : PoolLayout} {a : Nat} (hsize : 0 < l.size)
    (h : l.region.Contains a) : ∃ k < l.count, (l.block k).Contains a := by
  obtain ⟨hlo, hhi⟩ := h
  simp only [PoolLayout.region] at hlo hhi
  have hdiv := Nat.div_add_mod (a - l.base) l.size
  have hmod := Nat.mod_lt (a - l.base) hsize
  refine ⟨(a - l.base) / l.size, ?_, ?_⟩
  · rw [Nat.div_lt_iff_lt_mul hsize, Nat.mul_comm]
    omega
  · rw [Nat.mul_comm] at hdiv
    simp only [Region.Contains, PoolLayout.block]
    omega

/-- A pointer lies in one block at most. -/
theorem KernelMemory.LaidOut.pointsInto_unique (h : mem.LaidOut)
    (hk : mem.PointsInto heapAddress ptr p k) (hj : mem.PointsInto heapAddress ptr q j) :
    (p, k) = (q, j) := by
  obtain ⟨-, -, hk, hptr⟩ := hk
  obtain ⟨-, -, hj, hptr'⟩ := hj
  rw [(h _).count] at hk hj
  rw [h.block_eq] at hptr hptr'
  by_contra hne
  exact Region.not_disjoint_of_contains hptr hptr' (blockRegion_disjoint hk hj hne)

/-- The owner of a pointer into the heap is that of its offset. -/
theorem KernelMemory.ownerAt_eq (mem : KernelMemory) (hle : heapAddress ≤ ptr) :
    mem.ownerAt heapAddress ptr = mem.owner (ptr - heapAddress) := by
  refine List.find?_congr fun p _ => decide_eq_decide.mpr ?_
  simp only [MemoryPool.region, Region.Contains]
  omega

/-- A pointer with no owner is in no block. -/
theorem KernelMemory.LaidOut.not_pointsInto_of_ownerAt (h : mem.LaidOut)
    (hfind : mem.ownerAt heapAddress ptr = none) (p : Fin 8) (k : Nat) :
    ¬ mem.PointsInto heapAddress ptr p k := by
  rintro ⟨-, hle, hk, hptr⟩
  rw [(h p).count] at hk
  rw [h.block_eq] at hptr
  have hsome := h.owner_of_contains (PoolLayout.region_contains hk hptr)
  rw [← mem.ownerAt_eq hle, hfind] at hsome
  cases hsome

/-- **Free of any pointer value**: it takes back the block the pointer lies
in, and does nothing when there is none. -/
theorem memoryFreeAt_cases (h : mem.LaidOut) (heapAddress ptr : Nat) :
    (memoryFreeAt heapAddress mem ptr = mem ∧ ∀ p k, ¬ mem.PointsInto heapAddress ptr p k) ∨
      ∃ p k, mem.PointsInto heapAddress ptr p k ∧
        memoryFreeAt heapAddress mem ptr = mem.give p k := by
  by_cases hnull : ptr = 0
  · exact Or.inl ⟨if_pos hnull, fun p k hptr => hptr.1 hnull⟩
  · rw [memoryFreeAt, if_neg hnull]
    cases hfind : mem.ownerAt heapAddress ptr with
    | none => exact Or.inl ⟨rfl, h.not_pointsInto_of_ownerAt hfind⟩
    | some p =>
        have hbounds := List.find?_some hfind
        simp only [decide_eq_true_eq] at hbounds
        have hle : heapAddress ≤ ptr := by omega
        have hregion : (mem.pool p).region.Contains (ptr - heapAddress) := by
          simp only [MemoryPool.region, Region.Contains]
          omega
        rw [(h p).region_eq] at hregion
        obtain ⟨k, hk, hptr⟩ :=
          PoolLayout.block_of_region_contains (poolLayout_size_pos p) hregion
        have hfree : memoryFree mem (some (ptr - heapAddress)) = mem.give p k :=
          memoryFree_eq_give h hk hptr
        have hpool : mem.owner (ptr - heapAddress) = some p := by
          rw [← mem.ownerAt_eq hle, hfind]
        simp only [memoryFree, hpool] at hfree
        refine Or.inr ⟨p, k, ⟨hnull, hle, ?_, ?_⟩, hfree⟩
        · rwa [(h p).count]
        · rwa [h.block_eq]

/-- Counters that count the bits keep their promises. -/
theorem KernelMemory.Counted.sound (h : mem.LaidOut) (hcounted : mem.Counted p) :
    mem.CountersSound p where
  free_le := by
    have halloc := hcounted.allocationCount
    rw [UInt16.le_iff_toNat_le]
    omega
  free_eq := hcounted.freeCount
  alloc := by
    intro hfree
    obtain ⟨k, -, hsome⟩ :=
      memoryPoolAlloc_of_not_full h hcounted fun hfull => hfree (hcounted.full_iff.mp hfull)
    rw [hsome]
    simp

/-- Taking back a block that is available leaves `free_count` too large. -/
theorem KernelMemory.Counted.not_sound_give (hcounted : mem.Counted p)
    (hk : mem.Available p k) : ¬ (mem.give p k).CountersSound p := by
  intro hsound
  have hfree := hsound.free_eq
  simp only [KernelMemory.give, KernelMemory.pool_setPool_self, KernelMemory.heap_setPool,
    bitCount_setBit_of_bitSet hk.2] at hfree
  rw [← hcounted.freeCount, UInt16.toNat_add, UInt16.toNat_one] at hfree
  have hlt := UInt16.toNat_lt (mem.pool p).freeCount
  omega

/-- Taking back a block that is handed out counts one allocation less. -/
theorem KernelMemory.Counted.allocationCount_give_le (hcounted : mem.Counted p)
    (hk : k < (mem.pool p).blockCount.toNat) (hused : ¬ mem.Available p k) (q : Fin 8) :
    ((mem.give p k).pool q).allocationCount ≤ (mem.pool q).allocationCount := by
  by_cases hpq : p = q
  · subst hpq
    have hpos := hcounted.allocationCount_pos hk hused
    simp only [KernelMemory.give, KernelMemory.pool_setPool_self]
    rw [UInt16.le_iff_toNat_le, toNat_sub_one_of_pos hpos]
    omega
  · rw [KernelMemory.give, KernelMemory.pool_setPool_of_ne mem hpq]
    exact UInt16.le_refl _

end Free

/-- The counters count the bits of pools that lie where they should. -/
structure KernelMemory.WellKept (mem : KernelMemory) : Prop where
  laidOut : mem.LaidOut
  counted : ∀ p, mem.Counted p

section Step

variable {mem : KernelMemory} {heapAddress : Nat}

theorem KernelMemory.WellKept.sound (h : mem.WellKept) (p : Fin 8) : mem.CountersSound p :=
  (h.counted p).sound h.laidOut

theorem KernelMemory.WellKept.take (h : mem.WellKept) (hk : mem.Available p k) :
    (mem.take p k).WellKept where
  laidOut := h.laidOut.take p k
  counted := h.laidOut.counted_take h.counted hk

theorem KernelMemory.WellKept.give (h : mem.WellKept) (hk : IsBlock (p, k))
    (hused : ¬ mem.Available p k) : (mem.give p k).WellKept where
  laidOut := h.laidOut.give p k
  counted := h.laidOut.counted_give h.counted hk hused

theorem KernelMemory.WellKept.alloc (h : mem.WellKept) (size : Nat) :
    (memoryAlloc mem size).2.WellKept := by
  rcases Nat.eq_zero_or_pos size with rfl | hpos
  · exact h
  · rcases memoryAlloc_spec h.laidOut h.counted hpos with
      ⟨hnone, -⟩ | ⟨p, k, hsome, -, hk, -⟩
    · rw [hnone]
      exact h
    · rw [hsome]
      exact h.take hk

/-- **One call** keeps the counters sound exactly when it is harmless. -/
theorem KernelMemory.WellKept.keepsCounters_step_iff (h : mem.WellKept) (call : PointerCall) :
    (mem.KeepsCounters call (mem.step heapAddress call).2 ↔ mem.Harmless heapAddress call) ∧
      (mem.Harmless heapAddress call → (mem.step heapAddress call).2.WellKept) := by
  cases call with
  | alloc size =>
      have hkept := h.alloc size
      refine ⟨iff_of_true ⟨hkept.sound, ?_⟩ trivial, fun _ => hkept⟩
      rintro ptr ⟨⟩
  | free ptr =>
      rcases memoryFreeAt_cases h.laidOut heapAddress ptr with
        ⟨hsame, houtside⟩ | ⟨p, k, hptr, hgive⟩
      · simp only [KernelMemory.step, hsame]
        refine ⟨iff_of_true ⟨h.sound, ?_⟩ ?_, fun _ => h⟩
        · exact fun _ _ _ => UInt16.le_refl _
        · exact fun p k hptr => absurd hptr (houtside p k)
      · have hlt := hptr.2.2.1
        have hblock : IsBlock (p, k) := by rwa [(h.laidOut p).count] at hlt
        -- the block the pointer lies in is the only one that matters
        have hharmless : mem.Harmless heapAddress (.free ptr) ↔ ¬ mem.Available p k := by
          constructor
          · exact fun hall => hall p k hptr
          · intro hused q j hj
            obtain ⟨rfl, rfl⟩ := Prod.mk.inj (h.laidOut.pointsInto_unique hptr hj)
            exact hused
        simp only [KernelMemory.step, hgive, hharmless]
        refine ⟨⟨fun hkeeps hk => ?_, fun hused => ?_⟩, h.give hblock⟩
        · exact (h.counted p).not_sound_give hk (hkeeps.1 p)
        · refine ⟨(h.give hblock hused).sound, fun _ _ => ?_⟩
          exact (h.counted p).allocationCount_give_le hlt hused

end Step

theorem KernelMemory.wellKept_init : MemoryState.init.memory.WellKept where
  laidOut := MemoryState.laidOut_init
  counted := MemoryState.counted_init

/-- **Counters under arbitrary frees**: along a run after `memory_init` the
counters stay sound exactly when no free hits an available block. -/
theorem memory_counters_iff (heapAddress : Nat) (calls : List PointerCall) :
    Always (total (KernelMemory.step heapAddress))
        (fun mem call _ mem' => mem.KeepsCounters call mem') MemoryState.init.memory calls ↔
      Always (total (KernelMemory.step heapAddress))
        (fun mem call _ _ => mem.Harmless heapAddress call) MemoryState.init.memory calls := by
  have hstep (mem : KernelMemory) (call : PointerCall) (h : mem.WellKept) :
      (mem.KeepsCounters call (mem.step heapAddress call).2 ↔ mem.Harmless heapAddress call) ∧
        (mem.KeepsCounters call (mem.step heapAddress call).2 →
          (mem.step heapAddress call).2.WellKept) := by
    obtain ⟨hiff, hkept⟩ := h.keepsCounters_step_iff call
    exact ⟨hiff, fun hkeeps => hkept (hiff.mp hkeeps)⟩
  exact always_total_iff_always hstep KernelMemory.wellKept_init calls

/-- Freeing a block twice: the pool of 64 blocks then counts 65 free ones. -/
theorem memory_counters_double_free :
    ((mealy (KernelMemory.step 4096) MemoryState.init.memory
        [.alloc 32, .free 4096, .free 4096]).2.pool 0).freeCount = 65 ∧
      ¬ ∀ (heapAddress : Nat) (calls : List PointerCall),
        Always (total (KernelMemory.step heapAddress))
          (fun mem call _ mem' => mem.KeepsCounters call mem') MemoryState.init.memory calls := by
  have hcount : ((mealy (KernelMemory.step 4096) MemoryState.init.memory
      [.alloc 32, .free 4096, .free 4096]).2.pool 0).freeCount = 65 := by
    decide +kernel
  refine ⟨hcount, fun h => ?_⟩
  have hall := h 4096 [.alloc 32, .free 4096, .free 4096]
  simp only [always_total_cons] at hall
  have hle := (hall.2.2.1.1 0).free_le
  have h65 : (65 : UInt16) ≤ 64 := hcount ▸ hle
  exact absurd h65 (by decide)

end AutoMlos
