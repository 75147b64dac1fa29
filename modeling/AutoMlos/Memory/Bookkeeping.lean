import AutoMlos.Memory.Disjoint
import Mathlib.Data.List.Find

/-!
# AutoMlos.Memory.Bookkeeping

The bookkeeping of the pools: a bit for each block and two counters.

`KernelMemory.take` and `KernelMemory.give` are what handing out and taking
back a block do to a pool; allocation and free are a search followed by one
of them (`memoryAlloc_spec`, `memoryFree_eq_give`).  Along every run whose
writes stay off the bitmaps the counters count the bits, the bits are those
of the blocks that are not live, and every call does what it promises
(`memory_bookkeeping`).
-/

namespace AutoMlos

open Lib

/-! ## blocks and counters -/

/-- Block `k` of a pool. -/
def MemoryPool.block (pool : MemoryPool) (k : Nat) : Region :=
  ⟨pool.baseAddress + k * pool.blockSize, pool.blockSize⟩

/-- The pool has a block `k` and its bit is set: it can be handed out. -/
def KernelMemory.Available (mem : KernelMemory) (p : Fin 8) (k : Nat) : Prop :=
  k < (mem.pool p).blockCount.toNat ∧ BitSet mem.heap (mem.pool p).freeList k

/-- No block of the pool can be handed out. -/
def KernelMemory.Full (mem : KernelMemory) (p : Fin 8) : Prop := ∀ k, ¬ mem.Available p k

/-- The counters of a pool count its bits: `free_count` the set ones,
`allocation_count` the others. -/
structure KernelMemory.Counted (mem : KernelMemory) (p : Fin 8) : Prop where
  freeCount : (mem.pool p).freeCount.toNat =
    bitCount mem.heap (mem.pool p).freeList (mem.pool p).blockCount.toNat
  allocationCount : (mem.pool p).freeCount.toNat + (mem.pool p).allocationCount.toNat =
    (mem.pool p).blockCount.toNat

section Blocks

variable {mem : KernelMemory} {p q : Fin 8} {j k : Nat}

theorem KernelMemory.LaidOut.block_eq (h : mem.LaidOut) (p : Fin 8) (k : Nat) :
    (mem.pool p).block k = blockRegion (p, k) := by
  simp only [MemoryPool.block, (h p).base, (h p).size]
  rfl

theorem KernelMemory.LaidOut.available_iff (h : mem.LaidOut) :
    mem.Available p k ↔ IsBlock (p, k) ∧ FreeBit mem.heap (p, k) := by
  rw [KernelMemory.Available, (h p).count, (h p).freeList]
  rfl

/-- Handing out a block makes that block unavailable and no other. -/
theorem KernelMemory.LaidOut.available_take (h : mem.LaidOut) (hk : IsBlock (p, k)) :
    (mem.take p k).Available q j ↔ (p, k) ≠ (q, j) ∧ mem.Available q j := by
  rw [(h.take p k).available_iff, h.available_iff, KernelMemory.take, KernelMemory.heap_setPool,
    (h p).freeList]
  constructor
  · rintro ⟨hj, hbit⟩
    rw [freeBit_clearBit hk hj] at hbit
    exact ⟨hbit.1, hj, hbit.2⟩
  · rintro ⟨hne, hj, hbit⟩
    exact ⟨hj, (freeBit_clearBit hk hj).mpr ⟨hne, hbit⟩⟩

/-- Taking a block back makes that block available and no other. -/
theorem KernelMemory.LaidOut.available_give (h : mem.LaidOut) (hk : IsBlock (p, k)) :
    (mem.give p k).Available q j ↔ (p, k) = (q, j) ∨ mem.Available q j := by
  rw [(h.give p k).available_iff, h.available_iff, KernelMemory.give, KernelMemory.heap_setPool,
    (h p).freeList]
  constructor
  · rintro ⟨hj, hbit⟩
    rw [freeBit_setBit hk hj] at hbit
    exact hbit.imp_right fun hfree => ⟨hj, hfree⟩
  · rintro (heq | ⟨hj, hbit⟩)
    · have hj : IsBlock (q, j) := heq ▸ hk
      exact ⟨hj, (freeBit_setBit hk hj).mpr (Or.inl heq)⟩
    · exact ⟨hj, (freeBit_setBit hk hj).mpr (Or.inr hbit)⟩

/-- The counters of a pool that is left alone go on counting as long as its
bits stay. -/
theorem KernelMemory.Counted.congr {mem' : KernelMemory} (h : mem.Counted q)
    (hpool : mem'.pool q = mem.pool q)
    (hbits : ∀ j < (mem.pool q).blockCount.toNat,
      (BitSet mem'.heap (mem.pool q).freeList j ↔ BitSet mem.heap (mem.pool q).freeList j)) :
    mem'.Counted q := by
  constructor
  · rw [hpool, bitCount_congr hbits]
    exact h.freeCount
  · rw [hpool]
    exact h.allocationCount

/-- A pool has blocks left as long as `free_count` is not 0. -/
theorem KernelMemory.Counted.full_iff (h : mem.Counted p) :
    mem.Full p ↔ (mem.pool p).freeCount = 0 := by
  rw [← UInt16.toNat_inj, h.freeCount, UInt16.toNat_zero, ← Nat.le_zero, ← Nat.not_lt, bitCount_pos]
  simp only [KernelMemory.Full, KernelMemory.Available, not_exists]

/-- A pool with a block that is not available counts an allocation. -/
theorem KernelMemory.Counted.allocationCount_pos (h : mem.Counted p)
    (hk : k < (mem.pool p).blockCount.toNat) (hused : ¬ mem.Available p k) :
    0 < (mem.pool p).allocationCount.toNat := by
  have hclear : ¬ BitSet mem.heap (mem.pool p).freeList k := fun hbit => hused ⟨hk, hbit⟩
  have hle : bitCount (setBit mem.heap (mem.pool p).freeList k) (mem.pool p).freeList
      (mem.pool p).blockCount.toNat ≤ (mem.pool p).blockCount.toNat := bitCount_le
  rw [bitCount_setBit hk hclear] at hle
  obtain ⟨hfree, halloc⟩ := h
  omega

/-- A change of one pool and of its bits leaves the books of the others. -/
theorem KernelMemory.LaidOut.counted_setPool_of_ne (h : mem.LaidOut) (hcounted : mem.Counted q)
    (hpq : p ≠ q) {pool : MemoryPool} {heap : Nat → UInt8}
    (hbits : ∀ j, IsBlock (q, j) → (FreeBit heap (q, j) ↔ FreeBit mem.heap (q, j))) :
    (mem.setPool p pool heap).Counted q := by
  refine hcounted.congr (KernelMemory.pool_setPool_of_ne mem hpq _ _) fun j hj => ?_
  rw [KernelMemory.heap_setPool, (h q).freeList]
  rw [(h q).count] at hj
  exact hbits j hj

/-- A block handed out moves one unit from `free_count` to
`allocation_count`. -/
theorem KernelMemory.LaidOut.counted_take (h : mem.LaidOut) (hcounted : ∀ q, mem.Counted q)
    (hk : mem.Available p k) (q : Fin 8) : (mem.take p k).Counted q := by
  have hblock := (h.available_iff.mp hk).1
  by_cases hpq : p = q
  · subst hpq
    have hcount := bitCount_clearBit hk.1 hk.2
    obtain ⟨hfree, halloc⟩ := hcounted p
    have hpred := toNat_sub_one_of_pos (n := (mem.pool p).freeCount) (by omega)
    have hsucc := toNat_add_one_of_lt (n := (mem.pool p).allocationCount)
      (m := (mem.pool p).blockCount) (by omega)
    constructor
    · simp only [KernelMemory.take, KernelMemory.pool_setPool_self, KernelMemory.heap_setPool,
        hpred]
      omega
    · simp only [KernelMemory.take, KernelMemory.pool_setPool_self, hpred, hsucc]
      omega
  · refine h.counted_setPool_of_ne (hcounted q) hpq fun j hj => ?_
    rw [(h p).freeList]
    exact (freeBit_clearBit hblock hj).trans (and_iff_right fun heq => hpq (congrArg Prod.fst heq))

/-- A block taken back moves it the other way. -/
theorem KernelMemory.LaidOut.counted_give (h : mem.LaidOut) (hcounted : ∀ q, mem.Counted q)
    (hk : IsBlock (p, k)) (hused : ¬ mem.Available p k) (q : Fin 8) :
    (mem.give p k).Counted q := by
  by_cases hpq : p = q
  · subst hpq
    have hlt : k < (mem.pool p).blockCount.toNat := by rw [(h p).count]; exact hk
    have hclear : ¬ BitSet mem.heap (mem.pool p).freeList k := fun hbit => hused ⟨hlt, hbit⟩
    have hcount := bitCount_setBit hlt hclear
    have hpos := (hcounted p).allocationCount_pos hlt hused
    obtain ⟨hfree, halloc⟩ := hcounted p
    have hsucc := toNat_add_one_of_lt (n := (mem.pool p).freeCount)
      (m := (mem.pool p).blockCount) (by omega)
    have hpred := toNat_sub_one_of_pos hpos
    constructor
    · simp only [KernelMemory.give, KernelMemory.pool_setPool_self, KernelMemory.heap_setPool,
        hsucc]
      omega
    · simp only [KernelMemory.give, KernelMemory.pool_setPool_self, hpred, hsucc]
      omega
  · refine h.counted_setPool_of_ne (hcounted q) hpq fun j hj => ?_
    rw [(h p).freeList]
    exact (freeBit_setBit hk hj).trans (or_iff_right fun heq => hpq (congrArg Prod.fst heq))

end Blocks

/-! ## what the operations do to the books -/

section Operations

variable {mem : KernelMemory} {p : Fin 8} {size : Nat}

/-- What the scan of `memory_pool_alloc` finds is an available block. -/
theorem KernelMemory.LaidOut.find_available (h : mem.LaidOut) (p : Fin 8) :
    (List.range (mem.pool p).blockCount.toNat).find?
        (fun i => mem.heap ((mem.pool p).freeByte i) &&& blockMask i ≠ 0) =
      (List.range (mem.pool p).blockCount.toNat).find?
        (fun i => BitSet mem.heap (mem.pool p).freeList i) := by
  refine List.find?_congr fun i hi => ?_
  have hlt : i < (poolLayout p).count := by rwa [List.mem_range, (h p).count] at hi
  rw [h.freeByte_eq' hlt]
  rfl

/-- A full pool serves nothing. -/
theorem memoryPoolAlloc_of_full (h : mem.LaidOut) (hfull : mem.Full p) :
    memoryPoolAlloc mem p = (none, mem) := by
  have hfind : (List.range (mem.pool p).blockCount.toNat).find?
      (fun i => BitSet mem.heap (mem.pool p).freeList i) = none := by
    rw [List.find?_eq_none]
    intro i hi hbit
    exact hfull i ⟨List.mem_range.mp hi, of_decide_eq_true hbit⟩
  simp only [memoryPoolAlloc, h.find_available, hfind, ite_self]

/-- A pool whose counters are right and that is not full hands a block out. -/
theorem memoryPoolAlloc_of_not_full (h : mem.LaidOut) (hcounted : mem.Counted p)
    (hfull : ¬ mem.Full p) :
    ∃ k, mem.Available p k ∧
      memoryPoolAlloc mem p = (some ((mem.pool p).block k).base, mem.take p k) := by
  have hfree : (mem.pool p).freeCount ≠ 0 := fun hzero => hfull (hcounted.full_iff.mpr hzero)
  cases hfind : (List.range (mem.pool p).blockCount.toNat).find?
      (fun i => BitSet mem.heap (mem.pool p).freeList i) with
  | none =>
      rw [List.find?_eq_none] at hfind
      refine absurd (fun k hk => ?_) hfull
      exact hfind k (List.mem_range.mpr hk.1) (decide_eq_true hk.2)
  | some k =>
      obtain ⟨hbit, hmem, -⟩ := List.find?_range_eq_some.mp hfind
      have hlt : k < (mem.pool p).blockCount.toNat := List.mem_range.mp hmem
      have hk : k < (poolLayout p).count := by rwa [(h p).count] at hlt
      refine ⟨k, ⟨hlt, of_decide_eq_true hbit⟩, ?_⟩
      simp only [memoryPoolAlloc, if_neg hfree, h.find_available, hfind, h.freeByte_eq' hk]
      rfl

/-- Allocation from a list of pools in order: the first one that fits and is
not full hands out a block. -/
theorem memoryAllocFrom_spec (h : mem.LaidOut) (hcounted : ∀ q, mem.Counted q)
    {ps : List (Fin 8)} (hsorted : ps.Pairwise (· < ·)) :
    (memoryAllocFrom size ps mem = (none, mem) ∧
        ∀ p ∈ ps, size ≤ (mem.pool p).blockSize → mem.Full p) ∨
      ∃ p k, memoryAllocFrom size ps mem = (some ((mem.pool p).block k).base, mem.take p k) ∧
        size ≤ (mem.pool p).blockSize ∧ mem.Available p k ∧
        ∀ q ∈ ps, q < p → size ≤ (mem.pool q).blockSize → mem.Full q := by
  induction ps with
  | nil => exact Or.inl ⟨rfl, by simp⟩
  | cons p ps ih =>
      obtain ⟨hfirst, hsorted⟩ := List.pairwise_cons.mp hsorted
      by_cases hserves : size ≤ (mem.pool p).blockSize ∧ ¬ mem.Full p
      · obtain ⟨hfits, hfull⟩ := hserves
        obtain ⟨k, hk, halloc⟩ := memoryPoolAlloc_of_not_full h (hcounted p) hfull
        refine Or.inr ⟨p, k, ?_, hfits, hk, ?_⟩
        · rw [memoryAllocFrom, if_pos hfits, halloc]
        · intro q hq hlt
          rcases List.mem_cons.mp hq with rfl | hq
          · exact absurd hlt (lt_irrefl q)
          · exact absurd (hfirst q hq) (lt_asymm hlt)
      · have hskip : size ≤ (mem.pool p).blockSize → mem.Full p := fun hfits =>
          Classical.not_not.mp fun hfull => hserves ⟨hfits, hfull⟩
        have hnext : memoryAllocFrom size (p :: ps) mem = memoryAllocFrom size ps mem := by
          rw [memoryAllocFrom]
          split
          · rename_i hfits
            rw [memoryPoolAlloc_of_full h (hskip hfits)]
          · rfl
        rw [hnext]
        rcases ih hsorted with ⟨hnone, hall⟩ | ⟨r, k, hsome, hfits, hk, hbefore⟩
        · exact Or.inl ⟨hnone, List.forall_mem_cons.mpr ⟨hskip, hall⟩⟩
        · refine Or.inr ⟨r, k, hsome, hfits, hk, ?_⟩
          exact List.forall_mem_cons.mpr ⟨fun _ => hskip, hbefore⟩

theorem poolLayout_size_le_of_le {p q : Fin 8} (h : p ≤ q) :
    (poolLayout p).size ≤ (poolLayout q).size := by
  decide +revert

/-- **Allocation**: a block of the pool with the smallest sufficient block
size among those that have one, or `NULL` when no pool has. -/
theorem memoryAlloc_spec (h : mem.LaidOut) (hcounted : ∀ q, mem.Counted q) (hpos : 0 < size) :
    (memoryAlloc mem size = (none, mem) ∧
        ∀ p, size ≤ (mem.pool p).blockSize → mem.Full p) ∨
      ∃ p k, memoryAlloc mem size = (some ((mem.pool p).block k).base, mem.take p k) ∧
        size ≤ (mem.pool p).blockSize ∧ mem.Available p k ∧
        ∀ q, size ≤ (mem.pool q).blockSize → ¬ mem.Full q →
          (mem.pool p).blockSize ≤ (mem.pool q).blockSize := by
  rw [memoryAlloc, if_neg (Nat.ne_of_gt hpos)]
  have hsorted : (List.finRange 8).Pairwise (· < ·) := by decide
  rcases memoryAllocFrom_spec h hcounted hsorted with
    ⟨hnone, hall⟩ | ⟨p, k, hsome, hfits, hk, hbefore⟩
  · exact Or.inl ⟨hnone, fun p => hall p (List.mem_finRange p)⟩
  · refine Or.inr ⟨p, k, hsome, hfits, hk, fun q hfits hroom => ?_⟩
    rw [(h p).size, (h q).size]
    have hle : p ≤ q := not_lt.mp fun hlt => hroom (hbefore q (List.mem_finRange q) hlt hfits)
    exact poolLayout_size_le_of_le hle

end Operations

/-! ## the books along a run -/

/-- The books are kept: the live blocks are those with these indices, and the
bits and the counters say so. -/
structure MemoryState.Keeps (s : MemoryState) (ids : List (Fin 8 × Nat)) : Prop where
  laidOut : s.memory.LaidOut
  counted : ∀ p, s.memory.Counted p
  live : s.live = ids.map blockRegion
  nodup : ids.Nodup
  isBlock : ∀ id ∈ ids, IsBlock id
  available : ∀ p k, s.memory.Available p k ↔ IsBlock (p, k) ∧ (p, k) ∉ ids

/-- What the state of the allocator promises: the counters count the bits,
live pointers are different and start blocks inside their pools, and a block
is available exactly when it is not live. -/
structure MemoryState.Bookkept (s : MemoryState) : Prop where
  counted : ∀ p, s.memory.Counted p
  block : ∀ b ∈ s.live, ∃ p k, k < (s.memory.pool p).blockCount.toNat ∧
    b = (s.memory.pool p).block k
  inside : ∀ b ∈ s.live, ∃ p, ∀ a, b.Contains a → (s.memory.pool p).region.Contains a
  nodup : (s.live.map Region.base).Nodup
  available : ∀ p k, s.memory.Available p k ↔
    k < (s.memory.pool p).blockCount.toNat ∧ (s.memory.pool p).block k ∉ s.live

/-- What a call promises: an allocation returns a block that was available,
large enough, of the smallest such pool, or `NULL` when there is none; a free
makes available the block of its pointer and no other. -/
def MemoryState.Promise (s : MemoryState) : MemoryCall → Option Nat → MemoryState → Prop
  | .alloc size, reply, s' => 0 < size →
      (reply = none ↔ ∀ p, size ≤ (s.memory.pool p).blockSize → s.memory.Full p) ∧
      ∀ ptr, reply = some ptr → ∃ p k, s.memory.Available p k ∧
        size ≤ (s.memory.pool p).blockSize ∧
        (∀ q, size ≤ (s.memory.pool q).blockSize → ¬ s.memory.Full q →
          (s.memory.pool p).blockSize ≤ (s.memory.pool q).blockSize) ∧
        ptr = ((s.memory.pool p).block k).base ∧
        s'.live = (s.memory.pool p).block k :: s.live
  | .free ptr, _, s' => ptr ∈ s.live.map Region.base →
      ∃ p k, ptr = ((s.memory.pool p).block k).base ∧ ¬ s.memory.Available p k ∧
        ∀ q j, s'.memory.Available q j ↔ (p, k) = (q, j) ∨ s.memory.Available q j
  | .write .., _, s' => ∀ p k, s'.memory.Available p k ↔ s.memory.Available p k

section Run

variable {s : MemoryState} {ids : List (Fin 8 × Nat)} {p : Fin 8} {k : Nat}

theorem blockRegion_base_injective {id id' : Fin 8 × Nat} (hid : IsBlock id) (hid' : IsBlock id')
    (h : (blockRegion id).base = (blockRegion id').base) : id = id' := by
  by_contra hne
  refine Region.not_disjoint_of_contains (block_contains_base id.1 id.2) ?_
    (blockRegion_disjoint hid hid' hne)
  have hcontains := block_contains_base id'.1 id'.2
  rwa [← blockRegion, ← h] at hcontains

theorem MemoryState.Keeps.bookkept (h : s.Keeps ids) : s.Bookkept where
  counted := h.counted
  block := by
    intro b hb
    rw [h.live] at hb
    obtain ⟨⟨p, k⟩, hid, rfl⟩ := List.mem_map.mp hb
    refine ⟨p, k, ?_, (h.laidOut.block_eq p k).symm⟩
    rw [(h.laidOut p).count]
    exact h.isBlock _ hid
  inside := by
    intro b hb
    rw [h.live] at hb
    obtain ⟨⟨p, k⟩, hid, rfl⟩ := List.mem_map.mp hb
    refine ⟨p, fun a ha => ?_⟩
    rw [(h.laidOut p).region_eq]
    exact PoolLayout.region_contains (h.isBlock _ hid) ha
  nodup := by
    rw [h.live, List.map_map]
    exact h.nodup.map_on fun id hid id' hid' =>
      blockRegion_base_injective (h.isBlock id hid) (h.isBlock id' hid')
  available := by
    intro p k
    rw [h.available, (h.laidOut p).count, h.laidOut.block_eq, h.live]
    refine and_congr_right fun hk => not_congr ⟨List.mem_map_of_mem, fun hb => ?_⟩
    obtain ⟨id, hid, heq⟩ := List.mem_map.mp hb
    rwa [← blockRegion_base_injective (h.isBlock id hid) hk (congrArg Region.base heq)]

/-- Handing out an available block makes it live. -/
theorem MemoryState.Keeps.take (h : s.Keeps ids) (hk : s.memory.Available p k) :
    MemoryState.Keeps { memory := s.memory.take p k, live := blockRegion (p, k) :: s.live }
      ((p, k) :: ids) := by
  obtain ⟨hblock, hfresh⟩ := (h.available p k).mp hk
  refine
    { laidOut := h.laidOut.take p k
      counted := h.laidOut.counted_take h.counted hk
      live := by rw [h.live, List.map_cons]
      nodup := List.nodup_cons.mpr ⟨hfresh, h.nodup⟩
      isBlock := List.forall_mem_cons.mpr ⟨hblock, h.isBlock⟩
      available := ?_ }
  intro q j
  rw [h.laidOut.available_take hblock, h.available, List.mem_cons, not_or, ne_comm, and_left_comm]

/-- Taking a live block back makes it available. -/
theorem MemoryState.Keeps.give {before after : List (Fin 8 × Nat)}
    (h : s.Keeps (before ++ (p, k) :: after)) :
    MemoryState.Keeps { memory := s.memory.give p k, live := (before ++ after).map blockRegion }
      (before ++ after) := by
  obtain ⟨hother, hnodup⟩ := List.nodup_cons.mp (List.nodup_middle.mp h.nodup)
  have hblock : IsBlock (p, k) := h.isBlock (p, k) (by simp)
  have hused : ¬ s.memory.Available p k := by simp [h.available]
  refine
    { laidOut := h.laidOut.give p k
      counted := h.laidOut.counted_give h.counted hblock hused
      live := rfl
      nodup := hnodup
      isBlock := ?_
      available := ?_ }
  · intro id hid
    refine h.isBlock id ?_
    simp only [List.mem_append, List.mem_cons] at hid ⊢
    tauto
  · intro q j
    rw [h.laidOut.available_give hblock, h.available]
    by_cases heq : (p, k) = (q, j)
    · rw [← heq]
      simp only [true_or, hblock, hother, not_false_eq_true, and_self]
    · have hne : (q, j) ≠ (p, k) := Ne.symm heq
      simp only [heq, false_or, List.mem_append, List.mem_cons, hne]

theorem MemoryState.Keeps.step_alloc (h : s.Keeps ids) (size : Nat) :
    (∃ ids', (s.step (.alloc size)).2.Keeps ids') ∧
      s.Promise (.alloc size) (s.step (.alloc size)).1 (s.step (.alloc size)).2 := by
  rcases Nat.eq_zero_or_pos size with rfl | hpos
  · have hnone : memoryAlloc s.memory 0 = (none, s.memory) := rfl
    simp only [MemoryState.step, hnone]
    exact ⟨⟨ids, h⟩, fun hpos => absurd hpos (lt_irrefl 0)⟩
  · rcases memoryAlloc_spec h.laidOut h.counted hpos with
      ⟨hnone, hfull⟩ | ⟨p, k, hsome, hfits, hk, hleast⟩
    · simp only [MemoryState.step, hnone]
      refine ⟨⟨ids, h⟩, fun _ => ⟨iff_of_true rfl hfull, ?_⟩⟩
      rintro ptr ⟨⟩
    · have hblock := ((h.available p k).mp hk).1
      have hregion := (h.laidOut.take p k).blockAt_eq hblock
      have hroom : ¬ ∀ q, size ≤ (s.memory.pool q).blockSize → s.memory.Full q :=
        fun hfull => hfull p hfits k hk
      simp only [MemoryState.step, hsome, h.laidOut.block_eq, hregion]
      refine ⟨⟨_, h.take hk⟩, fun _ => ⟨iff_of_false (by simp) hroom, ?_⟩⟩
      rintro ptr ⟨⟩
      rw [← h.laidOut.block_eq]
      exact ⟨p, k, hk, hfits, hleast, rfl, rfl⟩

theorem MemoryState.Keeps.step_free (h : s.Keeps ids) (ptr : Nat) :
    (∃ ids', (s.step (.free ptr)).2.Keeps ids') ∧
      s.Promise (.free ptr) (s.step (.free ptr)).1 (s.step (.free ptr)).2 := by
  by_cases hlive : ptr ∈ s.live.map Region.base
  · obtain ⟨⟨p, k⟩, before, after, rfl, rfl, hlive'⟩ := MemoryState.exists_freed h.live hlive
    have hblock : IsBlock (p, k) := h.isBlock (p, k) (by simp)
    have hgive : memoryFree s.memory (some (blockRegion (p, k)).base) = s.memory.give p k :=
      memoryFree_eq_give h.laidOut hblock (block_contains_base p k)
    simp only [MemoryState.step, if_pos hlive, hgive, hlive']
    refine ⟨⟨_, h.give⟩, fun _ => ⟨p, k, ?_, ?_, fun q j => ?_⟩⟩
    · rw [h.laidOut.block_eq]
    · simp [h.available]
    · exact h.laidOut.available_give hblock
  · simp only [MemoryState.step, if_neg hlive]
    exact ⟨⟨ids, h⟩, fun hptr => absurd hptr hlive⟩

theorem MemoryState.Keeps.step_write (h : s.Keeps ids) {addr : Nat}
    (hoff : ∀ p, ¬ (poolLayout p).bitmap.Contains addr) (value : UInt8) :
    (∃ ids', (s.step (.write addr value)).2.Keeps ids') ∧
      s.Promise (.write addr value) (s.step (.write addr value)).1
        (s.step (.write addr value)).2 := by
  by_cases hlive : ∃ block ∈ s.live, block.Contains addr
  · simp only [MemoryState.step, if_pos hlive]
    -- no bit of a bitmap is in the byte written
    have hbits (p : Fin 8) {j : Nat} (hj : j < (s.memory.pool p).blockCount.toNat) :
        BitSet (Function.update s.memory.heap addr value) (s.memory.pool p).freeList j ↔
          BitSet s.memory.heap (s.memory.pool p).freeList j := by
      refine bitSet_congr (Function.update_of_ne ?_ _ _)
      rw [(h.laidOut p).count] at hj
      rintro rfl
      rw [(h.laidOut p).freeList] at hoff
      exact hoff p (PoolLayout.bitmap_contains hj)
    have havailable (p : Fin 8) (j : Nat) : KernelMemory.Available
        { s.memory with heap := Function.update s.memory.heap addr value } p j ↔
          s.memory.Available p j :=
      and_congr_right fun hj => hbits p hj
    refine ⟨⟨ids, ?_⟩, havailable⟩
    exact
      { laidOut := h.laidOut
        counted := fun p => (h.counted p).congr rfl fun j hj => hbits p hj
        live := h.live
        nodup := h.nodup
        isBlock := h.isBlock
        available := fun p j => (havailable p j).trans (h.available p j) }
  · simp only [MemoryState.step, if_neg hlive]
    exact ⟨⟨ids, h⟩, fun _ _ => Iff.rfl⟩

end Run

/-- The counters `memory_init` leaves are those of bitmaps with every bit set. -/
theorem MemoryState.counted_init (p : Fin 8) : MemoryState.init.memory.Counted p := by
  have hcount (p : Fin 8) :
      let pool := MemoryState.init.memory.pool p
      pool.freeCount.toNat = bitCount MemoryState.init.memory.heap pool.freeList
          pool.blockCount.toNat ∧
        pool.freeCount.toNat + pool.allocationCount.toNat = pool.blockCount.toNat := by
    decide +kernel +revert
  exact ⟨(hcount p).1, (hcount p).2⟩

/-- Every block is available after `memory_init`. -/
theorem MemoryState.available_init {p : Fin 8} {k : Nat} (hk : IsBlock (p, k)) :
    MemoryState.init.memory.Available p k := by
  have hbits : ∀ p : Fin 8, ∀ k < (poolLayout p).count,
      BitSet MemoryState.init.memory.heap (poolLayout p).base k := by
    decide +kernel
  exact laidOut_init.available_iff.mpr ⟨hk, hbits p k hk⟩

theorem MemoryState.keeps_init : MemoryState.init.Keeps [] where
  laidOut := laidOut_init
  counted := counted_init
  live := rfl
  nodup := List.nodup_nil
  isBlock := by simp
  available := by
    intro p k
    rw [and_iff_left List.not_mem_nil]
    refine ⟨fun hk => (laidOut_init.available_iff.mp hk).1, available_init⟩

/-- **The books of the allocator**: along every run whose client writes leave
the bitmaps alone, counters, bits and live blocks agree, and every call does
what it promises. -/
theorem memory_bookkeeping (calls : List MemoryCall) (hcalls : ∀ call ∈ calls, call.OffBitmaps) :
    Always (total MemoryState.step)
      (fun s call reply s' => s'.Bookkept ∧ s.Promise call reply s') .init calls := by
  have hstep (s : MemoryState) (call : MemoryCall) (hs : ∃ ids, s.Keeps ids)
      (hcall : call.OffBitmaps) : ∃ reply s', total MemoryState.step s call = .ok (reply, s') ∧
        (s'.Bookkept ∧ s.Promise call reply s') ∧ ∃ ids, s'.Keeps ids := by
    obtain ⟨ids, h⟩ := hs
    have hkeeps : (∃ ids', (s.step call).2.Keeps ids') ∧
        s.Promise call (s.step call).1 (s.step call).2 := by
      cases call with
      | alloc size => exact h.step_alloc size
      | free ptr => exact h.step_free ptr
      | write addr value => exact h.step_write hcall value
    obtain ⟨⟨ids', h'⟩, hpromise⟩ := hkeeps
    exact ⟨_, _, rfl, ⟨h'.bookkept, hpromise⟩, ids', h'⟩
  exact always_of_invariant hstep ⟨[], MemoryState.keeps_init⟩ hcalls

/-- Two blocks of a pool, a write behind the bitmap, and one of them freed. -/
theorem memory_bookkeeping_two_blocks :
    Always (total MemoryState.step)
      (fun s call reply s' => s'.Bookkept ∧ s.Promise call reply s') .init
      [.alloc 32, .alloc 20, .write 10 7, .free 32] := by
  have hcalls : ∀ call ∈ [MemoryCall.alloc 32, .alloc 20, .write 10 7, .free 32],
      call.OffBitmaps := by
    have hoff : ∀ p, ¬ (poolLayout p).bitmap.Contains 10 := by decide
    simp only [List.forall_mem_cons, MemoryCall.OffBitmaps, true_and]
    exact ⟨hoff, by simp⟩
  exact memory_bookkeeping _ hcalls

end AutoMlos
