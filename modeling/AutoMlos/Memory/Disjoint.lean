import AutoMlos.Lib.Run
import AutoMlos.Memory

/-!
# AutoMlos.Memory.Disjoint

Which blocks of the pool allocator overlap what.

The bitmap of a pool is the first bytes of the pool's first block.  The first
allocation that is served therefore returns a block that contains its own
bitmap (`memory_separated_iff`): blocks and bitmaps stay apart only in runs
that allocate nothing.  Apart from that the allocator is sound: as long as
no client write lands on a bitmap byte, live blocks are pairwise disjoint
(`live_disjoint_of_writes_off_bitmaps`).
-/

namespace AutoMlos

open Lib

/-! ## the layout of the pools -/

/-- Where a pool lies: its offset, block size and number of blocks. -/
structure PoolLayout where
  base : Nat
  size : Nat
  count : Nat

/-- The layout `memory_init` gives the eight pools. -/
def poolLayout : Fin 8 → PoolLayout
  | 0 => ⟨0, 32, 64⟩
  | 1 => ⟨2048, 64, 32⟩
  | 2 => ⟨4096, 128, 16⟩
  | 3 => ⟨6144, 256, 8⟩
  | 4 => ⟨8192, 512, 4⟩
  | 5 => ⟨10240, 1024, 2⟩
  | 6 => ⟨12288, 2048, 1⟩
  | 7 => ⟨14336, 4096, 1⟩

namespace PoolLayout

/-- All bytes of the pool. -/
def region (l : PoolLayout) : Region := ⟨l.base, l.size * l.count⟩

/-- The bytes of the pool's bitmap. -/
def bitmap (l : PoolLayout) : Region := ⟨l.base, (l.count + 7) / 8⟩

/-- The bytes of block `k`. -/
def block (l : PoolLayout) (k : Nat) : Region := ⟨l.base + k * l.size, l.size⟩

variable {l : PoolLayout} {j k : Nat}

theorem block_subset_region (hk : k < l.count) :
    l.region.base ≤ (l.block k).base ∧
      (l.block k).base + (l.block k).size ≤ l.region.base + l.region.size := by
  have hmul : (k + 1) * l.size ≤ l.count * l.size := Nat.mul_le_mul_right l.size hk
  rw [Nat.succ_mul, Nat.mul_comm l.count] at hmul
  simp only [block, region]
  omega

/-- The bytes of a block are bytes of its pool. -/
theorem region_contains {a : Nat} (hk : k < l.count) (h : (l.block k).Contains a) :
    l.region.Contains a := by
  have hsub := block_subset_region hk
  unfold Region.Contains at *
  omega

theorem block_disjoint_block_of_lt (h : j < k) : (l.block j).Disjoint (l.block k) := by
  have hmul : (j + 1) * l.size ≤ k * l.size := Nat.mul_le_mul_right l.size h
  rw [Nat.succ_mul] at hmul
  simp only [Region.Disjoint, block]
  omega

theorem block_disjoint_block (h : j ≠ k) : (l.block j).Disjoint (l.block k) := by
  rcases Nat.lt_or_gt_of_ne h with hlt | hgt
  · exact block_disjoint_block_of_lt hlt
  · exact (block_disjoint_block_of_lt hgt).symm

/-- Division by the block size recovers the block of an address. -/
theorem index_of_block_contains {a : Nat} (h : (l.block k).Contains a) :
    (a - l.base) / l.size = k := by
  obtain ⟨hlo, hhi⟩ := h
  simp only [block] at hlo hhi
  refine Nat.div_eq_of_lt_le (by omega) ?_
  rw [Nat.succ_mul]
  omega

/-- The bitmap byte of a block index is one of the bitmap. -/
theorem bitmap_contains (hk : k < l.count) : l.bitmap.Contains (l.base + k / 8) := by
  simp only [Region.Contains, bitmap]
  omega

end PoolLayout

theorem poolLayout_size_pos (p : Fin 8) : 0 < (poolLayout p).size := by decide +revert

theorem poolLayout_count_pos (p : Fin 8) : 0 < (poolLayout p).count := by decide +revert

theorem poolLayout_count_le (p : Fin 8) : (poolLayout p).count ≤ 64 := by decide +revert

theorem poolLayout_size_le (p : Fin 8) : (poolLayout p).size ≤ 4096 := by decide +revert

theorem block_contains_base (p : Fin 8) (k : Nat) :
    ((poolLayout p).block k).Contains ((poolLayout p).block k).base := by
  have hsize := poolLayout_size_pos p
  simp only [Region.Contains, PoolLayout.block]
  omega

/-- Different pools share no byte. -/
theorem region_disjoint_region {p q : Fin 8} (h : p ≠ q) :
    (poolLayout p).region.Disjoint (poolLayout q).region := by
  decide +revert

/-- Block `id.2` of pool `id.1`. -/
def blockRegion (id : Fin 8 × Nat) : Region := (poolLayout id.1).block id.2

/-- The block indices the pools have. -/
def IsBlock (id : Fin 8 × Nat) : Prop := id.2 < (poolLayout id.1).count

/-- Different blocks share no byte. -/
theorem blockRegion_disjoint {id id' : Fin 8 × Nat} (hid : IsBlock id) (hid' : IsBlock id')
    (h : id ≠ id') :
    (blockRegion id).Disjoint (blockRegion id') := by
  obtain ⟨p, j⟩ := id
  obtain ⟨q, k⟩ := id'
  by_cases hpq : p = q
  · subst hpq
    have hjk : j ≠ k := fun hjk => h (by rw [hjk])
    exact PoolLayout.block_disjoint_block hjk
  · exact (region_disjoint_region hpq).mono (PoolLayout.block_subset_region hid)
      (PoolLayout.block_subset_region hid')

/-- The pools of the allocator lie where `memory_init` put them, their
bitmaps in their own first bytes. -/
structure MemoryPool.HasLayout (pool : MemoryPool) (l : PoolLayout) : Prop where
  base : pool.baseAddress = l.base
  size : pool.blockSize = l.size
  count : pool.blockCount.toNat = l.count
  freeList : pool.freeList = l.base

def KernelMemory.LaidOut (mem : KernelMemory) : Prop :=
  ∀ p, (mem.pool p).HasLayout (poolLayout p)

section Layout

variable {mem : KernelMemory} {p : Fin 8} {k : Nat}

theorem MemoryPool.HasLayout.region_eq {pool : MemoryPool} {l : PoolLayout} (h : pool.HasLayout l) :
    pool.region = l.region := by
  rw [MemoryPool.region, h.base, h.size, h.count, PoolLayout.region]

theorem MemoryPool.HasLayout.bitmap_eq {pool : MemoryPool} {l : PoolLayout} (h : pool.HasLayout l) :
    pool.bitmap = l.bitmap := by
  rw [MemoryPool.bitmap, h.freeList, h.count, PoolLayout.bitmap]

/-- The free byte of a block is the bitmap byte of its index: the 8-bit byte
index does not wrap in a pool of at most 64 blocks. -/
theorem KernelMemory.LaidOut.freeByte_eq (h : mem.LaidOut) (hk : k < (poolLayout p).count) :
    (mem.pool p).freeByte k = (poolLayout p).base + k / 8 := by
  have hcount := poolLayout_count_le p
  rw [MemoryPool.freeByte, (h p).freeList, UInt8.toNat_ofNat', Nat.mod_eq_of_lt (by omega)]

theorem KernelMemory.LaidOut.freeByte_eq' (h : mem.LaidOut) (hk : k < (poolLayout p).count) :
    (mem.pool p).freeByte k = (mem.pool p).freeList + k / 8 := by
  rw [h.freeByte_eq hk, (h p).freeList]

/-- Updating the counters of a pool and the heap keeps the layout. -/
theorem KernelMemory.LaidOut.setPool (h : mem.LaidOut) {pool : MemoryPool}
    (hpool : pool.HasLayout (poolLayout p)) (heap : Nat → UInt8) :
    (mem.setPool p pool heap).LaidOut := by
  intro q
  by_cases hpq : p = q
  · subst hpq
    rw [KernelMemory.pool_setPool_self]
    exact hpool
  · rw [KernelMemory.pool_setPool_of_ne mem hpq]
    exact h q

/-- The pool that owns an address is the one whose bytes contain it. -/
theorem KernelMemory.LaidOut.owner_of_contains (h : mem.LaidOut) {a : Nat}
    (hp : (poolLayout p).region.Contains a) : mem.owner a = some p := by
  have hcontains (q : Fin 8) : (mem.pool q).region.Contains a ↔ p = q := by
    rw [(h q).region_eq]
    constructor
    · intro hq
      by_contra hpq
      exact Region.not_disjoint_of_contains hp hq (region_disjoint_region hpq)
    · rintro rfl
      exact hp
  have hfind (p : Fin 8) : (List.finRange 8).find? (fun q => decide (p = q)) = some p := by
    decide +revert
  simp only [KernelMemory.owner, hcontains, hfind]

/-- The pool that owns the address of a block is the block's own. -/
theorem KernelMemory.LaidOut.owner_block (h : mem.LaidOut) (hk : k < (poolLayout p).count) :
    mem.owner ((poolLayout p).block k).base = some p :=
  h.owner_of_contains (PoolLayout.region_contains hk (block_contains_base p k))

theorem KernelMemory.LaidOut.blockAt_eq (h : mem.LaidOut) (hk : k < (poolLayout p).count) :
    mem.blockAt (blockRegion (p, k)).base = blockRegion (p, k) := by
  simp only [KernelMemory.blockAt, blockRegion, h.owner_block hk, (h p).size]
  rfl

end Layout

/-! ## the bits of the blocks -/

/-- The bitmap bit of a block is set: its pool takes it for free. -/
def FreeBit (heap : Nat → UInt8) (id : Fin 8 × Nat) : Prop :=
  BitSet heap (poolLayout id.1).base id.2

section Bits

variable {heap : Nat → UInt8} {id id' : Fin 8 × Nat}

/-- Bitmaps of different pools share no byte. -/
theorem bitmapByte_ne (hid : IsBlock id) (hid' : IsBlock id') (h : id.1 ≠ id'.1) :
    (poolLayout id'.1).base + id'.2 / 8 ≠ (poolLayout id.1).base + id.2 / 8 := by
  have hbitmap (p : Fin 8) : (poolLayout p).bitmap.size ≤ (poolLayout p).region.size := by
    decide +revert
  have hdisj : (poolLayout id.1).bitmap.Disjoint (poolLayout id'.1).bitmap :=
    (region_disjoint_region h).mono
      ⟨Nat.le_refl _, Nat.add_le_add_left (hbitmap id.1) _⟩
      ⟨Nat.le_refl _, Nat.add_le_add_left (hbitmap id'.1) _⟩
  intro heq
  have hcontains := PoolLayout.bitmap_contains hid
  rw [← heq] at hcontains
  exact Region.not_disjoint_of_contains hcontains (PoolLayout.bitmap_contains hid') hdisj

/-- Clearing the bit of a block changes no other block's. -/
theorem freeBit_clearBit (hid : IsBlock id) (hid' : IsBlock id') :
    FreeBit (clearBit heap (poolLayout id.1).base id.2) id' ↔ id ≠ id' ∧ FreeBit heap id' := by
  by_cases hp : id.1 = id'.1
  · rw [FreeBit, hp, bitSet_clearBit, ne_eq, ne_eq, Prod.ext_iff, and_iff_right hp]
    rfl
  · have hne : id ≠ id' := fun heq => hp (heq ▸ rfl)
    rw [FreeBit, bitSet_congr (clearBit_apply_of_ne (bitmapByte_ne hid hid' hp)),
      and_iff_right hne]
    rfl

/-- Setting the bit of a block changes no other block's. -/
theorem freeBit_setBit (hid : IsBlock id) (hid' : IsBlock id') :
    FreeBit (setBit heap (poolLayout id.1).base id.2) id' ↔ id = id' ∨ FreeBit heap id' := by
  by_cases hp : id.1 = id'.1
  · rw [FreeBit, hp, bitSet_setBit, Prod.ext_iff, and_iff_right hp]
    rfl
  · have hne : id ≠ id' := fun heq => hp (heq ▸ rfl)
    rw [FreeBit, bitSet_congr (setBit_apply_of_ne (bitmapByte_ne hid hid' hp)), or_iff_right hne]
    rfl

end Bits

/-! ## handing out and taking back a block -/

/-- Hand out block `k` of pool `p`. -/
def KernelMemory.take (mem : KernelMemory) (p : Fin 8) (k : Nat) : KernelMemory :=
  mem.setPool p
    { mem.pool p with
      freeCount := (mem.pool p).freeCount - 1
      allocationCount := (mem.pool p).allocationCount + 1 }
    (clearBit mem.heap (mem.pool p).freeList k)

/-- Take block `k` of pool `p` back. -/
def KernelMemory.give (mem : KernelMemory) (p : Fin 8) (k : Nat) : KernelMemory :=
  mem.setPool p
    { mem.pool p with
      freeCount := (mem.pool p).freeCount + 1
      allocationCount := (mem.pool p).allocationCount - 1 }
    (setBit mem.heap (mem.pool p).freeList k)

theorem KernelMemory.LaidOut.take {mem : KernelMemory} (h : mem.LaidOut) (p : Fin 8) (k : Nat) :
    (mem.take p k).LaidOut := by
  refine h.setPool ?_ _
  exact ⟨(h p).base, (h p).size, (h p).count, (h p).freeList⟩

theorem KernelMemory.LaidOut.give {mem : KernelMemory} (h : mem.LaidOut) (p : Fin 8) (k : Nat) :
    (mem.give p k).LaidOut := by
  refine h.setPool ?_ _
  exact ⟨(h p).base, (h p).size, (h p).count, (h p).freeList⟩

/-! ## what the operations do -/

section Operations

variable {mem : KernelMemory}

/-- A pool allocation fails and changes nothing, or returns a block whose
bit was set and clears that bit. -/
theorem memoryPoolAlloc_cases (h : mem.LaidOut) (p : Fin 8) :
    memoryPoolAlloc mem p = (none, mem) ∨
      ∃ k mem', memoryPoolAlloc mem p = (some (blockRegion (p, k)).base, mem') ∧
        IsBlock (p, k) ∧ FreeBit mem.heap (p, k) ∧
        mem'.heap = clearBit mem.heap (poolLayout p).base k ∧ mem'.LaidOut := by
  have hl := h p
  unfold memoryPoolAlloc
  by_cases hfree : (mem.pool p).freeCount = 0
  · exact Or.inl (if_pos hfree)
  · rw [if_neg hfree]
    cases hfind : (List.range (mem.pool p).blockCount.toNat).find?
        fun i => mem.heap ((mem.pool p).freeByte i) &&& blockMask i ≠ 0 with
    | none => exact Or.inl rfl
    | some k =>
        obtain ⟨hbit, hmem, -⟩ := List.find?_range_eq_some.mp hfind
        have hk : k < (poolLayout p).count := by rwa [List.mem_range, hl.count] at hmem
        rw [h.freeByte_eq hk, decide_eq_true_eq] at hbit
        have hptr : (mem.pool p).baseAddress + k * (mem.pool p).blockSize =
            (blockRegion (p, k)).base := by
          rw [hl.base, hl.size]
          rfl
        refine Or.inr ⟨k, _, Prod.ext (congrArg some hptr) rfl, hk, hbit, ?_, ?_⟩
        · rw [KernelMemory.heap_setPool, h.freeByte_eq hk]
          rfl
        · refine h.setPool ?_ _
          exact ⟨hl.base, hl.size, hl.count, hl.freeList⟩

/-- An allocation fails and changes nothing, or is served by some pool. -/
theorem memoryAllocFrom_cases (h : mem.LaidOut) (size : Nat) (ps : List (Fin 8)) :
    memoryAllocFrom size ps mem = (none, mem) ∨
      ∃ id mem', memoryAllocFrom size ps mem = (some (blockRegion id).base, mem') ∧
        IsBlock id ∧ FreeBit mem.heap id ∧
        mem'.heap = clearBit mem.heap (poolLayout id.1).base id.2 ∧ mem'.LaidOut := by
  induction ps with
  | nil => exact Or.inl rfl
  | cons p ps ih =>
      rw [memoryAllocFrom]
      split
      · rcases memoryPoolAlloc_cases h p with hnone | ⟨k, mem', hsome, hrest⟩
        · rw [hnone]
          exact ih
        · rw [hsome]
          exact Or.inr ⟨(p, k), mem', rfl, hrest⟩
      · exact ih

theorem memoryAlloc_cases (h : mem.LaidOut) (size : Nat) :
    memoryAlloc mem size = (none, mem) ∨
      ∃ id mem', memoryAlloc mem size = (some (blockRegion id).base, mem') ∧
        IsBlock id ∧ FreeBit mem.heap id ∧
        mem'.heap = clearBit mem.heap (poolLayout id.1).base id.2 ∧ mem'.LaidOut := by
  rw [memoryAlloc]
  split
  · exact Or.inl rfl
  · exact memoryAllocFrom_cases h size _

/-- A request above every block size is not served. -/
theorem memoryAlloc_of_small (h : ∀ p, (mem.pool p).blockSize ≤ 4096) (hsize : 4096 < size) :
    memoryAlloc mem size = (none, mem) := by
  have hfrom (ps : List (Fin 8)) : memoryAllocFrom size ps mem = (none, mem) := by
    induction ps with
    | nil => rfl
    | cons p ps ih =>
        have hle := h p
        rw [memoryAllocFrom, if_neg (by omega), ih]
  rw [memoryAlloc, if_neg (by omega), hfrom]

/-- No pool serves a request above 4096 bytes. -/
theorem memoryAlloc_of_large (h : mem.LaidOut) (hsize : 4096 < size) :
    memoryAlloc mem size = (none, mem) :=
  memoryAlloc_of_small (fun p => (h p).size ▸ poolLayout_size_le p) hsize

/-- **Free**: a pointer into a block gives that block back. -/
theorem memoryFree_eq_give (h : mem.LaidOut) {p : Fin 8} {k ptr : Nat} (hk : IsBlock (p, k))
    (hptr : (blockRegion (p, k)).Contains ptr) : memoryFree mem (some ptr) = mem.give p k := by
  have hcount := poolLayout_count_le p
  have howner : mem.owner ptr = some p := h.owner_of_contains (PoolLayout.region_contains hk hptr)
  have hindex : (ptr - (mem.pool p).baseAddress) / (mem.pool p).blockSize = k := by
    rw [(h p).base, (h p).size]
    exact PoolLayout.index_of_block_contains hptr
  have hk16 : (UInt16.ofNat k).toNat = k := by
    have hlt : k < 64 := Nat.lt_of_lt_of_le hk hcount
    rw [UInt16.toNat_ofNat']
    omega
  have hlt : UInt16.ofNat k < (mem.pool p).blockCount := by
    rw [UInt16.lt_iff_toNat_lt, hk16, (h p).count]
    exact hk
  simp only [memoryFree, howner, memoryPoolFree, hindex, if_pos hlt, hk16, h.freeByte_eq' hk]
  rfl

/-- Freeing a block sets its bit. -/
theorem memoryFree_block (h : mem.LaidOut) {id : Fin 8 × Nat} (hid : IsBlock id) :
    (memoryFree mem (some (blockRegion id).base)).heap =
        setBit mem.heap (poolLayout id.1).base id.2 ∧
      (memoryFree mem (some (blockRegion id).base)).LaidOut := by
  have hgive : memoryFree mem (some (blockRegion id).base) = mem.give id.1 id.2 :=
    memoryFree_eq_give h hid (block_contains_base id.1 id.2)
  rw [hgive, KernelMemory.give, KernelMemory.heap_setPool, (h id.1).freeList]
  exact ⟨rfl, h.give id.1 id.2⟩

end Operations

/-! ## live blocks -/

/-- The live blocks are the blocks with these different indices, and their
bits are clear. -/
structure MemoryState.Owns (s : MemoryState) (ids : List (Fin 8 × Nat)) : Prop where
  laidOut : s.memory.LaidOut
  live : s.live = ids.map blockRegion
  nodup : ids.Nodup
  isBlock : ∀ id ∈ ids, IsBlock id
  used : ∀ id ∈ ids, ¬ FreeBit s.memory.heap id

theorem MemoryState.Owns.pairwise_disjoint {s : MemoryState} {ids : List (Fin 8 × Nat)}
    (h : s.Owns ids) : s.live.Pairwise Region.Disjoint := by
  rw [h.live, List.pairwise_map]
  exact h.nodup.imp_of_mem fun hid hid' hne =>
    blockRegion_disjoint (h.isBlock _ hid) (h.isBlock _ hid') hne

/-- A call whose writes leave the bitmaps alone. -/
def MemoryCall.OffBitmaps : MemoryCall → Prop
  | .write addr _ => ∀ p, ¬ (poolLayout p).bitmap.Contains addr
  | _ => True

section Steps

variable {s : MemoryState} {ids : List (Fin 8 × Nat)}

theorem MemoryState.Owns.step_alloc (h : s.Owns ids) (size : Nat) :
    ∃ ids', (s.step (.alloc size)).2.Owns ids' := by
  rcases memoryAlloc_cases h.laidOut size with
    hnone | ⟨new, mem', hsome, hnew, hfree, hheap, hlaid⟩
  · refine ⟨ids, ?_⟩
    simp only [MemoryState.step, hnone]
    exact h
  · -- the block's bit was set, so it is not one of the live ones
    have hfresh : new ∉ ids := fun hmem => h.used new hmem hfree
    refine ⟨new :: ids, ?_⟩
    simp only [MemoryState.step, hsome]
    refine
      { laidOut := hlaid
        live := by simp only [hlaid.blockAt_eq hnew, h.live, List.map_cons]
        nodup := List.nodup_cons.mpr ⟨hfresh, h.nodup⟩
        isBlock := List.forall_mem_cons.mpr ⟨hnew, h.isBlock⟩
        used := ?_ }
    rw [hheap, List.forall_mem_cons]
    constructor
    · rw [freeBit_clearBit hnew hnew]
      exact fun hbit => hbit.1 rfl
    · intro id hmem
      rw [freeBit_clearBit hnew (h.isBlock id hmem)]
      exact fun hbit => h.used id hmem hbit.2

/-- A live pointer is the base of a block, and freeing it takes that block out. -/
theorem MemoryState.exists_freed (hlive : s.live = ids.map blockRegion) {ptr : Nat}
    (hptr : ptr ∈ s.live.map Region.base) :
    ∃ freed before after, ids = before ++ freed :: after ∧ (blockRegion freed).base = ptr ∧
      (s.live.eraseP fun block => block.base = ptr) = (before ++ after).map blockRegion := by
  have hexists : ∃ id ∈ ids,
      ((fun block => decide (block.base = ptr)) ∘ blockRegion) id = true := by
    simpa [hlive] using hptr
  obtain ⟨id, hid, hbase⟩ := hexists
  obtain ⟨freed, before, after, -, hfreed, hids, herase⟩ := List.exists_of_eraseP hid hbase
  refine ⟨freed, before, after, hids, of_decide_eq_true hfreed, ?_⟩
  rw [hlive, List.eraseP_map, herase]

theorem MemoryState.Owns.step_free (h : s.Owns ids) (ptr : Nat) :
    ∃ ids', (s.step (.free ptr)).2.Owns ids' := by
  by_cases hlive : ptr ∈ s.live.map Region.base
  · obtain ⟨freed, before, after, hids, hptr, herase⟩ := MemoryState.exists_freed h.live hlive
    have hisBlock : IsBlock freed := h.isBlock freed (by simp [hids])
    obtain ⟨hheap, hlaid⟩ := memoryFree_block h.laidOut hisBlock
    rw [hptr] at hheap hlaid
    have hsub : (before ++ after).Sublist ids := by
      rw [hids]
      exact (List.sublist_cons_self freed after).append_left before
    have hother : freed ∉ before ++ after := by
      have hnodup := h.nodup
      rw [hids, List.nodup_middle, List.nodup_cons] at hnodup
      exact hnodup.1
    refine ⟨before ++ after, ?_⟩
    rw [MemoryState.step, if_pos hlive]
    refine
      { laidOut := hlaid
        live := herase
        nodup := h.nodup.sublist hsub
        isBlock := fun id hmem => h.isBlock id (hsub.subset hmem)
        used := ?_ }
    intro id hmem
    rw [hheap, freeBit_setBit hisBlock (h.isBlock id (hsub.subset hmem))]
    rintro (rfl | hbit)
    · exact hother hmem
    · exact h.used id (hsub.subset hmem) hbit
  · refine ⟨ids, ?_⟩
    simp only [MemoryState.step, if_neg hlive]
    exact h

theorem MemoryState.Owns.step_write (h : s.Owns ids) {addr : Nat}
    (hoff : ∀ p, ¬ (poolLayout p).bitmap.Contains addr) (value : UInt8) :
    ∃ ids', (s.step (.write addr value)).2.Owns ids' := by
  refine ⟨ids, ?_⟩
  by_cases hlive : ∃ block ∈ s.live, block.Contains addr
  · simp only [MemoryState.step, if_pos hlive]
    refine
      { laidOut := h.laidOut, live := h.live, nodup := h.nodup, isBlock := h.isBlock, used := ?_ }
    intro id hmem
    have hne : (poolLayout id.1).base + id.2 / 8 ≠ addr := by
      rintro rfl
      exact hoff id.1 (PoolLayout.bitmap_contains (h.isBlock id hmem))
    rw [FreeBit, bitSet_congr (Function.update_of_ne hne value s.memory.heap)]
    exact h.used id hmem
  · simp only [MemoryState.step, if_neg hlive]
    exact h

end Steps

theorem MemoryState.laidOut_init : MemoryState.init.memory.LaidOut := by
  have hlayout (p : Fin 8) :
      let pool := MemoryState.init.memory.pool p
      pool.baseAddress = (poolLayout p).base ∧ pool.blockSize = (poolLayout p).size ∧
        pool.blockCount.toNat = (poolLayout p).count ∧ pool.freeList = (poolLayout p).base := by
    decide +revert
  exact fun p => ⟨(hlayout p).1, (hlayout p).2.1, (hlayout p).2.2.1, (hlayout p).2.2.2⟩

theorem MemoryState.owns_init : MemoryState.init.Owns [] where
  laidOut := laidOut_init
  live := rfl
  nodup := List.nodup_nil
  isBlock := by simp
  used := by simp

/-- **Sound but for its bitmaps**: along every run whose client writes leave
the bitmap bytes alone, the live blocks are pairwise disjoint. -/
theorem live_disjoint_of_writes_off_bitmaps (calls : List MemoryCall)
    (hcalls : ∀ call ∈ calls, call.OffBitmaps) :
    Always (total MemoryState.step) (fun _ _ _ s' => s'.live.Pairwise Region.Disjoint) .init
      calls := by
  have hstep (s : MemoryState) (call : MemoryCall) (hs : ∃ ids, s.Owns ids)
      (hcall : call.OffBitmaps) : ∃ reply s', total MemoryState.step s call = .ok (reply, s') ∧
        s'.live.Pairwise Region.Disjoint ∧ ∃ ids, s'.Owns ids := by
    obtain ⟨ids, h⟩ := hs
    have howns : ∃ ids', (s.step call).2.Owns ids' := by
      cases call with
      | alloc size => exact h.step_alloc size
      | free ptr => exact h.step_free ptr
      | write addr value => exact h.step_write hcall value
    obtain ⟨ids', h'⟩ := howns
    exact ⟨_, _, rfl, h'.pairwise_disjoint, ids', h'⟩
  exact always_of_invariant hstep ⟨[], MemoryState.owns_init⟩ hcalls

/-! ## blocks and bitmaps -/

/-- No live block overlaps the bitmap of a pool, and no two of them overlap. -/
def MemoryState.Separated (s : MemoryState) : Prop :=
  (∀ block ∈ s.live, ∀ p, block.Disjoint (s.memory.pool p).bitmap) ∧
    s.live.Pairwise Region.Disjoint

/-- The call is not an allocation that a pool can serve. -/
def MemoryCall.Unserved : MemoryCall → Prop
  | .alloc size => size = 0 ∨ 4096 < size
  | _ => True

/-- No block of any pool was handed out. -/
structure KernelMemory.Fresh (mem : KernelMemory) : Prop where
  laidOut : mem.LaidOut
  freeCount : ∀ p, (mem.pool p).freeCount ≠ 0
  freeBit : ∀ p, FreeBit mem.heap (p, 0)

theorem isBlock_zero (p : Fin 8) : IsBlock (p, 0) := poolLayout_count_pos p

section Fresh

variable {mem : KernelMemory}

theorem memoryPoolAlloc_of_fresh (h : mem.Fresh) (p : Fin 8) :
    ∃ mem', memoryPoolAlloc mem p = (some (blockRegion (p, 0)).base, mem') ∧ mem'.LaidOut := by
  have hl := h.laidOut p
  have hbit := h.freeBit p
  have hfind : (List.range (mem.pool p).blockCount.toNat).find?
      (fun i => mem.heap ((mem.pool p).freeByte i) &&& blockMask i ≠ 0) = some 0 := by
    rw [List.find?_range_eq_some, h.laidOut.freeByte_eq (isBlock_zero p), decide_eq_true_eq,
      List.mem_range, hl.count]
    exact ⟨hbit, isBlock_zero p, fun j hj => absurd hj (Nat.not_lt_zero j)⟩
  have hptr : (mem.pool p).baseAddress + 0 * (mem.pool p).blockSize =
      (blockRegion (p, 0)).base := by
    rw [hl.base, hl.size]
    rfl
  simp only [memoryPoolAlloc, if_neg (h.freeCount p), hfind, hptr]
  refine ⟨_, rfl, h.laidOut.setPool ?_ _⟩
  exact ⟨hl.base, hl.size, hl.count, hl.freeList⟩

theorem memoryAllocFrom_of_fresh (h : mem.Fresh) (size : Nat) (ps : List (Fin 8))
    (hfits : ∃ p ∈ ps, size ≤ (poolLayout p).size) :
    ∃ p mem', memoryAllocFrom size ps mem = (some (blockRegion (p, 0)).base, mem') ∧
      mem'.LaidOut := by
  induction ps with
  | nil => simp at hfits
  | cons p ps ih =>
      rw [memoryAllocFrom, (h.laidOut p).size]
      by_cases hp : size ≤ (poolLayout p).size
      · obtain ⟨mem', hsome, hlaid⟩ := memoryPoolAlloc_of_fresh h p
        rw [if_pos hp, hsome]
        exact ⟨p, mem', rfl, hlaid⟩
      · rw [if_neg hp]
        obtain ⟨q, hq, hfit⟩ := hfits
        rcases List.mem_cons.mp hq with rfl | hq
        · exact absurd hfit hp
        · exact ih ⟨q, hq, hfit⟩

/-- On fresh pools every request between 1 and 4096 bytes is served with the
first block of some pool. -/
theorem memoryAlloc_of_fresh (h : mem.Fresh) (hpos : 0 < size) (hle : size ≤ 4096) :
    ∃ p mem', memoryAlloc mem size = (some (blockRegion (p, 0)).base, mem') ∧ mem'.LaidOut := by
  rw [memoryAlloc, if_neg (Nat.ne_of_gt hpos)]
  exact memoryAllocFrom_of_fresh h size _ ⟨7, List.mem_finRange 7, hle⟩

end Fresh

theorem MemoryState.fresh_init : MemoryState.init.memory.Fresh where
  laidOut := laidOut_init
  freeCount := by decide
  freeBit := by
    have hbit (p : Fin 8) : BitSet MemoryState.init.memory.heap (poolLayout p).base 0 := by
      decide +revert
    exact hbit

/-- A live first block of a pool overlaps the pool's bitmap. -/
theorem MemoryState.not_separated_of_first_block {s : MemoryState} (h : s.memory.LaidOut)
    {p : Fin 8} (hlive : blockRegion (p, 0) ∈ s.live) : ¬ s.Separated := by
  rintro ⟨hbitmap, -⟩
  have hdisj := hbitmap _ hlive p
  rw [(h p).bitmap_eq] at hdisj
  have hblock : (blockRegion (p, 0)).Contains (poolLayout p).base := by
    have hsize := poolLayout_size_pos p
    simp only [blockRegion, PoolLayout.block, Region.Contains]
    omega
  have hbyte : (poolLayout p).bitmap.Contains (poolLayout p).base := by
    simpa using PoolLayout.bitmap_contains (isBlock_zero p)
  exact Region.not_disjoint_of_contains hblock hbyte hdisj

/-- An action that no pool serves changes nothing: there is no live block to
free or to write. -/
theorem MemoryState.step_init_of_unserved {call : MemoryCall} (h : call.Unserved) :
    (MemoryState.init.step call).2 = .init := by
  cases call with
  | alloc size =>
      have hnone : memoryAlloc MemoryState.init.memory size = (none, MemoryState.init.memory) := by
        rcases h with hzero | hlarge
        · rw [memoryAlloc, if_pos hzero]
        · exact memoryAlloc_of_large laidOut_init hlarge
      simp only [MemoryState.step, hnone]
  | free ptr => simp [MemoryState.step, init]
  | write addr value => simp [MemoryState.step, init]

/-- The first allocation that is served returns a block with a bitmap in it. -/
theorem MemoryState.not_separated_of_served (hpos : 0 < size) (hle : size ≤ 4096) :
    ¬ (MemoryState.init.step (.alloc size)).2.Separated := by
  obtain ⟨p, mem', hsome, hlaid⟩ := memoryAlloc_of_fresh MemoryState.fresh_init hpos hle
  simp only [MemoryState.step, hsome, hlaid.blockAt_eq (isBlock_zero p)]
  exact not_separated_of_first_block hlaid List.mem_cons_self

/-- **One action on fresh pools** keeps blocks and bitmaps apart exactly when
it is not an allocation that is served. -/
theorem MemoryState.separated_step_init_iff (call : MemoryCall) :
    (MemoryState.init.step call).2.Separated ↔ call.Unserved := by
  have hinit : MemoryState.init.Separated := ⟨by simp [init], List.Pairwise.nil⟩
  constructor
  · intro hsep
    cases call with
    | alloc size =>
        by_contra hserved
        have hbounds : 0 < size ∧ size ≤ 4096 := by
          simp only [MemoryCall.Unserved] at hserved
          omega
        exact not_separated_of_served hbounds.1 hbounds.2 hsep
    | free ptr => trivial
    | write addr value => trivial
  · intro h
    rwa [step_init_of_unserved h]

/-- **Blocks and bitmaps**: along a run the live blocks stay clear of the
bitmaps and of each other exactly when no allocation of the run is served. -/
theorem memory_separated_iff (calls : List MemoryCall) :
    Always (total MemoryState.step) (fun _ _ _ s' => s'.Separated) .init calls ↔
      ∀ call ∈ calls, call.Unserved := by
  have hstep (s : MemoryState) (call : MemoryCall) (hs : s = .init) :
      ∃ reply s', total MemoryState.step s call = .ok (reply, s') ∧
        (s'.Separated ↔ call.Unserved) ∧ (s'.Separated → s' = .init) := by
    subst hs
    have hsep := MemoryState.separated_step_init_iff call
    exact ⟨_, _, rfl, hsep, fun h => MemoryState.step_init_of_unserved (hsep.mp h)⟩
  rw [always_iff_always hstep rfl calls, always_total_iff_forall]

/-- A client that writes the block it got puts the block's bit back: the next
allocation returns the same block. -/
theorem memory_not_always_separated :
    (mealy MemoryState.step .init [.alloc 32, .write 0 0xFF, .alloc 32]).2.live =
        [⟨0, 32⟩, ⟨0, 32⟩] ∧
      ¬ ∀ calls : List MemoryCall,
        Always (total MemoryState.step) (fun _ _ _ s' => s'.Separated) .init calls := by
  refine ⟨by decide +kernel, fun h => ?_⟩
  have hsep := (always_total_cons.mp (h [.alloc 32])).1
  exact MemoryState.not_separated_of_served (by decide) (by decide) hsep

end AutoMlos
