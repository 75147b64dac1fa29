import AutoMlos.Lib.FirstFit
import AutoMlos.Lib.Run
import AutoMlos.Memory.Bookkeeping

/-!
# AutoMlos.Memory.FirstFit

The pool allocator as a first-fit allocator.

The eight pools, their bitmaps and their counters come to this: the blocks of
all pools are tried in order, and the first that is large enough and not live
is handed out.  The pools refine `Arena.step` on the set of live blocks
(`memory_refines_first_fit`), so the replies to further calls depend on the
blocks that are live and on nothing else of the history
(`memory_history_independent`).
-/

namespace AutoMlos

open Lib

/-! ## the arena -/

/-- The blocks of a pool, in order. -/
def poolBlocks (p : Fin 8) : List (Fin 8 × Nat) :=
  (List.range (poolLayout p).count).map fun k => (p, k)

/-- The blocks of the kernel heap. -/
def heapArena : Arena (Fin 8 × Nat) where
  blocks := (List.finRange 8).flatMap poolBlocks
  size id := (poolLayout id.1).size
  base id := (blockRegion id).base

/-- What a client action is to the allocator. -/
def MemoryCall.toHeapCall : MemoryCall → HeapCall
  | .alloc size => .alloc size
  | .free ptr => .free ptr
  | .write .. => .other

section FirstFit

variable {mem : KernelMemory} {live : Finset (Fin 8 × Nat)} {p : Fin 8} {size : Nat}

/-- In a pool whose blocks are large enough, the first fit is the first block
that is not live. -/
theorem firstFit_poolBlocks (hfits : size ≤ (poolLayout p).size) :
    heapArena.firstFit size live (poolBlocks p) =
      ((List.range (poolLayout p).count).find? fun k => (p, k) ∉ live).map fun k => (p, k) := by
  rw [Arena.firstFit, poolBlocks, List.find?_map]
  congr 2
  funext k
  simp [heapArena, hfits]

/-- A pool hands out its first block that is not live. -/
theorem memoryPoolAlloc_eq (h : mem.LaidOut) (hcounted : mem.Counted p)
    (havailable : ∀ k, mem.Available p k ↔ IsBlock (p, k) ∧ (p, k) ∉ live) :
    memoryPoolAlloc mem p =
      match (List.range (poolLayout p).count).find? fun k => (p, k) ∉ live with
      | none => (none, mem)
      | some k => (some (blockRegion (p, k)).base, mem.take p k) := by
  have hscan : (List.range (mem.pool p).blockCount.toNat).find?
      (fun i => mem.heap ((mem.pool p).freeByte i) &&& blockMask i ≠ 0) =
      (List.range (poolLayout p).count).find? fun k => (p, k) ∉ live := by
    rw [h.find_available, (h p).count]
    refine List.find?_congr fun k hk => ?_
    have hblock : IsBlock (p, k) := List.mem_range.mp hk
    have hbit : BitSet mem.heap (mem.pool p).freeList k ↔ (p, k) ∉ live := by
      have hiff := havailable k
      rw [KernelMemory.Available, (h p).count] at hiff
      exact ⟨fun hset => (hiff.mp ⟨hblock, hset⟩).2, fun hfree => (hiff.mpr ⟨hblock, hfree⟩).2⟩
    rw [decide_eq_decide.mpr hbit]
  cases hfind : (List.range (poolLayout p).count).find? fun k => (p, k) ∉ live with
  | none =>
      refine memoryPoolAlloc_of_full h fun k hk => ?_
      obtain ⟨hblock, hfree⟩ := (havailable k).mp hk
      exact List.find?_eq_none.mp hfind k (List.mem_range.mpr hblock) (decide_eq_true hfree)
  | some k =>
      have hblock : IsBlock (p, k) := List.mem_range.mp (List.mem_of_find?_eq_some hfind)
      have hfree : (p, k) ∉ live := by simpa using List.find?_some hfind
      have hcount : (mem.pool p).freeCount ≠ 0 := fun hzero =>
        hcounted.full_iff.mpr hzero k ((havailable k).mpr ⟨hblock, hfree⟩)
      simp only [memoryPoolAlloc, if_neg hcount, hscan, hfind, h.freeByte_eq' hblock]
      rw [← h.block_eq]
      rfl

/-- The loop over the pools is one search of their blocks. -/
theorem memoryAllocFrom_eq (h : mem.LaidOut) (hcounted : ∀ q, mem.Counted q)
    (havailable : ∀ q k, mem.Available q k ↔ IsBlock (q, k) ∧ (q, k) ∉ live) (ps : List (Fin 8)) :
    memoryAllocFrom size ps mem =
      match heapArena.firstFit size live (ps.flatMap poolBlocks) with
      | none => (none, mem)
      | some id => (some (blockRegion id).base, mem.take id.1 id.2) := by
  induction ps with
  | nil => rfl
  | cons p ps ih =>
      rw [memoryAllocFrom, List.flatMap_cons, Arena.firstFit_append, (h p).size]
      by_cases hfits : size ≤ (poolLayout p).size
      · rw [if_pos hfits, memoryPoolAlloc_eq h (hcounted p) (havailable p),
          firstFit_poolBlocks hfits]
        cases (List.range (poolLayout p).count).find? fun k => (p, k) ∉ live with
        | none => simpa using ih
        | some k => rfl
      · have hsmall : ∀ id ∈ poolBlocks p, heapArena.size id < size := by
          simpa [poolBlocks, heapArena] using fun _ _ => Nat.lt_of_not_le hfits
        rw [if_neg hfits, Arena.firstFit_of_small live hsmall, Option.none_or]
        exact ih

end FirstFit

/-! ## the simulation -/

/-- The books are kept, and these are the live blocks. -/
def MemoryState.Refines (s : MemoryState) (live : Finset (Fin 8 × Nat)) : Prop :=
  ∃ ids, s.Keeps ids ∧ live = ids.toFinset

section Simulation

variable {s : MemoryState} {live : Finset (Fin 8 × Nat)}

/-- The live regions settle which blocks are live. -/
theorem MemoryState.Keeps.mem_iff {ids : List (Fin 8 × Nat)} (h : s.Keeps ids) (id : Fin 8 × Nat) :
    id ∈ ids ↔ IsBlock id ∧ blockRegion id ∈ s.live := by
  rw [h.live]
  constructor
  · exact fun hid => ⟨h.isBlock id hid, List.mem_map_of_mem hid⟩
  · rintro ⟨hblock, hmem⟩
    obtain ⟨id', hid', heq⟩ := List.mem_map.mp hmem
    rwa [← blockRegion_base_injective (h.isBlock id' hid') hblock (congrArg Region.base heq)]

theorem MemoryState.Refines.alloc (h : s.Refines live) (size : Nat) :
    (s.step (.alloc size)).1 = (heapArena.step live (.alloc size)).1 ∧
      (s.step (.alloc size)).2.Refines (heapArena.step live (.alloc size)).2 := by
  obtain ⟨ids, hkeeps, rfl⟩ := h
  rcases Nat.eq_zero_or_pos size with rfl | hpos
  · have hnone : memoryAlloc s.memory 0 = (none, s.memory) := rfl
    simp only [MemoryState.step, hnone, Arena.step, if_true]
    exact ⟨trivial, ids, hkeeps, rfl⟩
  · have havailable (q : Fin 8) (k : Nat) :
        s.memory.Available q k ↔ IsBlock (q, k) ∧ (q, k) ∉ ids.toFinset := by
      rw [hkeeps.available, List.mem_toFinset]
    have halloc : memoryAlloc s.memory size =
        match heapArena.firstFit size ids.toFinset heapArena.blocks with
        | none => (none, s.memory)
        | some id => (some (blockRegion id).base, s.memory.take id.1 id.2) := by
      rw [memoryAlloc, if_neg (Nat.ne_of_gt hpos)]
      exact memoryAllocFrom_eq hkeeps.laidOut hkeeps.counted havailable _
    simp only [MemoryState.step, halloc, Arena.step, if_neg (Nat.ne_of_gt hpos)]
    cases hfit : heapArena.firstFit size ids.toFinset heapArena.blocks with
    | none => exact ⟨rfl, ids, hkeeps, rfl⟩
    | some id =>
        obtain ⟨p, k⟩ := id
        have hblock : IsBlock (p, k) := by
          have hmem := List.mem_of_find?_eq_some hfit
          simpa [heapArena, poolBlocks, IsBlock] using hmem
        have hfree : (p, k) ∉ ids.toFinset := by
          have hfound := List.find?_some hfit
          simp only [decide_eq_true_eq] at hfound
          exact hfound.2
        have hregion := (hkeeps.laidOut.take p k).blockAt_eq hblock
        refine ⟨rfl, (p, k) :: ids, ?_, List.toFinset_cons.symm⟩
        simp only [hregion]
        exact hkeeps.take ((havailable p k).mpr ⟨hblock, hfree⟩)

theorem MemoryState.Refines.free (h : s.Refines live) (ptr : Nat) :
    (s.step (.free ptr)).2.Refines (heapArena.step live (.free ptr)).2 := by
  obtain ⟨ids, hkeeps, rfl⟩ := h
  by_cases hlive : ptr ∈ s.live.map Region.base
  · obtain ⟨⟨p, k⟩, before, after, rfl, rfl, hlive'⟩ := MemoryState.exists_freed hkeeps.live hlive
    have hblock : IsBlock (p, k) := hkeeps.isBlock (p, k) (by simp)
    have hgive : memoryFree s.memory (some (blockRegion (p, k)).base) = s.memory.give p k :=
      memoryFree_eq_give hkeeps.laidOut hblock (block_contains_base p k)
    have hother : (p, k) ∉ before ++ after :=
      (List.nodup_cons.mp (List.nodup_middle.mp hkeeps.nodup)).1
    simp only [MemoryState.step, if_pos hlive, hgive, hlive', Arena.step]
    refine ⟨before ++ after, hkeeps.give, Finset.ext fun id => ?_⟩
    simp only [Finset.mem_filter, List.mem_toFinset]
    constructor
    · rintro ⟨hid, hne⟩
      have hsplit : id = (p, k) ∨ id ∈ before ++ after := by
        simpa [or_left_comm] using hid
      exact hsplit.resolve_left fun heq => hne (heq ▸ rfl)
    · intro hid
      have hid' : id ∈ before ++ (p, k) :: after := by
        simp only [List.mem_append, List.mem_cons] at hid ⊢
        tauto
      refine ⟨hid', fun hbase => hother ?_⟩
      rwa [← blockRegion_base_injective (hkeeps.isBlock id hid') hblock hbase]
  · simp only [MemoryState.step, if_neg hlive, Arena.step]
    refine ⟨ids, hkeeps, Finset.filter_true_of_mem fun id hid hbase => hlive ?_⟩
    rw [hkeeps.live, List.map_map]
    exact List.mem_map.mpr ⟨id, List.mem_toFinset.mp hid, hbase⟩

theorem MemoryState.Refines.write (h : s.Refines live) {addr : Nat}
    (hoff : ∀ p, ¬ (poolLayout p).bitmap.Contains addr) (value : UInt8) :
    (s.step (.write addr value)).2.Refines live := by
  obtain ⟨ids, hkeeps, rfl⟩ := h
  obtain ⟨⟨ids', hkeeps'⟩, -⟩ := hkeeps.step_write hoff value
  have hlive : (s.step (.write addr value)).2.live = s.live := by
    simp only [MemoryState.step]
    split <;> rfl
  refine ⟨ids', hkeeps', Finset.ext fun id => ?_⟩
  rw [List.mem_toFinset, List.mem_toFinset, hkeeps.mem_iff, hkeeps'.mem_iff, hlive]

/-- **One client action** on a state that refines a set of live blocks. -/
theorem MemoryState.Refines.step (s : MemoryState) (live : Finset (Fin 8 × Nat)) (call : MemoryCall)
    (h : s.Refines live) (hcall : call.OffBitmaps) :
    (s.step call).1 = (heapArena.step live call.toHeapCall).1 ∧
      (s.step call).2.Refines (heapArena.step live call.toHeapCall).2 := by
  cases call with
  | alloc size => exact h.alloc size
  | free ptr =>
      refine ⟨?_, h.free ptr⟩
      simp only [MemoryState.step]
      split <;> rfl
  | write addr value =>
      refine ⟨?_, h.write hcall value⟩
      simp only [MemoryState.step]
      split <;> rfl

end Simulation

theorem MemoryState.refines_init : MemoryState.init.Refines ∅ := ⟨[], MemoryState.keeps_init, rfl⟩

/-- **The pools are a first-fit allocator**: along every run of allocations, frees
of live pointers and client writes that leave the bitmaps alone, allocations
return the addresses that first fit over the blocks of all pools returns. -/
theorem memory_refines_first_fit (calls : List MemoryCall)
    (hcalls : ∀ call ∈ calls, call.OffBitmaps) :
    (mealy MemoryState.step .init calls).1 =
      (mealy heapArena.step ∅ (calls.map MemoryCall.toHeapCall)).1 :=
  (mealy_simulates MemoryState.Refines.step MemoryState.refines_init hcalls).1

/-- Allocations of all sizes, writes behind the bitmaps, and frees. -/
theorem memory_refines_first_fit_mixed :
    (mealy MemoryState.step .init [.alloc 24, .alloc 5000, .write 20 0, .alloc 200, .free 0,
        .alloc 1]).1 =
      (mealy heapArena.step ∅
        [.alloc 24, .alloc 5000, .other, .alloc 200, .free 0, .alloc 1]).1 := by
  refine memory_refines_first_fit _ ?_
  simp only [List.forall_mem_cons, MemoryCall.OffBitmaps]
  exact ⟨trivial, trivial, by decide, trivial, trivial, trivial, by simp⟩

section History

variable {done done' calls : List MemoryCall}

/-- **Nothing but the live blocks counts**: after two such runs that leave the same
blocks live, all further calls of this kind are answered alike.  So a client that
frees what it allocated leaves no trace. -/
theorem memory_history_independent (hdone : ∀ call ∈ done, call.OffBitmaps)
    (hdone' : ∀ call ∈ done', call.OffBitmaps) (hcalls : ∀ call ∈ calls, call.OffBitmaps)
    (hlive : ∀ b, b ∈ (mealy MemoryState.step .init done).2.live ↔
      b ∈ (mealy MemoryState.step .init done').2.live) :
    (mealy MemoryState.step (mealy MemoryState.step .init done).2 calls).1 =
      (mealy MemoryState.step (mealy MemoryState.step .init done').2 calls).1 := by
  obtain ⟨ids, hkeeps, hids⟩ :=
    (mealy_simulates MemoryState.Refines.step MemoryState.refines_init hdone).2
  obtain ⟨ids', hkeeps', hids'⟩ :=
    (mealy_simulates MemoryState.Refines.step MemoryState.refines_init hdone').2
  have hsame : ids.toFinset = ids'.toFinset := by
    ext id
    rw [List.mem_toFinset, List.mem_toFinset, hkeeps.mem_iff, hkeeps'.mem_iff, hlive]
  have hreplies := (mealy_simulates MemoryState.Refines.step ⟨ids, hkeeps, rfl⟩ hcalls).1
  have hreplies' := (mealy_simulates MemoryState.Refines.step ⟨ids', hkeeps', rfl⟩ hcalls).1
  rw [hreplies, hreplies', hsame]

/-- Two blocks that were allocated and freed in another order. -/
theorem memory_history_independent_freed :
    (mealy MemoryState.step (mealy MemoryState.step .init
        [.alloc 24, .alloc 32, .free 0, .free 32]).2 [.alloc 1, .alloc 4096]).1 =
      (mealy MemoryState.step (mealy MemoryState.step .init []).2 [.alloc 1, .alloc 4096]).1 := by
  have hlive : (mealy MemoryState.step .init [.alloc 24, .alloc 32, .free 0, .free 32]).2.live =
      [] := by
    decide +kernel
  refine memory_history_independent ?_ ?_ ?_ fun b => by rw [hlive]; exact Iff.rfl
  · simp [MemoryCall.OffBitmaps]
  · simp
  · simp [MemoryCall.OffBitmaps]

end History

end AutoMlos
