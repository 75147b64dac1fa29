import Mathlib.Data.Nat.ModEq

/-!
# AutoMlos.Lib.RingBuffer

A bounded ring buffer over an array of `n` slots, and the bounded queue it
implements.

`RingBuffer α n` carries the invariant that ties its three counters
together, so a ring whose write position is not `read + count` slots into
the cycle cannot be built.  `toList` is the queue a ring holds, oldest
element first.  The two operations are shown to be the queue operations:

* `toList_push` — writing an element is `enqueue`, which discards the oldest
  element of a full queue;
* `toList_pop` — advancing the read position removes the front element.
-/

namespace Lib

/-! ## the abstract queue -/

/-- Append to a queue that holds at most `cap` elements; a full queue loses
its oldest element. -/
def enqueue (cap : Nat) (q : List α) (x : α) : List α :=
  if q.length < cap then q ++ [x] else q.tail ++ [x]

theorem length_enqueue_le (hcap : 0 < cap) (hq : q.length ≤ cap) :
    (enqueue cap q x).length ≤ cap := by
  unfold enqueue
  split
  · rw [List.length_append, List.length_singleton]
    omega
  · rw [List.length_append, List.length_tail, List.length_singleton]
    omega

theorem enqueue_of_lt (h : q.length < cap) : enqueue cap q x = q ++ [x] := if_pos h

theorem enqueue_of_le (h : cap ≤ q.length) : enqueue cap q x = q.tail ++ [x] :=
  if_neg (Nat.not_lt.mpr h)

/-- Nothing is reordered or duplicated by a bounded queue. -/
theorem enqueue_sublist (cap : Nat) (q : List α) (x : α) :
    (enqueue cap q x).Sublist (q ++ [x]) := by
  unfold enqueue
  split
  · exact List.Sublist.refl _
  · exact (List.tail_sublist q).append_right [x]

/-! ## the ring -/

/-- `count` elements in the slots from `read` on, cyclically; the next
element is written at `write`. -/
structure RingBuffer (α : Type u) (n : Nat) where
  slots : Vector α n
  write : Nat
  read : Nat
  count : Nat
  read_lt : read < n
  count_le : count ≤ n
  write_eq : write = (read + count) % n

namespace RingBuffer

variable {α : Type u} {n : Nat}

theorem pos (b : RingBuffer α n) : 0 < n := Nat.lt_of_le_of_lt (Nat.zero_le _) b.read_lt

theorem write_lt (b : RingBuffer α n) : b.write < n := b.write_eq ▸ Nat.mod_lt _ b.pos

/-- The element `i` positions into the cycle of slots. -/
def slotAt (slots : Vector α n) (h : 0 < n) (i : Nat) : α :=
  have : i % n < n := Nat.mod_lt i h
  slots[i % n]

/-- The held elements, oldest first. -/
def toList (b : RingBuffer α n) : List α :=
  (List.range b.count).map fun k => slotAt b.slots b.pos (b.read + k)

@[simp] theorem length_toList (b : RingBuffer α n) : b.toList.length = b.count := by
  simp [toList]

/-- The ring without elements. -/
def empty (slots : Vector α n) (h : 0 < n) : RingBuffer α n where
  slots := slots
  write := 0
  read := 0
  count := 0
  read_lt := h
  count_le := Nat.zero_le n
  write_eq := by simp

/-- Write an element; a full ring overwrites its oldest one. -/
def push (b : RingBuffer α n) (x : α) : RingBuffer α n where
  slots := b.slots.set b.write x b.write_lt
  write := (b.write + 1) % n
  read := if b.count < n then b.read else (b.read + 1) % n
  count := if b.count < n then b.count + 1 else b.count
  read_lt := by
    split
    · exact b.read_lt
    · exact Nat.mod_lt _ b.pos
  count_le := by
    have hle := b.count_le
    split <;> omega
  write_eq := by
    have hle := b.count_le
    rw [b.write_eq, Nat.mod_add_mod]
    split
    · rw [Nat.add_assoc]
    · rw [Nat.mod_add_mod]
      congr 1
      omega

/-- The element at the read position. -/
def front (b : RingBuffer α n) : α :=
  have := b.read_lt
  b.slots[b.read]

/-- Remove the oldest element. -/
def pop (b : RingBuffer α n) (h : 0 < b.count) : RingBuffer α n where
  slots := b.slots
  write := b.write
  read := (b.read + 1) % n
  count := b.count - 1
  read_lt := Nat.mod_lt _ b.pos
  count_le := Nat.le_trans (Nat.sub_le _ _) b.count_le
  write_eq := by
    rw [b.write_eq, Nat.mod_add_mod]
    congr 1
    omega

/-- A 16-bit counter that is not zero goes down by one. -/
theorem toNat_sub_one_of_pos {count : UInt16} (h : 0 < count.toNat) :
    (count - 1).toNat = count.toNat - 1 := by
  have hone : (1 : UInt16) ≤ count := UInt16.le_iff_toNat_le.mpr h
  rw [UInt16.toNat_sub_of_le _ _ hone, UInt16.toNat_one]

/-! ## slots around the cycle -/

theorem slotAt_mod_add (slots : Vector α n) (h : 0 < n) (i k : Nat) :
    slotAt slots h (i % n + k) = slotAt slots h (i + k) := by
  simp only [slotAt, Nat.mod_add_mod]

/-- The slot that was written reads the new element. -/
theorem slotAt_set_self (slots : Vector α n) (h : 0 < n) (x : α) {i : Nat} (hw : w < n)
    (hi : i % n = w) : slotAt (slots.set w x hw) h i = x := by
  subst hi
  simp [slotAt]

/-- The other slots keep theirs. -/
theorem slotAt_set_ne (slots : Vector α n) (h : 0 < n) (x : α) {i : Nat} (hw : w < n)
    (hi : i % n ≠ w) : slotAt (slots.set w x hw) h i = slotAt slots h i := by
  simp [slotAt, hi.symm]

/-- Fewer than `n` steps apart, two positions of the cycle are different. -/
theorem mod_ne_of_lt {r k c n : Nat} (hk : k < c) (hc : c < n) : (r + k) % n ≠ (r + c) % n := by
  intro heq
  have hmod : k ≡ c [MOD n] := Nat.ModEq.add_left_cancel' r heq
  have := hmod.eq_of_lt_of_lt (Nat.lt_trans hk hc) hc
  omega

/-- The elements before the written slot are untouched by the write. -/
theorem map_slotAt_set (slots : Vector α n) (h : 0 < n) (x : α) {r c : Nat} (hc : c < n)
    (hw : w < n) (heq : (r + c) % n = w) :
    ((List.range c).map fun k => slotAt (slots.set w x hw) h (r + k)) =
      (List.range c).map fun k => slotAt slots h (r + k) := by
  apply List.map_congr_left
  intro k hk
  apply slotAt_set_ne
  rw [← heq]
  exact mod_ne_of_lt (List.mem_range.mp hk) hc

/-! ## the operations are the queue operations -/

/-- **Push is enqueue**: a ring with a free slot appends, a full one also
drops its oldest element. -/
theorem toList_push (b : RingBuffer α n) (x : α) : (b.push x).toList = enqueue n b.toList x := by
  by_cases hfull : b.count < n
  · rw [enqueue_of_lt (by simpa using hfull)]
    simp only [toList, push, if_pos hfull, List.range_succ, List.map_append, List.map_cons,
      List.map_nil]
    rw [map_slotAt_set b.slots b.pos x hfull b.write_lt b.write_eq.symm,
      slotAt_set_self b.slots b.pos x b.write_lt b.write_eq.symm]
  · have hcount : b.count = n := by have := b.count_le; omega
    obtain ⟨m, hm⟩ : ∃ m, b.count = m + 1 := ⟨b.count - 1, by have := b.pos; omega⟩
    have hwrite : (b.read + 1 + m) % n = b.write := by
      rw [b.write_eq, hm]
      congr 1
      omega
    rw [enqueue_of_le (by rw [length_toList]; omega)]
    have hnew : (b.push x).toList =
        ((List.range m).map fun k => slotAt b.slots b.pos (b.read + 1 + k)) ++ [x] := by
      simp only [toList, push, if_neg hfull, slotAt_mod_add]
      rw [hm, List.range_succ, List.map_append, List.map_cons, List.map_nil,
        map_slotAt_set b.slots b.pos x (by omega) b.write_lt hwrite,
        slotAt_set_self b.slots b.pos x b.write_lt hwrite]
    have hold : b.toList.tail =
        (List.range m).map fun k => slotAt b.slots b.pos (b.read + 1 + k) := by
      rw [toList, hm, List.range_succ_eq_map, List.map_cons, List.tail_cons, List.map_map]
      apply List.map_congr_left
      intro k _
      simp only [Function.comp_apply]
      congr 1
      omega
    rw [hnew, hold]

/-- **Pop is dequeue**: the element at the read position is the oldest one. -/
theorem toList_pop (b : RingBuffer α n) (h : 0 < b.count) :
    b.toList = b.front :: (b.pop h).toList := by
  obtain ⟨m, hm⟩ : ∃ m, b.count = m + 1 := ⟨b.count - 1, by omega⟩
  simp only [toList, pop, hm, Nat.add_sub_cancel, slotAt_mod_add]
  rw [List.range_succ_eq_map, List.map_cons, List.map_map]
  congr 1
  · simp only [slotAt, front, Nat.add_zero, Nat.mod_eq_of_lt b.read_lt]
  · apply List.map_congr_left
    intro k _
    simp only [Function.comp_apply]
    congr 1
    omega

end RingBuffer

end Lib
