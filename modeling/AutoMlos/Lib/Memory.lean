import Mathlib.Logic.Function.Basic

/-!
# AutoMlos.Lib.Memory

Byte-addressed memory: regions of addresses, bitmaps that live in it, and
copies of bytes.

A bitmap is an array of bytes somewhere in memory whose bit `i` is bit
`i % 8` of byte `i / 8`.  Setting and clearing a bit are read-modify-write
operations on one byte; the lemmas say that they change that bit, no other
bit of the bitmap, and no byte elsewhere.  `bitCount` counts the set bits of a
bitmap; clearing a set bit and setting a clear one change it by one.
-/

namespace Lib

/-! ## regions -/

/-- The addresses `base, …, base + size - 1`. -/
structure Region where
  base : Nat
  size : Nat
  deriving DecidableEq, Repr

namespace Region

def Contains (r : Region) (a : Nat) : Prop := r.base ≤ a ∧ a < r.base + r.size

instance (r : Region) (a : Nat) : Decidable (r.Contains a) := inferInstanceAs (Decidable (_ ∧ _))

/-- No address is in both regions. -/
def Disjoint (r s : Region) : Prop := r.base + r.size ≤ s.base ∨ s.base + s.size ≤ r.base

instance (r s : Region) : Decidable (r.Disjoint s) := inferInstanceAs (Decidable (_ ∨ _))

theorem Disjoint.symm {r s : Region} (h : r.Disjoint s) : s.Disjoint r := Or.symm h

/-- Regions inside disjoint regions are disjoint. -/
theorem Disjoint.mono {r s r' s' : Region} (h : r.Disjoint s)
    (hr : r.base ≤ r'.base ∧ r'.base + r'.size ≤ r.base + r.size)
    (hs : s.base ≤ s'.base ∧ s'.base + s'.size ≤ s.base + s.size) : r'.Disjoint s' := by
  unfold Disjoint at *
  omega

theorem not_disjoint_of_contains {r s : Region} {a : Nat} (hr : r.Contains a) (hs : s.Contains a) :
    ¬ r.Disjoint s := by
  unfold Contains Disjoint at *
  omega

end Region

/-! ## bits of a byte -/

/-- The byte whose only set bit is bit `k`. -/
def bitMask (k : Nat) : UInt8 := 1 <<< UInt8.ofNat k

private theorem and_bitMask_ne_zero_aux : ∀ (b : BitVec 8) (k : Fin 8),
    UInt8.ofBitVec b &&& bitMask k ≠ 0 ↔ b.getLsbD k = true := by
  decide +kernel

private theorem getLsbD_bitMask_aux : ∀ j k : Fin 8,
    (bitMask j).toBitVec.getLsbD k = decide (j = k) := by
  decide +kernel

/-- Masking tests a bit. -/
theorem and_bitMask_ne_zero (b : UInt8) (h : k < 8) :
    b &&& bitMask k ≠ 0 ↔ b.toBitVec.getLsbD k = true :=
  and_bitMask_ne_zero_aux b.toBitVec ⟨k, h⟩

theorem getLsbD_bitMask (hj : j < 8) (hk : k < 8) :
    (bitMask j).toBitVec.getLsbD k = decide (j = k) := by
  simpa using getLsbD_bitMask_aux ⟨j, hj⟩ ⟨k, hk⟩

theorem or_bitMask_and_ne_zero (b : UInt8) (hj : j < 8) (hk : k < 8) :
    (b ||| bitMask j) &&& bitMask k ≠ 0 ↔ j = k ∨ b &&& bitMask k ≠ 0 := by
  rw [and_bitMask_ne_zero _ hk, and_bitMask_ne_zero _ hk, UInt8.toBitVec_or, BitVec.getLsbD_or,
    getLsbD_bitMask hj hk]
  simp [or_comm]

theorem and_not_bitMask_and_ne_zero (b : UInt8) (hj : j < 8) (hk : k < 8) :
    b &&& ~~~bitMask j &&& bitMask k ≠ 0 ↔ j ≠ k ∧ b &&& bitMask k ≠ 0 := by
  rw [and_bitMask_ne_zero _ hk, and_bitMask_ne_zero _ hk, UInt8.toBitVec_and, UInt8.toBitVec_not,
    BitVec.getLsbD_and, BitVec.getLsbD_not, getLsbD_bitMask hj hk]
  simp [hk, and_comm]

/-! ## bitmaps in memory -/

/-- Bit `i` of the bitmap at `base`. -/
def BitSet (mem : Nat → UInt8) (base i : Nat) : Prop := mem (base + i / 8) &&& bitMask (i % 8) ≠ 0

instance (mem : Nat → UInt8) (base i : Nat) : Decidable (BitSet mem base i) :=
  inferInstanceAs (Decidable (_ ≠ _))

/-- Set bit `i` of the bitmap at `base`. -/
def setBit (mem : Nat → UInt8) (base i : Nat) : Nat → UInt8 :=
  Function.update mem (base + i / 8) (mem (base + i / 8) ||| bitMask (i % 8))

/-- Clear bit `i` of the bitmap at `base`. -/
def clearBit (mem : Nat → UInt8) (base i : Nat) : Nat → UInt8 :=
  Function.update mem (base + i / 8) (mem (base + i / 8) &&& ~~~bitMask (i % 8))

variable {mem : Nat → UInt8} {base i j : Nat}

/-- A bit depends on its own byte only. -/
theorem bitSet_congr {mem' : Nat → UInt8} (h : mem' (base + i / 8) = mem (base + i / 8)) :
    BitSet mem' base i ↔ BitSet mem base i := by
  rw [BitSet, BitSet, h]

/-- Setting a bit sets it and no other. -/
theorem bitSet_setBit : BitSet (setBit mem base i) base j ↔ i = j ∨ BitSet mem base j := by
  by_cases hbyte : i / 8 = j / 8
  · have hij : i = j ↔ i % 8 = j % 8 := by omega
    rw [BitSet, BitSet, setBit, hbyte, Function.update_self, hij]
    exact or_bitMask_and_ne_zero _ (Nat.mod_lt i (by decide)) (Nat.mod_lt j (by decide))
  · have hne : base + j / 8 ≠ base + i / 8 := by omega
    have hij : i ≠ j := by rintro rfl; exact hbyte rfl
    rw [BitSet, BitSet, setBit, Function.update_of_ne hne]
    simp [hij]

/-- Clearing a bit clears it and no other. -/
theorem bitSet_clearBit : BitSet (clearBit mem base i) base j ↔ i ≠ j ∧ BitSet mem base j := by
  by_cases hbyte : i / 8 = j / 8
  · have hij : i = j ↔ i % 8 = j % 8 := by omega
    rw [BitSet, BitSet, clearBit, hbyte, Function.update_self, ne_eq i, hij]
    exact and_not_bitMask_and_ne_zero _ (Nat.mod_lt i (by decide)) (Nat.mod_lt j (by decide))
  · have hne : base + j / 8 ≠ base + i / 8 := by omega
    have hij : i ≠ j := by rintro rfl; exact hbyte rfl
    rw [BitSet, BitSet, clearBit, Function.update_of_ne hne]
    simp [hij]

/-- Setting a bit leaves every byte but its own. -/
theorem setBit_apply_of_ne {a : Nat} (h : a ≠ base + i / 8) : setBit mem base i a = mem a :=
  Function.update_of_ne h _ _

/-- Clearing a bit leaves every byte but its own. -/
theorem clearBit_apply_of_ne {a : Nat} (h : a ≠ base + i / 8) : clearBit mem base i a = mem a :=
  Function.update_of_ne h _ _

/-! ## counting the bits of a bitmap -/

/-- How many of the first `n` bits of the bitmap at `base` are set. -/
def bitCount (mem : Nat → UInt8) (base n : Nat) : Nat :=
  (List.range n).countP fun i => BitSet mem base i

section Count

variable {n : Nat}

theorem bitCount_succ :
    bitCount mem base (n + 1) = bitCount mem base n + if BitSet mem base n then 1 else 0 := by
  rw [bitCount, List.range_succ, List.countP_append, List.countP_singleton]
  simp only [bitCount, decide_eq_true_eq]

theorem bitCount_le : bitCount mem base n ≤ n := by
  have hle : bitCount mem base n ≤ (List.range n).length := List.countP_le_length
  rwa [List.length_range] at hle

/-- The count depends on the first `n` bits only. -/
theorem bitCount_congr {mem' : Nat → UInt8}
    (h : ∀ i < n, BitSet mem' base i ↔ BitSet mem base i) :
    bitCount mem' base n = bitCount mem base n := by
  refine List.countP_congr fun i hi => ?_
  simp only [decide_eq_true_eq]
  exact h i (List.mem_range.mp hi)

theorem bitCount_pos : 0 < bitCount mem base n ↔ ∃ i < n, BitSet mem base i := by
  simp [bitCount, List.countP_pos_iff]

/-- Clearing a set bit takes one off the count. -/
theorem bitCount_clearBit (hi : i < n) (hset : BitSet mem base i) :
    bitCount (clearBit mem base i) base n + 1 = bitCount mem base n := by
  induction n with
  | zero => omega
  | succ n ih =>
      rw [bitCount_succ, bitCount_succ]
      simp only [bitSet_clearBit]
      rcases Nat.lt_succ_iff_lt_or_eq.mp hi with hlt | rfl
      · simp only [ne_eq, Nat.ne_of_lt hlt, not_false_eq_true, true_and]
        have := ih hlt
        omega
      · have hbelow : bitCount (clearBit mem base i) base i = bitCount mem base i :=
          bitCount_congr fun j hj => by
            rw [bitSet_clearBit, and_iff_right (Nat.ne_of_gt hj)]
        simp [hbelow, hset]

/-- Setting a bit that is set leaves the count. -/
theorem bitCount_setBit_of_bitSet (hset : BitSet mem base i) :
    bitCount (setBit mem base i) base n = bitCount mem base n := by
  refine bitCount_congr fun j _ => ?_
  rw [bitSet_setBit]
  constructor
  · rintro (rfl | hj)
    · exact hset
    · exact hj
  · exact Or.inr

/-- Setting a clear bit adds one to the count. -/
theorem bitCount_setBit (hi : i < n) (hclear : ¬ BitSet mem base i) :
    bitCount (setBit mem base i) base n = bitCount mem base n + 1 := by
  have hback : bitCount (clearBit (setBit mem base i) base i) base n = bitCount mem base n := by
    refine bitCount_congr fun j _ => ?_
    rw [bitSet_clearBit, bitSet_setBit]
    constructor
    · rintro ⟨hne, hij | hj⟩
      · exact absurd hij hne
      · exact hj
    · intro hj
      have hne : i ≠ j := by rintro rfl; exact hclear hj
      exact ⟨hne, Or.inr hj⟩
  rw [← hback, bitCount_clearBit hi (bitSet_setBit.mpr (Or.inl rfl))]

end Count

/-! ## counters of bits -/

section Counter

variable {n m : UInt16}

/-- A counter below a bound counts up without wrapping. -/
theorem toNat_add_one_of_lt (h : n.toNat < m.toNat) : (n + 1).toNat = n.toNat + 1 := by
  have hlt := UInt16.toNat_lt m
  rw [UInt16.toNat_add, UInt16.toNat_one]
  omega

/-- A counter above 0 counts down without wrapping. -/
theorem toNat_sub_one_of_pos (h : 0 < n.toNat) : (n - 1).toNat = n.toNat - 1 := by
  have hlt := UInt16.toNat_lt n
  rw [UInt16.toNat_sub, UInt16.toNat_one]
  omega

end Counter

/-! ## copying bytes -/

/-- The `n` bytes from address `a` on. -/
def loadBytes (mem : Nat → UInt8) (a n : Nat) : List UInt8 :=
  (List.range n).map fun i => mem (a + i)

/-- Write bytes from address `a` on (`memcpy`). -/
def storeBytes (mem : Nat → UInt8) (a : Nat) (bs : List UInt8) : Nat → UInt8 :=
  fun x => if a ≤ x ∧ x < a + bs.length then bs.getD (x - a) 0 else mem x

section Copy

variable {a m n : Nat} {bs : List UInt8}

@[simp] theorem length_loadBytes : (loadBytes mem a n).length = n := by
  simp [loadBytes]

/-- Two adjacent loads are one. -/
theorem loadBytes_add : loadBytes mem a (m + n) = loadBytes mem a m ++ loadBytes mem (a + m) n := by
  simp only [loadBytes, List.range_add, List.map_append, List.map_map, Nat.add_assoc]
  rfl

theorem take_loadBytes (h : m ≤ n) : (loadBytes mem a n).take m = loadBytes mem a m := by
  obtain ⟨k, rfl⟩ := Nat.exists_eq_add_of_le h
  rw [loadBytes_add, List.take_left' length_loadBytes]

/-- What was stored is loaded back. -/
theorem loadBytes_storeBytes_self :
    loadBytes (storeBytes mem a bs) a bs.length = bs := by
  refine List.ext_getElem length_loadBytes fun i hi hi' => ?_
  rw [length_loadBytes] at hi
  simp [loadBytes, storeBytes, hi]

/-- What was copied is loaded back. -/
theorem loadBytes_storeBytes_loadBytes {src : Nat → UInt8} :
    loadBytes (storeBytes mem a (loadBytes src m n)) a n = loadBytes src m n := by
  have hback := @loadBytes_storeBytes_self mem a (loadBytes src m n)
  rwa [length_loadBytes] at hback

/-- A store leaves the bytes of every disjoint region. -/
theorem loadBytes_storeBytes_of_disjoint (h : Region.Disjoint ⟨a, n⟩ ⟨b, bs.length⟩) :
    loadBytes (storeBytes mem b bs) a n = loadBytes mem a n := by
  have hapart : a + n ≤ b ∨ b + bs.length ≤ a := h
  refine List.map_congr_left fun i hi => if_neg ?_
  rw [List.mem_range] at hi
  omega

/-- A store leaves the bytes below it. -/
theorem loadBytes_storeBytes_below (h : a + n ≤ b) :
    loadBytes (storeBytes mem b bs) a n = loadBytes mem a n :=
  loadBytes_storeBytes_of_disjoint (Or.inl h)

end Copy

end Lib
