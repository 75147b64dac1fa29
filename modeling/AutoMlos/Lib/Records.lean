import Mathlib.Data.List.Basic

/-!
# AutoMlos.Lib.Records

A list cut into records of a fixed size.

The records of a list are its first pieces of that size; what is left over at
the end belongs to none.  Writing records of the size one after another and
cutting the result gives them back, and a change within one record changes
no other.
-/

namespace Lib

variable {α β : Type}

/-- The `i`-th piece of size `k`. -/
def recordAt (k i : Nat) (xs : List α) : List α := (xs.drop (k * i)).take k

/-- The consecutive records of size `k`. -/
def records (k : Nat) (xs : List α) : List (List α) :=
  (List.range (xs.length / k)).map fun i => recordAt k i xs

@[simp] theorem length_records (k : Nat) (xs : List α) :
    (records k xs).length = xs.length / k := by
  simp [records]

/-- A record has its size. -/
theorem length_of_mem_records {k : Nat} {xs r : List α} (h : r ∈ records k xs) : r.length = k := by
  obtain ⟨i, hi, rfl⟩ := List.mem_map.mp h
  have hfits : k * (i + 1) ≤ xs.length :=
    Nat.le_trans (Nat.mul_le_mul_left k (List.mem_range.mp hi)) (Nat.mul_div_le xs.length k)
  rw [Nat.mul_succ] at hfits
  rw [recordAt, List.length_take, List.length_drop]
  omega

/-- Less than a record holds none. -/
theorem records_of_lt {xs : List α} (h : xs.length < k) : records k xs = [] := by
  rw [records, Nat.div_eq_of_lt h]
  rfl

/-- A record and what follows it. -/
theorem records_of_le (hk : 0 < k) {xs : List α} (h : k ≤ xs.length) :
    records k xs = xs.take k :: records k (xs.drop k) := by
  have hcount : xs.length / k = (xs.drop k).length / k + 1 := by
    rw [List.length_drop, Nat.div_eq_sub_div hk h]
  have hnext (i : Nat) : recordAt k (i + 1) xs = recordAt k i (xs.drop k) := by
    rw [recordAt, recordAt, List.drop_drop, Nat.mul_succ, Nat.add_comm]
  rw [records, hcount, List.range_succ_eq_map, List.map_cons, List.map_map, records]
  congr 1
  exact List.map_congr_left fun i _ => hnext i

/-- The first records one after another are the front of the list. -/
theorem flatMap_recordAt (k n : Nat) (xs : List α) :
    ((List.range n).flatMap fun i => recordAt k i xs) = xs.take (k * n) := by
  induction n with
  | zero => rfl
  | succ n ih =>
      rw [List.range_succ, List.flatMap_append, ih, List.flatMap_singleton, recordAt, Nat.mul_succ,
        List.take_add]

/-- **Round trip**: records written one after another are read back. -/
theorem records_flatMap (hk : 0 < k) {f : β → List α} {bs : List β}
    (h : ∀ b ∈ bs, (f b).length = k) : records k (bs.flatMap f) = bs.map f := by
  induction bs with
  | nil => exact records_of_lt hk
  | cons b bs ih =>
      obtain ⟨hb, hbs⟩ := List.forall_mem_cons.mp h
      have hle : k ≤ (f b ++ bs.flatMap f).length := by
        rw [List.length_append]
        omega
      rw [List.flatMap_cons, records_of_le hk hle, List.take_left' hb, List.drop_left' hb, ih hbs,
        List.map_cons]

/-- **Cutting**: a list behind whole records is cut as it is on its own. -/
theorem records_append (hk : 0 < k) {xs : List α} (h : k ∣ xs.length) (ys : List α) :
    records k (xs ++ ys) = records k xs ++ records k ys := by
  obtain ⟨n, hn⟩ := h
  induction n generalizing xs with
  | zero =>
      have hnone : records k ([] : List α) = [] := records_of_lt hk
      rw [List.length_eq_zero_iff.mp hn, List.nil_append, hnone, List.nil_append]
  | succ n ih =>
      have hle : k ≤ xs.length := by
        rw [hn, Nat.mul_succ]
        omega
      have hdrop : (xs.drop k).length = k * n := by
        rw [List.length_drop, hn, Nat.mul_succ, Nat.add_sub_cancel]
      have hall : k ≤ (xs ++ ys).length := by
        rw [List.length_append]
        omega
      rw [records_of_le hk hall, records_of_le hk hle, List.take_append_of_le_length hle,
        List.drop_append_of_le_length hle, ih hdrop, List.cons_append]

/-- The lists agree outside the `i`-th record of size `k`. -/
def AgreeOutside (k i : Nat) (xs ys : List α) : Prop :=
  xs.length = ys.length ∧ ∀ j, j < k * i ∨ k * (i + 1) ≤ j → xs[j]? = ys[j]?

/-- **Locality**: a change within one record changes that record only. -/
theorem records_of_agreeOutside {xs ys : List α} (h : AgreeOutside k i xs ys) :
    records k ys = (records k xs).set i (recordAt k i ys) := by
  obtain ⟨hlength, hagree⟩ := h
  -- a record before or after the changed one covers none of its positions
  have hother (n : Nat) (hn : n ≠ i) : recordAt k n ys = recordAt k n xs := by
    apply List.ext_getElem?
    intro m
    rw [recordAt, recordAt, List.getElem?_take, List.getElem?_take]
    split
    · next hm =>
      rw [List.getElem?_drop, List.getElem?_drop]
      refine (hagree _ ?_).symm
      rcases Nat.lt_or_gt_of_ne hn with hlt | hgt
      · have hle : k * (n + 1) ≤ k * i := Nat.mul_le_mul_left k hlt
        rw [Nat.mul_succ] at hle
        omega
      · have hle : k * (i + 1) ≤ k * n := Nat.mul_le_mul_left k hgt
        omega
    · rfl
  apply List.ext_getElem
  · rw [List.length_set, length_records, length_records, hlength]
  · intro n hn hn'
    rw [List.getElem_set]
    split
    · next heq => simp [records, heq]
    · next hne => simp [records, hother n (Ne.symm hne)]

end Lib
