import Mathlib.Algebra.Ring.Nat
import Mathlib.Data.List.Basic

/-!
# AutoMlos.Lib.Buckets

Elements sorted by a key into buckets that keep their first `cap` elements
and refuse the others.

`storedCount` is what `n` such buckets hold together; it is the number of
elements exactly when every key has a bucket and no bucket overflows
(`storedCount_eq_length_iff`).
-/

namespace Lib

variable {α : Type}

/-! ## a bounded list -/

/-- A bounded list keeps its first elements. -/
theorem take_append_take (l r : List α) (n : Nat) : (l.take n ++ r).take n = (l ++ r).take n := by
  rw [List.take_append, List.take_append, List.take_take, Nat.min_self, List.length_take]
  congr 2
  omega

/-- Writing the element after the first `n` ones appends it to them. -/
theorem take_succ_set (l : List α) (h : n < l.length) :
    (l.set n a).take (n + 1) = l.take n ++ [a] := by
  rw [List.take_add_one, List.take_set_of_le (Nat.le_refl n), List.getElem?_set_self h,
    Option.toList_some]

/-! ## buckets -/

section Key

variable (key : α → Nat)

/-- The elements with key `k`, in order. -/
def bucket (k : Nat) (l : List α) : List α := l.filter fun x => key x = k

@[simp] theorem bucket_nil (k : Nat) : bucket key k [] = [] := rfl

theorem bucket_append (k : Nat) (l r : List α) :
    bucket key k (l ++ r) = bucket key k l ++ bucket key k r :=
  List.filter_append l r

theorem bucket_singleton (k : Nat) (x : α) :
    bucket key k [x] = if key x = k then [x] else [] := by
  simp only [bucket, List.filter_cons, List.filter_nil, decide_eq_true_eq]

theorem length_bucket_cons (k : Nat) (x : α) (l : List α) :
    (bucket key k (x :: l)).length = (bucket key k l).length + if key x = k then 1 else 0 := by
  rw [bucket, bucket, ← List.countP_eq_length_filter, ← List.countP_eq_length_filter,
    List.countP_cons]
  simp only [decide_eq_true_eq]

/-- What `n` buckets of `cap` elements hold together. -/
def storedCount (cap n : Nat) (l : List α) : Nat :=
  ((List.range n).map fun k => min cap (bucket key k l).length).sum

theorem countP_le_key (n : Nat) (l : List α) :
    l.countP (n ≤ key ·) = (bucket key n l).length + l.countP (n + 1 ≤ key ·) := by
  induction l with
  | nil => rfl
  | cons x l ih =>
      rw [List.countP_cons, List.countP_cons, length_bucket_cons, ih]
      simp only [decide_eq_true_eq]
      split_ifs <;> omega

/-- Every element is in one of the `n` buckets or has none. -/
theorem length_eq_sum_bucket_add (n : Nat) (l : List α) :
    l.length = ((List.range n).map fun k => (bucket key k l).length).sum +
      l.countP (n ≤ key ·) := by
  induction n with
  | zero => simp
  | succ n ih =>
      rw [ih, countP_le_key, List.range_succ, List.map_append, List.sum_append]
      simp only [List.map_cons, List.map_nil, List.sum_cons, List.sum_nil]
      omega

end Key

/-- A sum of terms below a bound. -/
theorem sum_map_le {f : α → Nat} {l : List α} (h : ∀ x ∈ l, f x ≤ cap) :
    (l.map f).sum ≤ l.length * cap := by
  induction l with
  | nil => simp
  | cons x l ih =>
      have hx := h x List.mem_cons_self
      have hl := ih fun y hy => h y (List.mem_cons_of_mem x hy)
      rw [List.map_cons, List.sum_cons, List.length_cons, Nat.succ_mul]
      omega

theorem sum_map_min_le (f : Nat → Nat) (cap n : Nat) :
    ((List.range n).map fun k => min cap (f k)).sum ≤ ((List.range n).map f).sum := by
  induction n with
  | zero => simp
  | succ n ih =>
      simp only [List.range_succ, List.map_append, List.sum_append, List.map_cons, List.map_nil,
        List.sum_cons, List.sum_nil]
      omega

theorem sum_map_min_eq_iff (f : Nat → Nat) (cap n : Nat) :
    ((List.range n).map fun k => min cap (f k)).sum = ((List.range n).map f).sum ↔
      ∀ k < n, f k ≤ cap := by
  induction n with
  | zero => simp
  | succ n ih =>
      have hle := sum_map_min_le f cap n
      simp only [List.range_succ, List.map_append, List.sum_append, List.map_cons, List.map_nil,
        List.sum_cons, List.sum_nil, Nat.forall_lt_succ_right, ← ih]
      omega

/-- **Nothing is refused** exactly when every element has a bucket and no
bucket gets more than it can hold. -/
theorem storedCount_eq_length_iff (key : α → Nat) (cap n : Nat) (l : List α) :
    storedCount key cap n l = l.length ↔
      (∀ x ∈ l, key x < n) ∧ ∀ k < n, (bucket key k l).length ≤ cap := by
  have hsplit := length_eq_sum_bucket_add key n l
  have hle := sum_map_min_le (fun k => (bucket key k l).length) cap n
  have hnone : l.countP (n ≤ key ·) = 0 ↔ ∀ x ∈ l, key x < n := by
    simp [List.countP_eq_zero]
  rw [← hnone, ← sum_map_min_eq_iff (fun k => (bucket key k l).length), storedCount]
  omega

end Lib
