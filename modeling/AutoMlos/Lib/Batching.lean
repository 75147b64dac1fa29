import AutoMlos.Lib.Run

/-!
# AutoMlos.Lib.Batching

A bounded batch of elements.

A batch takes elements until it is full, and is emptied at once.  What it
refuses it counts.  So it holds the first elements that it was given since it was
last cleared (`held_mealy`).
-/

namespace Lib

variable {α : Type}

/-- What is done with a batch; `none` is not an element. -/
inductive BatchInput (α : Type) where
  | give (a : Option α)
  | clear

/-- What a batch holds, and how often it has refused. -/
structure Batching (α : Type) where
  held : List α
  refused : ℕ

namespace Batching

/-- Nothing is held or counted. -/
def empty : Batching α := ⟨[], 0⟩

/-- Nothing is taken. -/
def refuse (b : Batching α) : Batching α := { b with refused := b.refused + 1 }

/-- One input to a batch of some capacity; the reply is whether it was accepted. -/
def step (capacity : ℕ) (b : Batching α) : BatchInput α → Bool × Batching α
  | .give none => (false, b.refuse)
  | .give (some a) =>
      if b.held.length < capacity then (true, { b with held := b.held ++ [a] })
      else (false, b.refuse)
  | .clear => (true, { b with held := [] })

/-- The elements given since the last clear, after one more input. -/
def note : List α → BatchInput α → List α
  | as, .give a => as ++ a.toList
  | _, .clear => []

/-- The elements that were given since the batch was last cleared. -/
def given (inputs : List (BatchInput α)) : List α := inputs.foldl note []

/-- A list that is filled up to some length. -/
theorem take_append_singleton (capacity : ℕ) (as : List α) (a : α) :
    (as ++ [a]).take capacity =
      if (as.take capacity).length < capacity then as.take capacity ++ [a]
      else as.take capacity := by
  rw [List.length_take]
  by_cases h : as.length < capacity
  · have hall : (as ++ [a]).length ≤ capacity := by
      rw [List.length_append]
      exact h
    rw [if_pos (by omega), List.take_of_length_le hall, List.take_of_length_le (Nat.le_of_lt h)]
  · rw [if_neg (by omega), List.take_append_of_le_length (Nat.le_of_not_lt h)]

/-- **One input** keeps that the batch holds the first elements given. -/
theorem held_step {capacity : ℕ} {b : Batching α} {as : List α} (h : b.held = as.take capacity)
    (input : BatchInput α) :
    (step capacity b input).2.held = (note as input).take capacity := by
  cases input with
  | give a =>
      cases a with
      | none =>
          rw [note, Option.toList_none, List.append_nil]
          exact h
      | some a =>
          rw [note, Option.toList_some, take_append_singleton, ← h, step]
          split <;> rfl
  | clear => exact List.take_nil.symm

/-- **A batch holds the first elements** that were given since it was last
cleared. -/
theorem held_mealy (capacity : ℕ) (inputs : List (BatchInput α)) :
    (mealy (step capacity) empty inputs).2.held = (given inputs).take capacity := by
  have hstep (done : List (BatchInput α)) (b : Batching α) (input : BatchInput α)
      (h : b.held = (given done).take capacity) :
      (step capacity b input).2.held = (given (done ++ [input])).take capacity := by
    rw [given, List.foldl_append]
    exact held_step h input
  have hempty : (empty : Batching α).held = (given []).take capacity := List.take_nil.symm
  exact mealy_history hstep hempty inputs

end Batching

end Lib
