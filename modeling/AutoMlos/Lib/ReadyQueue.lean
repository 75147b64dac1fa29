import AutoMlos.Lib.Run
import Mathlib.Data.Finset.Sort

/-!
# AutoMlos.Lib.ReadyQueue

A queue of waiting elements of which the least is served.

An element that is served stops waiting, unless it was the one that was served
last.  While no element arrives the queue serves its elements in their order
and then none (`servings_eq`).
-/

namespace Lib

variable {α : Type}

/-- The elements that wait, and the one that was served last. -/
structure ReadyQueue (α : Type) where
  waiting : Finset α
  serving : Option α

namespace ReadyQueue

variable [LinearOrder α]

/-- No element waits and none was served. -/
def empty : ReadyQueue α := ⟨∅, none⟩

/-- The element waits. -/
def arrive (q : ReadyQueue α) (a : α) : ReadyQueue α := { q with waiting := insert a q.waiting }

/-- It does not. -/
def leave (q : ReadyQueue α) (a : α) : ReadyQueue α := { q with waiting := q.waiting.erase a }

/-- The least waiting element is served. -/
def serve (q : ReadyQueue α) : ReadyQueue α :=
  if h : q.waiting.Nonempty then
    if q.serving = some (q.waiting.min' h) then q
    else ⟨q.waiting.erase (q.waiting.min' h), some (q.waiting.min' h)⟩
  else { q with serving := none }

variable {q : ReadyQueue α} {a : α}

theorem serve_of_empty (h : q.waiting = ∅) : q.serve = ⟨∅, none⟩ := by
  rw [serve, dif_neg (Finset.not_nonempty_iff_eq_empty.mpr h), h]

theorem serve_of_isLeast (h : IsLeast (q.waiting : Set α) a) :
    q.serve = if q.serving = some a then q else ⟨q.waiting.erase a, some a⟩ := by
  have hnonempty : q.waiting.Nonempty := ⟨a, h.1⟩
  have hmin : q.waiting.min' hnonempty = a := (q.waiting.isLeast_min' hnonempty).unique h
  rw [serve, dif_pos hnonempty, hmin]

/-- The order is that of the least element and the others. -/
theorem sort_eq_cons {s : Finset α} (h : IsLeast (s : Set α) a) :
    s.sort = a :: (s.erase a).sort := by
  have hle : ∀ b ∈ s.erase a, a ≤ b := fun b hb => h.2 (Finset.mem_of_mem_erase hb)
  rw [← Finset.sort_insert _ hle (Finset.notMem_erase a s), Finset.insert_erase h.1]

/-- The element is not about to be served again. -/
def Fresh (q : ReadyQueue α) : Prop := ∀ a, IsLeast (q.waiting : Set α) a → q.serving ≠ some a

theorem Fresh.serve (h : q.Fresh) :
    q.serve.Fresh ∧ q.serve.serving = q.waiting.sort.head? ∧
      q.serve.waiting.sort = q.waiting.sort.tail := by
  rcases q.waiting.eq_empty_or_nonempty with hempty | hnonempty
  · rw [serve_of_empty hempty, hempty, Finset.sort_empty]
    exact ⟨nofun, rfl, rfl⟩
  · have hleast := q.waiting.isLeast_min' hnonempty
    rw [serve_of_isLeast hleast, if_neg (h _ hleast), sort_eq_cons hleast]
    refine ⟨fun b hb heq => ?_, rfl, rfl⟩
    exact Finset.notMem_erase _ _ (Option.some.inj heq ▸ hb.1)

/-- What the queue serves in the next `n` turns. -/
def servings : ℕ → ReadyQueue α → List (Option α)
  | 0, _ => []
  | n + 1, q => q.serve.serving :: servings n q.serve

/-- **A queue without arrivals** serves its elements in order, and then none. -/
theorem Fresh.servings_eq (h : q.Fresh) (n : ℕ) :
    servings n q = (List.range n).map fun k => q.waiting.sort[k]? := by
  induction n generalizing q with
  | zero => rfl
  | succ n ih =>
      obtain ⟨hfresh, hfirst, hrest⟩ := h.serve
      rw [servings, ih hfresh, hfirst, hrest, List.range_succ_eq_map, List.map_cons, List.map_map,
        List.head?_eq_getElem?]
      simp only [Function.comp_def, List.getElem?_tail]

end ReadyQueue

end Lib
