import Mathlib.Data.Finset.Basic

/-!
# AutoMlos.Lib.FirstFit

First-fit allocation from a fixed list of blocks.

An arena is a list of blocks with their sizes and addresses.  The state of the
allocator is no more than the set of live blocks: an allocation takes the first
block of the list that is large enough and not live, and a free gives back the
block at an address.  So what has been allocated and freed before makes no
difference to an allocator that refines this one.
-/

namespace Lib

/-- The blocks of an allocator, in the order in which they are tried. -/
structure Arena (β : Type) where
  blocks : List β
  size : β → Nat
  base : β → Nat

/-- What a client of an allocator does, as far as the allocator is concerned. -/
inductive HeapCall where
  | alloc (size : Nat)
  | free (ptr : Nat)
  | other
  deriving DecidableEq, Repr

namespace Arena

variable {β : Type} [DecidableEq β] (a : Arena β)

/-- The first of these blocks that is large enough and not live. -/
def firstFit (size : Nat) (live : Finset β) (blocks : List β) : Option β :=
  blocks.find? fun b => size ≤ a.size b ∧ b ∉ live

/-- One call; an allocation replies with the address of the block. -/
def step (live : Finset β) : HeapCall → Option Nat × Finset β
  | .alloc size =>
      if size = 0 then (none, live)
      else
        match a.firstFit size live a.blocks with
        | none => (none, live)
        | some b => (some (a.base b), insert b live)
  | .free ptr => (none, live.filter fun b => a.base b ≠ ptr)
  | .other => (none, live)

variable {a}

@[simp] theorem firstFit_nil (size : Nat) (live : Finset β) : a.firstFit size live [] = none := rfl

/-- The search goes on after the first blocks if none of them will do. -/
theorem firstFit_append (size : Nat) (live : Finset β) (front back : List β) :
    a.firstFit size live (front ++ back) =
      (a.firstFit size live front).or (a.firstFit size live back) :=
  List.find?_append

/-- Blocks that are too small are passed over. -/
theorem firstFit_of_small {size : Nat} {blocks : List β} (live : Finset β)
    (h : ∀ b ∈ blocks, a.size b < size) : a.firstFit size live blocks = none := by
  rw [firstFit, List.find?_eq_none]
  intro b hb
  simp [Nat.not_le.mpr (h b hb)]

end Arena

end Lib
