import Mathlib.Data.Nat.Basic

/-!
# AutoMlos.Lib.Outcome

The result of running a piece of C: a value, undefined behaviour, or no
result within the number of nested calls that was allowed.

Code that can fault (an array access, a division) returns an `Outcome`, so
that "the code does not fault here" is a fact to be proved and not a
property of the translation.  Recursive functions of C that have no
structural measure take a bound on the nesting of calls and answer
`outOfFuel` when it is reached.
-/

namespace Lib

/-- What a C function call amounts to. -/
inductive Outcome (α : Type u) where
  /-- The call returned. -/
  | ok (a : α)
  /-- The call reached undefined behaviour. -/
  | undefined
  /-- The call did not return within the given number of nested calls. -/
  | outOfFuel
  deriving DecidableEq, Repr

namespace Outcome

variable {α β : Type u}

/-- Sequencing: the second call runs only if the first one returned. -/
def bind : Outcome α → (α → Outcome β) → Outcome β
  | ok a, f => f a
  | undefined, _ => undefined
  | outOfFuel, _ => outOfFuel

instance : Monad Outcome where
  pure := ok
  bind := bind

@[simp] theorem pure_eq_ok (a : α) : (pure a : Outcome α) = ok a := rfl

@[simp] theorem ok_bind (a : α) (f : α → Outcome β) : (ok a >>= f) = f a := rfl

@[simp] theorem undefined_bind (f : α → Outcome β) : ((undefined : Outcome α) >>= f) = undefined :=
  rfl

@[simp] theorem outOfFuel_bind (f : α → Outcome β) : ((outOfFuel : Outcome α) >>= f) = outOfFuel :=
  rfl

instance : LawfulMonad Outcome :=
  LawfulMonad.mk' Outcome (fun o => by cases o <;> rfl) (fun _ _ => rfl)
    fun o _ _ => by cases o <;> rfl

@[simp] theorem map_ok (f : α → β) (a : α) : f <$> (ok a : Outcome α) = ok (f a) := rfl

/-- The value of a call that returned, or else a default one. -/
def getD : Outcome α → α → α
  | ok a, _ => a
  | _, a => a

/-- What is returned by two calls in sequence is returned by the second, after
the first has returned. -/
theorem bind_eq_ok {o : Outcome α} {f : α → Outcome β} {b : β} (h : (o >>= f) = ok b) :
    ∃ a, o = ok a ∧ f a = ok b := by
  cases o with
  | ok a => exact ⟨a, rfl, h⟩
  | undefined => contradiction
  | outOfFuel => contradiction

/-! ## Calls that do not return -/

/-- A call that has a result for some bound on the nesting of calls. -/
def Returns (call : Nat → Outcome α) : Prop := ∃ fuel a, call fuel = ok a

/-- A call that runs into every bound on the nesting of calls. -/
def Diverges (call : Nat → Outcome α) : Prop := ∀ fuel, call fuel = outOfFuel

theorem Diverges.not_returns {call : Nat → Outcome α} (h : Diverges call) : ¬ Returns call := by
  rintro ⟨fuel, a, heq⟩
  rw [h fuel] at heq
  contradiction

/-- What follows a call that does not return is never reached. -/
theorem Diverges.bind {call : Nat → Outcome α} (h : Diverges call) (f : Nat → α → Outcome β) :
    Diverges fun fuel => call fuel >>= f fuel := by
  intro fuel
  simp only [h fuel, outOfFuel_bind]

/-! ## The primitives that can fault -/

/-- The remainder of two unsigned integers; a zero divisor is undefined. -/
def umod (a b : Nat) : Outcome Nat := if b = 0 then undefined else ok (a % b)

/-- The quotient of two unsigned integers; a zero divisor is undefined. -/
def udiv (a b : Nat) : Outcome Nat := if b = 0 then undefined else ok (a / b)

/-- Reading an array element; an index outside the array is undefined. -/
def readAt (xs : Vector α n) (i : Nat) : Outcome α :=
  if h : i < n then ok xs[i] else undefined

/-- Writing an array element; an index outside the array is undefined. -/
def writeAt (xs : Vector α n) (i : Nat) (x : α) : Outcome (Vector α n) :=
  if h : i < n then ok (xs.set i x h) else undefined

@[simp] theorem umod_of_pos (h : 0 < b) : umod a b = ok (a % b) :=
  if_neg (Nat.ne_of_gt h)

@[simp] theorem readAt_of_lt (xs : Vector α n) (h : i < n) : readAt xs i = ok xs[i] :=
  dif_pos h

@[simp] theorem writeAt_of_lt (xs : Vector α n) (x : α) (h : i < n) :
    writeAt xs i x = ok (xs.set i x h) :=
  dif_pos h

end Outcome

/-- An array element read after a write. -/
theorem get_set (v : Vector α n) (i k : Fin n) (x : α) :
    (v.set i x i.isLt).get k = if i = k then x else v.get k := by
  have hread (w : Vector α n) : w.get k = w[k.val] := rfl
  rw [hread, hread, Vector.getElem_set]
  simp only [Fin.ext_iff]

end Lib
