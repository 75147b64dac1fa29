import Mathlib.Algebra.BigOperators.Group.List.Basic
import Mathlib.Algebra.Ring.Nat
import Mathlib.Data.List.Nodup

/-!
# AutoMlos.Lib.Accounts

Accounts that are kept in 64-bit counters.

An account is a key and an amount.  `charge k d` adds `d` to the accounts with
key `k`, in the arithmetic of the counter.  With different keys that raises
the balance by `d` at most (`balance_charge_le`), so a bound on the balance is
what keeps the counters from wrapping (`toNat_charged`).
-/

namespace Lib

variable {κ : Type} {accounts : List (κ × UInt64)} {a : κ × UInt64} {k : κ} {d : UInt64}

/-- What all accounts hold together, as a number. -/
def balance (accounts : List (κ × UInt64)) : Nat := (accounts.map (·.2.toNat)).sum

@[simp] theorem balance_nil : balance ([] : List (κ × UInt64)) = 0 := rfl

@[simp] theorem balance_cons (a : κ × UInt64) (accounts : List (κ × UInt64)) :
    balance (a :: accounts) = a.2.toNat + balance accounts := by
  simp [balance]

@[simp] theorem balance_append (as bs : List (κ × UInt64)) :
    balance (as ++ bs) = balance as + balance bs := by
  simp [balance]

theorem toNat_le_balance (h : a ∈ accounts) : a.2.toNat ≤ balance accounts := by
  induction accounts with
  | nil => simp at h
  | cons b accounts ih =>
      rw [balance_cons]
      rcases List.mem_cons.mp h with rfl | h
      · exact Nat.le_add_right _ _
      · exact Nat.le_add_left_of_le (ih h)

/-- The amount of an account to which `d` is added or not, if its counter does
not wrap. -/
theorem toNat_charged {amount : UInt64} {charged : Prop} [Decidable charged]
    (h : amount.toNat + d.toNat < 2 ^ 64) :
    (if charged then amount + d else amount).toNat =
      amount.toNat + if charged then d.toNat else 0 := by
  split
  · rw [UInt64.toNat_add, Nat.mod_eq_of_lt h]
  · rw [Nat.add_zero]

section Charge

variable [DecidableEq κ]

/-- Add an amount to the accounts with this key. -/
def charge (k : κ) (d : UInt64) (accounts : List (κ × UInt64)) : List (κ × UInt64) :=
  accounts.map fun a => (a.1, if a.1 = k then a.2 + d else a.2)

@[simp] theorem map_fst_charge (k : κ) (d : UInt64) (accounts : List (κ × UInt64)) :
    (charge k d accounts).map Prod.fst = accounts.map Prod.fst := by
  rw [charge, List.map_map]
  rfl

theorem charge_cons (k : κ) (d : UInt64) (a : κ × UInt64) (accounts : List (κ × UInt64)) :
    charge k d (a :: accounts) =
      (a.1, if a.1 = k then a.2 + d else a.2) :: charge k d accounts :=
  rfl

/-- Nothing is charged to a key that has no account. -/
theorem charge_of_not_mem (h : k ∉ accounts.map Prod.fst) : charge k d accounts = accounts := by
  have hkept : ∀ a ∈ accounts, (a.1, if a.1 = k then a.2 + d else a.2) = a := by
    intro a ha
    have hne : a.1 ≠ k := fun heq => h (heq ▸ List.mem_map_of_mem ha)
    rw [if_neg hne]
  rw [charge, List.map_congr_left hkept, List.map_id']

/-- **With different keys a charge raises the balance by its amount at most.** -/
theorem balance_charge_le (h : (accounts.map Prod.fst).Nodup) (k : κ) (d : UInt64) :
    balance (charge k d accounts) ≤ balance accounts + d.toNat := by
  induction accounts with
  | nil => exact Nat.zero_le _
  | cons a accounts ih =>
      rw [List.map_cons, List.nodup_cons] at h
      rw [charge_cons, balance_cons, balance_cons]
      dsimp only
      by_cases hk : a.1 = k
      · have hrest : charge k d accounts = accounts := charge_of_not_mem (hk ▸ h.1)
        have hadd : (a.2 + d).toNat ≤ a.2.toNat + d.toNat := by
          rw [UInt64.toNat_add]
          exact Nat.mod_le _ _
        rw [if_pos hk, hrest]
        omega
      · have hrest := ih h.2
        rw [if_neg hk]
        omega

end Charge

end Lib
