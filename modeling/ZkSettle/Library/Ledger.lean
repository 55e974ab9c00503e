import Mathlib.Algebra.BigOperators.Group.Finset.Piecewise
import Mathlib.Algebra.Order.BigOperators.Group.Finset

/-!
# Balances covered by a supply

Balances are a function on an arbitrary, possibly infinite, set of accounts.
Instead of a total, which need not exist, a supply covers the balances when no
finite set of accounts holds more. Credits, debits and moves keep the supply
covering, and a covered balance never exceeds the supply.
-/
namespace Ledger

universe u

variable {α : Type u}

/-- No finite set of accounts holds more than the supply. -/
def Covered (balance : α → Nat) (supply : Nat) : Prop :=
  ∀ accounts : Finset α, ∑ a ∈ accounts, balance a ≤ supply

theorem Covered.balance_le {balance : α → Nat} {supply : Nat} (covered : Covered balance supply)
    (a : α) : balance a ≤ supply := by
  simpa using covered {a}

theorem covered_zero (supply : Nat) : Covered (fun _ : α => 0) supply := by
  intro accounts
  simp

theorem Covered.of_le {balance smaller : α → Nat} {supply : Nat} (covered : Covered balance supply)
    (below : ∀ a, smaller a ≤ balance a) : Covered smaller supply := by
  intro accounts
  exact (Finset.sum_le_sum fun a _ => below a).trans (covered accounts)

variable [DecidableEq α]

theorem Covered.credit {balance : α → Nat} {supply : Nat} (covered : Covered balance supply)
    (a : α) (amount : Nat) :
    Covered (Function.update balance a (balance a + amount)) (supply + amount) := by
  intro accounts
  -- the credit counts only in a set that contains the account
  by_cases member : a ∈ accounts
  · have held := covered accounts
    rw [← Finset.add_sum_erase _ _ member] at held
    rw [Finset.sum_update_of_mem member, Finset.sdiff_singleton_eq_erase]
    omega
  · rw [Finset.sum_update_of_notMem member]
    have held := covered accounts
    omega

theorem Covered.debit {balance : α → Nat} {supply : Nat} (covered : Covered balance supply)
    (a : α) (amount : Nat) (enough : amount ≤ balance a) :
    Covered (Function.update balance a (balance a - amount)) (supply - amount) := by
  intro accounts
  -- the debited account is counted whether or not the set contains it
  have held := covered (insert a accounts)
  by_cases member : a ∈ accounts
  · rw [Finset.insert_eq_of_mem member, ← Finset.add_sum_erase _ _ member] at held
    rw [Finset.sum_update_of_mem member, Finset.sdiff_singleton_eq_erase]
    omega
  · rw [Finset.sum_insert member] at held
    rw [Finset.sum_update_of_notMem member]
    omega

/-- Moving an amount from one account to another, where a part may be withheld. -/
theorem Covered.move {balance : α → Nat} {supply : Nat} (covered : Covered balance supply)
    (source destination : α) (amount received : Nat) (enough : amount ≤ balance source)
    (withheld : received ≤ amount) (distinct : source ≠ destination) :
    Covered (Function.update (Function.update balance source (balance source - amount))
      destination (balance destination + received)) supply := by
  -- a debit and a credit; what is withheld is covered as well
  have debited := covered.debit source amount enough
  have credited := debited.credit destination received
  rw [Function.update_of_ne distinct.symm] at credited
  have bound := covered.balance_le source
  intro accounts
  have held := credited accounts
  omega

end Ledger
