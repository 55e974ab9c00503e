import Mathlib.Order.Nat
import Mathlib.Tactic.Common

/-!
# Quotas by windows

A counter counts the places taken in the current window, and forgets the window before when
a later one begins. Whoever claims a place was counted once, also when the count is given
back by somebody else's mistake; `Within` is what keeps the claims of every window under the
limit, and the rules say which operations of the counter keep it.
-/
namespace Quota

universe u

variable {ω : Type u}

structure Counter (ω : Type u) where
  window : ω
  count : Nat

variable [Preorder ω] {limit : Nat} {counter : Counter ω} {claims claims' : ω → Nat}

structure Within (limit : Nat) (counter : Counter ω) (claims : ω → Nat) : Prop where
  counted : claims counter.window ≤ counter.count
  bounded : ∀ w, claims w ≤ limit
  /-- nobody claims a place in a window to come -/
  unclaimed : ∀ w, counter.window < w → claims w = 0

theorem Within.of_le (within : Within limit counter claims) (fewer : ∀ w, claims' w ≤ claims w) :
    Within limit counter claims' where
  counted := (fewer _).trans within.counted
  bounded w := (fewer w).trans (within.bounded w)
  unclaimed w later := Nat.le_zero.mp ((fewer w).trans (within.unclaimed w later).le)

/-- The first place of all. -/
theorem within_first (w : ω) (room : 0 < limit) (here : claims w ≤ 1)
    (others : ∀ w', w' ≠ w → claims w' = 0) : Within limit ⟨w, 1⟩ claims where
  counted := here
  bounded w' := by
    by_cases same : w' = w
    · subst same
      omega
    · rw [others w' same]
      exact Nat.zero_le limit
  unclaimed w' later := others w' later.ne'

/-- A place below the limit, in the current window. -/
theorem Within.take (within : Within limit counter claims) (free : counter.count < limit)
    (here : claims' counter.window ≤ claims counter.window + 1)
    (others : ∀ w, w ≠ counter.window → claims' w ≤ claims w) :
    Within limit ⟨counter.window, counter.count + 1⟩ claims' := by
  have counted : claims' counter.window ≤ counter.count + 1 := by
    have before := within.counted
    omega
  refine ⟨counted, ?_, ?_⟩
  · intro w
    by_cases same : w = counter.window
    · subst same
      omega
    · exact (others w same).trans (within.bounded w)
  · intro w later
    have before := within.unclaimed w later
    have after := others w later.ne'
    omega

/-- The first place of a later window. -/
theorem Within.roll (within : Within limit counter claims) {w : ω} (later : counter.window < w)
    (room : 0 < limit) (here : claims' w ≤ claims w + 1)
    (others : ∀ w', w' ≠ w → claims' w' ≤ claims w') : Within limit ⟨w, 1⟩ claims' := by
  have new := within.unclaimed w later
  refine ⟨by simpa [new] using here, ?_, ?_⟩
  · intro w'
    by_cases same : w' = w
    · subst same
      omega
    · exact (others w' same).trans (within.bounded w')
  · intro w' evenLater
    have before := within.unclaimed w' (later.trans evenLater)
    have after := others w' evenLater.ne'
    omega

/-- A place of the current window given back by one who claimed it. -/
theorem Within.give (within : Within limit counter claims)
    (here : claims' counter.window + 1 ≤ claims counter.window)
    (others : ∀ w, w ≠ counter.window → claims' w ≤ claims w) :
    Within limit ⟨counter.window, counter.count - 1⟩ claims' := by
  have counted : claims' counter.window ≤ counter.count - 1 := by
    have before := within.counted
    omega
  have fewer : ∀ w, claims' w ≤ claims w := by
    intro w
    by_cases same : w = counter.window
    · subst same
      omega
    · exact others w same
  refine ⟨counted, fun w => (fewer w).trans (within.bounded w), fun w later => ?_⟩
  have before := within.unclaimed w later
  have after := fewer w
  omega

/-- Nothing is given back from a count of zero. -/
theorem Within.give_zero (within : Within limit counter claims) (empty : counter.count = 0)
    (fewer : ∀ w, claims' w ≤ claims w) :
    Within limit ⟨counter.window, counter.count - 1⟩ claims' := by
  have same : counter.count - 1 = counter.count := by omega
  rw [same]
  exact within.of_le fewer

/-! ## Counting the holders -/

variable {α : Type*}

/-- One holder changes. -/
theorem countP_set_add (p : α → Bool) {holders : List α} {i : Nat} {old : α} (new : α)
    (found : holders[i]? = some old) :
    (holders.set i new).countP p + (p old).toNat = holders.countP p + (p new).toNat := by
  induction holders generalizing i with
  | nil => simp at found
  | cons holder rest ih =>
    cases i with
    | zero =>
      obtain rfl : holder = old := by simpa using found
      rw [List.set_cons_zero, List.countP_cons, List.countP_cons]
      cases p holder <;> cases p new <;> simp
    | succ i =>
      have later := ih (by simpa using found)
      rw [List.set_cons_succ, List.countP_cons, List.countP_cons]
      omega

/-- Counts that agree on every holder agree. -/
theorem countP_add_congr {p q p' q' : α → Bool} {holders : List α}
    (agree : ∀ holder ∈ holders,
      (p holder).toNat + (q holder).toNat = (p' holder).toNat + (q' holder).toNat) :
    holders.countP p + holders.countP q = holders.countP p' + holders.countP q' := by
  induction holders with
  | nil => rfl
  | cons holder rest ih =>
    have here := agree holder (by simp)
    have later := ih fun other member => agree other (by simp [member])
    have split : ∀ r : α → Bool, (holder :: rest).countP r = rest.countP r + (r holder).toNat := by
      intro r
      rw [List.countP_cons]
      cases r holder <;> rfl
    rw [split, split, split, split]
    omega

end Quota
