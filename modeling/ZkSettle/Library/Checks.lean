import Mathlib.Tactic.Common

/-!
# Fallible code

Handlers are chains of checks in `Except`: the first check that fails decides
the error. A successful chain is taken apart by `bind_eq_ok` and `require_eq_ok`,
so that a caller never looks inside the chain.
-/
namespace Checks

universe u v w

variable {ε : Type u} {α : Type v} {β : Type w}

/-- `require!`: continue when the condition holds, else fail with the given error. -/
def require (condition : Prop) [Decidable condition] (error : ε) : Except ε PUnit.{v + 1} :=
  if condition then .ok ⟨⟩ else .error error

/-- `ok_or`: the value of an option, or the given error when there is none. -/
def okOr (value : Option α) (error : ε) : Except ε α :=
  match value with
  | some a => .ok a
  | none => .error error

/-- A chain succeeds through the value of its first computation. -/
@[simp] theorem bind_eq_ok {β : Type v} {first : Except ε α} {continuation : α → Except ε β}
    {result : β} : (first >>= continuation) = .ok result ↔
      ∃ value, first = .ok value ∧ continuation value = .ok result := by
  constructor
  · intro returned
    cases outcome : first with
    | error failure =>
      rw [outcome] at returned
      cases returned
    | ok value =>
      rw [outcome] at returned
      exact ⟨value, rfl, returned⟩
  · rintro ⟨value, rfl, returned⟩
    exact returned

/-- A chain goes on with a value that has been found. -/
theorem ok_bind {β : Type v} (value : α) (continuation : α → Except ε β) :
    (Except.ok value >>= continuation) = continuation value := rfl

@[simp] theorem pure_eq_ok {value result : α} :
    (pure value : Except ε α) = .ok result ↔ value = result := by
  constructor
  · intro returned
    cases returned
    rfl
  · rintro rfl
    rfl

@[simp] theorem require_eq_ok {condition : Prop} [Decidable condition] {error : ε}
    {u : PUnit.{v + 1}} : require condition error = .ok u ↔ condition := by
  by_cases holds : condition <;> simp [require, holds]

@[simp] theorem okOr_eq_ok {value : Option α} {error : ε} {a : α} :
    okOr value error = .ok a ↔ value = some a := by
  cases value <;> simp [okOr]

@[simp] theorem mapError_eq_ok {ε' : Type w} {f : ε → ε'} {computation : Except ε α} {a : α} :
    computation.mapError f = .ok a ↔ computation = .ok a := by
  cases computation <;> simp [Except.mapError]

theorem map_eq_ok {f : α → β} {computation : Except ε α} {b : β} :
    computation.map f = .ok b ↔ ∃ a, computation = .ok a ∧ f a = b := by
  cases computation <;> simp [Except.map]

/-- What every accepted step keeps, a chain of steps keeps. -/
theorem foldlM_invariant {σ : Type v} {ι : Type w} {step : σ → ι → Except ε σ} (Inv : σ → Prop)
    {calls : List ι} (preserved : ∀ call ∈ calls, ∀ state next, Inv state →
      step state call = .ok next → Inv next) {state final : σ} (holds : Inv state)
    (accepted : calls.foldlM step state = .ok final) : Inv final := by
  induction calls generalizing state with
  | nil =>
    cases accepted
    exact holds
  | cons call rest ih =>
    rw [List.foldlM_cons, bind_eq_ok] at accepted
    obtain ⟨next, first, later⟩ := accepted
    exact ih (fun other member => preserved other (List.mem_cons_of_mem _ member))
      (preserved call List.mem_cons_self state next holds first) later

/-- A list that is written element by element is read back. -/
theorem mapM_map {write : α → β} {read : β → Option α} {values : List α}
    (back : ∀ a ∈ values, read (write a) = some a) :
    (values.map write).mapM read = some values := by
  induction values with
  | nil => rfl
  | cons a rest ih =>
    have tail := ih fun b member => back b (List.mem_cons_of_mem _ member)
    rw [List.map_cons, List.mapM_cons, back a List.mem_cons_self, tail]
    rfl

/-- A computation that evaluates to a success has a result. -/
theorem exists_eq_ok {computation : Except ε α} (succeeds : computation.isOk = true) :
    ∃ result, computation = .ok result := by
  cases computation with
  | error failure => cases succeeds
  | ok result => exact ⟨result, rfl⟩

/-- Computations that succeed one by one have a list of results. -/
theorem exists_map_eq_ok {β : Type v} {read : α → Except ε β} {values : List α} :
    (∃ results : List β, values.map read = results.map .ok) ↔
      ∀ value ∈ values, ∃ result, read value = .ok result := by
  constructor
  · rintro ⟨results, reads⟩ value member
    have listed : read value ∈ results.map .ok := reads ▸ List.mem_map_of_mem member
    obtain ⟨result, -, same⟩ := List.mem_map.mp listed
    exact ⟨result, same.symm⟩
  · intro each
    induction values with
    | nil => exact ⟨[], rfl⟩
    | cons value rest ih =>
      obtain ⟨result, first⟩ := each value List.mem_cons_self
      obtain ⟨results, later⟩ := ih fun other member => each other (List.mem_cons_of_mem _ member)
      exact ⟨result :: results, by rw [List.map_cons, List.map_cons, first, later]⟩

/-- Every result of a list of computations is one of a member of the list. -/
theorem mem_of_mapM_eq_ok {read : α → Except ε β} {values : List α} {results : List β}
    (all : values.mapM read = .ok results) {result : β} (member : result ∈ results) :
    ∃ value ∈ values, read value = .ok result := by
  induction values generalizing results with
  | nil =>
    cases all
    cases member
  | cons value rest ih =>
    rw [List.mapM_cons] at all
    obtain ⟨first, now, later⟩ := bind_eq_ok.mp all
    obtain ⟨others, tail, same⟩ := bind_eq_ok.mp later
    cases same
    rcases List.mem_cons.mp member with rfl | there
    · exact ⟨value, List.mem_cons_self, now⟩
    · obtain ⟨other, inside, read⟩ := ih tail there
      exact ⟨other, List.mem_cons_of_mem _ inside, read⟩

/-- The option functions of Rust's `checked_add`, for a machine word of `bound` values. -/
def checkedAdd (bound a b : Nat) : Option Nat := if a + b < bound then some (a + b) else none

@[simp] theorem checkedAdd_eq_some {bound a b c : Nat} :
    checkedAdd bound a b = some c ↔ a + b < bound ∧ a + b = c := by
  unfold checkedAdd
  split
  · simp [*]
  · simp only [reduceCtorEq, false_iff, not_and]
    omega

/-! ## Errors that a chain cannot end with -/

/-- A chain fails in its first computation or in what follows its value. -/
theorem bind_eq_error {β : Type v} {first : Except ε α} {continuation : α → Except ε β}
    {error : ε} : (first >>= continuation) = .error error ↔
      first = .error error ∨ ∃ value, first = .ok value ∧ continuation value = .error error := by
  cases first with
  | error failure => simp [bind, Except.bind]
  | ok value => simp [bind, Except.bind]

theorem bind_ne_error_iff {β : Type v} {first : Except ε α} {continuation : α → Except ε β}
    {error : ε} : (first >>= continuation) ≠ .error error ↔
      first ≠ .error error ∧ ∀ value, first = .ok value → continuation value ≠ .error error := by
  simp only [ne_eq, bind_eq_error, not_or, not_exists, not_and]

/-- A chain that cannot fail with an error in any of its computations cannot fail with it. -/
theorem bind_ne_error {β : Type v} {first : Except ε α} {continuation : α → Except ε β}
    {error : ε} (before : first ≠ .error error)
    (after : ∀ value, first = .ok value → continuation value ≠ .error error) :
    (first >>= continuation) ≠ .error error :=
  bind_ne_error_iff.mpr ⟨before, after⟩

theorem pure_eq_error {value : α} {error : ε} :
    (pure value : Except ε α) = .error error ↔ False := by
  simp [pure, Except.pure]

theorem require_eq_error {condition : Prop} [Decidable condition] {failure error : ε} :
    require.{u, v} condition failure = .error error ↔ ¬ condition ∧ failure = error := by
  by_cases holds : condition <;> simp [require, holds]

theorem okOr_eq_error {value : Option α} {failure error : ε} :
    okOr value failure = .error error ↔ value = none ∧ failure = error := by
  cases value <;> simp [okOr]

end Checks
