import Mathlib.Data.List.Basic

/-!
# Lists of parties

Parties are numbered by their place in a list. One step changes the party at one place, or
adds a party at the end, and leaves the others alone. What no two parties hold at once stays
so, when a party takes up only what it held before or what is free. The parties of one kind
make a list of their own, where each has a place.
-/
namespace Slots

variable {α β : Type*} {xs : List α} {new x : α}

/-- Who is where, after a change at one place. -/
theorem set_cases {i j : Nat} (found : (xs.set i new)[j]? = some x) :
    j = i ∧ x = new ∨ j ≠ i ∧ xs[j]? = some x := by
  by_cases same : j = i
  · subst same
    rw [List.getElem?_set_self'] at found
    obtain ⟨_, -, rfl⟩ := Option.map_eq_some_iff.mp found
    exact Or.inl ⟨rfl, rfl⟩
  · rw [List.getElem?_set_ne (Ne.symm same)] at found
    exact Or.inr ⟨same, found⟩

theorem mem_set_self {i : Nat} (found : xs[i]? = some x) (new : α) : new ∈ xs.set i new :=
  List.mem_set (List.getElem?_eq_some_iff.mp found).1 new

/-- Everyone stays but the party that has changed. -/
theorem mem_set_or_eq {i : Nat} (found : xs[i]? = some x) {y : α} (member : y ∈ xs) (new : α) :
    y = x ∨ y ∈ xs.set i new := by
  obtain ⟨j, there⟩ := List.mem_iff_getElem?.mp member
  by_cases same : j = i
  · subst same
    rw [found, Option.some.injEq] at there
    exact Or.inl there.symm
  · rw [← List.getElem?_set_ne (Ne.symm same)] at there
    exact Or.inr (List.mem_of_getElem? there)

theorem set_self {i : Nat} (found : xs[i]? = some x) (new : α) :
    (xs.set i new)[i]? = some new :=
  List.getElem?_set_self (List.getElem?_eq_some_iff.mp found).1

/-- Who is there stays there, when one is added. -/
theorem snoc_left {j : Nat} (found : xs[j]? = some x) (new : α) : (xs ++ [new])[j]? = some x :=
  (List.getElem?_append_left (List.getElem?_eq_some_iff.mp found).1).trans found

/-- Who is where, after one was added. -/
theorem snoc_cases {j : Nat} (found : (xs ++ [new])[j]? = some x) :
    x = new ∨ xs[j]? = some x := by
  rcases Nat.lt_or_ge j xs.length with inside | after
  · rw [List.getElem?_append_left inside] at found
    exact Or.inr found
  · rw [List.getElem?_append_right after] at found
    exact Or.inl (List.mem_singleton.mp (List.mem_of_getElem? found))

/-! ## What one party holds -/

/-- No two parties hold the same thing. -/
def HeldOnce (holds : α → β → Prop) (xs : List α) : Prop :=
  ∀ (i j : Nat) (x y : α) (thing : β), xs[i]? = some x → xs[j]? = some y →
    holds x thing → holds y thing → i = j

variable {holds : α → β → Prop}

/-- A new party holds nothing. -/
theorem HeldOnce.snoc (once : HeldOnce holds xs) (nothing : ∀ thing, ¬ holds new thing) :
    HeldOnce holds (xs ++ [new]) := by
  intro i j x y thing found found' held held'
  rcases snoc_cases found with rfl | earlier
  · exact absurd held (nothing thing)
  · rcases snoc_cases found' with rfl | earlier'
    · exact absurd held' (nothing thing)
    · exact once i j x y thing earlier earlier' held held'

/-- A party takes up what it held before, or what no one holds. -/
theorem HeldOnce.set (once : HeldOnce holds xs) {i : Nat} (found : xs[i]? = some x)
    (taken : ∀ thing, holds new thing → holds x thing ∨ ∀ y ∈ xs, ¬ holds y thing) :
    HeldOnce holds (xs.set i new) := by
  -- another party holds nothing that the changed one holds
  have apart : ∀ (j : Nat) (y : α) (thing : β), xs[j]? = some y → j ≠ i → holds y thing →
      ¬ holds new thing := by
    intro j y thing there different held heldHere
    rcases taken thing heldHere with before | free
    · exact different (once j i y x thing there found held before)
    · exact free y (List.mem_of_getElem? there) held
  intro first second a b thing foundFirst foundSecond heldFirst heldSecond
  rcases set_cases foundFirst with ⟨rfl, rfl⟩ | ⟨different, before⟩
  · rcases set_cases foundSecond with ⟨rfl, -⟩ | ⟨different, before⟩
    · rfl
    · exact absurd heldFirst (apart second b thing before different heldSecond)
  · rcases set_cases foundSecond with ⟨rfl, rfl⟩ | ⟨different', before'⟩
    · exact absurd heldSecond (apart first a thing before different heldFirst)
    · exact once first second a b thing before before' heldFirst heldSecond

/-! ## The parties of one kind -/

variable {kind : α → Bool}

/-- The place of a party among those of its kind. -/
def rank (kind : α → Bool) (xs : List α) (i : Nat) : Nat := (xs.take i).countP kind

theorem exists_split {i : Nat} (found : xs[i]? = some x) :
    ∃ before after, xs = before ++ x :: after ∧ before.length = i := by
  obtain ⟨inside, rfl⟩ := List.getElem?_eq_some_iff.mp found
  refine ⟨xs.take i, xs.drop (i + 1), ?_, List.length_take_of_le (Nat.le_of_lt inside)⟩
  rw [← List.drop_eq_getElem_cons inside, List.take_append_drop]

/-- A party is found at its place among those of its kind. -/
theorem filter_rank {i : Nat} (found : xs[i]? = some x) (own : kind x = true) :
    (xs.filter kind)[rank kind xs i]? = some x := by
  obtain ⟨before, after, rfl, rfl⟩ := exists_split found
  simp [rank, List.countP_eq_length_filter, own]

/-- A party of the kind changes at its place there. -/
theorem filter_set_own {i : Nat} (found : xs[i]? = some x) (own : kind x = true)
    (still : kind new = true) :
    (xs.set i new).filter kind = (xs.filter kind).set (rank kind xs i) new := by
  obtain ⟨before, after, rfl, rfl⟩ := exists_split found
  simp [rank, List.countP_eq_length_filter, own, still]

/-- A party of another kind is not among them. -/
theorem filter_set_other {i : Nat} (found : xs[i]? = some x) (other : kind x = false)
    (still : kind new = false) : (xs.set i new).filter kind = xs.filter kind := by
  obtain ⟨before, after, rfl, rfl⟩ := exists_split found
  simp [other, still]

end Slots
