import Mathlib.Data.Fin.Basic
import Mathlib.Logic.Function.Basic

/-!
# Absorption by blocks

A sponge takes its input in blocks of its rate. One that is given an element at a time keeps
the elements until there is one more than a block, so that the last block is still pending
when the input ends, also when it is full. A cache that is never cleared holds the pending
elements in its first slots, and what is left of earlier blocks behind them.
-/
namespace Absorption

variable {α State : Type}

/-! ## Blocks -/

/-- The consecutive blocks of an input; the empty input is one empty block. -/
def blocks (rate : Nat) (input : List α) : List (List α) :=
  if rate = 0 ∨ input.length ≤ rate then [input]
  else input.take rate :: blocks rate (input.drop rate)
termination_by input.length
decreasing_by
  rw [List.length_drop]
  omega

/-- Parts that follow each other: all are full but the last, which is empty only when there is
nothing else. -/
structure Consecutive (rate : Nat) (input : List α) (parts : List (List α)) : Prop where
  joined : parts.flatten = input
  full : ∀ part ∈ parts.dropLast, part.length = rate
  last : ∃ part, parts.getLast? = some part ∧ part.length ≤ rate ∧ (part = [] → input = [])

theorem blocks_of_le {rate : Nat} {input : List α} (short : input.length ≤ rate) :
    blocks rate input = [input] := by
  rw [blocks, if_pos (.inr short)]

theorem blocks_append {rate : Nat} (positive : 0 < rate) {part rest : List α}
    (full : part.length = rate) (nonempty : rest ≠ []) :
    blocks rate (part ++ rest) = part :: blocks rate rest := by
  have longer := List.length_pos_iff.mpr nonempty
  rw [blocks, if_neg (by rw [List.length_append]; omega), List.take_left' full,
    List.drop_left' full]

theorem consecutive_singleton {rate : Nat} {input : List α} (short : input.length ≤ rate) :
    Consecutive rate input [input] where
  joined := by simp
  full := fun part member => by cases member
  last := ⟨input, rfl, short, id⟩

theorem Consecutive.cons {rate : Nat} {part rest : List α} {parts : List (List α)}
    (full : part.length = rate) (nonempty : rest ≠ []) (later : Consecutive rate rest parts) :
    Consecutive rate (part ++ rest) (part :: parts) := by
  obtain ⟨joined, fulls, last, ends, short, empty⟩ := later
  obtain ⟨next, others, rfl⟩ : ∃ next others, parts = next :: others := by
    cases parts with
    | nil => cases ends
    | cons next others => exact ⟨next, others, rfl⟩
  constructor
  case joined => rw [List.flatten_cons, joined]
  case full =>
    intro block member
    rw [List.dropLast_cons_cons] at member
    rcases List.mem_cons.mp member with rfl | later
    · exact full
    · exact fulls block later
  case last =>
    refine ⟨last, by rwa [List.getLast?_cons_cons], short, fun none => ?_⟩
    exact absurd (empty none) nonempty

theorem blocks_consecutive {rate : Nat} (positive : 0 < rate) (input : List α) :
    Consecutive rate input (blocks rate input) := by
  induction input using blocks.induct rate with
  | case1 input short =>
    rw [blocks, if_pos short]
    exact consecutive_singleton (by omega)
  | case2 input long ih =>
    have full : (input.take rate).length = rate := by rw [List.length_take]; omega
    have nonempty : input.drop rate ≠ [] := by
      rw [ne_eq, List.drop_eq_nil_iff]
      omega
    rw [blocks, if_neg long]
    have joined := Consecutive.cons full nonempty ih
    rwa [List.take_append_drop] at joined

/-- There is one way to cut an input into blocks. -/
theorem Consecutive.eq_blocks {rate : Nat} (positive : 0 < rate) {input : List α}
    {parts : List (List α)} (cut : Consecutive rate input parts) : parts = blocks rate input := by
  induction parts generalizing input with
  | nil =>
    -- there is at least one block
    obtain ⟨last, ends, -⟩ := cut.last
    cases ends
  | cons part rest ih =>
    obtain ⟨joined, full, last, ends, short, empty⟩ := cut
    cases rest with
    | nil =>
      have here : part = input := by rw [← joined, List.flatten_singleton]
      rw [List.getLast?_singleton, Option.some.injEq] at ends
      subst ends
      rw [← here, blocks_of_le short]
    | cons next others =>
      rw [List.getLast?_cons_cons] at ends
      have first : part.length = rate := full part (by simp [List.dropLast_cons_cons])
      -- the first block is full, so the input and the last block are not empty
      have filled : last ≠ [] := by
        intro none
        rw [empty none] at joined
        have emptied := List.flatten_eq_nil_iff.mp joined part List.mem_cons_self
        rw [emptied, List.length_nil] at first
        omega
      have nonempty : (next :: others).flatten ≠ [] := by
        intro none
        exact filled (List.flatten_eq_nil_iff.mp none last (List.mem_of_getLast? ends))
      have fulls : ∀ block ∈ (next :: others).dropLast, block.length = rate := by
        intro block member
        exact full block (by rw [List.dropLast_cons_cons]; exact List.mem_cons_of_mem part member)
      have later : Consecutive rate (next :: others).flatten (next :: others) :=
        ⟨rfl, fulls, last, ends, short, fun none => absurd none filled⟩
      rw [← joined, List.flatten_cons, blocks_append positive first nonempty, ← ih later]

/-! ## One element at a time -/

/-- A sponge with the elements that it has not absorbed yet. -/
structure Pending (α State : Type) where
  pending : List α
  state : State

def Pending.start (state : State) : Pending α State := ⟨[], state⟩

variable (rate : Nat) (absorb : State → List α → State)

/-- A full block is absorbed when there is one more element. -/
def Pending.take (s : Pending α State) (x : α) : Pending α State :=
  if s.pending.length = rate then ⟨[x], absorb s.state s.pending⟩
  else { s with pending := s.pending ++ [x] }

def Pending.finish (s : Pending α State) : State := absorb s.state s.pending

/-- One element at a time is block by block. -/
theorem Pending.finish_foldl (positive : 0 < rate) (input : List α) (s : Pending α State)
    (fits : s.pending.length ≤ rate) : (input.foldl (take rate absorb) s).finish absorb =
      (blocks rate (s.pending ++ input)).foldl absorb s.state := by
  induction input generalizing s with
  | nil => rw [List.append_nil, blocks_of_le fits]; rfl
  | cons x rest ih =>
    rw [List.foldl_cons, take]
    split
    next full =>
      -- the block before the element is complete
      rw [ih ⟨[x], _⟩ positive, blocks_append positive full (by simp)]
      rfl
    next room =>
      rw [ih _ (by simp; omega)]
      simp only [List.append_assoc, List.singleton_append]

theorem Pending.finish_start (positive : 0 < rate) (input : List α) (state : State) :
    (input.foldl (take rate absorb) (start state)).finish absorb =
      (blocks rate input).foldl absorb state :=
  finish_foldl rate absorb positive input (start state) (Nat.zero_le rate)

/-! ## The cache -/

/-- The first entries of the cache are pending; the others are left over. -/
structure Holds {rate : Nat} (cache : Fin rate → α) (size : Nat) (pending : List α) : Prop where
  length : pending.length = size
  fits : size ≤ rate
  entry : ∀ slot, slot.val < size → pending[slot.val]? = some (cache slot)

variable {rate} {cache : Fin rate → α} {size : Nat} {pending : List α}

theorem holds_nil (cache : Fin rate → α) : Holds cache 0 [] where
  length := rfl
  fits := Nat.zero_le rate
  entry := fun slot filled => absurd filled (Nat.not_lt_zero slot.val)

/-- An entry that is not pending counts as the default. -/
theorem Holds.getD (holds : Holds cache size pending) (slot : Fin rate) (default : α) :
    pending.getD slot.val default = if slot.val < size then cache slot else default := by
  rw [List.getD_eq_getElem?_getD]
  split
  next filled => rw [holds.entry slot filled, Option.getD_some]
  next free => rw [List.getElem?_eq_none (by rw [holds.length]; omega), Option.getD_none]

/-- The next slot takes an element, whatever it held. -/
theorem Holds.push (holds : Holds cache size pending) {slot : Fin rate} (next : slot.val = size)
    (x : α) : Holds (Function.update cache slot x) (size + 1) (pending ++ [x]) where
  length := by rw [List.length_append, List.length_singleton, holds.length]
  fits := by have := slot.isLt; omega
  entry := by
    intro other filled
    by_cases here : other = slot
    · subst here
      rw [Function.update_self, next, ← holds.length, List.getElem?_concat_length]
    · have earlier : other.val < size := by
        have differs := fun same => here (Fin.ext same)
        omega
      have within : other.val < pending.length := by rwa [holds.length]
      rw [Function.update_of_ne here, List.getElem?_append_left within]
      exact holds.entry other earlier

/-- After a block the first slot is written, and the other entries are left over. -/
theorem holds_restart (cache : Fin rate → α) {slot : Fin rate} (first : slot.val = 0) (x : α) :
    Holds (Function.update cache slot x) 1 [x] :=
  (holds_nil cache).push first x

end Absorption
