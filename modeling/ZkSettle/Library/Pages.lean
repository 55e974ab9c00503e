import Mathlib.Tactic.Common

/-!
# Pages of a sorted list

A reader follows the cursor of each page to the next one. A page ends before a row that was
read ahead. When that row itself becomes the cursor, and a page starts strictly after its
cursor, the row is on no page: every page but the last costs one row.
-/
namespace Pages

universe u v

variable {α : Type u} {κ : Type v}

/-- Reading from a cursor until a page has no next one. -/
inductive Follows (page : Option κ → Option (List α × Option κ)) :
    Option κ → List (List α) → Prop where
  | last {cursor : Option κ} {rows : List α} (fetched : page cursor = some (rows, none)) :
      Follows page cursor [rows]
  | next {cursor : Option κ} {rows : List α} {key : κ} {pages : List (List α)}
      (fetched : page cursor = some (rows, some key)) (later : Follows page (some key) pages) :
      Follows page cursor (rows :: pages)

theorem Follows.unique {page : Option κ → Option (List α × Option κ)} {cursor : Option κ}
    {pages others : List (List α)} (first : Follows page cursor pages)
    (second : Follows page cursor others) : pages = others := by
  induction first generalizing others with
  | last fetched =>
    cases second with
    | last again =>
      rw [fetched] at again
      cases again
      rfl
    | next again _ =>
      rw [fetched] at again
      cases again
  | next fetched _ ih =>
    cases second with
    | last again =>
      rw [fetched] at again
      cases again
    | next again later =>
      rw [fetched] at again
      cases again
      rw [ih later]

/-- What stands after a row in a sorted list is what is strictly after the row. -/
theorem filter_after {after : α → α → Prop} [DecidableRel after]
    (asymm : ∀ a b, after a b → ¬ after b a) {before rest : List α} {row : α}
    (sorted : (before ++ row :: rest).Pairwise after) :
    (before ++ row :: rest).filter (fun other => after row other) = rest := by
  rw [List.pairwise_append, List.pairwise_cons] at sorted
  obtain ⟨-, ⟨later, -⟩, earlier⟩ := sorted
  have none_before : before.filter (fun other => after row other) = [] := by
    rw [List.filter_eq_nil_iff]
    intro other member
    simpa using asymm other row (earlier other member row List.mem_cons_self)
  have all_after : rest.filter (fun other => after row other) = rest := by
    rw [List.filter_eq_self]
    intro other member
    simpa using later other member
  have self : ¬ after row row := fun same => asymm row row same same
  rw [List.filter_append, none_before, List.nil_append,
    List.filter_cons_of_neg (by simpa using self), all_after]

/-! ## Pages that end before their cursor -/

/-- One page of a list, with the row that was read ahead as the cursor of the next. -/
def lookAhead (limit : Nat) (key : α → κ) (rows : List α) : List α × Option κ :=
  let fetched := rows.take (limit + 1)
  if limit < fetched.length then (fetched.dropLast, fetched.getLast?.map key) else (fetched, none)

theorem lookAhead_of_le {limit : Nat} {key : α → κ} {rows : List α} (few : rows.length ≤ limit) :
    lookAhead limit key rows = (rows, none) := by
  have whole : rows.take (limit + 1) = rows := List.take_of_length_le (by omega)
  rw [lookAhead, whole, if_neg (by omega)]

theorem lookAhead_append {limit : Nat} {key : α → κ} {before rest : List α} {row : α}
    (full : before.length = limit) :
    lookAhead limit key (before ++ row :: rest) = (before, some (key row)) := by
  have fetched : (before ++ row :: rest).take (limit + 1) = before ++ [row] := by
    rw [← full, List.take_length_add_append, List.take_succ_cons, List.take_zero]
  rw [lookAhead, fetched, if_pos (by simp [full])]
  simp

/-- A page without a cursor is the whole list. -/
theorem lookAhead_whole {limit : Nat} {key : α → κ} {rows : List α}
    (last : (lookAhead limit key rows).2 = none) : (lookAhead limit key rows).1 = rows := by
  by_cases few : rows.length ≤ limit
  · rw [lookAhead_of_le few]
  · have many : limit < (rows.take (limit + 1)).length := by
      rw [List.length_take]
      omega
    have nonempty : rows.take (limit + 1) ≠ [] := List.ne_nil_of_length_pos (by omega)
    rw [lookAhead, if_pos many] at last
    exact absurd (List.getLast?_eq_none_iff.mp (Option.map_eq_none_iff.mp last)) nonempty

/-- A list longer than a page is the page, the row read ahead and the rest. -/
theorem exists_split {limit : Nat} {rows : List α} (many : limit < rows.length) :
    ∃ row, rows = rows.take limit ++ row :: rows.drop (limit + 1) := by
  refine ⟨rows[limit], ?_⟩
  rw [← List.drop_eq_getElem_cons many, List.take_append_drop]

/-- The pages when each cursor is the row that was read ahead. -/
def lookAheadPages (limit : Nat) (rows : List α) : List (List α) :=
  if limit < rows.length then rows.take limit :: lookAheadPages limit (rows.drop (limit + 1))
  else [rows]
termination_by rows.length
decreasing_by
  rw [List.length_drop]
  omega

theorem lookAheadPages_sublist (limit : Nat) (rows : List α) :
    (lookAheadPages limit rows).flatten.Sublist rows := by
  induction rows using lookAheadPages.induct limit with
  | case1 rows many ih =>
    obtain ⟨row, split⟩ := exists_split many
    rw [lookAheadPages, if_pos many, List.flatten_cons]
    conv => rhs; rw [split]
    exact List.Sublist.append (List.Sublist.refl _) (ih.cons row)
  | case2 rows few =>
    have whole : (lookAheadPages limit rows).flatten = rows := by
      rw [lookAheadPages, if_neg few, List.flatten_singleton]
    exact whole.symm ▸ List.Sublist.refl rows

/-- Nothing is lost exactly when everything is on the first page. -/
theorem lookAheadPages_length_eq_iff (limit : Nat) (rows : List α) :
    (lookAheadPages limit rows).flatten.length = rows.length ↔ rows.length ≤ limit := by
  by_cases many : limit < rows.length
  · have later := (lookAheadPages_sublist limit (rows.drop (limit + 1))).length_le
    rw [List.length_drop] at later
    rw [lookAheadPages, if_pos many, List.flatten_cons, List.length_append, List.length_take]
    omega
  · rw [lookAheadPages, if_neg many, List.flatten_singleton]
    omega

/-- A reader that starts each page strictly after its cursor gets these pages. -/
theorem follows_lookAheadPages {page : Option κ → Option (List α × Option κ)} {limit : Nat}
    {key : α → κ} {rows : List α}
    (fetches : ∀ before row later, rows = before ++ row :: later →
      page (some (key row)) = some (lookAhead limit key later))
    {cursor : Option κ} {remaining : List α}
    (fetched : page cursor = some (lookAhead limit key remaining))
    (suffix : ∃ before, rows = before ++ remaining) :
    Follows page cursor (lookAheadPages limit remaining) := by
  -- each page is fetched from another cursor, with fewer rows to come
  induction remaining using lookAheadPages.induct limit generalizing cursor with
  | case1 remaining many ih =>
    obtain ⟨row, split⟩ := exists_split many
    have full : (remaining.take limit).length = limit := List.length_take_of_le (Nat.le_of_lt many)
    obtain ⟨before, whole⟩ := suffix
    rw [split, lookAhead_append full] at fetched
    rw [split, ← List.append_assoc] at whole
    rw [lookAheadPages, if_pos many]
    refine .next fetched (ih (fetches _ row _ whole) ⟨before ++ remaining.take limit ++ [row], ?_⟩)
    rw [whole, List.append_assoc _ [row], List.singleton_append]
  | case2 remaining few =>
    rw [lookAheadPages, if_neg few]
    rw [lookAhead_of_le (by omega)] at fetched
    exact .last fetched

end Pages
