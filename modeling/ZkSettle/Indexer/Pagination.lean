import ZkSettle.Indexer.Events
import ZkSettle.Library.Pages

/-!
# Reading all pages

A reader who follows the cursors sees the rows that match the filters, newest first, but
for the rows that were read ahead: each becomes the cursor of a page that starts strictly
after it. So every row is read exactly when all of them are on the first page.
-/
namespace ZkSettle.Indexer

open Checks Pages

variable (urlSafe : Base64.Engine) (table : EventsTable) (params : ListEventsQuery)

/-! ## The pages of a reader -/

/-- The filters of a query, without its cursor. -/
def ListEventsQuery.matches (row : Model) : Bool := (params.query none 0).accepts row

/-- The page at a cursor, from a database that answers. -/
def fetchPage (cursor : Option String) : Option (List Model × Option String) :=
  (listEvents urlSafe (fun select => .ok (table.all select)) { params with cursor }).toOption.map
    fun response => (response.events, response.nextCursor)

/-- Strictly newer. -/
def newer (a b : Model) : Prop := b.slot < a.slot ∨ a.slot = b.slot ∧ b.id < a.id

instance : DecidableRel newer := fun a b =>
  inferInstanceAs (Decidable (b.slot < a.slot ∨ a.slot = b.slot ∧ b.id < a.id))

/-- Following the cursors ends, and yields each of the matching rows once, newest first. -/
def Lossless : Prop :=
  ∃ pages, Follows (fetchPage urlSafe table params) none pages ∧
    pages.flatten.Perm (table.rows.filter params.matches) ∧ pages.flatten.Pairwise newer

/-! ## The order of the rows -/

theorem newestFirst_iff (a b : Model) : newestFirst a b ↔ b.slot.toInt < a.slot.toInt ∨
    a.slot.toInt = b.slot.toInt ∧ b.id.toInt ≤ a.id.toInt := by
  rw [newestFirst, Int64.lt_iff_toInt_lt, ← Int64.toInt_inj, Int32.le_iff_toInt_le]

theorem newer_iff (a b : Model) : newer a b ↔ b.slot.toInt < a.slot.toInt ∨
    a.slot.toInt = b.slot.toInt ∧ b.id.toInt < a.id.toInt := by
  rw [newer, Int64.lt_iff_toInt_lt, ← Int64.toInt_inj, Int32.lt_iff_toInt_lt]

theorem newer_asymm (a b : Model) (newerRow : newer a b) : ¬ newer b a := by
  rw [newer_iff] at newerRow ⊢
  omega

theorem newer_of_newestFirst {a b : Model} (sorted : newestFirst a b) (distinct : a.id ≠ b.id) :
    newer a b := by
  rw [← Int32.toInt_inj.ne] at distinct
  rw [newestFirst_iff] at sorted
  rw [newer_iff]
  omega

instance : Std.Total newestFirst where
  total a b := by
    rw [newestFirst_iff, newestFirst_iff]
    omega

instance : IsTrans Model newestFirst where
  trans a b c := by
    rw [newestFirst_iff, newestFirst_iff, newestFirst_iff]
    omega

/-- The rows with a property, in the order of the endpoint. -/
def EventsTable.sorted (table : EventsTable) (property : Model → Bool) : List Model :=
  (table.rows.filter property).insertionSort newestFirst

section Sorted

variable {table}

theorem EventsTable.sorted_perm (property : Model → Bool) :
    (table.sorted property).Perm (table.rows.filter property) :=
  List.perm_insertionSort newestFirst _

theorem EventsTable.sorted_pairwise (property : Model → Bool) :
    (table.sorted property).Pairwise newer := by
  have ids : ((table.sorted property).map Model.id).Nodup :=
    ((table.sorted_perm property).map Model.id).nodup_iff.mpr
      (table.primaryKey.sublist (List.filter_sublist.map Model.id))
  have sorted : (table.sorted property).Pairwise newestFirst :=
    List.pairwise_insertionSort newestFirst _
  exact (sorted.and (List.pairwise_map.mp ids)).imp fun both => newer_of_newestFirst both.1 both.2

/-- A further condition filters the sorted rows. -/
theorem EventsTable.sorted_and (property further : Model → Bool) :
    (table.sorted fun row => further row && property row) =
      (table.sorted property).filter further := by
  -- both are sorted strictly, and have the same rows
  have perm : (table.sorted fun row => further row && property row).Perm
      ((table.sorted property).filter further) := by
    refine (table.sorted_perm _).trans ?_
    rw [← List.filter_filter]
    exact (table.sorted_perm property).symm.filter further
  exact perm.eq_of_pairwise (fun a b _ _ first second => absurd second (newer_asymm a b first))
    (table.sorted_pairwise _) ((table.sorted_pairwise property).sublist List.filter_sublist)

end Sorted

/-! ## One page -/

/-- The key of a row as a cursor. -/
def rowCursor (row : Model) : String := encodeCursor urlSafe row.slot row.id

/-- A page is what the rows that its query accepts begin with. -/
theorem fetchPage_eq {cursor : Option String} {key : Option (Int64 × Int32)}
    (decoded : readCursor urlSafe cursor = .ok key) :
    fetchPage urlSafe table params cursor = some (lookAhead (pageLimit params.limit)
      (rowCursor urlSafe) (table.sorted (params.query key 0).accepts)) := by
  have rows : table.all (params.query key (pageLimit params.limit + 1)) =
      (table.sorted (params.query key 0).accepts).take (pageLimit params.limit + 1) := rfl
  have response : listEvents urlSafe (fun select => .ok (table.all select))
      { params with cursor } = _ := listEvents_ok decoded (congrArg Except.ok rows)
  rw [fetchPage, response, lookAhead, Except.toOption, Option.map_some]
  split
  · rfl
  · rfl

/-- The first page is the beginning of the matching rows. -/
theorem fetchPage_none : fetchPage urlSafe table params none = some
    (lookAhead (pageLimit params.limit) (rowCursor urlSafe) (table.sorted params.matches)) :=
  fetchPage_eq urlSafe table params rfl

/-- The page at the cursor of a row is the beginning of the matching rows after it. -/
theorem fetchPage_rowCursor (row : Model) :
    fetchPage urlSafe table params (some (rowCursor urlSafe row)) = some
      (lookAhead (pageLimit params.limit) (rowCursor urlSafe)
        ((table.sorted params.matches).filter fun other => newer row other)) := by
  have decoded : readCursor urlSafe (some (rowCursor urlSafe row)) =
      .ok (some (row.slot, row.id)) := by
    rw [readCursor, rowCursor, decodeCursor_encodeCursor]
    rfl
  have accepts : (params.query (some (row.slot, row.id)) 0).accepts =
      fun other => decide (newer row other) && params.matches other := by
    funext other
    have after : (decide (other.slot < row.slot) ||
        (other.slot == row.slot && decide (other.id < row.id))) = decide (newer row other) := by
      rw [Bool.eq_iff_iff]
      simp only [Bool.or_eq_true, Bool.and_eq_true, decide_eq_true_iff, beq_iff_eq, newer,
        @eq_comm _ row.slot]
    simp only [Select.accepts, ListEventsQuery.query, ListEventsQuery.matches, after,
      Option.all_some, Option.all_none, Bool.true_and, Bool.and_assoc]
  rw [fetchPage_eq urlSafe table params decoded, accepts, EventsTable.sorted_and]

/-! ## All pages -/

theorem follows_pages : Follows (fetchPage urlSafe table params) none
    (lookAheadPages (pageLimit params.limit) (table.sorted params.matches)) := by
  have fetches : ∀ before row later, table.sorted params.matches = before ++ row :: later →
      fetchPage urlSafe table params (some (rowCursor urlSafe row)) =
        some (lookAhead (pageLimit params.limit) (rowCursor urlSafe) later) := by
    intro before row later split
    have sorted : (before ++ row :: later).Pairwise newer :=
      split ▸ table.sorted_pairwise params.matches
    rw [fetchPage_rowCursor, split, filter_after newer_asymm sorted]
  exact follows_lookAheadPages fetches (fetchPage_none urlSafe table params) ⟨[], rfl⟩

/-- A reader who gets all rows gets them on the first page. -/
theorem Lossless.fits (lossless : Lossless urlSafe table params) :
    (table.rows.filter params.matches).length ≤ pageLimit params.limit := by
  obtain ⟨pages, follows, perm, -⟩ := lossless
  have length := (table.sorted_perm params.matches).length_eq
  rw [follows.unique (follows_pages urlSafe table params)] at perm
  rw [← length, ← lookAheadPages_length_eq_iff, length, perm.length_eq]

/-- All the matching rows are read exactly when they fit on the first page. -/
theorem lossless_iff_fits : Lossless urlSafe table params ↔
    (table.rows.filter params.matches).length ≤ pageLimit params.limit := by
  refine ⟨fun lossless => lossless.fits, fun fits => ?_⟩
  have sublist := lookAheadPages_sublist (pageLimit params.limit) (table.sorted params.matches)
  rw [← (table.sorted_perm params.matches).length_eq, ← lookAheadPages_length_eq_iff] at fits
  have same := sublist.eq_of_length fits
  refine ⟨_, follows_pages urlSafe table params, ?_, ?_⟩
  · rw [same]
    exact table.sorted_perm params.matches
  · rw [same]
    exact table.sorted_pairwise params.matches

/-! ## A row that is lost -/

def sampleRow (id : Int32) (nullifierHash : String) : Model where
  signature := "sig"
  slot := 100
  timestamp := 1700000000
  issuer := "issuerA"
  nullifierHash
  merkleRoot := "mr"
  sanctionsRoot := "sr"
  jurisdictionRoot := "jr"
  mint := "mint_a"
  recipient := "recipA"
  amount := 1000000
  epoch := 1
  id

theorem sampleRows_ids :
    ([sampleRow 1 "nh_1", sampleRow 2 "nh_2"].map Model.id).Nodup := by decide

def twoRows : EventsTable where
  rows := [sampleRow 1 "nh_1", sampleRow 2 "nh_2"]
  primaryKey := sampleRows_ids

/-- Two rows on pages of one: the second page is empty. -/
theorem not_lossless : ¬ ∀ (urlSafe : Base64.Engine) (table : EventsTable)
    (params : ListEventsQuery), Lossless urlSafe table params := by
  intro always
  have fits := (always Base64.urlSafeNoPad twoRows
    { cursor := none
      limit := some 1
      fromTs := none
      toTs := none
      issuer := none
      recipient := none }).fits
  exact absurd fits (by decide)

end ZkSettle.Indexer
