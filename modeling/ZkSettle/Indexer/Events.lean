import Mathlib.Data.List.Sort
import ZkSettle.Library.Base64
import ZkSettle.Library.BigEndian
import ZkSettle.Library.Checks

/-!
# The events table and its pages

The rows of the table, and the endpoint that lists them page by page. The cursor of a page
is the slot and the id of a row, as bytes in base64.
-/
namespace ZkSettle.Indexer

open Checks

inductive IndexerError where
  | missingEvents
  | base64Decode
  | borshDeserialize
  | database (detail : String)
  | invalidCursor
  deriving DecidableEq, Repr

/-! ## Rows -/

/-- A row that is written; the database gives it its id. -/
structure ActiveModel where
  signature : String
  slot : Int64
  timestamp : Int64
  issuer : String
  nullifierHash : String
  merkleRoot : String
  sanctionsRoot : String
  jurisdictionRoot : String
  mint : String
  recipient : String
  amount : Int64
  epoch : Int64
  deriving DecidableEq

structure Model extends ActiveModel where
  id : Int32
  deriving DecidableEq

/-- `order_by_desc(Slot).order_by_desc(Id)` -/
def newestFirst (a b : Model) : Prop := b.slot < a.slot ∨ a.slot = b.slot ∧ b.id ≤ a.id

instance : DecidableRel newestFirst := fun a b =>
  inferInstanceAs (Decidable (b.slot < a.slot ∨ a.slot = b.slot ∧ b.id ≤ a.id))

/-- A query of the table: its conditions, and how many rows it takes. -/
structure Select where
  cursor : Option (Int64 × Int32)
  fromTs : Option Int64
  toTs : Option Int64
  issuer : Option String
  recipient : Option String
  limit : Nat

def Select.accepts (select : Select) (row : Model) : Bool :=
  (select.cursor.all fun (slot, id) => row.slot < slot || (row.slot == slot && row.id < id)) &&
    (select.fromTs.all fun fromTs => fromTs ≤ row.timestamp) &&
    (select.toTs.all fun toTs => row.timestamp ≤ toTs) &&
    (select.issuer.all fun issuer => row.issuer == issuer) &&
    select.recipient.all fun recipient => row.recipient == recipient

structure EventsTable where
  rows : List Model
  primaryKey : (rows.map Model.id).Nodup

def EventsTable.all (table : EventsTable) (select : Select) : List Model :=
  ((table.rows.filter select.accepts).insertionSort newestFirst).take select.limit

/-! ## Cursors -/

section Cursors

variable (urlSafe : Base64.Engine)

def encodeCursor (slot : Int64) (id : Int32) : String :=
  urlSafe.encode ((BigEndian.encode 8 slot.toUInt64.toNat).reverse ++
    (BigEndian.encode 4 id.toUInt32.toNat).reverse)

def decodeCursor (cursor : String) : Except IndexerError (Int64 × Int32) := do
  let bytes ← okOr (urlSafe.decode cursor) .invalidCursor
  require (bytes.length = 12) IndexerError.invalidCursor
  let slot := (UInt64.ofNat (BigEndian.value (bytes.take 8).reverse)).toInt64
  let id := (UInt32.ofNat (BigEndian.value (bytes.drop 8).reverse)).toInt32
  pure (slot, id)

/-- Every cursor that is given out is read back. -/
theorem decodeCursor_encodeCursor (slot : Int64) (id : Int32) :
    decodeCursor urlSafe (encodeCursor urlSafe slot id) = .ok (slot, id) := by
  have slotBytes : ((BigEndian.encode 8 slot.toUInt64.toNat).reverse).length = 8 := by simp
  have slotBound : slot.toUInt64.toNat < 256 ^ 8 := slot.toUInt64.toNat_lt
  have idBound : id.toUInt32.toNat < 256 ^ 4 := id.toUInt32.toNat_lt
  simp only [decodeCursor, encodeCursor, urlSafe.decode_encode, bind_eq_ok, okOr_eq_ok,
    require_eq_ok, pure_eq_ok, exists_const, Option.some.injEq, exists_eq_left']
  refine ⟨by simp, ?_⟩
  rw [List.take_left' slotBytes, List.drop_left' slotBytes, List.reverse_reverse,
    List.reverse_reverse, BigEndian.value_encode slotBound, BigEndian.value_encode idBound,
    UInt64.ofNat_toNat, UInt32.ofNat_toNat, Int64.toInt64_toUInt64, Int32.toInt32_toUInt32]

end Cursors

/-! ## list_events -/

structure ListEventsQuery where
  cursor : Option String
  limit : Option Nat
  fromTs : Option Int64
  toTs : Option Int64
  issuer : Option String
  recipient : Option String

structure ListEventsResponse where
  events : List Model
  nextCursor : Option String

/-- `unwrap_or(50).clamp(1, 200)` -/
def pageLimit (limit : Option Nat) : Nat := min (max (limit.getD 50) 1) 200

def ListEventsQuery.query (params : ListEventsQuery) (cursor : Option (Int64 × Int32))
    (limit : Nat) : Select where
  cursor
  fromTs := params.fromTs
  toTs := params.toTs
  issuer := params.issuer
  recipient := params.recipient
  limit

def readCursor (urlSafe : Base64.Engine) : Option String →
    Except IndexerError (Option (Int64 × Int32))
  | none => .ok none
  | some cursor => (decodeCursor urlSafe cursor).map some

/-- `all` runs a query; its error is the text of the database. -/
def listEvents (urlSafe : Base64.Engine) (all : Select → Except String (List Model))
    (params : ListEventsQuery) : Except IndexerError ListEventsResponse := do
  let limit := pageLimit params.limit
  let cursor ← readCursor urlSafe params.cursor
  let rows ← (all (params.query cursor (limit + 1))).mapError .database
  if limit < rows.length then
    -- the row that was read ahead leaves the page, and the next page starts after it
    pure
      { events := rows.dropLast
        nextCursor := rows.getLast?.map fun last => encodeCursor urlSafe last.slot last.id }
  else
    pure { events := rows, nextCursor := none }

/-- The page of a query that the database answers. -/
theorem listEvents_ok {urlSafe : Base64.Engine} {all : Select → Except String (List Model)}
    {params : ListEventsQuery} {key : Option (Int64 × Int32)} {rows : List Model}
    (decoded : readCursor urlSafe params.cursor = .ok key)
    (answered : all (params.query key (pageLimit params.limit + 1)) = .ok rows) :
    listEvents urlSafe all params = .ok (if pageLimit params.limit < rows.length then
        { events := rows.dropLast
          nextCursor := rows.getLast?.map fun last => encodeCursor urlSafe last.slot last.id }
      else { events := rows, nextCursor := none }) := by
  simp only [listEvents, decoded, answered, Except.mapError, bind, Except.bind]
  split
  · rfl
  · rfl

end ZkSettle.Indexer
