import ZkSettle.Indexer.Parse
import ZkSettle.Library.Base58
import ZkSettle.Library.Numerals
import ZkSettle.Library.Runs

/-!
# Webhook deliveries

Each delivery goes through its events one by one: it asks the dedup store, uploads, inserts
a row and marks the nullifier, and waits between these for what is outside. An upload posts its
record up to three times. Deliveries run next to each other, so any of them may move at any
time. A failure is logged, and the delivery goes on.
-/
namespace ZkSettle.Indexer

open Checks Program

/-! ## NullifierStore -/

/-- The cache in memory and the keys on disk. -/
structure NullifierStore where
  cache : List Bytes32
  db : List Bytes32

/-- A failed `put` leaves the cache alone as well. -/
def NullifierStore.markUploaded (store : NullifierStore) (nullifier : Bytes32) (written : Bool) :
    NullifierStore :=
  if written then { cache := nullifier :: store.cache, db := nullifier :: store.db } else store

/-- A failed read is taken for an absent key. -/
def NullifierStore.contains (store : NullifierStore) (nullifier : Bytes32) (readable : Bool) :
    Bool × NullifierStore :=
  if nullifier ∈ store.cache then (true, store)
  else if readable = true ∧ nullifier ∈ store.db then
    (true, { store with cache := nullifier :: store.cache })
  else (false, store)

/-- What is cached is on disk. -/
def NullifierStore.Backed (store : NullifierStore) : Prop := ∀ n ∈ store.cache, n ∈ store.db

theorem NullifierStore.contains_db (store : NullifierStore) (nullifier : Bytes32)
    (readable : Bool) : (store.contains nullifier readable).2.db = store.db := by
  rw [NullifierStore.contains]
  split
  · rfl
  · split
    · rfl
    · rfl

theorem NullifierStore.Backed.of_contains {store : NullifierStore} (backed : store.Backed)
    {nullifier : Bytes32} {readable : Bool}
    (found : (store.contains nullifier readable).1 = true) : nullifier ∈ store.db := by
  rw [NullifierStore.contains] at found
  split at found
  next cached => exact backed nullifier cached
  next =>
    split at found
    next stored => exact stored.2
    next => cases found

theorem NullifierStore.Backed.contains {store : NullifierStore} (backed : store.Backed)
    (nullifier : Bytes32) (readable : Bool) :
    (store.contains nullifier readable).2.Backed := by
  rw [NullifierStore.contains]
  split
  next => exact backed
  next =>
    split
    next stored =>
      intro n member
      rcases List.mem_cons.mp member with rfl | cached
      · exact stored.2
      · exact backed n cached
    next => exact backed

theorem NullifierStore.Backed.markUploaded {store : NullifierStore} (backed : store.Backed)
    (nullifier : Bytes32) (written : Bool) : (store.markUploaded nullifier written).Backed := by
  rw [NullifierStore.markUploaded]
  split
  · intro n member
    rcases List.mem_cons.mp member with rfl | cached
    · exact List.mem_cons_self
    · exact List.mem_cons_of_mem _ (backed n cached)
  · exact backed

/-- A check that can be read and finds nothing shows that the key is absent. -/
theorem NullifierStore.notMem_of_contains {store : NullifierStore} {nullifier : Bytes32}
    (absent : (store.contains nullifier true).1 = false) : nullifier ∉ store.db := by
  intro stored
  rw [NullifierStore.contains] at absent
  split at absent
  · cases absent
  · rw [if_pos ⟨rfl, stored⟩] at absent
    cases absent

/-! ## Rows -/

structure HeliusTransaction where
  signature : String
  slot : UInt64
  timestamp : Int64
  logMessages : List String

/-- An event that was found in a transaction. -/
structure Item where
  tx : HeliusTransaction
  event : ProofSettled

/-- `hex::encode` -/
def hexText (b : Bytes32) : String := String.ofList (Numerals.hex b.bytes)

theorem hexText_injective {a b : Bytes32} (same : hexText a = hexText b) : a = b := by
  have nonempty : ∀ b : Bytes32, b.bytes ≠ [] := by
    intro b empty
    have length := b.length_eq
    rw [empty] at length
    cases length
  have chars : Numerals.hex a.bytes = Numerals.hex b.bytes := String.ofList_injective same
  have values := Numerals.parse_hex (nonempty a)
  rw [chars, Numerals.parse_hex (nonempty b), Option.some.injEq] at values
  exact Bytes32.toNat_injective values.symm

/-- `bs58::encode` -/
def base58Text (b : Bytes32) : String := Base58.encode b.bytes

def Item.row (item : Item) : ActiveModel where
  signature := item.tx.signature
  slot := item.tx.slot.toInt64
  timestamp := item.tx.timestamp
  issuer := base58Text item.event.issuer
  nullifierHash := hexText item.event.nullifierHash
  merkleRoot := hexText item.event.merkleRoot
  sanctionsRoot := hexText item.event.sanctionsRoot
  jurisdictionRoot := hexText item.event.jurisdictionRoot
  mint := base58Text item.event.mint
  recipient := base58Text item.event.recipient
  amount := item.event.amount.toInt64
  epoch := item.event.epoch.toInt64

/-- `ON CONFLICT (nullifier_hash) DO NOTHING` -/
def insertRow (rows : List ActiveModel) (row : ActiveModel) : List ActiveModel :=
  if ∃ other ∈ rows, other.nullifierHash = row.nullifierHash then rows else rows ++ [row]

/-- The rows have a nullifier. -/
def HasRow (rows : List ActiveModel) (nullifier : Bytes32) : Prop :=
  ∃ row ∈ rows, row.nullifierHash = hexText nullifier

theorem mem_insertRow {rows : List ActiveModel} {row other : ActiveModel} (member : other ∈ rows) :
    other ∈ insertRow rows row := by
  rw [insertRow]
  split
  · exact member
  · exact List.mem_append_left _ member

theorem HasRow.insertRow {rows : List ActiveModel} {nullifier : Bytes32}
    (stored : HasRow rows nullifier) (row : ActiveModel) :
    HasRow (insertRow rows row) nullifier := by
  obtain ⟨other, member, same⟩ := stored
  exact ⟨other, mem_insertRow member, same⟩

/-- An insert that goes through leaves a row with the nullifier. -/
theorem hasRow_insertRow (rows : List ActiveModel) (item : Item) :
    HasRow (insertRow rows (item.row)) item.event.nullifierHash := by
  rw [Indexer.insertRow]
  split
  next conflict => exact conflict
  next => exact ⟨item.row, by simp, rfl⟩

/-! ## One delivery -/

/-- The dedup store, whether the Irys client has no wallet key, what Irys has, and the table,
which may be missing. -/
structure AppState where
  dedup : NullifierStore
  dryRun : Bool
  irys : List ProofSettled
  db : Option (List ActiveModel)

/-- What a call to the outside is answered. A record or a row may be stored although the answer
is a failure. Irys may be asked again when it answers with a 5xx status or not at all, and may
not when it answers with another status. -/
inductive Answer where
  | success
  | failure (again stored : Bool)
  deriving DecidableEq

def Answer.succeeds : Answer → Bool
  | .success => true
  | .failure _ _ => false

def Answer.stored : Answer → Bool
  | .success => true
  | .failure _ stored => stored

/-- `for attempt in 0..3`: whether the attempt is followed by another. -/
def Answer.retried (attempt : Nat) : Answer → Bool
  | .success => false
  | .failure again _ => again && decide (attempt + 1 < 3)

/-- What Irys has after a request. -/
def AppState.archive (s : AppState) (event : ProofSettled) (stored : Bool) : AppState :=
  if stored then { s with irys := s.irys ++ [event] } else s

/-- The table after an insert. -/
def AppState.insert (s : AppState) (row : ActiveModel) (stored : Bool) : AppState :=
  if stored then { s with db := s.db.map fun rows => insertRow rows row } else s

/-- Where a delivery stands, and the events it has still to go through. A delivery that
marks knows whether its insert went through, which it has only logged. -/
inductive Position where
  | loop (work : List Item)
  | uploading (item : Item) (attempt : Nat) (rest : List Item)
  | inserting (item : Item) (rest : List Item)
  | marking (item : Item) (inserted : Bool) (rest : List Item)
  | answered (status : Nat)
  | dropped

structure Delivery where
  transactions : List HeliusTransaction
  position : Position

def verifyAuth (authorization : Option String) (expected : String) : Bool :=
  match authorization.bind (stripPrefix · "Bearer ") with
  | some token => token == expected
  | none => false

/-- The events of a transaction; a transaction that cannot be parsed has none. -/
def HeliusTransaction.items (standard : Base64.Engine) (tx : HeliusTransaction) : List Item :=
  match extractProofSettled standard tx.logMessages with
  | .ok events => events.map fun event => { tx, event }
  | .error _ => []

/-- The events that the loops of the handler go through. -/
def items (standard : Base64.Engine) (transactions : List HeliusTransaction) : List Item :=
  transactions.flatMap (HeliusTransaction.items standard)

def Delivery.begin (standard : Base64.Engine) (heliusAuthToken : String)
    (authorization : Option String) (transactions : List HeliusTransaction) : Delivery where
  transactions
  position :=
    if verifyAuth authorization heliusAuthToken then .loop (items standard transactions)
    else .answered 401

/-- What follows an upload that has succeeded. -/
def Position.uploaded (s : AppState) (item : Item) (rest : List Item) : Position :=
  if s.db.isSome then .inserting item rest else .marking item false rest

/-- One step of the handler, when what it waits for is answered. -/
def Position.advance (s : AppState) (answer : Answer) :
    Position → Except Unit (AppState × Position)
  | .loop [] => .ok (s, .answered 200)
  | .loop (item :: rest) =>
    let found := s.dedup.contains item.event.nullifierHash answer.succeeds
    .ok ({ s with dedup := found.2 }, if found.1 then .loop rest else .uploading item 0 rest)
  | .uploading item attempt rest =>
    -- without a key nothing is sent
    if s.dryRun then .ok (s, .uploaded s item rest)
    else if answer.succeeds then .ok (s.archive item.event true, .uploaded s item rest)
    else if answer.retried attempt then
      .ok (s.archive item.event answer.stored, .uploading item (attempt + 1) rest)
    else
      -- to be retried on the next delivery, which the answer does not ask for
      .ok (s.archive item.event answer.stored, .loop rest)
  | .inserting item rest =>
    .ok (s.insert item.row answer.stored, .marking item answer.succeeds rest)
  | .marking item _ rest =>
    .ok ({ s with dedup := s.dedup.markUploaded item.event.nullifierHash answer.succeeds },
      .loop rest)
  | .answered _ => .error ()
  | .dropped => .error ()

/-! ## All deliveries -/

structure System where
  state : AppState
  deliveries : List Delivery

/-- What can happen: a delivery arrives, one moves on, the cache forgets, the process
restarts and reads its dedup store again. -/
inductive Action where
  | deliver (authorization : Option String) (transactions : List HeliusTransaction)
  | advance (id : Nat) (answer : Answer)
  | evict (kept : Bytes32 → Bool)
  | restart (warmed : Bytes32 → Bool)

def AppState.evict (s : AppState) (kept : Bytes32 → Bool) : AppState :=
  { s with dedup.cache := s.dedup.cache.filter kept }

/-- `NullifierStore::open` warms the cache with keys on disk, up to its capacity. -/
def AppState.restart (s : AppState) (warmed : Bytes32 → Bool) : AppState :=
  { s with dedup.cache := s.dedup.db.filter warmed }

theorem NullifierStore.Backed.evict {s : AppState} (backed : s.dedup.Backed)
    (kept : Bytes32 → Bool) : (s.evict kept).dedup.Backed :=
  fun n member => backed n (List.mem_of_mem_filter member)

theorem AppState.backed_restart (s : AppState) (warmed : Bytes32 → Bool) :
    (s.restart warmed).dedup.Backed :=
  fun _ member => List.mem_of_mem_filter member

/-- A delivery that has not been answered gets no answer from a process that restarts. -/
def Delivery.restart (delivery : Delivery) : Delivery :=
  match delivery.position with
  | .answered _ => delivery
  | _ => { delivery with position := .dropped }

def step (standard : Base64.Engine) (heliusAuthToken : String) (s : System) :
    Action → Except Unit System
  | .deliver authorization transactions =>
    .ok { s with
      deliveries := s.deliveries ++ [.begin standard heliusAuthToken authorization transactions] }
  | .advance id answer =>
    match s.deliveries[id]? with
    | none => .error ()
    | some delivery => do
      let (state, position) ← delivery.position.advance s.state answer
      .ok { state, deliveries := s.deliveries.set id { delivery with position } }
  | .evict kept => .ok { s with state := s.state.evict kept }
  | .restart warmed =>
    .ok { state := s.state.restart warmed, deliveries := s.deliveries.map Delivery.restart }

def run (standard : Base64.Engine) (heliusAuthToken : String) (s : System)
    (actions : List Action) : System :=
  Transactional.run (step standard heliusAuthToken) s actions

/-- Nothing has been delivered, and nothing is marked. -/
def System.start (dryRun : Bool) (db : Option (List ActiveModel)) : System where
  state :=
    { dedup := { cache := [], db := [] }
      dryRun
      irys := []
      db }
  deliveries := []

/-! ## What a step does -/

@[simp] theorem AppState.archive_dedup (s : AppState) (event : ProofSettled) (stored : Bool) :
    (s.archive event stored).dedup = s.dedup := by
  cases stored with
  | true => rfl
  | false => rfl

@[simp] theorem AppState.archive_db (s : AppState) (event : ProofSettled) (stored : Bool) :
    (s.archive event stored).db = s.db := by
  cases stored with
  | true => rfl
  | false => rfl

@[simp] theorem AppState.insert_dedup (s : AppState) (row : ActiveModel) (stored : Bool) :
    (s.insert row stored).dedup = s.dedup := by
  cases stored with
  | true => rfl
  | false => rfl

@[simp] theorem AppState.insert_irys (s : AppState) (row : ActiveModel) (stored : Bool) :
    (s.insert row stored).irys = s.irys := by
  cases stored with
  | true => rfl
  | false => rfl

@[simp] theorem AppState.mem_archive {s : AppState} {event other : ProofSettled} {stored : Bool} :
    other ∈ (s.archive event stored).irys ↔ other ∈ s.irys ∨ stored = true ∧ other = event := by
  cases stored with
  | true => simp [AppState.archive]
  | false => simp [AppState.archive]

/-- What a delivery does next: it ends, skips an event or takes it up, and for an event that
it has taken up, posts, inserts and marks, each with or without success. -/
inductive Advanced (s : AppState) : Position → Answer → AppState → Position → Prop
  | finished {answer : Answer} : Advanced s (.loop []) answer s (.answered 200)
  | skipped {item : Item} {rest : List Item} {answer : Answer}
      (duplicate : (s.dedup.contains item.event.nullifierHash answer.succeeds).1 = true) :
      Advanced s (.loop (item :: rest)) answer
        { s with dedup := (s.dedup.contains item.event.nullifierHash answer.succeeds).2 }
        (.loop rest)
  | taken {item : Item} {rest : List Item} {answer : Answer}
      (absent : (s.dedup.contains item.event.nullifierHash answer.succeeds).1 = false) :
      Advanced s (.loop (item :: rest)) answer
        { s with dedup := (s.dedup.contains item.event.nullifierHash answer.succeeds).2 }
        (.uploading item 0 rest)
  | pretended {item : Item} {attempt : Nat} {rest : List Item} {answer : Answer}
      (dry : s.dryRun = true) :
      Advanced s (.uploading item attempt rest) answer s (.uploaded s item rest)
  | uploaded {item : Item} {attempt : Nat} {rest : List Item} (live : s.dryRun = false) :
      Advanced s (.uploading item attempt rest) .success (s.archive item.event true)
        (.uploaded s item rest)
  | retried {item : Item} {attempt : Nat} {rest : List Item} {answer : Answer}
      (live : s.dryRun = false) (again : answer.retried attempt = true) :
      Advanced s (.uploading item attempt rest) answer (s.archive item.event answer.stored)
        (.uploading item (attempt + 1) rest)
  | unuploaded {item : Item} {attempt : Nat} {rest : List Item} {answer : Answer}
      (live : s.dryRun = false) (failed : answer.succeeds = false)
      (last : answer.retried attempt = false) :
      Advanced s (.uploading item attempt rest) answer (s.archive item.event answer.stored)
        (.loop rest)
  | inserted {item : Item} {rest : List Item} {answer : Answer} :
      Advanced s (.inserting item rest) answer (s.insert item.row answer.stored)
        (.marking item answer.succeeds rest)
  | marked {item : Item} {inserted : Bool} {rest : List Item} {answer : Answer} :
      Advanced s (.marking item inserted rest) answer
        { s with dedup := s.dedup.markUploaded item.event.nullifierHash answer.succeeds }
        (.loop rest)

variable {standard : Base64.Engine} {heliusAuthToken : String}

theorem advance_uploading {s s' : AppState} {item : Item} {attempt : Nat} {rest : List Item}
    {position' : Position} {answer : Answer}
    (moved : Position.advance s answer (.uploading item attempt rest) = .ok (s', position')) :
    Advanced s (.uploading item attempt rest) answer s' position' := by
  rw [Position.advance] at moved
  split at moved
  next dry =>
    cases moved
    exact .pretended dry
  next keyed =>
    have live : s.dryRun = false := by simpa using keyed
    split at moved
    next succeeded =>
      cases moved
      cases answer with
      | success => exact .uploaded live
      | failure again stored => cases succeeded
    next failed =>
      split at moved
      next again =>
        cases moved
        exact .retried live again
      next last =>
        cases moved
        exact .unuploaded live (by simpa using failed) (by simpa using last)

theorem advance_advanced {s s' : AppState} {position position' : Position} {answer : Answer}
    (moved : position.advance s answer = .ok (s', position')) :
    Advanced s position answer s' position' := by
  cases position with
  | loop work =>
    cases work with
    | nil =>
      cases moved
      exact .finished
    | cons item rest =>
      cases found : (s.dedup.contains item.event.nullifierHash answer.succeeds).1 with
      | true =>
        simp only [Position.advance, found, if_true] at moved
        cases moved
        exact .skipped found
      | false =>
        simp only [Position.advance, found] at moved
        cases moved
        exact .taken found
  | uploading item attempt rest => exact advance_uploading moved
  | inserting item rest =>
    cases moved
    exact .inserted
  | marking item inserted rest =>
    cases moved
    exact .marked
  | answered status => cases moved
  | dropped => cases moved

/-- What has been uploaded stays. -/
theorem Advanced.irys_kept {s s' : AppState} {position position' : Position} {answer : Answer}
    (moved : Advanced s position answer s' position') :
    ∀ event ∈ s.irys, event ∈ s'.irys := by
  intro event member
  cases moved with
  | uploaded => exact AppState.mem_archive.mpr (Or.inl member)
  | retried => exact AppState.mem_archive.mpr (Or.inl member)
  | unuploaded => exact AppState.mem_archive.mpr (Or.inl member)
  | inserted => simpa using member
  | _ => exact member

/-- What is cached stays backed by what is on disk. -/
theorem Advanced.backed {s s' : AppState} {position position' : Position} {answer : Answer}
    (moved : Advanced s position answer s' position') (backed : s.dedup.Backed) :
    s'.dedup.Backed := by
  cases moved with
  | skipped => exact backed.contains _ _
  | taken => exact backed.contains _ _
  | marked => exact backed.markUploaded _ _
  | uploaded => simpa using backed
  | retried => simpa using backed
  | unuploaded => simpa using backed
  | inserted => simpa using backed
  | _ => exact backed

/-- A delivery arrives, one advances, or the process forgets or restarts. -/
inductive Stepped (standard : Base64.Engine) (heliusAuthToken : String) (s : System) :
    Action → System → Prop
  | delivered {authorization : Option String} {transactions : List HeliusTransaction} :
      Stepped standard heliusAuthToken s (.deliver authorization transactions) { s with
        deliveries := s.deliveries ++ [.begin standard heliusAuthToken authorization transactions] }
  | advanced {id : Nat} {answer : Answer} {delivery : Delivery} {state : AppState}
      {position : Position} (found : s.deliveries[id]? = some delivery)
      (moved : Advanced s.state delivery.position answer state position) :
      Stepped standard heliusAuthToken s (.advance id answer)
        { state, deliveries := s.deliveries.set id { delivery with position } }
  | evicted {kept : Bytes32 → Bool} :
      Stepped standard heliusAuthToken s (.evict kept) { s with state := s.state.evict kept }
  | restarted {warmed : Bytes32 → Bool} :
      Stepped standard heliusAuthToken s (.restart warmed)
        { state := s.state.restart warmed, deliveries := s.deliveries.map Delivery.restart }

theorem step_stepped {s next : System} {action : Action}
    (accepted : step standard heliusAuthToken s action = .ok next) :
    Stepped standard heliusAuthToken s action next := by
  cases action with
  | deliver authorization transactions =>
    cases accepted
    exact .delivered
  | advance id answer =>
    rw [step] at accepted
    split at accepted
    next => cases accepted
    next delivery found =>
      obtain ⟨⟨state, position⟩, moved, same⟩ := bind_eq_ok.mp accepted
      cases same
      exact .advanced found (advance_advanced moved)
  | evict kept =>
    cases accepted
    exact .evicted
  | restart warmed =>
    cases accepted
    exact .restarted

/-! ## Invariants of each delivery -/

/-- A property of the state and one of each delivery, kept by whatever any delivery does. -/
structure Kept (standard : Base64.Engine) (heliusAuthToken : String)
    (guard : System → Action → Prop) (shared : AppState → Prop)
    (each : AppState → Delivery → Prop) : Prop where
  begin : ∀ s authorization transactions, shared s.state →
    guard s (.deliver authorization transactions) →
      each s.state (.begin standard heliusAuthToken authorization transactions)
  advance : ∀ s id answer delivery state position, shared s.state → each s.state delivery →
    s.deliveries[id]? = some delivery → guard s (.advance id answer) →
      Advanced s.state delivery.position answer state position →
        shared state ∧ each state { delivery with position } ∧
          ∀ other, each s.state other → each state other
  evict : ∀ s kept, shared s.state → guard s (.evict kept) →
    shared (s.state.evict kept) ∧ ∀ delivery, each s.state delivery →
      each (s.state.evict kept) delivery
  restart : ∀ s warmed, shared s.state → guard s (.restart warmed) →
    shared (s.state.restart warmed) ∧ ∀ delivery, each s.state delivery →
      each (s.state.restart warmed) delivery.restart

theorem Kept.step {guard : System → Action → Prop} {shared : AppState → Prop}
    {each : AppState → Delivery → Prop} (kept : Kept standard heliusAuthToken guard shared each)
    {s next : System} {action : Action} (holds : shared s.state)
    (all : ∀ delivery ∈ s.deliveries, each s.state delivery) (allowed : guard s action)
    (accepted : Indexer.step standard heliusAuthToken s action = .ok next) :
    shared next.state ∧ ∀ delivery ∈ next.deliveries, each next.state delivery := by
  cases step_stepped accepted with
  | delivered =>
    refine ⟨holds, fun delivery member => ?_⟩
    rcases List.mem_append.mp member with earlier | new
    · exact all delivery earlier
    · rw [List.mem_singleton.mp new]
      exact kept.begin s _ _ holds allowed
  | advanced found moved =>
    have here := all _ (List.mem_of_getElem? found)
    obtain ⟨after, moving, others⟩ := kept.advance s _ _ _ _ _ holds here found allowed moved
    refine ⟨after, fun delivery member => ?_⟩
    rcases List.mem_or_eq_of_mem_set member with other | rfl
    · exact others delivery (all delivery other)
    · exact moving
  | evicted =>
    obtain ⟨after, each⟩ := kept.evict s _ holds allowed
    exact ⟨after, fun delivery member => each delivery (all delivery member)⟩
  | restarted =>
    obtain ⟨after, each⟩ := kept.restart s _ holds allowed
    refine ⟨after, fun delivery member => ?_⟩
    obtain ⟨before, earlier, rfl⟩ := List.mem_map.mp member
    exact each before (all before earlier)

/-- The run lemma for such properties. -/
theorem Kept.run {guard : System → Action → Prop} {shared : AppState → Prop}
    {each : AppState → Delivery → Prop} (kept : Kept standard heliusAuthToken guard shared each)
    {dryRun : Bool} {db : Option (List ActiveModel)}
    (holds : shared (System.start dryRun db).state) {actions : List Action}
    (meets : Transactional.Meets (Indexer.step standard heliusAuthToken) guard (.start dryRun db)
      actions) :
    shared (Indexer.run standard heliusAuthToken (.start dryRun db) actions).state ∧
      ∀ delivery ∈ (Indexer.run standard heliusAuthToken (.start dryRun db) actions).deliveries,
        each (Indexer.run standard heliusAuthToken (.start dryRun db) actions).state delivery := by
  have preserved : ∀ s action next,
      (shared s.state ∧ ∀ delivery ∈ s.deliveries, each s.state delivery) → guard s action →
        Indexer.step standard heliusAuthToken s action = .ok next →
          shared next.state ∧ ∀ delivery ∈ next.deliveries, each next.state delivery :=
    fun s action next holds allowed accepted => kept.step holds.1 holds.2 allowed accepted
  exact Transactional.run_invariant_of_meets preserved _ _ meets
    ⟨holds, fun delivery member => absurd member List.not_mem_nil⟩

end ZkSettle.Indexer
