import ZkSettle.Indexer.Pagination
import ZkSettle.Indexer.Settlements
import ZkSettle.Program.Guards
import ZkSettle.Program.Records

/-!
# From the program to its readers

The program, the indexer and the endpoint that lists the events, one behind the other. Each call
of the program that succeeds lands in a transaction, whose log has the events of the call.
Deliveries bring such transactions in any order and any number of times, and most that can fail
in the indexer may fail. What is listed is what the program has announced, field by field; and
when nothing fails, what was announced is listed.
-/
namespace ZkSettle.Indexer.Chain

open Checks Program

variable {Proof Address World : Type}

/-! ## The program and the indexer -/

/-- A transaction with a call of the program, and the settlements that the call announced. -/
structure Landed where
  tx : HeliusTransaction
  settled : List ProofSettled

structure System (World : Type) where
  chain : State World
  landed : List Landed
  indexer : Indexer.System

/-- The indexer is set up, with an empty table, when the program has already run. Its client
uploads. -/
def System.start (chain : State World) : System World where
  chain
  landed := []
  indexer := .start false (some [])

inductive Action where
  /-- a call of the program, in the transaction -/
  | call (call : Call) (tx : HeliusTransaction)
  | indexer (action : Indexer.Action)

def Action.toIndexer : Action → Option Indexer.Action
  | .call _ _ => none
  | .indexer action => some action

/-- The settlements that are announced on the way from one state to a later one. -/
def announced (before after : State World) : List ProofSettled :=
  settlements (after.events.drop before.events.length)

def step (env : External Proof Address World) (standard : Base64.Engine)
    (heliusAuthToken : String) (s : System World) : Action → Except Unit (System World)
  | .call call tx => do
    -- a call that fails does not land
    let chain ← (Program.step env s.chain call).mapError fun _ => ()
    .ok { s with chain, landed := s.landed ++ [⟨tx, announced s.chain chain⟩] }
  | .indexer action => do
    let indexer ← Indexer.step standard heliusAuthToken s.indexer action
    .ok { s with indexer }

def run (env : External Proof Address World) (standard : Base64.Engine)
    (heliusAuthToken : String) (s : System World) (actions : List Action) : System World :=
  Transactional.run (step env standard heliusAuthToken) s actions

/-- The log of the transaction has the data of the settlements as the program's own, and no
other data that is or might be an event. -/
def Shows (standard : Base64.Engine) (tx : HeliusTransaction) (settled : List ProofSettled) :
    Prop :=
  ∃ log : Log, tx.logMessages = log.lines 1 ∧
    (∀ line ∈ log.written none, Readable standard line.2) ∧ foreign standard log = [] ∧
      own standard log = settled

/-- The log of a transaction shows what its call announced, and whoever knows the token delivers
transactions that have landed. -/
def Faithful (env : External Proof Address World) (standard : Base64.Engine)
    (heliusAuthToken : String) (s : System World) : Action → Prop
  | .call call tx => ∀ next, Program.step env s.chain call = .ok next →
      Shows standard tx (announced s.chain next)
  | .indexer (.deliver authorization transactions) =>
    verifyAuth authorization heliusAuthToken = true →
      ∀ tx ∈ transactions, ∃ landed ∈ s.landed, landed.tx = tx
  | .indexer _ => True

/-! ## Transactions -/

section Transactions

variable {standard : Base64.Engine}

theorem mem_own {log : Log} (readable : ∀ line ∈ log.written none, Readable standard line.2)
    (alone : foreign standard log = []) {event : ProofSettled} :
    event ∈ returned standard log ↔ event ∈ own standard log := by
  rw [returned_of_readable standard readable]
  constructor
  · intro member
    obtain ⟨line, written, found⟩ := List.mem_filterMap.mp member
    by_cases program : line.1 = some zksettleId
    · exact List.mem_filterMap.mpr ⟨line, List.mem_filter.mpr ⟨written, by simp [program]⟩, found⟩
    · -- another program's line would be a foreign event
      have other : event ∈ foreign standard log :=
        List.mem_filterMap.mpr ⟨line, List.mem_filter.mpr ⟨written, by simp [program]⟩, found⟩
      rw [alone] at other
      cases other
  · intro member
    obtain ⟨line, filtered, found⟩ := List.mem_filterMap.mp member
    exact List.mem_filterMap.mpr ⟨line, (List.mem_filter.mp filtered).1, found⟩

theorem items_of_log {tx : HeliusTransaction} {log : Log} (lines : tx.logMessages = log.lines 1) :
    tx.items standard = (returned standard log).map fun event => { tx, event } := by
  rw [HeliusTransaction.items, lines, returned]
  cases extractProofSettled standard (log.lines 1) with
  | ok events => rfl
  | error failure => rfl

/-- The parser finds in a transaction what it shows. -/
theorem Shows.mem_items {tx : HeliusTransaction} {settled : List ProofSettled}
    (shows : Shows standard tx settled) {item : Item} :
    item ∈ tx.items standard ↔ item.tx = tx ∧ item.event ∈ settled := by
  obtain ⟨log, lines, readable, alone, rfl⟩ := shows
  rw [items_of_log lines, List.mem_map]
  constructor
  · rintro ⟨event, member, rfl⟩
    exact ⟨rfl, (mem_own readable alone).mp member⟩
  · rintro ⟨rfl, member⟩
    exact ⟨item.event, (mem_own readable alone).mpr member, rfl⟩

end Transactions

/-! ## What the indexer has comes from what it was sent -/

/-- What is uploaded or has a row is from a source. -/
structure Sourced (source : Item → Prop) (s : AppState) : Prop where
  rows : ∀ rows, s.db = some rows → ∀ row ∈ rows, ∃ item, source item ∧ row = item.row
  uploads : ∀ event ∈ s.irys, ∃ item, source item ∧ item.event = event

/-- What a delivery has still to do is from the source. -/
def Waits (source : Item → Prop) (_ : AppState) (delivery : Delivery) : Prop :=
  ∀ item ∈ delivery.position.todo, source item

def Offers (standard : Base64.Engine) (heliusAuthToken : String) (source : Item → Prop)
    (_ : Indexer.System) : Indexer.Action → Prop
  | .deliver authorization transactions => verifyAuth authorization heliusAuthToken = true →
      ∀ item ∈ items standard transactions, source item
  | _ => True

section Sources

variable {standard : Base64.Engine} {heliusAuthToken : String} {source : Item → Prop}

theorem todo_restart (delivery : Delivery) :
    ∀ item ∈ delivery.restart.position.todo, item ∈ delivery.position.todo := by
  obtain ⟨transactions, position⟩ := delivery
  cases position with
  | answered status => exact fun item member => member
  | _ => exact fun item none => absurd none List.not_mem_nil

theorem todo_uploaded {s : AppState} {item other : Item} {rest : List Item}
    (member : other ∈ (Position.uploaded s item rest).todo) : other ∈ item :: rest := by
  rw [Position.uploaded] at member
  split at member
  · exact member
  · exact member

/-- A delivery takes up nothing new. -/
theorem todo_advanced {s s' : AppState} {position position' : Position} {answer : Answer}
    (moved : Advanced s position answer s' position') :
    ∀ item ∈ position'.todo, item ∈ position.todo := by
  intro item member
  cases moved with
  | pretended => exact todo_uploaded member
  | uploaded => exact todo_uploaded member
  | skipped => exact List.mem_cons_of_mem _ member
  | unuploaded => exact List.mem_cons_of_mem _ member
  | marked => exact List.mem_cons_of_mem _ member
  | _ => exact member

theorem Sourced.archive {s : AppState} (sourced : Sourced source s) {item : Item}
    (known : source item) (stored : Bool) : Sourced source (s.archive item.event stored) where
  rows := by
    rw [AppState.archive_db]
    exact sourced.rows
  uploads event member := by
    rcases AppState.mem_archive.mp member with earlier | ⟨-, rfl⟩
    · exact sourced.uploads event earlier
    · exact ⟨item, known, rfl⟩

theorem Sourced.insert {s : AppState} (sourced : Sourced source s) {item : Item}
    (known : source item) (stored : Bool) : Sourced source (s.insert item.row stored) := by
  cases stored with
  | false => exact sourced
  | true =>
    refine ⟨fun rows table row member => ?_, sourced.uploads⟩
    obtain ⟨before, found, rfl⟩ := Option.map_eq_some_iff.mp table
    rw [insertRow] at member
    split at member
    next => exact sourced.rows before found row member
    next =>
      rcases List.mem_append.mp member with earlier | new
      · exact sourced.rows before found row earlier
      · exact ⟨item, known, List.mem_singleton.mp new⟩

theorem Sourced.advance {s s' : AppState} {position position' : Position} {answer : Answer}
    (sourced : Sourced source s) (waits : ∀ item ∈ position.todo, source item)
    (moved : Advanced s position answer s' position') : Sourced source s' := by
  cases moved with
  | uploaded => exact sourced.archive (waits _ List.mem_cons_self) _
  | retried => exact sourced.archive (waits _ List.mem_cons_self) _
  | unuploaded => exact sourced.archive (waits _ List.mem_cons_self) _
  | inserted => exact sourced.insert (waits _ List.mem_cons_self) _
  | _ => exact ⟨sourced.rows, sourced.uploads⟩

theorem sourced_kept : Kept standard heliusAuthToken (Offers standard heliusAuthToken source)
    (Sourced source) (Waits source) where
  begin s authorization transactions _ offers := by
    intro item member
    rw [Delivery.begin] at member
    split at member
    next authorized => exact offers authorized item member
    next => cases member
  advance s id answer delivery state position sourced waits _ _ moved :=
    ⟨sourced.advance waits moved, fun item member => waits item (todo_advanced moved item member),
      fun _ other => other⟩
  evict _ _ sourced _ := ⟨⟨sourced.rows, sourced.uploads⟩, fun _ waits => waits⟩
  restart _ _ sourced _ := ⟨⟨sourced.rows, sourced.uploads⟩,
    fun delivery waits item member => waits item (todo_restart delivery item member)⟩

end Sources

theorem Sourced.mono {source source' : Item → Prop} {s : AppState} (sourced : Sourced source s)
    (more : ∀ item, source item → source' item) : Sourced source' s where
  rows rows table row member := by
    obtain ⟨item, from_source, same⟩ := sourced.rows rows table row member
    exact ⟨item, more item from_source, same⟩
  uploads event member := by
    obtain ⟨item, from_source, same⟩ := sourced.uploads event member
    exact ⟨item, more item from_source, same⟩

/-! ## Runs -/

/-- The event is one that the transaction shows. -/
def Source (landed : List Landed) (item : Item) : Prop :=
  ∃ entry ∈ landed, item.tx = entry.tx ∧ item.event ∈ entry.settled

/-- Whatever the indexer has comes from a transaction that has landed, and whatever such a
transaction shows was announced. -/
structure Mirrors (standard : Base64.Engine) (s : System World) : Prop where
  valid : FinalizedPayloadsValid s.chain
  landed : ∀ entry ∈ s.landed, Shows standard entry.tx entry.settled ∧
    ∀ event ∈ entry.settled, event ∈ settlements s.chain.events
  sourced : Sourced (Source s.landed) s.indexer.state
  waits : ∀ delivery ∈ s.indexer.deliveries, Waits (Source s.landed) s.indexer.state delivery

section Runs

variable {env : External Proof Address World} {standard : Base64.Engine}
  {heliusAuthToken : String}

theorem mirrors_start {chain : State World} (valid : FinalizedPayloadsValid chain) :
    Mirrors standard (.start chain) where
  valid
  landed := by rintro entry ⟨⟩
  sourced := by
    refine ⟨?_, ?_⟩
    · rintro _ ⟨⟩ row ⟨⟩
    · rintro event ⟨⟩
  waits := by rintro delivery ⟨⟩

/-- A call that succeeds only adds to the events. -/
theorem step_announced {s s' : State World} {call : Call} (valid : FinalizedPayloadsValid s)
    (accepted : Program.step env s call = .ok s') :
    settlements s'.events = settlements s.events ++ announced s s' := by
  have grows : ∃ emitted, s'.events = s.events ++ emitted := by
    rcases step_quiet_or_settled valid accepted with quiet | ⟨params, settled⟩
    · rcases quiet.events with same | ⟨checked, -, same⟩
      · exact ⟨[], by rw [same, List.append_nil]⟩
      · exact ⟨_, same⟩
    · exact ⟨_, settled.events⟩
  obtain ⟨emitted, same⟩ := grows
  rw [announced, same, List.drop_left, settlements_append]

theorem step_mirrors {s next : System World} {action : Action} (mirrors : Mirrors standard s)
    (faithful : Faithful env standard heliusAuthToken s action)
    (accepted : step env standard heliusAuthToken s action = .ok next) :
    Mirrors standard next := by
  cases action with
  | call call tx =>
    obtain ⟨chain, called, same⟩ := bind_eq_ok.mp accepted
    cases same
    have called := mapError_eq_ok.mp called
    have grown := step_announced mirrors.valid called
    have more : ∀ item, Source s.landed item →
        Source (s.landed ++ [⟨tx, announced s.chain chain⟩]) item := by
      rintro item ⟨entry, member, shown⟩
      exact ⟨entry, List.mem_append_left _ member, shown⟩
    refine ⟨step_finalizedPayloadsValid mirrors.valid called, fun entry member => ?_,
      mirrors.sourced.mono more,
      fun delivery member item waiting => more item (mirrors.waits delivery member item waiting)⟩
    rw [grown]
    rcases List.mem_append.mp member with earlier | new
    · obtain ⟨shows, known⟩ := mirrors.landed entry earlier
      exact ⟨shows, fun event settled => List.mem_append_left _ (known event settled)⟩
    · obtain rfl := List.mem_singleton.mp new
      exact ⟨faithful chain called, fun event settled => List.mem_append_right _ settled⟩
  | indexer action =>
    obtain ⟨indexer, moved, same⟩ := bind_eq_ok.mp accepted
    cases same
    have offers : Offers standard heliusAuthToken (Source s.landed) s.indexer action := by
      cases action with
      | deliver authorization transactions =>
        intro authorized item member
        obtain ⟨tx, delivered, found⟩ := List.mem_flatMap.mp member
        obtain ⟨entry, there, rfl⟩ := faithful authorized tx delivered
        exact ⟨entry, there, (mirrors.landed entry there).1.mem_items.mp found⟩
      | _ => trivial
    obtain ⟨sourced, waits⟩ := sourced_kept.step mirrors.sourced mirrors.waits offers moved
    exact ⟨mirrors.valid, mirrors.landed, sourced, waits⟩

theorem run_mirrors {chain : State World} (valid : FinalizedPayloadsValid chain)
    {actions : List Action}
    (faithful : Transactional.Meets (step env standard heliusAuthToken)
      (Faithful env standard heliusAuthToken) (.start chain) actions) :
    Mirrors standard (run env standard heliusAuthToken (.start chain) actions) :=
  Transactional.run_invariant_of_meets
    (fun _ _ _ mirrors faithful accepted => step_mirrors mirrors faithful accepted)
    _ _ faithful (mirrors_start valid)

/-- The indexer runs by itself. -/
theorem run_indexer (s : System World) (actions : List Action) :
    (run env standard heliusAuthToken s actions).indexer =
      Indexer.run standard heliusAuthToken s.indexer (actions.filterMap Action.toIndexer) := by
  induction actions generalizing s with
  | nil => rfl
  | cons action rest ih =>
    rw [run, Transactional.run_cons, ← run, ih]
    cases action with
    | call call tx =>
      rw [List.filterMap_cons, Action.toIndexer]
      congr 1
      cases called : Program.step env s.chain call with
      | error failure =>
        simp [Transactional.commit, step, called, Except.mapError, bind, Except.bind]
      | ok chain => simp [Transactional.commit, step, called, Except.mapError, bind, Except.bind]
    | indexer action =>
      rw [List.filterMap_cons, Action.toIndexer, Indexer.run, Indexer.run,
        Transactional.run_cons]
      congr 1
      cases moved : Indexer.step standard heliusAuthToken s.indexer action with
      | error failure => simp [Transactional.commit, step, moved, bind, Except.bind]
      | ok indexer => simp [Transactional.commit, step, moved, bind, Except.bind]

/-! ## Whoever reads -/

/-- The endpoint over the table. -/
def reads (urlSafe : Base64.Engine) (table : EventsTable) (params : ListEventsQuery) :
    Except IndexerError ListEventsResponse :=
  listEvents urlSafe (fun select => .ok (table.all select)) params

theorem mem_of_reads {urlSafe : Base64.Engine} {table : EventsTable} {params : ListEventsQuery}
    {response : ListEventsResponse} (answered : reads urlSafe table params = .ok response) :
    ∀ row ∈ response.events, row ∈ table.rows := by
  have stored : ∀ select, ∀ row ∈ table.all select, row ∈ table.rows := by
    intro select row member
    have sorted : row ∈ (table.rows.filter select.accepts).insertionSort newestFirst :=
      List.mem_of_mem_take member
    exact List.mem_of_mem_filter ((List.perm_insertionSort newestFirst _).mem_iff.mp sorted)
  simp only [reads, listEvents, bind_eq_ok, mapError_eq_ok] at answered
  obtain ⟨key, -, rows, same, answered⟩ := answered
  cases same
  intro row member
  split at answered
  next =>
    cases answered
    exact stored _ row (List.mem_of_mem_dropLast member)
  next =>
    cases answered
    exact stored _ row member

/-- A first page without a next one has all the rows that match. -/
theorem reads_all {urlSafe : Base64.Engine} {table : EventsTable} {params : ListEventsQuery}
    {response : ListEventsResponse} (answered : reads urlSafe table params = .ok response)
    (first : params.cursor = none) (last : response.nextCursor = none) {row : Model}
    (member : row ∈ table.rows) (match' : params.matches row = true) : row ∈ response.events := by
  have same : { params with cursor := none } = params := by
    rw [← first]
  have fetched := fetchPage_none urlSafe table params
  rw [reads] at answered
  rw [fetchPage, same, answered] at fetched
  have page := Option.some.inj fetched
  have whole := Pages.lookAhead_whole ((congrArg Prod.snd page).symm.trans last)
  have events : response.events = table.sorted params.matches :=
    (congrArg Prod.fst page).trans whole
  rw [events]
  exact (table.sorted_perm _).mem_iff.mpr (List.mem_filter.mpr ⟨member, match'⟩)

/-- Whatever fails, however often and in whatever order transactions are delivered: each row
that a reader is ever shown is that of a settlement which the program has announced, in every
field, with the transaction that it was announced in; and so is each upload. -/
theorem listed_settled {world : World} {before : List Call} {actions : List Action}
    (faithful : Transactional.Meets (step env standard heliusAuthToken)
      (Faithful env standard heliusAuthToken) (.start (Program.run env (.deployed world) before))
      actions)
    {s : System World}
    (reached : s = run env standard heliusAuthToken
      (.start (Program.run env (.deployed world) before)) actions) :
    (∀ urlSafe table params response,
      s.indexer.state.db = some (table.rows.map Model.toActiveModel) →
        reads urlSafe table params = .ok response → ∀ row ∈ response.events,
          ∃ entry ∈ s.landed, ∃ event ∈ entry.settled,
            event ∈ settlements s.chain.events ∧ row.toActiveModel = Item.row ⟨entry.tx, event⟩) ∧
    ∀ event ∈ s.indexer.state.irys, event ∈ settlements s.chain.events := by
  have mirrors : Mirrors standard s := by
    rw [reached]
    exact run_mirrors (run_finalizedPayloadsValid world before) faithful
  constructor
  · intro urlSafe table params response stored answered row member
    have there : row.toActiveModel ∈ table.rows.map Model.toActiveModel :=
      List.mem_map_of_mem (mem_of_reads answered row member)
    obtain ⟨⟨tx, event⟩, ⟨entry, landed, rfl, settled⟩, same⟩ :=
      mirrors.sourced.rows _ stored _ there
    exact ⟨entry, landed, event, settled, (mirrors.landed entry landed).2 event settled, same⟩
  · intro event member
    obtain ⟨item, ⟨entry, landed, -, settled⟩, rfl⟩ := mirrors.sourced.uploads event member
    exact (mirrors.landed entry landed).2 item.event settled

/-- When nothing fails in the indexer and all is answered: a settlement whose transaction was
delivered, and whose nullifier no other one has, is uploaded, and every reader whose query it
matches is shown it on a page that is the first and the last one. -/
theorem settled_listed {world : World} {before : List Call} {actions : List Action}
    (faithful : Transactional.Meets (step env standard heliusAuthToken)
      (Faithful env standard heliusAuthToken) (.start (Program.run env (.deployed world) before))
      actions)
    (flawless : ∀ action, .indexer action ∈ actions → Flawless action)
    {s : System World}
    (reached : s = run env standard heliusAuthToken
      (.start (Program.run env (.deployed world) before)) actions)
    (answered : Answered s.indexer) {entry : Landed} (landed : entry ∈ s.landed)
    {authorization : Option String} {transactions : List HeliusTransaction}
    (delivery : .indexer (.deliver authorization transactions) ∈ actions)
    (authorized : verifyAuth authorization heliusAuthToken = true)
    (delivered : entry.tx ∈ transactions) {event : ProofSettled} (settled : event ∈ entry.settled)
    (alone : ∀ other ∈ settlements s.chain.events,
      other.nullifierHash = event.nullifierHash → other = event) :
    event ∈ s.indexer.state.irys ∧
    ∀ urlSafe table params response,
      s.indexer.state.db = some (table.rows.map Model.toActiveModel) →
        reads urlSafe table params = .ok response → params.cursor = none →
          response.nextCursor = none →
            ∃ origin ∈ s.landed, event ∈ origin.settled ∧ ∃ row ∈ table.rows,
              row.toActiveModel = Item.row ⟨origin.tx, event⟩ ∧
                (params.matches row = true → row ∈ response.events) := by
  have mirrors : Mirrors standard s := by
    rw [reached]
    exact run_mirrors (run_finalizedPayloadsValid world before) faithful
  have alone' : ∀ item, Source s.landed item → item.event.nullifierHash = event.nullifierHash →
      item.event = event := by
    rintro item ⟨origin, member, -, shown⟩ same
    exact alone item.event ((mirrors.landed origin member).2 item.event shown) same
  -- the indexer has gone through the delivery
  have indexer : s.indexer = Indexer.run standard heliusAuthToken (.start false (some []))
      (actions.filterMap Action.toIndexer) := by
    rw [reached]
    exact run_indexer _ actions
  have flawless' : ∀ action ∈ actions.filterMap Action.toIndexer, Flawless action := by
    intro action member
    obtain ⟨whole, there, same⟩ := List.mem_filterMap.mp member
    cases whole with
    | call call tx => cases same
    | indexer action' =>
      cases same
      exact flawless _ there
  have found : event ∈ deliveredEvents standard heliusAuthToken
      (actions.filterMap Action.toIndexer) := by
    refine List.mem_map.mpr ⟨⟨entry.tx, event⟩, List.mem_flatMap.mpr
      ⟨_, List.mem_filterMap.mpr ⟨_, delivery, rfl⟩, ?_⟩, rfl⟩
    rw [Action.delivered, if_pos authorized]
    exact List.mem_flatMap.mpr ⟨entry.tx, delivered,
      (mirrors.landed entry landed).1.mem_items.mpr ⟨rfl, settled⟩⟩
  rw [indexer] at answered
  obtain ⟨-, uploaded, stored⟩ := settled_of_delivered flawless' answered found
  rw [← indexer] at uploaded stored
  constructor
  · obtain ⟨sent, member, same⟩ := uploaded
    obtain ⟨item, source, rfl⟩ := mirrors.sourced.uploads sent member
    rwa [alone' item source same] at member
  · intro urlSafe table params response rows read first last
    obtain ⟨model, member, nullifier⟩ := stored _ rows
    obtain ⟨⟨tx, other⟩, source, same⟩ := mirrors.sourced.rows _ rows model member
    obtain ⟨row, there, rfl⟩ := List.mem_map.mp member
    -- the row with the nullifier is that of the settlement
    have hash : other.nullifierHash = event.nullifierHash := by
      rw [same] at nullifier
      exact hexText_injective nullifier
    obtain rfl : other = event := alone' _ source hash
    obtain ⟨origin, landed', rfl, shown⟩ := source
    exact ⟨origin, landed', shown, row, there, same, reads_all read first last there⟩

end Runs

/-! ## One settlement, from its call to its reader -/

section Sample

open Scenario

def settledEvent : ProofSettled where
  version := 1
  issuer
  nullifierHash
  merkleRoot := .ofNat 7
  sanctionsRoot := .ofNat 8
  jurisdictionRoot := .ofNat 9
  mint
  recipient
  amount := 50
  epoch := 1
  timestamp := 86400
  slot := clock.slot
  payer

def settledLog : Log :=
  .call zksettleId (.data (eventText Base64.standard settledEvent) .done) .success .done

def settledTx : HeliusTransaction where
  signature := "txSig1"
  slot := 500
  timestamp := 1700000000
  logMessages := settledLog.lines 1

/-- The call, a delivery of its transaction, and what the delivery does. -/
def settledActions : List Action :=
  .call (settle bindings 20) settledTx ::
    .indexer (.deliver (some "Bearer test-token") [settledTx]) ::
      List.replicate 5 (.indexer (.advance 0 .success))

def settledItem : Item := { tx := settledTx, event := settledEvent }

/-- Where the delivery stands. -/
def delivering (chain : State Reference.Ledger) (state : AppState) (position : Position) :
    System Reference.Ledger where
  chain
  landed := [⟨settledTx, [settledEvent]⟩]
  indexer := { state, deliveries := [{ transactions := [settledTx], position }] }

def emptyTable : AppState := (Indexer.System.start false (some [])).state

def uploadedEvent : AppState := { emptyTable with irys := [settledEvent] }

def insertedRow : AppState := { uploadedEvent with db := some [settledItem.row] }

def markedNullifier : AppState :=
  { insertedRow with dedup := { cache := [nullifierHash], db := [nullifierHash] } }

abbrev machine : System Reference.Ledger → Action → Except Unit (System Reference.Ledger) :=
  step reference Base64.standard "test-token"

theorem step_settles : ∃ chain, Program.step reference prepared (settle bindings 20) = .ok chain ∧
    chain.events = [.proofSettled settledEvent] := by
  have events : ((Program.step reference prepared (settle bindings 20)).toOption.map
      State.events) = some [.proofSettled settledEvent] := by decide +kernel
  cases outcome : Program.step reference prepared (settle bindings 20) with
  | error failure =>
    rw [outcome] at events
    cases events
  | ok chain =>
    rw [outcome] at events
    exact ⟨chain, rfl, Option.some.inj events⟩

/-- What the call of the sample announces. -/
theorem announced_prepared {chain : State Reference.Ledger}
    (events : chain.events = [.proofSettled settledEvent]) :
    announced prepared chain = [settledEvent] := by
  rw [announced, events]
  rfl

theorem shows_settledTx : Shows Base64.standard settledTx [settledEvent] := by
  have parsed := parseData_eventText Base64.standard settledEvent
  have written : settledLog.written none =
      [(some zksettleId, eventText Base64.standard settledEvent)] := rfl
  have found : lineEvent Base64.standard (eventText Base64.standard settledEvent) =
      some settledEvent := by
    rw [lineEvent, parsed]
    rfl
  refine ⟨settledLog, rfl, ?_, ?_, ?_⟩
  · intro line member
    rw [written, List.mem_singleton] at member
    rw [member]
    exact ⟨_, parsed⟩
  · simp [foreign, written]
  · simp [own, written, found]

theorem items_settledTx : items Base64.standard [settledTx] = [settledItem] := by
  have parsed := parseData_eventText Base64.standard settledEvent
  have written : settledLog.written none =
      [(some zksettleId, eventText Base64.standard settledEvent)] := rfl
  have given : returned Base64.standard settledLog = [settledEvent] := by
    rw [returned_eq, written, List.map_singleton, parseAll, parsed]
    rfl
  have lines : settledTx.logMessages = settledLog.lines 1 := rfl
  rw [items, List.flatMap_singleton, items_of_log lines, given]
  rfl

/-- The steps of the sample, from the call to the answer. -/
theorem step_call {chain : State Reference.Ledger}
    (accepted : Program.step reference prepared (settle bindings 20) = .ok chain)
    (events : chain.events = [.proofSettled settledEvent]) :
    machine (.start prepared) (.call (settle bindings 20) settledTx) =
      .ok { chain
            landed := [⟨settledTx, [settledEvent]⟩]
            indexer := .start false (some []) } := by
  simp only [machine, step, System.start, accepted, Except.mapError, bind, Except.bind,
    announced_prepared events]
  rfl

theorem step_deliver (chain : State Reference.Ledger) :
    machine { chain, landed := [⟨settledTx, [settledEvent]⟩], indexer := .start false (some []) }
        (.indexer (.deliver (some "Bearer test-token") [settledTx])) =
      .ok (delivering chain emptyTable (.loop [settledItem])) := by
  have begun : Delivery.begin Base64.standard "test-token" (some "Bearer test-token") [settledTx] =
      { transactions := [settledTx], position := .loop [settledItem] } := by
    rw [Delivery.begin, verifyAuth_sample, if_pos rfl, items_settledTx]
  simp only [machine, step, Indexer.step, begun, bind, Except.bind]
  rfl

theorem run_settled {chain : State Reference.Ledger}
    (accepted : Program.step reference prepared (settle bindings 20) = .ok chain)
    (events : chain.events = [.proofSettled settledEvent]) :
    run reference Base64.standard "test-token" (.start prepared) settledActions =
      delivering chain markedNullifier (.answered 200) := by
  rw [run, settledActions, Transactional.run_cons_ok (step_call accepted events),
    Transactional.run_cons_ok (step_deliver chain)]
  rfl

theorem faithful_settled : Transactional.Meets machine
    (Faithful reference Base64.standard "test-token")
    (.start (Program.run reference (.deployed []) prepare)) settledActions := by
  obtain ⟨chain, accepted, events⟩ := step_settles
  rw [run_prepare]
  refine (Transactional.meets_cons_ok (step_call accepted events) _).mpr ⟨?_, ?_⟩
  · intro next again
    obtain rfl : chain = next := Except.ok.inj (accepted.symm.trans again)
    have shown : announced (System.start prepared).chain chain = [settledEvent] :=
      announced_prepared events
    rw [shown]
    exact shows_settledTx
  refine (Transactional.meets_cons_ok (step_deliver chain) _).mpr ⟨?_, ?_⟩
  · intro _ tx member
    rw [List.mem_singleton.mp member]
    exact ⟨_, List.mem_singleton_self _, rfl⟩
  · refine Transactional.meets_of_forall _ _ fun action member s => ?_
    rw [List.eq_of_mem_replicate member]
    trivial

theorem listed_settled_one : ∃ s : System Reference.Ledger,
    (∀ urlSafe table params response,
      s.indexer.state.db = some (table.rows.map Model.toActiveModel) →
        reads urlSafe table params = .ok response → ∀ row ∈ response.events,
          ∃ entry ∈ s.landed, ∃ event ∈ entry.settled,
            event ∈ settlements s.chain.events ∧ row.toActiveModel = Item.row ⟨entry.tx, event⟩) ∧
    ∀ event ∈ s.indexer.state.irys, event ∈ settlements s.chain.events :=
  ⟨_, listed_settled faithful_settled rfl⟩

theorem settled_listed_one : ∃ s : System Reference.Ledger,
    settledEvent ∈ s.indexer.state.irys ∧
    ∀ urlSafe table params response,
      s.indexer.state.db = some (table.rows.map Model.toActiveModel) →
        reads urlSafe table params = .ok response → params.cursor = none →
          response.nextCursor = none →
            ∃ origin ∈ s.landed, settledEvent ∈ origin.settled ∧ ∃ row ∈ table.rows,
              row.toActiveModel = Item.row ⟨origin.tx, settledEvent⟩ ∧
                (params.matches row = true → row ∈ response.events) := by
  obtain ⟨chain, accepted, events⟩ := step_settles
  have reached : delivering chain markedNullifier (.answered 200) =
      run reference Base64.standard "test-token"
        (.start (Program.run reference (.deployed []) prepare)) settledActions := by
    rw [run_prepare]
    exact (run_settled accepted events).symm
  have flawless : ∀ action, .indexer action ∈ settledActions → Flawless action := by
    intro action member
    simp only [settledActions, List.mem_cons, List.mem_replicate, reduceCtorEq,
      Action.indexer.injEq, false_or] at member
    rcases member with rfl | ⟨-, rfl⟩
    · trivial
    · rfl
  have answered : Answered (delivering chain markedNullifier (.answered 200)).indexer := by
    intro delivery member
    rw [List.mem_singleton.mp member]
    exact ⟨200, rfl⟩
  have delivery : .indexer (.deliver (some "Bearer test-token") [settledTx]) ∈ settledActions := by
    simp [settledActions]
  have alone : ∀ other ∈
      settlements (delivering chain markedNullifier (.answered 200)).chain.events,
      other.nullifierHash = settledEvent.nullifierHash → other = settledEvent := by
    intro other member _
    have one : settlements chain.events = [settledEvent] := by
      rw [events]
      rfl
    rw [delivering, one] at member
    exact List.mem_singleton.mp member
  exact ⟨_, settled_listed faithful_settled flawless reached answered (List.mem_singleton_self _)
    delivery (verifyAuth_sample) (List.mem_singleton_self _) (List.mem_singleton_self _) alone⟩

end Sample

end ZkSettle.Indexer.Chain
