import ZkSettle.Indexer.Rows
import ZkSettle.Indexer.Uploads

/-!
# Whose settlements are kept

The program settles each pair of an issuer and a nullifier once. The dedup store and the
table know only the nullifier. Without failures every delivered event is kept as long as no two
events have a nullifier in common; where deliveries do not get into each other's way, no longer.
-/
namespace ZkSettle.Indexer

open Program

variable {standard : Base64.Engine} {heliusAuthToken : String}

/-! ## Deliveries without failures -/

/-- Nothing fails in this step. -/
def Flawless : Action → Prop
  | .advance _ answer => answer = .success
  | .restart _ => False
  | .deliver _ _ => True
  | .evict _ => True

/-- What an action delivers: the events, with their transactions. -/
def Action.delivered (standard : Base64.Engine) (heliusAuthToken : String) : Action → List Item
  | .deliver authorization transactions =>
    if verifyAuth authorization heliusAuthToken then items standard transactions else []
  | .advance _ _ => []
  | .evict _ => []
  | .restart _ => []

def deliveredItems (standard : Base64.Engine) (heliusAuthToken : String)
    (actions : List Action) : List Item :=
  actions.flatMap (Action.delivered standard heliusAuthToken)

def deliveredEvents (standard : Base64.Engine) (heliusAuthToken : String)
    (actions : List Action) : List ProofSettled :=
  (deliveredItems standard heliusAuthToken actions).map Item.event

def Answered (s : System) : Prop :=
  ∀ delivery ∈ s.deliveries, ∃ status, delivery.position = .answered status

/-- The event itself has been uploaded, and the table has its row, from one of the transactions
that have brought it. -/
def Keeps (delivered : List Item) (s : AppState) (event : ProofSettled) : Prop :=
  event ∈ s.irys ∧
    ∃ rows, s.db = some rows ∧ ∃ item ∈ delivered, item.event = event ∧ item.row ∈ rows

/-! ## Deliveries go through all their events -/

/-- The events that a delivery has not yet done with. -/
def Position.todo : Position → List Item
  | .loop work => work
  | .uploading item _ rest => item :: rest
  | .inserting item rest => item :: rest
  | .marking item _ rest => item :: rest
  | .answered _ => []
  | .dropped => []

/-- Someone's settlement with the nullifier has been uploaded and has a row. -/
def AppState.Settled (s : AppState) (nullifier : Bytes32) : Prop :=
  (∃ event ∈ s.irys, event.nullifierHash = nullifier) ∧ s.Stored nullifier

/-- What is uploaded or has a row has been delivered, and what is marked is settled. -/
structure Traced (delivered : List Item) (s : AppState) : Prop where
  backed : s.dedup.Backed
  live : s.dryRun = false
  table : ∃ rows, s.db = some rows ∧ ∀ row ∈ rows, ∃ item ∈ delivered, row = item.row
  uploads : ∀ event ∈ s.irys, ∃ item ∈ delivered, item.event = event
  settled : ∀ n ∈ s.dedup.db, s.Settled n

/-- Each event of a delivery is yet to do or marked; what it inserts is uploaded, and what it
marks is settled. -/
structure Progress (standard : Base64.Engine) (delivered : List Item) (s : AppState)
    (delivery : Delivery) : Prop where
  todo : ∀ item ∈ delivery.position.todo, item ∈ delivered
  done : delivery.position = .answered 401 ∨ ∀ item ∈ items standard delivery.transactions,
    item ∈ delivery.position.todo ∨ item.event.nullifierHash ∈ s.dedup.db
  uploaded : ∀ item rest, delivery.position = .inserting item rest → item.event ∈ s.irys
  settled : ∀ item inserted rest, delivery.position = .marking item inserted rest →
    s.Settled item.event.nullifierHash

/-- A flawless step, which delivers only the given events. -/
def Delivers (standard : Base64.Engine) (heliusAuthToken : String) (delivered : List Item)
    (_ : System) (action : Action) : Prop :=
  Flawless action ∧ ∀ item ∈ action.delivered standard heliusAuthToken, item ∈ delivered

theorem Advanced.settled_kept {s s' : AppState} {position position' : Position} {answer : Answer}
    (moved : Advanced s position answer s' position') {nullifier : Bytes32}
    (settled : s.Settled nullifier) : s'.Settled nullifier := by
  obtain ⟨⟨event, uploaded, same⟩, stored⟩ := settled
  exact ⟨⟨event, moved.irys_kept event uploaded, same⟩, moved.stored_kept stored⟩

variable {delivered : List Item}

theorem Progress.mono {s s' : AppState} {position position' : Position} {answer : Answer}
    (moved : Advanced s position answer s' position') {delivery : Delivery}
    (progress : Progress standard delivered s delivery) :
    Progress standard delivered s' delivery where
  todo := progress.todo
  done := progress.done.imp_right fun each item member =>
    (each item member).imp_right moved.marks_kept
  uploaded item rest inserting := moved.irys_kept _ (progress.uploaded item rest inserting)
  settled item inserted rest marking :=
    moved.settled_kept (progress.settled item inserted rest marking)

theorem progress_begin {s : AppState} {authorization : Option String}
    {transactions : List HeliusTransaction}
    (brought : ∀ item ∈ (Action.deliver authorization transactions).delivered standard
      heliusAuthToken, item ∈ delivered) :
    Progress standard delivered s
      (.begin standard heliusAuthToken authorization transactions) := by
  rw [Action.delivered] at brought
  rw [Delivery.begin]
  cases authorized : verifyAuth authorization heliusAuthToken with
  | false =>
    exact ⟨fun item member => absurd member List.not_mem_nil, Or.inl rfl, by rintro _ _ ⟨⟩,
      by rintro _ _ _ ⟨⟩⟩
  | true =>
    rw [authorized, if_pos rfl] at brought
    exact ⟨brought, Or.inr fun item member => Or.inl member, by rintro _ _ ⟨⟩,
      by rintro _ _ _ ⟨⟩⟩

/-- A delivery that moves was not turned away. -/
theorem Advanced.not_answered {s s' : AppState} {position position' : Position} {answer : Answer}
    (moved : Advanced s position answer s' position') (status : Nat) :
    position ≠ .answered status := by
  rintro rfl
  cases moved

/-- What a step has to show of the delivery itself. -/
theorem Progress.move {s s' : AppState} {delivery : Delivery} {position : Position}
    (progress : Progress standard delivered s delivery)
    (moved : Advanced s delivery.position .success s' position)
    (fewer : ∀ item ∈ position.todo, item ∈ delivery.position.todo)
    (done : ∀ item ∈ delivery.position.todo,
      item ∈ position.todo ∨ item.event.nullifierHash ∈ s'.dedup.db)
    (uploaded : ∀ item rest, position = .inserting item rest → item.event ∈ s'.irys)
    (settled : ∀ item inserted rest, position = .marking item inserted rest →
      s'.Settled item.event.nullifierHash) :
    Progress standard delivered s' { delivery with position } where
  todo item member := progress.todo item (fewer item member)
  done := Or.inr fun item member => by
    rcases progress.done.resolve_left (moved.not_answered 401) item member with waiting | marked
    · exact done item waiting
    · exact Or.inr (moved.marks_kept marked)
  uploaded := uploaded
  settled := settled

/-- A step that is done with its event. -/
theorem Progress.moveOn {s s' : AppState} {delivery : Delivery} {rest : List Item}
    (progress : Progress standard delivered s delivery)
    (moved : Advanced s delivery.position .success s' (.loop rest)) {item : Item}
    (first : delivery.position.todo = item :: rest)
    (marked : item.event.nullifierHash ∈ s'.dedup.db) :
    Progress standard delivered s' { delivery with position := .loop rest } := by
  apply progress.move moved
  · intro other later
    rw [first]
    exact List.mem_cons_of_mem _ later
  · intro other member
    rw [first] at member
    rcases List.mem_cons.mp member with rfl | later
    · exact Or.inr marked
    · exact Or.inl later
  · rintro _ _ ⟨⟩
  · rintro _ _ _ ⟨⟩

theorem progress_advance {s : AppState} {delivery : Delivery} {state : AppState}
    {position : Position} (traced : Traced delivered s)
    (progress : Progress standard delivered s delivery)
    (moved : Advanced s delivery.position .success state position) :
    Traced delivered state ∧ Progress standard delivered state { delivery with position } := by
  have backed := moved.backed traced.backed
  have settled : ∀ n ∈ s.dedup.db, state.Settled n :=
    fun n marked => moved.settled_kept (traced.settled n marked)
  have advanced := moved
  obtain ⟨transactions, before⟩ := delivery
  cases moved with
  | finished =>
    refine ⟨traced, progress.move advanced ?_ ?_ ?_ ?_⟩
    · exact fun item none => absurd none List.not_mem_nil
    · exact fun item none => absurd none List.not_mem_nil
    · rintro _ _ ⟨⟩
    · rintro _ _ _ ⟨⟩
  | skipped duplicate =>
    -- the skipped event is done with: its nullifier is marked
    have marked := advanced.marks_kept (traced.backed.of_contains duplicate)
    refine ⟨⟨backed, traced.live, traced.table, traced.uploads, fun n stored => ?_⟩,
      progress.moveOn advanced rfl marked⟩
    rw [NullifierStore.contains_db] at stored
    exact settled n stored
  | taken absent =>
    refine ⟨⟨backed, traced.live, traced.table, traced.uploads, fun n stored => ?_⟩,
      progress.move advanced (fun item member => member) (fun item => Or.inl) ?_ ?_⟩
    · rw [NullifierStore.contains_db] at stored
      exact settled n stored
    · rintro _ _ ⟨⟩
    · rintro _ _ _ ⟨⟩
  | pretended dry => exact absurd (dry.symm.trans traced.live) nofun
  | @uploaded item attempt rest live =>
    -- with a table, an upload is followed by an insert
    have present : s.db.isSome = true := by
      obtain ⟨rows, found, -⟩ := traced.table
      rw [found]
      rfl
    rw [Position.uploaded, if_pos present] at advanced ⊢
    refine ⟨⟨backed, traced.live, traced.table, fun event member => ?_, settled⟩,
      progress.move advanced (fun item member => member) (fun item => Or.inl) ?_ ?_⟩
    · rcases AppState.mem_archive.mp member with earlier | ⟨-, rfl⟩
      · exact traced.uploads event earlier
      · exact ⟨item, progress.todo item List.mem_cons_self, rfl⟩
    · rintro _ _ ⟨⟩
      exact AppState.mem_archive.mpr (Or.inr ⟨rfl, rfl⟩)
    · rintro _ _ _ ⟨⟩
  | retried live again => cases again
  | unuploaded live failed last => cases failed
  | @inserted item rest =>
    obtain ⟨rows, found, brought⟩ := traced.table
    have sent := progress.uploaded item rest rfl
    refine ⟨⟨backed, traced.live, ⟨insertRow rows item.row, ?_, fun row member => ?_⟩,
      traced.uploads, settled⟩,
      progress.move advanced (fun item member => member) (fun item => Or.inl) ?_ ?_⟩
    · exact congrArg (Option.map fun rows => insertRow rows item.row) found
    · rw [insertRow] at member
      split at member
      next => exact brought row member
      next =>
        rcases List.mem_append.mp member with earlier | new
        · exact brought row earlier
        · exact ⟨item, progress.todo item List.mem_cons_self, List.mem_singleton.mp new⟩
    · rintro _ _ ⟨⟩
    · rintro _ _ _ ⟨⟩
      exact ⟨⟨item.event, sent, rfl⟩, AppState.stored_insert s item⟩
  | @marked item inserted rest =>
    have here := progress.settled item inserted rest rfl
    refine ⟨⟨backed, traced.live, traced.table, traced.uploads, fun n marked => ?_⟩,
      progress.moveOn advanced rfl List.mem_cons_self⟩
    rcases List.mem_cons.mp marked with rfl | earlier
    · exact here
    · exact settled n earlier

theorem progress_kept : Kept standard heliusAuthToken
    (Delivers standard heliusAuthToken delivered) (Traced delivered)
    (Progress standard delivered) where
  begin _ _ _ _ allowed := progress_begin allowed.2
  advance s id answer delivery state position traced progress _ allowed moved := by
    obtain rfl : answer = .success := allowed.1
    obtain ⟨after, here⟩ := progress_advance traced progress moved
    exact ⟨after, here, fun _ other => other.mono moved⟩
  evict s kept traced _ :=
    ⟨⟨traced.backed.evict kept, traced.live, traced.table, traced.uploads, traced.settled⟩,
      fun _ progress => ⟨progress.todo, progress.done, progress.uploaded, progress.settled⟩⟩
  restart _ _ _ allowed := absurd allowed.1 id

/-! ## Every delivered event -/

/-- An event is delivered by a delivery that was let in. -/
def Received (standard : Base64.Engine) (s : System) (item : Item) : Prop :=
  ∃ delivery ∈ s.deliveries, delivery.position ≠ .answered 401 ∧
    item ∈ items standard delivery.transactions

theorem Advanced.not_refused {s s' : AppState} {position position' : Position} {answer : Answer}
    (moved : Advanced s position answer s' position') : position' ≠ .answered 401 := by
  have uploaded : ∀ item rest, Position.uploaded s item rest ≠ .answered 401 := by
    intro item rest
    rw [Position.uploaded]
    split
    · simp
    · simp
  cases moved with
  | pretended => exact uploaded _ _
  | uploaded => exact uploaded _ _
  | _ => simp

theorem Received.step {s next : System} {action : Action} {item : Item}
    (received : Received standard s item)
    (accepted : Indexer.step standard heliusAuthToken s action = .ok next) :
    Received standard next item := by
  obtain ⟨delivery, member, admitted, here⟩ := received
  cases step_stepped accepted with
  | delivered => exact ⟨delivery, List.mem_append_left _ member, admitted, here⟩
  | @advanced id answer moving state position found moved =>
    -- a delivery that was let in is never turned away
    rcases Slots.mem_set_or_eq found member { moving with position } with rfl | stays
    · exact ⟨_, Slots.mem_set_self found _, moved.not_refused, here⟩
    · exact ⟨delivery, stays, admitted, here⟩
  | evicted => exact ⟨delivery, member, admitted, here⟩
  | restarted =>
    refine ⟨delivery.restart, List.mem_map_of_mem member, ?_, ?_⟩
    · rw [Delivery.restart]
      split
      · exact admitted
      · nofun
    · rw [Delivery.restart]
      split
      · exact here
      · exact here

theorem received_deliver {s next : System} {action : Action} {item : Item}
    (brought : item ∈ action.delivered standard heliusAuthToken)
    (accepted : step standard heliusAuthToken s action = .ok next) :
    Received standard next item := by
  cases action with
  | deliver authorization transactions =>
    cases accepted
    rw [Action.delivered] at brought
    cases authorized : verifyAuth authorization heliusAuthToken with
    | false =>
      rw [authorized] at brought
      cases brought
    | true =>
      rw [authorized, if_pos rfl] at brought
      refine ⟨_, List.mem_append_right _ (List.mem_singleton_self _), ?_, brought⟩
      rw [Delivery.begin, authorized]
      rintro ⟨⟩
  | _ => cases brought

theorem received_of_delivered {s : System} {actions : List Action} {item : Item}
    (brought : item ∈ deliveredItems standard heliusAuthToken actions) :
    Received standard (run standard heliusAuthToken s actions) item := by
  -- each action meets its own state, so the state varies in the induction
  induction actions generalizing s with
  | nil => cases brought
  | cons action rest ih =>
    rw [deliveredItems, List.flatMap_cons] at brought
    rcases List.mem_append.mp brought with here | later
    · have accepted : ∃ next, step standard heliusAuthToken s action = .ok next := by
        cases action with
        | deliver authorization transactions => exact ⟨_, rfl⟩
        | _ => cases here
      obtain ⟨next, accepted⟩ := accepted
      rw [run, Transactional.run_cons_ok accepted]
      have preserved : ∀ s action next, Received standard s item →
          step standard heliusAuthToken s action = .ok next → Received standard next item :=
        fun s action next received moved => received.step moved
      exact Transactional.run_invariant preserved _ _ (received_deliver here accepted)
    · rw [run, Transactional.run_cons]
      exact ih later

/-! ## Settlements with one nullifier -/

theorem meets_delivers {actions : List Action} (flawless : ∀ action ∈ actions, Flawless action)
    (s : System) : Transactional.Meets (step standard heliusAuthToken)
      (Delivers standard heliusAuthToken (deliveredItems standard heliusAuthToken actions)) s
      actions :=
  Transactional.meets_of_forall s actions fun action member _ =>
    ⟨flawless action member, fun _ brought => List.mem_flatMap.mpr ⟨action, member, brought⟩⟩

theorem traced_start (delivered : List Item) :
    Traced delivered (System.start false (some [])).state where
  backed := fun _ member => absurd member List.not_mem_nil
  live := rfl
  table := ⟨[], rfl, nofun⟩
  uploads := nofun
  settled := nofun

/-- When all is done, someone's settlement is kept for every delivered nullifier. -/
theorem settled_of_delivered {actions : List Action}
    (flawless : ∀ action ∈ actions, Flawless action)
    (answered : Answered (run standard heliusAuthToken (.start false (some [])) actions))
    {event : ProofSettled} (brought : event ∈ deliveredEvents standard heliusAuthToken actions) :
    Traced (deliveredItems standard heliusAuthToken actions)
        (run standard heliusAuthToken (.start false (some [])) actions).state ∧
      (run standard heliusAuthToken (.start false (some [])) actions).state.Settled
        event.nullifierHash := by
  obtain ⟨traced, progress⟩ := progress_kept.run (traced_start _) (meets_delivers flawless _)
  obtain ⟨item, found, rfl⟩ := List.mem_map.mp brought
  obtain ⟨delivery, member, admitted, here⟩ := received_of_delivered found
  obtain ⟨status, position⟩ := answered delivery member
  rcases (progress delivery member).done.resolve_left admitted item here with waiting | marked
  · rw [position] at waiting
    cases waiting
  · exact ⟨traced, traced.settled _ marked⟩

/-- Someone's settlement is the event itself, when no other event has its nullifier. -/
theorem Keeps.of_settled {s : AppState} {event : ProofSettled} (traced : Traced delivered s)
    (settled : s.Settled event.nullifierHash)
    (alone : ∀ item ∈ delivered, item.event.nullifierHash = event.nullifierHash →
      item.event = event) : Keeps delivered s event := by
  obtain ⟨⟨sent, uploaded, same⟩, stored⟩ := settled
  obtain ⟨rows, found, brought⟩ := traced.table
  constructor
  · obtain ⟨item, member, rfl⟩ := traced.uploads sent uploaded
    rwa [alone item member same] at uploaded
  · obtain ⟨row, there, nullifier⟩ := stored rows found
    obtain ⟨item, member, rfl⟩ := brought row there
    exact ⟨rows, found, item, member, alone item member (hexText_injective nullifier), there⟩

/-- In a run without failures whose deliveries do not get into each other's way, two uploaded
events with one nullifier are the same event. -/
theorem uploaded_unique {actions : List Action} (flawless : ∀ action ∈ actions, Flawless action)
    (apart : Transactional.Meets (step standard heliusAuthToken) Excludes
      (.start false (some [])) actions) {a b : ProofSettled}
    (uploaded : a ∈ (run standard heliusAuthToken (.start false (some [])) actions).state.irys)
    (uploaded' : b ∈ (run standard heliusAuthToken (.start false (some [])) actions).state.irys)
    (same : a.nullifierHash = b.nullifierHash) : a = b := by
  have careful : Transactional.Meets (step standard heliusAuthToken) Careful
      (.start false (some [])) actions := by
    refine apart.imp fun action member s excludes => ?_
    have works := flawless action member
    cases action with
    | advance id answer =>
      obtain rfl : answer = .success := works
      exact .of_excludes excludes
    | restart warmed => exact absurd works id
    | deliver authorization transactions => exact ⟨trivial, trivial, trivial⟩
    | evict kept => exact ⟨trivial, trivial, trivial⟩
  exact List.inj_on_of_nodup_map (exclusive_run careful).once uploaded uploaded' same

/-- Any two delivered events of different settlements are both kept. -/
def KeepsAll (standard : Base64.Engine) (heliusAuthToken : String) (actions : List Action) :
    Prop :=
  ∀ a ∈ deliveredEvents standard heliusAuthToken actions,
    ∀ b ∈ deliveredEvents standard heliusAuthToken actions,
      a.issuer ≠ b.issuer ∨ a.nullifierHash ≠ b.nullifierHash →
        Keeps (deliveredItems standard heliusAuthToken actions)
            (run standard heliusAuthToken (.start false (some [])) actions).state a ∧
          Keeps (deliveredItems standard heliusAuthToken actions)
            (run standard heliusAuthToken (.start false (some [])) actions).state b

/-- No two different events have a nullifier in common. -/
def NullifiersApart (events : List ProofSettled) : Prop :=
  ∀ a ∈ events, ∀ b ∈ events, a.nullifierHash = b.nullifierHash → a = b

/-- All events are of one settlement. -/
def OneSettlement (events : List ProofSettled) : Prop :=
  ∀ a ∈ events, ∀ b ∈ events, a.issuer = b.issuer ∧ a.nullifierHash = b.nullifierHash

/-- Without failures, and with a client that uploads: events of different settlements are all
kept when no two different events have a nullifier in common, and, as long as no delivery looks
up a nullifier that another one is busy with, only then. Of one settlement there are no two. -/
theorem keeps_all_iff {actions : List Action} (flawless : ∀ action ∈ actions, Flawless action)
    (answered : Answered (run standard heliusAuthToken (.start false (some [])) actions)) :
    (NullifiersApart (deliveredEvents standard heliusAuthToken actions) ∨
        OneSettlement (deliveredEvents standard heliusAuthToken actions) →
      KeepsAll standard heliusAuthToken actions) ∧
    (Transactional.Meets (step standard heliusAuthToken) Excludes (.start false (some []))
        actions →
      (KeepsAll standard heliusAuthToken actions ↔
        NullifiersApart (deliveredEvents standard heliusAuthToken actions) ∨
          OneSettlement (deliveredEvents standard heliusAuthToken actions))) := by
  have enough : NullifiersApart (deliveredEvents standard heliusAuthToken actions) ∨
      OneSettlement (deliveredEvents standard heliusAuthToken actions) →
        KeepsAll standard heliusAuthToken actions := by
    rintro (alone | one) a brought b brought' differ
    · have each : ∀ event ∈ deliveredEvents standard heliusAuthToken actions,
          Keeps (deliveredItems standard heliusAuthToken actions)
            (run standard heliusAuthToken (.start false (some [])) actions).state event := by
        intro event member
        obtain ⟨traced, settled⟩ := settled_of_delivered flawless answered member
        exact .of_settled traced settled fun item there =>
          alone item.event (List.mem_map_of_mem there) event member
      exact ⟨each a brought, each b brought'⟩
    · obtain ⟨issuer, nullifier⟩ := one a brought b brought'
      exact absurd differ (by simp [issuer, nullifier])
  refine ⟨enough, fun apart => ⟨fun keeps => ?_, enough⟩⟩
  by_cases one : OneSettlement (deliveredEvents standard heliusAuthToken actions)
  · exact Or.inr one
  -- every event is of another settlement than one of two that differ, and so it is kept
  simp only [OneSettlement, not_forall, exists_prop, not_and_or] at one
  obtain ⟨c, broughtC, d, broughtD, differ⟩ := one
  have each : ∀ event ∈ deliveredEvents standard heliusAuthToken actions,
      event ∈ (run standard heliusAuthToken (.start false (some [])) actions).state.irys := by
    intro event member
    by_cases other : event.issuer = c.issuer ∧ event.nullifierHash = c.nullifierHash
    · have differ' : event.issuer ≠ d.issuer ∨ event.nullifierHash ≠ d.nullifierHash := by
        rwa [other.1, other.2]
      exact (keeps event member d broughtD differ').1.1
    · exact (keeps event member c broughtC (not_and_or.mp other)).1.1
  exact Or.inl fun a brought b brought' same =>
    uploaded_unique flawless apart (each a brought) (each b brought') same

/-! ## One nullifier of two issuers -/

theorem delivered_eventTx (event : ProofSettled) :
    (Action.deliver (some "Bearer test-token") [eventTx event]).delivered Base64.standard
      "test-token" = [eventItem event] := by
  rw [Action.delivered, verifyAuth_sample, if_pos rfl, items_eventTx]

/-- What a delivery does with an event that is not marked. -/
def handling (id : Nat) : List Action := List.replicate 5 (.advance id .success)

theorem flawless_handling {id : Nat} : ∀ action ∈ handling id, Flawless action := by
  intro action member
  rw [List.eq_of_mem_replicate member]
  rfl

/-- A settlement of another issuer. -/
def otherEvent : ProofSettled := { sampleEvent 2 with nullifierHash := .ofNat 9 }

def twoSettlements : List Action :=
  .deliver (some "Bearer test-token") [eventTx (sampleEvent 1)] :: (handling 0 ++
    .deliver (some "Bearer test-token") [eventTx otherEvent] :: handling 1)

/-- The first event has been handled. -/
def firstHandled : System where
  state :=
    { dedup := { cache := [.ofNat 2], db := [.ofNat 2] }
      dryRun := false
      irys := [sampleEvent 1]
      db := some [(eventItem (sampleEvent 1)).row] }
  deliveries := [{ transactions := [eventTx (sampleEvent 1)], position := .answered 200 }]

theorem run_firstHandled (later : List Action) :
    run Base64.standard "test-token" (.start false (some []))
        (.deliver (some "Bearer test-token") [eventTx (sampleEvent 1)] ::
          (handling 0 ++ later)) =
      run Base64.standard "test-token" firstHandled later := by
  rw [run, Transactional.run_cons_ok (step_eventTx _ _), Transactional.run_append]
  rfl

/-- A second delivery, which waits. -/
def secondDelivered (event : ProofSettled) (position : Position) : System :=
  { firstHandled with
    deliveries := firstHandled.deliveries ++ [{ transactions := [eventTx event], position }] }

theorem step_secondDelivered (event : ProofSettled) :
    step Base64.standard "test-token" firstHandled
        (.deliver (some "Bearer test-token") [eventTx event]) =
      .ok (secondDelivered event (.loop [eventItem event])) := step_eventTx _ _

theorem answered_twoSettlements :
    Answered (run Base64.standard "test-token" (.start false (some [])) twoSettlements) := by
  rw [twoSettlements, run_firstHandled, run,
    Transactional.run_cons_ok (step_secondDelivered otherEvent)]
  intro delivery member
  have ended : (Transactional.run (step Base64.standard "test-token")
      (secondDelivered otherEvent (.loop [eventItem otherEvent])) (handling 1)).deliveries =
        [{ transactions := [eventTx (sampleEvent 1)], position := .answered 200 },
          { transactions := [eventTx otherEvent], position := .answered 200 }] := rfl
  rw [ended] at member
  simp only [List.mem_cons, List.not_mem_nil, or_false] at member
  rcases member with rfl | rfl
  · exact ⟨200, rfl⟩
  · exact ⟨200, rfl⟩

theorem flawless_twoSettlements : ∀ action ∈ twoSettlements, Flawless action := by
  intro action member
  simp only [twoSettlements, List.mem_cons, List.mem_append] at member
  rcases member with rfl | first | rfl | second
  · trivial
  · exact flawless_handling action first
  · trivial
  · exact flawless_handling action second

theorem excludes_twoSettlements : Transactional.Meets (step Base64.standard "test-token") Excludes
    (.start false (some [])) twoSettlements := by
  -- the first holds its nullifier in three of its steps, and has let go when the second comes
  refine .cons (step_eventTx _ _) trivial ?_
  refine .cons rfl (excludes_of_idle 0 (by decide)) ?_
  refine .cons rfl (excludes_of_held rfl nofun) ?_
  refine .cons rfl (excludes_of_held rfl nofun) ?_
  refine .cons rfl (excludes_of_held rfl nofun) ?_
  refine .cons rfl (excludes_of_idle 0 (by decide)) ?_
  refine .cons (step_secondDelivered _) trivial ?_
  refine .cons rfl (excludes_of_idle 1 (by decide)) ?_
  refine .cons rfl (excludes_of_held rfl nofun) ?_
  refine .cons rfl (excludes_of_held rfl nofun) ?_
  refine .cons rfl (excludes_of_held rfl nofun) ?_
  exact .cons rfl (excludes_of_idle 1 (by decide)) trivial

theorem delivered_handling (id : Nat) :
    deliveredItems Base64.standard "test-token" (handling id) = [] := rfl

theorem delivered_two (event : ProofSettled) {rest : List Action}
    (nothing : deliveredItems Base64.standard "test-token" rest = []) :
    deliveredEvents Base64.standard "test-token"
        (.deliver (some "Bearer test-token") [eventTx (sampleEvent 1)] :: (handling 0 ++
          .deliver (some "Bearer test-token") [eventTx event] :: rest)) =
      [sampleEvent 1, event] := by
  have first := delivered_handling 0
  rw [deliveredItems] at nothing first
  rw [deliveredEvents, deliveredItems, List.flatMap_cons, List.flatMap_append, List.flatMap_cons,
    first, nothing, delivered_eventTx, delivered_eventTx]
  rfl

theorem apart_twoSettlements :
    NullifiersApart (deliveredEvents Base64.standard "test-token" twoSettlements) := by
  rw [twoSettlements, delivered_two otherEvent (delivered_handling 1)]
  have differ : (sampleEvent 1).nullifierHash ≠ otherEvent.nullifierHash := by decide
  intro a brought b brought' same
  simp only [List.mem_cons, List.not_mem_nil, or_false] at brought brought'
  rcases brought with rfl | rfl
  · rcases brought' with rfl | rfl
    · rfl
    · exact absurd same differ
  · rcases brought' with rfl | rfl
    · exact absurd same.symm differ
    · rfl

theorem keeps_all_iff_twoSettlements :
    KeepsAll Base64.standard "test-token" twoSettlements ∧
      (NullifiersApart (deliveredEvents Base64.standard "test-token" twoSettlements) ∨
        OneSettlement (deliveredEvents Base64.standard "test-token" twoSettlements)) :=
  have both := keeps_all_iff flawless_twoSettlements answered_twoSettlements
  have kept := both.1 (Or.inl apart_twoSettlements)
  ⟨kept, (both.2 excludes_twoSettlements).mp kept⟩

/-- The second issuer has the nullifier of the first. -/
def twoIssuers : List Action :=
  .deliver (some "Bearer test-token") [eventTx (sampleEvent 1)] :: (handling 0 ++
    [.deliver (some "Bearer test-token") [eventTx (sampleEvent 2)], .advance 1 .success,
      .advance 1 .success])

/-- The event of the second issuer is taken for a duplicate. -/
theorem run_twoIssuers :
    run Base64.standard "test-token" (.start false (some [])) twoIssuers =
      secondDelivered (sampleEvent 2) (.answered 200) := by
  rw [twoIssuers, run_firstHandled, run, Transactional.run_cons_ok (step_secondDelivered _)]
  rfl

theorem flawless_twoIssuers : ∀ action ∈ twoIssuers, Flawless action := by
  intro action member
  simp only [twoIssuers, List.mem_cons, List.mem_append, List.not_mem_nil, or_false] at member
  rcases member with rfl | first | rfl | rfl | rfl
  · trivial
  · exact flawless_handling action first
  · trivial
  · rfl
  · rfl

theorem answered_twoIssuers :
    Answered (run Base64.standard "test-token" (.start false (some [])) twoIssuers) := by
  rw [run_twoIssuers]
  intro delivery member
  simp only [secondDelivered, firstHandled, List.cons_append, List.nil_append, List.mem_cons,
    List.not_mem_nil, or_false] at member
  rcases member with rfl | rfl
  · exact ⟨200, rfl⟩
  · exact ⟨200, rfl⟩

theorem not_keeps_all : ¬ ∀ (standard : Base64.Engine) (heliusAuthToken : String)
    (actions : List Action), (∀ action ∈ actions, Flawless action) →
      Answered (run standard heliusAuthToken (.start false (some [])) actions) →
        KeepsAll standard heliusAuthToken actions := by
  intro always
  have keeps := always Base64.standard "test-token" twoIssuers flawless_twoIssuers
    answered_twoIssuers
  have brought : deliveredEvents Base64.standard "test-token" twoIssuers =
      [sampleEvent 1, sampleEvent 2] := delivered_two (sampleEvent 2) rfl
  have first : sampleEvent 1 ∈ deliveredEvents Base64.standard "test-token" twoIssuers := by
    rw [brought]
    exact List.mem_cons_self
  have second : sampleEvent 2 ∈ deliveredEvents Base64.standard "test-token" twoIssuers := by
    rw [brought]
    exact List.mem_cons_of_mem _ List.mem_cons_self
  have different : (sampleEvent 1).issuer ≠ (sampleEvent 2).issuer := by decide
  obtain ⟨-, uploaded, -⟩ := keeps _ first _ second (Or.inl different)
  rw [run_twoIssuers] at uploaded
  rw [List.mem_singleton.mp uploaded] at different
  exact different rfl

end ZkSettle.Indexer
