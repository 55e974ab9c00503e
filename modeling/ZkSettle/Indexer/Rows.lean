import ZkSettle.Indexer.Archive

/-!
# What the table has

A nullifier is marked whether or not its row has been inserted, so what is skipped may be
missing from the table. Marks and rows are found by the nullifier alone, while the program
settles each issuer's nullifiers for themselves.
-/
namespace ZkSettle.Indexer

open Program

variable {standard : Base64.Engine} {heliusAuthToken : String}

/-! ## What a step adds -/

/-- The nullifier has a row, if there is a table. -/
def AppState.Stored (s : AppState) (nullifier : Bytes32) : Prop :=
  ∀ rows, s.db = some rows → HasRow rows nullifier

theorem AppState.Stored.insert {s : AppState} {nullifier : Bytes32} (stored : s.Stored nullifier)
    (row : ActiveModel) (reached : Bool) : (s.insert row reached).Stored nullifier := by
  cases reached with
  | true =>
    intro rows table
    obtain ⟨before, found, rfl⟩ := Option.map_eq_some_iff.mp table
    exact (stored before found).insertRow row
  | false => exact stored

theorem AppState.stored_insert (s : AppState) (item : Item) :
    (s.insert item.row true).Stored item.event.nullifierHash := by
  intro rows table
  obtain ⟨before, -, rfl⟩ := Option.map_eq_some_iff.mp table
  exact hasRow_insertRow before item

theorem AppState.Stored.archive {s : AppState} {nullifier : Bytes32} (stored : s.Stored nullifier)
    (event : ProofSettled) (reached : Bool) : (s.archive event reached).Stored nullifier := by
  intro rows table
  rw [AppState.archive_db] at table
  exact stored rows table

/-- A row stays. -/
theorem Advanced.stored_kept {s s' : AppState} {position position' : Position} {answer : Answer}
    (moved : Advanced s position answer s' position') {nullifier : Bytes32}
    (stored : s.Stored nullifier) : s'.Stored nullifier := by
  cases moved with
  | uploaded => exact stored.archive _ _
  | retried => exact stored.archive _ _
  | unuploaded => exact stored.archive _ _
  | inserted => exact stored.insert _ _
  | _ => exact stored

/-- A mark stays, and a new one is that of the delivery. -/
theorem Advanced.marked_cases {s s' : AppState} {position position' : Position} {answer : Answer}
    (moved : Advanced s position answer s' position') {nullifier : Bytes32}
    (marked : nullifier ∈ s'.dedup.db) : nullifier ∈ s.dedup.db ∨
      ∃ item inserted rest, position = .marking item inserted rest ∧ answer.succeeds = true ∧
        item.event.nullifierHash = nullifier := by
  cases moved with
  | skipped duplicate =>
    rw [NullifierStore.contains_db] at marked
    exact Or.inl marked
  | taken absent =>
    rw [NullifierStore.contains_db] at marked
    exact Or.inl marked
  | @marked item inserted rest =>
    cases answer with
    | failure again stored => exact Or.inl marked
    | success =>
      rcases List.mem_cons.mp marked with rfl | earlier
      · exact Or.inr ⟨item, inserted, rest, rfl, rfl, rfl⟩
      · exact Or.inl earlier
  | pretended => exact Or.inl marked
  | finished => exact Or.inl marked
  | _ => exact Or.inl (by simpa using marked)

theorem Advanced.marks_kept {s s' : AppState} {position position' : Position} {answer : Answer}
    (moved : Advanced s position answer s' position') {nullifier : Bytes32}
    (marked : nullifier ∈ s.dedup.db) : nullifier ∈ s'.dedup.db := by
  cases moved with
  | skipped duplicate => rwa [NullifierStore.contains_db]
  | taken absent => rwa [NullifierStore.contains_db]
  | marked =>
    rw [NullifierStore.markUploaded]
    split
    · exact List.mem_cons_of_mem _ marked
    · exact marked
  | pretended => exact marked
  | finished => exact marked
  | _ => simpa using marked

/-! ## Deduplicated events are queryable -/

/-- Every nullifier that the dedup store reports has a row. -/
def Queryable (s : System) : Prop :=
  ∀ n readable, (s.state.dedup.contains n readable).1 = true → s.state.Stored n

/-- What is marked has been inserted, or has a row from before. -/
def Stores (s : System) : Action → Prop
  | .advance id answer =>
    ∀ delivery, s.deliveries[id]? = some delivery → ∀ item inserted rest,
      delivery.position = .marking item inserted rest → answer.succeeds = true →
        inserted = true ∨ s.state.Stored item.event.nullifierHash
  | .deliver _ _ => True
  | .evict _ => True
  | .restart _ => True

/-- A delivery that marks after an insert has a row. -/
def Inserted (s : AppState) (delivery : Delivery) : Prop :=
  ∀ item rest, delivery.position = .marking item true rest → s.Stored item.event.nullifierHash

/-- Without a table the insert is skipped, and the mark is one without an insert. -/
theorem uploaded_ne_marking (s : AppState) (item other : Item) (rest rest' : List Item) :
    Position.uploaded s item rest ≠ .marking other true rest' := by
  rw [Position.uploaded]
  split
  · simp
  · simp

theorem inserted_kept : Kept standard heliusAuthToken (fun _ _ => True)
    (fun s => s.dedup.Backed) Inserted where
  begin s authorization transactions _ _ := by
    intro item rest marking
    dsimp only [Delivery.begin] at marking
    split at marking
    · cases marking
    · cases marking
  advance s id answer delivery state position backed here found _ moved := by
    refine ⟨moved.backed backed, fun item rest marking => ?_, fun other there item rest marking =>
      moved.stored_kept (there item rest marking)⟩
    obtain ⟨transactions, before⟩ := delivery
    cases moved with
    | pretended => exact absurd marking (uploaded_ne_marking _ _ _ _ _)
    | uploaded => exact absurd marking (uploaded_ne_marking _ _ _ _ _)
    | inserted =>
      cases answer with
      | success =>
        cases marking
        exact AppState.stored_insert _ _
      | failure again stored => cases marking
    | _ => cases marking
  evict s kept backed _ := ⟨backed.evict kept, fun _ inserted => inserted⟩
  restart s warmed _ _ := by
    refine ⟨AppState.backed_restart s.state warmed, fun delivery inserted item rest marking => ?_⟩
    obtain ⟨transactions, position⟩ := delivery
    cases position with
    -- what was not answered before the restart is dropped
    | answered status => exact inserted item rest marking
    | _ => cases marking

/-- What holds in every run, whatever fails. -/
def Consistent (s : System) : Prop :=
  s.state.dedup.Backed ∧ ∀ delivery ∈ s.deliveries, Inserted s.state delivery

theorem consistent_start (dryRun : Bool) (db : Option (List ActiveModel)) :
    Consistent (.start dryRun db) :=
  ⟨fun _ member => absurd member List.not_mem_nil, nofun⟩

theorem Consistent.step {s next : System} {action : Action} (consistent : Consistent s)
    (accepted : Indexer.step standard heliusAuthToken s action = .ok next) : Consistent next :=
  inserted_kept.step consistent.1 consistent.2 trivial accepted

/-- What is reported is what is marked on disk. -/
theorem queryable_iff {s : System} (backed : s.state.dedup.Backed) :
    Queryable s ↔ ∀ n ∈ s.state.dedup.db, s.state.Stored n := by
  constructor
  · intro queryable n marked
    apply queryable n true
    rw [NullifierStore.contains]
    split
    · rfl
    · rw [if_pos ⟨rfl, marked⟩]
  · intro stored n readable found
    exact stored n (backed.of_contains found)

/-- A step keeps all marked nullifiers in the table exactly when it marks no other. -/
theorem queryable_step_iff {s next : System} {action : Action} (consistent : Consistent s)
    (queryable : Queryable s) (accepted : step standard heliusAuthToken s action = .ok next) :
    Queryable next ↔ Stores s action := by
  rw [queryable_iff (consistent.step accepted).1]
  obtain ⟨backed, inserted⟩ := consistent
  have stored := (queryable_iff backed).mp queryable
  cases step_stepped accepted with
  | delivered => exact iff_of_true stored trivial
  | @advanced id answer delivery state position found moved =>
    constructor
    · intro after other same item was rest marking going
      obtain rfl : delivery = other := by
        rw [found] at same
        exact Option.some.inj same
      obtain ⟨transactions, before⟩ := delivery
      cases marking
      cases moved
      cases answer with
      | success => exact Or.inr (after _ List.mem_cons_self)
      | failure again stored => cases going
    · intro stores n marked
      -- a new mark follows an insert that succeeded, or finds a row
      rcases moved.marked_cases marked with earlier | ⟨item, was, rest, marking, going, rfl⟩
      · exact moved.stored_kept (stored n earlier)
      · rcases stores delivery found item was rest marking going with rfl | before
        · exact moved.stored_kept
            (inserted delivery (List.mem_of_getElem? found) item rest marking)
        · exact moved.stored_kept before
  | evicted => exact iff_of_true stored trivial
  | restarted => exact iff_of_true stored trivial

/-- All reported nullifiers have rows after every step, exactly when every mark that succeeds
follows an insert that succeeded or finds a row. -/
theorem queryable_iff_stores (dryRun : Bool) (db : Option (List ActiveModel))
    (actions : List Action) :
    Transactional.Attains (step standard heliusAuthToken) Queryable (.start dryRun db) actions ↔
      Transactional.Meets (step standard heliusAuthToken) Stores (.start dryRun db) actions := by
  have preserved : ∀ s action next, Consistent s ∧ Queryable s →
      step standard heliusAuthToken s action = .ok next → Queryable next →
        Consistent next ∧ Queryable next :=
    fun s action next holds accepted queryable => ⟨holds.1.step accepted, queryable⟩
  have exactly : ∀ s action next, Consistent s ∧ Queryable s →
      step standard heliusAuthToken s action = .ok next → (Queryable next ↔ Stores s action) :=
    fun s action next holds accepted => queryable_step_iff holds.1 holds.2 accepted
  have start : Queryable (.start dryRun db) :=
    (queryable_iff (consistent_start dryRun db).1).mpr
      fun n member => absurd member List.not_mem_nil
  exact Transactional.attains_iff_meets preserved exactly _ _
    ⟨consistent_start dryRun db, start⟩

/-- The insert fails and the mark does not. -/
theorem not_queryable : ¬ ∀ (standard : Base64.Engine) (heliusAuthToken : String)
    (rows : List ActiveModel) (actions : List Action),
    Queryable (run standard heliusAuthToken (.start false (some rows)) actions) := by
  intro always
  have queryable := always Base64.standard "test-token" []
    [.deliver (some "Bearer test-token") [eventTx (sampleEvent 1)], .advance 0 .success,
      .advance 0 .success, .advance 0 (.failure false false), .advance 0 .success]
  rw [run, Transactional.run_cons_ok (step_eventTx _ _)] at queryable
  obtain ⟨row, member, -⟩ := queryable (sampleEvent 1).nullifierHash true (by rfl) [] rfl
  cases member

end ZkSettle.Indexer
