import ZkSettle.Indexer.Webhook

/-!
# The webhook handler on its own

The handler as one function of the outcomes of its calls, when no other delivery runs at the
same time. The steps of a delivery taken one after the other come to the same state and the
same answer.
-/
namespace ZkSettle.Indexer

open Program

variable {standard : Base64.Engine} {heliusAuthToken : String}

/-! ## handle_webhook -/

/-- How the calls for one event are answered; an upload posts as often as it has to. -/
structure Outcomes where
  read : Answer
  posts : Nat → Answer
  insert : Answer
  mark : Answer

/-- The attempts of an upload that are left, and whether one of them is answered with success. -/
def attempts (s : AppState) (event : ProofSettled) : List Answer → AppState × Bool
  | [] => (s, false)
  | .success :: _ => (s.archive event true, true)
  | .failure again stored :: rest =>
    if again then attempts (s.archive event stored) event rest
    else (s.archive event stored, false)

/-- `IrysClient::upload`: whether it is `Ok`. -/
def upload (s : AppState) (event : ProofSettled) (posts : Nat → Answer) : AppState × Bool :=
  if s.dryRun then (s, true) else attempts s event [posts 0, posts 1, posts 2]

/-- What follows an upload that succeeds. -/
def storeEvent (s : AppState) (item : Item) (outcomes : Outcomes) : AppState :=
  let s := if s.db.isSome then s.insert item.row outcomes.insert.stored else s
  { s with dedup := s.dedup.markUploaded item.event.nullifierHash outcomes.mark.succeeds }

/-- The body of the inner loop. -/
def handleEvent (s : AppState) (item : Item) (outcomes : Outcomes) : AppState :=
  let found := s.dedup.contains item.event.nullifierHash outcomes.read.succeeds
  let s := { s with dedup := found.2 }
  if found.1 then s
  else
    match upload s item.event outcomes.posts with
    | (s, true) => storeEvent s item outcomes
    | (s, false) => s

def handleEvents : AppState → List Item → (Nat → Outcomes) → AppState
  | s, [], _ => s
  | s, item :: rest, outcomes =>
    handleEvents (handleEvent s item (outcomes 0)) rest fun n => outcomes (n + 1)

def handleWebhook (standard : Base64.Engine) (heliusAuthToken : String) (s : AppState)
    (authorization : Option String) (transactions : List HeliusTransaction)
    (outcomes : Nat → Outcomes) : AppState × Nat :=
  if verifyAuth authorization heliusAuthToken then
    (handleEvents s (items standard transactions) outcomes, 200)
  else (s, 401)

/-! ## Step by step -/

/-- A delivery comes from one position to another by its own steps. -/
inductive Moves : AppState → Position → AppState → Position → Prop
  | refl {s : AppState} {position : Position} : Moves s position s position
  | step {s s' s'' : AppState} {position position' position'' : Position} (answer : Answer)
      (moved : position.advance s answer = .ok (s', position'))
      (later : Moves s' position' s'' position'') : Moves s position s'' position''

theorem Moves.trans {s s' s'' : AppState} {position position' position'' : Position}
    (first : Moves s position s' position') (second : Moves s' position' s'' position'') :
    Moves s position s'' position'' := by
  induction first with
  | refl => exact second
  | step answer moved _ ih => exact .step answer moved (ih second)

theorem moves_storeEvent (s : AppState) (item : Item) (rest : List Item) (outcomes : Outcomes) :
    Moves s (.uploaded s item rest) (storeEvent s item outcomes) (.loop rest) := by
  rw [storeEvent, Position.uploaded]
  cases s.db.isSome with
  | false => exact .step outcomes.mark rfl .refl
  | true => exact .step outcomes.insert rfl (.step outcomes.mark rfl .refl)

/-- Where the handler goes on after an upload. -/
def afterUpload (item : Item) (rest : List Item) : AppState × Bool → Position
  | (s, true) => .uploaded s item rest
  | (_, false) => .loop rest

theorem advance_post {s : AppState} (live : s.dryRun = false) (item : Item) (attempt : Nat)
    (rest : List Item) (answer : Answer) :
    Position.advance s answer (.uploading item attempt rest) =
      if answer.succeeds then .ok (s.archive item.event true, .uploaded s item rest)
      else if answer.retried attempt then
        .ok (s.archive item.event answer.stored, .uploading item (attempt + 1) rest)
      else .ok (s.archive item.event answer.stored, .loop rest) := by
  rw [Position.advance, live, if_neg Bool.false_ne_true]

theorem archive_dryRun (s : AppState) (event : ProofSettled) (stored : Bool) :
    (s.archive event stored).dryRun = s.dryRun := by
  cases stored with
  | true => rfl
  | false => rfl

theorem uploaded_archive (s : AppState) (event : ProofSettled) (stored : Bool) (item : Item)
    (rest : List Item) :
    Position.uploaded (s.archive event stored) item rest = .uploaded s item rest := by
  rw [Position.uploaded, AppState.archive_db, Position.uploaded]

/-- The third attempt is the last one. -/
theorem moves_attempts {s : AppState} (live : s.dryRun = false) (item : Item) (rest : List Item)
    {answers : List Answer} {attempt : Nat} (left : attempt + answers.length = 3)
    (more : answers ≠ []) :
    Moves s (.uploading item attempt rest) (attempts s item.event answers).1
      (afterUpload item rest (attempts s item.event answers)) := by
  induction answers generalizing s attempt with
  | nil => exact absurd rfl more
  | cons answer later ih =>
    have moved := advance_post live item attempt rest answer
    rw [List.length_cons] at left
    cases answer with
    | success =>
      have ended := uploaded_archive s item.event true item rest
      refine .step .success moved ?_
      rw [attempts, afterUpload, ended]
      exact .refl
    | failure again stored =>
      rw [if_neg nofun] at moved
      rw [attempts]
      cases again with
      | false =>
        refine .step (.failure false stored) moved ?_
        exact .refl
      | true =>
        rw [if_pos rfl]
        cases later with
        | nil =>
          have last : (Answer.failure true stored).retried attempt = false := by
            have third : ¬ attempt + 1 < 3 := by simp at left; omega
            simp [Answer.retried, third]
          rw [last, if_neg nofun] at moved
          exact .step (.failure true stored) moved .refl
        | cons next later =>
          have followed : (Answer.failure true stored).retried attempt = true := by
            have earlier : attempt + 1 < 3 := by simp at left; omega
            simp [Answer.retried, earlier]
          rw [followed, if_pos rfl] at moved
          have live' : (s.archive item.event stored).dryRun = false := by
            rw [archive_dryRun, live]
          exact .step (.failure true stored) moved (ih live' (by omega) nofun)

theorem moves_upload (s : AppState) (item : Item) (rest : List Item) (posts : Nat → Answer) :
    Moves s (.uploading item 0 rest) (upload s item.event posts).1
      (afterUpload item rest (upload s item.event posts)) := by
  rw [upload]
  cases dry : s.dryRun with
  | true =>
    have moved : Position.advance s .success (.uploading item 0 rest) =
        .ok (s, .uploaded s item rest) := by rw [Position.advance, dry, if_pos rfl]
    exact .step .success moved .refl
  | false => exact moves_attempts dry item rest rfl (List.cons_ne_nil _ _)

theorem moves_handleEvent (s : AppState) (item : Item) (rest : List Item) (outcomes : Outcomes) :
    Moves s (.loop (item :: rest)) (handleEvent s item outcomes) (.loop rest) := by
  rw [handleEvent]
  have looked : Position.advance s outcomes.read (.loop (item :: rest)) =
      .ok ({ s with dedup := (s.dedup.contains item.event.nullifierHash
          outcomes.read.succeeds).2 },
        if (s.dedup.contains item.event.nullifierHash outcomes.read.succeeds).1 then .loop rest
        else .uploading item 0 rest) := rfl
  refine .step outcomes.read looked ?_
  cases (s.dedup.contains item.event.nullifierHash outcomes.read.succeeds).1 with
  | true => exact .refl
  | false =>
    have sent := moves_upload { s with dedup :=
      (s.dedup.contains item.event.nullifierHash outcomes.read.succeeds).2 } item rest
        outcomes.posts
    refine sent.trans ?_
    rcases upload { s with dedup :=
      (s.dedup.contains item.event.nullifierHash outcomes.read.succeeds).2 } item.event
        outcomes.posts with ⟨state, ok⟩
    cases ok with
    | true => exact moves_storeEvent state item rest outcomes
    | false => exact .refl

theorem moves_handleEvents (s : AppState) (work : List Item) (outcomes : Nat → Outcomes) :
    Moves s (.loop work) (handleEvents s work outcomes) (.answered 200) := by
  -- each event meets the state after the one before it
  induction work generalizing s outcomes with
  | nil => exact .step .success rfl .refl
  | cons item rest ih => exact (moves_handleEvent s item rest (outcomes 0)).trans (ih _ _)

/-- The steps of a delivery as actions of the whole system. -/
theorem Moves.run {state state' : AppState} {position position' : Position}
    (moves : Moves state position state' position') {deliveries : List Delivery} {id : Nat}
    {transactions : List HeliusTransaction}
    (found : deliveries[id]? = some { transactions, position }) :
    ∃ calls : List Answer,
      Indexer.run standard heliusAuthToken { state, deliveries } (calls.map (.advance id)) =
        { state := state'
          deliveries := deliveries.set id { transactions, position := position' } } := by
  induction moves generalizing deliveries with
  | refl =>
    obtain ⟨inside, same⟩ := List.getElem?_eq_some_iff.mp found
    refine ⟨[], ?_⟩
    rw [← same, List.set_getElem_self]
    rfl
  | @step state between _ position position' _ answer moved _ ih =>
    have inside : id < deliveries.length := (List.getElem?_eq_some_iff.mp found).1
    have accepted : Indexer.step standard heliusAuthToken { state, deliveries }
        (.advance id answer) = .ok
          { state := between
            deliveries := deliveries.set id { transactions, position := position' } } := by
      rw [Indexer.step, found]
      simp only [moved]
      rfl
    obtain ⟨calls, reached⟩ := ih (List.getElem?_set_self inside)
    refine ⟨answer :: calls, ?_⟩
    rw [List.map_cons, Indexer.run, Transactional.run_cons_ok accepted]
    rw [List.set_set] at reached
    exact reached

/-- A delivery that no other interrupts does what the handler does. -/
theorem run_handleWebhook {s : System} {authorization : Option String}
    {transactions : List HeliusTransaction} {outcomes : Nat → Outcomes} {state : AppState}
    {status : Nat} (handled : handleWebhook standard heliusAuthToken s.state authorization
      transactions outcomes = (state, status)) :
    ∃ calls : List Answer, run standard heliusAuthToken s
        (.deliver authorization transactions :: calls.map (.advance s.deliveries.length)) =
      { state
        deliveries := s.deliveries ++ [{ transactions, position := .answered status }] } := by
  have delivered : step standard heliusAuthToken s (.deliver authorization transactions) =
      .ok { s with deliveries :=
        s.deliveries ++ [.begin standard heliusAuthToken authorization transactions] } := rfl
  rw [Delivery.begin] at delivered
  rw [handleWebhook] at handled
  cases authorized : verifyAuth authorization heliusAuthToken with
  | false =>
    rw [authorized] at delivered handled
    cases handled
    refine ⟨[], ?_⟩
    rw [run, Transactional.run_cons_ok delivered]
    rfl
  | true =>
    rw [authorized] at delivered handled
    cases handled
    have moves := moves_handleEvents s.state (items standard transactions) outcomes
    obtain ⟨calls, reached⟩ := moves.run List.getElem?_concat_length
    refine ⟨calls, ?_⟩
    rw [run, Transactional.run_cons_ok delivered]
    refine reached.trans ?_
    simp

end ZkSettle.Indexer
