import ZkSettle.Indexer.Logs
import ZkSettle.Indexer.Webhook

/-!
# What has been uploaded

The answer of a delivery is 200 whatever happened to its events. It stands for an archived
batch as long as no upload fails or is only pretended, no line is broken, and a nullifier is
marked only once its event is uploaded. Two deliveries of one event upload it twice when both
look before either marks.
-/
namespace ZkSettle.Indexer

open Checks Program

variable {standard : Base64.Engine} {heliusAuthToken : String}

/-! ## Decodable events -/

/-- The events on the data lines of a transaction, each line taken for itself. -/
def HeliusTransaction.decodable (standard : Base64.Engine) (tx : HeliusTransaction) :
    List ProofSettled :=
  (tx.logMessages.filterMap (stripPrefix · "Program data: ")).filterMap
    (lineEvent standard)

theorem parseLines_eq_parseAll (standard : Base64.Engine) (lines : List String) :
    parseLines standard lines =
      parseAll standard (lines.filterMap (stripPrefix · "Program data: ")) := by
  induction lines with
  | nil => rfl
  | cons line rest ih =>
    rw [parseLines, List.filterMap_cons]
    cases stripPrefix line "Program data: " with
    | none => exact ih
    | some dataB64 => simp only [parseAll, ih]

/-- A transaction that can be parsed gives all its events. -/
theorem decodable_of_ok {tx : HeliusTransaction} {events : List ProofSettled}
    (parsed : extractProofSettled standard tx.logMessages = .ok events) :
    events = tx.decodable standard := by
  obtain ⟨-, -, lines⟩ := bind_eq_ok.mp parsed
  rw [parseLines_eq_parseAll] at lines
  by_cases readable : ∀ text ∈ tx.logMessages.filterMap (stripPrefix · "Program data: "),
      Readable standard text
  · rw [parseAll_of_readable _ readable] at lines
    cases lines
    rfl
  · -- a broken line would have stopped the parser
    obtain ⟨text, member, broken⟩ : ∃ text ∈ tx.logMessages.filterMap
        (stripPrefix · "Program data: "), ¬ Readable standard text := by
      simpa only [not_forall, exists_prop] using readable
    have stopped := parseAll_of_broken standard member broken
    rw [lines] at stopped
    cases stopped

theorem mem_items_of_ok {transactions : List HeliusTransaction} {tx : HeliusTransaction}
    {events : List ProofSettled} (delivered : tx ∈ transactions)
    (parsed : extractProofSettled standard tx.logMessages = .ok events)
    {event : ProofSettled} (member : event ∈ tx.decodable standard) :
    ({ tx, event } : Item) ∈ items standard transactions := by
  refine List.mem_flatMap.mpr ⟨tx, delivered, ?_⟩
  rw [HeliusTransaction.items, parsed, decodable_of_ok parsed]
  exact List.mem_map_of_mem member

/-- The decodable events of a batch. -/
def Delivery.decodable (standard : Base64.Engine) (delivery : Delivery) : List ProofSettled :=
  delivery.transactions.flatMap (HeliusTransaction.decodable standard)

/-! ## Acknowledged means archived -/

/-- What a delivery has still to look at or to upload. -/
def Position.pending : Position → List Item
  | .loop work => work
  | .uploading item _ rest => item :: rest
  | .inserting _ rest => rest
  | .marking _ _ rest => rest
  | .answered _ => []
  | .dropped => []

/-- Every event of a batch that was answered with 200 has been uploaded. -/
def Acknowledged (standard : Base64.Engine) (s : System) : Prop :=
  ∀ delivery ∈ s.deliveries, delivery.position = .answered 200 →
    ∀ event ∈ delivery.decodable standard, event ∈ s.state.irys

/-- No event gets lost in this step: one whose transaction is given up, whose nullifier is
marked or whose upload ends without a record has been uploaded before. A client without a key
uploads nothing. -/
def Archives (standard : Base64.Engine) (heliusAuthToken : String) (s : System) : Action → Prop
  | .deliver authorization transactions =>
    verifyAuth authorization heliusAuthToken = true →
      ∀ tx ∈ transactions, ∀ failure,
        extractProofSettled standard tx.logMessages = .error failure →
          ∀ event ∈ tx.decodable standard, event ∈ s.state.irys
  | .advance id answer =>
    ∀ delivery, s.deliveries[id]? = some delivery →
      (∀ item rest, delivery.position = .loop (item :: rest) →
        item.event.nullifierHash ∈ s.state.dedup.db → item.event ∈ s.state.irys) ∧
      ∀ item attempt rest, delivery.position = .uploading item attempt rest →
        item.event ∈ s.state.irys ∨
          s.state.dryRun = false ∧ (answer.stored = true ∨ answer.retried attempt = true)
  | .evict _ => True
  | .restart _ => True

/-- Each event of the batch is uploaded or still pending, unless the delivery has ended
without a 200. -/
def Accounted (standard : Base64.Engine) (s : AppState) (delivery : Delivery) : Prop :=
  delivery.position = .dropped ∨ delivery.position = .answered 401 ∨
    ∀ event ∈ delivery.decodable standard, event ∈ s.irys ∨
      ∃ item ∈ delivery.position.pending, item.event = event

theorem Accounted.begin {s : AppState} {authorization : Option String}
    {transactions : List HeliusTransaction}
    (given_up : verifyAuth authorization heliusAuthToken = true →
      ∀ tx ∈ transactions, ∀ failure,
        extractProofSettled standard tx.logMessages = .error failure →
          ∀ event ∈ tx.decodable standard, event ∈ s.irys) :
    Accounted standard s (.begin standard heliusAuthToken authorization transactions) := by
  cases authorized : verifyAuth authorization heliusAuthToken with
  | false => exact Or.inr (Or.inl (by simp [Delivery.begin, authorized]))
  | true =>
    refine Or.inr (Or.inr fun event member => ?_)
    obtain ⟨tx, delivered, decoded⟩ := List.mem_flatMap.mp member
    cases parsed : extractProofSettled standard tx.logMessages with
    | error failure => exact Or.inl (given_up authorized tx delivered failure parsed event decoded)
    | ok events =>
      refine Or.inr ⟨{ tx, event }, ?_, rfl⟩
      simpa [Delivery.begin, authorized, Position.pending] using
        mem_items_of_ok delivered parsed decoded

/-- Events move from the pending ones only to the uploaded ones. -/
theorem Accounted.move {s s' : AppState} {delivery : Delivery} {position : Position}
    (accounted : Accounted standard s delivery) (going : delivery.position ≠ .dropped)
    (unanswered : delivery.position ≠ .answered 401) (kept : ∀ event ∈ s.irys, event ∈ s'.irys)
    (moved : ∀ item ∈ delivery.position.pending,
      item.event ∈ s'.irys ∨ item ∈ position.pending) :
    Accounted standard s' { delivery with position } := by
  have each := (accounted.resolve_left going).resolve_left unanswered
  refine Or.inr (Or.inr fun event member => ?_)
  rcases each event member with uploaded | ⟨item, pending, rfl⟩
  · exact Or.inl (kept event uploaded)
  · rcases moved item pending with uploaded | still
    · exact Or.inl uploaded
    · exact Or.inr ⟨item, still, rfl⟩

theorem Accounted.mono {s s' : AppState} {delivery : Delivery}
    (accounted : Accounted standard s delivery) (kept : ∀ event ∈ s.irys, event ∈ s'.irys) :
    Accounted standard s' delivery := by
  rcases accounted with dropped | refused | each
  · exact Or.inl dropped
  · exact Or.inr (Or.inl refused)
  · exact Or.inr (Or.inr fun event member => (each event member).imp_left (kept event))

/-- The other events of a delivery whose upload is over are still pending. -/
theorem pending_uploaded {s : AppState} {item other : Item} {rest : List Item}
    (later : other ∈ rest) : other ∈ (Position.uploaded s item rest).pending := by
  rw [Position.uploaded]
  split
  · exact later
  · exact later

theorem accounted_advance {s : System} {id : Nat} {answer : Answer} {delivery : Delivery}
    {state : AppState} {position : Position} (backed : s.state.dedup.Backed)
    (accounted : Accounted standard s.state delivery) (found : s.deliveries[id]? = some delivery)
    (archives : Archives standard heliusAuthToken s (.advance id answer))
    (moved : Advanced s.state delivery.position answer state position) :
    Accounted standard state { delivery with position } := by
  obtain ⟨marked, sent⟩ := archives delivery found
  have kept := moved.irys_kept
  obtain ⟨transactions, before⟩ := delivery
  cases moved with
  | finished => exact accounted.move nofun nofun kept fun item none => absurd none List.not_mem_nil
  | skipped duplicate =>
    -- what is skipped is marked, and so has been uploaded
    refine accounted.move nofun nofun kept fun item pending => ?_
    rcases List.mem_cons.mp pending with rfl | later
    · exact Or.inl (marked item _ rfl (backed.of_contains duplicate))
    · exact Or.inr later
  | taken => exact accounted.move nofun nofun kept fun item pending => Or.inr pending
  | @pretended item attempt rest _ dry =>
    refine accounted.move nofun nofun kept fun item pending => ?_
    rcases List.mem_cons.mp pending with rfl | later
    · -- without a key, the event has been uploaded before
      refine Or.inl ((sent item attempt rest rfl).resolve_right ?_)
      rintro ⟨live, -⟩
      exact absurd (dry.symm.trans live) nofun
    · exact Or.inr (pending_uploaded later)
  | uploaded live =>
    refine accounted.move nofun nofun kept fun item pending => ?_
    rcases List.mem_cons.mp pending with rfl | later
    · exact Or.inl (AppState.mem_archive.mpr (Or.inr ⟨rfl, rfl⟩))
    · exact Or.inr (pending_uploaded later)
  | retried => exact accounted.move nofun nofun kept fun item pending => Or.inr pending
  | @unuploaded item attempt rest _ live failed last =>
    refine accounted.move nofun nofun kept fun item pending => ?_
    rcases List.mem_cons.mp pending with rfl | later
    · rcases sent item attempt rest rfl with before | ⟨-, stored | again⟩
      · exact Or.inl (kept _ before)
      · exact Or.inl (AppState.mem_archive.mpr (Or.inr ⟨stored, rfl⟩))
      · exact absurd (last.symm.trans again) nofun
    · exact Or.inr later
  | inserted => exact accounted.move nofun nofun kept fun item pending => Or.inr pending
  | marked => exact accounted.move nofun nofun kept fun item pending => Or.inr pending

theorem Accounted.restart {s : AppState} {warmed : Bytes32 → Bool} {delivery : Delivery}
    (accounted : Accounted standard s delivery) :
    Accounted standard (s.restart warmed) delivery.restart := by
  obtain ⟨transactions, position⟩ := delivery
  cases position with
  | answered status => exact accounted
  | _ => exact Or.inl rfl

theorem accounted_kept : Kept standard heliusAuthToken (Archives standard heliusAuthToken)
    (fun s => s.dedup.Backed) (Accounted standard) where
  begin _ _ _ _ allowed := Accounted.begin allowed
  advance _ _ _ _ _ _ backed accounted found allowed moved :=
    ⟨moved.backed backed, accounted_advance backed accounted found allowed moved,
      fun _ other => other.mono moved.irys_kept⟩
  evict _ kept backed _ := ⟨backed.evict kept, fun _ accounted => accounted⟩
  restart s warmed _ _ :=
    ⟨AppState.backed_restart s.state warmed, fun _ accounted => accounted.restart⟩

/-- As long as no step loses an event, a delivery that is answered with 200 is archived. In dry
run, where an upload is `Ok` and sends nothing, only events from before can be. -/
theorem acknowledged_of_archives {dryRun : Bool} {db : Option (List ActiveModel)}
    {actions : List Action}
    (archives : Transactional.Meets (step standard heliusAuthToken)
      (Archives standard heliusAuthToken) (.start dryRun db) actions) :
    Acknowledged standard (run standard heliusAuthToken (.start dryRun db) actions) := by
  obtain ⟨-, all⟩ := accounted_kept.run (fun _ member => absurd member List.not_mem_nil) archives
  intro delivery member answered event decoded
  have accounted := all delivery member
  rw [Accounted, answered] at accounted
  rcases accounted with dropped | refused | each
  · cases dropped
  · cases refused
  · rcases each event decoded with uploaded | ⟨item, none, -⟩
    · exact uploaded
    · cases none

/-! ## A failed upload -/

/-- An event of an issuer, always with the same nullifier. -/
def sampleEvent (issuer : Nat) : ProofSettled where
  version := 1
  issuer := .ofNat issuer
  nullifierHash := .ofNat 2
  merkleRoot := .ofNat 3
  sanctionsRoot := .ofNat 4
  jurisdictionRoot := .ofNat 5
  mint := .ofNat 6
  recipient := .ofNat 7
  amount := 1000000
  epoch := 3
  timestamp := 1700000000
  slot := 500
  payer := .ofNat 8

/-- A transaction that logs one event. -/
def eventTx (event : ProofSettled) : HeliusTransaction where
  signature := "txSig1"
  slot := 500
  timestamp := 1700000000
  logMessages := [dataLine (eventText Base64.standard event)]

def eventItem (event : ProofSettled) : Item := { tx := eventTx event, event }

/-- One line that is an event. -/
theorem extract_dataLine {dataB64 : String} {event : ProofSettled}
    (parsed : parseData standard dataB64 = .ok (some event)) :
    extractProofSettled standard [dataLine dataB64] = .ok [event] := by
  rw [extractProofSettled, require, if_pos (List.cons_ne_nil _ _), parseLines,
    stripPrefix_dataLine]
  simp only [parsed]
  rfl

theorem extract_eventTx (event : ProofSettled) :
    extractProofSettled Base64.standard (eventTx event).logMessages = .ok [event] :=
  extract_dataLine (parseData_eventText Base64.standard event)

theorem items_eventTx (event : ProofSettled) :
    items Base64.standard [eventTx event] = [eventItem event] := by
  rw [items, List.flatMap_singleton, HeliusTransaction.items, extract_eventTx]
  rfl

theorem verifyAuth_sample : verifyAuth (some "Bearer test-token") "test-token" = true := by decide

theorem begin_eventTx (event : ProofSettled) :
    Delivery.begin Base64.standard "test-token" (some "Bearer test-token") [eventTx event] =
      { transactions := [eventTx event], position := .loop [eventItem event] } := by
  rw [Delivery.begin, verifyAuth_sample, if_pos rfl, items_eventTx]

theorem step_eventTx (s : System) (event : ProofSettled) :
    step Base64.standard "test-token" s
        (.deliver (some "Bearer test-token") [eventTx event]) =
      .ok { s with deliveries := s.deliveries ++
        [{ transactions := [eventTx event], position := .loop [eventItem event] }] } := by
  rw [step, begin_eventTx]

/-- All goes well. -/
def sampleActions : List Action :=
  [.deliver (some "Bearer test-token") [eventTx (sampleEvent 1)], .advance 0 .success,
    .advance 0 .success, .advance 0 .success, .advance 0 .success, .advance 0 .success]

theorem archives_of_unmarked {s : System} (live : s.state.dryRun = false)
    (unmarked : s.state.dedup.db = []) (id : Nat) :
    Archives standard heliusAuthToken s (.advance id .success) := by
  intro delivery _
  refine ⟨fun item rest _ marked => ?_, fun _ _ _ _ => Or.inr ⟨live, Or.inl rfl⟩⟩
  rw [unmarked] at marked
  cases marked

theorem archives_sampleActions : Transactional.Meets (step Base64.standard "test-token")
    (Archives Base64.standard "test-token") (.start false (some [])) sampleActions := by
  refine .cons (step_eventTx _ _) ?_ ?_
  · intro _ tx member failure refused
    rw [List.mem_singleton.mp member, extract_eventTx] at refused
    cases refused
  -- nothing is marked until all is done
  refine .cons rfl (archives_of_unmarked rfl rfl 0) ?_
  refine .cons rfl (archives_of_unmarked rfl rfl 0) ?_
  refine .cons rfl (archives_of_unmarked rfl rfl 0) ?_
  refine .cons rfl (archives_of_unmarked rfl rfl 0) ?_
  refine .cons rfl ?_ trivial
  rintro _ ⟨⟩
  exact ⟨nofun, nofun⟩

theorem acknowledged_sample :
    Acknowledged Base64.standard
      (run Base64.standard "test-token" (.start false (some [])) sampleActions) :=
  acknowledged_of_archives archives_sampleActions

/-- Irys refuses the one post of the upload, and the batch is answered with 200. -/
def refusedActions : List Action :=
  [.deliver (some "Bearer test-token") [eventTx (sampleEvent 1)], .advance 0 .success,
    .advance 0 (.failure false false), .advance 0 .success]

theorem not_acknowledged : ¬ ∀ (standard : Base64.Engine) (heliusAuthToken : String)
    (db : Option (List ActiveModel)) (actions : List Action),
    Acknowledged standard (run standard heliusAuthToken (.start false db) actions) := by
  intro always
  have archived := always Base64.standard "test-token" (some []) refusedActions
  have reached : run Base64.standard "test-token" (.start false (some [])) refusedActions =
      { (System.start false (some [])) with
        deliveries :=
          [{ transactions := [eventTx (sampleEvent 1)], position := .answered 200 }] } := by
    rw [refusedActions, run, Transactional.run_cons_ok (step_eventTx _ _)]
    rfl
  rw [reached] at archived
  have decoded : (eventTx (sampleEvent 1)).decodable Base64.standard = [sampleEvent 1] :=
    (decodable_of_ok (extract_eventTx _)).symm
  have uploaded := archived _ List.mem_cons_self rfl (sampleEvent 1)
    (List.mem_flatMap.mpr ⟨eventTx (sampleEvent 1), List.mem_cons_self, by simp [decoded]⟩)
  cases uploaded

end ZkSettle.Indexer
