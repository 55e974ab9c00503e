import Mathlib.Data.List.Nodup
import ZkSettle.Indexer.Archive
import ZkSettle.Library.Slots

/-!
# Uploads per nullifier

A delivery looks whether a nullifier is marked, uploads, and marks it. Nothing keeps another
delivery from looking in between, and nothing shows that a post which was not answered has been
stored. As long as none does and none has, a nullifier is uploaded once.
-/
namespace ZkSettle.Indexer

open Program

variable {standard : Base64.Engine} {heliusAuthToken : String}

/-! ## Between the check and the mark -/

/-- The nullifier that has been looked up and is not yet marked. -/
def Position.held : Position → Option Bytes32
  | .uploading item _ _ => some item.event.nullifierHash
  | .inserting item _ => some item.event.nullifierHash
  | .marking item _ _ => some item.event.nullifierHash
  | .loop _ => none
  | .answered _ => none
  | .dropped => none

/-- The nullifier that has been uploaded and is not yet marked. -/
def Position.sent : Position → Option Bytes32
  | .inserting item _ => some item.event.nullifierHash
  | .marking item _ _ => some item.event.nullifierHash
  | .uploading _ _ _ => none
  | .loop _ => none
  | .answered _ => none
  | .dropped => none

/-- The step reads or writes the dedup store. -/
def Position.usesStore : Position → Prop
  | .loop (_ :: _) => True
  | .marking _ _ _ => True
  | _ => False

def uploads (s : System) : List Bytes32 := s.state.irys.map ProofSettled.nullifierHash

/-- Each nullifier is uploaded at most once. -/
def UploadedOnce (s : System) : Prop := (uploads s).Nodup

/-- No crash, and the dedup store can be read and written. -/
def Undisturbed (s : System) : Action → Prop
  | .advance id answer =>
    ∀ delivery, s.deliveries[id]? = some delivery → delivery.position.usesStore →
      answer.succeeds = true
  | .restart _ => False
  | .deliver _ _ => True
  | .evict _ => True

/-- A nullifier that is looked up and is not marked is not held by a delivery. -/
def Excludes (s : System) : Action → Prop
  | .advance id _ =>
    ∀ delivery, s.deliveries[id]? = some delivery → ∀ item rest,
      delivery.position = .loop (item :: rest) → item.event.nullifierHash ∉ s.state.dedup.db →
        ∀ other ∈ s.deliveries, other.position.held ≠ some item.event.nullifierHash
  | .restart _ => True
  | .deliver _ _ => True
  | .evict _ => True

/-- Irys has stored nothing of a post that it does not answer with success. -/
def Confirms (s : System) : Action → Prop
  | .advance id answer =>
    ∀ delivery, s.deliveries[id]? = some delivery → ∀ item attempt rest,
      delivery.position = .uploading item attempt rest →
        answer.succeeds = false → answer.stored = false
  | .restart _ => True
  | .deliver _ _ => True
  | .evict _ => True

/-- What keeps a nullifier from being uploaded twice. -/
def Careful (s : System) (action : Action) : Prop :=
  Undisturbed s action ∧ Excludes s action ∧ Confirms s action

/-- No two deliveries hold the same nullifier, no upload is under way for one that has been
uploaded, and what has been uploaded is marked or about to be. -/
structure Exclusive (s : System) : Prop where
  backed : s.state.dedup.Backed
  once : UploadedOnce s
  marked : ∀ n ∈ uploads s, n ∈ s.state.dedup.db ∨
    ∃ delivery ∈ s.deliveries, delivery.position.sent = some n
  fresh : ∀ (id : Nat) (delivery : Delivery), s.deliveries[id]? = some delivery →
    ∀ item attempt rest, delivery.position = .uploading item attempt rest →
      item.event.nullifierHash ∉ uploads s
  single : Slots.HeldOnce (fun delivery n => delivery.position.held = some n) s.deliveries

theorem held_of_sent {position : Position} {n : Bytes32} (sent : position.sent = some n) :
    position.held = some n := by
  cases position with
  | inserting item rest => exact sent
  | marking item inserted rest => exact sent
  | _ => cases sent

theorem exclusive_start (dryRun : Bool) (db : Option (List ActiveModel)) :
    Exclusive (.start dryRun db) where
  backed := fun _ member => absurd member List.not_mem_nil
  once := List.nodup_nil
  marked := fun _ member => absurd member List.not_mem_nil
  fresh := nofun
  single := nofun

/-- A new delivery holds nothing. -/
theorem held_begin (authorization : Option String) (transactions : List HeliusTransaction) :
    (Delivery.begin standard heliusAuthToken authorization transactions).position.held = none := by
  rw [Delivery.begin]
  dsimp only
  split
  · rfl
  · rfl

theorem Exclusive.deliver {s : System} (exclusive : Exclusive s) {new : Delivery}
    (nothing : new.position.held = none) :
    Exclusive { s with deliveries := s.deliveries ++ [new] } where
  backed := exclusive.backed
  once := exclusive.once
  marked n member := by
    rcases exclusive.marked n member with stored | ⟨delivery, earlier, sent⟩
    · exact Or.inl stored
    · exact Or.inr ⟨delivery, List.mem_append_left _ earlier, sent⟩
  fresh id delivery found item attempt rest uploading := by
    rcases Slots.snoc_cases found with rfl | earlier
    · rw [uploading] at nothing
      cases nothing
    · exact exclusive.fresh id delivery earlier item attempt rest uploading
  single := exclusive.single.snoc fun n held => by
    rw [nothing] at held
    cases held

/-- What a step of one delivery has to show for the others: it takes up only a nullifier that
no one holds, uploads only what is not uploaded, and lets go only of what is marked. -/
theorem Exclusive.move {s : System} (exclusive : Exclusive s) {id : Nat} {delivery : Delivery}
    (found : s.deliveries[id]? = some delivery) {state : AppState} {position : Position}
    (backed : state.dedup.Backed) (kept : ∀ n ∈ s.state.dedup.db, n ∈ state.dedup.db)
    (once : (state.irys.map ProofSettled.nullifierHash).Nodup)
    (sent : ∀ n ∈ state.irys.map ProofSettled.nullifierHash,
      n ∈ uploads s ∧ delivery.position.sent ≠ some n ∨ n ∈ state.dedup.db ∨
        position.sent = some n)
    (fresh : ∀ item attempt rest, position = .uploading item attempt rest →
      item.event.nullifierHash ∉ state.irys.map ProofSettled.nullifierHash)
    (others : ∀ n ∈ state.irys.map ProofSettled.nullifierHash,
      n ∈ uploads s ∨ delivery.position.held = some n)
    (held : ∀ n, position.held = some n → delivery.position.held = some n ∨
      ∀ other ∈ s.deliveries, other.position.held ≠ some n) :
    Exclusive { state, deliveries := s.deliveries.set id { delivery with position } } := by
  refine ⟨backed, once, fun n member => ?_, ?_, ?_⟩
  · -- uploaded before and sent by another, or by this delivery
    rcases sent n member with ⟨earlier, unsent⟩ | stored | here
    · rcases exclusive.marked n earlier with stored | ⟨other, there, sentThere⟩
      · exact Or.inl (kept n stored)
      · rcases Slots.mem_set_or_eq found there { delivery with position } with rfl | stays
        · exact absurd sentThere unsent
        · exact Or.inr ⟨other, stays, sentThere⟩
    · exact Or.inl stored
    · exact Or.inr ⟨_, Slots.mem_set_self found _, here⟩
  · intro id' other there item attempt rest uploading
    rcases Slots.set_cases there with ⟨-, rfl⟩ | ⟨different, before⟩
    · exact fresh item attempt rest uploading
    · intro member
      rcases others _ member with earlier | heldHere
      · exact exclusive.fresh id' other before item attempt rest uploading earlier
      · have heldThere : other.position.held = some item.event.nullifierHash := by
          rw [uploading]
          rfl
        exact different (exclusive.single id' id other delivery _ before found heldThere heldHere)
  · exact exclusive.single.set found held

/-- A step that uploads nothing. -/
theorem Exclusive.moveQuietly {s : System} (exclusive : Exclusive s) {id : Nat}
    {delivery : Delivery} (found : s.deliveries[id]? = some delivery) {state : AppState}
    {position : Position} (backed : state.dedup.Backed)
    (kept : ∀ n ∈ s.state.dedup.db, n ∈ state.dedup.db) (irys : state.irys = s.state.irys)
    (sent : ∀ n, delivery.position.sent = some n →
      n ∈ state.dedup.db ∨ position.sent = some n)
    (fresh : ∀ item attempt rest, position = .uploading item attempt rest →
      item.event.nullifierHash ∉ uploads s)
    (held : ∀ n, position.held = some n → delivery.position.held = some n ∨
      ∀ other ∈ s.deliveries, other.position.held ≠ some n) :
    Exclusive { state, deliveries := s.deliveries.set id { delivery with position } } := by
  have same : state.irys.map ProofSettled.nullifierHash = uploads s := by rw [irys, uploads]
  apply exclusive.move found backed kept
  · rw [same]
    exact exclusive.once
  · intro n member
    rw [same] at member
    by_cases going : delivery.position.sent = some n
    · exact Or.inr (sent n going)
    · exact Or.inl ⟨member, going⟩
  · rw [same]
    exact fresh
  · rw [same]
    exact fun n member => Or.inl member
  · exact held

/-- What a delivery holds after an upload. -/
theorem uploaded_position (s : AppState) (item : Item) (rest : List Item) :
    (Position.uploaded s item rest).sent = some item.event.nullifierHash ∧
      (Position.uploaded s item rest).held = some item.event.nullifierHash ∧
        ∀ other attempt rest', Position.uploaded s item rest ≠ .uploading other attempt rest' := by
  rw [Position.uploaded]
  split
  · exact ⟨rfl, rfl, by simp⟩
  · exact ⟨rfl, rfl, by simp⟩

theorem Answer.retried_fails {answer : Answer} {attempt : Nat}
    (again : answer.retried attempt = true) : answer.succeeds = false := by
  cases answer with
  | success => cases again
  | failure again stored => rfl

theorem AppState.archive_unstored (s : AppState) (event : ProofSettled) :
    s.archive event false = s := rfl

theorem Exclusive.advance {s : System} (exclusive : Exclusive s) {id : Nat} {answer : Answer}
    (careful : Careful s (.advance id answer)) {delivery : Delivery}
    (found : s.deliveries[id]? = some delivery) {state : AppState} {position : Position}
    (moved : Advanced s.state delivery.position answer state position) :
    Exclusive { state, deliveries := s.deliveries.set id { delivery with position } } := by
  have backed := moved.backed exclusive.backed
  have works := careful.1 delivery found
  have free := careful.2.1 delivery found
  have confirms := careful.2.2 delivery found
  obtain ⟨transactions, before⟩ := delivery
  cases moved with
  | finished =>
    exact exclusive.moveQuietly found backed (fun _ member => member) rfl nofun nofun nofun
  | skipped duplicate =>
    refine exclusive.moveQuietly found backed (fun n member => ?_) rfl nofun nofun nofun
    rwa [NullifierStore.contains_db]
  | @taken item rest _ absent =>
    rw [works trivial] at absent
    have unmarked := NullifierStore.notMem_of_contains absent
    refine exclusive.moveQuietly found backed (fun n member => ?_) rfl nofun ?_ ?_
    · rwa [NullifierStore.contains_db]
    · -- an uploaded nullifier would be marked, or held by the delivery that sent it
      rintro _ _ _ ⟨⟩ uploaded
      rcases exclusive.marked _ uploaded with stored | ⟨other, there, sent⟩
      · exact unmarked stored
      · exact free item rest rfl unmarked other there (held_of_sent sent)
    · rintro _ ⟨⟩
      exact Or.inr (free item rest rfl unmarked)
  | @pretended item attempt rest _ dry =>
    obtain ⟨-, held, going⟩ := uploaded_position s.state item rest
    refine exclusive.moveQuietly found backed (fun _ member => member) rfl nofun ?_ ?_
    · exact fun item attempt rest uploading => absurd uploading (going item attempt rest)
    · intro n holds
      rw [held] at holds
      exact Or.inl holds
  | @uploaded item attempt rest live =>
    have new := exclusive.fresh id _ found item attempt rest rfl
    obtain ⟨sent, held, going⟩ := uploaded_position s.state item rest
    have grown : (s.state.archive item.event true).irys.map ProofSettled.nullifierHash =
        uploads s ++ [item.event.nullifierHash] := List.map_append
    apply exclusive.move found backed (fun _ member => member)
    · rw [grown]
      exact List.Nodup.append exclusive.once (List.nodup_singleton _)
        (List.disjoint_singleton.mpr new)
    · intro n member
      rw [grown] at member
      rcases List.mem_append.mp member with earlier | here
      · exact Or.inl ⟨earlier, nofun⟩
      · rw [List.mem_singleton.mp here]
        exact Or.inr (Or.inr sent)
    · exact fun item attempt rest uploading => absurd uploading (going item attempt rest)
    · intro n member
      rw [grown] at member
      rcases List.mem_append.mp member with earlier | here
      · exact Or.inl earlier
      · rw [List.mem_singleton.mp here]
        exact Or.inr rfl
    · intro n holds
      rw [held] at holds
      exact Or.inl holds
  | @retried item attempt rest _ live again =>
    -- the next post is of the same event, which Irys still does not have
    have fresh := exclusive.fresh id _ found item attempt rest rfl
    rw [confirms item attempt rest rfl (Answer.retried_fails again),
      AppState.archive_unstored] at backed ⊢
    refine exclusive.moveQuietly found backed (fun _ member => member) rfl nofun ?_ fun _ => Or.inl
    rintro _ _ _ ⟨⟩
    exact fresh
  | @unuploaded item attempt rest _ live failed last =>
    rw [confirms item attempt rest rfl failed, AppState.archive_unstored] at backed ⊢
    exact exclusive.moveQuietly found backed (fun _ member => member) rfl nofun nofun nofun
  | inserted =>
    refine exclusive.moveQuietly found backed (fun n member => ?_) (AppState.insert_irys _ _ _)
      (fun _ => Or.inr) nofun fun _ => Or.inl
    rwa [AppState.insert_dedup]
  | @marked item inserted rest =>
    rw [works trivial] at backed ⊢
    refine exclusive.moveQuietly found backed (fun n member => List.mem_cons_of_mem _ member) rfl
      ?_ nofun nofun
    rintro _ ⟨⟩
    exact Or.inl List.mem_cons_self

theorem exclusive_step {s next : System} {action : Action} (exclusive : Exclusive s)
    (careful : Careful s action)
    (accepted : step standard heliusAuthToken s action = .ok next) : Exclusive next := by
  cases step_stepped accepted with
  | delivered => exact exclusive.deliver (held_begin _ _)
  | advanced found moved => exact exclusive.advance careful found moved
  | evicted =>
    exact ⟨exclusive.backed.evict _, exclusive.once, exclusive.marked, exclusive.fresh,
      exclusive.single⟩
  | restarted => exact absurd careful.1 id

theorem exclusive_run {dryRun : Bool} {db : Option (List ActiveModel)} {actions : List Action}
    (careful : Transactional.Meets (step standard heliusAuthToken) Careful (.start dryRun db)
      actions) :
    Exclusive (run standard heliusAuthToken (.start dryRun db) actions) :=
  Transactional.run_invariant_of_meets
    (fun _ _ _ exclusive careful accepted => exclusive_step exclusive careful accepted)
    _ _ careful (exclusive_start dryRun db)

/-- As long as no nullifier is looked up while another delivery holds it, and Irys stores only
what it says, each is uploaded at most once. -/
theorem uploadedOnce_of_careful {dryRun : Bool} {db : Option (List ActiveModel)}
    {actions : List Action}
    (careful : Transactional.Meets (step standard heliusAuthToken) Careful (.start dryRun db)
      actions) :
    UploadedOnce (run standard heliusAuthToken (.start dryRun db) actions) :=
  (exclusive_run careful).once

/-! ## Two deliveries of one event -/

theorem excludes_of_idle {s : System} (id : Nat) {answer : Answer}
    (idle : ∀ other ∈ s.deliveries, other.position.held = none) :
    Excludes s (.advance id answer) := by
  intro delivery found item rest looking unmarked other there held
  rw [idle other there] at held
  cases held

theorem excludes_of_held {s : System} {id : Nat} {answer : Answer} {delivery : Delivery}
    (found : s.deliveries[id]? = some delivery) (busy : delivery.position.held ≠ none) :
    Excludes s (.advance id answer) := by
  intro other same item rest looking
  rw [found, Option.some.injEq] at same
  rw [same, looking] at busy
  exact absurd rfl busy

/-- Where all goes well, it is enough that no delivery looks up what another one holds. -/
theorem Careful.of_excludes {s : System} {id : Nat} (excludes : Excludes s (.advance id .success)) :
    Careful s (.advance id .success) :=
  ⟨fun _ _ _ => rfl, excludes, fun _ _ _ _ _ _ => nofun⟩

/-- A post that fails, and stores nothing. -/
theorem careful_of_refused {s : System} {id : Nat} {item : Item} {attempt : Nat}
    {rest : List Item} {transactions : List HeliusTransaction}
    (found : s.deliveries[id]? = some ⟨transactions, .uploading item attempt rest⟩)
    (again : Bool) : Careful s (.advance id (.failure again false)) := by
  refine ⟨fun delivery same uses => ?_, excludes_of_held found nofun, fun _ _ _ _ _ _ _ => rfl⟩
  rw [found, Option.some.injEq] at same
  rw [← same] at uses
  cases uses

/-- One after the other; the first post of the first is answered with a 5xx status. -/
def oneAfterTheOther : List Action :=
  [.deliver (some "Bearer test-token") [eventTx (sampleEvent 1)], .advance 0 .success,
    .advance 0 (.failure true false), .advance 0 .success, .advance 0 .success,
    .advance 0 .success, .advance 0 .success,
    .deliver (some "Bearer test-token") [eventTx (sampleEvent 1)], .advance 1 .success,
    .advance 1 .success]

theorem careful_oneAfterTheOther : Transactional.Meets (step Base64.standard "test-token")
    Careful (.start false (some [])) oneAfterTheOther := by
  refine .cons (step_eventTx _ _) ⟨trivial, trivial, trivial⟩ ?_
  -- the first holds the nullifier from its check to its mark
  refine .cons rfl (.of_excludes (excludes_of_idle 0 (by decide))) ?_
  refine .cons rfl (careful_of_refused rfl true) ?_
  refine .cons rfl (.of_excludes (excludes_of_held rfl nofun)) ?_
  refine .cons rfl (.of_excludes (excludes_of_held rfl nofun)) ?_
  refine .cons rfl (.of_excludes (excludes_of_held rfl nofun)) ?_
  refine .cons rfl (.of_excludes (excludes_of_idle 0 (by decide))) ?_
  refine .cons (step_eventTx _ _) ⟨trivial, trivial, trivial⟩ ?_
  refine .cons rfl (.of_excludes (excludes_of_idle 1 (by decide))) ?_
  exact .cons rfl (.of_excludes (excludes_of_idle 1 (by decide))) trivial

theorem uploadedOnce_oneAfterTheOther :
    UploadedOnce (run Base64.standard "test-token" (.start false (some [])) oneAfterTheOther) :=
  uploadedOnce_of_careful careful_oneAfterTheOther

/-- Both look before either uploads. -/
def sideBySide : List Action :=
  [.deliver (some "Bearer test-token") [eventTx (sampleEvent 1)],
    .deliver (some "Bearer test-token") [eventTx (sampleEvent 1)], .advance 0 .success,
    .advance 1 .success, .advance 0 .success, .advance 1 .success]

theorem undisturbed_sideBySide : Transactional.Meets (step Base64.standard "test-token")
    Undisturbed (.start false (some [])) sideBySide := by
  apply Transactional.meets_of_forall
  intro action member s
  simp only [sideBySide, List.mem_cons, List.not_mem_nil, or_false] at member
  rcases member with rfl | rfl | rfl | rfl | rfl | rfl
  · trivial
  · trivial
  all_goals exact fun _ _ _ => rfl

theorem not_uploadedOnce : ¬ ∀ (standard : Base64.Engine) (heliusAuthToken : String)
    (db : Option (List ActiveModel)) (actions : List Action),
    Transactional.Meets (step standard heliusAuthToken) Undisturbed (.start false db) actions →
      UploadedOnce (run standard heliusAuthToken (.start false db) actions) := by
  intro always
  have once := always Base64.standard "test-token" (some []) sideBySide undisturbed_sideBySide
  have twice : uploads (run Base64.standard "test-token" (.start false (some [])) sideBySide) =
      [(sampleEvent 1).nullifierHash, (sampleEvent 1).nullifierHash] := by
    rw [sideBySide, run, Transactional.run_cons_ok (step_eventTx _ _),
      Transactional.run_cons_ok (step_eventTx _ _)]
    rfl
  rw [UploadedOnce, twice] at once
  exact (List.nodup_cons.mp once).1 List.mem_cons_self

end ZkSettle.Indexer
