import ZkSettle.Program.Reference

/-!
# Three records of one settlement

A settlement is recorded as a compressed nullifier, a compressed attestation and an event,
and a later check trusts the attestation. After any run the compressed accounts of the
program are those of its events, two for each in their order, so that a check that Light
lets through is about an event that was emitted before.
-/
namespace ZkSettle.Program

open Checks

variable {Proof Address World : Type} {env : External Proof Address World}

/-! ## Compressed accounts of the program -/

abbrev Compressed (Address : Type) := Option Address × CompressedData

def LightAccount.creates : LightAccount Address → Option (Compressed Address)
  | .newInit address data _ => some (address, data)
  | .readOnly _ _ _ => none

/-- Light keeps the compressed accounts that the program creates, in the order of creation,
and lets a read-only account pass only when it is one of them. -/
structure LightLedger (env : External Proof Address World)
    (created : World → List (Compressed Address)) : Prop where
  lightInvoke : ∀ {world next cpi}, env.lightInvoke world cpi = some next →
    created next = created world ++ cpi.accounts.filterMap LightAccount.creates
  newReadOnly : ∀ {accountMeta data trees account},
    env.newReadOnly accountMeta data trees = some account →
      account = .readOnly accountMeta data trees
  included : ∀ {world next cpi accountMeta data trees}, env.lightInvoke world cpi = some next →
    .readOnly accountMeta data trees ∈ cpi.accounts →
      ∃ address, (address, data) ∈ created world
  mintV1 : ∀ {world next mint}, env.mintV1 world mint = some next → created next = created world
  createTreeConfig : ∀ {world next config}, env.createTreeConfig world config = some next →
    created next = created world
  elsewhere : ∀ {world transaction}, created (env.elsewhere world transaction) = created world

theorem LightLedger.moves {created : World → List (Compressed Address)}
    (ledger : LightLedger env created) {world last : World} (moves : Moves env world last) :
    created last = created world := by
  induction moves with
  | refl => rfl
  | lightInvoke cpi reads invoked _ ih =>
    -- what is read is not created
    have nothing : cpi.accounts.filterMap LightAccount.creates = [] := by
      rw [List.filterMap_eq_nil_iff]
      intro account member
      obtain ⟨accountMeta, data, trees, read⟩ := reads account member
      rw [ledger.newReadOnly read]
      rfl
    rw [ih, ledger.lightInvoke invoked, nothing, List.append_nil]
  | mintV1 mint minted _ ih => rw [ih, ledger.mintV1 minted]
  | createTreeConfig config made _ ih => rw [ih, ledger.createTreeConfig made]
  | elsewhere transaction _ ih => rw [ih, ledger.elsewhere]

/-! ## Records -/

/-- The data of the attestation that belongs to an event. -/
def ProofSettled.attestation (event : ProofSettled) : CompressedAttestation where
  issuer := event.issuer
  nullifierHash := event.nullifierHash
  merkleRoot := event.merkleRoot
  sanctionsRoot := event.sanctionsRoot
  jurisdictionRoot := event.jurisdictionRoot
  mint := event.mint
  recipient := event.recipient
  amount := event.amount
  epoch := event.epoch
  timestamp := event.timestamp
  slot := event.slot
  payer := event.payer

variable (env) in
/-- The nullifier and the attestation of an event in an address tree. -/
def External.records (event : ProofSettled) (tree : Pubkey) : List (Compressed Address) :=
  [(some (env.nullifierAddress event.issuer event.nullifierHash tree).1, .nullifier),
    (some (env.attestationAddress event.issuer event.nullifierHash tree).1,
      .attestation event.attestation)]

/-- The settlements that were announced, in order. -/
def settlements (events : List Event) : List ProofSettled :=
  events.filterMap fun event => match event with
    | .proofSettled event => some event
    | .attestationChecked _ => none

/-- A check is about a settlement that was announced before it and is not too old. -/
def Backed (events : List Event) (checked : AttestationChecked) : Prop :=
  ∃ event ∈ settlements events, event.issuer = checked.issuer ∧
    event.nullifierHash = checked.nullifierHash ∧
    checked.slot.toNat - event.slot.toNat ≤ MAX_ATTESTATION_AGE_SLOTS

/-- The compressed accounts are those of the settlements, and every check is backed. -/
structure Recorded (env : External Proof Address World)
    (created : World → List (Compressed Address)) (s : State World) : Prop where
  valid : FinalizedPayloadsValid s
  records : ∃ trees : List Pubkey, trees.length = (settlements s.events).length ∧
    created s.world = ((settlements s.events).zip trees).flatMap fun p => env.records p.1 p.2
  checks : ∀ before after checked,
    s.events = before ++ .attestationChecked checked :: after → Backed before checked

theorem settlements_append (first second : List Event) :
    settlements (first ++ second) = settlements first ++ settlements second :=
  List.filterMap_append

/-- `settle_core` creates the records of its event. -/
theorem settleCore_creates {created : World → List (Compressed Address)}
    (ledger : LightLedger env created) {s s' : State World} {params : SettlementParams}
    (bytes : params.issuerBytes = params.issuerKey)
    (accepted : settleCore env s params = .ok s') :
    ∃ tree, created s'.world = created s.world ++ env.records params.event tree := by
  obtain ⟨tree, world, -, -, invoked, rfl⟩ := (settleCore_eq_ok env).mp accepted
  refine ⟨tree, ?_⟩
  have attested : params.attestation = params.event.attestation := by
    simp only [SettlementParams.attestation, SettlementParams.event, ProofSettled.attestation,
      bytes]
  simp only [ledger.lightInvoke invoked, SettlementParams.lightCpi, External.records, bytes,
    attested, List.filterMap_cons, List.filterMap_nil, LightAccount.creates,
    SettlementParams.event]

/-- An attestation among the records of some settlements is that of one of them. -/
theorem exists_of_mem_records {events : List ProofSettled} {trees : List Pubkey}
    {address : Option Address} {attestation : CompressedAttestation}
    (member : (address, .attestation attestation) ∈
      (events.zip trees).flatMap fun p => env.records p.1 p.2) :
    ∃ event ∈ events, attestation = event.attestation := by
  obtain ⟨⟨event, tree⟩, paired, recorded⟩ := List.mem_flatMap.mp member
  refine ⟨event, (List.of_mem_zip paired).1, ?_⟩
  rw [External.records, List.mem_cons, List.mem_singleton] at recorded
  rcases recorded with nullifier | same
  · cases nullifier
  · cases same
    rfl

/-- What Light lets through in a recorded state is backed by the events so far. -/
theorem Recorded.backed {created : World → List (Compressed Address)}
    (ledger : LightLedger env created) {s : State World} (recorded : Recorded env created s)
    {checked : AttestationChecked} (passed : Checked env s checked) :
    Backed s.events checked := by
  obtain ⟨attestation, accountMeta, trees, readOnly, cpi, world, validated, read, member,
    invoked⟩ := passed
  rw [ledger.newReadOnly read] at member
  obtain ⟨address, included⟩ := ledger.included invoked member
  obtain ⟨named, -, same⟩ := recorded.records
  rw [same] at included
  obtain ⟨event, emitted, rfl⟩ := exists_of_mem_records included
  simp only [validateAttestation, bind_eq_ok, require_eq_ok, exists_const] at validated
  obtain ⟨fresh, nullifier, issuer⟩ := validated
  exact ⟨event, emitted, issuer, nullifier, fresh⟩

/-! ## Runs -/

/-- A new last event splits a list of events at itself, or further left. -/
theorem append_singleton_split {events before after : List Event} {last : Event}
    {checked : AttestationChecked}
    (split : events ++ [last] = before ++ .attestationChecked checked :: after) :
    (before = events ∧ last = .attestationChecked checked) ∨
      ∃ rest, events = before ++ .attestationChecked checked :: rest := by
  rcases List.eq_nil_or_concat after with rfl | ⟨rest, end_, rfl⟩
  · obtain ⟨same, lasts⟩ := List.append_inj' split rfl
    exact Or.inl ⟨same.symm, List.singleton_inj.mp lasts⟩
  · right
    have shorter : events ++ [last] =
        (before ++ .attestationChecked checked :: rest) ++ [end_] := by
      simpa [List.concat_eq_append] using split
    exact ⟨rest, (List.append_inj' shorter rfl).1⟩

theorem step_recorded {created : World → List (Compressed Address)}
    (ledger : LightLedger env created) (s : State World) (call : Call) (s' : State World)
    (recorded : Recorded env created s) (accepted : step env s call = .ok s') :
    Recorded env created s' := by
  have valid := step_finalizedPayloadsValid recorded.valid accepted
  obtain ⟨trees, length, same⟩ := recorded.records
  rcases step_quiet_or_settled recorded.valid accepted with quiet | ⟨params, settled⟩
  · have kept := ledger.moves quiet.world
    rcases quiet.events with events | ⟨checked, passed, events⟩
    · -- nothing was announced
      refine ⟨valid, ⟨trees, by rw [events, length], by rw [kept, events, same]⟩, ?_⟩
      rw [events]
      exact recorded.checks
    · -- an attestation was checked, which announces no settlement
      have settlements_eq : settlements s'.events = settlements s.events := by
        rw [events, settlements_append]
        exact List.append_nil _
      refine ⟨valid, ⟨trees, by rw [settlements_eq, length],
        by rw [kept, settlements_eq, same]⟩, ?_⟩
      intro before after other split
      rw [events] at split
      rcases append_singleton_split split with ⟨rfl, this⟩ | ⟨rest, earlier⟩
      · cases this
        exact recorded.backed ledger passed
      · exact recorded.checks before rest other earlier
  · obtain ⟨s₁, core, events, moves⟩ := settled.core
    obtain ⟨tree, appended⟩ := settleCore_creates ledger settled.issuerBytes core
    rw [settleCore_events core] at events
    have settlements_eq : settlements s'.events = settlements s.events ++ [params.event] := by
      rw [events, settlements_append]
      rfl
    refine ⟨valid, ⟨trees ++ [tree], ?_, ?_⟩, ?_⟩
    · rw [settlements_eq, List.length_append, List.length_append, length]
      rfl
    · rw [ledger.moves moves, appended, same, settlements_eq, List.zip_append length.symm,
        List.flatMap_append]
      simp
    · intro before after other split
      rw [events] at split
      rcases append_singleton_split split with ⟨-, this⟩ | ⟨rest, earlier⟩
      · cases this
      · exact recorded.checks before rest other earlier

/-! ## A ledger with data -/

namespace Reference

/-- The addresses in use, and the compressed accounts of the program. -/
abbrev Archive := Ledger × List (Compressed Derived)

def readable (accounts : List (Compressed Derived)) : LightAccount Derived → Bool
  | .newInit _ _ _ => true
  | .readOnly _ data _ => data ∈ accounts.map Prod.snd

def archiveInvoke (archive : Archive) (cpi : LightCpi Derived) : Option Archive :=
  if cpi.accounts.all (readable archive.2) then
    (Reference.lightInvoke archive.1 cpi).map fun ledger =>
      (ledger, archive.2 ++ cpi.accounts.filterMap LightAccount.creates)
  else none

end Reference

open Reference in
/-- The reference with a Light program that keeps the data of its accounts. -/
def recording : External (List UInt8) Derived Archive :=
  { reference with
    lightInvoke := archiveInvoke
    createTreeConfig := fun archive _ => some archive
    mintV1 := fun archive _ => some archive
    elsewhere := fun archive _ => archive }

theorem recording_ledger : LightLedger recording Prod.snd where
  lightInvoke := by
    intro world next cpi invoked
    simp only [recording, Reference.archiveInvoke, Option.ite_none_right_eq_some,
      Option.map_eq_some_iff] at invoked
    obtain ⟨-, ledger, -, rfl⟩ := invoked
    rfl
  newReadOnly := by
    intro accountMeta data trees account read
    exact (Option.some.inj read).symm
  included := by
    intro world next cpi accountMeta data trees invoked member
    simp only [recording, Reference.archiveInvoke, Option.ite_none_right_eq_some,
      List.all_eq_true] at invoked
    have readable := invoked.1 _ member
    simpa [Reference.readable] using readable
  mintV1 := by
    intro world next mint minted
    cases minted
    rfl
  createTreeConfig := by
    intro world next config made
    cases made
    rfl
  elsewhere := rfl

/-! ## Agreement -/

/-- After any run the compressed accounts are the two of each settlement, field by field and
in their order; every check is about a settlement announced before it within the allowed
age; and a call that fails leaves no account and no event. -/
theorem records_agree {created : World → List (Compressed Address)}
    (ledger : LightLedger env created) (world : World) (deployed : created world = [])
    (calls : List Call) :
    (∃ trees : List Pubkey,
      trees.length = (settlements (run env (.deployed world) calls).events).length ∧
      created (run env (.deployed world) calls).world =
        ((settlements (run env (.deployed world) calls).events).zip trees).flatMap fun p =>
          env.records p.1 p.2) ∧
      (∀ before after checked, (run env (.deployed world) calls).events =
        before ++ .attestationChecked checked :: after → Backed before checked) ∧
      ∀ call error, step env (run env (.deployed world) calls) call = .error error →
        run env (.deployed world) (calls ++ [call]) = run env (.deployed world) calls := by
  have recorded : Recorded env created (run env (.deployed world) calls) := by
    apply Transactional.run_invariant (step_recorded ledger)
    refine ⟨?_, ⟨[], rfl, deployed⟩, ?_⟩
    · intro address payload dataLen found
      cases found
    · intro before after checked split
      have nonempty : before ++ .attestationChecked checked :: after ≠ [] := by simp
      exact absurd split.symm nonempty
  refine ⟨recorded.records, recorded.checks, ?_⟩
  intro call error rejected
  rw [run, Transactional.run_append, Transactional.run_cons, Transactional.run_nil,
    Transactional.commit, ← run, rejected]

namespace Scenario

def recordedPrepared : State Reference.Archive where
  accounts := prepared.accounts
  world := ([], [])
  events := []

theorem run_prepare_recording :
    run recording (.deployed ([], [])) prepare = recordedPrepared := by
  have first : step recording (.deployed ([], [])) register =
      .ok ⟨registered.accounts, ([], []), []⟩ := rfl
  have grown : 31800 ≤ merkleTree.data.length := List.length_replicate.ge
  have loaded : attestationTree.load recording ⟨registered.accounts, ([], []), []⟩ = .ok () := rfl
  have second : step recording ⟨registered.accounts, ([], []), []⟩
      (.initAttestationTree attestationTree) = .ok recordedPrepared := by
    simp only [step, initHandler, Checks.bind_eq_ok, Checks.require_eq_ok, Checks.okOr_eq_ok,
      Checks.pure_eq_ok, exists_const]
    exact ⟨(), loaded, rfl, grown, rfl, ([], []), rfl, rfl⟩
  rw [run, prepare, Transactional.run_cons, Transactional.run_cons, Transactional.commit_ok first,
    Transactional.commit_ok second, Transactional.run_nil]

theorem run_prepare_recording_append (calls : List Call) :
    run recording (.deployed ([], [])) (prepare ++ calls) =
      run recording recordedPrepared calls := by
  rw [run, Transactional.run_append]
  exact congrArg (Transactional.run (step recording) · calls) run_prepare_recording

/-- The check of the attestation of the one transfer. -/
def check : Call :=
  .checkAttestation clock { payer, issuer } nullifierHash none []
    { issuer
      nullifierHash
      merkleRoot := .ofNat 7
      sanctionsRoot := .ofNat 8
      jurisdictionRoot := .ofNat 9
      mint
      recipient
      amount := 50
      epoch := 1
      timestamp := 86400
      slot := 10
      payer } []

end Scenario

open Scenario in
theorem records_agree_check : ∃ before checked,
    (run recording (.deployed ([], [])) (prepare ++ [settle bindings 20, check])).events =
      before ++ [.attestationChecked checked] ∧ Backed before checked := by
  -- the settlement is announced, then its attestation is checked
  have emitted : (run recording recordedPrepared [settle bindings 20, check]).events =
      (run recording recordedPrepared [settle bindings 20]).events ++
        [.attestationChecked ⟨1, issuer, nullifierHash, 10⟩] := by decide +kernel
  rw [← run_prepare_recording_append] at emitted
  have agree := records_agree recording_ledger ([], []) rfl
    (prepare ++ [settle bindings 20, check])
  exact ⟨_, _, emitted, agree.2.1 _ [] _ emitted⟩

end ZkSettle.Program
