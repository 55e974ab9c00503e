import ZkSettle.Library.Runs
import ZkSettle.Program.Handlers

/-!
# The zksettle program as a state machine

The instructions of the program, called by anyone with any accounts, and the
transactions of other programs in between. Two facts about an accepted call carry
the results about runs: what it does to payload accounts, and, when it settles,
what it has checked and created.
-/
namespace ZkSettle.Program

open Checks

variable {Proof Address World : Type} (env : External Proof Address World)

inductive Call where
  | initAttestationTree (accounts : InitAttestationTree)
  | registerIssuer (clock : Clock) (accounts : IssuerAccounts)
      (merkleRoot sanctionsRoot jurisdictionRoot : Bytes32)
  | updateIssuerRoot (clock : Clock) (accounts : IssuerAccounts)
      (merkleRoot sanctionsRoot jurisdictionRoot : Bytes32)
  | verifyProof (clock : Clock) (accounts : VerifyProof) (args : VerifyProofArgs)
      (remaining : List AccountInfo)
  | checkAttestation (clock : Clock) (accounts : CheckAttestation) (nullifierHash : Bytes32)
      (validityProof : ValidityProof) (attestationMeta : List UInt8)
      (compressedAttestation : CompressedAttestation) (remaining : List AccountInfo)
  | initHookPayload (accounts : HookPayloadAccounts) (expectedProofLen : UInt32)
  | resizeHookPayload (accounts : HookPayloadAccounts)
  | writeHookProof (accounts : HookPayloadAccounts) (offset : UInt32) (chunk : List UInt8)
  | finalizeHookPayload (accounts : HookPayloadAccounts) (nullifierHash : Bytes32)
      (mint : Pubkey) (epoch : UInt64) (recipient : Pubkey) (amount : UInt64)
      (lightArgs : StagedLightArgs)
  | initExtraAccountMetaList (accounts : InitExtraAccountMetaList)
      (extras : List ExtraAccountMetaInput)
  | settleHook (clock : Clock) (accounts : SettleHook) (amount : UInt64)
      (remaining : List AccountInfo)
  | closeHookPayload (accounts : CloseHookPayload)
  | transferHook (clock : Clock) (accounts : ExecuteHook) (amount : UInt64)
      (remaining : List AccountInfo)
  | elsewhere (transaction : List UInt8)

def step (s : State World) : Call → Except Error (State World)
  | .initAttestationTree accounts => initHandler env s accounts
  | .registerIssuer clock accounts merkleRoot sanctionsRoot jurisdictionRoot =>
    registerHandler env s clock accounts merkleRoot sanctionsRoot jurisdictionRoot
  | .updateIssuerRoot clock accounts merkleRoot sanctionsRoot jurisdictionRoot =>
    updateHandler env s clock accounts merkleRoot sanctionsRoot jurisdictionRoot
  | .verifyProof clock accounts args remaining => handler env s clock accounts args remaining
  | .checkAttestation clock accounts nullifierHash validityProof attestationMeta
      compressedAttestation remaining =>
    checkHandler env s clock accounts nullifierHash validityProof attestationMeta
      compressedAttestation remaining
  | .initHookPayload accounts expectedProofLen =>
    initHookPayloadHandler env s accounts expectedProofLen
  | .resizeHookPayload accounts => resizeHookPayloadHandler env s accounts
  | .writeHookProof accounts offset chunk => writeHookProofHandler env s accounts offset chunk
  | .finalizeHookPayload accounts nullifierHash mint epoch recipient amount lightArgs =>
    finalizeHookPayloadHandler env s accounts nullifierHash mint epoch recipient amount lightArgs
  | .initExtraAccountMetaList accounts extras =>
    initExtraAccountMetaListHandler env s accounts extras
  | .settleHook clock accounts amount remaining =>
    settleHookHandler env s clock accounts amount remaining
  | .closeHookPayload accounts => closeHookPayloadHandler env s accounts
  | .transferHook clock accounts amount remaining =>
    executeHookHandler env s clock accounts amount remaining
  | .elsewhere transaction => .ok { s with world := env.elsewhere s.world transaction }

/-- The state after any sequence of calls. -/
def run (s : State World) (calls : List Call) : State World :=
  Transactional.run (step env) s calls

/-! ## The world moves by calls of other programs -/

/-- Transactions and calls of other programs that create no compressed account of this one. -/
inductive Moves : World → World → Prop where
  | refl (world : World) : Moves world world
  | lightInvoke {world next last : World} (cpi : LightCpi Address)
      (reads : ∀ account ∈ cpi.accounts, ∃ accountMeta data trees,
        env.newReadOnly accountMeta data trees = some account)
      (invoked : env.lightInvoke world cpi = some next) (later : Moves next last) :
      Moves world last
  | mintV1 {world next last : World} (mint : MintV1)
      (minted : env.mintV1 world mint = some next) (later : Moves next last) : Moves world last
  | createTreeConfig {world next last : World} (config : CreateTreeConfig)
      (created : env.createTreeConfig world config = some next) (later : Moves next last) :
      Moves world last
  | elsewhere {world last : World} (transaction : List UInt8)
      (later : Moves (env.elsewhere world transaction) last) : Moves world last

theorem lightInvoke_eq_ok {s s' : State World} {cpi : LightCpi Address}
    (accepted : lightInvoke env s cpi = .ok s') :
    ∃ world, env.lightInvoke s.world cpi = some world ∧ s' = { s with world } := by
  simp only [lightInvoke, bind_eq_ok, require_eq_ok, okOr_eq_ok, pure_eq_ok] at accepted
  obtain ⟨_, -, world, invoked, rfl⟩ := accepted
  exact ⟨world, invoked, rfl⟩

/-! ## What a settlement has checked -/

def ProofSettled.bindings (event : ProofSettled) : BindingInputs where
  merkleRoot := event.merkleRoot
  nullifierHash := event.nullifierHash
  mint := event.mint
  epoch := event.epoch
  recipient := event.recipient
  amount := event.amount
  sanctionsRoot := event.sanctionsRoot
  jurisdictionRoot := event.jurisdictionRoot
  timestamp := event.timestamp

/-- The guards of a settlement with the given proof bundle, at a clock. -/
structure Guarded (s : State World) (clock : Clock) (bundle : List UInt8)
    (event : ProofSettled) : Prop where
  nullifier : event.nullifierHash ≠ .zero
  amount : 0 < event.amount
  issuer : ∃ issuer, s.accounts event.issuer = some (.issuer issuer) ∧
    event.slot.toNat - issuer.rootSlot.toNat ≤ MAX_ROOT_AGE_SLOTS ∧
    event.merkleRoot = issuer.merkleRoot ∧ event.sanctionsRoot = issuer.sanctionsRoot ∧
    event.jurisdictionRoot = issuer.jurisdictionRoot
  slot : event.slot = clock.slot
  epoch : 0 ≤ clock.unixTimestamp.toInt ∧
    event.epoch.toNat * 86400 ≤ clock.unixTimestamp.toInt ∧
    clock.unixTimestamp.toInt < (event.epoch.toNat + 2) * 86400
  timestamp : event.timestamp.toNat = event.epoch.toNat * 86400
  verified : ∃ proof witness, BundleVerified env bundle event.bindings proof witness

/-- What a call that settles is about, in the state it meets. -/
structure Settlement where
  clock : Clock
  bundle : List UInt8
  issuer : Pubkey
  nullifierHash : Bytes32
  addressTree : Option Pubkey

def Call.settlement (s : State World) : Call → Option Settlement
  | .verifyProof clock accounts args remaining =>
    some
      { clock
        bundle := args.proofAndWitness
        issuer := accounts.issuer
        nullifierHash := args.nullifierHash
        addressTree := env.getTreePubkey args.addressTreeInfo accounts.payer remaining }
  | .settleHook clock accounts _ remaining =>
    match s.hookPayload accounts.hookPayload with
    | .ok (payload, _) =>
      some
        { clock
          bundle := payload.proofAndWitness
          issuer := accounts.issuer
          nullifierHash := payload.nullifierHash
          addressTree :=
            env.getTreePubkey payload.lightArgs.toTreeInfo accounts.authority remaining }
    | .error _ => none
  | .transferHook clock accounts _ remaining =>
    match s.hookPayload accounts.hookPayload with
    | .ok (payload, _) =>
      -- Light sees the accounts that are left when those of Bubblegum are split off
      match ExecuteHook.split payload remaining with
      | .ok (lightRem, _) =>
        some
          { clock
            bundle := payload.proofAndWitness
            issuer := accounts.issuer
            nullifierHash := payload.nullifierHash
            addressTree :=
              env.getTreePubkey payload.lightArgs.toTreeInfo accounts.owner lightRem }
      | .error _ => none
    | .error _ => none
  | _ => none

/-- The call has settled: it passed the guards, and its only event is that of the
settlement, which `settle_core` made. -/
structure Settled (s : State World) (call : Call) (s' : State World)
    (params : SettlementParams) : Prop where
  issuerBytes : params.issuerBytes = params.issuerKey
  settlement : ∃ settlement, call.settlement env s = some settlement ∧
    settlement.issuer = params.issuerKey ∧ settlement.nullifierHash = params.nullifierHash ∧
    settlement.addressTree = params.addressTree env ∧
    Guarded env s settlement.clock settlement.bundle params.event
  core : ∃ s₁, settleCore env s params = .ok s₁ ∧ s'.events = s₁.events ∧
    Moves env s₁.world s'.world

/-- An attestation with a fresh slot, the issuer and the nullifier was shown to Light. -/
def Checked (s : State World) (event : AttestationChecked) : Prop :=
  ∃ attestation accountMeta trees readOnly cpi world,
    validateAttestation event.slot attestation event.nullifierHash event.issuer = .ok () ∧
    env.newReadOnly accountMeta (.attestation attestation) trees = some readOnly ∧
    readOnly ∈ cpi.accounts ∧ env.lightInvoke s.world cpi = some world

/-- The call has not settled: it emitted nothing, or an attestation check. -/
structure Quiet (s s' : State World) : Prop where
  events : s'.events = s.events ∨
    ∃ event, Checked env s event ∧ s'.events = s.events ++ [.attestationChecked event]
  world : Moves env s.world s'.world

end ZkSettle.Program
