import ZkSettle.Program.Bindings
import ZkSettle.Program.HookPayload

/-!
# Settlement

`settle_core` creates the nullifier and the attestation as compressed accounts and
emits the event; it is the only place that does. `verify_proof` reaches it with its
own checks, `settle_hook` and `transfer_hook` reach it through `run_settlement` with
a staged payload. A call that fails anywhere is rolled back.
-/
namespace ZkSettle.Program

open Checks

variable {Proof Address World : Type} (env : External Proof Address World)

/-! ## settle_core -/

structure SettlementParams where
  issuerKey : Pubkey
  issuerBytes : Bytes32
  nullifierHash : Bytes32
  merkleRoot : Bytes32
  sanctionsRoot : Bytes32
  jurisdictionRoot : Bytes32
  mint : Pubkey
  recipient : Pubkey
  amount : UInt64
  epoch : UInt64
  timestamp : UInt64
  slot : UInt64
  payerKey : Pubkey
  validityProof : ValidityProof
  addressTreeInfo : PackedAddressTreeInfo
  outputStateTreeIndex : UInt8
  remainingAccounts : List AccountInfo

def SettlementParams.attestation (params : SettlementParams) : CompressedAttestation where
  issuer := params.issuerBytes
  nullifierHash := params.nullifierHash
  merkleRoot := params.merkleRoot
  sanctionsRoot := params.sanctionsRoot
  jurisdictionRoot := params.jurisdictionRoot
  mint := params.mint
  recipient := params.recipient
  amount := params.amount
  epoch := params.epoch
  timestamp := params.timestamp
  slot := params.slot
  payer := params.payerKey

def SettlementParams.event (params : SettlementParams) : ProofSettled where
  version := 1
  issuer := params.issuerKey
  nullifierHash := params.nullifierHash
  merkleRoot := params.merkleRoot
  sanctionsRoot := params.sanctionsRoot
  jurisdictionRoot := params.jurisdictionRoot
  mint := params.mint
  recipient := params.recipient
  amount := params.amount
  epoch := params.epoch
  timestamp := params.timestamp
  slot := params.slot
  payer := params.payerKey

/-- The address tree that the tree info of a call names among its accounts. -/
def SettlementParams.addressTree (params : SettlementParams) : Option Pubkey :=
  env.getTreePubkey params.addressTreeInfo params.payerKey params.remainingAccounts

def External.nullifierAddress (issuer : Pubkey) (nullifierHash : Bytes32) (tree : Pubkey) :
    Address × Bytes32 :=
  env.deriveAddress [NULLIFIER_SEED, issuer.bytes, nullifierHash.bytes] tree ID

def External.attestationAddress (issuer : Pubkey) (nullifierHash : Bytes32) (tree : Pubkey) :
    Address × Bytes32 :=
  env.deriveAddress [ATTESTATION_SEED, issuer.bytes, nullifierHash.bytes] tree ID

/-- The call of the Light system program: two new addresses and their accounts. -/
def SettlementParams.lightCpi (params : SettlementParams) (tree : Pubkey) : LightCpi Address :=
  let (nullAddr, nullSeed) := env.nullifierAddress params.issuerBytes params.nullifierHash tree
  let (attAddr, attSeed) := env.attestationAddress params.issuerBytes params.nullifierHash tree
  { validityProof := params.validityProof
    newAddresses :=
      [{ seed := nullSeed, treeInfo := params.addressTreeInfo, assignedAccountIndex := some 0 },
        { seed := attSeed, treeInfo := params.addressTreeInfo, assignedAccountIndex := some 1 }]
    accounts :=
      [.newInit (some nullAddr) .nullifier params.outputStateTreeIndex,
        .newInit (some attAddr) (.attestation params.attestation) params.outputStateTreeIndex]
    payer := params.payerKey
    remainingAccounts := params.remainingAccounts }

def lightInvoke (s : State World) (cpi : LightCpi Address) : Except Error (State World) := do
  require (∀ account ∈ cpi.accounts, env.packsLightAccount account = true)
    (.zksettle .lightAccountPackFailed)
  let world ← okOr (env.lightInvoke s.world cpi) (.zksettle .lightInvokeFailed)
  pure { s with world }

def settleCore (s : State World) (params : SettlementParams) : Except Error (State World) := do
  let tree ← okOr (params.addressTree env) (.zksettle .invalidLightAddress)
  let s ← lightInvoke env s (params.lightCpi env tree)
  pure (s.emit (.proofSettled params.event))

/-- A settlement that succeeds has created its addresses in the tree it names. -/
theorem settleCore_eq_ok {s s' : State World} {params : SettlementParams} :
    settleCore env s params = .ok s' ↔ ∃ tree world, params.addressTree env = some tree ∧
      (∀ account ∈ (params.lightCpi env tree).accounts, env.packsLightAccount account = true) ∧
      env.lightInvoke s.world (params.lightCpi env tree) = some world ∧
      s' = { s with world, events := s.events ++ [.proofSettled params.event] } := by
  simp only [settleCore, lightInvoke, bind_eq_ok, okOr_eq_ok, require_eq_ok, pure_eq_ok,
    exists_const]
  constructor
  · rintro ⟨tree, named, _, ⟨packed, world, invoked, rfl⟩, rfl⟩
    exact ⟨tree, world, named, packed, invoked, rfl⟩
  · rintro ⟨tree, world, named, packed, invoked, rfl⟩
    exact ⟨tree, named, _, ⟨packed, world, invoked, rfl⟩, rfl⟩

/-! ## The attestation token -/

def saturatingAddU64 (a b : UInt64) : UInt64 := .ofNat (min (a.toNat + b.toNat) (2 ^ 64 - 1))

def toLeBytes (x : UInt64) : List UInt8 := (BigEndian.encode 8 x.toNat).reverse

def attestationMetadataUri (issuer : Pubkey) (nullifierHash merkleRoot : Bytes32)
    (slot expirySlot : UInt64) : String :=
  let h := env.hashText
    [issuer.bytes, nullifierHash.bytes, merkleRoot.bytes, toLeBytes slot, toLeBytes expirySlot]
  "https://zksettle.dev/meta/v1/" ++ String.ofList (h.toList.take 44)

def attestationMetadataName (slot : UInt64) : String := "ZKS-" ++ toString slot.toNat

def buildAttestationMetadata (issuer : Pubkey) (slot : UInt64)
    (nullifierHash merkleRoot : Bytes32) : BgMetadataArgs :=
  let expirySlot := saturatingAddU64 slot (.ofNat MAX_ROOT_AGE_SLOTS)
  { name := attestationMetadataName slot
    symbol := "ZKSATT"
    uri := attestationMetadataUri env issuer nullifierHash merkleRoot slot expirySlot
    sellerFeeBasisPoints := 0
    primarySaleHappened := false
    isMutable := true
    editionNonce := none
    tokenStandard := some .nonFungible
    collection := none
    uses := none
    tokenProgramVersion := .original
    creators := [{ address := issuer, verified := false, share := 100 }] }

/-- What the token attests. -/
structure Attested where
  issuer : Pubkey
  nullifierHash : Bytes32
  merkleRoot : Bytes32
  slot : UInt64

def invokeMintV1 (s : State World) (treeConfig leafOwner merkleTree payer treeCreatorOrDelegate
    logWrapper compressionProgram systemProgram : Pubkey) (metadata : BgMetadataArgs) :
    Except Error (State World) := do
  let world ← okOr (env.mintV1 s.world
    { treeConfig, leafOwner, merkleTree, payer, treeCreatorOrDelegate, logWrapper,
      compressionProgram, systemProgram, metadata }) (.zksettle .bubblegumCpiFailed)
  pure { s with world }

/-- The accounts of `MintV1` that are named in `VerifyProof` and `SettleHook`. -/
structure NamedBubblegum where
  treeConfig : Pubkey
  merkleTree : AccountInfo
  treeCreator : Pubkey
  logWrapper : Pubkey
  compression : Pubkey
  systemProgram : Pubkey
  leafOwner : Pubkey

def cpiMintComplianceAttestation (s : State World) (accounts : NamedBubblegum) (payer : Pubkey)
    (attested : Attested) : Except Error (State World) := do
  require (accounts.merkleTree.owner = env.splAccountCompressionId)
    (.zksettle .bubblegumCpiFailed)
  let metadata := buildAttestationMetadata env attested.issuer attested.slot
    attested.nullifierHash attested.merkleRoot
  invokeMintV1 env s accounts.treeConfig accounts.leafOwner accounts.merkleTree.key payer
    accounts.treeCreator accounts.logWrapper accounts.compression accounts.systemProgram metadata

/-- The last eight accounts, or none, are for Bubblegum; those before are for Light. -/
def splitLightAndBubblegum (remaining : List AccountInfo) (bubblegumTail : UInt8) :
    Except Error (List AccountInfo × List AccountInfo) := do
  let n := bubblegumTail.toNat
  require (n = 0 ∨ n = BUBBLEGUM_MINT_V1_ACCOUNT_COUNT) (.zksettle .bubblegumTailInvalid)
  if n = 0 then
    pure (remaining, [])
  else do
    require (n ≤ remaining.length) (.zksettle .bubblegumTailInvalid)
    pure (remaining.splitAt (remaining.length - n))

def cpiMintFromRemainingTail (s : State World) (tail : List AccountInfo)
    (registryMerkleTree expectedLeafOwner : Pubkey) (attested : Attested) :
    Except Error (State World) :=
  match tail with
  | [treeConfig, leafOwner, merkleTree, payer, treeCreator, logWrapper, compression,
      systemProgram] => do
    -- the tail is not constrained by Anchor, so its accounts are checked here
    require (merkleTree.key = registryMerkleTree) (.zksettle .bubblegumTreeMismatch)
    require (merkleTree.owner = env.splAccountCompressionId) (.zksettle .bubblegumCpiFailed)
    require (treeConfig.key = env.treeConfigPda registryMerkleTree) (.zksettle .bubblegumCpiFailed)
    require (leafOwner.key = expectedLeafOwner) (.zksettle .bubblegumLeafOwnerMismatch)
    let metadata := buildAttestationMetadata env attested.issuer attested.slot
      attested.nullifierHash attested.merkleRoot
    invokeMintV1 env s treeConfig.key leafOwner.key merkleTree.key payer.key treeCreator.key
      logWrapper.key compression.key systemProgram.key metadata
  | _ => .error (.zksettle .bubblegumTailInvalid)

/-- Nothing but a `MintV1` of Bubblegum has changed the state. -/
def Minted (s s' : State World) : Prop :=
  ∃ mint world, env.mintV1 s.world mint = some world ∧ s' = { s with world }

theorem invokeMintV1_minted {s s' : State World} {treeConfig leafOwner merkleTree payer
    treeCreatorOrDelegate logWrapper compressionProgram systemProgram : Pubkey}
    {metadata : BgMetadataArgs}
    (accepted : invokeMintV1 env s treeConfig leafOwner merkleTree payer treeCreatorOrDelegate
      logWrapper compressionProgram systemProgram metadata = .ok s') : Minted env s s' := by
  simp only [invokeMintV1, bind_eq_ok, okOr_eq_ok, pure_eq_ok] at accepted
  obtain ⟨world, minted, rfl⟩ := accepted
  exact ⟨_, world, minted, rfl⟩

theorem cpiMintComplianceAttestation_minted {s s' : State World} {accounts : NamedBubblegum}
    {payer : Pubkey} {attested : Attested}
    (accepted : cpiMintComplianceAttestation env s accounts payer attested = .ok s') :
    Minted env s s' := by
  simp only [cpiMintComplianceAttestation, bind_eq_ok, require_eq_ok] at accepted
  obtain ⟨_, -, minted⟩ := accepted
  exact invokeMintV1_minted env minted

theorem cpiMintFromRemainingTail_minted {s s' : State World} {tail : List AccountInfo}
    {registryMerkleTree expectedLeafOwner : Pubkey} {attested : Attested}
    (accepted : cpiMintFromRemainingTail env s tail registryMerkleTree expectedLeafOwner attested =
      .ok s') : Minted env s s' := by
  unfold cpiMintFromRemainingTail at accepted
  split at accepted
  · simp only [bind_eq_ok, require_eq_ok] at accepted
    obtain ⟨_, -, _, -, _, -, _, -, minted⟩ := accepted
    exact invokeMintV1_minted env minted
  · cases accepted

/-! ## run_settlement -/

inductive BubblegumMintMode where
  | none
  | tail (accounts : List AccountInfo)
  | named (accounts : NamedBubblegum)

structure SettlementContext where
  payload : HookPayload
  issuer : Issuer
  issuerKey : Pubkey
  mintKey : Pubkey
  destinationKey : Pubkey
  amount : UInt64
  payerKey : Pubkey
  lightRemaining : List AccountInfo
  registry : BubblegumTreeRegistry
  bubblegumMint : BubblegumMintMode

def validateSettlementGuards (payloadMint payloadRecipient : Pubkey)
    (payloadAmount payloadEpoch : UInt64) (actualMint actualDestination : Pubkey)
    (actualAmount issuerRootSlot currentSlot : UInt64) (unixTimestamp : Int64) :
    Except Error Unit := do
  require (0 < actualAmount) (.zksettle .invalidTransferAmount)
  require (payloadMint = actualMint) (.zksettle .mintMismatch)
  require (payloadRecipient = actualDestination) (.zksettle .recipientMismatch)
  require (payloadAmount = actualAmount) (.zksettle .amountMismatch)
  require (currentSlot.toNat - issuerRootSlot.toNat ≤ MAX_ROOT_AGE_SLOTS) (.zksettle .rootStale)
  validateEpoch unixTimestamp payloadEpoch

/-- The public inputs of a staged settlement. -/
def SettlementContext.bindings (sctx : SettlementContext) (timestamp : UInt64) :
    BindingInputs where
  merkleRoot := sctx.issuer.merkleRoot
  nullifierHash := sctx.payload.nullifierHash
  mint := sctx.payload.mint
  epoch := sctx.payload.epoch
  recipient := sctx.payload.recipient
  amount := sctx.payload.amount
  sanctionsRoot := sctx.issuer.sanctionsRoot
  jurisdictionRoot := sctx.issuer.jurisdictionRoot
  timestamp

def SettlementContext.params (sctx : SettlementContext) (clock : Clock) (timestamp : UInt64)
    (validityProof : ValidityProof) : SettlementParams where
  issuerKey := sctx.issuerKey
  issuerBytes := sctx.issuerKey
  nullifierHash := sctx.payload.nullifierHash
  merkleRoot := sctx.issuer.merkleRoot
  sanctionsRoot := sctx.issuer.sanctionsRoot
  jurisdictionRoot := sctx.issuer.jurisdictionRoot
  mint := sctx.mintKey
  recipient := sctx.destinationKey
  amount := sctx.payload.amount
  epoch := sctx.payload.epoch
  timestamp
  slot := clock.slot
  payerKey := sctx.payerKey
  validityProof
  addressTreeInfo := sctx.payload.lightArgs.toTreeInfo
  outputStateTreeIndex := sctx.payload.lightArgs.outputStateTreeIndex
  remainingAccounts := sctx.lightRemaining

def SettlementContext.attested (sctx : SettlementContext) (clock : Clock) : Attested where
  issuer := sctx.issuerKey
  nullifierHash := sctx.payload.nullifierHash
  merkleRoot := sctx.issuer.merkleRoot
  slot := clock.slot

def runSettlement (s : State World) (clock : Clock) (sctx : SettlementContext) :
    Except Error (State World) := do
  require (sctx.payload.finalized = true) (.zksettle .payloadNotReady)
  validateSettlementGuards sctx.payload.mint sctx.payload.recipient sctx.payload.amount
    sctx.payload.epoch sctx.mintKey sctx.destinationKey sctx.amount sctx.issuer.rootSlot
    clock.slot clock.unixTimestamp
  let timestamp ← epochTimestamp sctx.payload.epoch
  verifyBundle env sctx.payload.proofAndWitness (sctx.bindings timestamp)
  let validityProof ← sctx.payload.lightArgs.toValidityProof env
  let s ← settleCore env s (sctx.params clock timestamp validityProof)
  -- a failure from here on takes the settlement back with it
  match sctx.bubblegumMint with
  | .none => pure s
  | .tail accounts =>
    cpiMintFromRemainingTail env s accounts sctx.registry.merkleTree sctx.payload.recipient
      (sctx.attested clock)
  | .named accounts =>
    cpiMintComplianceAttestation env s accounts sctx.payerKey (sctx.attested clock)

end ZkSettle.Program
