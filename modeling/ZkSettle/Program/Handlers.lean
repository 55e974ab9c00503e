import ZkSettle.Program.Settlement

/-!
# Entry points of a settlement

`verify_proof` takes the proof and its arguments from the caller, `settle_hook` and
`transfer_hook` take them from a staged payload. Each has its own mixture of account
constraints and checks; `Guarded` is what they have in common.
-/
namespace ZkSettle.Program

open Checks

variable {Proof Address World : Type} (env : External Proof Address World)

/-! ## verify_proof -/

structure VerifyProof where
  payer : Pubkey
  issuer : Pubkey
  registry : Pubkey
  leafOwner : Pubkey
  merkleTree : AccountInfo
  treeConfig : Pubkey
  treeCreator : Pubkey
  bubblegumProgram : Pubkey
  compressionProgram : Pubkey
  logWrapper : Pubkey
  systemProgram : Pubkey

/-- The constraints on the Bubblegum accounts of `VerifyProof` and `SettleHook`. -/
def checkBubblegumAccounts (registryKey merkleTree treeConfig treeCreator bubblegumProgram
    compressionProgram logWrapper : Pubkey) (registry : BubblegumTreeRegistry) :
    Except Error Unit := do
  require (registryKey = env.registryAddress) (.anchor .constraintSeeds)
  require (merkleTree = registry.merkleTree) (.anchor .constraintAddress)
  require (treeConfig = env.treeConfigPda registry.merkleTree) (.zksettle .bubblegumCpiFailed)
  require (treeCreator = env.treeCreatorAddress) (.anchor .constraintSeeds)
  require (bubblegumProgram = MPL_BUBBLEGUM_ID) (.anchor .constraintAddress)
  require (compressionProgram = env.splAccountCompressionId) (.anchor .constraintAddress)
  require (logWrapper = NOOP_PROGRAM_ID) (.anchor .constraintAddress)

def VerifyProof.load (accounts : VerifyProof) (s : State World) (clock : Clock) :
    Except Error Issuer := do
  let issuer ← s.issuer accounts.issuer
  let registry ← s.registry accounts.registry
  -- the issuer's authority need not sign: anyone may settle with its roots
  require (accounts.issuer = env.issuerAddress issuer.authority) (.anchor .constraintSeeds)
  require (clock.slot.toNat - issuer.rootSlot.toNat ≤ MAX_ROOT_AGE_SLOTS) (.zksettle .rootStale)
  checkBubblegumAccounts env accounts.registry accounts.merkleTree.key accounts.treeConfig
    accounts.treeCreator accounts.bubblegumProgram accounts.compressionProgram
    accounts.logWrapper registry
  pure issuer

structure VerifyProofArgs where
  proofAndWitness : List UInt8
  nullifierHash : Bytes32
  mint : Pubkey
  epoch : UInt64
  recipient : Pubkey
  amount : UInt64
  validityProof : ValidityProof
  addressTreeInfo : PackedAddressTreeInfo
  outputStateTreeIndex : UInt8

def VerifyProofArgs.bindings (args : VerifyProofArgs) (issuer : Issuer) (timestamp : UInt64) :
    BindingInputs where
  merkleRoot := issuer.merkleRoot
  nullifierHash := args.nullifierHash
  mint := args.mint
  epoch := args.epoch
  recipient := args.recipient
  amount := args.amount
  sanctionsRoot := issuer.sanctionsRoot
  jurisdictionRoot := issuer.jurisdictionRoot
  timestamp

def VerifyProofArgs.params (args : VerifyProofArgs) (accounts : VerifyProof) (issuer : Issuer)
    (clock : Clock) (timestamp : UInt64) (remaining : List AccountInfo) : SettlementParams where
  issuerKey := accounts.issuer
  issuerBytes := accounts.issuer
  nullifierHash := args.nullifierHash
  merkleRoot := issuer.merkleRoot
  sanctionsRoot := issuer.sanctionsRoot
  jurisdictionRoot := issuer.jurisdictionRoot
  mint := args.mint
  recipient := args.recipient
  amount := args.amount
  epoch := args.epoch
  timestamp
  slot := clock.slot
  payerKey := accounts.payer
  validityProof := args.validityProof
  addressTreeInfo := args.addressTreeInfo
  outputStateTreeIndex := args.outputStateTreeIndex
  remainingAccounts := remaining

def handler (s : State World) (clock : Clock) (accounts : VerifyProof)
    (args : VerifyProofArgs) (remaining : List AccountInfo) : Except Error (State World) := do
  let issuer ← accounts.load env s clock
  require (args.nullifierHash ≠ .zero) (.zksettle .zeroNullifier)
  require (0 < args.amount) (.zksettle .invalidTransferAmount)
  require (accounts.leafOwner = args.recipient) (.zksettle .recipientMismatch)
  validateEpoch clock.unixTimestamp args.epoch
  let timestamp ← epochTimestamp args.epoch
  verifyBundle env args.proofAndWitness (args.bindings issuer timestamp)
  let s ← settleCore env s (args.params accounts issuer clock timestamp remaining)
  cpiMintComplianceAttestation env s
    { treeConfig := accounts.treeConfig
      merkleTree := accounts.merkleTree
      treeCreator := accounts.treeCreator
      logWrapper := accounts.logWrapper
      compression := accounts.compressionProgram
      systemProgram := accounts.systemProgram
      leafOwner := accounts.leafOwner } accounts.payer
    { issuer := accounts.issuer
      nullifierHash := args.nullifierHash
      merkleRoot := issuer.merkleRoot
      slot := clock.slot }

/-! ## settle_hook -/

structure SettleHook where
  authority : Pubkey
  mint : AccountInfo
  destinationToken : Pubkey
  hookPayload : Pubkey
  leafOwner : Pubkey
  issuer : Pubkey
  registry : Pubkey
  merkleTree : AccountInfo
  treeConfig : Pubkey
  treeCreator : Pubkey
  bubblegumProgram : Pubkey
  compressionProgram : Pubkey
  logWrapper : Pubkey
  systemProgram : Pubkey

def SettleHook.load (accounts : SettleHook) (s : State World) :
    Except Error (HookPayload × Issuer × BubblegumTreeRegistry) := do
  require (env.isInterfaceMint accounts.mint = true) (.anchor .accountOwnedByWrongProgram)
  let (payload, _) ← s.hookPayload accounts.hookPayload
  let issuer ← s.issuer accounts.issuer
  let registry ← s.registry accounts.registry
  require (accounts.mint.key = payload.mint) (.zksettle .mintMismatch)
  require (accounts.destinationToken = payload.recipient) (.zksettle .recipientMismatch)
  require (accounts.hookPayload = env.hookPayloadAddress accounts.authority)
    (.anchor .constraintSeeds)
  require (accounts.leafOwner = payload.recipient) (.anchor .constraintAddress)
  require (accounts.issuer = payload.issuer) (.zksettle .issuerMismatch)
  checkBubblegumAccounts env accounts.registry accounts.merkleTree.key accounts.treeConfig
    accounts.treeCreator accounts.bubblegumProgram accounts.compressionProgram
    accounts.logWrapper registry
  pure (payload, issuer, registry)

/-- The payload account is closed to the authority when the handler returns. -/
def settleHookHandler (s : State World) (clock : Clock) (accounts : SettleHook)
    (amount : UInt64) (remaining : List AccountInfo) : Except Error (State World) := do
  let (payload, issuer, registry) ← accounts.load env s
  let s ← runSettlement env s clock
    { payload
      issuer
      issuerKey := accounts.issuer
      mintKey := accounts.mint.key
      destinationKey := accounts.destinationToken
      amount
      payerKey := accounts.authority
      lightRemaining := remaining
      registry
      bubblegumMint := .named
        { treeConfig := accounts.treeConfig
          merkleTree := accounts.merkleTree
          treeCreator := accounts.treeCreator
          logWrapper := accounts.logWrapper
          compression := accounts.compressionProgram
          systemProgram := accounts.systemProgram
          leafOwner := accounts.leafOwner } }
  pure (s.setAccount accounts.hookPayload none)

/-! ## transfer_hook -/

structure ExecuteHook where
  sourceToken : AccountInfo
  mint : AccountInfo
  destinationToken : AccountInfo
  owner : Pubkey
  extraAccountMetaList : Pubkey
  hookPayload : Pubkey
  issuer : Pubkey
  registry : Pubkey
  bubblegumProgram : Pubkey

def ExecuteHook.load (accounts : ExecuteHook) (s : State World) :
    Except Error (HookPayload × Issuer × BubblegumTreeRegistry) := do
  let (payload, _) ← s.hookPayload accounts.hookPayload
  let issuer ← s.issuer accounts.issuer
  let registry ← s.registry accounts.registry
  -- the key of the mint is compared with the payload, not with the token accounts
  require (accounts.mint.key = payload.mint) (.zksettle .mintMismatch)
  require (accounts.extraAccountMetaList = env.extraAccountMetaListAddress accounts.mint.key)
    (.anchor .constraintSeeds)
  require (accounts.hookPayload = env.hookPayloadAddress accounts.owner)
    (.anchor .constraintSeeds)
  require (accounts.issuer = payload.issuer) (.zksettle .issuerMismatch)
  require (accounts.registry = env.registryAddress) (.anchor .constraintSeeds)
  require (accounts.bubblegumProgram = MPL_BUBBLEGUM_ID) (.anchor .constraintAddress)
  pure (payload, issuer, registry)

def enforceToken2022HookAccounts (sourceToken mint destinationToken : AccountInfo)
    (expectedOwner : Pubkey) : Except Error Unit := do
  require (sourceToken.owner = env.token2022Id) (.zksettle .notToken2022)
  require (mint.owner = env.token2022Id) (.zksettle .notToken2022)
  require (destinationToken.owner = env.token2022Id) (.zksettle .notToken2022)
  -- only the source is unpacked, and its mint is not read
  let state ← okOr (env.unpackTokenAccount sourceToken.data) (.zksettle .notToken2022)
  require (state.owner = expectedOwner) (.zksettle .ownerMismatch)
  let transferring ← okOr state.transferring (.zksettle .notInTransfer)
  require (transferring = true) (.zksettle .notInTransfer)

/-- The accounts left to Light, with those of Bubblegum when there are any. -/
def ExecuteHook.split (payload : HookPayload) (remaining : List AccountInfo) :
    Except Error (List AccountInfo × BubblegumMintMode) := do
  let (lightRem, bg) ← splitLightAndBubblegum remaining payload.lightArgs.bubblegumTail
  pure (lightRem, if bg.isEmpty then .none else .tail bg)

/-- The payload account is not closed. -/
def executeHookHandler (s : State World) (clock : Clock) (accounts : ExecuteHook)
    (amount : UInt64) (remaining : List AccountInfo) : Except Error (State World) := do
  let (payload, issuer, registry) ← accounts.load env s
  enforceToken2022HookAccounts env accounts.sourceToken accounts.mint accounts.destinationToken
    accounts.owner
  let (lightRem, bubblegumMint) ← ExecuteHook.split payload remaining
  runSettlement env s clock
    { payload
      issuer
      issuerKey := accounts.issuer
      mintKey := accounts.mint.key
      destinationKey := accounts.destinationToken.key
      amount
      payerKey := accounts.owner
      lightRemaining := lightRem
      registry
      bubblegumMint }

/-! ## check_attestation -/

structure CheckAttestation where
  payer : Pubkey
  issuer : Pubkey

def CheckAttestation.load (accounts : CheckAttestation) (s : State World) :
    Except Error Unit := do
  let issuer ← s.issuer accounts.issuer
  require (accounts.issuer = env.issuerAddress issuer.authority) (.anchor .constraintSeeds)

def validateAttestation (currentSlot : UInt64) (attestation : CompressedAttestation)
    (nullifierHash : Bytes32) (issuerKey : Pubkey) : Except Error Unit := do
  let age := currentSlot.toNat - attestation.slot.toNat
  require (age ≤ MAX_ATTESTATION_AGE_SLOTS) (.zksettle .attestationExpired)
  require (attestation.nullifierHash = nullifierHash) (.zksettle .nullifierMismatch)
  require (attestation.issuer = issuerKey) (.zksettle .unauthorizedIssuer)

def checkHandler (s : State World) (clock : Clock) (accounts : CheckAttestation)
    (nullifierHash : Bytes32) (validityProof : ValidityProof) (attestationMeta : List UInt8)
    (compressedAttestation : CompressedAttestation) (remaining : List AccountInfo) :
    Except Error (State World) := do
  accounts.load env s
  validateAttestation clock.slot compressedAttestation nullifierHash accounts.issuer
  let treePubkeys ← okOr (env.treePubkeys accounts.payer remaining)
    (.zksettle .lightTreeLookupFailed)
  let readOnly ← okOr (env.newReadOnly attestationMeta (.attestation compressedAttestation)
    treePubkeys) (.zksettle .invalidLightAddress)
  let s ← lightInvoke env s
    { validityProof
      newAddresses := []
      accounts := [readOnly]
      payer := accounts.payer
      remainingAccounts := remaining }
  pure (s.emit (.attestationChecked
    { version := 1, issuer := accounts.issuer, nullifierHash, slot := clock.slot }))

end ZkSettle.Program
