import ZkSettle.Program.Accounts

/-!
# Issuers, the attestation tree and the metas of the hook

The instructions by which an issuer sets up what a settlement reads. An `init`
account is created while Anchor reads the accounts, before the constraints of the
other accounts are checked.
-/
namespace ZkSettle.Program

open Checks

variable {Proof Address World : Type} (env : External Proof Address World)

/-- `seeds = [ISSUER_SEED, authority]` and `has_one = authority`. -/
def checkIssuer (authority issuerKey : Pubkey) (issuer : Issuer) : Except Error Unit := do
  require (issuerKey = env.issuerAddress authority) (.anchor .constraintSeeds)
  require (issuer.authority = authority) (.zksettle .unauthorizedIssuer)

/-! ## register_issuer, update_issuer_root -/

structure IssuerAccounts where
  authority : Pubkey
  issuer : Pubkey

def RegisterIssuer.load (accounts : IssuerAccounts) (s : State World) : Except Error Unit := do
  require (accounts.issuer = env.issuerAddress accounts.authority) (.anchor .constraintSeeds)
  s.requireFree accounts.issuer

def UpdateIssuerRoot.load (accounts : IssuerAccounts) (s : State World) : Except Error Issuer := do
  let issuer ← s.issuer accounts.issuer
  checkIssuer env accounts.authority accounts.issuer issuer
  pure issuer

def requireRoots (merkleRoot sanctionsRoot jurisdictionRoot : Bytes32) : Except Error Unit := do
  require (merkleRoot ≠ .zero) (.zksettle .zeroMerkleRoot)
  require (sanctionsRoot ≠ .zero) (.zksettle .zeroSanctionsRoot)
  require (jurisdictionRoot ≠ .zero) (.zksettle .zeroJurisdictionRoot)

def registerHandler (s : State World) (clock : Clock) (accounts : IssuerAccounts)
    (merkleRoot sanctionsRoot jurisdictionRoot : Bytes32) : Except Error (State World) := do
  RegisterIssuer.load env accounts s
  requireRoots merkleRoot sanctionsRoot jurisdictionRoot
  pure (s.setAccount accounts.issuer (some (.issuer
    { authority := accounts.authority
      merkleRoot
      sanctionsRoot
      jurisdictionRoot
      rootSlot := clock.slot })))

def updateHandler (s : State World) (clock : Clock) (accounts : IssuerAccounts)
    (merkleRoot sanctionsRoot jurisdictionRoot : Bytes32) : Except Error (State World) := do
  let issuer ← UpdateIssuerRoot.load env accounts s
  requireRoots merkleRoot sanctionsRoot jurisdictionRoot
  pure (s.setAccount accounts.issuer (some (.issuer
    { issuer with merkleRoot, sanctionsRoot, jurisdictionRoot, rootSlot := clock.slot })))

/-! ## init_attestation_tree -/

structure InitAttestationTree where
  authority : Pubkey
  issuer : Pubkey
  registry : Pubkey
  merkleTree : AccountInfo
  treeConfig : Pubkey
  treeCreator : Pubkey
  bubblegumProgram : Pubkey
  compressionProgram : Pubkey
  logWrapper : Pubkey

def InitAttestationTree.load (accounts : InitAttestationTree) (s : State World) :
    Except Error Unit := do
  let issuer ← s.issuer accounts.issuer
  -- one registry for the whole program, created by the first issuer who calls this
  require (accounts.registry = env.registryAddress) (.anchor .constraintSeeds)
  s.requireFree accounts.registry
  checkIssuer env accounts.authority accounts.issuer issuer
  require (accounts.treeCreator = env.treeCreatorAddress) (.anchor .constraintSeeds)
  require (accounts.bubblegumProgram = MPL_BUBBLEGUM_ID) (.anchor .constraintAddress)
  require (accounts.compressionProgram = env.splAccountCompressionId) (.anchor .constraintAddress)
  require (accounts.logWrapper = NOOP_PROGRAM_ID) (.anchor .constraintAddress)

def initHandler (s : State World) (accounts : InitAttestationTree) :
    Except Error (State World) := do
  accounts.load env s
  require (accounts.treeConfig = env.treeConfigPda accounts.merkleTree.key)
    (.zksettle .bubblegumCpiFailed)
  require (env.concurrentMerkleTreeSize ≤ accounts.merkleTree.data.length)
    (.zksettle .merkleTreeTooSmall)
  require (accounts.merkleTree.owner = env.splAccountCompressionId)
    (.zksettle .merkleTreeWrongOwner)
  let world ← okOr (env.createTreeConfig s.world
    { treeConfig := accounts.treeConfig
      merkleTree := accounts.merkleTree.key
      payer := accounts.authority
      treeCreator := accounts.treeCreator
      logWrapper := accounts.logWrapper
      compressionProgram := accounts.compressionProgram
      maxDepth := BUBBLEGUM_MAX_DEPTH
      maxBufferSize := BUBBLEGUM_MAX_BUFFER_SIZE
      isPublic := some false }) (.zksettle .bubblegumCpiFailed)
  pure ({ s with world }.setAccount accounts.registry
    (some (.registry { merkleTree := accounts.merkleTree.key })))

/-! ## init_extra_account_meta_list -/

structure InitExtraAccountMetaList where
  authority : Pubkey
  issuer : Pubkey
  mint : AccountInfo
  extraAccountMetaList : Pubkey

def InitExtraAccountMetaList.load (accounts : InitExtraAccountMetaList) (s : State World) :
    Except Error Unit := do
  let issuer ← s.issuer accounts.issuer
  checkIssuer env accounts.authority accounts.issuer issuer
  require (accounts.extraAccountMetaList = env.extraAccountMetaListAddress accounts.mint.key)
    (.anchor .constraintSeeds)

/-- The mint is one of Token-2022 whose transfer hook is this program. -/
def validateMintHasHook (mint : AccountInfo) : Except Error Unit := do
  require (mint.owner = env.token2022Id) (.zksettle .mintHookMismatch)
  let mintState ← okOr (env.unpackMint mint.data) (.zksettle .mintHookMismatch)
  let hookProgramId ← okOr mintState.hookProgramId (.zksettle .mintHookMismatch)
  require (hookProgramId = some ID) (.zksettle .mintHookMismatch)

def initExtraAccountMetaListHandler (s : State World) (accounts : InitExtraAccountMetaList)
    (extras : List ExtraAccountMetaInput) : Except Error (State World) := do
  accounts.load env s
  validateMintHasHook env accounts.mint
  let size ← okOr (env.extraAccountMetaListSize extras.length) (.zksettle .hookPayloadInvalid)
  s.requireFree accounts.extraAccountMetaList
  let data ← okOr (env.extraAccountMetaListInit size extras) (.zksettle .hookPayloadInvalid)
  pure (s.setAccount accounts.extraAccountMetaList (some (.extraAccountMetaList data)))

end ZkSettle.Program
