import Mathlib.Logic.Function.Basic
import ZkSettle.Library.BigEndian
import ZkSettle.Library.Checks

/-!
# Accounts of the zksettle program

The accounts the program owns, the events it emits, and the programs it calls,
which are parameters: the pairing check, the Light system program, Bubblegum,
Token-2022 and the derivation of program addresses. Bumps are fixed by the seeds
and lamports are left out.
-/
namespace ZkSettle.Program

/-- `[u8; 32]` -/
structure Bytes32 where
  bytes : List UInt8
  length_eq : bytes.length = 32
  deriving DecidableEq, Repr

theorem Bytes32.ext {a b : Bytes32} (same : a.bytes = b.bytes) : a = b := by
  cases a
  cases b
  congr

def Bytes32.ofNat (n : Nat) : Bytes32 := ⟨BigEndian.encode 32 n, BigEndian.encode_length 32 n⟩

def Bytes32.toNat (b : Bytes32) : Nat := BigEndian.value b.bytes

def Bytes32.zero : Bytes32 := ⟨List.replicate 32 0, List.length_replicate⟩

theorem Bytes32.toNat_lt (b : Bytes32) : b.toNat < 2 ^ 256 := by
  have bound := BigEndian.value_lt b.bytes
  rw [b.length_eq] at bound
  exact bound

theorem Bytes32.toNat_ofNat {n : Nat} (below : n < 2 ^ 256) : (Bytes32.ofNat n).toNat = n :=
  BigEndian.value_encode below

theorem Bytes32.toNat_injective {a b : Bytes32} (same : a.toNat = b.toNat) : a = b :=
  Bytes32.ext (BigEndian.value_injective (a.length_eq.trans b.length_eq.symm) same)

@[simp] theorem Bytes32.toNat_zero : Bytes32.zero.toNat = 0 := BigEndian.value_replicate_zero 32

abbrev Pubkey := Bytes32

/-! ## Constants -/

/-- `declare_id!` -/
def ID : Pubkey :=
  .ofNat 0x131fe67365d0c89d4219b5813b809d54a14e6a1ed097ff4a57633e824fab136b

def MPL_BUBBLEGUM_ID : Pubkey :=
  .ofNat 0x988b80eb79352869b224745f59ddbf8a2658ca13dc68812126351cae07c1a5a5

def NOOP_PROGRAM_ID : Pubkey :=
  .ofNat 0x0bbc0fc0bb47ca2f74c4112e94ab13cfa3c634e5dc17eacb03cd1a23cd7e787c

def seed (name : String) : List UInt8 := name.toUTF8.data.toList

def ISSUER_SEED : List UInt8 := seed "issuer"
def NULLIFIER_SEED : List UInt8 := seed "nullifier"
def ATTESTATION_SEED : List UInt8 := seed "attestation"
def HOOK_PAYLOAD_SEED : List UInt8 := seed "hook-payload"
def EXTRA_ACCOUNT_META_LIST_SEED : List UInt8 := seed "extra-account-metas"
def BUBBLEGUM_REGISTRY_SEED : List UInt8 := seed "bubblegum-registry"
def BUBBLEGUM_TREE_CREATOR_SEED : List UInt8 := seed "bubblegum-tree-creator"

def MAX_ROOT_AGE_SLOTS : Nat := 432000

def MAX_ATTESTATION_AGE_SLOTS : Nat := 432000

def BUBBLEGUM_MINT_V1_ACCOUNT_COUNT : Nat := 8

def BUBBLEGUM_MAX_DEPTH : UInt32 := 14

def BUBBLEGUM_MAX_BUFFER_SIZE : UInt32 := 64

def MAX_HOOK_PROOF_BYTES : Nat := 16384

/-! ## Errors -/

inductive ZkSettleError where
  | malformedProof
  | proofInvalid
  | zeroMerkleRoot
  | unauthorizedIssuer
  | merkleRootMismatch
  | nullifierMismatch
  | witnessTooShort
  | rootStale
  | zeroNullifier
  | mintMismatch
  | epochMismatch
  | recipientMismatch
  | amountMismatch
  | epochInFuture
  | epochStale
  | attestationExpired
  | negativeClock
  | lightTreeLookupFailed
  | lightAccountPackFailed
  | lightInvokeFailed
  | invalidLightAddress
  | hookPayloadInvalid
  | invalidTransferAmount
  | issuerMismatch
  | notToken2022
  | notInTransfer
  | ownerMismatch
  | sanctionsRootMismatch
  | jurisdictionRootMismatch
  | timestampMismatch
  | zeroSanctionsRoot
  | zeroJurisdictionRoot
  | bubblegumTreeNotConfigured
  | bubblegumTreeMismatch
  | bubblegumCpiFailed
  | merkleTreeTooSmall
  | merkleTreeWrongOwner
  | bubblegumTailInvalid
  | bubblegumLeafOwnerMismatch
  | mintHookMismatch
  | chunkOutOfBounds
  | chunkNotSequential
  | payloadAlreadyFinalized
  | payloadNotReady
  | proofIncomplete
  | epochTimestampOverflow
  deriving DecidableEq, Repr

inductive AnchorError where
  | accountNotInitialized
  | accountDiscriminatorMismatch
  | constraintSeeds
  | constraintAddress
  | accountOwnedByWrongProgram
  deriving DecidableEq, Repr

inductive Error where
  | zksettle (error : ZkSettleError)
  | anchor (error : AnchorError)
  | accountAlreadyInUse
  | panicked
  deriving DecidableEq, Repr

/-! ## Accounts and events -/

structure Issuer where
  authority : Pubkey
  merkleRoot : Bytes32
  sanctionsRoot : Bytes32
  jurisdictionRoot : Bytes32
  rootSlot : UInt64
  deriving DecidableEq, Repr

/-- Arguments of the Light call, staged because `Execute` receives only an amount. -/
structure StagedLightArgs where
  bubblegumTail : UInt8
  proofPresent : Bool
  proofBytes : Vector UInt8 128
  addressMtIndex : UInt8
  addressQueueIndex : UInt8
  addressRootIndex : UInt16
  outputStateTreeIndex : UInt8
  deriving DecidableEq, Repr

structure ExtraAccountMetaInput where
  discriminator : UInt8
  addressConfig : Bytes32
  isSigner : Bool
  isWritable : Bool
  deriving DecidableEq, Repr

structure HookPayload where
  issuer : Pubkey
  nullifierHash : Bytes32
  mint : Pubkey
  recipient : Pubkey
  amount : UInt64
  epoch : UInt64
  lightArgs : StagedLightArgs
  expectedProofLen : UInt32
  highWaterMark : UInt32
  finalized : Bool
  proofAndWitness : List UInt8
  deriving DecidableEq, Repr

structure BubblegumTreeRegistry where
  merkleTree : Pubkey
  deriving DecidableEq, Repr

/-- An account owned by the program; the constructor stands for the discriminator.
`dataLen` is the length of a payload account, which grows by `realloc`. -/
inductive ProgramAccount where
  | issuer (issuer : Issuer)
  | hookPayload (payload : HookPayload) (dataLen : Nat)
  | registry (registry : BubblegumTreeRegistry)
  | extraAccountMetaList (data : List UInt8)
  deriving DecidableEq, Repr

structure ProofSettled where
  version : UInt8
  issuer : Pubkey
  nullifierHash : Bytes32
  merkleRoot : Bytes32
  sanctionsRoot : Bytes32
  jurisdictionRoot : Bytes32
  mint : Pubkey
  recipient : Pubkey
  amount : UInt64
  epoch : UInt64
  timestamp : UInt64
  slot : UInt64
  payer : Pubkey
  deriving DecidableEq, Repr

structure AttestationChecked where
  version : UInt8
  issuer : Pubkey
  nullifierHash : Bytes32
  slot : UInt64
  deriving DecidableEq, Repr

inductive Event where
  | proofSettled (event : ProofSettled)
  | attestationChecked (event : AttestationChecked)
  deriving DecidableEq, Repr

structure Clock where
  slot : UInt64
  unixTimestamp : Int64
  deriving DecidableEq, Repr

/-- An account as the caller passes it; its data belong to the program `owner`. -/
structure AccountInfo where
  key : Pubkey
  owner : Pubkey
  data : List UInt8
  deriving DecidableEq, Repr

/-! ## Compressed accounts -/

structure CompressedAttestation where
  issuer : Bytes32
  nullifierHash : Bytes32
  merkleRoot : Bytes32
  sanctionsRoot : Bytes32
  jurisdictionRoot : Bytes32
  mint : Bytes32
  recipient : Bytes32
  amount : UInt64
  epoch : UInt64
  timestamp : UInt64
  slot : UInt64
  payer : Bytes32
  deriving DecidableEq, Repr

inductive CompressedData where
  | nullifier
  | attestation (attestation : CompressedAttestation)
  deriving DecidableEq, Repr

structure PackedAddressTreeInfo where
  addressMerkleTreePubkeyIndex : UInt8
  addressQueuePubkeyIndex : UInt8
  rootIndex : UInt16
  deriving DecidableEq, Repr

/-- `CompressedProof`, by its 128 bytes. -/
structure CompressedProof where
  bytes : List UInt8
  deriving DecidableEq, Repr

abbrev ValidityProof := Option CompressedProof

/-- `NewAddressParamsAssignedPacked` -/
structure NewAddressParams where
  seed : Bytes32
  treeInfo : PackedAddressTreeInfo
  assignedAccountIndex : Option UInt8
  deriving DecidableEq, Repr

/-- A compressed account to create, or one whose inclusion is to be shown. -/
inductive LightAccount (Address : Type) where
  | newInit (address : Option Address) (data : CompressedData) (outputStateTreeIndex : UInt8)
  | readOnly (accountMeta : List UInt8) (data : CompressedData) (treePubkeys : List Pubkey)

structure LightCpi (Address : Type) where
  validityProof : ValidityProof
  newAddresses : List NewAddressParams
  accounts : List (LightAccount Address)
  payer : Pubkey
  remainingAccounts : List AccountInfo

/-! ## Witnesses and token accounts -/

/-- The number of public inputs of the release verifying key. -/
def NR_INPUTS : Nat := 11

structure GnarkWitness where
  entries : Fin NR_INPUTS → Bytes32

/-- A Token-2022 token account; the flag is that of the `TransferHookAccount` extension. -/
structure TokenAccount where
  mint : Pubkey
  owner : Pubkey
  transferring : Option Bool
  deriving DecidableEq, Repr

/-- A Token-2022 mint with the program of its `TransferHook` extension, if it has one. -/
structure TokenMint where
  hookProgramId : Option (Option Pubkey)
  deriving DecidableEq, Repr

/-! ## Programs and libraries outside the repository -/

structure CreateTreeConfig where
  treeConfig : Pubkey
  merkleTree : Pubkey
  payer : Pubkey
  treeCreator : Pubkey
  logWrapper : Pubkey
  compressionProgram : Pubkey
  maxDepth : UInt32
  maxBufferSize : UInt32
  isPublic : Option Bool

inductive BgTokenStandard where
  | nonFungible
  | fungibleAsset
  | fungible
  | nonFungibleEdition
  deriving DecidableEq, Repr

inductive BgTokenProgramVersion where
  | original
  | token2022
  deriving DecidableEq, Repr

structure BgCreator where
  address : Pubkey
  verified : Bool
  share : UInt8
  deriving DecidableEq, Repr

structure BgMetadataArgs where
  name : String
  symbol : String
  uri : String
  sellerFeeBasisPoints : UInt16
  primarySaleHappened : Bool
  isMutable : Bool
  editionNonce : Option UInt8
  tokenStandard : Option BgTokenStandard
  collection : Option Unit
  uses : Option Unit
  tokenProgramVersion : BgTokenProgramVersion
  creators : List BgCreator
  deriving DecidableEq, Repr

structure MintV1 where
  treeConfig : Pubkey
  leafOwner : Pubkey
  merkleTree : Pubkey
  payer : Pubkey
  treeCreatorOrDelegate : Pubkey
  logWrapper : Pubkey
  compressionProgram : Pubkey
  systemProgram : Pubkey
  metadata : BgMetadataArgs

/-- What the program calls. `World` is the state of all other programs. -/
structure External (Proof Address World : Type) where
  /-- `Pubkey::find_program_address`, without the bump -/
  findProgramAddress : List (List UInt8) → Pubkey → Pubkey
  gnarkProofFromBytes : List UInt8 → Option Proof
  gnarkWitnessFromBytes : List UInt8 → Option GnarkWitness
  /-- `GnarkVerifier::verify` under the verifying key of the build -/
  verify : Proof → GnarkWitness → Bool
  getTreePubkey : PackedAddressTreeInfo → Pubkey → List AccountInfo → Option Pubkey
  treePubkeys : Pubkey → List AccountInfo → Option (List Pubkey)
  deriveAddress : List (List UInt8) → Pubkey → Pubkey → Address × Bytes32
  compressedProofTryFrom : List UInt8 → Option CompressedProof
  newReadOnly : List UInt8 → CompressedData → List Pubkey → Option (LightAccount Address)
  /-- `with_light_account` can pack the account. -/
  packsLightAccount : LightAccount Address → Bool
  lightInvoke : World → LightCpi Address → Option World
  token2022Id : Pubkey
  splAccountCompressionId : Pubkey
  unpackTokenAccount : List UInt8 → Option TokenAccount
  unpackMint : List UInt8 → Option TokenMint
  /-- `InterfaceAccount<Mint>` accepts the account. -/
  isInterfaceMint : AccountInfo → Bool
  concurrentMerkleTreeSize : Nat
  createTreeConfig : World → CreateTreeConfig → Option World
  mintV1 : World → MintV1 → Option World
  /-- `hashv` and its base58 text -/
  hashText : List (List UInt8) → String
  /-- `ExtraAccountMetaList::size_of` -/
  extraAccountMetaListSize : Nat → Option Nat
  /-- `ExtraAccountMetaList::init` on an account of the given size -/
  extraAccountMetaListInit : Nat → List ExtraAccountMetaInput → Option (List UInt8)
  /-- A transaction that calls other programs only. -/
  elsewhere : World → List UInt8 → World

variable {World : Type}

/-- The program's accounts, the rest of the chain, and the log of emitted events. -/
structure State (World : Type) where
  accounts : Pubkey → Option ProgramAccount
  world : World
  events : List Event

/-- The program has been deployed and not been called. -/
def State.deployed (world : World) : State World where
  accounts := fun _ => none
  world
  events := []

def State.emit (s : State World) (event : Event) : State World :=
  { s with events := s.events ++ [event] }

def State.setAccount (s : State World) (address : Pubkey) (account : Option ProgramAccount) :
    State World :=
  { s with accounts := Function.update s.accounts address account }

@[simp] theorem State.setAccount_events (s : State World) (address : Pubkey)
    (account : Option ProgramAccount) : (s.setAccount address account).events = s.events := rfl

@[simp] theorem State.setAccount_world (s : State World) (address : Pubkey)
    (account : Option ProgramAccount) : (s.setAccount address account).world = s.world := rfl

@[simp] theorem State.setAccount_accounts (s : State World) (address : Pubkey)
    (account : Option ProgramAccount) :
    (s.setAccount address account).accounts = Function.update s.accounts address account := rfl

@[simp] theorem State.emit_accounts (s : State World) (event : Event) :
    (s.emit event).accounts = s.accounts := rfl

@[simp] theorem State.emit_world (s : State World) (event : Event) :
    (s.emit event).world = s.world := rfl

@[simp] theorem State.emit_events (s : State World) (event : Event) :
    (s.emit event).events = s.events ++ [event] := rfl

/-! ## Reading accounts -/

open Checks

/-- `Account<'info, T>`: the account exists and has the discriminator of `T`. -/
def State.read {T : Type} (view : ProgramAccount → Option T) (s : State World)
    (address : Pubkey) : Except Error T := do
  let account ← okOr (s.accounts address) (.anchor .accountNotInitialized)
  okOr (view account) (.anchor .accountDiscriminatorMismatch)

def State.issuer : State World → Pubkey → Except Error Issuer :=
  State.read fun account => match account with
    | .issuer issuer => some issuer
    | _ => none

def State.hookPayload : State World → Pubkey → Except Error (HookPayload × Nat) :=
  State.read fun account => match account with
    | .hookPayload payload dataLen => some (payload, dataLen)
    | _ => none

def State.registry : State World → Pubkey → Except Error BubblegumTreeRegistry :=
  State.read fun account => match account with
    | .registry registry => some registry
    | _ => none

@[simp] theorem State.issuer_eq_ok {s : State World} {address : Pubkey} {issuer : Issuer} :
    s.issuer address = .ok issuer ↔ s.accounts address = some (.issuer issuer) := by
  rw [State.issuer, State.read]
  cases s.accounts address with
  | none => simp
  | some account => cases account <;> simp

@[simp] theorem State.hookPayload_eq_ok {s : State World} {address : Pubkey}
    {found : HookPayload × Nat} : s.hookPayload address = .ok found ↔
      s.accounts address = some (.hookPayload found.1 found.2) := by
  rw [State.hookPayload, State.read]
  cases s.accounts address with
  | none => simp
  | some account => cases account <;> simp [Prod.ext_iff]

@[simp] theorem State.registry_eq_ok {s : State World} {address : Pubkey}
    {registry : BubblegumTreeRegistry} :
    s.registry address = .ok registry ↔ s.accounts address = some (.registry registry) := by
  rw [State.registry, State.read]
  cases s.accounts address with
  | none => simp
  | some account => cases account <;> simp

/-- `init`: the account does not exist yet. -/
def State.requireFree (s : State World) (address : Pubkey) : Except Error Unit :=
  require (s.accounts address = none) .accountAlreadyInUse

/-! ## Program addresses -/

variable {Proof Address : Type} (env : External Proof Address World)

def External.issuerAddress (authority : Pubkey) : Pubkey :=
  env.findProgramAddress [ISSUER_SEED, authority.bytes] ID

def External.hookPayloadAddress (authority : Pubkey) : Pubkey :=
  env.findProgramAddress [HOOK_PAYLOAD_SEED, authority.bytes] ID

def External.extraAccountMetaListAddress (mint : Pubkey) : Pubkey :=
  env.findProgramAddress [EXTRA_ACCOUNT_META_LIST_SEED, mint.bytes] ID

def External.registryAddress : Pubkey := env.findProgramAddress [BUBBLEGUM_REGISTRY_SEED] ID

def External.treeCreatorAddress : Pubkey := env.findProgramAddress [BUBBLEGUM_TREE_CREATOR_SEED] ID

def External.treeConfigPda (merkleTree : Pubkey) : Pubkey :=
  env.findProgramAddress [merkleTree.bytes] MPL_BUBBLEGUM_ID

end ZkSettle.Program
