import ZkSettle.Program.Effects

/-!
# The programs outside

What the results assume of the programs and libraries that the program calls, and
an executable reference in which all of it holds: Light is the list of addresses
created so far, token accounts and witnesses are parsed from their documented layout.
-/
namespace ZkSettle.Program

variable {Proof Address World : Type}

/-! ## Compressed addresses -/

def LightAccount.address : LightAccount Address → Option Address
  | .newInit address _ _ => address
  | .readOnly _ _ _ => none

/-- The addresses that a call of Light creates, each with the tree the call names for it. -/
def LightCpi.created (getTreePubkey : PackedAddressTreeInfo → Pubkey → List AccountInfo →
    Option Pubkey) (cpi : LightCpi Address) : List (Pubkey × Address) :=
  cpi.newAddresses.filterMap fun params => do
    let tree ← getTreePubkey params.treeInfo cpi.payer cpi.remainingAccounts
    let index ← params.assignedAccountIndex
    let account ← cpi.accounts[index.toNat]?
    let address ← account.address
    pure (tree, address)

/-- Light rejects a call that creates an address already present in the tree it names;
an address that was created stays. -/
structure AddressBook (env : External Proof Address World)
    (holds : World → Pubkey × Address → Prop) : Prop where
  fresh : ∀ {world next cpi entry}, env.lightInvoke world cpi = some next →
    entry ∈ cpi.created env.getTreePubkey → ¬ holds world entry
  recorded : ∀ {world next cpi entry}, env.lightInvoke world cpi = some next →
    entry ∈ cpi.created env.getTreePubkey → holds next entry
  lightInvoke_keeps : ∀ {world next cpi entry}, env.lightInvoke world cpi = some next →
    holds world entry → holds next entry
  mintV1_keeps : ∀ {world next mint entry}, env.mintV1 world mint = some next →
    holds world entry → holds next entry
  createTreeConfig_keeps : ∀ {world next config entry},
    env.createTreeConfig world config = some next → holds world entry → holds next entry
  elsewhere_keeps : ∀ {world transaction entry}, holds world entry →
    holds (env.elsewhere world transaction) entry

theorem AddressBook.moves_keeps {env : External Proof Address World}
    {holds : World → Pubkey × Address → Prop} (book : AddressBook env holds)
    {world last : World} (moves : Moves env world last) {entry : Pubkey × Address}
    (held : holds world entry) : holds last entry := by
  induction moves with
  | refl => exact held
  | lightInvoke cpi _ invoked _ ih => exact ih (book.lightInvoke_keeps invoked held)
  | mintV1 mint minted _ ih => exact ih (book.mintV1_keeps minted held)
  | createTreeConfig config created _ ih => exact ih (book.createTreeConfig_keeps created held)
  | elsewhere transaction _ ih => exact ih (book.elsewhere_keeps held)

/-- `derive_address` takes distinct inputs to distinct addresses. -/
def AddressesInjective (env : External Proof Address World) : Prop :=
  ∀ seeds tree program seeds' tree' program',
    (env.deriveAddress seeds tree program).1 = (env.deriveAddress seeds' tree' program').1 →
      seeds = seeds' ∧ tree = tree' ∧ program = program'

/-! ## The reference -/

namespace Reference

/-- An address is named by what it is derived from. -/
abbrev Derived := List (List UInt8) × Pubkey × Pubkey

abbrev Ledger := List (Pubkey × Derived)

def getTreePubkey (info : PackedAddressTreeInfo) (_ : Pubkey) (remaining : List AccountInfo) :
    Option Pubkey :=
  (remaining[info.addressMerkleTreePubkeyIndex.toNat]?).map AccountInfo.key

def lightInvoke (ledger : Ledger) (cpi : LightCpi Derived) : Option Ledger :=
  let created := cpi.created getTreePubkey
  if ∀ entry ∈ created, entry ∉ ledger then some (created ++ ledger) else none

/-- A header of twelve bytes, then the entries. -/
def gnarkWitnessFromBytes (bytes : List UInt8) : Option GnarkWitness :=
  if length : bytes.length = expectedWitnessLen NR_INPUTS then
    some
      { entries := fun index =>
          ⟨(bytes.drop (GNARK_WITNESS_HEADER_LEN + index.val * 32)).take 32, by
            have inside := index.isLt
            simp only [NR_INPUTS] at inside
            simp only [List.length_take, List.length_drop, length, expectedWitnessLen, NR_INPUTS,
              GNARK_WITNESS_HEADER_LEN]
            omega⟩ }
  else none

/-- Mint and owner are the first two keys; the account is initialized, and the extensions
follow the account type. -/
def unpackTokenAccount (data : List UInt8) : Option TokenAccount :=
  if 166 ≤ data.length ∧ data[108]? ≠ some 0 ∧ data[165]? = some 2 then
    some
      { mint := .ofNat (BigEndian.value (data.take 32))
        owner := .ofNat (BigEndian.value ((data.drop 32).take 32))
        transferring := match data.drop 166 with
          | [15, 0, 1, 0, flag] => some (flag = 1)
          | _ => none }
  else none

end Reference

open Reference in
/-- Program addresses are told apart by the lengths of their seeds. -/
def reference : External (List UInt8) Derived Ledger where
  findProgramAddress := fun seeds _ => .ofNat seeds.flatten.length
  gnarkProofFromBytes := some
  gnarkWitnessFromBytes := gnarkWitnessFromBytes
  verify := fun _ _ => true
  getTreePubkey := getTreePubkey
  treePubkeys := fun _ remaining => some (remaining.map AccountInfo.key)
  deriveAddress := fun seeds tree program => ((seeds, tree, program), .zero)
  compressedProofTryFrom := fun bytes => if bytes.length = 128 then some ⟨bytes⟩ else none
  newReadOnly := fun accountMeta data trees => some (.readOnly accountMeta data trees)
  packsLightAccount := fun _ => true
  lightInvoke := Reference.lightInvoke
  token2022Id := .ofNat 1000
  splAccountCompressionId := .ofNat 1001
  unpackTokenAccount := unpackTokenAccount
  unpackMint := fun _ => none
  isInterfaceMint := fun account => account.owner = .ofNat 1000
  concurrentMerkleTreeSize := 31800
  createTreeConfig := fun ledger _ => some ledger
  mintV1 := fun ledger _ => some ledger
  hashText := fun _ => ""
  extraAccountMetaListSize := fun count => some (16 + 35 * count)
  extraAccountMetaListInit := fun _ _ => none
  elsewhere := fun ledger _ => ledger

theorem reference_addressBook : AddressBook reference fun ledger entry => entry ∈ ledger where
  fresh := by
    intro ledger next cpi entry invoked created
    -- the call succeeds only when nothing that it creates is in the ledger
    simp only [reference, Reference.lightInvoke, Option.ite_none_right_eq_some] at invoked
    exact invoked.1 entry created
  recorded := by
    intro ledger next cpi entry invoked created
    simp only [reference, Reference.lightInvoke, Option.ite_none_right_eq_some] at invoked
    rw [← Option.some.inj invoked.2]
    exact List.mem_append_left _ created
  lightInvoke_keeps := by
    intro ledger next cpi entry invoked held
    simp only [reference, Reference.lightInvoke, Option.ite_none_right_eq_some] at invoked
    rw [← Option.some.inj invoked.2]
    exact List.mem_append_right _ held
  mintV1_keeps := by
    intro ledger next mint entry minted held
    cases minted
    exact held
  createTreeConfig_keeps := by
    intro ledger next config entry created held
    cases created
    exact held
  elsewhere_keeps := fun held => held

theorem reference_addressesInjective : AddressesInjective reference := by
  intro seeds tree program seeds' tree' program' same
  cases same
  exact ⟨rfl, rfl, rfl⟩

/-! ## One issuer and one transfer -/

namespace Scenario

def authority : Pubkey := .ofNat 1
def issuer : Pubkey := reference.issuerAddress authority
def mint : Pubkey := .ofNat 2
def recipient : Pubkey := .ofNat 3
def payer : Pubkey := .ofNat 4
def nullifierHash : Bytes32 := .ofNat 5

def clock : Clock where
  slot := 10
  unixTimestamp := 86400

def merkleTree : AccountInfo where
  key := .ofNat 6
  owner := .ofNat 1001
  data := List.replicate 31800 0

def register : Call :=
  .registerIssuer clock { authority, issuer } (.ofNat 7) (.ofNat 8) (.ofNat 9)

def attestationTree : InitAttestationTree where
  authority := authority
  issuer := issuer
  registry := reference.registryAddress
  merkleTree := merkleTree
  treeConfig := reference.treeConfigPda merkleTree.key
  treeCreator := reference.treeCreatorAddress
  bubblegumProgram := MPL_BUBBLEGUM_ID
  compressionProgram := .ofNat 1001
  logWrapper := NOOP_PROGRAM_ID

/-- The issuer is registered and the attestation tree is set up. -/
def prepare : List Call := [register, .initAttestationTree attestationTree]

def registered : State Reference.Ledger :=
  .setAccount (.deployed []) issuer (some (.issuer
    { authority
      merkleRoot := .ofNat 7
      sanctionsRoot := .ofNat 8
      jurisdictionRoot := .ofNat 9
      rootSlot := 10 }))

def prepared : State Reference.Ledger :=
  registered.setAccount reference.registryAddress
    (some (.registry { merkleTree := merkleTree.key }))

theorem run_prepare : run reference (.deployed []) prepare = prepared := by
  have first : step reference (.deployed []) register = .ok registered := rfl
  -- stated apart, so that nothing evaluates the data of the tree
  have grown : 31800 ≤ merkleTree.data.length := List.length_replicate.ge
  have loaded : attestationTree.load reference registered = .ok () := rfl
  have second : step reference registered (.initAttestationTree attestationTree) =
      .ok prepared := by
    simp only [step, initHandler, Checks.bind_eq_ok, Checks.require_eq_ok, Checks.okOr_eq_ok,
      Checks.pure_eq_ok, exists_const]
    exact ⟨(), loaded, rfl, grown, rfl, [], rfl, rfl⟩
  rw [run, prepare, Transactional.run_cons, Transactional.run_cons, Transactional.commit_ok first,
    Transactional.commit_ok second, Transactional.run_nil]

theorem run_prepare_append (calls : List Call) :
    run reference (.deployed []) (prepare ++ calls) = run reference prepared calls := by
  rw [run, Transactional.run_append]
  exact congrArg (Transactional.run (step reference) · calls) run_prepare

def bindings : BindingInputs where
  merkleRoot := .ofNat 7
  nullifierHash
  mint
  epoch := 1
  recipient
  amount := 50
  sanctionsRoot := .ofNat 8
  jurisdictionRoot := .ofNat 9
  timestamp := 86400

/-- A proof of one byte and the witness that encodes the inputs. -/
def bundle (inputs : BindingInputs) : List UInt8 :=
  [1] ++ List.replicate GNARK_WITNESS_HEADER_LEN 0 ++
    (List.ofFn inputs.entries).flatMap Bytes32.bytes

def addressTree (tree : Nat) : AccountInfo where
  key := .ofNat tree
  owner := .ofNat 1002
  data := []

/-- `verify_proof` for the transfer, with the given address tree. -/
def settle (inputs : BindingInputs) (tree : Nat) : Call :=
  .verifyProof clock
    { payer
      issuer
      registry := reference.registryAddress
      leafOwner := recipient
      merkleTree
      treeConfig := reference.treeConfigPda merkleTree.key
      treeCreator := reference.treeCreatorAddress
      bubblegumProgram := MPL_BUBBLEGUM_ID
      compressionProgram := .ofNat 1001
      logWrapper := NOOP_PROGRAM_ID
      systemProgram := .zero }
    { proofAndWitness := bundle inputs
      nullifierHash := inputs.nullifierHash
      mint
      epoch := 1
      recipient
      amount := 50
      validityProof := none
      addressTreeInfo :=
        { addressMerkleTreePubkeyIndex := 0, addressQueuePubkeyIndex := 0, rootIndex := 0 }
      outputStateTreeIndex := 0 }
    [addressTree tree]

end Scenario

end ZkSettle.Program
