import ZkSettle.Sdk.Completeness

/-!
# The browser flow

The steps of a live flow that read from the issuer and assemble the inputs of the proof.
The requests of one step are in flight together, so that each is answered from the state
that the issuer has when it arrives.
-/
namespace ZkSettle.Frontend

open Checks
open ZkSettle.Circuit (BN254_ORDER Fr)
open ZkSettle.Crypto (MERKLE_DEPTH noirPermutation circuitPath foldProof)
open ZkSettle.Program (Pubkey Bytes32 External Clock)
open ZkSettle.Sdk
open ZkSettle.Service

/-! ## Source -/

def CREDENTIAL_VALIDITY_SECS : Nat := 365 * 24 * 3600

/-- The amount is any integer that a number holds exactly. -/
structure TransferParams where
  mint : Pubkey
  recipient : Pubkey
  amount : Int
  isSafe : amount.natAbs < 2 ^ 53

inductive FlowError where
  | query (error : QueryError)
  | revoked
  | expired
  | js (error : JsError)
  deriving DecidableEq, Repr

/-- `String(n)` -/
def numberToString : Int → Text
  | .ofNat n => decimal n
  | .negSucc n => '-' :: decimal (n + 1)

/-- `computeNullifier` of the frontend, whose hash is a library's. -/
def computeNullifier (poseidon2Hash : List Nat → Nat) (fields : NullifierInputs) :
    Except JsError Text := do
  let inputs ← [fields.privateKey, fields.mintLo, fields.mintHi, fields.epoch,
    fields.recipientLo, fields.recipientHi, fields.amount].mapM fun raw => do
      let n ← bigInt raw
      require (0 ≤ n ∧ n < BN254_ORDER) JsError.rangeError
      pure n.toNat
  let hex := Nat.toDigits 16 (poseidon2Hash inputs)
  require (hex.length ≤ 64) JsError.rangeError
  pure ('0' :: 'x' :: Numerals.padStart 64 '0' hex)

def runStepCredential (st : IssuerState) (auth : WalletAuth) (dateNow : Nat) :
    Except FlowError CredentialRecord := do
  let credential ← (getCredential st auth).mapError .query
  require (credential.revoked = false) .revoked
  let expiresAt := credential.issuedAt.toNat + CREDENTIAL_VALIDITY_SECS
  require (dateNow / 1000 < expiresAt) .expired
  pure credential

structure MerklePaths where
  membership : MembershipProofResponse
  sanctions : SanctionsProofResponse
  roots : RootsResponse
  jurisdictionProof : JurisdictionProofResponse
  zkPrivateKey : Text

/-- Each request finds the issuer in a state of its own. -/
structure Arrivals where
  membership : IssuerState
  sanctions : IssuerState
  roots : IssuerState
  jurisdictionProof : IssuerState

def runStepMerklePaths (arrivals : Arrivals) (auth : WalletAuth) (zkPrivateKey : Text) :
    Except FlowError MerklePaths := do
  let membership ← (getProof arrivals.membership auth).mapError .query
  let sanctions ← (getSanctionsProof arrivals.sanctions auth).mapError .query
  let roots := getRoots arrivals.roots
  let jurisdictionProof ←
    (getJurisdictionProof arrivals.jurisdictionProof auth).mapError .query
  pure { membership, sanctions, roots, jurisdictionProof, zkPrivateKey }

/-- `transferContext` of `assembleProofInputs` -/
structure AssembledContext where
  nullifier : Text
  mintLo : Text
  mintHi : Text
  recipientLo : Text
  recipientHi : Text
  amount : Text
  epoch : Text
  privateKey : Text
  credentialExpiry : Text
  jurisdiction : Option Text
  jurisdictionPath : List Text
  jurisdictionPathIndices : List Nat
  timestamp : Text

/-- ``v.startsWith("0x") ? v : `0x${v}` `` -/
def hex (v : Text) : Text :=
  match v with
  | '0' :: 'x' :: _ => v
  | _ => prefixed v

/-- The wallet as the field element that its leaf is the hash of. -/
def walletField (wallet : Bytes32) : Text := decimal (wallet.toNat % BN254_ORDER)

def assembleProofInputs (credential : CredentialRecord) (membership : MembershipProofResponse)
    (sanctions : SanctionsProofResponse) (roots : RootsResponse)
    (transferContext : AssembledContext) : ProofInputs where
  merkleRoot := hex roots.membershipRoot
  nullifier := transferContext.nullifier
  mintLo := transferContext.mintLo
  mintHi := transferContext.mintHi
  epoch := transferContext.epoch
  recipientLo := transferContext.recipientLo
  recipientHi := transferContext.recipientHi
  amount := transferContext.amount
  sanctionsRoot := hex roots.sanctionsRoot
  jurisdictionRoot := hex roots.jurisdictionRoot
  timestamp := transferContext.timestamp
  wallet := walletField credential.wallet
  path := membership.path.map hex
  pathIndices := membership.pathIndices.map UInt8.toNat
  privateKey := transferContext.privateKey
  sanctionsPath := sanctions.path.map hex
  sanctionsPathIndices := sanctions.pathIndices.map UInt8.toNat
  sanctionsLeafValue := hex sanctions.leafValue
  jurisdiction := transferContext.jurisdiction.getD ['1']
  -- this path goes through as it is served
  jurisdictionPath := transferContext.jurisdictionPath
  jurisdictionPathIndices := transferContext.jurisdictionPathIndices
  credentialExpiry := transferContext.credentialExpiry

/-- The inputs that are handed to the prover; the clock is read once. -/
def runStepProofGeneration (poseidon2Hash : List Nat → Nat) (credential : CredentialRecord)
    (paths : MerklePaths) (transferParams : TransferParams) (dateNow : Nat) :
    Except FlowError ProofInputs := do
  let mintBytes := transferParams.mint.bytes
  let recipientBytes := transferParams.recipient.bytes
  -- the low limb is the trailing half, as in the program
  let mintLo := toHex (mintBytes.drop 16)
  let mintHi := toHex (mintBytes.take 16)
  let recipientLo := toHex (recipientBytes.drop 16)
  let recipientHi := toHex (recipientBytes.take 16)
  let epoch := decimal (dateNow / 1000 / 86400)
  let amount := numberToString transferParams.amount
  let timestamp := decimal (dateNow / 1000 / 86400 * 86400)
  let credentialExpiry := decimal (credential.issuedAt.toNat + CREDENTIAL_VALIDITY_SECS)
  let nullifier ← (computeNullifier poseidon2Hash
    { privateKey := paths.zkPrivateKey, mintLo, mintHi, epoch, recipientLo, recipientHi,
      amount }).mapError .js
  pure (assembleProofInputs credential paths.membership paths.sanctions paths.roots
    { nullifier
      mintLo
      mintHi
      recipientLo
      recipientHi
      amount
      epoch
      privateKey := paths.zkPrivateKey
      credentialExpiry
      jurisdiction := none
      jurisdictionPath := paths.jurisdictionProof.path
      jurisdictionPathIndices := paths.jurisdictionProof.pathIndices.map UInt8.toNat
      timestamp })

/-! ## Consistent inputs -/

/-- Folding a path from a leaf gives a root, all of them as the circuit reads them. -/
def Opens (leaf : Option Fr) (path : List Text) (pathIndices : List Nat) (root : Text) : Prop :=
  ∃ leaf' path' root', leaf = some leaf' ∧ merkleInput path pathIndices = some path' ∧
    fieldInput root = some root' ∧ Circuit.verifyMerklePath noirPermutation leaf' path' root'

/-- Every path of the inputs leads to the root that goes into the proof with it. -/
structure Consistent (inputs : ProofInputs) : Prop where
  membership : Opens ((fieldInput inputs.wallet).map fun wallet =>
      Circuit.poseidon2Hash noirPermutation [wallet])
    inputs.path inputs.pathIndices inputs.merkleRoot
  sanctions : Opens (fieldInput inputs.sanctionsLeafValue) inputs.sanctionsPath
    inputs.sanctionsPathIndices inputs.sanctionsRoot
  jurisdiction : Opens ((fieldInput inputs.jurisdiction).map fun jurisdiction =>
      Circuit.poseidon2Hash noirPermutation [jurisdiction])
    inputs.jurisdictionPath inputs.jurisdictionPathIndices inputs.jurisdictionRoot

theorem consistent_iff {inputs : ProofInputs} : Consistent inputs ↔
    Opens ((fieldInput inputs.wallet).map fun wallet =>
        Circuit.poseidon2Hash noirPermutation [wallet])
      inputs.path inputs.pathIndices inputs.merkleRoot ∧
    Opens (fieldInput inputs.sanctionsLeafValue) inputs.sanctionsPath
      inputs.sanctionsPathIndices inputs.sanctionsRoot ∧
    Opens ((fieldInput inputs.jurisdiction).map fun jurisdiction =>
        Circuit.poseidon2Hash noirPermutation [jurisdiction])
      inputs.jurisdictionPath inputs.jurisdictionPathIndices inputs.jurisdictionRoot :=
  ⟨fun ⟨membership, sanctions, jurisdiction⟩ => ⟨membership, sanctions, jurisdiction⟩,
    fun ⟨membership, sanctions, jurisdiction⟩ => ⟨membership, sanctions, jurisdiction⟩⟩

/-- The fold of a served path against a root, when everything is read back. -/
theorem opens_iff {leaf : Option Fr} {leaf' root' : Fr} {path : List Text}
    {pathIndices : List Nat} {siblings : Fin MERKLE_DEPTH → Fr}
    {sides : Fin MERKLE_DEPTH → UInt8} {root : Text} (leafRead : leaf = some leaf')
    (pathRead : merkleInput path pathIndices = some (circuitPath siblings sides))
    (rootRead : fieldInput root = some root') :
    Opens leaf path pathIndices root ↔ foldProof siblings sides leaf' = root' := by
  rw [← Crypto.circuitPath_root]
  constructor
  · rintro ⟨_, _, _, leafRead', pathRead', rootRead', folded⟩
    rw [leafRead, Option.some.injEq] at leafRead'
    rw [pathRead, Option.some.injEq] at pathRead'
    rw [rootRead, Option.some.injEq] at rootRead'
    subst leafRead' pathRead' rootRead'
    exact folded
  · intro folded
    exact ⟨leaf', _, root', leafRead, pathRead, rootRead, folded⟩

/-- A served field element has no prefix of its own. -/
theorem hex_encodeFr (f : Fr) : hex (encodeFr f) = prefixed (encodeFr f) := by
  unfold hex
  split
  next rest served =>
    have letter : 'x' ∈ encodeFr f := by simp [served]
    exact absurd letter (Numerals.x_notMem_hex _)
  next => rfl

theorem fieldInput_hex (f : Fr) : fieldInput (hex (encodeFr f)) = some f := by
  rw [hex_encodeFr, fieldInput_prefixed]

theorem fieldInput_root {root : Text} {f : Fr} (served : root = encodeFr f) :
    fieldInput (hex root) = some f := by
  rw [served, fieldInput_hex]

theorem fieldInput_decimal {n : Nat} (below : n < BN254_ORDER) :
    fieldInput (decimal n) = some (n : Fr) := by
  have wide : BN254_ORDER < 2 ^ 256 := by decide
  rw [fieldInput, fieldBytes_decimal, if_pos below, Option.map_some,
    Bytes32.toNat_ofNat (below.trans wide)]

theorem fieldInput_walletField (wallet : Bytes32) :
    fieldInput (walletField wallet) = some (bytesBeToFr wallet) := by
  rw [walletField, fieldInput_decimal (Nat.mod_lt _ (by decide)), bytesBeToFr,
    ZMod.natCast_mod]

section Reads

variable {at_ rootsAt : IssuerState} {records records' : List CredentialRecord} {auth : WalletAuth}

/-- The membership path leads to the root of the tree that it was read from. -/
theorem membership_opens_iff (represents : Represents at_ records)
    {response : MembershipProofResponse} (answered : getProof at_ auth = .ok response)
    {record : CredentialRecord} (known : at_.credentials.lookup auth.walletBytes = some record) :
    Opens ((fieldInput (walletField auth.walletBytes)).map fun wallet =>
          Circuit.poseidon2Hash noirPermutation [wallet])
        (response.path.map hex) (response.pathIndices.map UInt8.toNat)
        (hex (getRoots rootsAt).membershipRoot) ↔
      (at_.membershipTree.blockOf record.leafIndex).root = rootsAt.membershipTree.root := by
  obtain ⟨record', proof, known', live, given, path, pathIndices⟩ := getProof_ok answered
  cases known.symm.trans known'
  obtain ⟨leaf, owner⟩ := represents.leaf_of_lookup known
  have inside := (List.getElem?_eq_some_iff.mp leaf).1
  obtain ⟨proof', given', folded⟩ := Crypto.MerkleTree.proof_fold inside
  cases given.symm.trans given'
  rw [List.getD_eq_getElem?_getD, leaf, Option.getD_some, leaf_live live, owner] at folded
  have leafRead : (fieldInput (walletField auth.walletBytes)).map (fun wallet =>
      Circuit.poseidon2Hash noirPermutation [wallet]) =
        some (walletLeaf (bytesBeToFr auth.walletBytes)) := by
    rw [fieldInput_walletField, Option.map_some, Crypto.poseidon2Hash_noir, walletLeaf]
  -- what is read of the answer folds to the root of the leaf's block
  rw [path, pathIndices, opens_iff leafRead
    (merkleInput_served (fun level => fieldInput_hex _) (Crypto.MerkleTree.proof_bit given))
    (fieldInput_root getRoots_eq.1), folded]

theorem runStepCredential_wallet (represents : Represents at_ records) {dateNow : Nat}
    {credential : CredentialRecord} (loaded : runStepCredential at_ auth dateNow = .ok credential) :
    credential.wallet = auth.walletBytes := by
  simp only [runStepCredential, bind_eq_ok, mapError_eq_ok, pure_eq_ok] at loaded
  obtain ⟨record, found, -, -, -, -, rfl⟩ := loaded
  unfold getCredential at found
  split at found
  next => cases found
  next known =>
    cases found
    exact (represents.leaf_of_lookup known).2

/-- Nothing is ever sanctioned, so that the tree is the same at every read. -/
theorem sanctions_opens (represents : Represents at_ records)
    (represents' : Represents rootsAt records') {response : SanctionsProofResponse}
    (answered : getSanctionsProof at_ auth = .ok response) :
    Opens (fieldInput (hex response.leafValue)) (response.path.map hex)
      (response.pathIndices.map UInt8.toNat) (hex (getRoots rootsAt).sanctionsRoot) := by
  obtain ⟨walletFr, proof, given, path, pathIndices, leafValue⟩ := getSanctionsProof_ok answered
  rw [path, pathIndices, leafValue, opens_iff (fieldInput_hex proof.leafValue)
    (merkleInput_served (fun level => fieldInput_hex _)
      (Crypto.SparseMerkleTree.exclusionProof_bit given))
    (fieldInput_root getRoots_eq.2.1), (Crypto.SparseMerkleTree.exclusionProof_fold given).2.2,
    represents.sanctions, represents'.sanctions]

theorem fieldInput_zero : fieldInput (encodeFr 0) = some 0 := by decide +kernel

/-- The siblings of the one jurisdiction are zero, which reads the same without a prefix. -/
theorem jurisdiction_opens (represents : Represents at_ records)
    (represents' : Represents rootsAt records') {response : JurisdictionProofResponse}
    (answered : getJurisdictionProof at_ auth = .ok response) :
    Opens ((fieldInput ['1']).map fun jurisdiction =>
        Circuit.poseidon2Hash noirPermutation [jurisdiction])
      response.path (response.pathIndices.map UInt8.toNat)
      (hex (getRoots rootsAt).jurisdictionRoot) := by
  obtain ⟨proof, given, path, pathIndices⟩ := getJurisdictionProof_ok answered
  rw [represents.jurisdiction] at given
  obtain ⟨proof', given', zeros, -⟩ := jurisdiction_proof
  cases given.symm.trans given'
  have leafRead : (fieldInput ['1']).map (fun jurisdiction =>
      Circuit.poseidon2Hash noirPermutation [jurisdiction]) =
        some (Crypto.poseidon2Hash [JURISDICTION_ID]) := by
    have one : fieldInput ['1'] = some JURISDICTION_ID := by decide +kernel
    rw [one, Option.map_some, Crypto.poseidon2Hash_noir]
  have reads : ∀ level, fieldInput (id (encodeFr (proof.path level))) =
      some (proof.path level) := by
    intro level
    rw [zeros, id, fieldInput_zero]
  have pathRead := merkleInput_served reads (Crypto.MerkleTree.proof_bit given)
  rw [List.map_id] at pathRead
  rw [path, pathIndices, opens_iff leafRead pathRead (fieldInput_root getRoots_eq.2.2),
    represents'.jurisdiction]
  -- the leaf stands first in its tree
  have leaves : IssuerState.new.jurisdictionTree.leaves =
      [Crypto.poseidon2Hash [JURISDICTION_ID]] := rfl
  have inside : 0 < IssuerState.new.jurisdictionTree.leaves.length := by simp [leaves]
  have first : IssuerState.new.jurisdictionTree.leaves.getD 0 0 =
      Crypto.poseidon2Hash [JURISDICTION_ID] := by simp [leaves]
  obtain ⟨proof', given', folded⟩ := Crypto.MerkleTree.proof_fold inside
  cases given.symm.trans given'
  rwa [first, Crypto.MerkleTree.root_blockOf_zero (List.ne_nil_of_length_pos inside)] at folded

end Reads

/-- The issuer once a number of the actions of a run are done. -/
def issuerAt {Proof Address World : Type} (env : External Proof Address World) (config : Config)
    (s : System World) (actions : List (Action World)) (done : Nat) : IssuerState :=
  (run env config s (actions.take done)).issuer

variable {Proof Address World : Type} {env : External Proof Address World} {config : Config}

/-- Wherever in a run the requests of a flow arrive, the inputs are consistent if and only if
the membership tree has the root, when the roots are read, that the block of the leaf had when
the membership proof was read. -/
theorem assembled_consistent_iff (issuerFault updaterFault : Bool) (clock : Clock)
    (chain : Program.State World) (actions : List (Action World)) {s : System World}
    (start : s = System.start env config issuerFault updaterFault clock chain)
    {loadedAt membershipAt sanctionsAt rootsAt jurisdictionAt : Nat} {auth : WalletAuth}
    {dateNow dateNow' : Nat} {credential record : CredentialRecord}
    (loaded : runStepCredential (issuerAt env config s actions loadedAt) auth dateNow =
      .ok credential) {zkPrivateKey : Text} {paths : MerklePaths}
    (fetched : runStepMerklePaths
      { membership := issuerAt env config s actions membershipAt
        sanctions := issuerAt env config s actions sanctionsAt
        roots := issuerAt env config s actions rootsAt
        jurisdictionProof := issuerAt env config s actions jurisdictionAt } auth zkPrivateKey =
      .ok paths)
    (known : (issuerAt env config s actions membershipAt).credentials.lookup auth.walletBytes =
      some record) {poseidon2Hash : List Nat → Nat} {transferParams : TransferParams}
    {inputs : ProofInputs}
    (assembled : runStepProofGeneration poseidon2Hash credential paths transferParams dateNow' =
      .ok inputs) :
    Consistent inputs ↔
      ((issuerAt env config s actions membershipAt).membershipTree.blockOf record.leafIndex).root =
        (issuerAt env config s actions rootsAt).membershipTree.root := by
  have represented : ∀ done, ∃ records,
      Represents (issuerAt env config s actions done) records := by
    intro done
    rw [start]
    exact run_represents env config issuerFault updaterFault clock chain (actions.take done)
  -- the credential names the wallet that asked for it
  have owner : credential.wallet = auth.walletBytes := by
    obtain ⟨records, represents⟩ := represented loadedAt
    exact runStepCredential_wallet represents loaded
  simp only [runStepMerklePaths, bind_eq_ok, mapError_eq_ok, pure_eq_ok] at fetched
  obtain ⟨membership, membershipRead, sanctions, sanctionsRead, jurisdictionProof,
    jurisdictionRead, rfl⟩ := fetched
  simp only [runStepProofGeneration, bind_eq_ok, mapError_eq_ok, pure_eq_ok] at assembled
  obtain ⟨nullifier, -, rfl⟩ := assembled
  obtain ⟨records, represents⟩ := represented membershipAt
  obtain ⟨_, sanctionsRepresents⟩ := represented sanctionsAt
  obtain ⟨_, rootsRepresents⟩ := represented rootsAt
  obtain ⟨_, jurisdictionRepresents⟩ := represented jurisdictionAt
  -- the other two trees never change
  have sanctioned := sanctions_opens sanctionsRepresents rootsRepresents sanctionsRead
  have allowed := jurisdiction_opens jurisdictionRepresents rootsRepresents jurisdictionRead
  rw [← membership_opens_iff represents membershipRead known, consistent_iff]
  simp only [assembleProofInputs, owner, Option.getD_none, sanctioned, allowed, and_true]

/-! ## Two credentials -/

/-- A wallet that stays credentialed is answered. -/
theorem runStepMerklePaths_live (arrivals : Arrivals) {auth : WalletAuth}
    {records sanctioned allowed : List CredentialRecord}
    (membership : Represents arrivals.membership records)
    (sanctions : Represents arrivals.sanctions sanctioned)
    (jurisdiction : Represents arrivals.jurisdictionProof allowed)
    (member : arrivals.membership.Live auth.walletBytes)
    (member' : arrivals.sanctions.Live auth.walletBytes)
    (member'' : arrivals.jurisdictionProof.Live auth.walletBytes) (zkPrivateKey : Text) :
    ∃ paths, runStepMerklePaths arrivals auth zkPrivateKey = .ok paths ∧
      paths.zkPrivateKey = zkPrivateKey := by
  obtain ⟨record, known, live⟩ := member
  obtain ⟨record', known', live'⟩ := member'
  obtain ⟨record'', known'', live''⟩ := member''
  obtain ⟨response, served, -⟩ := membership.getProof_served auth known live
  -- the issuer's sanctions tree has no leaves, and its jurisdiction tree has one
  have excluded : ∃ proof, getSanctionsProof arrivals.sanctions auth = .ok proof := by
    have absent : ∀ bits, arrivals.sanctions.sanctionsTree.leaves.lookup bits = none := by
      intro bits
      rw [sanctions.sanctions]
      exact AList.lookup_empty bits
    simp only [getSanctionsProof, auth.decoded, Except.map, known', Option.map_some,
      Option.getD_some, live', Crypto.SparseMerkleTree.exclusionProof, absent, Option.isSome_none,
      Bool.false_eq_true, if_false]
    exact ⟨_, rfl⟩
  have permitted : ∃ proof, getJurisdictionProof arrivals.jurisdictionProof auth = .ok proof := by
    obtain ⟨proof, given, -⟩ := jurisdiction_proof
    simp only [getJurisdictionProof, known'', live'', jurisdiction.jurisdiction, given,
      Bool.false_eq_true, if_false]
    exact ⟨_, rfl⟩
  obtain ⟨sanctionsProof, excluded⟩ := excluded
  obtain ⟨jurisdictionProof, permitted⟩ := permitted
  simp only [runStepMerklePaths, served, excluded, permitted, Except.mapError]
  exact ⟨_, rfl, rfl⟩

namespace Sample

/-- The library's hash is the one of the circuit. -/
def poseidon2 (inputs : List Nat) : Nat :=
  (Crypto.poseidon2Hash (inputs.map (Nat.cast : Nat → Fr))).val

def transfer : TransferParams where
  mint := .ofNat 2
  recipient := .ofNat 3
  amount := 50
  isSafe := by decide

/-- The first wallet is issued its credential, then another one. -/
def issues : List (Action Program.Reference.Ledger) :=
  [.request false Service.Sample.issue,
    .request false (.issue 0 (Service.Sample.requestFor (Service.Sample.other 0)))]

theorem generates (credential : CredentialRecord) {paths : MerklePaths}
    (key : paths.zkPrivateKey = ['1']) :
    ∃ inputs, runStepProofGeneration poseidon2 credential paths transfer 0 = .ok inputs := by
  have computes : (computeNullifier poseidon2
    { privateKey := ['1']
      mintLo := toHex (transfer.mint.bytes.drop 16)
      mintHi := toHex (transfer.mint.bytes.take 16)
      epoch := decimal (0 / 1000 / 86400)
      recipientLo := toHex (transfer.recipient.bytes.drop 16)
      recipientHi := toHex (transfer.recipient.bytes.take 16)
      amount := numberToString transfer.amount }).isOk = true := by decide +kernel
  obtain ⟨nullifier, computed⟩ := exists_eq_ok computes
  simp only [runStepProofGeneration, key, computed, Except.mapError]
  exact ⟨_, rfl⟩

theorem loads {st : IssuerState} {record : CredentialRecord}
    (known : st.credentials.lookup Service.Sample.authOne.walletBytes = some record)
    (live : record.revoked = false) (issuedAt : record.issuedAt = 0) :
    runStepCredential st Service.Sample.authOne 0 = .ok record := by
  simp only [runStepCredential, bind_eq_ok, mapError_eq_ok, require_eq_ok, pure_eq_ok]
  refine ⟨record, ?_, ⟨⟩, live, ⟨⟩, ?_, rfl⟩
  · simp only [getCredential, known]
  · rw [issuedAt]
    decide

/-- The issuer after each of the two requests. -/
theorem issuers : ∃ before after records, Represents before records ∧
    Represents after (records ++ [newRecord records (Service.Sample.other 0) "US" 0]) ∧
    records = [newRecord [] Service.Sample.one "US" 0] ∧
    issuerAt Program.reference (Service.Sample.service none) Service.Sample.started issues 1 =
      before ∧
    issuerAt Program.reference (Service.Sample.service none) Service.Sample.started issues 2 =
      after := by
  obtain ⟨s, first, represents⟩ := Service.Sample.run_one
  obtain ⟨s', second, represents'⟩ := run_issue Program.reference (Service.Sample.service none)
    represents 0 (Service.Sample.decode_requestFor (Service.Sample.other 0)) (by decide)
  exact ⟨s.issuer, s'.issuer, _, represents, represents', rfl,
    congrArg System.issuer (first []), congrArg System.issuer ((first _).trans (second []))⟩

theorem known_before {before : IssuerState} {records : List CredentialRecord}
    (represents : Represents before records)
    (member : newRecord [] Service.Sample.one "US" 0 ∈ records) :
    before.credentials.lookup Service.Sample.authOne.walletBytes =
      some (newRecord [] Service.Sample.one "US" 0) :=
  (represents.lookup _ _).mpr ⟨member, rfl⟩

/-- The four requests of the first wallet, with the roots read after a number of requests. -/
def reads (rootsAt : Nat) : Arrivals :=
  let at_ := issuerAt Program.reference (Service.Sample.service none) Service.Sample.started issues
  { membership := at_ 1, sanctions := at_ 1, roots := at_ rootsAt, jurisdictionProof := at_ 1 }

/-- The flow of the first wallet gets to its inputs. -/
theorem flow (rootsAt : Nat) : ∃ paths inputs,
    runStepCredential (issuerAt Program.reference (Service.Sample.service none)
      Service.Sample.started issues 1) Service.Sample.authOne 0 =
        .ok (newRecord [] Service.Sample.one "US" 0) ∧
    runStepMerklePaths (reads rootsAt) Service.Sample.authOne ['1'] = .ok paths ∧
    runStepProofGeneration poseidon2 (newRecord [] Service.Sample.one "US" 0) paths transfer 0 =
      .ok inputs := by
  obtain ⟨before, after, records, represents, -, rfl, here, -⟩ := issuers
  have known := known_before represents (List.mem_singleton_self _)
  have represented : Represents (issuerAt Program.reference (Service.Sample.service none)
      Service.Sample.started issues 1) [newRecord [] Service.Sample.one "US" 0] := by rwa [here]
  have live : (issuerAt Program.reference (Service.Sample.service none)
      Service.Sample.started issues 1).Live Service.Sample.authOne.walletBytes :=
    ⟨_, by rwa [here], rfl⟩
  obtain ⟨paths, fetched, key⟩ := runStepMerklePaths_live (reads rootsAt)
    represented represented represented live live live ['1']
  obtain ⟨inputs, assembled⟩ := generates (newRecord [] Service.Sample.one "US" 0) key
  refine ⟨paths, inputs, ?_, fetched, assembled⟩
  rw [here]
  exact loads known rfl rfl

end Sample

/-- With no request between the reads, the inputs are consistent. -/
theorem assembled_consistent_one : ∃ paths inputs,
    runStepMerklePaths (Sample.reads 1) Service.Sample.authOne ['1'] = .ok paths ∧
    runStepProofGeneration Sample.poseidon2 (newRecord [] Service.Sample.one "US" 0) paths
      Sample.transfer 0 = .ok inputs ∧ Consistent inputs := by
  obtain ⟨paths, inputs, loaded, fetched, assembled⟩ := Sample.flow 1
  obtain ⟨before, after, records, represents, -, rfl, here, -⟩ := Sample.issuers
  have known := Sample.known_before represents (List.mem_singleton_self _)
  have inside := (List.getElem?_eq_some_iff.mp (represents.leaf_of_lookup known).1).1
  rw [← here] at known
  refine ⟨paths, inputs, fetched, assembled, ?_⟩
  have consistent := assembled_consistent_iff false false (Service.Sample.clock 0)
    (Program.State.deployed []) Sample.issues (rfl : Service.Sample.started = _) loaded fetched
    known assembled
  rw [consistent, here]
  exact Crypto.MerkleTree.root_blockOf_zero (List.ne_nil_of_length_pos inside)

/-- A credential issued between the two reads changes the root that the path is for. -/
theorem not_assembled_consistent : ¬ ∀ (Proof Address World : Type)
    (env : External Proof Address World) (config : Config) (issuerFault updaterFault : Bool)
    (clock : Clock) (chain : Program.State World) (actions : List (Action World))
    (s : System World) (loadedAt membershipAt sanctionsAt rootsAt jurisdictionAt : Nat)
    (auth : WalletAuth) (dateNow dateNow' : Nat) (credential : CredentialRecord)
    (zkPrivateKey : Text) (paths : MerklePaths) (poseidon2Hash : List Nat → Nat)
    (transferParams : TransferParams) (inputs : ProofInputs),
      s = System.start env config issuerFault updaterFault clock chain →
      loadedAt ≤ membershipAt → loadedAt ≤ sanctionsAt → loadedAt ≤ rootsAt →
      loadedAt ≤ jurisdictionAt →
      (∀ done, loadedAt ≤ done → (issuerAt env config s actions done).Live auth.walletBytes) →
      runStepCredential (issuerAt env config s actions loadedAt) auth dateNow = .ok credential →
      runStepMerklePaths
        { membership := issuerAt env config s actions membershipAt
          sanctions := issuerAt env config s actions sanctionsAt
          roots := issuerAt env config s actions rootsAt
          jurisdictionProof := issuerAt env config s actions jurisdictionAt } auth zkPrivateKey =
        .ok paths →
      runStepProofGeneration poseidon2Hash credential paths transferParams dateNow' = .ok inputs →
      Consistent inputs := by
  intro always
  obtain ⟨paths, inputs, loaded, fetched, assembled⟩ := Sample.flow 2
  obtain ⟨before, after, records, represents, represents', rfl, here, there⟩ := Sample.issuers
  have known := Sample.known_before represents (List.mem_singleton_self _)
  have known' := Sample.known_before represents' List.mem_cons_self
  -- the wallet is issued first and never revoked; the second wallet is issued in between
  have live : ∀ done, 1 ≤ done → (issuerAt Program.reference (Service.Sample.service none)
      Service.Sample.started Sample.issues done).Live Service.Sample.authOne.walletBytes := by
    intro done later
    rcases later.eq_or_lt with rfl | later
    · exact ⟨_, by rwa [here], rfl⟩
    · have ended : Sample.issues.take done = Sample.issues.take 2 :=
        List.take_of_length_le later
      rw [issuerAt, ended, ← issuerAt]
      exact ⟨_, by rwa [there], rfl⟩
  have consistent := always _ _ _ Program.reference (Service.Sample.service none) false false
    (Service.Sample.clock 0) (Program.State.deployed []) Sample.issues Service.Sample.started
    1 1 1 2 1 Service.Sample.authOne 0 0 _ ['1'] paths Sample.poseidon2 Sample.transfer inputs rfl
    le_rfl le_rfl one_le_two le_rfl live loaded fetched assembled
  rw [← here] at known
  have roots := (assembled_consistent_iff false false (Service.Sample.clock 0)
    (Program.State.deployed []) Sample.issues (rfl : Service.Sample.started = _) loaded fetched
    known assembled).mp consistent
  have leaf : (newRecord [] Service.Sample.one "US" 0).leaf = Crypto.poseidon2Hash [1] := by
    rw [leaf_live rfl, newRecord, Service.Sample.fr_one, walletLeaf]
  have leaf' : (newRecord [newRecord [] Service.Sample.one "US" 0] (Service.Sample.other 0) "US"
      0).leaf = Crypto.poseidon2Hash [2] := by
    have residue : bytesBeToFr (Service.Sample.other 0) = 2 := by decide +kernel
    rw [leaf_live rfl, newRecord, residue, walletLeaf]
  have first : before.membershipTree = ⟨[Crypto.poseidon2Hash [1]]⟩ := by
    apply Crypto.MerkleTree.ext
    rw [represents.leaves, List.map_singleton, leaf]
  have second : after.membershipTree =
      ⟨[Crypto.poseidon2Hash [1], Crypto.poseidon2Hash [2]]⟩ := by
    apply Crypto.MerkleTree.ext
    rw [represents'.leaves, List.singleton_append, List.map_cons, List.map_singleton, leaf, leaf']
  -- the path opens to the root of one leaf, the root fetched later is that of two
  rw [here, there, first, second] at roots
  have block : ((Crypto.MerkleTree.mk [Crypto.poseidon2Hash [1]]).blockOf 0).root =
      (Crypto.MerkleTree.mk [Crypto.poseidon2Hash [1]]).root :=
    Crypto.MerkleTree.root_blockOf_zero (List.cons_ne_nil _ _)
  rw [newRecord, List.length_nil, block, Crypto.MerkleTree.root_one,
    Crypto.MerkleTree.root_oneTwo] at roots
  exact absurd roots (by decide)

end ZkSettle.Frontend
