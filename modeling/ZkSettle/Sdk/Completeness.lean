import ZkSettle.Sdk.Prove
import ZkSettle.Service.Paths

/-!
# From the issuer's responses to the circuit

The inputs that `proveHighLevel` assembles, read as the circuit reads them. The issuer
serves field elements as hexadecimal digits without a prefix, and the SDK passes them on as
they are, so that they are read as decimal numerals: the root of the jurisdictions, which is
the same in every state, has a letter and is rejected.
-/
namespace ZkSettle.Sdk

open ZkSettle.Circuit (Fr Main asU64)
open ZkSettle.Crypto (MERKLE_DEPTH noirPermutation circuitPath keyBits)
open ZkSettle.Program (Clock Bytes32 External)
open ZkSettle.Service

/-! ## Inputs as the circuit reads them -/

/-- A string as a field element. -/
def fieldInput (text : Text) : Option Fr :=
  (fieldBytes text).map fun bytes => (bytes.toNat : Fr)

/-- A path of the depth of the tree, whose indices are single bits. -/
def merkleInput (path : List Text) (pathIndices : List Nat) : Option Circuit.MerklePath := do
  let path ← path.mapM fieldInput
  if path.length = MERKLE_DEPTH ∧ pathIndices.length = MERKLE_DEPTH ∧
      ∀ index ∈ pathIndices, index < 2 then
    some
      { path := fun level => path.getD level 0
        pathIndices := fun level =>
          ⟨pathIndices.getD level 0 % 2, Nat.mod_lt (pathIndices.getD level 0) Nat.two_pos⟩ }
  else none

/-- `toNoirInputs`, and the values of the inputs that are named there. -/
def ProofInputs.read (inputs : ProofInputs) :
    Option (Circuit.PublicInputs × Circuit.PrivateInputs) := do
  let merkleRoot ← fieldInput inputs.merkleRoot
  let nullifier ← fieldInput inputs.nullifier
  let mintLo ← fieldInput inputs.mintLo
  let mintHi ← fieldInput inputs.mintHi
  let epoch ← fieldInput inputs.epoch
  let recipientLo ← fieldInput inputs.recipientLo
  let recipientHi ← fieldInput inputs.recipientHi
  let amount ← fieldInput inputs.amount
  let sanctionsRoot ← fieldInput inputs.sanctionsRoot
  let jurisdictionRoot ← fieldInput inputs.jurisdictionRoot
  let timestamp ← fieldInput inputs.timestamp
  let wallet ← fieldInput inputs.wallet
  let membership ← merkleInput inputs.path inputs.pathIndices
  let privateKey ← fieldInput inputs.privateKey
  let sanctions ← merkleInput inputs.sanctionsPath inputs.sanctionsPathIndices
  let sanctionsLeafValue ← fieldInput inputs.sanctionsLeafValue
  let jurisdiction ← fieldInput inputs.jurisdiction
  let jurisdictionMembership ← merkleInput inputs.jurisdictionPath inputs.jurisdictionPathIndices
  let credentialExpiry ← fieldInput inputs.credentialExpiry
  pure
    ({ merkleRoot, nullifier, mintLo, mintHi, epoch, recipientLo, recipientHi, amount,
       sanctionsRoot, jurisdictionRoot, timestamp },
     { wallet, membership, privateKey, sanctions, sanctionsLeafValue, jurisdiction,
       jurisdictionMembership, credentialExpiry })

/-! ## Served field elements with a prefix -/

def prefixed (text : Text) : Text := '0' :: 'x' :: text

/-- With a prefix, a served field element is read back. -/
@[simp] theorem fieldInput_prefixed (f : Fr) : fieldInput (prefixed (encodeFr f)) = some f := by
  have below : f.val < 2 ^ 256 := lt_trans (ZMod.val_lt f) (by decide)
  have value : (frToBytesBe f).toNat = f.val := Bytes32.toNat_ofNat below
  have read : fieldBytes (prefixed (encodeFr f)) = some (frToBytesBe f) :=
    fieldBytes_toHex_bytes _ (value.trans_lt (ZMod.val_lt f))
  rw [fieldInput, read, Option.map_some, value, ZMod.natCast_zmod_val]

theorem bitInput {index : UInt8} (bit : index < 2) :
    Fin.ofNat 2 index.toNat = if index = 0 then 0 else 1 := by
  have zero_or_one : index = 0 ∨ index = 1 := by
    have small : index.toNat < 2 := bit
    rcases Nat.lt_succ_iff_lt_or_eq.mp small with zero | one
    · exact Or.inl (UInt8.toNat.inj (by simpa using zero))
    · exact Or.inr (UInt8.toNat.inj one)
  rcases zero_or_one with rfl | rfl <;> rfl

/-- A path is read back when each of its strings is. -/
theorem merkleInput_served {write : Text → Text} {path : Fin MERKLE_DEPTH → Fr}
    {pathIndices : Fin MERKLE_DEPTH → UInt8}
    (reads : ∀ level, fieldInput (write (encodeFr (path level))) = some (path level))
    (bits : ∀ level, pathIndices level < 2) :
    merkleInput ((encodePath path).map write) ((List.ofFn pathIndices).map UInt8.toNat) =
      some (circuitPath path pathIndices) := by
  have read : ((encodePath path).map write).mapM fieldInput = some (List.ofFn path) := by
    rw [encodePath, List.map_map]
    apply Checks.mapM_map
    intro f member
    obtain ⟨level, rfl⟩ := (List.mem_ofFn' path f).mp member
    exact reads level
  have valid : ∀ index ∈ (List.ofFn pathIndices).map UInt8.toNat, index < 2 := by
    intro index member
    simp only [List.mem_map, List.mem_ofFn] at member
    obtain ⟨_, ⟨level, rfl⟩, rfl⟩ := member
    exact bits level
  -- both lists have the circuit's depth, so each level reads its own entry
  have lengths : (List.ofFn path).length = MERKLE_DEPTH ∧
      ((List.ofFn pathIndices).map UInt8.toNat).length = MERKLE_DEPTH := by simp
  rw [merkleInput, read, Option.bind_eq_bind, Option.bind_some,
    if_pos ⟨lengths.1, lengths.2, valid⟩, Option.some.injEq, circuitPath]
  have inside : ∀ level : Fin Circuit.MERKLE_DEPTH, level.val < MERKLE_DEPTH := fun level =>
    level.isLt
  refine congrArg₂ Circuit.MerklePath.mk (funext fun level => ?_) (funext fun level => ?_)
  · simp only [List.getD_eq_getElem?_getD, List.getElem?_ofFn, dif_pos (inside level),
      Option.getD_some]
    rfl
  · simp only [List.getD_eq_getElem?_getD, List.getElem?_map, List.getElem?_ofFn,
      dif_pos (inside level), Option.map_some, Option.getD_some]
    exact bitInput (bits level)

/-! ## Calls -/

/-- `Promise.all` of the four requests, which are answered from one state. -/
def issuerResponses (st : IssuerState) (auth : WalletAuth) :
    Except QueryError IssuerResponses := do
  let roots := getRoots st
  let membership ← getProof st auth
  let sanctions ← getSanctionsProof st auth
  let credential ← getCredential st auth
  pure
    { membershipRoot := roots.membershipRoot
      sanctionsRoot := roots.sanctionsRoot
      jurisdictionRoot := roots.jurisdictionRoot
      membershipPath := membership.path
      membershipPathIndices := membership.pathIndices.map UInt8.toNat
      sanctionsPath := sanctions.path
      sanctionsPathIndices := sanctions.pathIndices.map UInt8.toNat
      sanctionsLeafValue := sanctions.leafValue
      credentialJurisdiction := credential.jurisdiction.toList }

/-- The call assembles inputs that the circuit reads and accepts. -/
def Proves (poseidon2Hash : List Bytes32 → Bytes32) (st : IssuerState) (auth : WalletAuth)
    (context : TransferContext) (dateNow : Nat) : Prop :=
  ∃ responses inputs x w, issuerResponses st auth = .ok responses ∧
    proveHighLevel poseidon2Hash responses auth.walletHex.toList context dateNow = .ok inputs ∧
    inputs.read = some (x, w) ∧ Main noirPermutation x w

/-- What a caller who may transfer brings along. -/
structure MayProve (st : IssuerState) (auth : WalletAuth) (context : TransferContext)
    (dateNow : Nat) : Prop where
  live : st.Live auth.walletBytes
  unsanctioned : st.sanctionsTree.leaves.lookup
    (keyBits (Crypto.poseidon2Hash [bytesBeToFr auth.walletBytes])) = none
  jurisdictionPath : ∃ proof, st.jurisdictionTree.proof 0 = .ok proof ∧
    merkleInput context.jurisdictionPath context.jurisdictionPathIndices =
      some (circuitPath proof.path proof.pathIndices)
  privateKey : (fieldInput context.privateKey).isSome
  unexpired : ∃ expiry, fieldInput context.credentialExpiry = some expiry ∧
    dateNow / 1000 ≤ asU64 expiry

/-! ## The jurisdiction root -/

variable {Proof Address World : Type} {env : External Proof Address World} {config : Config}

/-- The root of the jurisdictions is that of one leaf, whose digits have letters. -/
theorem getRoots_jurisdictionRoot {st : IssuerState} {records : List CredentialRecord}
    (represents : Represents st records) :
    fieldInput (getRoots st).jurisdictionRoot = none := by
  have root : st.jurisdictionTree.root =
      1825054090217402090973321347817467317538187810591320249195554625170260743889 := by
    rw [represents.jurisdiction]
    exact Crypto.MerkleTree.root_one
  have letters : fieldBytes (Numerals.hex (frToBytesBe
      1825054090217402090973321347817467317538187810591320249195554625170260743889).bytes) =
        none := by decide +kernel
  simp only [getRoots, IssuerState.rootsAsBytes, root, fieldInput, letters, Option.map_none]

/-- The leaf of the jurisdiction is alone in its tree. -/
theorem jurisdiction_proof : ∃ proof, IssuerState.new.jurisdictionTree.proof 0 = .ok proof ∧
    proof.path = (fun _ => 0) ∧ proof.pathIndices = fun _ => 0 := by
  have leaves : IssuerState.new.jurisdictionTree.leaves =
      [Crypto.poseidon2Hash [JURISDICTION_ID]] := rfl
  refine ⟨_, if_neg (by rw [leaves]; exact Nat.not_succ_le_zero 0), ?_⟩
  simp only [leaves, Crypto.nextLevel_iterate_singleton, Nat.zero_shiftRight]
  exact ⟨rfl, rfl⟩

/-- The root goes unchanged from the response to the inputs. -/
theorem proveHighLevel_jurisdictionRoot {poseidon2Hash : List Bytes32 → Bytes32}
    {issuer : IssuerResponses} {wallet : Text} {context : TransferContext} {dateNow : Nat}
    {inputs : ProofInputs}
    (assembled : proveHighLevel poseidon2Hash issuer wallet context dateNow = .ok inputs) :
    inputs.jurisdictionRoot = issuer.jurisdictionRoot := by
  simp only [proveHighLevel, Checks.bind_eq_ok, Checks.pure_eq_ok] at assembled
  obtain ⟨nullifier, -, rfl⟩ := assembled
  rfl

theorem issuerResponses_jurisdictionRoot {st : IssuerState} {auth : WalletAuth}
    {responses : IssuerResponses} (answered : issuerResponses st auth = .ok responses) :
    responses.jurisdictionRoot = (getRoots st).jurisdictionRoot := by
  rw [issuerResponses] at answered
  generalize getRoots st = roots at *
  generalize getProof st auth = membership at answered
  generalize getSanctionsProof st auth = sanctions at answered
  generalize getCredential st auth = credential at answered
  simp only [Checks.bind_eq_ok, Checks.pure_eq_ok] at answered
  obtain ⟨membership, -, sanctions, -, credential, -, rfl⟩ := answered
  rfl

/-- One string that is no field element is enough. -/
theorem ProofInputs.read_none {inputs : ProofInputs}
    (rejected : fieldInput inputs.jurisdictionRoot = none) : inputs.read = none := by
  simp only [ProofInputs.read, rejected, Option.bind_eq_bind, Option.bind_none,
    Option.bind_fun_none]

theorem not_proves {st : IssuerState} {records : List CredentialRecord}
    (represents : Represents st records) (poseidon2Hash : List Bytes32 → Bytes32)
    (auth : WalletAuth) (context : TransferContext) (dateNow : Nat) :
    ¬ Proves poseidon2Hash st auth context dateNow := by
  rintro ⟨responses, inputs, x, w, answered, assembled, read, -⟩
  have rejected : fieldInput inputs.jurisdictionRoot = none := by
    rw [proveHighLevel_jurisdictionRoot assembled, issuerResponses_jurisdictionRoot answered,
      getRoots_jurisdictionRoot represents]
  rw [ProofInputs.read_none rejected] at read
  cases read

/-- In no reachable state, for no wallet and no transfer, do the inputs that are assembled
prove anything. -/
theorem proveHighLevel_never_proves (issuerFault updaterFault : Bool) (clock : Clock)
    (chain : Program.State World) (actions : List (Action World))
    (poseidon2Hash : List Bytes32 → Bytes32) (auth : WalletAuth) (context : TransferContext)
    (dateNow : Nat) :
    ¬ Proves poseidon2Hash
      (run env config (System.start env config issuerFault updaterFault clock chain)
        actions).issuer auth context dateNow := by
  obtain ⟨records, represents⟩ :=
    run_represents env config issuerFault updaterFault clock chain actions
  exact not_proves represents poseidon2Hash auth context dateNow

namespace Sample

/-- A transfer on the first day, with the path of the one jurisdiction. -/
def allowed : TransferContext where
  mint := .ofNat 2
  recipient := .ofNat 3
  amount := 50
  epoch := none
  privateKey := ['1']
  credentialExpiry := ['9']
  jurisdictionPath := (encodePath fun _ => 0).map prefixed
  jurisdictionPathIndices := (List.ofFn fun _ : Fin MERKLE_DEPTH => (0 : UInt8)).map UInt8.toNat

theorem mayProve {st : IssuerState} {records : List CredentialRecord}
    (represents : Represents st records) (auth : WalletAuth) (live : st.Live auth.walletBytes) :
    MayProve st auth allowed 0 where
  live := live
  unsanctioned := by
    rw [represents.sanctions]
    generalize keyBits _ = bits
    exact AList.lookup_empty bits
  jurisdictionPath := by
    obtain ⟨proof, given, zeros, left⟩ := jurisdiction_proof
    refine ⟨proof, by rw [represents.jurisdiction, given], ?_⟩
    have read : merkleInput ((encodePath fun _ => 0).map prefixed)
        ((List.ofFn fun _ : Fin MERKLE_DEPTH => (0 : UInt8)).map UInt8.toNat) =
          some (circuitPath (fun _ => 0) (fun _ => 0)) :=
      merkleInput_served (fun _ => fieldInput_prefixed 0) fun _ => by decide
    rw [zeros, left, allowed]
    exact read
  privateKey := by decide +kernel
  unexpired := ⟨9, by decide +kernel, Nat.zero_le _⟩

end Sample

/-- The first wallet with a credential cannot prove. -/
theorem not_proveHighLevel_proves : ¬ ∀ (Proof Address World : Type)
    (env : External Proof Address World) (config : Config) (issuerFault updaterFault : Bool)
    (clock : Clock) (chain : Program.State World) (actions : List (Action World))
    (s : System World) (poseidon2Hash : List Bytes32 → Bytes32) (auth : WalletAuth)
    (context : TransferContext) (dateNow : Nat),
      run env config (System.start env config issuerFault updaterFault clock chain) actions = s →
      MayProve s.issuer auth context dateNow →
      Proves poseidon2Hash s.issuer auth context dateNow := by
  intro always
  obtain ⟨s, ends, represents⟩ := Service.Sample.run_one
  have live : s.issuer.Live Service.Sample.authOne.walletBytes :=
    represents.live_iff.mpr ⟨_, List.mem_singleton_self _, rfl, rfl⟩
  have proves := always _ _ _ Program.reference (Service.Sample.service none) false false
    (Service.Sample.clock 0) (Program.State.deployed []) [.request false Service.Sample.issue] s
    (fun _ => .zero) Service.Sample.authOne Sample.allowed 0 (ends [])
    (Sample.mayProve represents _ live)
  exact not_proves represents _ _ _ _ proves

end ZkSettle.Sdk
