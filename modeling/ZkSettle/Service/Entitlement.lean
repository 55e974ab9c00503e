import ZkSettle.Crypto.Openings
import ZkSettle.Service.Attempts
import ZkSettle.Service.Fetch
import ZkSettle.Service.Provenance

/-!
# Who settles

From a settlement on the chain back to the records of the issuer. The program has verified
a proof under the roots of the issuer account, the verifier stands for the circuit, and the
roots are those of trees that the services have had. So the prover is a live member of one
of them and not among the sanctioned wallets, or the inputs that were hashed hold a collision.
-/
namespace ZkSettle.Service

open Crypto Program Checks Transactional

variable {Proof Address World : Type}

/-! ## The circuit behind the verifier -/

/-- The public inputs of the circuit, by the entries of the witness. -/
def publicInputs (entries : Fin NR_INPUTS → Bytes32) : Circuit.PublicInputs where
  merkleRoot := bytesBeToFr (entries MERKLE_ROOT_IDX)
  nullifier := bytesBeToFr (entries NULLIFIER_IDX)
  mintLo := bytesBeToFr (entries MINT_LO_IDX)
  mintHi := bytesBeToFr (entries MINT_HI_IDX)
  epoch := bytesBeToFr (entries EPOCH_IDX)
  recipientLo := bytesBeToFr (entries RECIPIENT_LO_IDX)
  recipientHi := bytesBeToFr (entries RECIPIENT_HI_IDX)
  amount := bytesBeToFr (entries AMOUNT_IDX)
  sanctionsRoot := bytesBeToFr (entries SANCTIONS_ROOT_IDX)
  jurisdictionRoot := bytesBeToFr (entries JURISDICTION_ROOT_IDX)
  timestamp := bytesBeToFr (entries TIMESTAMP_IDX)

/-- The path of a value passes under the root of a tree, and still the leaf is not at its
place: the leaf is zero, or the tree and the path hold a collision or a pair that hashes to
zero. -/
def Forged (tree : MerkleTree) (path : Circuit.MerklePath) (value : Fr) : Prop :=
  poseidon2Hash [value] = 0 ∨ tree.filled.Broken (pathProof path) (poseidon2Hash [value])

theorem bytesBeToFr_frToBytesBe (f : Fr) : bytesBeToFr (frToBytesBe f) = f := by
  have below : f.val < 2 ^ 256 := lt_trans (ZMod.val_lt f) (by decide)
  rw [bytesBeToFr, frToBytesBe, Bytes32.toNat_ofNat below, ZMod.natCast_zmod_val]

/-- A timestamp of the program is a field element below the order of the field. -/
theorem asU64_timestamp (timestamp : UInt64) :
    Circuit.asU64 (bytesBeToFr (u64ToFieldBytes timestamp)) = timestamp.toNat := by
  have small : timestamp.toNat < 2 ^ 64 := timestamp.toNat_lt
  have below : timestamp.toNat < Circuit.BN254_ORDER := lt_trans small (by decide)
  rw [u64ToFieldBytes_eq, bytesBeToFr, Bytes32.toNat_ofNat (lt_trans small (by decide)),
    Circuit.asU64, ZMod.val_natCast_of_lt below, Nat.mod_eq_of_lt small]

/-! ## Settlements are backed -/

variable {env : External Proof Address World} {config : Config}

/-- The roots of an event have a provenance, and a proof was verified with what it says. -/
structure Backed (env : External Proof Address World) (held : IssuerState → Prop)
    (fetched : List String → Prop) (event : ProofSettled) : Prop where
  provenance : Provenance held fetched
    { merkle := event.merkleRoot
      sanctions := event.sanctionsRoot
      jurisdiction := event.jurisdictionRoot }
  verified : ∃ proof witness, witness.entries = event.bindings.entries ∧
    env.verify proof witness = true

/-- Every settlement with the roots of the issuer account is backed. -/
structure AllBacked (env : External Proof Address World) (config : Config)
    (held : IssuerState → Prop) (fetched : List String → Prop) (s : System World) : Prop where
  payloads : FinalizedPayloadsValid s.chain
  settled : ∀ event, Event.proofSettled event ∈ s.chain.events →
    event.issuer = issuerPda env config → Backed env held fetched event

variable {held held' : IssuerState → Prop} {fetched fetched' : List String → Prop}

theorem AllBacked.mono {s : System World} (backed : AllBacked env config held fetched s)
    (more : ∀ st, held st → held' st) (longer : ∀ wallets, fetched wallets → fetched' wallets) :
    AllBacked env config held' fetched' s where
  payloads := backed.payloads
  settled := fun event member ours =>
    { backed.settled event member ours with
      provenance := (backed.settled event member ours).provenance.mono more longer }

/-- A call that settles has read the roots of the account in the state it meets. -/
theorem backed_of_guarded {chain : State World} {clock : Clock} {bundle : List UInt8}
    {event : ProofSettled} (guarded : Guarded env chain clock bundle event)
    (ours : event.issuer = issuerPda env config)
    (account : ∀ issuer, chain.accounts (issuerPda env config) = some (.issuer issuer) →
      Provenance held fetched (rootsOf issuer)) : Backed env held fetched event := by
  obtain ⟨issuer, found, -, merkle, sanctions, jurisdiction⟩ := guarded.issuer
  obtain ⟨proof, witness, verified⟩ := guarded.verified
  constructor
  case provenance =>
    rw [merkle, sanctions, jurisdiction]
    exact account issuer (ours ▸ found)
  case verified => exact ⟨proof, witness, verified.bound, verified.accepted⟩

/-- A call of the program keeps every settlement backed. -/
theorem AllBacked.call {s s' : System World} {call : Call}
    (backed : AllBacked env config held fetched s) (traced : Traced env config held fetched s)
    (accepted : Program.step env s.chain call = .ok s'.chain) :
    AllBacked env config held fetched s' where
  payloads := step_finalizedPayloadsValid backed.payloads accepted
  settled := by
    intro event member ours
    rcases step_quiet_or_settled backed.payloads accepted with quiet | ⟨params, settled⟩
    · -- a quiet call emits no settlement
      rcases quiet.events with same | ⟨checked, -, same⟩
      · exact backed.settled event (same ▸ member) ours
      · rw [same] at member
        rcases List.mem_append.mp member with earlier | now
        · exact backed.settled event earlier ours
        · simp at now
    · obtain ⟨settlement, -, -, -, -, guarded⟩ := settled.settlement
      obtain ⟨s₁, core, events, -⟩ := settled.core
      rw [events, settleCore_events core] at member
      rcases List.mem_append.mp member with earlier | now
      · exact backed.settled event earlier ours
      · rw [List.mem_singleton, Event.proofSettled.injEq] at now
        exact now ▸ backed_of_guarded guarded (now ▸ ours) traced.account

theorem after_inserts (wallets : List Fr) :
    SparseMerkleTree.after (wallets.map .insert) =
      wallets.foldl SparseMerkleTree.insert .new := by
  rw [SparseMerkleTree.after, List.foldl_map]
  rfl

/-- The list behind a sanctions root with a provenance. -/
theorem Provenance.sanctioned {roots : Roots} (provenance : Provenance held fetched roots) :
    ∃ sanctioned : List Fr, (sanctioned = [] ∨ ∃ wallets, fetched wallets ∧
        wallets.map Updater.walletToFr = sanctioned.map .ok) ∧
      roots.sanctions = frToBytesBe (SparseMerkleTree.after (sanctioned.map .insert)).root := by
  rcases provenance.sanctions with empty | ⟨wallets, tree, had, built⟩
  · exact ⟨[], Or.inl rfl, empty⟩
  · obtain ⟨sanctioned, read, same⟩ := Updater.buildSanctionsTree_eq_ok.mp built
    rw [Prod.mk.injEq] at same
    exact ⟨sanctioned, Or.inr ⟨wallets, had, read⟩, by rw [after_inserts, same.2]⟩

namespace Sample

def mint : Pubkey := .ofNat 2
def recipient : Pubkey := .ofNat 3

/-- A path with nothing beside it. -/
def alone : Circuit.MerklePath := circuitPath (fun _ => 0) (fun _ => 0)

/-- The private key of the first member. -/
def key : Fr := bytesBeToFr (.ofNat 7)

/-- The tree of the list that the updater fetches. -/
def sanctionsTree : SparseMerkleTree := SparseMerkleTree.new.insert 57005

/-- What the first member knows. -/
def known : Circuit.PrivateInputs where
  wallet := 1
  membership := alone
  privateKey := key
  sanctions := circuitPath (sanctionsTree.siblingPath (walletKey 1))
    (fun i => ((walletKey 1).getD i false).toUInt8)
  sanctionsLeafValue := 0
  jurisdiction := 1
  jurisdictionMembership := alone
  credentialExpiry := bytesBeToFr (u64ToFieldBytes 172800)

/-- The roots that the service publishes, with an empty list. -/
def publishedRoots : Roots := (issued false).rootsAsBytes

/-- The roots once the list has landed. -/
def listedRoots : Roots := { publishedRoots with sanctions := frToBytesBe sanctionsTree.root }

/-- The transfer, with the nullifier still open. -/
def transfer (nullifierHash : Bytes32) : BindingInputs where
  merkleRoot := listedRoots.merkle
  nullifierHash
  mint
  epoch := 1
  recipient
  amount := 50
  sanctionsRoot := listedRoots.sanctions
  jurisdictionRoot := listedRoots.jurisdiction
  timestamp := 86400

def nullifier : Fr := poseidon2Hash (key :: (publicInputs (transfer .zero).entries).transferContext)

def bindings : BindingInputs := transfer (frToBytesBe nullifier)

def witnessBytes : List UInt8 :=
  List.replicate GNARK_WITNESS_HEADER_LEN 0 ++ (List.ofFn bindings.entries).flatMap Bytes32.bytes

/-- A verifier that runs the circuit on what the first member knows. -/
def runsCircuit (witness : GnarkWitness) : Bool :=
  decide (Circuit.Main noirPermutation (publicInputs witness.entries) known)

/-- Programs outside whose verifier runs the circuit, and whose addresses single out the
account of the authority. -/
def transparent : External (List UInt8) Reference.Derived Reference.Ledger :=
  { reference with
    findProgramAddress := fun seeds _ =>
      if seeds = [ISSUER_SEED, (service none).authority.bytes] then .ofNat 1
      else .ofNat (2 + seeds.flatten.length)
    gnarkWitnessFromBytes := fun bytes =>
      if bytes = witnessBytes then some ⟨bindings.entries⟩ else none
    verify := fun _ witness => runsCircuit witness }

/-- The one leaf of a tree, along the path of zeros. -/
theorem verifyMerklePath_alone (leaf : Fr) :
    Circuit.verifyMerklePath noirPermutation leaf alone (MerkleTree.root ⟨[leaf]⟩) := by
  rw [Circuit.verifyMerklePath, alone, circuitPath_root, MerkleTree.root_singleton]
  simp [foldProof, List.foldl_const]

theorem known_excluded :
    Circuit.SanctionsCheck noirPermutation 1 known.sanctions 0 sanctionsTree.root := by
  have apart : walletKey 1 ≠ walletKey 57005 := by decide +kernel
  have absent : sanctionsTree.leaves.lookup (walletKey 1) = none := by
    rw [sanctionsTree, SparseMerkleTree.insert, ← walletKey, AList.lookup_insert_ne apart]
    generalize walletKey 1 = bits
    exact AList.lookup_empty bits
  have excluded : sanctionsTree.exclusionProof 1 = .ok
      { path := sanctionsTree.siblingPath (walletKey 1)
        pathIndices := fun i => ((walletKey 1).getD i false).toUInt8
        leafValue := 0 } := by
    rw [walletKey] at absent ⊢
    simp [SparseMerkleTree.exclusionProof, absent]
  exact (sanctionsCheck_iff (SparseMerkleTree.exclusionProof_bit excluded)).mpr
    (verifySmtExclusion_exclusionProof excluded)

/-- The transfer that the nullifier is bound to does not depend on the nullifier. -/
theorem transferContext_transfer (n n' : Bytes32) :
    (publicInputs (transfer n).entries).transferContext =
      (publicInputs (transfer n').entries).transferContext := rfl

theorem nullifier_eq :
    poseidon2Hash (known.privateKey :: (publicInputs bindings.entries).transferContext) =
      nullifier := by
  have mine : known.privateKey = key := rfl
  rw [nullifier, bindings, transferContext_transfer _ .zero, mine]

/-- The first member satisfies the circuit. -/
theorem known_satisfies :
    Circuit.Main noirPermutation (publicInputs bindings.entries) known where
  membership := by
    have root : (publicInputs bindings.entries).merkleRoot =
        MerkleTree.root ⟨[poseidon2Hash [1]]⟩ := bytesBeToFr_frToBytesBe _
    rw [root, poseidon2Hash_noir]
    exact verifyMerklePath_alone _
  nullifier := by
    rw [poseidon2Hash_noir, nullifier_eq]
    exact (bytesBeToFr_frToBytesBe _).symm
  sanctionsIndices := known_excluded.indices
  sanctionsLeaf := rfl
  sanctionsPath := by
    have root : (publicInputs bindings.entries).sanctionsRoot = sanctionsTree.root :=
      bytesBeToFr_frToBytesBe _
    rw [root]
    exact known_excluded.path
  jurisdiction := by
    have root : (publicInputs bindings.entries).jurisdictionRoot =
        MerkleTree.root ⟨[poseidon2Hash [1]]⟩ := bytesBeToFr_frToBytesBe _
    rw [root, poseidon2Hash_noir]
    exact verifyMerklePath_alone _
  expiry := by
    have timestamp : Circuit.asU64 (publicInputs bindings.entries).timestamp = 86400 :=
      asU64_timestamp 86400
    have expiry : Circuit.asU64 known.credentialExpiry = 172800 := asU64_timestamp 172800
    rw [timestamp, expiry]
    decide

def proofAndWitness : List UInt8 := [1] ++ witnessBytes

theorem bindings_verified :
    verifyBundle transparent proofAndWitness bindings = .ok () := by
  have length : witnessBytes.length = expectedWitnessLen NR_INPUTS := by
    simp only [witnessBytes, List.length_append, List.length_replicate, List.length_flatMap,
      Bytes32.length_eq, List.map_const', List.length_ofFn, List.sum_replicate]
    rfl
  apply (verifyBundle_eq_ok transparent).mpr
  refine ⟨[1], ⟨bindings.entries⟩, ⟨[1], witnessBytes, rfl, length, List.cons_ne_nil _ _, rfl, ?_⟩,
    rfl, ?_⟩
  · simp only [transparent, if_true]
  · simp only [transparent, runsCircuit, decide_eq_true_eq]
    exact known_satisfies

/-- The chain with the account of the service and nothing else. -/
def holding (roots : Roots) : State Reference.Ledger :=
  (State.deployed []).setAccount (issuerPda transparent (service none))
    (some (.issuer (issuerOf (service none) roots (clock 0))))

def merkleTree : AccountInfo where
  key := .ofNat 6
  owner := .ofNat 1001
  data := List.replicate 31800 0

def attestationTree : InitAttestationTree where
  authority := .zero
  issuer := issuerPda transparent (service none)
  registry := transparent.registryAddress
  merkleTree := merkleTree
  treeConfig := transparent.treeConfigPda merkleTree.key
  treeCreator := transparent.treeCreatorAddress
  bubblegumProgram := MPL_BUBBLEGUM_ID
  compressionProgram := .ofNat 1001
  logWrapper := NOOP_PROGRAM_ID

def ready (roots : Roots) : State Reference.Ledger :=
  (holding roots).setAccount transparent.registryAddress
    (some (.registry { merkleTree := .ofNat 6 }))

def accounts : VerifyProof where
  payer := .ofNat 4
  issuer := issuerPda transparent (service none)
  registry := transparent.registryAddress
  leafOwner := recipient
  merkleTree := merkleTree
  treeConfig := transparent.treeConfigPda merkleTree.key
  treeCreator := transparent.treeCreatorAddress
  bubblegumProgram := MPL_BUBBLEGUM_ID
  compressionProgram := .ofNat 1001
  logWrapper := NOOP_PROGRAM_ID
  systemProgram := .zero

def args : VerifyProofArgs where
  proofAndWitness := proofAndWitness
  nullifierHash := bindings.nullifierHash
  mint := mint
  epoch := 1
  recipient := recipient
  amount := 50
  validityProof := none
  addressTreeInfo :=
    { addressMerkleTreePubkeyIndex := 0, addressQueuePubkeyIndex := 0, rootIndex := 0 }
  outputStateTreeIndex := 0

def later : Clock where
  slot := 10
  unixTimestamp := 86400

def addressTree : AccountInfo where
  key := .ofNat 20
  owner := .ofNat 1002
  data := []

theorem nullifier_nonzero : bindings.nullifierHash ≠ .zero := by
  have nonzero : nullifier ≠ 0 := by decide +kernel
  exact mt frToBytesBe_eq_zero.mp nonzero

theorem load_ready (roots : Roots) : accounts.load transparent (ready roots) later =
    .ok (issuerOf (service none) roots (clock 0)) := rfl

/-- The transfer of the first member settles. -/
theorem step_settles : ∃ s', Program.step transparent (ready listedRoots)
    (.verifyProof later accounts args [addressTree]) = .ok s' ∧
    ∃ event, s'.events = [.proofSettled event] ∧
      event.issuer = issuerPda transparent (service none) ∧
      event.sanctionsRoot = listedRoots.sanctions := by
  have timestamp : epochTimestamp args.epoch = .ok 86400 := by decide
  have verified : verifyBundle transparent args.proofAndWitness
      (args.bindings (issuerOf (service none) listedRoots (clock 0)) 86400) = .ok () :=
    bindings_verified
  obtain ⟨s', settled, event, events, shown⟩ : ∃ s', settleCore transparent (ready listedRoots)
      (args.params accounts (issuerOf (service none) listedRoots (clock 0)) later 86400
        [addressTree]) = .ok s' ∧ ∃ event, s'.events = [.proofSettled event] ∧
          event.issuer = issuerPda transparent (service none) ∧
          event.sanctionsRoot = listedRoots.sanctions := by
    refine ⟨_, (settleCore_eq_ok transparent).mpr ⟨addressTree.key, _, rfl, ?_, rfl, rfl⟩, _, rfl,
      rfl, rfl⟩
    intro account _
    rfl
  have epoch : validateEpoch later.unixTimestamp args.epoch = .ok () := by decide
  refine ⟨s', ?_, event, events, shown⟩
  simp only [Program.step, handler, bind_eq_ok, require_eq_ok, exists_const]
  exact ⟨_, load_ready listedRoots, nullifier_nonzero, by decide, rfl, (), epoch, 86400, timestamp,
    (), verified, s', settled, rfl⟩

/-- Issue and publish, fetch the list and land its root, set up, settle. -/
def moves : List (Move Reference.Ledger) :=
  [.service (.request false issue), .service .beginPublish, .service (.land .issuer),
    .service (.restartUpdater false), .service (.beginTick (.ok [Updater.Sample.dead]) false),
    .service (.land .updater), .call (.initAttestationTree attestationTree),
    .call (.verifyProof later accounts args [addressTree])]

/-- What the updater sends: the roots that it has read, with its own between them. -/
def update : Transaction where
  register := false
  roots := listedRoots

/-- The issuer with one member; the updater finds its account after a while. -/
def member (chain : State Reference.Ledger) (publication tick : Option Flight)
    (updaterRegistered : Bool) : System Reference.Ledger where
  clock := clock 0
  chain
  issuer := issued false
  disk := none
  publication
  updaterRegistered
  tick
  late := []

end Sample

end ZkSettle.Service
