import Mathlib.Data.List.Nodup
import ZkSettle.Service.Coherence

/-!
# Served membership paths

A live credential is served a path from its leaf, in hexadecimal, with the root of the
tree. The circuit accepts it while the leaf lies within the depth of the tree. Nothing
stops the service from adding more leaves; the paths of these lead to the root of their
own block, which is another one.
-/
namespace ZkSettle.Service

open Crypto Program Numerals

variable {Proof Address World : Type} {env : External Proof Address World} {config : Config}

/-! ## Paths that are accepted -/

/-- The path, read back, leads from the leaf to the served root, in this crate and in the
circuit. -/
def MembershipProofResponse.Accepted (response : MembershipProofResponse) (leaf : Fr) : Prop :=
  ∃ proof root, decodePath response.path response.pathIndices = some proof ∧
    decodeFr response.root = some root ∧ verifyMerkleProof leaf proof root = true ∧
    Circuit.verifyMerklePath noirPermutation leaf (circuitPath proof.path proof.pathIndices) root

/-- What is served is read back, and the two checks agree on it. -/
theorem accepted_iff (wallet : String) (leafIndex : Nat) (proof : MerkleProof) (root leaf : Fr) :
    MembershipProofResponse.Accepted
        { wallet
          leafIndex
          path := encodePath proof.path
          pathIndices := List.ofFn proof.pathIndices
          root := encodeFr root } leaf ↔ verifyMerkleProof leaf proof root = true := by
  constructor
  · rintro ⟨_, _, path, end_, accepted, -⟩
    simp only at path end_
    rw [decodePath_encodePath] at path
    rw [decodeFr_encodeFr] at end_
    cases path
    cases end_
    exact accepted
  · intro accepted
    refine ⟨proof, root, ?_, ?_, accepted, verifyMerkleProof_iff.mp accepted⟩
    · simp only [decodePath_encodePath]
    · simp only [decodeFr_encodeFr]

theorem Represents.getProof_served {st : IssuerState} {records : List CredentialRecord}
    (represents : Represents st records) (auth : WalletAuth) {record : CredentialRecord}
    (known : st.credentials.lookup auth.walletBytes = some record)
    (live : record.revoked = false) :
    ∃ response, getProof st auth = .ok response ∧
      (response.Accepted (walletLeaf (bytesBeToFr auth.walletBytes)) ↔
        (st.membershipTree.blockOf record.leafIndex).root = st.membershipTree.root) := by
  obtain ⟨leaf, owner⟩ := represents.leaf_of_lookup known
  have inside := (List.getElem?_eq_some_iff.mp leaf).1
  obtain ⟨proof, proved, folded⟩ := MerkleTree.proof_fold inside
  rw [List.getD_eq_getElem?_getD, leaf, Option.getD_some, leaf_live live, owner] at folded
  have served : getProof st auth = .ok
      { wallet := auth.walletHex
        leafIndex := record.leafIndex
        path := encodePath proof.path
        pathIndices := List.ofFn proof.pathIndices
        root := encodeFr st.membershipTree.root } := by
    simp only [getProof, known, live, proved, Bool.false_eq_true, if_false]
  refine ⟨_, served, ?_⟩
  rw [accepted_iff, verifyMerkleProof, beq_iff_eq, folded]

/-- A served path is accepted if and only if the leaf lies within the depth of the tree, or
its block has the root of the first one. -/
theorem getProof_accepted_iff (issuerFault updaterFault : Bool) (clock : Clock)
    (chain : State World) (actions : List (Action World)) {s : System World}
    (ends : run env config (System.start env config issuerFault updaterFault clock chain) actions =
      s) (auth : WalletAuth) {record : CredentialRecord}
    (known : s.issuer.credentials.lookup auth.walletBytes = some record)
    (live : record.revoked = false) :
    ∃ response, getProof s.issuer auth = .ok response ∧
      (response.Accepted (walletLeaf (bytesBeToFr auth.walletBytes)) ↔
        record.leafIndex < 2 ^ MERKLE_DEPTH ∨
          (s.issuer.membershipTree.blockOf record.leafIndex).root =
            (s.issuer.membershipTree.blockOf 0).root) := by
  obtain ⟨records, represents⟩ :=
    run_represents env config issuerFault updaterFault clock chain actions
  rw [ends] at represents
  obtain ⟨response, served, accepted⟩ := represents.getProof_served auth known live
  -- the path climbs to the root of its own block, the root served is that of the first one
  have leaf := (represents.leaf_of_lookup known).1
  have nonempty : s.issuer.membershipTree.leaves ≠ [] := by
    intro empty
    rw [empty] at leaf
    cases leaf
  refine ⟨response, served, ?_⟩
  rw [accepted, MerkleTree.root_blockOf_zero nonempty]
  constructor
  · exact Or.inr
  · rintro (within | same)
    · rw [MerkleTree.blockOf_of_lt within, MerkleTree.root_blockOf_zero nonempty]
    · exact same

/-! ## Wallets as text -/

/-- The hexadecimal digits of a wallet. -/
def walletText (wallet : Bytes32) : String := String.ofList (hex wallet.bytes)

theorem hexVal_ok {c v : UInt8} (valid : hexVal c 0 = .ok v) (index : Nat) :
    hexVal c index = .ok v := by
  unfold hexVal at *
  split_ifs at * <;> simp_all

/-- A digit is one byte, which is read as the digit and is no letter `x`. -/
theorem digit_byte {digit : Nat} (below : digit < 16) :
    String.utf8EncodeChar digit.digitChar = [digit.digitChar.toUInt8] ∧
      digit.digitChar.toUInt8 ≠ 120 ∧
      hexVal digit.digitChar.toUInt8 0 = .ok (.ofNat digit) := by
  have each : ∀ digit < 16, String.utf8EncodeChar digit.digitChar = [digit.digitChar.toUInt8] ∧
      digit.digitChar.toUInt8 ≠ 120 ∧
      hexVal digit.digitChar.toUInt8 0 = .ok (.ofNat digit) := by decide
  exact each digit below

/-- The bytes of the two digits of a byte. -/
def digitBytes (byte : UInt8) : List UInt8 :=
  [(byte.toNat / 16).digitChar.toUInt8, (byte.toNat % 16).digitChar.toUInt8]

theorem utf8_hexByte (byte : UInt8) :
    (hexByte byte).flatMap String.utf8EncodeChar = digitBytes byte := by
  have bound := byte.toNat_lt
  rw [hexByte_digits]
  simp [digitBytes, (digit_byte (show byte.toNat / 16 < 16 by omega)).1,
    (digit_byte (show byte.toNat % 16 < 16 by omega)).1]

theorem decodePairs_digits (index : Nat) (bytes : List UInt8) :
    decodePairs index (bytes.flatMap digitBytes) = .ok bytes := by
  induction bytes generalizing index with
  | nil => rfl
  | cons byte rest ih =>
    have bound := byte.toNat_lt
    have high := (digit_byte (show byte.toNat / 16 < 16 by omega)).2.2
    have low := (digit_byte (show byte.toNat % 16 < 16 by omega)).2.2
    have value : UInt8.ofNat (byte.toNat / 16) * 16 + UInt8.ofNat (byte.toNat % 16) = byte := by
      apply UInt8.toNat_inj.mp
      have sixteen : (16 : UInt8).toNat = 16 := rfl
      simp only [UInt8.toNat_add, UInt8.toNat_mul, UInt8.toNat_ofNat', sixteen]
      omega
    simp only [List.flatMap_cons, digitBytes, List.cons_append, List.nil_append, decodePairs,
      hexVal_ok high, hexVal_ok low]
    rw [ih (index + 2)]
    exact congrArg (fun first => Except.ok (first :: rest)) value

theorem utf8_walletText (wallet : Bytes32) :
    (walletText wallet).toUTF8.data.toList = wallet.bytes.flatMap digitBytes := by
  rw [walletText, String.toUTF8_eq_toByteArray, String.toByteArray_ofList, List.utf8Encode,
    List.data_toByteArray, List.toList_toArray, hex, List.flatMap_assoc]
  exact congrArg (wallet.bytes.flatMap ·) (funext utf8_hexByte)

/-- The second digit is no letter `x`, so that nothing is stripped. -/
theorem strip0x_digits (bytes : List UInt8) :
    strip0x (bytes.flatMap digitBytes) = bytes.flatMap digitBytes := by
  cases bytes with
  | nil => rfl
  | cons byte rest =>
    have digit := (digit_byte (show byte.toNat % 16 < 16 by omega)).2.1
    simp only [List.flatMap_cons, digitBytes, List.cons_append, List.nil_append]
    rw [strip0x]
    intro tail same
    exact digit (List.cons.inj (List.cons.inj same).2).1

/-- Every wallet has a text that the handlers take. -/
theorem decode_walletText (wallet : Bytes32) : decodeWallet (walletText wallet) = .ok wallet := by
  have even : (wallet.bytes.flatMap digitBytes).length % 2 = 0 := by
    have each : ∀ byte, (digitBytes byte).length = 2 := fun _ => rfl
    rw [BigEndian.flatMap_length each]
    omega
  rw [decodeWallet, utf8_walletText, strip0x_digits, hexDecode, if_neg (by omega),
    decodePairs_digits]
  simp only [wallet.length_eq, dif_pos]

theorem walletHexToBytes_walletText (wallet : Bytes32) :
    walletHexToBytes (walletText wallet) = .ok wallet := by
  rw [walletHexToBytes, decode_walletText]
  rfl

/-! ## Beyond the depth of the tree -/

namespace Sample

def requestFor (wallet : Bytes32) : IssueRequest where
  wallet := walletText wallet
  jurisdiction := "US"

theorem decode_requestFor (wallet : Bytes32) :
    walletHexToBytes (requestFor wallet).wallet = .ok wallet := walletHexToBytes_walletText wallet

/-- A credential is issued and revoked at once. -/
def churn (wallet : Bytes32) : List (Action Reference.Ledger) :=
  [.request false (.issue 0 (requestFor wallet)),
    .request false (.revoke (requestFor wallet).wallet)]

/-- The wallets from 2 on. -/
def other (i : Nat) : Bytes32 := .ofNat (i + 2)

theorem other_injective {i j : Nat} (below : i < 2 ^ 32) (below' : j < 2 ^ 32)
    (same : other i = other j) : i = j := by
  have values := congrArg Bytes32.toNat same
  rw [other, other, Bytes32.toNat_ofNat (by omega), Bytes32.toNat_ofNat (by omega)] at values
  omega

/-- The records of wallets that are all revoked. -/
structure AllRevoked (records : List CredentialRecord) (count : Nat) : Prop where
  wallets : records.map CredentialRecord.wallet = (List.range count).map other
  revoked : ∀ record ∈ records, record.revoked = true

theorem AllRevoked.length {records : List CredentialRecord} {count : Nat}
    (all : AllRevoked records count) : records.length = count := by
  have lengths := congrArg List.length all.wallets
  simpa using lengths

theorem AllRevoked.leaves {records : List CredentialRecord} {count : Nat}
    (all : AllRevoked records count) :
    records.map CredentialRecord.leaf = List.replicate count 0 := by
  rw [List.eq_replicate_iff, List.length_map]
  refine ⟨all.length, ?_⟩
  intro leaf member
  obtain ⟨record, present, rfl⟩ := List.mem_map.mp member
  rw [CredentialRecord.leaf, all.revoked record present]
  rfl

/-- The record that came last is revoked in its place. -/
theorem revoke_newRecord (records : List CredentialRecord) (wallet : Bytes32)
    (jurisdiction : String) (issuedAt : UInt64) :
    (records ++ [newRecord records wallet jurisdiction issuedAt]).set
        (newRecord records wallet jurisdiction issuedAt).leafIndex
        { newRecord records wallet jurisdiction issuedAt with revoked := true } =
      records ++ [{ newRecord records wallet jurisdiction issuedAt with revoked := true }] := by
  simp [newRecord]

/-- One more wallet comes and goes. -/
theorem AllRevoked.churn {records : List CredentialRecord} {count : Nat}
    (all : AllRevoked records count) (below : count < 2 ^ 32) {s : System Reference.Ledger}
    (represents : Represents s.issuer records) :
    ∃ s' : System Reference.Ledger, ∃ records', (∀ rest,
        run reference (service none) s (Sample.churn (other count) ++ rest) =
          run reference (service none) s' rest) ∧
      Represents s'.issuer records' ∧ AllRevoked records' (count + 1) := by
  have fresh : other count ∉ records.map CredentialRecord.wallet := by
    rw [all.wallets, List.mem_map]
    rintro ⟨i, member, same⟩
    -- the wallets before it have smaller numbers
    have earlier := List.mem_range.mp member
    exact absurd (other_injective (by omega) below same) (by omega)
  obtain ⟨between, issued, represents⟩ := run_issue reference (service none) represents 0
    (decode_requestFor (other count)) fresh
  obtain ⟨issuer, disk, -, revoked, represents⟩ := run_revoke reference (service none) represents
    (decode_requestFor (other count)) (List.mem_append_right _ (List.mem_singleton_self _)) rfl rfl
  refine ⟨{ between with issuer, disk }, _, ?_, represents, ?_⟩
  · intro rest
    rw [Sample.churn, List.cons_append, List.cons_append, List.nil_append, issued, revoked]
  · -- the new record is the last one
    rw [revoke_newRecord]
    constructor
    case wallets => rw [List.map_append, all.wallets, List.range_succ, List.map_append]; rfl
    case revoked =>
      intro record member
      rcases List.mem_append.mp member with member | member
      · exact all.revoked record member
      · rw [List.mem_singleton.mp member]

/-- Any number of wallets that come and go. -/
theorem run_churn (count : Nat) (bound : count ≤ 2 ^ 32) :
    ∃ s : System Reference.Ledger, ∃ records, (∀ rest, run reference (service none) started
        ((List.range count).flatMap (fun i => churn (other i)) ++ rest) =
          run reference (service none) s rest) ∧
      Represents s.issuer records ∧ AllRevoked records count := by
  induction count with
  | zero =>
    exact ⟨started, [], fun rest => rfl, represents_started, ⟨rfl, by simp⟩⟩
  | succ count ih =>
    obtain ⟨s, records, before, represents, all⟩ := ih (by omega)
    obtain ⟨s', records', churned, represents', all'⟩ := all.churn (by omega) represents
    refine ⟨s', records', ?_, represents', all'⟩
    intro rest
    rw [List.range_succ, List.flatMap_append, List.append_assoc, before]
    simpa using churned rest

def authOne : WalletAuth where
  walletHex := textOne
  walletBytes := one
  decoded := by decide +kernel

def authTwo : WalletAuth where
  walletHex := requestTwo.wallet
  walletBytes := two
  decoded := by decide +kernel

end Sample

section Overflow

variable {tree : MerkleTree} {leaf : Fr}

theorem blockOf_full (leaves : tree.leaves = List.replicate (2 ^ MERKLE_DEPTH) 0 ++ [leaf]) :
    tree.blockOf 0 = ⟨List.replicate (2 ^ MERKLE_DEPTH) 0⟩ := by
  rw [MerkleTree.blockOf, leaves, Merkle.block, Nat.zero_div, Nat.zero_mul, List.drop_zero,
    List.take_left' List.length_replicate]

theorem blockOf_last (leaves : tree.leaves = List.replicate (2 ^ MERKLE_DEPTH) 0 ++ [leaf]) :
    tree.blockOf (2 ^ MERKLE_DEPTH) = ⟨[leaf]⟩ := by
  rw [MerkleTree.blockOf, leaves, Merkle.block, Nat.div_self (Nat.two_pow_pos _), Nat.one_mul,
    List.drop_left' List.length_replicate, List.take_of_length_le (Nat.one_le_two_pow)]

end Overflow

/-- The path of the second of two credentials. -/
theorem getProof_accepted_second : ∃ (s : System Reference.Ledger)
    (response : MembershipProofResponse),
    run reference (Sample.service none) Sample.started
        [.request false Sample.issue, .request false (.issue 0 Sample.requestTwo)] = s ∧
      getProof s.issuer Sample.authTwo = .ok response ∧
      response.Accepted (walletLeaf (bytesBeToFr Sample.two)) := by
  obtain ⟨s, first, represents⟩ := Sample.run_one
  obtain ⟨s', second, represents⟩ := run_issue reference (Sample.service none) represents 0
    Sample.decode_two (by decide)
  have ends := (first _).trans (second [])
  have known : s'.issuer.credentials.lookup Sample.authTwo.walletBytes =
      some (newRecord [newRecord [] Sample.one "US" 0] Sample.two "US" 0) :=
    (represents.lookup _ _).mpr ⟨List.mem_append_right _ (List.mem_singleton_self _), rfl⟩
  obtain ⟨response, served, accepted⟩ := getProof_accepted_iff false false (Sample.clock 0)
    (State.deployed []) _ ends Sample.authTwo known rfl
  exact ⟨s', response, ends, served, accepted.mpr (Or.inl (by decide))⟩

/-- Behind 2 ^ 20 leaves of revoked wallets, the path of a new credential leads to the root
of a tree with one leaf, and the root that is served is that of the empty tree. -/
theorem not_getProof_accepted : ¬ ∀ (Proof Address World : Type)
    (env : External Proof Address World) (config : Config) (issuerFault updaterFault : Bool)
    (clock : Clock) (chain : State World) (actions : List (Action World)) (s : System World)
    (auth : WalletAuth) (record : CredentialRecord),
      run env config (System.start env config issuerFault updaterFault clock chain) actions = s →
      s.issuer.credentials.lookup auth.walletBytes = some record → record.revoked = false →
      ∃ response, getProof s.issuer auth = .ok response ∧
        response.Accepted (walletLeaf (bytesBeToFr auth.walletBytes)) := by
  intro always
  obtain ⟨s, records, full, represents, all⟩ := Sample.run_churn (2 ^ MERKLE_DEPTH) (by decide)
  have fresh : Sample.one ∉ records.map CredentialRecord.wallet := by
    rw [all.wallets, List.mem_map]
    rintro ⟨i, member, same⟩
    have below : i < 2 ^ 20 := List.mem_range.mp member
    have value := congrArg Bytes32.toNat same
    rw [Sample.other, Sample.one, Bytes32.toNat_ofNat (by omega),
      Bytes32.toNat_ofNat (by decide)] at value
    omega
  obtain ⟨s', issued, represents'⟩ := run_issue reference (Sample.service none) represents 0
    (Sample.decode_requestFor Sample.one) fresh
  have known : s'.issuer.credentials.lookup Sample.authOne.walletBytes =
      some (newRecord records Sample.one "US" 0) :=
    (represents'.lookup _ _).mpr ⟨List.mem_append_right _ (List.mem_singleton_self _), rfl⟩
  obtain ⟨response, served, accepted⟩ := always _ _ _ reference (Sample.service none) false false
    (Sample.clock 0) (State.deployed []) _ s' Sample.authOne _ ((full _).trans (issued [])) known
    rfl
  obtain ⟨response', served', iff⟩ := represents'.getProof_served Sample.authOne known rfl
  cases served.symm.trans served'
  have roots := iff.mp accepted
  have leaf : (newRecord records Sample.one "US" 0).leaf = poseidon2Hash [1] := by
    rw [leaf_live rfl, newRecord, Sample.fr_one, walletLeaf]
  have leaves : s'.issuer.membershipTree.leaves =
      List.replicate (2 ^ MERKLE_DEPTH) 0 ++ [poseidon2Hash [1]] := by
    rw [represents'.leaves, List.map_append, all.leaves, ← leaf]
    rfl
  have nonempty : s'.issuer.membershipTree.leaves ≠ [] := by simp [leaves]
  -- the new leaf is alone in the second block
  rw [← MerkleTree.root_blockOf_zero nonempty, newRecord, all.length, blockOf_last leaves,
    blockOf_full leaves, MerkleTree.root_zeros, MerkleTree.root_new, MerkleTree.root_one] at roots
  exact absurd roots (by decide)

end ZkSettle.Service
