import Mathlib.Data.List.OfFn
import ZkSettle.Crypto.Proofs
import ZkSettle.Library.Numerals
import ZkSettle.Service.Records

/-!
# The requests that only read

The proofs and roots that the issuer service serves, with field elements as hexadecimal
digits without a prefix. Each handler runs under one read lock, so that it answers from one
state. A text is a list of characters.
-/
namespace ZkSettle.Service

open Crypto Numerals
open ZkSettle.Program (Bytes32)

/-! ## Field elements as text -/

/-- `hex::encode(fr_to_bytes_be(f))` -/
def encodeFr (f : Fr) : List Char := hex (frToBytesBe f).bytes

/-- The field element that the digits denote, read as `bytes_be_to_fr` does. -/
def decodeFr (text : List Char) : Option Fr := (parse 16 text).map (Nat.cast : Nat → Fr)

theorem Bytes32.bytes_ne_nil (b : Bytes32) : b.bytes ≠ [] := by
  intro empty
  have length := b.length_eq
  rw [empty] at length
  cases length

@[simp] theorem decodeFr_encodeFr (f : Fr) : decodeFr (encodeFr f) = some f := by
  have below : f.val < 2 ^ 256 := lt_trans (ZMod.val_lt f) (by decide)
  have value : BigEndian.value (frToBytesBe f).bytes = f.val := Bytes32.toNat_ofNat below
  rw [decodeFr, encodeFr, parse_hex (Bytes32.bytes_ne_nil _), value, Option.map_some,
    ZMod.natCast_zmod_val]

/-- A path as it is served. -/
def encodePath (path : Fin MERKLE_DEPTH → Fr) : List (List Char) :=
  (List.ofFn path).map encodeFr

/-- A served path, which has one sibling and one index for each level. -/
def decodePath (path : List (List Char)) (pathIndices : List UInt8) : Option MerkleProof := do
  let path ← path.mapM decodeFr
  if path.length = MERKLE_DEPTH ∧ pathIndices.length = MERKLE_DEPTH then
    some
      { path := fun level => path.getD level 0
        pathIndices := fun level => pathIndices.getD level 0 }
  else none

/-- What is served is read back. -/
@[simp] theorem decodePath_encodePath (path : Fin MERKLE_DEPTH → Fr)
    (pathIndices : Fin MERKLE_DEPTH → UInt8) :
    decodePath (encodePath path) (List.ofFn pathIndices) = some { path, pathIndices } := by
  rw [decodePath, encodePath, Checks.mapM_map fun f _ => decodeFr_encodeFr f]
  simp

/-! ## Handlers -/

inductive QueryError where
  | walletNotFound
  | walletRevoked
  | invalidHex (error : HexError)
  | walletIsSanctioned
  | tree (error : CryptoError)
  deriving DecidableEq, Repr

/-- `From<CryptoError>` -/
def QueryError.ofCrypto : CryptoError → QueryError
  | .walletIsSanctioned => .walletIsSanctioned
  | other => .tree other

/-- The wallet of the path, in hexadecimal and as bytes, once its signature is checked. -/
structure WalletAuth where
  walletHex : String
  walletBytes : Bytes32
  decoded : decodeWallet walletHex = .ok walletBytes

structure MembershipProofResponse where
  wallet : String
  leafIndex : Nat
  path : List (List Char)
  pathIndices : List UInt8
  root : List Char
  deriving DecidableEq, Repr

structure SanctionsProofResponse where
  wallet : String
  path : List (List Char)
  pathIndices : List UInt8
  leafValue : List Char
  root : List Char
  deriving DecidableEq, Repr

structure JurisdictionProofResponse where
  wallet : String
  jurisdictionId : Nat
  path : List (List Char)
  pathIndices : List UInt8
  root : List Char
  deriving DecidableEq, Repr

structure RootsResponse where
  membershipRoot : List Char
  sanctionsRoot : List Char
  jurisdictionRoot : List Char
  lastPublishSlot : UInt64
  walletCount : Nat
  deriving DecidableEq, Repr

variable (st : IssuerState) (auth : WalletAuth)

def getCredential : Except QueryError CredentialRecord :=
  match st.credentials.lookup auth.walletBytes with
  | none => .error .walletNotFound
  | some cred => .ok cred

def getProof : Except QueryError MembershipProofResponse :=
  match st.credentials.lookup auth.walletBytes with
  | none => .error .walletNotFound
  | some cred =>
    if cred.revoked then .error .walletRevoked
    else
      match st.membershipTree.proof cred.leafIndex with
      | .error e => .error (.ofCrypto e)
      | .ok proof =>
        .ok
          { wallet := auth.walletHex
            leafIndex := cred.leafIndex
            path := encodePath proof.path
            pathIndices := List.ofFn proof.pathIndices
            root := encodeFr st.membershipTree.root }

/-- A wallet without a credential is answered as well. -/
def getSanctionsProof : Except QueryError SanctionsProofResponse :=
  match (decodeWallet auth.walletHex).map bytesBeToFr with
  | .error e => .error (.invalidHex e)
  | .ok walletFr =>
    if ((st.credentials.lookup auth.walletBytes).map CredentialRecord.revoked).getD false then
      .error .walletRevoked
    else
      match st.sanctionsTree.exclusionProof walletFr with
      | .error e => .error (.ofCrypto e)
      | .ok proof =>
        .ok
          { wallet := auth.walletHex
            path := encodePath proof.path
            pathIndices := List.ofFn proof.pathIndices
            leafValue := encodeFr proof.leafValue
            root := encodeFr st.sanctionsTree.root }

def getJurisdictionProof : Except QueryError JurisdictionProofResponse :=
  match st.credentials.lookup auth.walletBytes with
  | none => .error .walletNotFound
  | some cred =>
    if cred.revoked then .error .walletRevoked
    else
      -- the tree has one leaf, which is that of the jurisdiction
      match st.jurisdictionTree.proof 0 with
      | .error e => .error (.ofCrypto e)
      | .ok proof =>
        .ok
          { wallet := auth.walletHex
            jurisdictionId := JURISDICTION_ID.val
            path := encodePath proof.path
            pathIndices := List.ofFn proof.pathIndices
            root := encodeFr st.jurisdictionTree.root }

def getRoots : RootsResponse :=
  { membershipRoot := hex st.rootsAsBytes.merkle.bytes
    sanctionsRoot := hex st.rootsAsBytes.sanctions.bytes
    jurisdictionRoot := hex st.rootsAsBytes.jurisdiction.bytes
    lastPublishSlot := st.lastPublishSlot
    walletCount := st.credentials.entries.length }

/-! ## What an answer says -/

section Answers

variable {st auth}

/-- The roots are served as the other field elements are. -/
theorem getRoots_eq : (getRoots st).membershipRoot = encodeFr st.membershipTree.root ∧
    (getRoots st).sanctionsRoot = encodeFr st.sanctionsTree.root ∧
    (getRoots st).jurisdictionRoot = encodeFr st.jurisdictionTree.root := by
  simp only [getRoots, IssuerState.rootsAsBytes, encodeFr, and_self]

theorem getProof_ok {response : MembershipProofResponse}
    (answered : getProof st auth = .ok response) :
    ∃ record proof, st.credentials.lookup auth.walletBytes = some record ∧
      record.revoked = false ∧ st.membershipTree.proof record.leafIndex = .ok proof ∧
      response.path = encodePath proof.path ∧
      response.pathIndices = List.ofFn proof.pathIndices := by
  unfold getProof at answered
  split at answered
  next => cases answered
  next record known =>
    split at answered
    next => cases answered
    next unrevoked =>
      split at answered
      next => cases answered
      next proof given =>
        cases answered
        exact ⟨record, proof, known, Bool.eq_false_iff.mpr unrevoked, given, rfl, rfl⟩

theorem getSanctionsProof_ok {response : SanctionsProofResponse}
    (answered : getSanctionsProof st auth = .ok response) :
    ∃ walletFr proof, st.sanctionsTree.exclusionProof walletFr = .ok proof ∧
      response.path = encodePath proof.path ∧
      response.pathIndices = List.ofFn proof.pathIndices ∧
      response.leafValue = encodeFr proof.leafValue := by
  unfold getSanctionsProof at answered
  split at answered
  next => cases answered
  next walletFr _ =>
    split at answered
    next => cases answered
    next =>
      split at answered
      next => cases answered
      next proof given =>
        cases answered
        refine ⟨walletFr, proof, given, ?_⟩
        simp only [and_self]

theorem getJurisdictionProof_ok {response : JurisdictionProofResponse}
    (answered : getJurisdictionProof st auth = .ok response) :
    ∃ proof, st.jurisdictionTree.proof 0 = .ok proof ∧
      response.path = encodePath proof.path ∧
      response.pathIndices = List.ofFn proof.pathIndices := by
  unfold getJurisdictionProof at answered
  split at answered
  next => cases answered
  next =>
    split at answered
    next => cases answered
    next =>
      split at answered
      next => cases answered
      next proof given =>
        cases answered
        exact ⟨proof, given, rfl, rfl⟩

end Answers

end ZkSettle.Service
