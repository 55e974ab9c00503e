import Mathlib.Data.List.Sort
import ZkSettle.Crypto.Trees
import ZkSettle.Program.Accounts

/-!
# The state of the issuer service

The credentials and the trees over them, the requests that change them, and the file
they are saved in. Every handler runs under the write lock from its first read to its
last write, so it is one function of the state and the file; the file holds the value
that JSON carries. `saveFault` is the outcome of the file system.
-/
namespace ZkSettle.Service

open Crypto Program

/-! ## Errors -/

/-- Why a wallet is not 32 bytes in hexadecimal: the errors of `hex::decode`, and the
length check after it. -/
inductive HexError where
  | oddLength
  | invalidHexCharacter (c : UInt8) (index : Nat)
  | expected32Bytes (got : Nat)
  deriving DecidableEq, Repr

inductive PersistError where
  | notFound
  | read
  | write
  deriving DecidableEq, Repr

inductive ServiceError where
  | walletNotFound
  | duplicateWallet
  | alreadyRevoked
  | invalidHex (error : HexError)
  | tree (error : CryptoError)
  | persist (error : PersistError)
  deriving DecidableEq, Repr

/-! ## Conversions -/

def frToBytesBe (f : Fr) : Bytes32 := .ofNat f.val

theorem frToBytesBe_injective : Function.Injective frToBytesBe := by
  intro f g same
  have below : ∀ x : Fr, x.val < 2 ^ 256 := fun x => lt_trans (ZMod.val_lt x) (by decide)
  apply ZMod.val_injective
  rw [← Bytes32.toNat_ofNat (below f), ← Bytes32.toNat_ofNat (below g)]
  exact congrArg Bytes32.toNat same

theorem frToBytesBe_eq_zero {f : Fr} : frToBytesBe f = .zero ↔ f = 0 := by
  have zero : frToBytesBe 0 = .zero := by decide
  rw [← zero, frToBytesBe_injective.eq_iff]

/-- `from_le_bytes_mod_order` of the reversed bytes. -/
def bytesBeToFr (bytes : Bytes32) : Fr := (bytes.toNat : Fr)

/-- The value of a hexadecimal digit, in either case. -/
def hexVal (c : UInt8) (index : Nat) : Except HexError UInt8 :=
  if 65 ≤ c ∧ c ≤ 70 then .ok (c - 65 + 10)
  else if 97 ≤ c ∧ c ≤ 102 then .ok (c - 97 + 10)
  else if 48 ≤ c ∧ c ≤ 57 then .ok (c - 48)
  else .error (.invalidHexCharacter c index)

def decodePairs : Nat → List UInt8 → Except HexError (List UInt8)
  | index, high :: low :: rest => do
    let high ← hexVal high index
    let low ← hexVal low (index + 1)
    let rest ← decodePairs (index + 2) rest
    pure ((high * 16 + low) :: rest)
  | _, _ => .ok []

/-- `hex::decode` -/
def hexDecode (data : List UInt8) : Except HexError (List UInt8) :=
  if data.length % 2 = 1 then .error .oddLength else decodePairs 0 data

/-- `strip_prefix("0x")`, or the text as it is. -/
def strip0x : List UInt8 → List UInt8
  | 48 :: 120 :: rest => rest
  | data => data

/-- The 32 bytes of a wallet in hexadecimal. -/
def decodeWallet (hexStr : String) : Except HexError Bytes32 :=
  match hexDecode (strip0x hexStr.toUTF8.data.toList) with
  | .error e => .error e
  | .ok bytes =>
    if length_eq : bytes.length = 32 then .ok ⟨bytes, length_eq⟩
    else .error (.expected32Bytes bytes.length)

def walletHexToBytes (hexStr : String) : Except ServiceError Bytes32 :=
  (decodeWallet hexStr).mapError .invalidHex

def walletToFr (hexStr : String) : Except ServiceError Fr :=
  ((decodeWallet hexStr).map bytesBeToFr).mapError .invalidHex

def walletLeaf (walletFr : Fr) : Fr := poseidon2Hash [walletFr]

/-! ## State -/

structure CredentialRecord where
  wallet : Bytes32
  leafIndex : Nat
  jurisdiction : String
  issuedAt : UInt64
  revoked : Bool
  deriving DecidableEq, Repr

/-- The leaf of a record, zero when it is revoked. -/
def CredentialRecord.leaf (record : CredentialRecord) : Fr :=
  if record.revoked then 0 else walletLeaf (bytesBeToFr record.wallet)

abbrev Credentials := AList fun _ : Bytes32 => CredentialRecord

structure IssuerState where
  membershipTree : MerkleTree
  sanctionsTree : SparseMerkleTree
  jurisdictionTree : MerkleTree
  credentials : Credentials
  lastPublishSlot : UInt64
  registered : Bool
  rootsDirty : Bool

def JURISDICTION_ID : Fr := 1

def IssuerState.new : IssuerState where
  membershipTree := .new
  sanctionsTree := .new
  jurisdictionTree := MerkleTree.new.insert (poseidon2Hash [JURISDICTION_ID])
  credentials := ∅
  lastPublishSlot := 0
  registered := false
  rootsDirty := false

structure Roots where
  merkle : Bytes32
  sanctions : Bytes32
  jurisdiction : Bytes32
  deriving DecidableEq, Repr

def IssuerState.rootsAsBytes (st : IssuerState) : Roots where
  merkle := frToBytesBe st.membershipTree.root
  sanctions := frToBytesBe st.sanctionsTree.root
  jurisdiction := frToBytesBe st.jurisdictionTree.root

/-! ## The file -/

structure PersistedState where
  credentials : List CredentialRecord
  registered : Bool
  deriving DecidableEq, Repr

/-- What is at the state path, when a state path is configured. -/
abbrev Disk := Option PersistedState

/-- The order of `sort_by_key(|c| c.leaf_index)`. -/
abbrev byLeafIndex (a b : CredentialRecord) : Prop := a.leafIndex ≤ b.leafIndex

def IssuerState.persisted (st : IssuerState) : PersistedState where
  credentials := (st.credentials.entries.map Sigma.snd).insertionSort byLeafIndex
  registered := st.registered

/-- The new file is renamed into place, or the old one stays. -/
def save (saveFault : Bool) (st : IssuerState) (disk : Disk) : Except ServiceError Unit × Disk :=
  if saveFault then (.error (.persist .write), disk) else (.ok (), some st.persisted)

/-- The record is put back at the end of the tree; its index is not looked at. -/
def IssuerState.restore (st : IssuerState) (record : CredentialRecord) : IssuerState :=
  { st with
    membershipTree := st.membershipTree.insert record.leaf
    credentials := st.credentials.insert record.wallet record }

/-- `loadFault`: the file cannot be read or parsed. -/
def load (loadFault : Bool) : Disk → Except ServiceError IssuerState
  | none => .error (.persist .notFound)
  | some persisted =>
    if loadFault then .error (.persist .read)
    else .ok ((persisted.credentials.insertionSort byLeafIndex).foldl IssuerState.restore
      { IssuerState.new with registered := persisted.registered })

/-! ## Requests -/

/-- A handler's answer, with the state and the file it leaves behind. -/
abbrev Reply (α : Type) := Except ServiceError α × IssuerState × Disk

/-- `if let Some(ref path) = state_path { save(path, &st) }` -/
def saveAt (statePath : Option String) (saveFault : Bool) (st : IssuerState) (disk : Disk) :
    Except ServiceError Unit × Disk :=
  match statePath with
  | none => (.ok (), disk)
  | some _ => save saveFault st disk

/-- What `issue_credential` and `add_wallet` do to the trees and the records. -/
def IssuerState.insertCredential (st : IssuerState) (wallet : Bytes32) (walletFr : Fr)
    (jurisdiction : String) (issuedAt : UInt64) : IssuerState :=
  { st with
    membershipTree := st.membershipTree.insert (walletLeaf walletFr)
    rootsDirty := true
    credentials := st.credentials.insert wallet
      { wallet, leafIndex := st.credentials.entries.length, jurisdiction, issuedAt,
        revoked := false } }

structure IssueRequest where
  wallet : String
  jurisdiction : String

structure IssueResponse where
  wallet : String
  leafIndex : Nat
  jurisdiction : String
  deriving DecidableEq, Repr

def issueCredential (statePath : Option String) (saveFault : Bool) (now : UInt64)
    (req : IssueRequest) (st : IssuerState) (disk : Disk) : Reply IssueResponse :=
  match walletHexToBytes req.wallet with
  | .error e => (.error e, st, disk)
  | .ok wallet =>
    match walletToFr req.wallet with
    | .error e => (.error e, st, disk)
    | .ok walletFr =>
      if wallet ∈ st.credentials then (.error .duplicateWallet, st, disk)
      else
        let leafIndex := st.credentials.entries.length
        let st := st.insertCredential wallet walletFr req.jurisdiction now
        match saveAt statePath saveFault st disk with
        -- the record stays in memory
        | (.error e, disk) => (.error e, st, disk)
        | (.ok (), disk) =>
          (.ok { wallet := req.wallet, leafIndex, jurisdiction := req.jurisdiction }, st, disk)

structure AddWalletResponse where
  wallet : String
  message : String
  deriving DecidableEq, Repr

def addWallet (statePath : Option String) (saveFault : Bool) (now : UInt64) (wallet : String)
    (st : IssuerState) (disk : Disk) : Reply AddWalletResponse :=
  match walletHexToBytes wallet with
  | .error e => (.error e, st, disk)
  | .ok walletBytes =>
    match walletToFr wallet with
    | .error e => (.error e, st, disk)
    | .ok walletFr =>
      if walletBytes ∈ st.credentials then (.error .duplicateWallet, st, disk)
      else
        let st := st.insertCredential walletBytes walletFr "UNKNOWN" now
        match saveAt statePath saveFault st disk with
        | (.error e, disk) => (.error e, st, disk)
        | (.ok (), disk) => (.ok { wallet, message := "added to membership tree" }, st, disk)

structure RevokeResponse where
  wallet : String
  revoked : Bool
  deriving DecidableEq, Repr

/-- The credential revoked, over the trees without its leaf and its wallet. -/
def IssuerState.markRevoked (st : IssuerState) (membershipTree : MerkleTree)
    (sanctionsTree : SparseMerkleTree) (wallet : Bytes32) (cred : CredentialRecord) :
    IssuerState :=
  { st with
    membershipTree
    sanctionsTree
    credentials := st.credentials.insert wallet { cred with revoked := true }
    rootsDirty := true }

/-- The revocation taken back by hand; a failure to put the leaf back is only logged. -/
def IssuerState.unmarkRevoked (st : IssuerState) (wallet : Bytes32) (cred : CredentialRecord)
    (walletFr : Fr) (removedFromSanctions prevRootsDirty : Bool) : IssuerState :=
  { st with
    membershipTree :=
      match st.membershipTree.setLeaf cred.leafIndex (walletLeaf walletFr) with
      | .ok tree => tree
      | .error _ => st.membershipTree
    sanctionsTree :=
      if removedFromSanctions then st.sanctionsTree.insert walletFr else st.sanctionsTree
    credentials := st.credentials.insert wallet cred
    rootsDirty := prevRootsDirty }

def revokeCredential (statePath : Option String) (saveFault : Bool) (wallet : String)
    (st : IssuerState) (disk : Disk) : Reply RevokeResponse :=
  match walletHexToBytes wallet with
  | .error e => (.error e, st, disk)
  | .ok walletBytes =>
    match walletToFr wallet with
    | .error e => (.error e, st, disk)
    | .ok walletFr =>
      match st.credentials.lookup walletBytes with
      | none => (.error .walletNotFound, st, disk)
      | some cred =>
        if cred.revoked then (.error .alreadyRevoked, st, disk)
        else
          match st.membershipTree.zeroLeaf cred.leafIndex with
          | .error e => (.error (.tree e), st, disk)
          | .ok membershipTree =>
            let (sanctionsTree, removedFromSanctions) := st.sanctionsTree.remove walletFr
            let next := st.markRevoked membershipTree sanctionsTree walletBytes cred
            match saveAt statePath saveFault next disk with
            | (.ok (), disk) => (.ok { wallet, revoked := true }, next, disk)
            | (.error e, disk) =>
              (.error e, next.unmarkRevoked walletBytes cred walletFr removedFromSanctions
                st.rootsDirty, disk)

end ZkSettle.Service
