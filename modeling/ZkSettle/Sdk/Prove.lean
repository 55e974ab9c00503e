import ZkSettle.Crypto.Poseidon2
import ZkSettle.Program.Bindings
import ZkSettle.Sdk.Nullifier

/-!
# Proof inputs of the SDK

`proveHighLevel` assembles the inputs of the circuit from the issuer's responses and
the transfer. The program compares the public inputs of the proof with its own
encodings; they agree only where the two halves of each key are the same and the
clock shows the first second of the epoch.
-/
namespace ZkSettle.Sdk

open Checks Numerals
open ZkSettle.Circuit (BN254_ORDER Fr)
open ZkSettle.Program

structure ProofInputs where
  merkleRoot : Text
  nullifier : Text
  mintLo : Text
  mintHi : Text
  epoch : Text
  recipientLo : Text
  recipientHi : Text
  amount : Text
  sanctionsRoot : Text
  jurisdictionRoot : Text
  timestamp : Text
  wallet : Text
  path : List Text
  pathIndices : List Nat
  privateKey : Text
  sanctionsPath : List Text
  sanctionsPathIndices : List Nat
  sanctionsLeafValue : Text
  jurisdiction : Text
  jurisdictionPath : List Text
  jurisdictionPathIndices : List Nat
  credentialExpiry : Text
  deriving DecidableEq, Repr

/-- An epoch as a number of the language, which is exact below `2 ^ 53`. -/
structure SafeInteger where
  value : Nat
  isSafe : value < 2 ^ 53
  deriving DecidableEq, Repr

structure TransferContext where
  mint : Pubkey
  recipient : Pubkey
  amount : UInt64
  epoch : Option SafeInteger
  privateKey : Text
  credentialExpiry : Text
  jurisdictionPath : List Text
  jurisdictionPathIndices : List Nat

/-- What the issuer service answers about the wallet. -/
structure IssuerResponses where
  membershipRoot : Text
  sanctionsRoot : Text
  jurisdictionRoot : Text
  membershipPath : List Text
  membershipPathIndices : List Nat
  sanctionsPath : List Text
  sanctionsPathIndices : List Nat
  sanctionsLeafValue : Text
  credentialJurisdiction : Text

/-- `context.epoch ?? 0` -/
def TransferContext.epochOrZero (context : TransferContext) : Nat :=
  match context.epoch with
  | some epoch => epoch.value
  | none => 0

/-- The inputs that `proveHighLevel` hands to the prover; `dateNow` is in milliseconds. -/
def proveHighLevel (poseidon2Hash : List Bytes32 → Bytes32) (issuer : IssuerResponses)
    (wallet : Text) (context : TransferContext) (dateNow : Nat) : Except JsError ProofInputs := do
  -- the leading half is called low here, the trailing half in the program
  let mintBytes := context.mint.bytes
  let recipientBytes := context.recipient.bytes
  let mintLo := toHex (mintBytes.take 16)
  let mintHi := toHex (mintBytes.drop 16)
  let recipientLo := toHex (recipientBytes.take 16)
  let recipientHi := toHex (recipientBytes.drop 16)
  let epoch := decimal context.epochOrZero
  let timestamp := decimal (dateNow / 1000)
  let nullifier ← computeNullifier poseidon2Hash
    { privateKey := context.privateKey
      mintLo
      mintHi
      epoch
      recipientLo
      recipientHi
      amount := decimal context.amount.toNat }
  pure
    { merkleRoot := issuer.membershipRoot
      nullifier
      mintLo
      mintHi
      epoch
      recipientLo
      recipientHi
      amount := decimal context.amount.toNat
      sanctionsRoot := issuer.sanctionsRoot
      jurisdictionRoot := issuer.jurisdictionRoot
      timestamp
      wallet
      path := issuer.membershipPath
      pathIndices := issuer.membershipPathIndices
      privateKey := context.privateKey
      sanctionsPath := issuer.sanctionsPath
      sanctionsPathIndices := issuer.sanctionsPathIndices
      sanctionsLeafValue := issuer.sanctionsLeafValue
      jurisdiction := issuer.credentialJurisdiction
      jurisdictionPath := context.jurisdictionPath
      jurisdictionPathIndices := context.jurisdictionPathIndices
      credentialExpiry := context.credentialExpiry }

/-- The public inputs in the order of the circuit. -/
def ProofInputs.publicInputs (inputs : ProofInputs) : Fin NR_INPUTS → Text :=
  ![inputs.merkleRoot, inputs.nullifier, inputs.mintLo, inputs.mintHi, inputs.epoch,
    inputs.recipientLo, inputs.recipientHi, inputs.amount, inputs.sanctionsRoot,
    inputs.jurisdictionRoot, inputs.timestamp]

/-- The witness of a proof of these inputs. -/
def ProofInputs.Encodes (inputs : ProofInputs) (witness : GnarkWitness) : Prop :=
  ∀ entry, fieldBytes (inputs.publicInputs entry) = some (witness.entries entry)

/-- The binding check lets a proof of these inputs through. -/
def PassesBindings (inputs : ProofInputs) (bindings : BindingInputs) : Prop :=
  ∃ witness, inputs.Encodes witness ∧ checkBindings witness bindings = .ok ()

theorem passesBindings_iff {inputs : ProofInputs} {bindings : BindingInputs} :
    PassesBindings inputs bindings ↔
      ∀ entry, fieldBytes (inputs.publicInputs entry) = some (bindings.entries entry) := by
  constructor
  · rintro ⟨witness, encodes, checked⟩ entry
    rw [← checkBindings_eq_ok.mp checked]
    exact encodes entry
  · intro encodes
    exact ⟨⟨bindings.entries⟩, encodes, checkBindings_eq_ok.mpr rfl⟩

/-- The entries of the three roots, which the issuer serves. -/
def rootEntries : List (Fin NR_INPUTS) :=
  [MERKLE_ROOT_IDX, SANCTIONS_ROOT_IDX, JURISDICTION_ROOT_IDX]

/-- The entries that the transfer decides are those that the check requires. -/
def BindsTransfer (inputs : ProofInputs) (bindings : BindingInputs) : Prop :=
  ∀ entry ∉ rootEntries, fieldBytes (inputs.publicInputs entry) = some (bindings.entries entry)

theorem passesBindings_iff_bindsTransfer {inputs : ProofInputs} {bindings : BindingInputs}
    (roots : ∀ entry ∈ rootEntries,
      fieldBytes (inputs.publicInputs entry) = some (bindings.entries entry)) :
    PassesBindings inputs bindings ↔ BindsTransfer inputs bindings := by
  rw [passesBindings_iff]
  constructor
  · intro all entry _
    exact all entry
  · intro binds entry
    by_cases root : entry ∈ rootEntries
    · exact roots entry root
    · exact binds entry root

/-- A settlement of the transfer in its epoch, with the nullifier that was proved. -/
structure TransferOf (context : TransferContext) (inputs : ProofInputs)
    (bindings : BindingInputs) : Prop where
  nullifier : inputs.nullifier = toHex bindings.nullifierHash.bytes
  mint : bindings.mint = context.mint
  recipient : bindings.recipient = context.recipient
  amount : bindings.amount = context.amount
  epoch : bindings.epoch.toNat = context.epochOrZero
  timestamp : epochTimestamp bindings.epoch = .ok bindings.timestamp

/-- The served roots are those on chain. -/
structure RootsOf (issuer : IssuerResponses) (bindings : BindingInputs) : Prop where
  merkleRoot : fieldBytes issuer.membershipRoot = some bindings.merkleRoot
  sanctionsRoot : fieldBytes issuer.sanctionsRoot = some bindings.sanctionsRoot
  jurisdictionRoot : fieldBytes issuer.jurisdictionRoot = some bindings.jurisdictionRoot

/-- A settlement of the transfer in its epoch, with the served roots on chain and the
nullifier that was proved. -/
structure SettlementOf (issuer : IssuerResponses) (context : TransferContext)
    (inputs : ProofInputs) (bindings : BindingInputs) : Prop
    extends RootsOf issuer bindings, TransferOf context inputs bindings

/-! ## The encodings of the program as numbers -/

theorem bytes32_ofNat_inj {m n : Nat} (below : m < 2 ^ 256) (below' : n < 2 ^ 256) :
    Bytes32.ofNat m = Bytes32.ofNat n ↔ m = n := by
  constructor
  · intro same
    rw [← Bytes32.toNat_ofNat below, same, Bytes32.toNat_ofNat below']
  · exact congrArg Bytes32.ofNat

theorem fieldBytes_half {half : List UInt8} (length : half.length = 16) :
    fieldBytes (toHex half) = some (.ofNat (BigEndian.value half)) := by
  apply fieldBytes_toHex _ ((half_lt length).trans (by decide))
  rintro rfl
  cases length

/-- The string of one half is the limb of another if and only if the halves are equal. -/
theorem fieldBytes_half_iff {half other : List UInt8} (length : half.length = 16) (limb : Bytes32)
    (padded : limb.bytes = List.replicate 16 0 ++ other) :
    fieldBytes (toHex half) = some limb ↔ half = other := by
  rw [fieldBytes_half length, Option.some.injEq]
  constructor
  · intro same
    rw [← same, limb_eq length] at padded
    exact List.append_cancel_left padded
  · rintro rfl
    apply Bytes32.ext
    rw [limb_eq length, padded]

theorem fieldBytes_decimal_iff (n : Nat) (x : UInt64) :
    fieldBytes (decimal n) = some (u64ToFieldBytes x) ↔ n = x.toNat := by
  have order : 2 ^ 64 < BN254_ORDER := by decide
  have order' : BN254_ORDER < 2 ^ 256 := by decide
  have bound := x.toNat_lt
  rw [fieldBytes_decimal, u64ToFieldBytes_eq]
  split
  · rename_i below
    rw [Option.some.injEq, bytes32_ofNat_inj (by omega) (by omega)]
  · -- the string is not a field element, and the other side is below 2 ^ 64
    rename_i above
    simp only [reduceCtorEq, false_iff]
    omega

/-- The halves of a key are the same sixteen bytes. -/
def HalvesEqual (key : Pubkey) : Prop := key.bytes.take 16 = key.bytes.drop 16

instance (key : Pubkey) : Decidable (HalvesEqual key) :=
  inferInstanceAs (Decidable (key.bytes.take 16 = key.bytes.drop 16))

theorem limbs_swapped_iff (key : Pubkey) :
    (fieldBytes (toHex (key.bytes.take 16)) = some (pubkeyToLimbs key).1 ∧
      fieldBytes (toHex (key.bytes.drop 16)) = some (pubkeyToLimbs key).2) ↔ HalvesEqual key := by
  have first : (key.bytes.take 16).length = 16 := by simp [key.length_eq]
  have second : (key.bytes.drop 16).length = 16 := by simp [key.length_eq]
  rw [fieldBytes_half_iff first _ rfl, fieldBytes_half_iff second _ rfl]
  constructor
  · exact fun same => same.1
  · exact fun same => ⟨same, same.symm⟩

/-! ## The binding check on the SDK's proofs -/

/-- The entries that the transfer decides are the required ones if and only if the halves of
both keys coincide and the clock, in seconds, is the start of the epoch. -/
theorem proveHighLevel_bindsTransfer_iff {poseidon2Hash : List Bytes32 → Bytes32}
    (canonical : ∀ fields, (poseidon2Hash fields).toNat < BN254_ORDER) {issuer : IssuerResponses}
    {wallet : Text} {context : TransferContext} {dateNow : Nat} {inputs : ProofInputs}
    (assembled : proveHighLevel poseidon2Hash issuer wallet context dateNow = .ok inputs)
    {bindings : BindingInputs} (transfer : TransferOf context inputs bindings) :
    BindsTransfer inputs bindings ↔
      HalvesEqual context.mint ∧ HalvesEqual context.recipient ∧
        dateNow / 1000 = context.epochOrZero * 86400 := by
  simp only [proveHighLevel, computeNullifier, bind_eq_ok, pure_eq_ok] at assembled
  obtain ⟨text, ⟨fields, -, hashed⟩, rfl⟩ := assembled
  have time := epochTimestamp_toNat transfer.timestamp
  rw [transfer.epoch] at time
  have clock := fieldBytes_decimal_iff (dateNow / 1000) bindings.timestamp
  rw [time, EPOCH_LEN_SECS] at clock
  rw [← limbs_swapped_iff, ← limbs_swapped_iff, ← clock, ← transfer.mint, ← transfer.recipient]
  constructor
  · intro binds
    exact ⟨⟨binds MINT_LO_IDX (by decide), binds MINT_HI_IDX (by decide)⟩,
      ⟨binds RECIPIENT_LO_IDX (by decide), binds RECIPIENT_HI_IDX (by decide)⟩,
      binds TIMESTAMP_IDX (by decide)⟩
  · rintro ⟨⟨mintLo, mintHi⟩, ⟨recipientLo, recipientHi⟩, timestamp⟩ entry outside
    -- the other entries agree for every transfer
    have epoch := (fieldBytes_decimal_iff context.epochOrZero bindings.epoch).mpr
      transfer.epoch.symm
    have amount := (fieldBytes_decimal_iff context.amount.toNat bindings.amount).mpr
      (congrArg UInt64.toNat transfer.amount.symm)
    have sameHash := toHex_bytes_injective (hashed.trans transfer.nullifier)
    have nullifier : fieldBytes text = some bindings.nullifierHash := by
      rw [← hashed, fieldBytes_toHex_bytes _ (canonical fields), sameHash]
    -- in the order of the public inputs
    fin_cases entry
    · exact absurd (by decide) outside
    · exact nullifier
    · exact mintLo
    · exact mintHi
    · exact epoch
    · exact recipientLo
    · exact recipientHi
    · exact amount
    · exact absurd (by decide) outside
    · exact absurd (by decide) outside
    · exact timestamp

/-- A proof of the SDK has the entries that the check requires of its transfer if and only if the
halves of both keys coincide and the clock is the start of the epoch. Where the served roots are
those on chain, the binding check lets the proof through in the same cases. -/
theorem proveHighLevel_bound_iff (poseidon2Hash : List Bytes32 → Bytes32)
    (canonical : ∀ fields, (poseidon2Hash fields).toNat < BN254_ORDER) (issuer : IssuerResponses)
    (wallet : Text) (context : TransferContext) (dateNow : Nat) (inputs : ProofInputs)
    (assembled : proveHighLevel poseidon2Hash issuer wallet context dateNow = .ok inputs)
    (bindings : BindingInputs) (transfer : TransferOf context inputs bindings) :
    (BindsTransfer inputs bindings ↔
      HalvesEqual context.mint ∧ HalvesEqual context.recipient ∧
        dateNow / 1000 = context.epochOrZero * 86400) ∧
    (RootsOf issuer bindings →
      (PassesBindings inputs bindings ↔
        HalvesEqual context.mint ∧ HalvesEqual context.recipient ∧
          dateNow / 1000 = context.epochOrZero * 86400)) := by
  have binds := proveHighLevel_bindsTransfer_iff canonical assembled transfer
  refine ⟨binds, fun served => ?_⟩
  simp only [proveHighLevel, bind_eq_ok, pure_eq_ok] at assembled
  obtain ⟨text, -, rfl⟩ := assembled
  rw [passesBindings_iff_bindsTransfer, binds]
  intro entry root
  simp only [rootEntries, List.mem_cons, List.not_mem_nil, or_false] at root
  rcases root with rfl | rfl | rfl
  · exact served.merkleRoot
  · exact served.sanctionsRoot
  · exact served.jurisdictionRoot

namespace Sample

def issuer : IssuerResponses where
  membershipRoot := ['0', 'x', '7']
  sanctionsRoot := ['8']
  jurisdictionRoot := ['9']
  membershipPath := []
  membershipPathIndices := []
  sanctionsPath := []
  sanctionsPathIndices := []
  sanctionsLeafValue := ['0']
  credentialJurisdiction := ['1']

/-- A transfer in epoch 1 between keys whose halves differ. -/
def context : TransferContext where
  mint := .ofNat 2
  recipient := .ofNat 3
  amount := 50
  epoch := some ⟨1, by decide⟩
  privateKey := ['4', '2']
  credentialExpiry := ['0']
  jurisdictionPath := []
  jurisdictionPathIndices := []

/-- The hash of the crate, from field elements as bytes to one. -/
def poseidon2Hash (fields : List Bytes32) : Bytes32 :=
  .ofNat (Crypto.poseidon2Hash (fields.map fun field => (field.toNat : Fr))).val

/-- The private key 42, the halves of the mint, the epoch, the halves of the recipient and the
amount, in the order of the SDK. -/
def nullifierFields : List Bytes32 := [42, 0, 2, 1, 0, 3, 50].map Bytes32.ofNat

def nullifierHash : Bytes32 := poseidon2Hash nullifierFields

/-- What the SDK proves at the first second of epoch 1. -/
def inputs : ProofInputs where
  merkleRoot := issuer.membershipRoot
  nullifier := toHex nullifierHash.bytes
  mintLo := toHex (List.replicate 16 0)
  mintHi := toHex (List.replicate 15 0 ++ [2])
  epoch := ['1']
  recipientLo := toHex (List.replicate 16 0)
  recipientHi := toHex (List.replicate 15 0 ++ [3])
  amount := ['5', '0']
  sanctionsRoot := issuer.sanctionsRoot
  jurisdictionRoot := issuer.jurisdictionRoot
  timestamp := ['8', '6', '4', '0', '0']
  wallet := ['6']
  path := []
  pathIndices := []
  privateKey := ['4', '2']
  sanctionsPath := []
  sanctionsPathIndices := []
  sanctionsLeafValue := ['0']
  jurisdiction := ['1']
  jurisdictionPath := []
  jurisdictionPathIndices := []
  credentialExpiry := ['0']

def bindings : BindingInputs where
  merkleRoot := .ofNat 7
  nullifierHash
  mint := .ofNat 2
  epoch := 1
  recipient := .ofNat 3
  amount := 50
  sanctionsRoot := .ofNat 8
  jurisdictionRoot := .ofNat 9
  timestamp := 86400

theorem poseidon2Hash_canonical (fields : List Bytes32) :
    (poseidon2Hash fields).toNat < BN254_ORDER := by
  have small := (Crypto.poseidon2Hash (fields.map fun field => (field.toNat : Fr))).val_lt
  have order : BN254_ORDER < 2 ^ 256 := by decide
  rw [poseidon2Hash, Bytes32.toNat_ofNat (by omega)]
  exact small

theorem assembled : proveHighLevel poseidon2Hash issuer ['6'] context 86400000 = .ok inputs := by
  have read : [context.privateKey, inputs.mintLo, inputs.mintHi, inputs.epoch, inputs.recipientLo,
      inputs.recipientHi, decimal context.amount.toNat].mapM toField = .ok nullifierFields := by
    decide +kernel
  simp only [proveHighLevel, computeNullifier, bind_eq_ok, pure_eq_ok]
  exact ⟨_, ⟨nullifierFields, read, rfl⟩, rfl⟩

theorem settlement : SettlementOf issuer context inputs bindings where
  merkleRoot := by decide +kernel
  sanctionsRoot := by decide +kernel
  jurisdictionRoot := by decide +kernel
  nullifier := rfl
  mint := rfl
  recipient := rfl
  amount := rfl
  epoch := by decide
  timestamp := by decide

end Sample

open Sample in
theorem proveHighLevel_bound_sample :
    (BindsTransfer inputs bindings ↔
      HalvesEqual context.mint ∧ HalvesEqual context.recipient ∧
        86400000 / 1000 = context.epochOrZero * 86400) ∧
    (RootsOf issuer bindings →
      (PassesBindings inputs bindings ↔
        HalvesEqual context.mint ∧ HalvesEqual context.recipient ∧
          86400000 / 1000 = context.epochOrZero * 86400)) :=
  proveHighLevel_bound_iff poseidon2Hash poseidon2Hash_canonical issuer ['6'] context 86400000
    inputs assembled bindings settlement.toTransferOf

open Sample in
/-- A proof of the SDK is rejected because its mint limbs are swapped. -/
theorem not_proveHighLevel_bound :
    ¬ ∀ (poseidon2Hash : List Bytes32 → Bytes32),
      (∀ fields, (poseidon2Hash fields).toNat < BN254_ORDER) →
      ∀ (issuer : IssuerResponses) (wallet : Text) (context : TransferContext) (dateNow : Nat)
        (inputs : ProofInputs),
      proveHighLevel poseidon2Hash issuer wallet context dateNow = .ok inputs →
      ∀ bindings, SettlementOf issuer context inputs bindings → PassesBindings inputs bindings := by
  intro bound
  have passes := bound poseidon2Hash poseidon2Hash_canonical issuer ['6'] context 86400000 inputs
    assembled bindings settlement
  have mintLo := passesBindings_iff.mp passes MINT_LO_IDX
  have swapped : ¬ fieldBytes (inputs.publicInputs MINT_LO_IDX) =
      some (bindings.entries MINT_LO_IDX) := by decide +kernel
  exact swapped mintLo

end ZkSettle.Sdk
