import ZkSettle.Frontend.Flow
import ZkSettle.Sdk.Hexadecimal

/-!
# Nullifiers of two clients

The SDK and the frontend hash the seven inputs of a nullifier with two libraries that
compute one function on field elements. The frontend takes the number of each string, the
SDK its bytes, so they agree where the bytes are those of the number.
-/
namespace ZkSettle.Frontend

open Checks Numerals
open ZkSettle.Circuit (BN254_ORDER Fr)
open ZkSettle.Program (Bytes32)
open ZkSettle.Sdk

def texts (inputs : NullifierInputs) : List Text :=
  [inputs.privateKey, inputs.mintLo, inputs.mintHi, inputs.epoch, inputs.recipientLo,
    inputs.recipientHi, inputs.amount]

/-- An input of the frontend's hash. -/
def readNumber (raw : Text) : Except JsError Nat := do
  let n ← bigInt raw
  require (0 ≤ n ∧ n < BN254_ORDER) JsError.rangeError
  pure n.toNat

section Hashes

-- The hash of field elements that both libraries compute.
variable (hash : List Fr → Fr)

/-- `poseidon2Hash` of the SDK's library, on bytes -/
def hashBytes (fields : List Bytes32) : Bytes32 :=
  .ofNat (hash (fields.map fun field => (field.toNat : Fr))).val

/-- `poseidon2Hash` of the frontend's library, on integers -/
def hashNumbers (inputs : List Nat) : Nat := (hash (inputs.map fun n : Nat => (n : Fr))).val

/-- The clients hash the same residues in the same order and derive the same nullifier. -/
def SameNullifier (inputs : NullifierInputs) : Prop :=
  ∃ fields numbers nullifier,
    (texts inputs).mapM toField = .ok fields ∧ (texts inputs).mapM readNumber = .ok numbers ∧
    fields.map (fun field => (field.toNat : Fr)) = numbers.map (fun n : Nat => (n : Fr)) ∧
    Sdk.computeNullifier (hashBytes hash) inputs = .ok nullifier ∧
    computeNullifier (hashNumbers hash) inputs = .ok nullifier

end Hashes

theorem readNumber_eq_ok {raw : Text} {n : Nat} (read : readNumber raw = .ok n) :
    bigInt raw = .ok n ∧ n < BN254_ORDER := by
  obtain ⟨m, number, checked⟩ := bind_eq_ok.mp read
  obtain ⟨_, range, same⟩ := bind_eq_ok.mp checked
  rw [require_eq_ok] at range
  rw [pure_eq_ok] at same
  have nat : (m.toNat : Int) = m := Int.toNat_of_nonneg range.1
  rw [← same, nat]
  exact ⟨number, by omega⟩

theorem residue_iff {text : Text} {field : Bytes32} {n : Nat} (sdk : toField text = .ok field)
    (frontend : readNumber text = .ok n) : (field.toNat : Fr) = (n : Fr) ↔ Aligned text := by
  obtain ⟨number, below⟩ := readNumber_eq_ok frontend
  rw [ZMod.natCast_eq_natCast_iff', Nat.mod_eq_of_lt below, toField_residue sdk number below]

/-- One string after the other. -/
theorem residues_iff {strings : List Text} {fields : List Bytes32} {numbers : List Nat}
    (sdk : strings.mapM toField = .ok fields) (frontend : strings.mapM readNumber = .ok numbers) :
    fields.map (fun field => (field.toNat : Fr)) = numbers.map (fun n : Nat => (n : Fr)) ↔
      ∀ text ∈ strings, Aligned text := by
  induction strings generalizing fields numbers with
  | nil =>
    cases sdk
    cases frontend
    simp
  | cons text rest ih =>
    simp only [List.mapM_cons, bind_eq_ok, pure_eq_ok] at sdk frontend
    obtain ⟨field, sdkFirst, fields', sdkRest, rfl⟩ := sdk
    obtain ⟨n, frontendFirst, numbers', frontendRest, rfl⟩ := frontend
    rw [List.map_cons, List.map_cons, List.cons.injEq, List.forall_mem_cons,
      residue_iff sdkFirst frontendFirst, ih sdkRest frontendRest]

/-- Both texts of a hash are its 64 digits. -/
theorem toHex_val (f : Fr) :
    toHex (Bytes32.ofNat f.val).bytes = '0' :: 'x' :: padStart 64 '0' (Nat.toDigits 16 f.val) := by
  have small : f.val < 256 ^ 32 := (ZMod.val_lt f).trans (by decide)
  rw [toHex, Bytes32.ofNat, hex_encode (by decide) small]

/-- The clients agree on the inputs that both accept if and only if each string is read in step. -/
theorem sameNullifier_iff (hash : List Fr → Fr) {inputs : NullifierInputs}
    (sdk : (Sdk.computeNullifier (hashBytes hash) inputs).isOk = true)
    (frontend : (computeNullifier (hashNumbers hash) inputs).isOk = true) :
    SameNullifier hash inputs ↔ ∀ text ∈ texts inputs, Aligned text := by
  obtain ⟨a, sdk⟩ := exists_eq_ok sdk
  obtain ⟨b, frontend⟩ := exists_eq_ok frontend
  obtain ⟨fields, sdkReads, sdkHash⟩ := bind_eq_ok.mp sdk
  obtain ⟨numbers, frontendReads, checked⟩ := bind_eq_ok.mp frontend
  obtain ⟨_, -, frontendHash⟩ := bind_eq_ok.mp checked
  rw [pure_eq_ok] at sdkHash frontendHash
  rw [← @residues_iff (texts inputs) _ _ sdkReads frontendReads]
  constructor
  · rintro ⟨fields', numbers', nullifier, sdkReads', frontendReads', same, -⟩
    cases sdkReads.symm.trans sdkReads'
    cases frontendReads.symm.trans frontendReads'
    exact same
  · intro same
    refine ⟨fields, numbers, a, sdkReads, frontendReads, same, sdk, ?_⟩
    rw [frontend, ← sdkHash, ← frontendHash, hashBytes, hashNumbers, same, toHex_val]

/-- Small inputs of one transfer. -/
def smallInputs (privateKey : Text) : NullifierInputs where
  privateKey
  mintLo := ['2']
  mintHi := ['3']
  epoch := ['4']
  recipientLo := ['5']
  recipientHi := ['6']
  amount := ['7']

/-- With the hash of the crate, which the clients' library computes too. -/
theorem sameNullifier_small :
    SameNullifier Crypto.poseidon2Hash (smallInputs ['0', 'x', '1']) ↔
      ∀ text ∈ texts (smallInputs ['0', 'x', '1']), Aligned text :=
  sameNullifier_iff Crypto.poseidon2Hash (by decide +kernel) (by decide +kernel)

/-- One, with 64 zeros before it. -/
def longOne : Text := '0' :: 'x' :: (List.replicate 64 '0' ++ ['1'])

theorem not_sameNullifier :
    ¬ ∀ (hash : List Fr → Fr) (inputs : NullifierInputs),
      (Sdk.computeNullifier (hashBytes hash) inputs).isOk = true →
      (computeNullifier (hashNumbers hash) inputs).isOk = true → SameNullifier hash inputs := by
  intro always
  obtain ⟨fields, numbers, _, sdk, frontend, same, -⟩ :=
    always (fun _ => 0) (smallInputs longOne) (by decide +kernel) (by decide +kernel)
  have aligned := (residues_iff sdk frontend).mp same longOne List.mem_cons_self
  rw [longOne, aligned_prefixed (show parse 16 _ = some 1 by decide +kernel)] at aligned
  exact absurd aligned (by decide +kernel)

end ZkSettle.Frontend
