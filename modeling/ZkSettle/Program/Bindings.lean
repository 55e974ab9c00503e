import Mathlib.Data.Fin.Tuple.Basic
import Mathlib.Data.Fin.VecNotation
import Mathlib.Tactic.FinCases
import ZkSettle.Program.Accounts

/-!
# Public inputs and the pairing check

`check_bindings` compares each entry of the witness with the encoding of the value
the program settles with; `verify_bundle` parses a proof and its witness, compares
the entries and calls the verifier. Both paths of a settlement go through it.
-/
namespace ZkSettle.Program

open Checks

def GNARK_WITNESS_HEADER_LEN : Nat := 12

def EPOCH_LEN_SECS : Nat := 86400

def MAX_EPOCH_LAG : Nat := 1

def expectedWitnessLen (nrInputs : Nat) : Nat := GNARK_WITNESS_HEADER_LEN + nrInputs * 32

/-- The clock is not negative when it is divided, so rounding is towards zero. -/
def validateEpoch (unixTimestamp : Int64) (epoch : UInt64) : Except Error Unit := do
  require (0 ≤ unixTimestamp.toInt) (.zksettle .negativeClock)
  let currentEpoch := (unixTimestamp.toInt / EPOCH_LEN_SECS).toNat
  require (epoch.toNat ≤ currentEpoch) (.zksettle .epochInFuture)
  require (currentEpoch - epoch.toNat ≤ MAX_EPOCH_LAG) (.zksettle .epochStale)

/-- The epoch is the current one or the one before. -/
theorem validateEpoch_eq_ok {unixTimestamp : Int64} {epoch : UInt64} {u : Unit} :
    validateEpoch unixTimestamp epoch = .ok u ↔
      0 ≤ unixTimestamp.toInt ∧ epoch.toNat * 86400 ≤ unixTimestamp.toInt ∧
        unixTimestamp.toInt < (epoch.toNat + 2) * 86400 := by
  simp only [validateEpoch, bind_eq_ok, require_eq_ok, exists_const]
  simp only [EPOCH_LEN_SECS, MAX_EPOCH_LAG, Nat.cast_ofNat]
  omega

/-- `epoch.checked_mul(EPOCH_LEN_SECS as u64)` -/
def epochTimestamp (epoch : UInt64) : Except Error UInt64 :=
  if epoch.toNat * EPOCH_LEN_SECS < 2 ^ 64 then .ok (.ofNat (epoch.toNat * EPOCH_LEN_SECS))
  else .error (.zksettle .epochTimestampOverflow)

theorem epochTimestamp_toNat {epoch timestamp : UInt64}
    (computed : epochTimestamp epoch = .ok timestamp) :
    timestamp.toNat = epoch.toNat * EPOCH_LEN_SECS := by
  unfold epochTimestamp at computed
  split at computed
  · rename_i fits
    cases computed
    exact UInt64.toNat_ofNat_of_lt' fits
  · cases computed

def splitProofAndWitness (data : List UInt8) (witnessLen : Nat) :
    Except Error (List UInt8 × List UInt8) :=
  if data.length ≤ witnessLen then .error (.zksettle .malformedProof)
  else .ok (data.splitAt (data.length - witnessLen))

theorem splitProofAndWitness_eq_ok {data : List UInt8} {witnessLen : Nat}
    {parts : List UInt8 × List UInt8} : splitProofAndWitness data witnessLen = .ok parts ↔
      witnessLen < data.length ∧ data = parts.1 ++ parts.2 ∧ parts.2.length = witnessLen := by
  unfold splitProofAndWitness
  split
  · rename_i short
    simp only [reduceCtorEq, false_iff]
    omega
  · rename_i long
    rw [List.splitAt_eq, Except.ok.injEq]
    constructor
    · rintro rfl
      refine ⟨by omega, (List.take_append_drop _ _).symm, ?_⟩
      rw [List.length_drop]
      omega
    · rintro ⟨-, rfl, length⟩
      have start : (parts.1 ++ parts.2).length - witnessLen = parts.1.length := by
        rw [List.length_append]
        omega
      rw [start, List.take_left, List.drop_left]

/-- The low and the high half of a key, each as a field element. -/
def pubkeyToLimbs (pk : Pubkey) : Bytes32 × Bytes32 :=
  let hi : Bytes32 := ⟨List.replicate 16 0 ++ pk.bytes.take 16, by simp [pk.length_eq]⟩
  let lo : Bytes32 := ⟨List.replicate 16 0 ++ pk.bytes.drop 16, by simp [pk.length_eq]⟩
  (lo, hi)

def u64ToFieldBytes (x : UInt64) : Bytes32 :=
  ⟨List.replicate 24 0 ++ BigEndian.encode 8 x.toNat, by simp⟩

theorem half_lt {half : List UInt8} (length : half.length = 16) :
    BigEndian.value half < 256 ^ 16 :=
  length ▸ BigEndian.value_lt half

/-- A key half as a field element, wherever it stands in the key. -/
theorem limb_eq {half : List UInt8} (length : half.length = 16) :
    (Bytes32.ofNat (BigEndian.value half)).bytes = List.replicate 16 0 ++ half := by
  have below := half_lt length
  have written := BigEndian.encode_value half
  rw [length] at written
  rw [← written, BigEndian.value_encode below]
  exact BigEndian.encode_add below 16

theorem u64ToFieldBytes_eq (x : UInt64) : u64ToFieldBytes x = .ofNat x.toNat :=
  Bytes32.ext (BigEndian.encode_add x.toNat_lt 24).symm

def MERKLE_ROOT_IDX : Fin NR_INPUTS := ⟨0, by decide⟩
def NULLIFIER_IDX : Fin NR_INPUTS := ⟨1, by decide⟩
def MINT_LO_IDX : Fin NR_INPUTS := ⟨2, by decide⟩
def MINT_HI_IDX : Fin NR_INPUTS := ⟨3, by decide⟩
def EPOCH_IDX : Fin NR_INPUTS := ⟨4, by decide⟩
def RECIPIENT_LO_IDX : Fin NR_INPUTS := ⟨5, by decide⟩
def RECIPIENT_HI_IDX : Fin NR_INPUTS := ⟨6, by decide⟩
def AMOUNT_IDX : Fin NR_INPUTS := ⟨7, by decide⟩
def SANCTIONS_ROOT_IDX : Fin NR_INPUTS := ⟨8, by decide⟩
def JURISDICTION_ROOT_IDX : Fin NR_INPUTS := ⟨9, by decide⟩
def TIMESTAMP_IDX : Fin NR_INPUTS := ⟨10, by decide⟩

structure BindingInputs where
  merkleRoot : Bytes32
  nullifierHash : Bytes32
  mint : Pubkey
  epoch : UInt64
  recipient : Pubkey
  amount : UInt64
  sanctionsRoot : Bytes32
  jurisdictionRoot : Bytes32
  timestamp : UInt64
  deriving DecidableEq, Repr

def checkBindings (witness : GnarkWitness) (inputs : BindingInputs) : Except Error Unit := do
  require (TIMESTAMP_IDX.val < NR_INPUTS) (.zksettle .witnessTooShort)
  require (witness.entries MERKLE_ROOT_IDX = inputs.merkleRoot) (.zksettle .merkleRootMismatch)
  require (witness.entries NULLIFIER_IDX = inputs.nullifierHash) (.zksettle .nullifierMismatch)
  let (mintLo, mintHi) := pubkeyToLimbs inputs.mint
  require (witness.entries MINT_LO_IDX = mintLo ∧ witness.entries MINT_HI_IDX = mintHi)
    (.zksettle .mintMismatch)
  require (witness.entries EPOCH_IDX = u64ToFieldBytes inputs.epoch) (.zksettle .epochMismatch)
  let (rcptLo, rcptHi) := pubkeyToLimbs inputs.recipient
  require (witness.entries RECIPIENT_LO_IDX = rcptLo ∧ witness.entries RECIPIENT_HI_IDX = rcptHi)
    (.zksettle .recipientMismatch)
  require (witness.entries AMOUNT_IDX = u64ToFieldBytes inputs.amount) (.zksettle .amountMismatch)
  require (witness.entries SANCTIONS_ROOT_IDX = inputs.sanctionsRoot)
    (.zksettle .sanctionsRootMismatch)
  require (witness.entries JURISDICTION_ROOT_IDX = inputs.jurisdictionRoot)
    (.zksettle .jurisdictionRootMismatch)
  require (witness.entries TIMESTAMP_IDX = u64ToFieldBytes inputs.timestamp)
    (.zksettle .timestampMismatch)

/-- The eleven entries that encode the inputs. -/
def BindingInputs.entries (inputs : BindingInputs) : Fin NR_INPUTS → Bytes32 :=
  ![inputs.merkleRoot, inputs.nullifierHash, (pubkeyToLimbs inputs.mint).1,
    (pubkeyToLimbs inputs.mint).2, u64ToFieldBytes inputs.epoch,
    (pubkeyToLimbs inputs.recipient).1, (pubkeyToLimbs inputs.recipient).2,
    u64ToFieldBytes inputs.amount, inputs.sanctionsRoot, inputs.jurisdictionRoot,
    u64ToFieldBytes inputs.timestamp]

theorem checkBindings_eq_ok {witness : GnarkWitness} {inputs : BindingInputs} {u : Unit} :
    checkBindings witness inputs = .ok u ↔ witness.entries = inputs.entries := by
  simp only [checkBindings, bind_eq_ok, require_eq_ok, exists_const]
  constructor
  · rintro ⟨-, root, nullifier, ⟨mintLo, mintHi⟩, epoch, ⟨rcptLo, rcptHi⟩, amount, sanctions,
      jurisdiction, timestamp⟩
    -- the order of the checks is not that of the entries
    funext entry
    fin_cases entry <;> assumption
  · intro same
    rw [same]
    exact ⟨by decide, rfl, rfl, ⟨rfl, rfl⟩, rfl, ⟨rfl, rfl⟩, rfl, rfl, rfl, rfl⟩

variable {Proof Address World : Type} (env : External Proof Address World)

def verifyBundle (proofAndWitness : List UInt8) (bindings : BindingInputs) :
    Except Error Unit := do
  let witnessLen := expectedWitnessLen NR_INPUTS
  let (proofBytes, witnessBytes) ← splitProofAndWitness proofAndWitness witnessLen
  let proof ← okOr (env.gnarkProofFromBytes proofBytes) (.zksettle .malformedProof)
  let witness ← okOr (env.gnarkWitnessFromBytes witnessBytes) (.zksettle .malformedProof)
  checkBindings witness bindings
  require (env.verify proof witness = true) (.zksettle .proofInvalid)

/-- The verifier accepts the proof in a bundle with a witness that encodes the inputs. -/
structure BundleVerified (proofAndWitness : List UInt8) (bindings : BindingInputs)
    (proof : Proof) (witness : GnarkWitness) : Prop where
  parsed : ∃ proofBytes witnessBytes, proofAndWitness = proofBytes ++ witnessBytes ∧
    witnessBytes.length = expectedWitnessLen NR_INPUTS ∧ proofBytes ≠ [] ∧
    env.gnarkProofFromBytes proofBytes = some proof ∧
    env.gnarkWitnessFromBytes witnessBytes = some witness
  bound : witness.entries = bindings.entries
  accepted : env.verify proof witness = true

theorem verifyBundle_eq_ok {proofAndWitness : List UInt8} {bindings : BindingInputs} {u : Unit} :
    verifyBundle env proofAndWitness bindings = .ok u ↔
      ∃ proof witness, BundleVerified env proofAndWitness bindings proof witness := by
  simp only [verifyBundle, bind_eq_ok, splitProofAndWitness_eq_ok, okOr_eq_ok,
    checkBindings_eq_ok, require_eq_ok, exists_const]
  constructor
  · rintro ⟨⟨proofBytes, witnessBytes⟩, ⟨longer, split, length⟩, proof, parsed, witness, parsed',
      bound, accepted⟩
    -- the bundle is longer than its witness, so some bytes are left to the proof
    have nonempty : proofBytes ≠ [] := by
      rintro rfl
      rw [split, List.nil_append, length] at longer
      exact absurd longer (lt_irrefl _)
    exact ⟨proof, witness, ⟨proofBytes, witnessBytes, split, length, nonempty, parsed, parsed'⟩,
      bound, accepted⟩
  · rintro ⟨proof, witness, ⟨proofBytes, witnessBytes, split, length, nonempty, parsed, parsed'⟩,
      bound, accepted⟩
    have positive := List.length_pos_of_ne_nil nonempty
    refine ⟨(proofBytes, witnessBytes), ⟨?_, split, length⟩, proof, parsed, witness, parsed',
      bound, accepted⟩
    rw [split, List.length_append, length]
    omega

end ZkSettle.Program
