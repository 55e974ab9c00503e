import ZkSettle.Circuit.Main
import ZkSettle.Program.Reference

/-!
# Encodings of a nullifier

The replay barrier is keyed on the 32 bytes of a nullifier, the proof speaks about a
field element. No check of the program rejects a nullifier at or above the order of
the field, so one proof is accepted with several byte strings of one nullifier.
-/
namespace ZkSettle.Program

open Checks
open ZkSettle.Circuit (BN254_ORDER)

variable {Proof Address World : Type} {env : External Proof Address World}

/-- The verdict depends on the entries through their residues. -/
def ResidueVerdict (env : External Proof Address World) : Prop :=
  ∀ proof witness witness',
    (∀ entry, (witness.entries entry).toNat % BN254_ORDER =
      (witness'.entries entry).toNat % BN254_ORDER) →
    env.verify proof witness = env.verify proof witness'

/-- Every list of entries can be written as a witness of the expected length. -/
def WitnessFormat (env : External Proof Address World) : Prop :=
  ∀ witness, ∃ bytes, bytes.length = expectedWitnessLen NR_INPUTS ∧
    env.gnarkWitnessFromBytes bytes = some witness

/-- `verify_bundle` accepts the proof under a nullifier, with some witness. -/
def AcceptsNullifier (env : External Proof Address World) (proofBytes : List UInt8)
    (bindings : BindingInputs) (nullifierHash : Bytes32) : Prop :=
  ∃ witnessBytes, witnessBytes.length = expectedWitnessLen NR_INPUTS ∧
    verifyBundle env (proofBytes ++ witnessBytes) { bindings with nullifierHash } = .ok ()

/-- One field element has at most one accepted byte string. -/
def NullifierCanonical (env : External Proof Address World) (proofBytes : List UInt8)
    (bindings : BindingInputs) : Prop :=
  ∀ n n', AcceptsNullifier env proofBytes bindings n → AcceptsNullifier env proofBytes bindings n' →
    n.toNat % BN254_ORDER = n'.toNat % BN254_ORDER → n = n'

/-- Another byte string of the same field element: `2 ^ 256` is more than twice the order. -/
def otherEncoding (n : Bytes32) : Bytes32 :=
  if n.toNat + BN254_ORDER < 2 ^ 256 then .ofNat (n.toNat + BN254_ORDER)
  else .ofNat (n.toNat - BN254_ORDER)

theorem otherEncoding_toNat (n : Bytes32) :
    (otherEncoding n).toNat = n.toNat + BN254_ORDER ∨
      (otherEncoding n).toNat + BN254_ORDER = n.toNat ∧ 0 < (otherEncoding n).toNat := by
  have bound := n.toNat_lt
  have wide : 2 * BN254_ORDER < 2 ^ 256 := by decide
  unfold otherEncoding
  split
  · rename_i fits
    exact Or.inl (Bytes32.toNat_ofNat fits)
  · right
    rw [Bytes32.toNat_ofNat (by omega)]
    omega

theorem otherEncoding_ne (n : Bytes32) : otherEncoding n ≠ n := by
  have positive : 0 < BN254_ORDER := by decide
  intro same
  have value := otherEncoding_toNat n
  rw [same] at value
  omega

/-- The other byte string is not the one that the handlers reject. -/
theorem otherEncoding_ne_zero (n : Bytes32) : otherEncoding n ≠ .zero := by
  have positive : 0 < BN254_ORDER := by decide
  intro zero
  have value := otherEncoding_toNat n
  rw [zero, Bytes32.toNat_zero] at value
  omega

theorem otherEncoding_mod (n : Bytes32) :
    (otherEncoding n).toNat % BN254_ORDER = n.toNat % BN254_ORDER := by
  rcases otherEncoding_toNat n with above | ⟨below, -⟩
  · rw [above, Nat.add_mod_right]
  · rw [← below, Nat.add_mod_right]

theorem bindings_entries_mod (bindings : BindingInputs) {n n' : Bytes32}
    (same : n.toNat % BN254_ORDER = n'.toNat % BN254_ORDER) (entry : Fin NR_INPUTS) :
    (({ bindings with nullifierHash := n } : BindingInputs).entries entry).toNat % BN254_ORDER =
      (({ bindings with nullifierHash := n' } : BindingInputs).entries entry).toNat %
        BN254_ORDER := by
  -- only the entry of the nullifier differs
  by_cases nullifier : entry = NULLIFIER_IDX
  · rw [nullifier]
    exact same
  · fin_cases entry
    case «1» => exact absurd rfl nullifier
    all_goals rfl

/-- A proof that is accepted is also accepted under every congruent nullifier. -/
theorem acceptsNullifier_of_mod (verdict : ResidueVerdict env) (format : WitnessFormat env)
    {proofBytes : List UInt8} {bindings : BindingInputs} {n n' : Bytes32}
    (same : n.toNat % BN254_ORDER = n'.toNat % BN254_ORDER)
    (accepts : AcceptsNullifier env proofBytes bindings n) :
    AcceptsNullifier env proofBytes bindings n' := by
  obtain ⟨witnessBytes, length, accepted⟩ := accepts
  obtain ⟨proof, witness, verified⟩ := (verifyBundle_eq_ok env).mp accepted
  obtain ⟨proofBytes', witnessBytes', split, length', nonempty, parsed, -⟩ := verified.parsed
  obtain ⟨rfl, rfl⟩ := List.append_inj' split (length.trans length'.symm)
  -- the witness with the other byte string has the same residues, so the same verdict
  let other : GnarkWitness := { entries := ({ bindings with nullifierHash := n' } :
    BindingInputs).entries }
  obtain ⟨bytes, width, written⟩ := format other
  have accepted' : env.verify proof other = true := by
    rw [← verdict proof witness other]
    · exact verified.accepted
    · intro entry
      rw [verified.bound]
      exact bindings_entries_mod bindings same entry
  exact ⟨bytes, width, (verifyBundle_eq_ok env).mpr
    ⟨proof, other, ⟨_, bytes, rfl, width, nonempty, parsed, written⟩, rfl, accepted'⟩⟩

/-- An accepted nullifier has another byte string, which the handlers do not reject. -/
theorem exists_other_nullifier (verdict : ResidueVerdict env) (format : WitnessFormat env)
    {proofBytes : List UInt8} {bindings : BindingInputs} {n : Bytes32}
    (accepts : AcceptsNullifier env proofBytes bindings n) :
    ∃ n', n' ≠ n ∧ n' ≠ .zero ∧ n'.toNat % BN254_ORDER = n.toNat % BN254_ORDER ∧
      AcceptsNullifier env proofBytes bindings n' :=
  ⟨otherEncoding n, otherEncoding_ne n, otherEncoding_ne_zero n, otherEncoding_mod n,
    acceptsNullifier_of_mod verdict format (otherEncoding_mod n).symm accepts⟩

/-- A proof has one byte string for each nullifier only when it has none. -/
theorem nullifier_canonical_iff (verdict : ResidueVerdict env) (format : WitnessFormat env)
    (proofBytes : List UInt8) (bindings : BindingInputs) :
    NullifierCanonical env proofBytes bindings ↔
      ∀ n, ¬ AcceptsNullifier env proofBytes bindings n := by
  constructor
  · intro canonical n accepts
    obtain ⟨n', distinct, -, same, accepts'⟩ := exists_other_nullifier verdict format accepts
    exact distinct (canonical n' n accepts' accepts same)
  · intro none n n' accepts
    exact absurd accepts (none n)

/-! ## The reference -/

theorem reference_residueVerdict : ResidueVerdict reference := fun _ _ _ _ => rfl

theorem reference_witnessFormat : WitnessFormat reference := by
  intro witness
  have length : (List.replicate GNARK_WITNESS_HEADER_LEN (0 : UInt8) ++
      (List.ofFn witness.entries).flatMap Bytes32.bytes).length =
        expectedWitnessLen NR_INPUTS := by
    rw [List.length_append, List.length_replicate, BigEndian.flatMap_length Bytes32.length_eq,
      List.length_ofFn, expectedWitnessLen]
  refine ⟨_, length, ?_⟩
  simp only [reference, Reference.gnarkWitnessFromBytes]
  rw [dif_pos length]
  congr
  funext index
  apply Bytes32.ext
  -- after the header, the entry stands at 32 times its index
  have header : (List.replicate GNARK_WITNESS_HEADER_LEN (0 : UInt8)).length =
      GNARK_WITNESS_HEADER_LEN := List.length_replicate
  have inside : index.val < (List.ofFn witness.entries).length := by
    rw [List.length_ofFn]
    exact index.isLt
  have entry := BigEndian.take_drop_flatMap Bytes32.length_eq inside
  rw [List.getElem_ofFn] at entry
  rw [← entry]
  simp only [List.drop_append, List.drop_replicate, header]
  simp

open Scenario in
theorem nullifier_canonical_settle : NullifierCanonical reference [1] bindings ↔
    ∀ n, ¬ AcceptsNullifier reference [1] bindings n :=
  nullifier_canonical_iff reference_residueVerdict reference_witnessFormat [1] bindings

open Scenario in
/-- A nullifier and the same nullifier plus the order are accepted with one proof. -/
theorem not_nullifier_canonical :
    ¬ ∀ (Proof Address World : Type) (env : External Proof Address World),
      ResidueVerdict env → ∀ (proofBytes : List UInt8) (bindings : BindingInputs),
        NullifierCanonical env proofBytes bindings := by
  intro canonical
  let witnessOf (inputs : BindingInputs) : List UInt8 := (bundle inputs).tail
  have accepts : AcceptsNullifier reference [1] bindings (.ofNat 5) :=
    ⟨witnessOf bindings, by decide +kernel, by decide +kernel⟩
  have accepts' : AcceptsNullifier reference [1] bindings (.ofNat (5 + BN254_ORDER)) :=
    ⟨witnessOf { bindings with nullifierHash := .ofNat (5 + BN254_ORDER) }, by decide +kernel,
      by decide +kernel⟩
  have same := canonical _ _ _ reference reference_residueVerdict [1] bindings _ _ accepts
    accepts' (by decide +kernel)
  exact absurd same (by decide +kernel)

end ZkSettle.Program
