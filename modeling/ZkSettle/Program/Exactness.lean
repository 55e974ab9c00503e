import ZkSettle.Circuit.Main
import ZkSettle.Program.Handlers

/-!
# What the bindings and the clock determine

The witness that is checked determines the transfer it is checked for, in every field, and
every transfer has such a witness, whose numbers and limbs are field elements. The epoch
that is checked is the current one or the one before, so that its first second is far from
the end of the machine words, and no settlement fails on it.
-/
namespace ZkSettle.Program

open Checks
open ZkSettle.Circuit (BN254_ORDER)

/-! ## Bindings -/

/-- `check_bindings` on a witness of any number of entries. -/
def checkBindingsOf {n : Nat} (entries : Fin n → Bytes32) (inputs : BindingInputs) :
    Except Error Unit :=
  if wide : NR_INPUTS ≤ n then
    checkBindings { entries := fun entry => entries (Fin.castLE wide entry) } inputs
  else .error (.zksettle .witnessTooShort)

/-- On a witness of the verifying key it is `check_bindings`. -/
theorem checkBindingsOf_entries (witness : GnarkWitness) (inputs : BindingInputs) :
    checkBindingsOf witness.entries inputs = checkBindings witness inputs := by
  rw [checkBindingsOf, dif_pos le_rfl]
  rfl

/-- The entries that hold a number or one half of a key. -/
def limbEntries : List (Fin NR_INPUTS) :=
  [MINT_LO_IDX, MINT_HI_IDX, EPOCH_IDX, RECIPIENT_LO_IDX, RECIPIENT_HI_IDX, AMOUNT_IDX,
    TIMESTAMP_IDX]

theorem checkBindingsOf_eq_ok {n : Nat} {entries : Fin n → Bytes32} {inputs : BindingInputs}
    {u : Unit} : checkBindingsOf entries inputs = .ok u ↔
      ∃ wide : NR_INPUTS ≤ n, ∀ entry, entries (Fin.castLE wide entry) = inputs.entries entry := by
  rw [checkBindingsOf]
  split
  · next wide => simp [checkBindings_eq_ok, funext_iff, wide]
  · next short => simp [short]

theorem u64ToFieldBytes_toNat (x : UInt64) : (u64ToFieldBytes x).toNat = x.toNat := by
  have bound := x.toNat_lt
  rw [u64ToFieldBytes_eq, Bytes32.toNat_ofNat (by omega)]

theorem u64ToFieldBytes_injective : Function.Injective u64ToFieldBytes := by
  intro x y same
  rw [← UInt64.toNat_inj, ← u64ToFieldBytes_toNat, same, u64ToFieldBytes_toNat]

/-- The two limbs are the halves of the key. -/
theorem pubkeyToLimbs_eq (key : Pubkey) : pubkeyToLimbs key =
    (.ofNat (BigEndian.value (key.bytes.drop 16)),
      .ofNat (BigEndian.value (key.bytes.take 16))) := by
  have low : (key.bytes.drop 16).length = 16 := by simp [key.length_eq]
  have high : (key.bytes.take 16).length = 16 := by simp [key.length_eq]
  exact Prod.ext (Bytes32.ext (limb_eq low).symm) (Bytes32.ext (limb_eq high).symm)

theorem pubkeyToLimbs_injective : Function.Injective pubkeyToLimbs := by
  intro key other same
  rw [pubkeyToLimbs, pubkeyToLimbs, Prod.mk.injEq, Bytes32.mk.injEq, Bytes32.mk.injEq] at same
  have low := List.append_cancel_left same.1
  have high := List.append_cancel_left same.2
  apply Bytes32.ext
  rw [← List.take_append_drop 16 key.bytes, high, low, List.take_append_drop]

theorem limb_below {half : List UInt8} (length : half.length = 16) :
    (Bytes32.ofNat (BigEndian.value half)).toNat < BN254_ORDER := by
  rw [Bytes32.toNat_ofNat ((half_lt length).trans (by decide))]
  exact (half_lt length).trans (by decide)

theorem BindingInputs.entries_injective : Function.Injective BindingInputs.entries := by
  intro inputs other same
  have entry := congrFun same
  have mint : pubkeyToLimbs inputs.mint = pubkeyToLimbs other.mint :=
    Prod.ext (entry MINT_LO_IDX) (entry MINT_HI_IDX)
  have recipient : pubkeyToLimbs inputs.recipient = pubkeyToLimbs other.recipient :=
    Prod.ext (entry RECIPIENT_LO_IDX) (entry RECIPIENT_HI_IDX)
  have root : inputs.merkleRoot = other.merkleRoot := entry MERKLE_ROOT_IDX
  have nullifier : inputs.nullifierHash = other.nullifierHash := entry NULLIFIER_IDX
  have epoch := u64ToFieldBytes_injective (entry EPOCH_IDX)
  have amount := u64ToFieldBytes_injective (entry AMOUNT_IDX)
  have sanctions : inputs.sanctionsRoot = other.sanctionsRoot := entry SANCTIONS_ROOT_IDX
  have jurisdiction : inputs.jurisdictionRoot = other.jurisdictionRoot :=
    entry JURISDICTION_ROOT_IDX
  have timestamp := u64ToFieldBytes_injective (entry TIMESTAMP_IDX)
  cases inputs
  cases other
  simp_all [pubkeyToLimbs_injective.eq_iff]

theorem BindingInputs.entries_below (inputs : BindingInputs) :
    ∀ entry ∈ limbEntries, (inputs.entries entry).toNat < BN254_ORDER := by
  have number : ∀ x : UInt64, (u64ToFieldBytes x).toNat < BN254_ORDER := by
    intro x
    rw [u64ToFieldBytes_toNat]
    exact x.toNat_lt.trans (by decide)
  have limbs : ∀ key : Pubkey, (pubkeyToLimbs key).1.toNat < BN254_ORDER ∧
      (pubkeyToLimbs key).2.toNat < BN254_ORDER := by
    intro key
    rw [pubkeyToLimbs_eq]
    exact ⟨limb_below (by simp [key.length_eq]), limb_below (by simp [key.length_eq])⟩
  simp only [limbEntries, List.forall_mem_cons, List.not_mem_nil, false_implies, implies_true,
    and_true]
  exact ⟨(limbs _).1, (limbs _).2, number _, (limbs _).1, (limbs _).2, number _, number _⟩

/-- A witness that passes for two transfers passes for one, and every transfer has a witness
that passes, with numbers and limbs below the order of the field. -/
theorem checkBindings_unambiguous :
    (∀ (n : Nat) (entries : Fin n → Bytes32) (inputs other : BindingInputs),
      checkBindingsOf entries inputs = .ok () → checkBindingsOf entries other = .ok () →
        inputs = other) ∧
      ∀ (n : Nat) (wide : NR_INPUTS ≤ n) (inputs : BindingInputs), ∃ entries : Fin n → Bytes32,
        checkBindingsOf entries inputs = .ok () ∧
          ∀ entry ∈ limbEntries, (entries (Fin.castLE wide entry)).toNat < BN254_ORDER := by
  simp only [checkBindingsOf_eq_ok]
  constructor
  · rintro n entries inputs other ⟨wide, bound⟩ ⟨_, bound'⟩
    apply BindingInputs.entries_injective
    funext entry
    rw [← bound, ← bound']
  · intro n wide inputs
    -- entries beyond the eleventh are not looked at
    refine ⟨fun i => if inside : i.val < NR_INPUTS then inputs.entries ⟨i, inside⟩ else .zero,
      ⟨wide, fun entry => ?_⟩, fun entry member => ?_⟩
    · simp [entry.isLt]
    · simpa [entry.isLt] using inputs.entries_below entry member

/-! ## The epoch -/

def saturatingSubU64 (a b : UInt64) : UInt64 := if b ≤ a then a - b else 0

/-- `validate_epoch` in the words of the machine: the division of `i64` rounds towards zero
and the cast keeps the bits. -/
def validateEpochWords (unixTimestamp : Int64) (epoch : UInt64) : Except Error Unit := do
  require (0 ≤ unixTimestamp) (.zksettle .negativeClock)
  let currentEpoch := (unixTimestamp / 86400).toUInt64
  require (epoch ≤ currentEpoch) (.zksettle .epochInFuture)
  require (saturatingSubU64 currentEpoch epoch ≤ .ofNat MAX_EPOCH_LAG) (.zksettle .epochStale)

/-- The epoch of a clock that is not negative. -/
theorem currentEpoch_toNat {unixTimestamp : Int64} (positive : 0 ≤ unixTimestamp) :
    (unixTimestamp / 86400).toUInt64.toNat = (unixTimestamp.toInt / EPOCH_LEN_SECS).toNat := by
  have nonneg : 0 ≤ unixTimestamp.toInt := Int64.le_iff_toInt_le.mp positive
  have quotient : (unixTimestamp / 86400).toInt = unixTimestamp.toInt / EPOCH_LEN_SECS := by
    rw [Int64.toInt_div_of_ne_right _ _ (by decide), Int.tdiv_eq_ediv_of_nonneg nonneg]
    rfl
  have above : 0 ≤ unixTimestamp / 86400 := by
    rw [Int64.le_iff_toInt_le, quotient]
    exact Int.ediv_nonneg nonneg (by decide)
  rw [Int64.toNat_toUInt64_of_le above, Int64.toNatClampNeg, quotient]

theorem saturatingSubU64_toNat (a b : UInt64) :
    (saturatingSubU64 a b).toNat = a.toNat - b.toNat := by
  rw [saturatingSubU64]
  split
  · next le => exact UInt64.toNat_sub_of_le _ _ le
  · next above =>
    rw [UInt64.le_iff_toNat_le] at above
    simp
    omega

theorem validateEpochWords_eq (unixTimestamp : Int64) (epoch : UInt64) :
    validateEpochWords unixTimestamp epoch = validateEpoch unixTimestamp epoch := by
  have clock : 0 ≤ unixTimestamp ↔ 0 ≤ unixTimestamp.toInt := Int64.le_iff_toInt_le
  rw [validateEpochWords, validateEpoch]
  by_cases positive : 0 ≤ unixTimestamp
  · have current := currentEpoch_toNat positive
    have lag : (UInt64.ofNat MAX_EPOCH_LAG).toNat = MAX_EPOCH_LAG := rfl
    simp only [UInt64.le_iff_toNat_le, saturatingSubU64_toNat, current, lag, clock]
  · have negative := mt clock.mpr positive
    simp only [require, if_neg positive, if_neg negative]
    rfl

/-- After the check the product fits into a word. -/
theorem epochTimestamp_of_valid {unixTimestamp : Int64} {epoch : UInt64}
    (valid : validateEpoch unixTimestamp epoch = .ok ()) :
    ∃ timestamp, epochTimestamp epoch = .ok timestamp ∧ timestamp.toNat = epoch.toNat * 86400 := by
  obtain ⟨-, below, -⟩ := validateEpoch_eq_ok.mp valid
  have bound := unixTimestamp.toInt_lt
  have fits : epoch.toNat * EPOCH_LEN_SECS < 2 ^ 64 := by
    rw [EPOCH_LEN_SECS]
    omega
  refine ⟨.ofNat (epoch.toNat * EPOCH_LEN_SECS), if_pos fits, UInt64.toNat_ofNat_of_lt' fits⟩

/-! ## Errors of a settlement -/

/-- The error of `checked_mul`. -/
abbrev overflow : Error := .zksettle .epochTimestampOverflow

theorem validateEpoch_ne_overflow (unixTimestamp : Int64) (epoch : UInt64) :
    validateEpoch unixTimestamp epoch ≠ .error overflow := by
  simp [validateEpoch, bind_eq_error, require_eq_error]

theorem read_ne_overflow {T : Type} {World : Type} (view : ProgramAccount → Option T)
    (s : State World) (address : Pubkey) : s.read view address ≠ .error overflow := by
  simp [State.read, bind_eq_error, okOr_eq_error]

section Errors

variable {Proof Address World : Type} (env : External Proof Address World)

theorem load_ne_overflow (accounts : VerifyProof) (s : State World) (clock : Clock) :
    accounts.load env s clock ≠ .error overflow := by
  simp [VerifyProof.load, State.issuer, State.registry, checkBubblegumAccounts, bind_eq_error,
    require_eq_error, read_ne_overflow, pure_eq_error, -bind_pure_comp]

theorem verifyBundle_ne_overflow (proofAndWitness : List UInt8) (bindings : BindingInputs) :
    verifyBundle env proofAndWitness bindings ≠ .error overflow := by
  have split : ∀ witnessLen,
      splitProofAndWitness proofAndWitness witnessLen ≠ .error overflow := by
    intro witnessLen
    rw [splitProofAndWitness]
    split <;> simp
  simp [verifyBundle, split, checkBindings, bind_eq_error, require_eq_error, okOr_eq_error]

theorem settleCore_ne_overflow (s : State World) (params : SettlementParams) :
    settleCore env s params ≠ .error overflow := by
  simp [settleCore, lightInvoke, bind_eq_error, require_eq_error, okOr_eq_error, pure_eq_error,
    -bind_pure_comp]

theorem invokeMintV1_ne_overflow (s : State World) (treeConfig leafOwner merkleTree payer
    treeCreatorOrDelegate logWrapper compressionProgram systemProgram : Pubkey)
    (metadata : BgMetadataArgs) :
    invokeMintV1 env s treeConfig leafOwner merkleTree payer treeCreatorOrDelegate logWrapper
      compressionProgram systemProgram metadata ≠ .error overflow := by
  simp [invokeMintV1, bind_eq_error, okOr_eq_error, pure_eq_error, -bind_pure_comp]

theorem cpiMintComplianceAttestation_ne_overflow (s : State World) (accounts : NamedBubblegum)
    (payer : Pubkey) (attested : Attested) :
    cpiMintComplianceAttestation env s accounts payer attested ≠ .error overflow := by
  simp [cpiMintComplianceAttestation, bind_eq_error, require_eq_error, invokeMintV1_ne_overflow]

theorem cpiMintFromRemainingTail_ne_overflow (s : State World) (tail : List AccountInfo)
    (registryMerkleTree expectedLeafOwner : Pubkey) (attested : Attested) :
    cpiMintFromRemainingTail env s tail registryMerkleTree expectedLeafOwner attested ≠
      .error overflow := by
  unfold cpiMintFromRemainingTail
  split
  · simp [bind_eq_error, require_eq_error, invokeMintV1_ne_overflow]
  · simp

theorem toValidityProof_ne_overflow (args : StagedLightArgs) :
    args.toValidityProof env ≠ .error overflow := by
  rw [StagedLightArgs.toValidityProof]
  split
  · simp [bind_eq_error, okOr_eq_error, pure_eq_error, -bind_pure_comp]
  · simp [pure_eq_error]

theorem require_ne_overflow {condition : Prop} [Decidable condition] {error : Error}
    (other : error ≠ overflow) :
    (require condition error : Except Error Unit) ≠ .error overflow := by
  simp [require_eq_error, other]

/-- The product is not what the handler of `verify_proof` fails with. -/
theorem handler_ne_overflow (s : State World) (clock : Clock) (accounts : VerifyProof)
    (args : VerifyProofArgs) (remaining : List AccountInfo) :
    handler env s clock accounts args remaining ≠ .error overflow := by
  rw [handler]
  refine bind_ne_error (load_ne_overflow env accounts s clock) fun issuer _ => ?_
  refine bind_ne_error (require_ne_overflow (by decide)) fun _ _ => ?_
  refine bind_ne_error (require_ne_overflow (by decide)) fun _ _ => ?_
  refine bind_ne_error (require_ne_overflow (by decide)) fun _ _ => ?_
  refine bind_ne_error (validateEpoch_ne_overflow _ _) fun _ valid => ?_
  -- the epoch has been checked
  obtain ⟨timestamp, computed, -⟩ := epochTimestamp_of_valid valid
  refine bind_ne_error (by simp [computed]) fun timestamp _ => ?_
  refine bind_ne_error (verifyBundle_ne_overflow env _ _) fun _ _ => ?_
  refine bind_ne_error (settleCore_ne_overflow env _ _) fun settled _ => ?_
  exact cpiMintComplianceAttestation_ne_overflow env settled _ _ _

/-- The product is not what a staged settlement fails with. -/
theorem runSettlement_ne_overflow (s : State World) (clock : Clock) (sctx : SettlementContext) :
    runSettlement env s clock sctx ≠ .error overflow := by
  have guards : validateSettlementGuards sctx.payload.mint sctx.payload.recipient
      sctx.payload.amount sctx.payload.epoch sctx.mintKey sctx.destinationKey sctx.amount
      sctx.issuer.rootSlot clock.slot clock.unixTimestamp ≠ .error overflow := by
    simp [validateSettlementGuards, bind_eq_error, require_eq_error, validateEpoch_ne_overflow]
  rw [runSettlement]
  refine bind_ne_error (require_ne_overflow (by decide)) fun _ _ => ?_
  refine bind_ne_error guards fun _ guarded => ?_
  -- the guards end with the check of the epoch
  simp only [validateSettlementGuards, bind_eq_ok] at guarded
  obtain ⟨_, -, _, -, _, -, _, -, _, -, valid⟩ := guarded
  obtain ⟨timestamp, computed, -⟩ := epochTimestamp_of_valid valid
  refine bind_ne_error (by simp [computed]) fun timestamp _ => ?_
  refine bind_ne_error (verifyBundle_ne_overflow env _ _) fun _ _ => ?_
  refine bind_ne_error (toValidityProof_ne_overflow env _) fun _ _ => ?_
  refine bind_ne_error (settleCore_ne_overflow env _ _) fun settled _ => ?_
  cases sctx.bubblegumMint with
  | none => simp [pure_eq_error]
  | tail accounts => exact cpiMintFromRemainingTail_ne_overflow env settled _ _ _ _
  | named accounts => exact cpiMintComplianceAttestation_ne_overflow env settled _ _ _

end Errors

/-- The epoch is accepted exactly in its window of two days, and where it is accepted the
product with the length of an epoch fits, so that neither entry fails on it. -/
theorem epoch_window_exact {Proof Address World : Type} (env : External Proof Address World) :
    (∀ (unixTimestamp : Int64) (epoch : UInt64), validateEpochWords unixTimestamp epoch = .ok () ↔
      0 ≤ unixTimestamp.toInt ∧ epoch.toNat * 86400 ≤ unixTimestamp.toInt ∧
        unixTimestamp.toInt < (epoch.toNat + 2) * 86400) ∧
      (∀ (unixTimestamp : Int64) (epoch : UInt64),
        validateEpochWords unixTimestamp epoch = .ok () →
          ∃ timestamp, epochTimestamp epoch = .ok timestamp ∧
            timestamp.toNat = epoch.toNat * 86400) ∧
      (∀ (s : State World) (clock : Clock) (accounts : VerifyProof) (args : VerifyProofArgs)
        (remaining : List AccountInfo),
        handler env s clock accounts args remaining ≠ .error (.zksettle .epochTimestampOverflow)) ∧
      ∀ (s : State World) (clock : Clock) (sctx : SettlementContext),
        runSettlement env s clock sctx ≠ .error (.zksettle .epochTimestampOverflow) := by
  simp only [validateEpochWords_eq]
  exact ⟨fun _ _ => validateEpoch_eq_ok, fun _ _ valid => epochTimestamp_of_valid valid,
    handler_ne_overflow env, runSettlement_ne_overflow env⟩

end ZkSettle.Program
