import ZkSettle.Frontend.Flow
import ZkSettle.Sdk.Hexadecimal
import ZkSettle.Sdk.Upload

/-!
# What the browser flow submits

`runStepSubmit` stages the transfer of the proof: the nullifier is read back from the public
inputs, the keys and the amount come from the form again, and the epoch from the clock. The
clock was read before, when the proof was made, so that the two agree only within one epoch.
-/
namespace ZkSettle.Frontend

open Checks
open ZkSettle.Circuit (BN254_ORDER)
open ZkSettle.Program
open ZkSettle.Sdk
open ZkSettle.Service (CredentialRecord)

/-! ## Source -/

/-- `clean.match(/.{1,2}/g)`, for a string of one line -/
def hexPairs : Text → List Text
  | high :: low :: rest => [high, low] :: hexPairs rest
  | [last] => [[last]]
  | [] => []

def hexToBytes (hex : Text) : List UInt8 :=
  let clean := match hex with
    | '0' :: 'x' :: rest => rest
    | _ => hex
  (hexPairs clean).map parseIntByte

/-- `proveGroth16` returns the entries of the public witness as strings. -/
def groth16PublicInputs (witness : GnarkWitness) : List Text :=
  List.ofFn fun entry => toHex (witness.entries entry).bytes

section Source

variable {Proof Address World : Type} (env : External Proof Address World)

/-- The instruction that ends the upload of `runStepSubmit`; a nullifier of another length does
not fit into it. -/
def submitFinalize (publicKey : Pubkey) (publicInputs : List Text)
    (transferParams : TransferParams) (dateNow : Nat) : Option Call :=
  let nullifierBytes := hexToBytes (publicInputs.getD 1 [])
  let epoch := dateNow / 1000 / 86400
  if length_eq : nullifierBytes.length = 32 then
    some (.finalizeHookPayload (hookAccounts env publicKey) ⟨nullifierBytes, length_eq⟩
      transferParams.mint (.ofNat epoch) transferParams.recipient
      (.ofNat transferParams.amount.toNat) DEFAULT_LIGHT_ARGS)
  else none

end Source

/-! ## Bytes read back -/

theorem parseIntByte_hexByte (byte : UInt8) : parseIntByte (Numerals.hexByte byte) = byte := by
  have high : byte.toNat / 16 < 16 := by
    have := byte.toNat_lt
    omega
  have low : byte.toNat % 16 < 16 := Nat.mod_lt _ (by decide)
  rw [Numerals.hexByte_digits, parseIntByte_pair (Numerals.digitValue_digitChar high) high
    (Numerals.digitValue_digitChar low) low, Nat.div_add_mod', UInt8.ofNat_toNat]

theorem hexPairs_hex (bytes : List UInt8) :
    hexPairs (Numerals.hex bytes) = bytes.map Numerals.hexByte := by
  induction bytes with
  | nil => rfl
  | cons byte rest ih =>
    rw [Numerals.hex, List.flatMap_cons, Numerals.hexByte_digits]
    simp only [List.cons_append, List.nil_append, hexPairs, List.map_cons]
    rw [← Numerals.hex, ih, Numerals.hexByte_digits]

/-- Bytes written with a prefix are read back. -/
@[simp] theorem hexToBytes_toHex (bytes : List UInt8) : hexToBytes (toHex bytes) = bytes := by
  simp only [hexToBytes, toHex, hexPairs_hex, List.map_map]
  induction bytes with
  | nil => rfl
  | cons byte rest ih => rw [List.map_cons, Function.comp, parseIntByte_hexByte, ih]

/-! ## What was proved and what is staged -/

/-- The staged fields are those of the public inputs, and with the roots that were proved the
binding check succeeds as long as the epoch is accepted. -/
structure StagesWhatWasProved (witness : GnarkWitness) (payload : HookPayload) : Prop where
  nullifier : witness.entries NULLIFIER_IDX = payload.nullifierHash
  mint : witness.entries MINT_LO_IDX = (pubkeyToLimbs payload.mint).1 ∧
    witness.entries MINT_HI_IDX = (pubkeyToLimbs payload.mint).2
  epoch : witness.entries EPOCH_IDX = u64ToFieldBytes payload.epoch
  recipient : witness.entries RECIPIENT_LO_IDX = (pubkeyToLimbs payload.recipient).1 ∧
    witness.entries RECIPIENT_HI_IDX = (pubkeyToLimbs payload.recipient).2
  amount : witness.entries AMOUNT_IDX = u64ToFieldBytes payload.amount
  bound : ∀ (sctx : SettlementContext) (clock : Clock) (timestamp : UInt64),
    sctx.payload = payload → witness.entries MERKLE_ROOT_IDX = sctx.issuer.merkleRoot →
    witness.entries SANCTIONS_ROOT_IDX = sctx.issuer.sanctionsRoot →
    witness.entries JURISDICTION_ROOT_IDX = sctx.issuer.jurisdictionRoot →
    validateEpoch clock.unixTimestamp payload.epoch = .ok () →
    epochTimestamp payload.epoch = .ok timestamp →
    checkBindings witness (sctx.bindings timestamp) = .ok ()

/-- The strings of the two halves are the limbs of the key. -/
theorem limbs_encoded (key : Pubkey) :
    fieldBytes (toHex (key.bytes.drop 16)) = some (pubkeyToLimbs key).1 ∧
      fieldBytes (toHex (key.bytes.take 16)) = some (pubkeyToLimbs key).2 := by
  have low : (key.bytes.drop 16).length = 16 := by simp [key.length_eq]
  have high : (key.bytes.take 16).length = 16 := by simp [key.length_eq]
  exact ⟨(fieldBytes_half_iff low _ rfl).mpr rfl, (fieldBytes_half_iff high _ rfl).mpr rfl⟩

/-- A negative amount is no field element. -/
theorem fieldBytes_negative (n : Nat) : fieldBytes (numberToString (.negSucc n)) = none := by
  simp [numberToString, fieldBytes, Numerals.parse, Numerals.readDigits, Numerals.digitValue]

/-- The amount that is proved is the one that is staged. -/
theorem amount_encoded (transferParams : TransferParams) {entry : Bytes32}
    (encoded : fieldBytes (numberToString transferParams.amount) = some entry) :
    entry = u64ToFieldBytes (.ofNat transferParams.amount.toNat) := by
  have small := transferParams.isSafe
  cases amount : transferParams.amount with
  | ofNat n =>
    rw [amount] at encoded small
    have fits : n < 2 ^ 64 := by
      rw [Int.natAbs_ofNat'] at small
      omega
    have value : (UInt64.ofNat n).toNat = n := UInt64.toNat_ofNat_of_lt' fits
    have same := (fieldBytes_decimal_iff n (.ofNat n)).mpr value.symm
    exact Option.some.inj (encoded.symm.trans same)
  | negSucc n =>
    rw [amount, fieldBytes_negative] at encoded
    cases encoded

section Submission

/-- The nullifier is read back from the second string. -/
theorem nullifier_groth16PublicInputs (witness : GnarkWitness) :
    hexToBytes ((groth16PublicInputs witness).getD 1 []) =
      (witness.entries NULLIFIER_IDX).bytes := by
  have second : (groth16PublicInputs witness).getD 1 [] =
      toHex (witness.entries NULLIFIER_IDX).bytes := by
    simp [groth16PublicInputs, NR_INPUTS, NULLIFIER_IDX]
  rw [second, hexToBytes_toHex]

variable {Proof Address World : Type} {env : External Proof Address World}

theorem submitFinalize_witness (publicKey : Pubkey) (witness : GnarkWitness)
    (transferParams : TransferParams) (dateNow : Nat) :
    submitFinalize env publicKey (groth16PublicInputs witness) transferParams dateNow =
      some (.finalizeHookPayload (hookAccounts env publicKey) (witness.entries NULLIFIER_IDX)
        transferParams.mint (.ofNat (dateNow / 1000 / 86400)) transferParams.recipient
        (.ofNat transferParams.amount.toNat) DEFAULT_LIGHT_ARGS) := by
  simp only [submitFinalize, nullifier_groth16PublicInputs,
    (witness.entries NULLIFIER_IDX).length_eq, dif_pos]

/-- The payload that the program keeps of the instruction. -/
theorem submitFinalize_stored {s s' : State World} {publicKey : Pubkey} {witness : GnarkWitness}
    {transferParams : TransferParams} {dateNow : Nat} {call : Call}
    (submitted : submitFinalize env publicKey (groth16PublicInputs witness) transferParams
      dateNow = some call) (accepted : step env s call = .ok s') {payload : HookPayload}
    {dataLen : Nat}
    (held : s'.accounts (env.hookPayloadAddress publicKey) =
      some (.hookPayload payload dataLen)) :
    payload.nullifierHash = witness.entries NULLIFIER_IDX ∧
      payload.mint = transferParams.mint ∧ payload.epoch = .ofNat (dateNow / 1000 / 86400) ∧
      payload.recipient = transferParams.recipient ∧
      payload.amount = .ofNat transferParams.amount.toNat := by
  rw [submitFinalize_witness] at submitted
  cases submitted
  simp only [step, finalizeHookPayloadHandler, bind_eq_ok, require_eq_ok, pure_eq_ok] at accepted
  obtain ⟨_, -, _, -, _, -, rfl⟩ := accepted
  simp only [hookAccounts, State.setAccount_accounts, Function.update_self] at held
  cases held
  simp only [and_self]

end Submission

/-- The flow stages what it has proved if and only if the two readings of the clock are in one
epoch. -/
theorem staged_as_proved_iff {Proof Address World : Type} (env : External Proof Address World)
    (poseidon2Hash : List Nat → Nat) (credential : CredentialRecord) (paths : MerklePaths)
    (transferParams : TransferParams) (provedAt submittedAt : SafeInteger)
    {inputs : ProofInputs}
    (assembled : runStepProofGeneration poseidon2Hash credential paths transferParams
      provedAt.value = .ok inputs) {witness : GnarkWitness} (encodes : inputs.Encodes witness)
    {publicKey : Pubkey} {call : Call}
    (submitted : submitFinalize env publicKey (groth16PublicInputs witness) transferParams
      submittedAt.value = some call) {s s' : State World} (accepted : step env s call = .ok s')
    {payload : HookPayload} {dataLen : Nat}
    (held : s'.accounts (env.hookPayloadAddress publicKey) =
      some (.hookPayload payload dataLen)) :
    StagesWhatWasProved witness payload ↔
      provedAt.value / 1000 / 86400 = submittedAt.value / 1000 / 86400 := by
  obtain ⟨nullifier, mint, epoch, recipient, amount⟩ :=
    submitFinalize_stored submitted accepted held
  simp only [runStepProofGeneration, bind_eq_ok, mapError_eq_ok, pure_eq_ok] at assembled
  obtain ⟨hashed, -, rfl⟩ := assembled
  have safe := submittedAt.isSafe
  have fits : submittedAt.value / 1000 / 86400 < 2 ^ 64 := by omega
  have staged : payload.epoch.toNat = submittedAt.value / 1000 / 86400 := by
    rw [epoch]
    exact UInt64.toNat_ofNat_of_lt' fits
  have day : witness.entries EPOCH_IDX = u64ToFieldBytes payload.epoch ↔
      provedAt.value / 1000 / 86400 = submittedAt.value / 1000 / 86400 := by
    rw [← staged, ← fieldBytes_decimal_iff]
    constructor
    · intro same
      rw [← same]
      exact encodes EPOCH_IDX
    · intro same
      exact Option.some.inj ((encodes EPOCH_IDX).symm.trans same)
  constructor
  · intro stages
    exact day.mp stages.epoch
  · intro same
    have epochs := day.mpr same
    have mintLimbs : witness.entries MINT_LO_IDX = (pubkeyToLimbs payload.mint).1 ∧
        witness.entries MINT_HI_IDX = (pubkeyToLimbs payload.mint).2 := by
      obtain ⟨low, high⟩ := limbs_encoded payload.mint
      rw [mint] at low high ⊢
      exact ⟨Option.some.inj ((encodes MINT_LO_IDX).symm.trans low),
        Option.some.inj ((encodes MINT_HI_IDX).symm.trans high)⟩
    have recipientLimbs : witness.entries RECIPIENT_LO_IDX = (pubkeyToLimbs payload.recipient).1 ∧
        witness.entries RECIPIENT_HI_IDX = (pubkeyToLimbs payload.recipient).2 := by
      obtain ⟨low, high⟩ := limbs_encoded payload.recipient
      rw [recipient] at low high ⊢
      exact ⟨Option.some.inj ((encodes RECIPIENT_LO_IDX).symm.trans low),
        Option.some.inj ((encodes RECIPIENT_HI_IDX).symm.trans high)⟩
    have amounts : witness.entries AMOUNT_IDX = u64ToFieldBytes payload.amount := by
      rw [amount]
      exact amount_encoded transferParams (encodes AMOUNT_IDX)
    refine ⟨nullifier.symm, mintLimbs, epochs, recipientLimbs, amounts, ?_⟩
    rintro sctx clock timestamp rfl merkleRoot sanctionsRoot jurisdictionRoot - time
    -- the timestamp follows from the epoch on both sides
    have timestamps : witness.entries TIMESTAMP_IDX = u64ToFieldBytes timestamp := by
      have seconds := epochTimestamp_toNat time
      rw [staged, ← same, EPOCH_LEN_SECS] at seconds
      have value := (fieldBytes_decimal_iff _ timestamp).mpr seconds.symm
      exact Option.some.inj ((encodes TIMESTAMP_IDX).symm.trans value)
    rw [checkBindings_eq_ok]
    funext entry
    fin_cases entry
    · exact merkleRoot
    · exact nullifier.symm
    · exact mintLimbs.1
    · exact mintLimbs.2
    · exact epochs
    · exact recipientLimbs.1
    · exact recipientLimbs.2
    · exact amounts
    · exact sanctionsRoot
    · exact jurisdictionRoot
    · exact timestamps

namespace Sample

def credential : CredentialRecord where
  wallet := .ofNat 1
  leafIndex := 0
  jurisdiction := "US"
  issuedAt := 0
  revoked := false

def paths : MerklePaths where
  membership := { wallet := "", leafIndex := 0, path := [], pathIndices := [], root := ['7'] }
  sanctions := { wallet := "", path := [], pathIndices := [], leafValue := ['0'], root := ['8'] }
  roots :=
    { membershipRoot := ['7']
      sanctionsRoot := ['8']
      jurisdictionRoot := ['9']
      lastPublishSlot := 0
      walletCount := 1 }
  jurisdictionProof :=
    { wallet := "", jurisdictionId := 1, path := [], pathIndices := [], root := ['9'] }
  zkPrivateKey := ['4', '2']

/-- The last millisecond of epoch 1, and the first one of epoch 2. -/
def evening : SafeInteger := ⟨172799999, by decide⟩
def midnight : SafeInteger := ⟨172800000, by decide⟩

def nullifier : Bytes32 :=
  .ofNat 9096788426270678807473387679661535704973993769572851704148198173139351308720

def witness : GnarkWitness :=
  ⟨{ Sdk.Sample.bindings with nullifierHash := nullifier : BindingInputs }.entries⟩

/-- The proof is made in epoch 1. -/
theorem proves : ∃ inputs, runStepProofGeneration poseidon2 credential paths transfer
    evening.value = .ok inputs ∧ inputs.Encodes witness := by
  have hashed : computeNullifier poseidon2
      { privateKey := ['4', '2']
        mintLo := toHex (transfer.mint.bytes.drop 16)
        mintHi := toHex (transfer.mint.bytes.take 16)
        epoch := decimal (evening.value / 1000 / 86400)
        recipientLo := toHex (transfer.recipient.bytes.drop 16)
        recipientHi := toHex (transfer.recipient.bytes.take 16)
        amount := numberToString transfer.amount } = .ok (toHex nullifier.bytes) := by
    decide +kernel
  simp only [runStepProofGeneration, bind_eq_ok, mapError_eq_ok, pure_eq_ok]
  refine ⟨_, ⟨_, hashed, rfl⟩, ?_⟩
  intro entry
  fin_cases entry <;> decide +kernel

/-- A payload that waits for its last instruction. -/
def uploaded : State Reference.Ledger :=
  Scenario.registered.setAccount (reference.hookPayloadAddress Scenario.authority)
    (some (.hookPayload (written reference Scenario.authority [1, 2, 3] 3) (8 + BASE_SPACE + 3)))

/-- Whatever the clock shows then, the payload is finalized. -/
theorem submits (dateNow : Nat) : ∃ call s' payload dataLen,
    submitFinalize reference Scenario.authority (groth16PublicInputs witness) transfer dateNow =
      some call ∧
    step reference uploaded call = .ok s' ∧
    s'.accounts (reference.hookPayloadAddress Scenario.authority) =
      some (.hookPayload payload dataLen) := by
  have uploading : Uploading reference Scenario.authority
      (written reference Scenario.authority [1, 2, 3] 3) (8 + BASE_SPACE + 3) uploaded :=
    ⟨⟨_, rfl, rfl⟩, rfl⟩
  have named : witness.entries NULLIFIER_IDX ≠ .zero := by decide
  have positive : (0 : UInt64) < .ofNat transfer.amount.toNat := by decide
  obtain ⟨s', accepted, finalized⟩ := step_finalize uploading named positive transfer.mint
    transfer.recipient (.ofNat (dateNow / 1000 / 86400)) DEFAULT_LIGHT_ARGS
  exact ⟨_, s', _, _, submitFinalize_witness _ _ _ _, accepted, finalized.stored⟩

end Sample

/-- One reading of the clock for both steps. -/
theorem staged_as_proved_evening : ∃ payload, StagesWhatWasProved Sample.witness payload := by
  obtain ⟨inputs, assembled, encodes⟩ := Sample.proves
  obtain ⟨call, s', payload, dataLen, submitted, accepted, held⟩ :=
    Sample.submits Sample.evening.value
  exact ⟨payload, (staged_as_proved_iff reference Sample.poseidon2 Sample.credential Sample.paths
    Sample.transfer Sample.evening Sample.evening assembled encodes submitted accepted held).mpr
    rfl⟩

/-- A proof of the evening that is submitted after midnight. -/
theorem not_staged_as_proved : ¬ ∀ (Proof Address World : Type)
    (env : External Proof Address World) (poseidon2Hash : List Nat → Nat)
    (credential : CredentialRecord) (paths : MerklePaths) (transferParams : TransferParams)
    (provedAt submittedAt : SafeInteger) (inputs : ProofInputs) (witness : GnarkWitness)
    (publicKey : Pubkey) (call : Call) (s s' : State World) (payload : HookPayload)
    (dataLen : Nat),
      provedAt.value ≤ submittedAt.value →
      runStepProofGeneration poseidon2Hash credential paths transferParams provedAt.value =
        .ok inputs →
      inputs.Encodes witness →
      submitFinalize env publicKey (groth16PublicInputs witness) transferParams
        submittedAt.value = some call →
      step env s call = .ok s' →
      s'.accounts (env.hookPayloadAddress publicKey) = some (.hookPayload payload dataLen) →
      StagesWhatWasProved witness payload := by
  intro always
  obtain ⟨inputs, assembled, encodes⟩ := Sample.proves
  obtain ⟨call, s', payload, dataLen, submitted, accepted, held⟩ :=
    Sample.submits Sample.midnight.value
  have stages := always _ _ _ reference Sample.poseidon2 Sample.credential Sample.paths
    Sample.transfer Sample.evening Sample.midnight inputs Sample.witness Scenario.authority call
    Sample.uploaded s' payload dataLen (by decide) assembled encodes submitted accepted held
  -- a proof of the evening is submitted after midnight, on the next day
  have same := (staged_as_proved_iff reference Sample.poseidon2 Sample.credential Sample.paths
    Sample.transfer Sample.evening Sample.midnight assembled encodes submitted accepted held).mp
    stages
  exact absurd same (by decide)

end ZkSettle.Frontend
