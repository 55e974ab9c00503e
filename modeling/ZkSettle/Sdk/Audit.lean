import ZkSettle.Indexer.Logs
import ZkSettle.Sdk.Accounts

/-!
# Events in the SDK

The SDK reads an event from a data line at fixed offsets, and takes no notice of what comes
after it. The indexer reads the same fields and wants nothing after them.
-/
namespace ZkSettle.Sdk

open Checks
open ZkSettle.Program (Bytes32 ProofSettled)
open ZkSettle.Indexer (IndexerError leBytes toVec tryFromSlice eventDiscriminator parseData
  extractProofSettled)

/-! ## parseProofSettled -/

structure AuditTrail where
  issuer : Bytes32
  nullifierHash : List UInt8
  merkleRoot : List UInt8
  sanctionsRoot : List UInt8
  jurisdictionRoot : List UInt8
  mint : Bytes32
  recipient : Bytes32
  amount : Int
  epoch : Int
  timestamp : Int
  slot : Int
  payer : Bytes32
  deriving DecidableEq, Repr

def PROOF_SETTLED_DISCRIMINATOR : List UInt8 := [108, 6, 201, 20, 0, 169, 42, 135]

/-- The constant of the SDK is the discriminator of the program. -/
theorem disc_proofSettled :
    (Sha256.sha256 ("event:ProofSettled".toList.map fun c => .ofNat c.toNat)).take 8 =
      PROOF_SETTLED_DISCRIMINATOR := by
  decide +kernel

section Parse

variable (publicKey : List UInt8 → Except SdkError Bytes32)

/-- The fields of an event behind its discriminator and its version. -/
def readTrail (buffer : List UInt8) : Except SdkError AuditTrail := do
  let offset := 8
  let offset := offset + 1
  let issuer ← publicKey (subarray buffer offset (offset + 32))
  let offset := offset + 32
  let nullifierHash := subarray buffer offset (offset + 32)
  let offset := offset + 32
  let merkleRoot := subarray buffer offset (offset + 32)
  let offset := offset + 32
  let sanctionsRoot := subarray buffer offset (offset + 32)
  let offset := offset + 32
  let jurisdictionRoot := subarray buffer offset (offset + 32)
  let offset := offset + 32
  let mint ← publicKey (subarray buffer offset (offset + 32))
  let offset := offset + 32
  let recipient ← publicKey (subarray buffer offset (offset + 32))
  let offset := offset + 32
  let amount ← readBigUInt64LE buffer offset
  let offset := offset + 8
  let epoch ← readBigUInt64LE buffer offset
  let offset := offset + 8
  let timestamp ← readBigUInt64LE buffer offset
  let offset := offset + 8
  let slot ← readBigUInt64LE buffer offset
  let offset := offset + 8
  let payer ← publicKey (subarray buffer offset (offset + 32))
  pure
    { issuer, nullifierHash, merkleRoot, sanctionsRoot, jurisdictionRoot, mint, recipient, amount,
      epoch, timestamp, slot, payer }

/-- `null` is no value. -/
def parseProofSettled (logData : String) : Except SdkError (Option AuditTrail) :=
  let buffer := Base64.decodeLenient logData
  if buffer.length < 8 then .ok none
  else if buffer.take 8 ≠ PROOF_SETTLED_DISCRIMINATOR then .ok none
  else if buffer.length < 297 then .ok none
  else (readTrail publicKey buffer).map some

end Parse

/-! ## Bytes of events -/

theorem exists_bytes32 {bytes : List UInt8} {n : Nat} (long : n + 32 ≤ bytes.length) :
    ∃ (b : Bytes32) (rest : List UInt8), bytes = b.bytes ++ rest ∧ n ≤ rest.length := by
  have length : (bytes.take 32).length = 32 := by
    rw [List.length_take]
    omega
  refine ⟨⟨bytes.take 32, length⟩, bytes.drop 32, (List.take_append_drop 32 bytes).symm, ?_⟩
  rw [List.length_drop]
  omega

theorem exists_u64 {bytes : List UInt8} {n : Nat} (long : n + 8 ≤ bytes.length) :
    ∃ (x : UInt64) (rest : List UInt8), bytes = leBytes x ++ rest ∧ n ≤ rest.length := by
  have length : (bytes.take 8).length = 8 := by
    rw [List.length_take]
    omega
  refine ⟨_, bytes.drop 8, Indexer.takeU64_eq_some.mp (if_pos length), ?_⟩
  rw [List.length_drop]
  omega

/-- Bytes that are as many as those of an event start with one. -/
theorem exists_event {bytes : List UInt8} (long : 289 ≤ bytes.length) :
    ∃ (event : ProofSettled) (stray : List UInt8), bytes = toVec event ++ stray := by
  cases bytes with
  | nil => exact absurd long (by decide)
  | cons version rest =>
    have long : 256 + 32 ≤ rest.length := by
      rw [List.length_cons] at long
      omega
    obtain ⟨issuer, stray, issuerEq, long⟩ := exists_bytes32 (n := 256) long
    obtain ⟨nullifierHash, stray, nullifierHashEq, long⟩ := exists_bytes32 (n := 224) long
    obtain ⟨merkleRoot, stray, merkleRootEq, long⟩ := exists_bytes32 (n := 192) long
    obtain ⟨sanctionsRoot, stray, sanctionsRootEq, long⟩ := exists_bytes32 (n := 160) long
    obtain ⟨jurisdictionRoot, stray, jurisdictionRootEq, long⟩ := exists_bytes32 (n := 128) long
    obtain ⟨mint, stray, mintEq, long⟩ := exists_bytes32 (n := 96) long
    obtain ⟨recipient, stray, recipientEq, long⟩ := exists_bytes32 (n := 64) long
    obtain ⟨amount, stray, amountEq, long⟩ := exists_u64 (n := 56) long
    obtain ⟨epoch, stray, epochEq, long⟩ := exists_u64 (n := 48) long
    obtain ⟨timestamp, stray, timestampEq, long⟩ := exists_u64 (n := 40) long
    obtain ⟨slot, stray, slotEq, long⟩ := exists_u64 (n := 32) long
    obtain ⟨payer, stray, payerEq, -⟩ := exists_bytes32 (n := 0) long
    refine ⟨⟨version, issuer, nullifierHash, merkleRoot, sanctionsRoot, jurisdictionRoot, mint,
      recipient, amount, epoch, timestamp, slot, payer⟩, stray, ?_⟩
    rw [issuerEq, nullifierHashEq, merkleRootEq, sanctionsRootEq, jurisdictionRootEq, mintEq,
      recipientEq, amountEq, epochEq, timestampEq, slotEq, payerEq]
    simp only [toVec, List.cons_append, List.append_assoc, List.nil_append]

/-! ## The fields of an event -/

/-- The values that were emitted, without the version. -/
def AuditTrail.ofEvent (event : ProofSettled) : AuditTrail where
  issuer := event.issuer
  nullifierHash := event.nullifierHash.bytes
  merkleRoot := event.merkleRoot.bytes
  sanctionsRoot := event.sanctionsRoot.bytes
  jurisdictionRoot := event.jurisdictionRoot.bytes
  mint := event.mint
  recipient := event.recipient
  amount := event.amount.toNat
  epoch := event.epoch.toNat
  timestamp := event.timestamp.toNat
  slot := event.slot.toNat
  payer := event.payer

section Read

variable {publicKey : List UInt8 → Except SdkError Bytes32}

/-- The fields are read, whatever the bytes behind them. -/
theorem readTrail_toVec (keys : ∀ key : Bytes32, publicKey key.bytes = .ok key)
    (event : ProofSettled) (stray : List UInt8) :
    readTrail publicKey (PROOF_SETTLED_DISCRIMINATOR ++ (toVec event ++ stray)) =
      .ok (.ofEvent event) := by
  have version : (PROOF_SETTLED_DISCRIMINATOR ++ (toVec event ++ stray)).drop 8 =
      toVec event ++ stray := rfl
  generalize PROOF_SETTLED_DISCRIMINATOR ++ (toVec event ++ stray) = buffer at version ⊢
  simp only [toVec, List.cons_append, List.append_assoc, List.nil_append] at version
  have issuer := drop_succ version
  have nullifierHash := drop_advance issuer event.issuer.length_eq
  have merkleRoot := drop_advance nullifierHash event.nullifierHash.length_eq
  have sanctionsRoot := drop_advance merkleRoot event.merkleRoot.length_eq
  have jurisdictionRoot := drop_advance sanctionsRoot event.sanctionsRoot.length_eq
  have mint := drop_advance jurisdictionRoot event.jurisdictionRoot.length_eq
  have recipient := drop_advance mint event.mint.length_eq
  have amount := drop_advance recipient event.recipient.length_eq
  have epoch := drop_advance amount (Stablecoin.Layout.leBytes_length _)
  have timestamp := drop_advance epoch (Stablecoin.Layout.leBytes_length _)
  have slot := drop_advance timestamp (Stablecoin.Layout.leBytes_length _)
  have payer := drop_advance slot (Stablecoin.Layout.leBytes_length _)
  rw [readTrail]
  simp only [subarray_key issuer, subarray_key nullifierHash, subarray_key merkleRoot,
    subarray_key sanctionsRoot, subarray_key jurisdictionRoot, subarray_key mint,
    subarray_key recipient, keys, readBigUInt64LE_of amount, readBigUInt64LE_of epoch,
    readBigUInt64LE_of timestamp, readBigUInt64LE_of slot, subarray_key payer, ok_bind]
  rfl

theorem toVec_length (event : ProofSettled) : (toVec event).length = 289 := by
  simp only [toVec, List.length_cons, List.length_append, List.length_nil, Bytes32.length_eq,
    Stablecoin.Layout.leBytes_length]

/-- The bytes of an event behind its discriminator, and perhaps more. -/
def StartsWithEvent (bytes : List UInt8) (event : ProofSettled) : Prop :=
  ∃ stray, bytes = eventDiscriminator ++ (toVec event ++ stray)

theorem parseProofSettled_of_starts (keys : ∀ key : Bytes32, publicKey key.bytes = .ok key)
    {bytes : List UInt8} {event : ProofSettled} (starts : StartsWithEvent bytes event) :
    parseProofSettled publicKey (Base64.standard.encode bytes) = .ok (some (.ofEvent event)) := by
  obtain ⟨stray, rfl⟩ := starts
  have length : (eventDiscriminator ++ (toVec event ++ stray)).length = 297 + stray.length := by
    simp only [List.length_append, toVec_length, eventDiscriminator, List.length_cons,
      List.length_nil]
    omega
  rw [parseProofSettled, Base64.decodeLenient_encode]
  have start : (eventDiscriminator ++ (toVec event ++ stray)).take 8 =
      PROOF_SETTLED_DISCRIMINATOR := rfl
  rw [if_neg (by omega), if_neg (not_not.mpr start), if_neg (by omega)]
  exact congrArg (Except.map some) (readTrail_toVec keys event stray)

theorem parseProofSettled_of_not_starts {bytes : List UInt8}
    (other : ∀ event, ¬ StartsWithEvent bytes event) :
    parseProofSettled publicKey (Base64.standard.encode bytes) = .ok none := by
  rw [parseProofSettled, Base64.decodeLenient_encode]
  split
  · rfl
  next =>
    split
    · rfl
    next discriminator =>
      split
      · rfl
      next long =>
        -- long enough, and with the discriminator
        have rest : 289 ≤ (bytes.drop 8).length := by
          rw [List.length_drop]
          omega
        obtain ⟨event, stray, fields⟩ := exists_event rest
        refine absurd ⟨stray, ?_⟩ (other event)
        rw [← fields, ← List.take_append_drop 8 bytes, not_not.mp discriminator]
        rfl

end Read

/-! ## Both decoders -/

/-- What the indexer reads from a log with one data line. -/
def extractLine (bytes : List UInt8) : Except IndexerError (List ProofSettled) :=
  extractProofSettled Base64.standard [Indexer.dataLine (Base64.standard.encode bytes)]

theorem extractLine_eq_ok {bytes : List UInt8} {event : ProofSettled} :
    extractLine bytes = .ok [event] ↔
      parseData Base64.standard (Base64.standard.encode bytes) = .ok (some event) := by
  simp only [extractLine, extractProofSettled, Indexer.parseLines, Indexer.stripPrefix_dataLine,
    bind_eq_ok, require_eq_ok, pure_eq_ok, Except.ok.injEq, exists_eq_left', List.append_nil]
  constructor
  · rintro ⟨-, -, found, data, same⟩
    cases found with
    | none => cases same
    | some read =>
      cases same
      exact data
  · intro data
    exact ⟨⟨⟩, List.cons_ne_nil _ _, some event, data, rfl⟩

theorem parseData_eq_ok {bytes : List UInt8} {event : ProofSettled} :
    parseData Base64.standard (Base64.standard.encode bytes) = .ok (some event) ↔
      bytes = eventDiscriminator ++ toVec event := by
  constructor
  · intro read
    rw [parseData, okOr_eq_ok.mpr (Base64.standard.decode_encode bytes), ok_bind] at read
    split at read
    · cases read
    · split at read
      · cases read
      next discriminator =>
        obtain ⟨found, fields, same⟩ := bind_eq_ok.mp read
        cases same
        rw [okOr_eq_ok, Indexer.tryFromSlice_eq_some] at fields
        rw [← fields, ← not_not.mp discriminator, List.take_append_drop]
  · rintro rfl
    exact Indexer.parseData_eventText Base64.standard event

/-- How the decoders read a byte string: the SDK accepts an event with more bytes behind it,
the indexer accepts nothing but an event, and what the indexer accepts the SDK reads as the
same values. -/
structure DecodersRead (publicKey : List UInt8 → Except SdkError Bytes32) (bytes : List UInt8) :
    Prop where
  sdk : ∀ trail, parseProofSettled publicKey (Base64.standard.encode bytes) = .ok (some trail) ↔
    ∃ event, StartsWithEvent bytes event ∧ trail = .ofEvent event
  refused : (∀ event, ¬ StartsWithEvent bytes event) →
    parseProofSettled publicKey (Base64.standard.encode bytes) = .ok none
  indexer : ∀ event, extractLine bytes = .ok [event] ↔ bytes = eventDiscriminator ++ toVec event
  agree : ∀ event, extractLine bytes = .ok [event] →
    parseProofSettled publicKey (Base64.standard.encode bytes) = .ok (some (.ofEvent event))

theorem decodersRead {publicKey : List UInt8 → Except SdkError Bytes32}
    (keys : ∀ key : Bytes32, publicKey key.bytes = .ok key) (bytes : List UInt8) :
    DecodersRead publicKey bytes where
  sdk := by
    intro trail
    constructor
    · intro read
      by_cases starts : ∃ event, StartsWithEvent bytes event
      · obtain ⟨event, starts⟩ := starts
        rw [parseProofSettled_of_starts keys starts] at read
        cases read
        exact ⟨event, starts, rfl⟩
      · rw [parseProofSettled_of_not_starts (not_exists.mp starts)] at read
        cases read
    · rintro ⟨event, starts, rfl⟩
      exact parseProofSettled_of_starts keys starts
  refused := parseProofSettled_of_not_starts
  indexer := fun event => extractLine_eq_ok.trans parseData_eq_ok
  agree := by
    intro event accepted
    rw [extractLine_eq_ok, parseData_eq_ok] at accepted
    exact parseProofSettled_of_starts keys ⟨[], by rw [accepted, List.append_nil]⟩

/-- Events of zeros. -/
theorem decodersRead_zero :
    DecodersRead keyOfBytes (eventDiscriminator ++ List.replicate 289 0) :=
  decodersRead keyOfBytes_bytes _

/-- Both decoders refuse a byte string, or both read the same event. -/
def DecodersAgree (publicKey : List UInt8 → Except SdkError Bytes32) (bytes : List UInt8) : Prop :=
  ((∀ trail, parseProofSettled publicKey (Base64.standard.encode bytes) ≠ .ok (some trail)) ∧
      ∀ event, extractLine bytes ≠ .ok [event]) ∨
    ∃ event, parseProofSettled publicKey (Base64.standard.encode bytes) =
      .ok (some (.ofEvent event)) ∧ extractLine bytes = .ok [event]

/-- A byte behind an event. -/
theorem not_decodersAgree : ¬ ∀ bytes, DecodersAgree keyOfBytes bytes := by
  intro always
  have length : (List.replicate 289 (0 : UInt8)).length = 289 := List.length_replicate
  obtain ⟨event, stray, zeros⟩ := exists_event length.ge
  have starts : StartsWithEvent (eventDiscriminator ++ (toVec event ++ [0])) event := ⟨[0], rfl⟩
  have read := parseProofSettled_of_starts keyOfBytes_bytes starts
  rcases always (eventDiscriminator ++ (toVec event ++ [0])) with
    ⟨refused, -⟩ | ⟨other, -, accepted⟩
  · exact refused _ read
  · have same := parseData_eq_ok.mp (extractLine_eq_ok.mp accepted)
    have lengths := congrArg List.length same
    simp only [List.length_append, toVec_length, List.length_singleton] at lengths
    omega

end ZkSettle.Sdk
