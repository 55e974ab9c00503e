import ZkSettle.Indexer.Events
import ZkSettle.Program.Accounts

/-!
# Events in transaction logs

An event is a line of base64 in the log: a discriminator, then the fields in Borsh. The
parser goes through the lines of a transaction, skips what is no event, and gives up the
transaction at the first line that is broken.
-/
namespace ZkSettle.Indexer

open Checks Program

/-! ## Borsh -/

def takeU8 : List UInt8 → Option (UInt8 × List UInt8)
  | byte :: rest => some (byte, rest)
  | [] => none

def takeBytes32 (bytes : List UInt8) : Option (Bytes32 × List UInt8) :=
  if length : (bytes.take 32).length = 32 then some (⟨bytes.take 32, length⟩, bytes.drop 32)
  else none

/-- Little-endian. -/
def takeU64 (bytes : List UInt8) : Option (UInt64 × List UInt8) :=
  if (bytes.take 8).length = 8 then
    some (.ofNat (BigEndian.value (bytes.take 8).reverse), bytes.drop 8)
  else none

def leBytes (x : UInt64) : List UInt8 := (BigEndian.encode 8 x.toNat).reverse

theorem takeBytes32_append (b : Bytes32) (rest : List UInt8) :
    takeBytes32 (b.bytes ++ rest) = some (b, rest) := by
  have taken : (b.bytes ++ rest).take 32 = b.bytes := List.take_left' b.length_eq
  have dropped : (b.bytes ++ rest).drop 32 = rest := List.drop_left' b.length_eq
  have length : ((b.bytes ++ rest).take 32).length = 32 := by rw [taken, b.length_eq]
  rw [takeBytes32, dif_pos length, dropped]
  exact congrArg (fun read => some (read, rest)) (Bytes32.ext taken)

theorem takeU64_append (x : UInt64) (rest : List UInt8) :
    takeU64 (leBytes x ++ rest) = some (x, rest) := by
  have length : (leBytes x).length = 8 := by simp [leBytes]
  have taken : (leBytes x ++ rest).take 8 = leBytes x := List.take_left' length
  have bound : x.toNat < 256 ^ 8 := x.toNat_lt
  rw [takeU64, taken, if_pos length, List.drop_left' length, leBytes, List.reverse_reverse,
    BigEndian.value_encode bound, UInt64.ofNat_toNat]

def toVec (event : ProofSettled) : List UInt8 :=
  event.version :: (event.issuer.bytes ++ (event.nullifierHash.bytes ++ (event.merkleRoot.bytes ++
    (event.sanctionsRoot.bytes ++ (event.jurisdictionRoot.bytes ++ (event.mint.bytes ++
    (event.recipient.bytes ++ (leBytes event.amount ++ (leBytes event.epoch ++
    (leBytes event.timestamp ++ (leBytes event.slot ++ (event.payer.bytes ++ []))))))))))))

/-- The fields in order, and nothing after them. -/
def tryFromSlice (bytes : List UInt8) : Option ProofSettled := do
  let (version, bytes) ← takeU8 bytes
  let (issuer, bytes) ← takeBytes32 bytes
  let (nullifierHash, bytes) ← takeBytes32 bytes
  let (merkleRoot, bytes) ← takeBytes32 bytes
  let (sanctionsRoot, bytes) ← takeBytes32 bytes
  let (jurisdictionRoot, bytes) ← takeBytes32 bytes
  let (mint, bytes) ← takeBytes32 bytes
  let (recipient, bytes) ← takeBytes32 bytes
  let (amount, bytes) ← takeU64 bytes
  let (epoch, bytes) ← takeU64 bytes
  let (timestamp, bytes) ← takeU64 bytes
  let (slot, bytes) ← takeU64 bytes
  let (payer, bytes) ← takeBytes32 bytes
  if bytes = [] then
    some
      { version, issuer, nullifierHash, merkleRoot, sanctionsRoot, jurisdictionRoot, mint,
        recipient, amount, epoch, timestamp, slot, payer }
  else none

theorem takeBytes32_eq_some {bytes rest : List UInt8} {b : Bytes32} :
    takeBytes32 bytes = some (b, rest) ↔ bytes = b.bytes ++ rest := by
  constructor
  · intro taken
    rw [takeBytes32] at taken
    split at taken
    · cases taken
      exact (List.take_append_drop 32 bytes).symm
    · cases taken
  · rintro rfl
    exact takeBytes32_append b rest

theorem takeU64_eq_some {bytes rest : List UInt8} {x : UInt64} :
    takeU64 bytes = some (x, rest) ↔ bytes = leBytes x ++ rest := by
  constructor
  · intro taken
    rw [takeU64] at taken
    split at taken
    next length =>
      cases taken
      -- eight bytes are those of their own value
      have width : (bytes.take 8).reverse.length = 8 := by rw [List.length_reverse, length]
      have small : BigEndian.value (bytes.take 8).reverse < UInt64.size := by
        have bound := BigEndian.value_lt (bytes.take 8).reverse
        rwa [width] at bound
      have same := BigEndian.encode_value (bytes.take 8).reverse
      rw [width] at same
      rw [leBytes, UInt64.toNat_ofNat_of_lt' small, same, List.reverse_reverse,
        List.take_append_drop]
    next => cases taken
  · rintro rfl
    exact takeU64_append x rest

theorem bind_takeBytes32 {α : Type} (b : Bytes32) (rest : List UInt8)
    (continuation : Bytes32 × List UInt8 → Option α) :
    (takeBytes32 (b.bytes ++ rest) >>= continuation) = continuation (b, rest) := by
  rw [takeBytes32_append]
  rfl

theorem bind_takeU64 {α : Type} (x : UInt64) (rest : List UInt8)
    (continuation : UInt64 × List UInt8 → Option α) :
    (takeU64 (leBytes x ++ rest) >>= continuation) = continuation (x, rest) := by
  rw [takeU64_append]
  rfl

/-- An event is read back. -/
theorem tryFromSlice_toVec (event : ProofSettled) : tryFromSlice (toVec event) = some event := by
  -- one field after the other
  refine (bind_takeBytes32 event.issuer _ _).trans ?_
  refine (bind_takeBytes32 event.nullifierHash _ _).trans ?_
  refine (bind_takeBytes32 event.merkleRoot _ _).trans ?_
  refine (bind_takeBytes32 event.sanctionsRoot _ _).trans ?_
  refine (bind_takeBytes32 event.jurisdictionRoot _ _).trans ?_
  refine (bind_takeBytes32 event.mint _ _).trans ?_
  refine (bind_takeBytes32 event.recipient _ _).trans ?_
  refine (bind_takeU64 event.amount _ _).trans ?_
  refine (bind_takeU64 event.epoch _ _).trans ?_
  refine (bind_takeU64 event.timestamp _ _).trans ?_
  refine (bind_takeU64 event.slot _ _).trans ?_
  refine (bind_takeBytes32 event.payer _ _).trans ?_
  rfl

theorem bind_takeBytes32_eq_some {α : Type} {bytes : List UInt8}
    {continuation : Bytes32 × List UInt8 → Option α} {result : α} :
    (takeBytes32 bytes >>= continuation) = some result ↔
      ∃ b rest, bytes = b.bytes ++ rest ∧ continuation (b, rest) = some result := by
  simp only [Option.bind_eq_bind, Option.bind_eq_some_iff, Prod.exists, takeBytes32_eq_some]

theorem bind_takeU64_eq_some {α : Type} {bytes : List UInt8}
    {continuation : UInt64 × List UInt8 → Option α} {result : α} :
    (takeU64 bytes >>= continuation) = some result ↔
      ∃ x rest, bytes = leBytes x ++ rest ∧ continuation (x, rest) = some result := by
  simp only [Option.bind_eq_bind, Option.bind_eq_some_iff, Prod.exists, takeU64_eq_some]

/-- Only the bytes of an event are read. -/
theorem tryFromSlice_eq_some {bytes : List UInt8} {event : ProofSettled} :
    tryFromSlice bytes = some event ↔ bytes = toVec event := by
  constructor
  · intro read
    cases bytes with
    | nil => cases read
    | cons version bytes =>
      obtain ⟨issuer, rest, issuerEq, read⟩ := bind_takeBytes32_eq_some.mp read
      obtain ⟨nullifierHash, rest, nullifierHashEq, read⟩ := bind_takeBytes32_eq_some.mp read
      obtain ⟨merkleRoot, rest, merkleRootEq, read⟩ := bind_takeBytes32_eq_some.mp read
      obtain ⟨sanctionsRoot, rest, sanctionsRootEq, read⟩ := bind_takeBytes32_eq_some.mp read
      obtain ⟨jurisdictionRoot, rest, jurisdictionRootEq, read⟩ := bind_takeBytes32_eq_some.mp read
      obtain ⟨mint, rest, mintEq, read⟩ := bind_takeBytes32_eq_some.mp read
      obtain ⟨recipient, rest, recipientEq, read⟩ := bind_takeBytes32_eq_some.mp read
      obtain ⟨amount, rest, amountEq, read⟩ := bind_takeU64_eq_some.mp read
      obtain ⟨epoch, rest, epochEq, read⟩ := bind_takeU64_eq_some.mp read
      obtain ⟨timestamp, rest, timestampEq, read⟩ := bind_takeU64_eq_some.mp read
      obtain ⟨slot, rest, slotEq, read⟩ := bind_takeU64_eq_some.mp read
      obtain ⟨payer, rest, payerEq, read⟩ := bind_takeBytes32_eq_some.mp read
      change (if rest = [] then some _ else none) = some event at read
      split at read
      next empty =>
        cases read
        rw [issuerEq, nullifierHashEq, merkleRootEq, sanctionsRootEq, jurisdictionRootEq, mintEq,
          recipientEq, amountEq, epochEq, timestampEq, slotEq, payerEq, empty]
        rfl
      next => cases read
  · rintro rfl
    exact tryFromSlice_toVec event

/-! ## extract_proof_settled -/

def DISCRIMINATOR_LEN : Nat := 8

/-- The first bytes of the SHA-256 hash of `event:ProofSettled`. -/
def eventDiscriminator : List UInt8 := [108, 6, 201, 20, 0, 169, 42, 135]

def stripPrefix (line start : String) : Option String :=
  if start.toList.isPrefixOf line.toList then
    some (String.ofList (line.toList.drop start.toList.length))
  else none

section Extract

variable (standard : Base64.Engine)

/-- What one data line holds: an event, or something else. -/
def parseData (dataB64 : String) : Except IndexerError (Option ProofSettled) := do
  let data ← okOr (standard.decode dataB64) .base64Decode
  if data.length < DISCRIMINATOR_LEN then
    pure none
  else if data.take DISCRIMINATOR_LEN ≠ eventDiscriminator then
    pure none
  else do
    let event ← okOr (tryFromSlice (data.drop DISCRIMINATOR_LEN)) .borshDeserialize
    pure (some event)

def parseLines : List String → Except IndexerError (List ProofSettled)
  | [] => .ok []
  | line :: rest =>
    match stripPrefix line "Program data: " with
    | none => parseLines rest
    | some dataB64 => do
      let found ← parseData standard dataB64
      let events ← parseLines rest
      pure (found.toList ++ events)

def extractProofSettled (logMessages : List String) : Except IndexerError (List ProofSettled) := do
  require (logMessages ≠ []) IndexerError.missingEvents
  parseLines standard logMessages

/-- The text of an event on a data line. -/
def eventText (event : ProofSettled) : String :=
  standard.encode (eventDiscriminator ++ toVec event)

theorem parseData_eventText (event : ProofSettled) :
    parseData standard (eventText standard event) = .ok (some event) := by
  have long : ¬ (eventDiscriminator ++ toVec event).length < DISCRIMINATOR_LEN := by
    simp [eventDiscriminator, DISCRIMINATOR_LEN]
  have start : (eventDiscriminator ++ toVec event).take DISCRIMINATOR_LEN = eventDiscriminator :=
    List.take_left' rfl
  have fields : (eventDiscriminator ++ toVec event).drop DISCRIMINATOR_LEN = toVec event :=
    List.drop_left' rfl
  simp only [parseData, eventText, standard.decode_encode, bind_eq_ok, okOr_eq_ok,
    Option.some.injEq, exists_eq_left']
  rw [if_neg long, if_neg (not_not.mpr start), fields, tryFromSlice_toVec]
  rfl

end Extract

end ZkSettle.Indexer
