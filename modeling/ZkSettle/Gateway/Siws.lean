import ZkSettle.Gateway.Proxy
import ZkSettle.Library.Base58
import ZkSettle.Library.Checks
import ZkSettle.Library.Text
import ZkSettle.Program.Accounts

/-!
# Sign-in messages

The message that a wallet signs: a line with the domain, a line with the address, perhaps a
statement, and fields, one a line. The parser keeps the last value of each field. Times are
read from ISO 8601 in checked arithmetic, where an overflow is a panic.
-/
namespace ZkSettle.Gateway

open Checks Program

/-! ## parse_message -/

structure SiwsMessage where
  domain : String
  address : String
  statement : Option String
  uri : Option String
  version : Option String
  chainId : Option String
  nonce : String
  issuedAt : String
  expirationTime : Option String

structure ParsedFields where
  uri : Option String
  version : Option String
  chainId : Option String
  nonce : Option String
  issuedAt : Option String
  expirationTime : Option String

def ParsedFields.empty : ParsedFields where
  uri := none
  version := none
  chainId := none
  nonce := none
  issuedAt := none
  expirationTime := none

def ParsedFields.set (fields : ParsedFields) (key val : List Char) : ParsedFields :=
  if key = "URI".toList then { fields with uri := some (.ofList val) }
  else if key = "Version".toList then { fields with version := some (.ofList val) }
  else if key = "Chain ID".toList then { fields with chainId := some (.ofList val) }
  else if key = "Nonce".toList then { fields with nonce := some (.ofList val) }
  else if key = "Issued At".toList then { fields with issuedAt := some (.ofList val) }
  else if key = "Expiration Time".toList then
    { fields with expirationTime := some (.ofList val) }
  else fields

def ParsedFields.readLine (fields : ParsedFields) (line : List Char) : ParsedFields :=
  match Text.splitOnce ": ".toList line with
  | some (key, val) => fields.set key val
  | none => fields

def parseFields (lines : List (List Char)) : ParsedFields :=
  lines.foldl ParsedFields.readLine .empty

/-- The statement, and the line from which the fields are read. -/
def parseStatement (lines : List (List Char)) : Option String × Nat :=
  if lines.length ≤ 2 ∨ lines[2]? ≠ some [] then (none, 2)
  else
    let stmtLines := (lines.drop 3).takeWhile fun line =>
      !line.isEmpty && !Text.contains ": ".toList line
    let i := 3 + stmtLines.length
    if stmtLines = [] then (none, 3)
    else
      (some (.ofList (List.intercalate ['\n'] stmtLines)),
        if lines[i]? = some [] then i + 1 else i)

def HEADER : String := " wants you to sign in with your Solana account:"

def parseMessage (message : String) : Except GatewayError SiwsMessage :=
  match Text.lines message.toList with
  | first :: second :: rest => do
    let domain ← okOr (Text.stripSuffix HEADER.toList first) .invalidMessage
    let address := Text.trim second
    require (address ≠ []) GatewayError.invalidMessage
    let statement := parseStatement (first :: second :: rest)
    let fields := parseFields ((first :: second :: rest).drop statement.2)
    let nonce ← okOr fields.nonce .invalidMessage
    let issuedAt ← okOr fields.issuedAt .invalidMessage
    pure
      { domain := .ofList domain
        address := .ofList address
        statement := statement.1
        uri := fields.uri
        version := fields.version
        chainId := fields.chainId
        nonce
        issuedAt
        expirationTime := fields.expirationTime }
  | _ => .error .invalidMessage

/-! ## parse_iso8601 -/

/-- `None`, or a panic. -/
inductive Stop where
  | none
  | panic
  deriving DecidableEq, Repr

/-- An arithmetic result of a type that has only these values. -/
def checked (low high n : Int) : Except Stop Int :=
  if low ≤ n ∧ n ≤ high then .ok n else .error .panic

def checkedU64 (n : Int) : Except Stop Int := checked 0 18446744073709551615 n

def checkedI64 (n : Int) : Except Stop Int :=
  checked (-9223372036854775808) 9223372036854775807 n

def parseU64 (text : List Char) : Except Stop Int :=
  (okOr (Text.parseUnsigned 18446744073709551616 text) Stop.none).map fun n => (n : Int)

def parseI64 (text : List Char) : Except Stop Int :=
  okOr (Text.parseSigned 9223372036854775808 text) .none

/-- The text from its last `+`, or else from the last `-` after its first `T`. -/
def splitSign (s : List Char) : Option (List Char × Bool × List Char) :=
  match Text.splitLast '+' s with
  | some (before, after) => some (before, false, after)
  -- a date has `-` too, so only what comes after the `T` is searched
  | none =>
    let (date, time) := s.span (· != 'T')
    (Text.splitLast '-' time).map fun parts => (date ++ parts.1, true, parts.2)

def splitOffset (s : List Char) : Except Stop (List Char × Int) :=
  match Text.stripSuffix ['Z'] s with
  | some rest => .ok (rest, 0)
  | none => do
    let (before, negative, offsetStr) ← okOr (splitSign s) .none
    let (oh, om) ← okOr (Text.splitOnce [':'] offsetStr) .none
    let hours ← parseI64 oh
    let hourSecs ← checkedI64 (hours * 3600)
    let minutes ← parseI64 om
    let minuteSecs ← checkedI64 (minutes * 60)
    let secs ← checkedI64 (hourSecs + minuteSecs)
    let offset ← checkedI64 ((if negative then -1 else 1) * secs)
    pure (before, offset)

def maxDayInMonth (year month : Int) : Int :=
  if month = 2 then
    if year % 4 = 0 ∧ (year % 100 ≠ 0 ∨ year % 400 = 0) then 29 else 28
  else if month = 4 ∨ month = 6 ∨ month = 9 ∨ month = 11 then 30
  else 31

/-- `n as i64` -/
def asI64 (n : Int) : Int :=
  if n ≤ 9223372036854775807 then n else n - 18446744073709551616

/-- The parts of a date or a time: the first three, as numbers. -/
def parseThree (separator : Char) (text : List Char) : Except Stop (Int × Int × Int) := do
  let parts := text.splitOn separator
  let first ← okOr parts[0]? .none
  let a ← parseU64 first
  let second ← okOr parts[1]? .none
  let b ← parseU64 second
  let third ← okOr parts[2]? .none
  let c ← parseU64 third
  pure (a, b, c)

def daysFromDate (year month day : Int) : Except Stop Int := do
  -- years from March on; each sum is checked, as in the release profile
  let y ← if month ≤ 2 then checkedU64 (year - 1) else .ok year
  let m := if month ≤ 2 then month + 9 else month - 3
  let product ← checkedU64 (365 * y)
  let quarters ← checkedU64 (product + y / 4)
  let centuries ← checkedU64 (quarters - y / 100)
  let eras ← checkedU64 (centuries + y / 400)
  let months ← checkedU64 (eras + (m * 306 + 5) / 10)
  let days ← checkedU64 (months + day)
  checkedU64 (days - 719469)

def parseIso8601 (s : String) : Except Stop Int := do
  let (datetimeStr, offsetSecs) ← splitOffset (Text.trim s.toList)
  let (datePart, timePart) ← okOr (Text.splitOnce ['T'] datetimeStr) .none
  let (year, month, day) ← parseThree '-' datePart
  let (hour, minute, second) ← parseThree ':' (timePart.takeWhile (· != '.'))
  require (1 ≤ month ∧ month ≤ 12 ∧ day ≠ 0 ∧ hour ≤ 23 ∧ minute ≤ 59 ∧ second ≤ 59) Stop.none
  require (day ≤ maxDayInMonth year month) Stop.none
  let days ← daysFromDate year month day
  let daySecs ← checkedU64 (days * 86400)
  let hourSecs ← checkedU64 (daySecs + hour * 3600)
  let minuteSecs ← checkedU64 (hourSecs + minute * 60)
  let secs ← checkedU64 (minuteSecs + second)
  let utcSecs ← checkedI64 (asI64 secs - offsetSecs)
  require (0 ≤ utcSecs) Stop.none
  pure utcSecs

example : parseIso8601 "2026-05-02T17:30:00+05:30" = .ok 1777723200 := by decide

/-! ## validate_message -/

/-- A request ends without success in an error or in a panic. -/
inductive Failure where
  | refused (error : GatewayError)
  | panicked
  deriving DecidableEq, Repr

def readTime (text : String) : Except Failure Int :=
  (parseIso8601 text).mapError fun
    | .none => .refused .invalidMessage
    | .panic => .panicked

def validateMessage (msg : SiwsMessage) (now : Nat) (expectedDomain : Option String) :
    Except Failure Unit := do
  match expectedDomain with
  | some domain => require (msg.domain = domain) (Failure.refused .invalidMessage)
  | none => pure ()
  -- Nonce: at least 8 alphanumeric chars
  require (8 ≤ msg.nonce.utf8ByteSize ∧ msg.nonce.toList.all Char.isAlphanum = true)
    (Failure.refused .invalidMessage)
  let issuedTs ← readTime msg.issuedAt
  require ((now - issuedTs : Int).natAbs ≤ 300) (Failure.refused .messageExpired)
  match msg.expirationTime with
  | some exp => do
    let expTs ← readTime exp
    require (now ≤ expTs) (Failure.refused .messageExpired)
  | none => pure ()

theorem readTime_eq_ok {text : String} {time : Int} :
    readTime text = .ok time ↔ parseIso8601 text = .ok time := mapError_eq_ok

/-- What a valid message has. -/
structure Valid (msg : SiwsMessage) (now : Nat) (domain : String) : Prop where
  domain : msg.domain = domain
  nonce : 8 ≤ msg.nonce.utf8ByteSize ∧ msg.nonce.toList.all Char.isAlphanum = true
  issued : ∃ issuedTs, parseIso8601 msg.issuedAt = .ok issuedTs ∧
    (now - issuedTs : Int).natAbs ≤ 300
  unexpired : ∀ exp, msg.expirationTime = some exp →
    ∃ expTs, parseIso8601 exp = .ok expTs ∧ (now : Int) ≤ expTs

theorem validateMessage_ok {msg : SiwsMessage} {now : Nat} {domain : String}
    (valid : validateMessage msg now (some domain) = .ok ()) : Valid msg now domain := by
  simp only [validateMessage, bind_eq_ok, require_eq_ok, readTime_eq_ok] at valid
  obtain ⟨-, domain_eq, -, nonce, issuedTs, issued, -, recent, expiration⟩ := valid
  refine ⟨domain_eq, nonce, ⟨issuedTs, issued, recent⟩, fun exp expires => ?_⟩
  rw [expires] at expiration
  simpa only [bind_eq_ok, require_eq_ok, readTime_eq_ok] using expiration

/-! ## verify_signature -/

/-- The signature scheme: which keys are points of the curve, and which signatures pass the
strict check. -/
structure Ed25519 where
  fromBytes : Bytes32 → Bool
  verifyStrict : Bytes32 → List UInt8 → List UInt8 → Bool

def tryIntoBytes32 (bytes : List UInt8) : Option Bytes32 :=
  if length : bytes.length = 32 then some ⟨bytes, length⟩ else none

def verifySignature (ed : Ed25519) (address : String) (message signature : List UInt8) :
    Except GatewayError Unit := do
  let decoded ← okOr (Base58.decode address) .invalidWallet
  let pubkey ← okOr (tryIntoBytes32 decoded) .invalidWallet
  require (ed.fromBytes pubkey = true) GatewayError.invalidWallet
  require (signature.length = 64) GatewayError.invalidSignature
  require (ed.verifyStrict pubkey message signature = true) GatewayError.invalidSignature

/-- The signature is one of exactly these bytes, under the key that the address spells. -/
def Signs (ed : Ed25519) (address : String) (message signature : List UInt8) : Prop :=
  ∃ pubkey : Bytes32, Base58.decode address = some pubkey.bytes ∧ ed.fromBytes pubkey = true ∧
    ed.verifyStrict pubkey message signature = true

theorem verifySignature_ok {ed : Ed25519} {address : String} {message signature : List UInt8}
    (verified : verifySignature ed address message signature = .ok ()) :
    Signs ed address message signature := by
  simp only [verifySignature, bind_eq_ok, okOr_eq_ok, require_eq_ok] at verified
  obtain ⟨decoded, read, pubkey, whole, -, point, -, -, signed⟩ := verified
  rw [tryIntoBytes32] at whole
  split at whole
  next length =>
    cases whole
    exact ⟨⟨decoded, length⟩, read, point, signed⟩
  next => cases whole

/-! ## What the parser has read -/

/-- The fields stand in the lines. -/
def ParsedFields.From (lines : List (List Char)) (fields : ParsedFields) : Prop :=
  (∀ v, fields.nonce = some v → "Nonce: ".toList ++ v.toList ∈ lines) ∧
  (∀ v, fields.issuedAt = some v → "Issued At: ".toList ++ v.toList ∈ lines) ∧
  ∀ v, fields.expirationTime = some v → "Expiration Time: ".toList ++ v.toList ∈ lines

theorem ParsedFields.From.set {lines : List (List Char)} {fields : ParsedFields}
    (known : fields.From lines) {key val : List Char}
    (written : key ++ (": ".toList ++ val) ∈ lines) : (fields.set key val).From lines := by
  obtain ⟨nonce, issuedAt, expirationTime⟩ := known
  rw [ParsedFields.set]
  split
  · exact ⟨nonce, issuedAt, expirationTime⟩
  split
  · exact ⟨nonce, issuedAt, expirationTime⟩
  split
  · exact ⟨nonce, issuedAt, expirationTime⟩
  -- the value replaces that of an earlier line with the same key
  split
  next named =>
    refine ⟨?_, issuedAt, expirationTime⟩
    rintro _ ⟨⟩
    rw [named] at written
    simpa using written
  split
  next named =>
    refine ⟨nonce, ?_, expirationTime⟩
    rintro _ ⟨⟩
    rw [named] at written
    simpa using written
  split
  next named =>
    refine ⟨nonce, issuedAt, ?_⟩
    rintro _ ⟨⟩
    rw [named] at written
    simpa using written
  next => exact ⟨nonce, issuedAt, expirationTime⟩

theorem ParsedFields.From.readLine {lines : List (List Char)} {fields : ParsedFields}
    (known : fields.From lines) {line : List Char} (member : line ∈ lines) :
    (fields.readLine line).From lines := by
  rw [ParsedFields.readLine]
  split
  next key val split =>
    apply known.set
    rw [← Text.splitOnce_eq_some split]
    exact member
  next => exact known

theorem parseFields_from (lines : List (List Char)) : (parseFields lines).From lines := by
  have each : ∀ (rest : List (List Char)) (fields : ParsedFields), (∀ line ∈ rest, line ∈ lines) →
      fields.From lines → (rest.foldl ParsedFields.readLine fields).From lines := by
    intro rest
    induction rest with
    | nil => exact fun fields _ known => known
    | cons line rest ih =>
      intro fields within known
      exact ih _ (fun other member => within other (List.mem_cons_of_mem line member))
        (known.readLine (within line List.mem_cons_self))
  exact each lines .empty (fun _ member => member) ⟨nofun, nofun, nofun⟩

/-- The lines of a message: the domain in the first, the address in the second, and the
fields after these. -/
def Written (text : String) (msg : SiwsMessage) : Prop :=
  ∃ second rest,
    Text.lines text.toList = (msg.domain.toList ++ HEADER.toList) :: second :: rest ∧
    Text.trim second = msg.address.toList ∧
    "Nonce: ".toList ++ msg.nonce.toList ∈ rest ∧
    "Issued At: ".toList ++ msg.issuedAt.toList ∈ rest ∧
    ∀ exp, msg.expirationTime = some exp → "Expiration Time: ".toList ++ exp.toList ∈ rest

theorem two_le_parseStatement (lines : List (List Char)) : 2 ≤ (parseStatement lines).2 := by
  rw [parseStatement]
  split
  · exact Nat.le_refl 2
  · dsimp only
    split
    · exact Nat.le_succ 2
    · dsimp only
      split
      · omega
      · omega

theorem parseMessage_written {text : String} {msg : SiwsMessage}
    (parsed : parseMessage text = .ok msg) : Written text msg := by
  rw [parseMessage] at parsed
  split at parsed
  next first second rest lines =>
    simp only [bind_eq_ok, okOr_eq_ok, require_eq_ok, pure_eq_ok] at parsed
    obtain ⟨domain, header, -, -, nonce, hasNonce, issuedAt, hasIssuedAt, rfl⟩ := parsed
    obtain ⟨fromNonce, fromIssuedAt, fromExpiration⟩ := parseFields_from
      ((first :: second :: rest).drop (parseStatement (first :: second :: rest)).2)
    -- the fields are read from the third line on
    have within : ∀ line,
        line ∈ (first :: second :: rest).drop (parseStatement (first :: second :: rest)).2 →
          line ∈ rest := by
      intro line member
      obtain ⟨more, start⟩ := Nat.exists_eq_add_of_le
        (two_le_parseStatement (first :: second :: rest))
      rw [start, ← List.drop_drop] at member
      exact List.mem_of_mem_drop member
    refine ⟨second, rest, ?_, ?_, within _ (fromNonce _ hasNonce),
      within _ (fromIssuedAt _ hasIssuedAt), fun exp expires =>
        within _ (fromExpiration exp expires)⟩
    · rw [lines, String.toList_ofList, ← Text.stripSuffix_eq_some header]
    · rw [String.toList_ofList]
  next => cases parsed

end ZkSettle.Gateway
