import ZkSettle.Library.Base58
import ZkSettle.Library.Sha256
import ZkSettle.Service.Fetch
import ZkSettle.Service.Paths

/-!
# Wallet signatures

A request of a wallet carries a signature over a text with the wallet, a time and, where a
proof is asked for, the hash of the body. A service that is started for development takes
requests without one.
-/
namespace ZkSettle.Service

open Checks Program Updater

/-! ## Messages -/

/-- `to_ascii_lowercase` -/
def toAsciiLowercase (text : String) : String := String.ofList (text.toList.map Char.toLower)

def bodyHash (body : List UInt8) : Bytes32 := ⟨Sha256.sha256 body, Sha256.sha256_length body⟩

/-- Read access, or a proof for a body with a hash. -/
inductive Purpose where
  | read
  | prove (bodyHash : Bytes32)
  deriving DecidableEq, Repr

/-- The text that is signed. -/
def Purpose.message (purpose : Purpose) (walletHex : String) (timestamp : Nat) : String :=
  match purpose with
  | read => "zksettle:" ++ walletHex ++ ":" ++ toString timestamp
  | prove bodyHash =>
    "zksettle:" ++ walletHex ++ ":" ++ toString timestamp ++ ":" ++
      String.ofList (Numerals.hex bodyHash.bytes)

/-! ## Source -/

inductive AuthError where
  | missingWallet
  | invalidHex (error : HexError)
  | unauthorized (message : String)
  /-- `Unauthorized` with the text of the error behind `invalid wallet hex: `. -/
  | invalidWalletHex (error : HexError)
  deriving DecidableEq, Repr

/-- What `/prove/groth16` makes of a wallet it cannot read. -/
def AuthError.ofHex : HexError → AuthError
  | .expected32Bytes _ => .unauthorized "wallet must be 32 bytes"
  | error => .invalidWalletHex error

/-- The headers that are there and readable. -/
abbrev Headers := String → Option String

def REPLAY_WINDOW_SECS : Nat := 300

/-- `abs_diff` -/
def absDiff (a b : Nat) : Nat := (a - b) + (b - a)

def parseReplayTimestamp (now : Nat) (tsHeader : String) : Except String Nat := do
  let timestamp ← okOr (Text.parseUnsigned 18446744073709551616 tsHeader.toList) "invalid timestamp"
  require (absDiff now timestamp ≤ REPLAY_WINDOW_SECS) "timestamp outside replay window"
  pure timestamp

/-- Signatures of the library: how a header is read, and which bytes a key has signed. -/
structure Ed25519 (Signature : Type) where
  fromStr : String → Option Signature
  verify : Signature → Bytes32 → ByteArray → Bool

/-- The parts of a request that reads. -/
structure Parts where
  wallet : Option String
  allowUnauthenticated : Option Bool
  headers : Headers

section Source

variable {Signature : Type} (ed : Ed25519 Signature) (now : Nat)

/-- Any 32 bytes are a `Pubkey`, so that `invalid pubkey` is not among the errors. -/
def verifyWalletSignature (walletBytes : Bytes32) (sigHeader message : String) :
    Except String Unit := do
  let sig ← okOr (ed.fromStr sigHeader) "malformed signature"
  require (ed.verify sig walletBytes message.toUTF8 = true) "signature verification failed"

/-- The end of both checks: the headers, the time, and the signature of the message. -/
def verifyHeaders (headers : Headers) (walletBytes : Bytes32) (message : Nat → String) :
    Except AuthError Unit := do
  let sigHeader ← okOr (headers "x-wallet-signature")
    (.unauthorized "missing X-Wallet-Signature header")
  let tsHeader ← okOr (headers "x-wallet-timestamp")
    (.unauthorized "missing X-Wallet-Timestamp header")
  let timestamp ← (parseReplayTimestamp now tsHeader).mapError .unauthorized
  (verifyWalletSignature ed walletBytes sigHeader (message timestamp)).mapError .unauthorized

/-- `from_request_parts` of `WalletAuth` -/
def fromRequestParts (parts : Parts) : Except AuthError WalletAuth := do
  let wallet ← okOr parts.wallet .missingWallet
  let walletHex := toAsciiLowercase wallet
  match decoded : decodeWallet walletHex with
  | .error e => .error (.invalidHex e)
  | .ok walletBytes =>
    if parts.allowUnauthenticated.getD false then pure { walletHex, walletBytes, decoded }
    else do
      verifyHeaders ed now parts.headers walletBytes (Purpose.read.message walletHex)
      pure { walletHex, walletBytes, decoded }

/-- The check of `/prove/groth16` -/
def verifyWalletHeaders (headers : Headers) (body : List UInt8) (allowUnauth : Bool) :
    Except AuthError String := do
  let wallet ← okOr (headers "x-wallet-pubkey")
    (.unauthorized "missing X-Wallet-Pubkey header")
  let walletHex := toAsciiLowercase wallet
  let walletBytes ← (decodeWallet walletHex).mapError .ofHex
  if allowUnauth then pure walletHex
  else do
    verifyHeaders ed now headers walletBytes ((Purpose.prove (bodyHash body)).message walletHex)
    pure walletHex

end Source

/-! ## Texts of wallets -/

theorem isHexDigit_of_decodePairs {data bytes : List UInt8} (even : data.length % 2 = 0)
    {index : Nat} (decoded : decodePairs index data = .ok bytes) :
    ∀ c ∈ data, isHexDigit c = true := by
  induction index, data using decodePairs.induct generalizing bytes with
  | case1 index high low rest ih =>
    simp only [decodePairs, bind_eq_ok, pure_eq_ok] at decoded
    obtain ⟨first, read, second, read', later, decoded, -⟩ := decoded
    have shorter : rest.length % 2 = 0 := by
      rw [List.length_cons, List.length_cons] at even
      omega
    intro c member
    rcases List.mem_cons.mp member with rfl | member
    · exact (hexVal_eq_ok c index).mp ⟨first, read⟩
    · rcases List.mem_cons.mp member with rfl | member
      · exact (hexVal_eq_ok c (index + 1)).mp ⟨second, read'⟩
      · exact ih shorter decoded c member
  | case2 data index short =>
    cases data with
    | nil => simp
    | cons c rest =>
      cases rest with
      | nil => simp at even
      | cons d rest => exact absurd rfl (short c d rest)

/-- No colon is in the text of a wallet. -/
theorem colon_notMem {walletHex : String} {wallet : Bytes32}
    (decoded : decodeWallet walletHex = .ok wallet) : ':' ∉ walletHex.toList := by
  intro colon
  have bytes : walletHex.toUTF8.data.toList = walletHex.toList.flatMap String.utf8EncodeChar := by
    rw [← String.ofList_toList (s := walletHex), String.toUTF8_eq_toByteArray,
      String.toByteArray_ofList, List.utf8Encode, List.data_toByteArray, List.toList_toArray,
      String.toList_ofList]
  have encoded : (58 : UInt8) ∈ walletHex.toUTF8.data.toList := by
    rw [bytes, List.mem_flatMap]
    exact ⟨':', colon, by decide⟩
  have stripped : (58 : UInt8) ∈ strip0x walletHex.toUTF8.data.toList := by
    generalize walletHex.toUTF8.data.toList = data at encoded
    unfold strip0x
    -- the prefix has no colon
    split
    · simpa using encoded
    · exact encoded
  rw [decodeWallet] at decoded
  split at decoded
  · cases decoded
  next decodes =>
    rw [hexDecode] at decodes
    split at decodes
    · cases decodes
    next even =>
      have digit := isHexDigit_of_decodePairs (by omega) decodes 58 stripped
      exact absurd digit (by decide)

/-! ## What a signature is over -/

/-- What a signature is asked for: what the request is for, the text of its wallet with the
bytes it is read as, and the time. -/
structure Presented where
  purpose : Purpose
  walletHex : String
  wallet : Bytes32
  timestamp : Nat
  decoded : decodeWallet walletHex = .ok wallet

def Presented.message (presented : Presented) : String :=
  presented.purpose.message presented.walletHex presented.timestamp

theorem Presented.ext {p q : Presented} (purpose : p.purpose = q.purpose)
    (walletHex : p.walletHex = q.walletHex) (timestamp : p.timestamp = q.timestamp) : p = q := by
  obtain ⟨_, text, wallet, _, decoded⟩ := p
  obtain ⟨_, text', wallet', _, decoded'⟩ := q
  cases purpose
  cases walletHex
  cases timestamp
  rw [decoded] at decoded'
  cases decoded'
  rfl

theorem colon_notMem_digits (n : Nat) : ':' ∉ Nat.toDigits 10 n := by
  intro colon
  have digit := Nat.isDigit_of_mem_toDigits (by decide) (by decide) colon
  exact absurd digit (by decide)

/-- What stands after the wallet. -/
def Purpose.ending (purpose : Purpose) (timestamp : Nat) : List Char :=
  match purpose with
  | read => Nat.toDigits 10 timestamp
  | prove bodyHash => Nat.toDigits 10 timestamp ++ ':' :: Numerals.hex bodyHash.bytes

theorem Purpose.toList_message (purpose : Purpose) (walletHex : String) (timestamp : Nat) :
    (purpose.message walletHex timestamp).toList =
      "zksettle:".toList ++ (walletHex.toList ++ ':' :: purpose.ending timestamp) := by
  cases purpose with
  | read => simp [message, ending, Nat.toList_repr]
  | prove bodyHash => simp [message, ending, Nat.toList_repr]

theorem Purpose.colon_mem_ending (bodyHash : Bytes32) (timestamp : Nat) :
    ':' ∈ (prove bodyHash).ending timestamp :=
  List.mem_append_right _ List.mem_cons_self

theorem Purpose.ending_inj {purpose purpose' : Purpose} {timestamp timestamp' : Nat}
    (same : purpose.ending timestamp = purpose'.ending timestamp') :
    purpose = purpose' ∧ timestamp = timestamp' := by
  cases purpose with
  | read =>
    cases purpose' with
    | read => exact ⟨rfl, Numerals.toDigits_injective (by decide) (by decide) same⟩
    | prove bodyHash' =>
      -- the colon of the other text is no digit
      have colon : ':' ∈ read.ending timestamp := same ▸ colon_mem_ending bodyHash' timestamp'
      exact absurd colon (colon_notMem_digits timestamp)
  | prove bodyHash =>
    cases purpose' with
    | read =>
      have colon : ':' ∈ read.ending timestamp' := same ▸ colon_mem_ending bodyHash timestamp
      exact absurd colon (colon_notMem_digits timestamp')
    | prove bodyHash' =>
      obtain ⟨times, hashes⟩ := Text.append_cons_inj (colon_notMem_digits timestamp)
        (colon_notMem_digits timestamp') same
      have bytes : bodyHash.bytes = bodyHash'.bytes :=
        Numerals.hex_injective (bodyHash.length_eq.trans bodyHash'.length_eq.symm) hashes
      exact ⟨congrArg prove (Bytes32.ext bytes),
        Numerals.toDigits_injective (by decide) (by decide) times⟩

/-- Two texts that are signed are the same only for the same purpose, wallet and time. -/
theorem Presented.message_inj {p q : Presented} (same : p.message = q.message) : p = q := by
  have texts := congrArg String.toList same
  rw [message, message, Purpose.toList_message, Purpose.toList_message,
    List.append_cancel_left_eq] at texts
  obtain ⟨wallets, endings⟩ :=
    Text.append_cons_inj (colon_notMem p.decoded) (colon_notMem q.decoded) texts
  obtain ⟨purposes, times⟩ := Purpose.ending_inj endings
  exact Presented.ext purposes (String.toList_inj.mp wallets) times

/-! ## Requests -/

/-- A request to either of the handlers. -/
inductive AuthRequest where
  | read (parts : Parts)
  | prove (headers : Headers) (body : List UInt8) (allowUnauth : Bool)

namespace AuthRequest

def purpose : AuthRequest → Purpose
  | read _ => .read
  | prove _ body _ => .prove (bodyHash body)

def wallet : AuthRequest → Option String
  | read parts => parts.wallet
  | prove headers _ _ => headers "x-wallet-pubkey"

def headers : AuthRequest → Headers
  | read parts => parts.headers
  | prove headers _ _ => headers

/-- The service takes the request without a signature. -/
def unauthenticated : AuthRequest → Bool
  | read parts => parts.allowUnauthenticated.getD false
  | prove _ _ allowUnauth => allowUnauth

def timestamp (request : AuthRequest) : Option Nat :=
  (request.headers "x-wallet-timestamp").bind fun text =>
    Text.parseUnsigned 18446744073709551616 text.toList

/-- The tuple of a request. -/
structure Presents (request : AuthRequest) (presented : Presented) : Prop where
  purpose : presented.purpose = request.purpose
  wallet : request.wallet.map toAsciiLowercase = some presented.walletHex
  timestamp : request.timestamp = some presented.timestamp

variable {Signature : Type} (ed : Ed25519 Signature)

def signature (request : AuthRequest) : Option Signature :=
  (request.headers "x-wallet-signature").bind ed.fromStr

/-- The handler's check: the text of the wallet it goes on with. -/
def accept (now : Nat) : AuthRequest → Except AuthError String
  | read parts => (fromRequestParts ed now parts).map WalletAuth.walletHex
  | prove headers body allowUnauth => verifyWalletHeaders ed now headers body allowUnauth

end AuthRequest

section Handlers

variable {Signature : Type} {ed : Ed25519 Signature} {now : Nat}

theorem parseReplayTimestamp_eq_ok {tsHeader : String} {timestamp : Nat} :
    parseReplayTimestamp now tsHeader = .ok timestamp ↔
      Text.parseUnsigned 18446744073709551616 tsHeader.toList = some timestamp ∧
        absDiff now timestamp ≤ REPLAY_WINDOW_SECS := by
  simp only [parseReplayTimestamp, bind_eq_ok, okOr_eq_ok, require_eq_ok (u := ⟨⟩), pure_eq_ok]
  constructor
  · rintro ⟨read, parsed, ⟨⟩, inside, rfl⟩
    exact ⟨parsed, inside⟩
  · rintro ⟨parsed, inside⟩
    exact ⟨timestamp, parsed, ⟨⟩, inside, rfl⟩

theorem verifyWalletSignature_eq_ok {wallet : Bytes32} {sigHeader message : String} {u : Unit} :
    verifyWalletSignature ed wallet sigHeader message = .ok u ↔
      ∃ sig, ed.fromStr sigHeader = some sig ∧ ed.verify sig wallet message.toUTF8 = true := by
  simp only [verifyWalletSignature, bind_eq_ok, okOr_eq_ok, require_eq_ok]

/-- The headers are taken exactly with a signature over the message for their own time, in
the window. -/
theorem verifyHeaders_eq_ok {headers : Headers} {wallet : Bytes32} {message : Nat → String}
    {u : Unit} :
    verifyHeaders ed now headers wallet message = .ok u ↔
      ∃ sig timestamp, (headers "x-wallet-signature").bind ed.fromStr = some sig ∧
        ((headers "x-wallet-timestamp").bind fun text =>
          Text.parseUnsigned 18446744073709551616 text.toList) = some timestamp ∧
        absDiff now timestamp ≤ REPLAY_WINDOW_SECS ∧
        ed.verify sig wallet (message timestamp).toUTF8 = true := by
  simp only [verifyHeaders, bind_eq_ok, okOr_eq_ok, mapError_eq_ok, parseReplayTimestamp_eq_ok,
    verifyWalletSignature_eq_ok, Option.bind_eq_some_iff]
  constructor
  · rintro ⟨sigHeader, signed, tsHeader, timed, timestamp, ⟨parsed, inside⟩, sig, read, verifies⟩
    exact ⟨sig, timestamp, ⟨sigHeader, signed, read⟩, ⟨tsHeader, timed, parsed⟩, inside, verifies⟩
  · rintro ⟨sig, timestamp, ⟨sigHeader, signed, read⟩, ⟨tsHeader, timed, parsed⟩, inside, verifies⟩
    exact ⟨sigHeader, signed, tsHeader, timed, timestamp, ⟨parsed, inside⟩, sig, read, verifies⟩

theorem fromRequestParts_eq_ok {parts : Parts} {auth : WalletAuth}
    (checked : parts.allowUnauthenticated.getD false = false) :
    fromRequestParts ed now parts = .ok auth ↔
      parts.wallet.map toAsciiLowercase = some auth.walletHex ∧
        verifyHeaders ed now parts.headers auth.walletBytes
          (Purpose.read.message auth.walletHex) = .ok () := by
  obtain ⟨walletHex, walletBytes, decoded⟩ := auth
  simp only [fromRequestParts, checked, Bool.false_eq_true, if_false, bind_eq_ok, okOr_eq_ok,
    Option.map_eq_some_iff]
  constructor
  -- what is decoded is what the request goes on with
  · rintro ⟨text, given, taken⟩
    split at taken
    next => cases taken
    next wallet read =>
      obtain ⟨⟨⟩, verified, same⟩ := bind_eq_ok.mp taken
      cases same
      exact ⟨⟨text, given, rfl⟩, verified⟩
  · rintro ⟨⟨text, given, rfl⟩, verified⟩
    refine ⟨text, given, ?_⟩
    split
    next e failed =>
      rw [decoded] at failed
      cases failed
    next wallet read =>
      have same : wallet = walletBytes := Except.ok.inj (read.symm.trans decoded)
      cases same
      exact bind_eq_ok.mpr ⟨⟨⟩, verified, rfl⟩

theorem verifyWalletHeaders_eq_ok {headers : Headers} {body : List UInt8} {walletHex : String} :
    verifyWalletHeaders ed now headers body false = .ok walletHex ↔
      (headers "x-wallet-pubkey").map toAsciiLowercase = some walletHex ∧
        ∃ wallet, decodeWallet walletHex = .ok wallet ∧
          verifyHeaders ed now headers wallet
            ((Purpose.prove (bodyHash body)).message walletHex) = .ok () := by
  simp only [verifyWalletHeaders, Bool.false_eq_true, if_false, bind_eq_ok, okOr_eq_ok,
    mapError_eq_ok, pure_eq_ok, Option.map_eq_some_iff]
  constructor
  · rintro ⟨text, given, bytes, decoded, ⟨⟩, verified, rfl⟩
    exact ⟨⟨text, given, rfl⟩, bytes, decoded, verified⟩
  · rintro ⟨⟨text, given, rfl⟩, wallet, decoded, verified⟩
    exact ⟨text, given, wallet, decoded, ⟨⟩, verified, rfl⟩

/-- A request that has to be signed is taken exactly with a signature by its wallet over its
own tuple, in the window. -/
theorem AuthRequest.accept_eq_ok {request : AuthRequest}
    (checked : request.unauthenticated = false) {walletHex : String} :
    request.accept ed now = .ok walletHex ↔
      ∃ presented sig, request.Presents presented ∧ presented.walletHex = walletHex ∧
        absDiff now presented.timestamp ≤ REPLAY_WINDOW_SECS ∧
        request.signature ed = some sig ∧
        ed.verify sig presented.wallet presented.message.toUTF8 = true := by
  have verified : request.accept ed now = .ok walletHex ↔
      request.wallet.map toAsciiLowercase = some walletHex ∧
        ∃ wallet, decodeWallet walletHex = .ok wallet ∧
          verifyHeaders ed now request.headers wallet (request.purpose.message walletHex) =
            .ok () := by
    cases request with
    | read parts =>
      rw [accept, map_eq_ok]
      constructor
      · rintro ⟨auth, taken, rfl⟩
        obtain ⟨given, verified⟩ := (fromRequestParts_eq_ok checked).mp taken
        exact ⟨given, auth.walletBytes, auth.decoded, verified⟩
      · rintro ⟨given, wallet, decoded, verified⟩
        exact ⟨⟨walletHex, wallet, decoded⟩,
          (fromRequestParts_eq_ok checked).mpr ⟨given, verified⟩, rfl⟩
    | prove headers body allowUnauth =>
      cases checked
      exact verifyWalletHeaders_eq_ok
  rw [verified]
  simp only [verifyHeaders_eq_ok]
  constructor
  · rintro ⟨given, wallet, decoded, sig, timestamp, signed, timed, inside, verifies⟩
    exact ⟨⟨request.purpose, walletHex, wallet, timestamp, decoded⟩, sig, ⟨rfl, given, timed⟩,
      rfl, inside, signed, verifies⟩
  · rintro ⟨⟨_, _, wallet, timestamp, decoded⟩, sig, ⟨rfl, given, timed⟩, rfl, inside, signed,
      verifies⟩
    exact ⟨given, wallet, decoded, sig, timestamp, signed, timed, inside, verifies⟩

end Handlers

/-! ## Captured signatures -/

/-- Each signature is of one key, over one text. -/
def Ed25519.Ideal {Signature : Type} (ed : Ed25519 Signature) : Prop :=
  ∀ {sig key message key' message'}, ed.verify sig key message = true →
    ed.verify sig key' message' = true → key = key' ∧ message = message'

/-- Two different bodies with one hash. -/
def Collide (body body' : List UInt8) : Prop :=
  body ≠ body' ∧ Sha256.sha256 body = Sha256.sha256 body'

theorem eq_or_collide {body body' : List UInt8} (same : bodyHash body = bodyHash body') :
    body = body' ∨ Collide body body' := by
  by_cases equal : body = body'
  · exact Or.inl equal
  · exact Or.inr ⟨equal, congrArg Bytes32.bytes same⟩

/-- The texts of different tuples differ, a request that is served was signed for its own
tuple, and a signature for a tuple serves no request with another one. -/
structure BindsTuples {Signature : Type} (ed : Ed25519 Signature) (served : AuthRequest → Prop) :
    Prop where
  unambiguous : ∀ p q : Presented, p ≠ q → p.message ≠ q.message
  checked : ∀ request, served request → ∀ now walletHex,
    request.accept ed now = .ok walletHex ↔
      ∃ presented sig, request.Presents presented ∧ presented.walletHex = walletHex ∧
        absDiff now presented.timestamp ≤ REPLAY_WINDOW_SECS ∧
        request.signature ed = some sig ∧
        ed.verify sig presented.wallet presented.message.toUTF8 = true
  captured : ∀ (presented : Presented) sig,
    ed.verify sig presented.wallet presented.message.toUTF8 = true →
      ∀ request, served request → request.signature ed = some sig →
        ∀ now walletHex, request.accept ed now = .ok walletHex →
          request.Presents presented ∧ presented.walletHex = walletHex
  body : ∀ (presented : Presented) body, presented.purpose = .prove (bodyHash body) →
    ∀ request : AuthRequest, request.Presents presented →
      ∃ headers body' allowUnauth, request = .prove headers body' allowUnauth ∧
        (body = body' ∨ Collide body body')

/-- Requests that have to be signed are bound to their tuples. -/
theorem bindsTuples {Signature : Type} {ed : Ed25519 Signature} (ideal : ed.Ideal) :
    BindsTuples ed fun request => request.unauthenticated = false where
  unambiguous p q different same := different (Presented.message_inj same)
  checked request signed now walletHex := AuthRequest.accept_eq_ok signed
  captured presented sig made request signed sent now walletHex taken := by
    obtain ⟨own, sig', presents, same, -, sent', verifies⟩ :=
      (AuthRequest.accept_eq_ok signed).mp taken
    -- the one signature is over both texts
    rw [sent, Option.some.injEq] at sent'
    rw [← sent'] at verifies
    have texts := (ideal made verifies).2
    rw [Presented.message_inj (String.toByteArray_inj.mp texts)]
    exact ⟨presents, same⟩
  body presented body proves request presents := by
    have purpose := presents.purpose
    rw [proves] at purpose
    cases request with
    | read parts => cases purpose
    | prove headers body' allowUnauth =>
      exact ⟨headers, body', allowUnauth, rfl, eq_or_collide (Purpose.prove.inj purpose)⟩

namespace Sample

/-- Signatures that are a mark, the key and the text. -/
def keyThenText : Ed25519 (List UInt8) where
  fromStr := Base58.decode
  verify sig key message := sig = 1 :: (key.bytes ++ message.data.toList)

theorem keyThenText_ideal : keyThenText.Ideal := by
  intro sig key message key' message' made made'
  have first : sig = 1 :: (key.bytes ++ message.data.toList) := of_decide_eq_true made
  have second : sig = 1 :: (key'.bytes ++ message'.data.toList) := of_decide_eq_true made'
  rw [first, List.cons.injEq] at second
  obtain ⟨keys, texts⟩ := List.append_inj second.2 (key.length_eq.trans key'.length_eq.symm)
  exact ⟨Bytes32.ext keys, ByteArray.ext (Array.toList_inj.mp texts)⟩

theorem bindsTuples_keyThenText :
    BindsTuples keyThenText fun request => request.unauthenticated = false :=
  bindsTuples keyThenText_ideal

/-- A wallet in its header, and nothing else. -/
def walletOnly : Headers
  | "x-wallet-pubkey" => some (walletText .zero)
  | _ => none

/-- A service for development takes a request without a signature. -/
theorem not_bindsTuples : ¬ BindsTuples keyThenText fun _ => True := by
  intro binds
  have taken : (AuthRequest.prove walletOnly [] true).accept keyThenText 0 =
      .ok (walletText .zero) := by decide +kernel
  obtain ⟨presented, sig, -, -, -, sent, -⟩ := (binds.checked _ trivial 0 _).mp taken
  cases sent

end Sample

end ZkSettle.Service
