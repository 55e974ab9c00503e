import ZkSettle.Library.Base58
import ZkSettle.Library.Runs
import ZkSettle.Library.Slots
import ZkSettle.Service.Auth

/-!
# Wallet headers

The module that asks the wallet for signatures keeps the last one that was made, and the one
that is being asked for. Calls overlap while prompts are open. A signature is as old as its
prompt: one that is answered late is outside the window of the service when it is returned.
-/
namespace ZkSettle.Frontend.WalletAuth

open Checks Transactional
open ZkSettle.Program (Bytes32)
open ZkSettle.Service

/-! ## Base58 -/

/-- The digits that are pushed while there is a carry. -/
def pushCarry (carry : Nat) : List Nat :=
  if carry = 0 then [] else carry % 58 :: pushCarry (carry / 58)
termination_by carry
decreasing_by omega

/-- The digits times 256, plus the carry; the least significant first. -/
def addCarry : List Nat → Nat → List Nat
  | [], carry => pushCarry carry
  | digit :: rest, carry =>
    (carry + digit * 256) % 58 :: addCarry rest ((carry + digit * 256) / 58)

def base58Digits (bytes : List UInt8) : List Nat :=
  bytes.foldl (fun digits byte => addCarry digits byte.toNat) [0]

def encodeBase58 (bytes : List UInt8) : String :=
  String.ofList ((bytes.takeWhile (· == 0)).map (fun _ => Base58.digit 0) ++
    (base58Digits bytes).reverse.map Base58.digit)

theorem pushCarry_eq (carry : Nat) : pushCarry carry = Nat.digits 58 carry := by
  induction carry using pushCarry.induct with
  | case1 => rw [pushCarry, if_pos rfl, Nat.digits_zero]
  | case2 carry positive ih =>
    rw [pushCarry, if_neg positive, ih, Nat.digits_def' (by decide) (Nat.pos_of_ne_zero positive)]

/-- A step of the outer loop appends a byte to the number. -/
theorem addCarry_digits (n carry : Nat) :
    addCarry (Nat.digits 58 n) carry = Nat.digits 58 (n * 256 + carry) := by
  induction n using Nat.strong_induction_on generalizing carry with
  | _ n ih =>
    rcases Nat.eq_zero_or_pos n with rfl | positive
    · rw [Nat.digits_zero, addCarry, pushCarry_eq, Nat.zero_mul, Nat.zero_add]
    · -- the last digit takes the carry, and hands on what is above
      have last : (carry + n % 58 * 256) % 58 = (n * 256 + carry) % 58 := by omega
      have above : n / 58 * 256 + (carry + n % 58 * 256) / 58 = (n * 256 + carry) / 58 := by omega
      rw [Nat.digits_def' (by decide) positive, addCarry,
        ih (n / 58) (Nat.div_lt_self positive (by decide)), last, above,
        ← Nat.digits_def' (by decide) (by omega)]

/-- The number of the bytes. -/
def number (bytes : List UInt8) : Nat := Base58.value 256 (bytes.map UInt8.toNat)

theorem number_append (bytes : List UInt8) (byte : UInt8) :
    number (bytes ++ [byte]) = number bytes * 256 + byte.toNat := by
  rw [number, List.map_append, List.map_singleton, Base58.value_concat, number]

/-- The loops compute the digits of the number; zero is written as one digit. -/
theorem base58Digits_eq (bytes : List UInt8) :
    base58Digits bytes = if number bytes = 0 then [0] else Nat.digits 58 (number bytes) := by
  induction bytes using List.reverseRecOn with
  | nil => rfl
  | append_singleton bytes byte ih =>
    rw [base58Digits, List.foldl_concat, ← base58Digits, ih, number_append]
    split
    next zero =>
      -- the digit that the loop begins with is still the only one
      rw [zero, Nat.zero_mul, Nat.zero_add, addCarry, addCarry, pushCarry_eq, Nat.zero_mul,
        Nat.add_zero]
      split
      next none => rw [none]; rfl
      next some => rw [Nat.digits_def' (by decide) (Nat.pos_of_ne_zero some)]
    next nonzero =>
      rw [addCarry_digits, if_neg (by omega)]

/-- Bytes that are not all zero have the text of the library. -/
theorem encodeBase58_eq {bytes : List UInt8} (nonzero : number bytes ≠ 0) :
    encodeBase58 bytes = Base58.encode bytes := by
  have zeros : (bytes.takeWhile (· == 0)).length =
      Base58.leadingZeros (bytes.map UInt8.toNat) := by
    rw [Base58.leadingZeros, List.takeWhile_map, List.length_map]
    congr 2
    funext byte
    simp [← UInt8.toNat_inj]
  rw [encodeBase58, Base58.encode, Base58.convert, base58Digits_eq, if_neg nonzero,
    List.map_append, List.map_replicate, ← zeros, List.map_const']
  rfl

theorem number_eq_zero {bytes : List UInt8} (zero : number bytes = 0) :
    bytes = List.replicate bytes.length 0 := by
  induction bytes using List.reverseRecOn with
  | nil => rfl
  | append_singleton bytes byte ih =>
    rw [number_append] at zero
    have last : byte = 0 := UInt8.toNat_inj.mp (by rw [UInt8.toNat_zero]; omega)
    rw [List.length_append, List.length_singleton, List.replicate_succ', ← ih (by omega), last]

theorem number_replicate (count : Nat) : number (List.replicate count 0) = 0 := by
  rw [number, List.map_replicate, UInt8.toNat_zero, ← List.append_nil (List.replicate count 0),
    Base58.value_leading]
  rfl

theorem number_ne_zero_iff {bytes : List UInt8} : number bytes ≠ 0 ↔ ∃ byte ∈ bytes, byte ≠ 0 := by
  constructor
  · intro nonzero
    by_contra! zeros
    exact nonzero (List.eq_replicate_of_mem zeros ▸ number_replicate bytes.length)
  · rintro ⟨byte, member, nonzero⟩ zero
    rw [number_eq_zero zero] at member
    exact nonzero (List.eq_of_mem_replicate member)

/-- Zero bytes are written with the digit that the loops begin with, after the leading zeros. -/
theorem encodeBase58_replicate (count : Nat) :
    encodeBase58 (List.replicate count 0) = Base58.encode (List.replicate (count + 1) 0) := by
  have zeros : Base58.leadingZeros (List.replicate (count + 1) 0) = count + 1 := by
    rw [Base58.leadingZeros, List.takeWhile_replicate, if_pos (by decide), List.length_replicate]
  have value : Base58.value 256 (List.replicate (count + 1) 0) = 0 := by
    have none := number_replicate (count + 1)
    rwa [number, List.map_replicate, UInt8.toNat_zero] at none
  rw [encodeBase58, base58Digits_eq, if_pos (number_replicate count), Base58.encode,
    List.map_replicate, UInt8.toNat_zero, Base58.convert, zeros, value, List.takeWhile_replicate,
    if_pos (by decide), List.map_replicate, List.replicate_succ']
  simp [Base58.minimal]

/-- The text is the standard one, and the bytes are read back from it. -/
structure EncodesExactly (bytes : List UInt8) : Prop where
  standard : encodeBase58 bytes = Base58.encode bytes
  decodes : Base58.decode (encodeBase58 bytes) = some bytes

/-- The text is exact unless all bytes are zero: then it has one digit too many. -/
theorem encodesExactly_iff (bytes : List UInt8) :
    EncodesExactly bytes ↔ ∃ byte ∈ bytes, byte ≠ 0 := by
  rw [← number_ne_zero_iff]
  constructor
  · intro exactly zero
    -- the text is that of one more zero byte
    have longer := exactly.decodes
    rw [number_eq_zero zero, encodeBase58_replicate, Base58.decode_encode, Option.some.injEq]
      at longer
    have lengths := congrArg List.length longer
    simp at lengths
  · intro nonzero
    have same := encodeBase58_eq nonzero
    exact ⟨same, same ▸ Base58.decode_encode bytes⟩

theorem not_encodesExactly : ¬ ∀ bytes, EncodesExactly bytes := by
  intro exactly
  have read : Base58.decode (encodeBase58 []) = some [0] := by decide +kernel
  cases read.symm.trans (exactly []).decodes

/-! ## Source -/

def REPLAY_WINDOW_MS : Nat := 240000

/-- The last time that `Date.now()` has. -/
def MAX_TIME : Nat := 8640000000000000

/-- The headers of the record that is returned. -/
structure WalletHeaders where
  pubkey : String
  signature : String
  timestamp : String
  deriving DecidableEq, Repr

/-- What the service finds under the names of the headers. -/
def WalletHeaders.sent (headers : WalletHeaders) : Headers
  | "x-wallet-pubkey" => some headers.pubkey
  | "x-wallet-signature" => some headers.signature
  | "x-wallet-timestamp" => some headers.timestamp
  | _ => none

structure CachedSignature where
  walletHex : String
  signature : String
  timestamp : Nat
  expiresAt : Nat
  deriving DecidableEq, Repr

def CachedSignature.headers (cached : CachedSignature) : WalletHeaders where
  pubkey := cached.walletHex
  signature := cached.signature
  timestamp := toString cached.timestamp

/-- A signer; what `signMessage` answers is an event. -/
structure RegisteredSigner where
  publicKey : Bytes32
  deriving DecidableEq, Repr

def bytesToHex (bytes : List UInt8) : String := String.ofList (Numerals.hex bytes)

/-- How far a promise of `signAndCache` is. A rejected one has no headers. -/
inductive Phase where
  | asked
  /-- The prompt is answered, and the callback of `finally` has not run. -/
  | answered (headers : Option WalletHeaders)
  | settled (headers : Option WalletHeaders)
  deriving DecidableEq, Repr

def Phase.headers : Phase → Option WalletHeaders
  | asked => none
  | answered headers => headers
  | settled headers => headers

def Phase.isAnswered : Phase → Bool
  | answered _ => true
  | _ => false

def Phase.isSettled : Phase → Bool
  | settled _ => true
  | _ => false

/-- A call of `signAndCache`, with the time it has read. -/
structure Signing where
  publicKey : Bytes32
  now : Nat
  bodyHashHex : Option String
  phase : Phase
  deriving DecidableEq, Repr

namespace Signing

variable (signing : Signing)

def walletHex : String := bytesToHex signing.publicKey.bytes

def timestamp : Nat := signing.now / 1000

def message : String :=
  match signing.bodyHashHex with
  | some bodyHashHex =>
    "zksettle:" ++ signing.walletHex ++ ":" ++ toString signing.timestamp ++ ":" ++ bodyHashHex
  | none => Purpose.read.message signing.walletHex signing.timestamp

def headers (signatureBytes : List UInt8) : WalletHeaders where
  pubkey := signing.walletHex
  signature := encodeBase58 signatureBytes
  timestamp := toString signing.timestamp

def cache (signatureBytes : List UInt8) : CachedSignature where
  walletHex := signing.walletHex
  signature := encodeBase58 signatureBytes
  timestamp := signing.timestamp
  expiresAt := signing.now + REPLAY_WINDOW_MS

end Signing

/-- A call of `getWalletAuthHeaders` that waits for a promise, by its position. -/
structure Call where
  publicKey : Bytes32
  bodyless : Bool
  signing : Nat
  deriving DecidableEq, Repr

/-- The variables of the module, the promises made so far, the callers that wait, and around
them the clock and the injected wallet. -/
structure State where
  cached : Option CachedSignature
  inflight : Option Nat
  inflightWallet : Option String
  registeredSigner : Option RegisteredSigner
  phantom : Option RegisteredSigner
  signings : List Signing
  calls : List Call
  now : Nat
  deriving DecidableEq, Repr

def init : State where
  cached := none
  inflight := none
  inflightWallet := none
  registeredSigner := none
  phantom := none
  signings := []
  calls := []
  now := 0

namespace State

variable (s : State)

def registerWalletSigner (publicKey : Bytes32) : State :=
  { s with registeredSigner := some { publicKey } }

def unregisterWalletSigner : State :=
  { s with registeredSigner := none, cached := none, inflight := none }

/-- `registeredSigner ?? getPhantomFallback()` -/
def signer : Option RegisteredSigner := s.registeredSigner.or s.phantom

/-- What `signAndCache` does until the prompt is open. -/
def signAndCache (publicKey : Bytes32) (bodyHashHex : Option String) : State :=
  { s with
    signings := s.signings ++ [{ publicKey, now := s.now, bodyHashHex, phase := .asked }] }

/-- The caller waits for a promise. -/
def wait (publicKey : Bytes32) (bodyless : Bool) (signing : Nat) : State :=
  { s with calls := { publicKey, bodyless, signing } :: s.calls }

def share (position : Nat) (walletHex : String) : State :=
  { s with inflight := some position, inflightWallet := some walletHex }

/-- The cached signature that is reused. -/
def reusable (walletHex : String) : Option CachedSignature :=
  s.cached.filter fun cached => cached.walletHex = walletHex ∧ s.now < cached.expiresAt

/-- The promise that is shared. -/
def shared (walletHex : String) : Option Nat :=
  s.inflight.filter fun _ => s.inflightWallet = some walletHex

/-- What `getWalletAuthHeaders` does until it first waits, with the headers of a call that does
not. An empty hash is none. -/
def getWalletAuthHeaders (bodyHashHex : Option String) : State × Option WalletHeaders :=
  match s.signer with
  | none => (s, none)
  | some { publicKey } =>
    let walletHex := bytesToHex publicKey.bytes
    match bodyHashHex.filter (· ≠ "") with
    | some bodyHashHex =>
      ((s.signAndCache publicKey (some bodyHashHex)).wait publicKey false s.signings.length, none)
    | none =>
      match s.reusable walletHex with
      | some cached => (s, some cached.headers)
      | none =>
        match s.shared walletHex with
        | some inflight => (s.wait publicKey true inflight, none)
        | none =>
          (((s.signAndCache publicKey none).share s.signings.length walletHex).wait publicKey true
            s.signings.length, none)

/-- A promise goes on. -/
def advance (position : Nat) (signing : Signing) (phase : Phase) : State :=
  { s with signings := s.signings.set position { signing with phase } }

/-- What `signAndCache` does once the prompt is answered. -/
def answer (position : Nat) (signing : Signing) (signatureBytes : List UInt8) : State :=
  let headers := some (signing.headers signatureBytes)
  match signing.bodyHashHex with
  | some _ => s.advance position signing (.settled headers)
  | none =>
    { s.advance position signing (.answered headers) with
      cached := some (signing.cache signatureBytes) }

/-- A prompt that is refused rejects the promise. -/
def refuse (position : Nat) (signing : Signing) : State :=
  match signing.bodyHashHex with
  | some _ => s.advance position signing (.settled none)
  | none => s.advance position signing (.answered none)

/-- The callback of `finally`. -/
def cleanUp (position : Nat) (signing : Signing) : State :=
  { s.advance position signing (.settled signing.phase.headers) with
    inflight := none
    inflightWallet := none }

/-- No callback and no caller is due. -/
def Idle : Prop :=
  (∀ signing ∈ s.signings, signing.phase.isAnswered = false) ∧
    ∀ call ∈ s.calls, (s.signings[call.signing]?).map Signing.phase = some .asked

instance : Decidable s.Idle := inferInstanceAs (Decidable (_ ∧ _))

end State

inductive Event where
  | tick (later : Nat)
  | register (publicKey : Bytes32)
  | unregister
  /-- The injected wallet connects, switches or leaves. -/
  | phantom (publicKey : Option Bytes32)
  | call (bodyHashHex : Option String)
  | answer (position : Nat) (signatureBytes : List UInt8)
  | refuse (position : Nat)
  | cleanUp (position : Nat)
  /-- The promise that a caller waits for settles. -/
  | resume (call : Call)
  deriving DecidableEq, Repr

section Machine

variable {Signature : Type} (ed : Ed25519 Signature)

/-- The bytes of a signature by a key over a text. -/
def isSignature (publicKey : Bytes32) (message : String) (signatureBytes : List UInt8) : Bool :=
  match ed.fromStr (Base58.encode signatureBytes) with
  | some sig => ed.verify sig publicKey message.toUTF8
  | none => false

/-- Events in any order. Time passes when nothing is due, and a wallet answers with a signature
for what it was asked. -/
def step (s : State) : Event → Except Unit State
  | .tick later => do
    require (s.now ≤ later ∧ later ≤ MAX_TIME ∧ s.Idle) ()
    pure { s with now := later }
  | .register publicKey => pure (s.registerWalletSigner publicKey)
  | .unregister => pure s.unregisterWalletSigner
  | .phantom publicKey => pure { s with phantom := publicKey.map RegisteredSigner.mk }
  | .call bodyHashHex => pure (s.getWalletAuthHeaders bodyHashHex).1
  | .answer position signatureBytes => do
    let signing ← okOr s.signings[position]? ()
    require (signing.phase = .asked ∧
      isSignature ed signing.publicKey signing.message signatureBytes = true) ()
    pure (s.answer position signing signatureBytes)
  | .refuse position => do
    let signing ← okOr s.signings[position]? ()
    require (signing.phase = .asked) ()
    pure (s.refuse position signing)
  | .cleanUp position => do
    let signing ← okOr s.signings[position]? ()
    require (signing.phase.isAnswered = true) ()
    pure (s.cleanUp position signing)
  | .resume call => do
    require (call ∈ s.calls) ()
    let signing ← okOr s.signings[call.signing]? ()
    require (signing.phase.isSettled = true) ()
    pure { s with calls := s.calls.erase call }

/-- Headers without a body hash, with the signer of the call that they are returned to, and the
time. -/
structure Returned where
  publicKey : Bytes32
  headers : WalletHeaders
  now : Nat
  deriving DecidableEq, Repr

/-- What an event returns to a caller. -/
def returned (s : State) : Event → Option Returned
  | .call bodyHashHex => do
    let signer ← s.signer
    let headers ← (s.getWalletAuthHeaders bodyHashHex).2
    pure { publicKey := signer.publicKey, headers, now := s.now }
  | .resume call =>
    if call.bodyless then do
      let signing ← s.signings[call.signing]?
      let headers ← signing.phase.headers
      pure { publicKey := call.publicKey, headers, now := s.now }
    else none
  | _ => none

def note (sofar : List Returned) (s : State) (event : Event) : List Returned :=
  sofar ++ (returned s event).toList

/-- All headers that a run returns. -/
def allReturned (events : List Event) : List Returned := history (step ed) note [] init events

end Machine

/-! ## What headers say -/

section Facts

variable {Signature : Type} {ed : Ed25519 Signature}

/-- Bytes that are all zero are no one's signature. -/
def NoZeroSignature (ed : Ed25519 Signature) : Prop :=
  ∀ publicKey message count, isSignature ed publicKey message (List.replicate count 0) = false

/-- Headers of a key, with its signature over its text and the time of the headers. -/
structure Genuine (ed : Ed25519 Signature) (publicKey : Bytes32) (timestamp : Nat)
    (headers : WalletHeaders) : Prop where
  pubkey : headers.pubkey = bytesToHex publicKey.bytes
  time : headers.timestamp = toString timestamp
  signature : ∃ sig, ed.fromStr headers.signature = some sig ∧
    ed.verify sig publicKey
      (Purpose.read.message (bytesToHex publicKey.bytes) timestamp).toUTF8 = true

/-- The time is in the window of the service. -/
def Recent (now timestamp : Nat) : Prop := now / 1000 ≤ timestamp + REPLAY_WINDOW_SECS

/-- The headers are of the signer of their call, and the service takes their time. -/
def Current (ed : Ed25519 Signature) (r : Returned) : Prop :=
  ∃ timestamp, Genuine ed r.publicKey timestamp r.headers ∧
    parseReplayTimestamp (r.now / 1000) r.headers.timestamp = .ok timestamp

/-- A prompt without a body hash is answered in the window of its own time. -/
def Timely (s : State) : Event → Prop
  | .answer position _ => ∀ signing, s.signings[position]? = some signing →
      signing.bodyHashHex = none → Recent s.now signing.timestamp
  | _ => True

/-- What the wallet answers is sent as a signature that the service reads. -/
theorem sent_signature (nonzero : NoZeroSignature ed) {publicKey : Bytes32} {message : String}
    {signatureBytes : List UInt8}
    (signs : isSignature ed publicKey message signatureBytes = true) :
    ∃ sig, ed.fromStr (encodeBase58 signatureBytes) = some sig ∧
      ed.verify sig publicKey message.toUTF8 = true := by
  have some : number signatureBytes ≠ 0 := by
    intro zero
    rw [number_eq_zero zero, nonzero] at signs
    cases signs
  rw [encodeBase58_eq some]
  rw [isSignature] at signs
  split at signs
  next sig read => exact ⟨sig, read, signs⟩
  next => cases signs

theorem bytesToHex_inj {a b : Bytes32} (same : bytesToHex a.bytes = bytesToHex b.bytes) :
    a = b := by
  have digits := congrArg String.toList same
  rw [bytesToHex, bytesToHex, String.toList_ofList, String.toList_ofList] at digits
  exact Bytes32.ext (Numerals.hex_injective (a.length_eq.trans b.length_eq.symm) digits)

/-- A time of the clock is read back from its header. -/
theorem parse_timestamp {timestamp : Nat} (bounded : timestamp ≤ MAX_TIME) :
    Text.parseUnsigned 18446744073709551616 (toString timestamp).toList = some timestamp := by
  rw [MAX_TIME] at bounded
  have digits : (toString timestamp).toList = Numerals.decimalField 0 timestamp := by
    rw [Numerals.decimalField, Numerals.padStart, Nat.zero_sub, List.replicate_zero,
      List.nil_append, Nat.toString_eq_repr, Nat.toList_repr]
  rw [digits]
  exact Text.parseUnsigned_decimalField 0 (by omega)

/-- The service takes a time that is not ahead of the clock, up to the end of the window. -/
theorem parseReplayTimestamp_iff {now timestamp : Nat} (bounded : now ≤ MAX_TIME)
    (past : timestamp ≤ now / 1000) :
    parseReplayTimestamp (now / 1000) (toString timestamp) = .ok timestamp ↔
      Recent now timestamp := by
  have parsed := parse_timestamp (show timestamp ≤ MAX_TIME by omega)
  rw [parseReplayTimestamp_eq_ok, Recent, absDiff, and_iff_right parsed]
  omega

end Facts

/-! ## Invariants -/

section Invariants

variable {Signature : Type} {ed : Ed25519 Signature} {s : State}

/-- What holds of the module's variables and promises however late prompts are answered. -/
structure Wf (ed : Ed25519 Signature) (s : State) : Prop where
  bounded : s.now ≤ MAX_TIME
  past : ∀ signing ∈ s.signings, signing.now ≤ s.now
  genuine : ∀ signing ∈ s.signings, signing.bodyHashHex = none →
    ∀ headers, signing.phase.headers = some headers →
      Genuine ed signing.publicKey signing.timestamp headers
  cached : ∀ cached, s.cached = some cached → ∃ publicKey now, now ≤ s.now ∧
    cached.expiresAt = now + REPLAY_WINDOW_MS ∧ Genuine ed publicKey (now / 1000) cached.headers
  inflight : ∀ position, s.inflight = some position → ∃ signing,
    s.signings[position]? = some signing ∧ signing.bodyHashHex = none ∧
      s.inflightWallet = some signing.walletHex ∧ signing.phase.isSettled = false
  calls : ∀ call ∈ s.calls, call.bodyless = true → ∃ signing,
    s.signings[call.signing]? = some signing ∧ signing.publicKey = call.publicKey ∧
      signing.bodyHashHex = none

/-- Headers that are still to be returned are in the window. -/
def Fresh (s : State) : Prop :=
  ∀ position signing headers, s.signings[position]? = some signing →
    signing.bodyHashHex = none → signing.phase.headers = some headers →
    (signing.phase.isAnswered = true ∨ ∃ call ∈ s.calls, call.signing = position) →
    Recent s.now signing.timestamp

theorem wf_init : Wf ed init where
  bounded := Nat.zero_le _
  past := by simp [init]
  genuine := by simp [init]
  cached := by simp [init]
  inflight := by simp [init]
  calls := by simp [init]

theorem fresh_init : Fresh init := by
  intro position signing headers found
  simp [init] at found

/-- When nothing is due, callers wait for prompts that are open. -/
theorem State.Idle.asked (idle : s.Idle) {call : Call} (waits : call ∈ s.calls)
    {signing : Signing} (found : s.signings[call.signing]? = some signing) :
    signing.phase = .asked := by
  have asked := idle.2 call waits
  rwa [found, Option.map_some, Option.some.injEq] at asked

/-! ### One operation at a time -/

/-- A promise goes on: its headers are genuine, and it is not the shared one when it settles. -/
theorem Wf.advance (wf : Wf ed s) {position : Nat} {signing : Signing} {phase : Phase}
    (found : s.signings[position]? = some signing)
    (genuine : signing.bodyHashHex = none → ∀ headers, phase.headers = some headers →
      Genuine ed signing.publicKey signing.timestamp headers)
    (unshared : phase.isSettled = true → s.inflight ≠ some position) :
    Wf ed (s.advance position signing phase) where
  bounded := wf.bounded
  past := by
    intro other member
    rcases List.mem_or_eq_of_mem_set member with before | rfl
    · exact wf.past other before
    · exact wf.past signing (List.mem_of_getElem? found)
  genuine := by
    intro other member
    rcases List.mem_or_eq_of_mem_set member with before | rfl
    · exact wf.genuine other before
    · exact genuine
  cached := wf.cached
  inflight := by
    intro shared isShared
    obtain ⟨other, there, bodyless, wallet, unsettled⟩ := wf.inflight shared isShared
    by_cases same : shared = position
    · -- the shared promise itself goes on, and does not settle
      subst same
      cases found.symm.trans there
      have notSettled : phase.isSettled = false := by
        by_contra settled
        exact unshared (by simpa using settled) isShared
      exact ⟨_, Slots.set_self found _, bodyless, wallet, notSettled⟩
    · -- another promise is as it was
      exact ⟨other, (List.getElem?_set_ne (Ne.symm same)).trans there, bodyless, wallet,
        unsettled⟩
  calls := by
    intro call waits isBodyless
    obtain ⟨other, there, key, bodyless⟩ := wf.calls call waits isBodyless
    by_cases same : call.signing = position
    · subst same
      cases found.symm.trans there
      exact ⟨_, Slots.set_self found _, key, bodyless⟩
    · exact ⟨other, (List.getElem?_set_ne (Ne.symm same)).trans there, key, bodyless⟩

/-- No promise is shared any more. -/
theorem Wf.unshare (wf : Wf ed s) (inflightWallet : Option String) :
    Wf ed { s with inflight := none, inflightWallet } :=
  { wf with inflight := fun _ isShared => nomatch isShared }

theorem Wf.cache (wf : Wf ed s) {cached : CachedSignature} {publicKey : Bytes32} {now : Nat}
    (past : now ≤ s.now) (expires : cached.expiresAt = now + REPLAY_WINDOW_MS)
    (genuine : Genuine ed publicKey (now / 1000) cached.headers) :
    Wf ed { s with cached := some cached } :=
  { wf with
    cached := by
      rintro _ ⟨⟩
      exact ⟨publicKey, now, past, expires, genuine⟩ }

theorem Wf.signAndCache (wf : Wf ed s) (publicKey : Bytes32) (bodyHashHex : Option String) :
    Wf ed (s.signAndCache publicKey bodyHashHex) where
  bounded := wf.bounded
  past := by
    intro other member
    rcases List.mem_append.mp member with before | new
    · exact wf.past other before
    · rw [List.mem_singleton.mp new]
      exact Nat.le_refl _
  genuine := by
    intro other member
    rcases List.mem_append.mp member with before | new
    · exact wf.genuine other before
    · rw [List.mem_singleton.mp new]
      intro _ headers none
      cases none
  cached := wf.cached
  inflight := by
    intro shared isShared
    obtain ⟨other, there, rest⟩ := wf.inflight shared isShared
    exact ⟨other, Slots.snoc_left there _, rest⟩
  calls := by
    intro call waits isBodyless
    obtain ⟨other, there, rest⟩ := wf.calls call waits isBodyless
    exact ⟨other, Slots.snoc_left there _, rest⟩

theorem Wf.wait (wf : Wf ed s) {publicKey : Bytes32} {bodyless : Bool} {position : Nat}
    (asked : bodyless = true → ∃ signing, s.signings[position]? = some signing ∧
      signing.publicKey = publicKey ∧ signing.bodyHashHex = none) :
    Wf ed (s.wait publicKey bodyless position) :=
  { wf with
    calls := by
      intro call waits
      rcases List.mem_cons.mp waits with rfl | before
      · exact asked
      · exact wf.calls call before }

theorem Wf.share (wf : Wf ed s) {position : Nat} {signing : Signing}
    (found : s.signings[position]? = some signing) (bodyless : signing.bodyHashHex = none)
    (unsettled : signing.phase.isSettled = false) :
    Wf ed (s.share position signing.walletHex) :=
  { wf with
    inflight := by
      rintro _ ⟨⟩
      exact ⟨signing, found, bodyless, rfl, unsettled⟩ }

theorem Fresh.advance (fresh : Fresh s) {position : Nat} {signing : Signing} {phase : Phase}
    (recent : signing.bodyHashHex = none → ∀ headers, phase.headers = some headers →
      Recent s.now signing.timestamp) :
    Fresh (s.advance position signing phase) := by
  intro position' signing' headers found bodyless has due
  rcases Slots.set_cases found with ⟨rfl, rfl⟩ | ⟨-, before⟩
  · exact recent bodyless headers has
  · exact fresh position' signing' headers before bodyless has due

theorem Fresh.signAndCache (fresh : Fresh s) (publicKey : Bytes32)
    (bodyHashHex : Option String) : Fresh (s.signAndCache publicKey bodyHashHex) := by
  intro position signing headers found bodyless has due
  rcases Slots.snoc_cases found with rfl | before
  · cases has
  · exact fresh position signing headers before bodyless has due

theorem Phase.isAnswered_of_headers {phase : Phase} {headers : WalletHeaders}
    (has : phase.headers = some headers) (unsettled : phase.isSettled = false) :
    phase.isAnswered = true := by
  cases phase with
  | asked => cases has
  | answered _ => rfl
  | settled _ => cases unsettled

/-- A caller that joins waits for a promise that has not settled. -/
theorem Fresh.wait (fresh : Fresh s) {publicKey : Bytes32} {bodyless : Bool} {position : Nat}
    {signing : Signing} (found : s.signings[position]? = some signing)
    (unsettled : signing.phase.isSettled = false) : Fresh (s.wait publicKey bodyless position) := by
  intro position' signing' headers found' isBodyless has due
  apply fresh position' signing' headers found' isBodyless has
  rcases due with answered | ⟨call, waits, same⟩
  · exact Or.inl answered
  · rcases List.mem_cons.mp waits with rfl | before
    · subst same
      cases found.symm.trans found'
      exact Or.inl (Phase.isAnswered_of_headers has unsettled)
    · exact Or.inr ⟨call, before, same⟩

/-! ### Calls -/

theorem signAndCache_last (s : State) (publicKey : Bytes32) (bodyHashHex : Option String) :
    (s.signAndCache publicKey bodyHashHex).signings[s.signings.length]? =
      some { publicKey, now := s.now, bodyHashHex, phase := .asked } :=
  List.getElem?_concat_length

theorem reusable_eq_some {walletHex : String} {cached : CachedSignature} :
    s.reusable walletHex = some cached ↔
      s.cached = some cached ∧ cached.walletHex = walletHex ∧ s.now < cached.expiresAt := by
  rw [State.reusable, Option.filter_eq_some_iff, decide_eq_true_iff]

theorem shared_eq_some {walletHex : String} {position : Nat} :
    s.shared walletHex = some position ↔
      s.inflight = some position ∧ s.inflightWallet = some walletHex := by
  rw [State.shared, Option.filter_eq_some_iff, decide_eq_true_iff]

/-- What the synchronous part of a call does: it returns cached headers or none, asks for a
signature over the body hash, joins the shared promise, or makes a new one. -/
theorem getWalletAuthHeaders_cases {bodyHashHex : Option String} {next : State}
    {reply : Option WalletHeaders} (called : s.getWalletAuthHeaders bodyHashHex = (next, reply)) :
    (next = s ∧ ∀ headers, reply = some headers → ∃ publicKey cached,
      s.signer = some { publicKey } ∧ s.reusable (bytesToHex publicKey.bytes) = some cached ∧
        headers = cached.headers) ∨
    (reply = none ∧ ∃ publicKey, s.signer = some { publicKey } ∧
      ((∃ hash, next =
          (s.signAndCache publicKey (some hash)).wait publicKey false s.signings.length) ∨
        (∃ position, s.shared (bytesToHex publicKey.bytes) = some position ∧
          next = s.wait publicKey true position) ∨
        next = ((s.signAndCache publicKey none).share s.signings.length
          (bytesToHex publicKey.bytes)).wait publicKey true s.signings.length)) := by
  simp only [State.getWalletAuthHeaders] at called
  split at called
  -- nobody can sign, and the record that is returned is empty
  next =>
    cases called
    exact Or.inl ⟨rfl, nofun⟩
  next publicKey isSigner =>
    split at called
    -- a signature over a body hash is neither cached nor shared
    next hash _ =>
      cases called
      exact Or.inr ⟨rfl, publicKey, isSigner, Or.inl ⟨hash, rfl⟩⟩
    next =>
      split at called
      next cached reusable =>
        cases called
        refine Or.inl ⟨rfl, ?_⟩
        rintro _ ⟨⟩
        exact ⟨publicKey, cached, isSigner, reusable, rfl⟩
      next =>
        split at called
        next position shared =>
          cases called
          exact Or.inr ⟨rfl, publicKey, isSigner, Or.inr (Or.inl ⟨position, shared, rfl⟩)⟩
        next =>
          cases called
          exact Or.inr ⟨rfl, publicKey, isSigner, Or.inr (Or.inr rfl)⟩

theorem Wf.getWalletAuthHeaders (wf : Wf ed s) {bodyHashHex : Option String} {next : State}
    {reply : Option WalletHeaders} (called : s.getWalletAuthHeaders bodyHashHex = (next, reply)) :
    Wf ed next := by
  rcases getWalletAuthHeaders_cases called with
    ⟨rfl, -⟩ | ⟨-, publicKey, -, ⟨hash, rfl⟩ | ⟨position, shared, rfl⟩ | rfl⟩
  · exact wf
  · exact (wf.signAndCache publicKey (some hash)).wait nofun
  · -- the shared promise is of the same key, since its text is the same
    obtain ⟨isShared, wallet⟩ := shared_eq_some.mp shared
    obtain ⟨signing, found, bodyless, same, -⟩ := wf.inflight position isShared
    rw [wallet, Option.some.injEq] at same
    exact wf.wait fun _ => ⟨signing, found, (bytesToHex_inj same).symm, bodyless⟩
  · have found := signAndCache_last s publicKey none
    exact ((wf.signAndCache publicKey none).share found rfl rfl).wait
      fun _ => ⟨_, found, rfl, rfl⟩

theorem Fresh.getWalletAuthHeaders (fresh : Fresh s) (wf : Wf ed s)
    {bodyHashHex : Option String} {next : State} {reply : Option WalletHeaders}
    (called : s.getWalletAuthHeaders bodyHashHex = (next, reply)) : Fresh next := by
  rcases getWalletAuthHeaders_cases called with
    ⟨rfl, -⟩ | ⟨-, publicKey, -, ⟨hash, rfl⟩ | ⟨position, shared, rfl⟩ | rfl⟩
  · exact fresh
  · exact (fresh.signAndCache publicKey (some hash)).wait (signAndCache_last s publicKey _) rfl
  · obtain ⟨signing, found, -, -, unsettled⟩ :=
      wf.inflight position (shared_eq_some.mp shared).1
    exact fresh.wait found unsettled
  · have shared : Fresh ((s.signAndCache publicKey none).share s.signings.length
      (bytesToHex publicKey.bytes)) := fresh.signAndCache publicKey none
    exact shared.wait (signAndCache_last s publicKey none) rfl

/-! ### Prompts -/

theorem Signing.genuine_headers (nonzero : NoZeroSignature ed) {signing : Signing}
    (bodyless : signing.bodyHashHex = none) {signatureBytes : List UInt8}
    (signs : isSignature ed signing.publicKey signing.message signatureBytes = true) :
    Genuine ed signing.publicKey signing.timestamp (signing.headers signatureBytes) where
  pubkey := rfl
  time := rfl
  signature := by
    rw [message, bodyless] at signs
    exact sent_signature nonzero signs

theorem Wf.not_shared (wf : Wf ed s) {position : Nat} {signing : Signing} {hash : String}
    (found : s.signings[position]? = some signing) (bound : signing.bodyHashHex = some hash) :
    s.inflight ≠ some position := by
  intro shared
  obtain ⟨other, there, bodyless, -⟩ := wf.inflight position shared
  cases found.symm.trans there
  rw [bound] at bodyless
  cases bodyless

theorem Wf.answer (wf : Wf ed s) (nonzero : NoZeroSignature ed) {position : Nat}
    {signing : Signing} {signatureBytes : List UInt8}
    (found : s.signings[position]? = some signing)
    (signs : isSignature ed signing.publicKey signing.message signatureBytes = true) :
    Wf ed (s.answer position signing signatureBytes) := by
  simp only [State.answer]
  split
  next hash bound =>
    refine wf.advance found (fun bodyless => ?_) fun _ => wf.not_shared found bound
    rw [bound] at bodyless
    cases bodyless
  next bodyless =>
    have genuine := Signing.genuine_headers nonzero bodyless signs
    have advanced : Wf ed (s.advance position signing
        (.answered (some (signing.headers signatureBytes)))) := by
      refine wf.advance found (fun _ headers same => ?_) nofun
      cases same
      exact genuine
    exact advanced.cache (wf.past signing (List.mem_of_getElem? found)) rfl genuine

theorem Wf.refuse (wf : Wf ed s) {position : Nat} {signing : Signing}
    (found : s.signings[position]? = some signing) : Wf ed (s.refuse position signing) := by
  rw [State.refuse]
  split
  next hash bound => exact wf.advance found (fun _ => nofun) fun _ => wf.not_shared found bound
  next => exact wf.advance found (fun _ => nofun) nofun

theorem Wf.cleanUp (wf : Wf ed s) {position : Nat} {signing : Signing}
    (found : s.signings[position]? = some signing) : Wf ed (s.cleanUp position signing) :=
  (wf.unshare none).advance found (wf.genuine signing (List.mem_of_getElem? found)) fun _ => nofun

theorem Fresh.answer (fresh : Fresh s) {position : Nat} {signing : Signing}
    (signatureBytes : List UInt8)
    (timely : signing.bodyHashHex = none → Recent s.now signing.timestamp) :
    Fresh (s.answer position signing signatureBytes) := by
  simp only [State.answer]
  split
  next => exact fresh.advance fun bodyless _ _ => timely bodyless
  next => exact fresh.advance fun bodyless _ _ => timely bodyless

theorem Fresh.refuse (fresh : Fresh s) (position : Nat) (signing : Signing) :
    Fresh (s.refuse position signing) := by
  rw [State.refuse]
  split
  next => exact fresh.advance fun _ _ => nofun
  next => exact fresh.advance fun _ _ => nofun

theorem Fresh.cleanUp (fresh : Fresh s) {position : Nat} {signing : Signing}
    (found : s.signings[position]? = some signing) (answered : signing.phase.isAnswered = true) :
    Fresh (s.cleanUp position signing) :=
  fresh.advance fun bodyless headers has =>
    fresh position signing headers found bodyless has (Or.inl answered)

/-! ### Every event -/

/-- What an event does that happens. -/
inductive Moved (ed : Ed25519 Signature) (s : State) : Event → State → Prop where
  | tick {later : Nat} (after : s.now ≤ later) (bounded : later ≤ MAX_TIME) (idle : s.Idle) :
    Moved ed s (.tick later) { s with now := later }
  | register (publicKey : Bytes32) :
    Moved ed s (.register publicKey) (s.registerWalletSigner publicKey)
  | unregister : Moved ed s .unregister s.unregisterWalletSigner
  | phantom (publicKey : Option Bytes32) :
    Moved ed s (.phantom publicKey) { s with phantom := publicKey.map RegisteredSigner.mk }
  | call {bodyHashHex : Option String} {next : State} {reply : Option WalletHeaders}
    (called : s.getWalletAuthHeaders bodyHashHex = (next, reply)) :
    Moved ed s (.call bodyHashHex) next
  | answer {position : Nat} {signing : Signing} {signatureBytes : List UInt8}
    (found : s.signings[position]? = some signing) (asked : signing.phase = .asked)
    (signs : isSignature ed signing.publicKey signing.message signatureBytes = true) :
    Moved ed s (.answer position signatureBytes) (s.answer position signing signatureBytes)
  | refuse {position : Nat} {signing : Signing}
    (found : s.signings[position]? = some signing) (asked : signing.phase = .asked) :
    Moved ed s (.refuse position) (s.refuse position signing)
  | cleanUp {position : Nat} {signing : Signing}
    (found : s.signings[position]? = some signing) (answered : signing.phase.isAnswered = true) :
    Moved ed s (.cleanUp position) (s.cleanUp position signing)
  | resume {call : Call} {signing : Signing} (waits : call ∈ s.calls)
    (found : s.signings[call.signing]? = some signing) (settled : signing.phase.isSettled = true) :
    Moved ed s (.resume call) { s with calls := s.calls.erase call }

theorem step_moved {event : Event} {next : State} (accepted : step ed s event = .ok next) :
    Moved ed s event next := by
  cases event with
  | tick later =>
    simp only [step, bind_eq_ok, require_eq_ok (u := ⟨⟩), pure_eq_ok] at accepted
    obtain ⟨⟨⟩, ⟨after, bounded, idle⟩, rfl⟩ := accepted
    exact .tick after bounded idle
  | register publicKey =>
    cases accepted
    exact .register publicKey
  | unregister =>
    cases accepted
    exact .unregister
  | phantom publicKey =>
    cases accepted
    exact .phantom publicKey
  | call bodyHashHex =>
    cases accepted
    exact .call rfl
  | answer position signatureBytes =>
    simp only [step, bind_eq_ok, okOr_eq_ok, require_eq_ok (u := ⟨⟩), pure_eq_ok] at accepted
    obtain ⟨signing, found, ⟨⟩, ⟨asked, signs⟩, rfl⟩ := accepted
    exact .answer found asked signs
  | refuse position =>
    simp only [step, bind_eq_ok, okOr_eq_ok, require_eq_ok (u := ⟨⟩), pure_eq_ok] at accepted
    obtain ⟨signing, found, ⟨⟩, asked, rfl⟩ := accepted
    exact .refuse found asked
  | cleanUp position =>
    simp only [step, bind_eq_ok, okOr_eq_ok, require_eq_ok (u := ⟨⟩), pure_eq_ok] at accepted
    obtain ⟨signing, found, ⟨⟩, answered, rfl⟩ := accepted
    exact .cleanUp found answered
  | resume call =>
    simp only [step, bind_eq_ok, okOr_eq_ok, require_eq_ok (u := ⟨⟩), pure_eq_ok] at accepted
    obtain ⟨⟨⟩, waits, signing, found, ⟨⟩, settled, rfl⟩ := accepted
    exact .resume waits found settled

/-- No event mixes up wallets, also when prompts are answered late. -/
theorem step_wf (nonzero : NoZeroSignature ed) (wf : Wf ed s) {event : Event} {next : State}
    (accepted : step ed s event = .ok next) : Wf ed next := by
  cases step_moved accepted with
  | tick after bounded idle =>
    -- what was in the past stays there
    refine
      { wf with
        bounded
        past := fun signing member => (wf.past signing member).trans after
        cached := ?_ }
    intro cached isCached
    obtain ⟨publicKey, now, past, rest⟩ := wf.cached cached isCached
    exact ⟨publicKey, now, past.trans after, rest⟩
  | register publicKey => exact { wf with }
  | unregister => exact { wf with cached := nofun, inflight := nofun }
  | phantom publicKey => exact { wf with }
  | call called => exact wf.getWalletAuthHeaders called
  | answer found asked signs => exact wf.answer nonzero found signs
  | refuse found asked => exact wf.refuse found
  | cleanUp found answered => exact wf.cleanUp found
  | resume waits found settled =>
    exact { wf with calls := fun other waits => wf.calls other (List.mem_of_mem_erase waits) }

/-- Headers that are still to be returned stay in the window, when prompts are answered in
time. -/
theorem step_fresh (wf : Wf ed s) (fresh : Fresh s) {event : Event} (timely : Timely s event)
    {next : State} (accepted : step ed s event = .ok next) : Fresh next := by
  cases step_moved accepted with
  | tick after bounded idle =>
    -- time does not pass while headers are still to be returned
    intro position signing headers found bodyless has due
    rcases due with answered | ⟨call, waits, rfl⟩
    · rw [idle.1 signing (List.mem_of_getElem? found)] at answered
      cases answered
    · rw [idle.asked waits found] at has
      cases has
  | register publicKey => exact fresh
  | unregister => exact fresh
  | phantom publicKey => exact fresh
  | call called => exact fresh.getWalletAuthHeaders wf called
  | answer found asked signs => exact fresh.answer _ (timely _ found)
  | refuse found asked => exact fresh.refuse _ _
  | cleanUp found answered => exact fresh.cleanUp found answered
  | resume waits found settled =>
    intro position signing headers found bodyless has due
    apply fresh position signing headers found bodyless has
    rcases due with answered | ⟨other, waits, same⟩
    · exact Or.inl answered
    · exact Or.inr ⟨other, List.mem_of_mem_erase waits, same⟩

end Invariants

/-! ## What is returned -/

section Returns

variable {Signature : Type} {ed : Ed25519 Signature} {s : State}

/-- What is returned at once was cached for the signer, and has not expired. -/
theorem returned_call {bodyHashHex : Option String} {r : Returned}
    (returns : returned s (.call bodyHashHex) = some r) : ∃ cached, s.cached = some cached ∧
      cached.walletHex = bytesToHex r.publicKey.bytes ∧ s.now < cached.expiresAt ∧
      r.headers = cached.headers ∧ r.now = s.now := by
  simp only [returned, Option.bind_eq_bind, Option.bind_eq_some_iff, Option.pure_def,
    Option.some.injEq] at returns
  obtain ⟨signer, isSigner, headers, reply, rfl⟩ := returns
  rcases called : s.getWalletAuthHeaders bodyHashHex with ⟨next, sent⟩
  rw [called] at reply
  rcases getWalletAuthHeaders_cases called with ⟨-, hit⟩ | ⟨none, -⟩
  · obtain ⟨publicKey, cached, same, reusable, rfl⟩ := hit headers reply
    cases isSigner.symm.trans same
    obtain ⟨isCached, wallet, unexpired⟩ := reusable_eq_some.mp reusable
    exact ⟨cached, isCached, wallet, unexpired, rfl, rfl⟩
  · cases none.symm.trans reply

theorem returned_resume {call : Call} {r : Returned}
    (returns : returned s (.resume call) = some r) : call.bodyless = true ∧ ∃ signing,
      s.signings[call.signing]? = some signing ∧ signing.phase.headers = some r.headers ∧
      r.publicKey = call.publicKey ∧ r.now = s.now := by
  rw [returned] at returns
  split at returns
  next bodyless =>
    simp only [Option.bind_eq_bind, Option.bind_eq_some_iff, Option.pure_def,
      Option.some.injEq] at returns
    obtain ⟨signing, found, headers, has, rfl⟩ := returns
    exact ⟨bodyless, signing, found, has, rfl, rfl⟩
  next => cases returns

/-- Headers are of the signer of their call, over their own time, which has passed; they are in
the window when what is still to be returned is. -/
theorem returned_genuine (wf : Wf ed s) {event : Event} {r : Returned} {next : State}
    (accepted : step ed s event = .ok next) (returns : returned s event = some r) :
    ∃ timestamp, Genuine ed r.publicKey timestamp r.headers ∧ r.now = s.now ∧
      timestamp ≤ s.now / 1000 ∧ (Fresh s → Recent s.now timestamp) := by
  cases event with
  | call bodyHashHex =>
    obtain ⟨cached, isCached, wallet, unexpired, headers, time⟩ := returned_call returns
    obtain ⟨publicKey, now, past, expires, genuine⟩ := wf.cached cached isCached
    have same : publicKey = r.publicKey := bytesToHex_inj (genuine.pubkey.symm.trans wallet)
    rw [← same, headers]
    -- a signature is cached for less than the window
    rw [expires, REPLAY_WINDOW_MS] at unexpired
    refine ⟨now / 1000, genuine, time, by omega, fun _ => ?_⟩
    rw [Recent, REPLAY_WINDOW_SECS]
    omega
  | resume call =>
    obtain ⟨bodyless, signing, found, has, key, time⟩ := returned_resume returns
    cases step_moved accepted with
    | resume waits _ _ =>
      obtain ⟨other, there, same, unbound⟩ := wf.calls call waits bodyless
      cases found.symm.trans there
      rw [key, ← same]
      have member := List.mem_of_getElem? found
      have past := wf.past signing member
      refine ⟨signing.timestamp, wf.genuine signing member unbound _ has, time, ?_, fun fresh => ?_⟩
      · rw [Signing.timestamp]
        omega
      · exact fresh call.signing signing _ found unbound has (Or.inr ⟨call, waits, rfl⟩)
  | tick later => cases returns
  | register publicKey => cases returns
  | unregister => cases returns
  | phantom publicKey => cases returns
  | answer position signatureBytes => cases returns
  | refuse position => cases returns
  | cleanUp position => cases returns

/-- The service takes genuine headers exactly in the window of their time. -/
theorem current_iff (wf : Wf ed s) {r : Returned} {timestamp : Nat}
    (genuine : Genuine ed r.publicKey timestamp r.headers) (now : r.now = s.now)
    (past : timestamp ≤ s.now / 1000) : Current ed r ↔ Recent s.now timestamp := by
  have taken := parseReplayTimestamp_iff wf.bounded past
  rw [← genuine.time, ← now] at taken
  constructor
  · rintro ⟨other, sameHeaders, ok⟩
    have parsed := (parseReplayTimestamp_eq_ok.mp ok).1
    rw [genuine.time, parse_timestamp (by have := wf.bounded; omega), Option.some.injEq] at parsed
    rw [← parsed] at ok
    rw [← now]
    exact taken.mp ok
  · intro recent
    rw [← now] at recent
    exact ⟨timestamp, genuine, taken.mpr recent⟩

theorem toAsciiLowercase_bytesToHex (bytes : List UInt8) :
    toAsciiLowercase (bytesToHex bytes) = bytesToHex bytes := by
  have digit : ∀ n < 16, n.digitChar.toLower = n.digitChar := by decide
  have lower : (Numerals.hex bytes).map Char.toLower = Numerals.hex bytes := by
    rw [Numerals.hex, List.map_flatMap]
    refine congrArg (bytes.flatMap ·) (funext fun byte => ?_)
    have bound := byte.toNat_lt
    rw [Numerals.hexByte_digits, List.map_cons, List.map_cons, List.map_nil, digit _ (by omega),
      digit _ (by omega)]
  rw [toAsciiLowercase, bytesToHex, String.toList_ofList, lower]

/-- The service lets the signer of the call read its own paths with current headers. -/
theorem Current.accept {r : Returned} (current : Current ed r) :
    (AuthRequest.read
      { wallet := some (bytesToHex r.publicKey.bytes)
        allowUnauthenticated := none
        headers := r.headers.sent }).accept ed (r.now / 1000) =
      .ok (bytesToHex r.publicKey.bytes) := by
  obtain ⟨timestamp, genuine, taken⟩ := current
  obtain ⟨parsed, inside⟩ := parseReplayTimestamp_eq_ok.mp taken
  obtain ⟨sig, read, verifies⟩ := genuine.signature
  have decoded : decodeWallet (bytesToHex r.publicKey.bytes) = .ok r.publicKey :=
    decode_walletText r.publicKey
  refine (AuthRequest.accept_eq_ok rfl).mpr
    ⟨⟨.read, bytesToHex r.publicKey.bytes, r.publicKey, timestamp, decoded⟩, sig, ?_, rfl, inside,
      read, verifies⟩
  exact
    { purpose := rfl
      wallet := congrArg some (toAsciiLowercase_bytesToHex _)
      timestamp := parsed }

theorem mem_note {notes : List Returned} {event : Event} {r : Returned} :
    r ∈ note notes s event ↔ r ∈ notes ∨ returned s event = some r := by
  rw [note, List.mem_append, Option.mem_toList]

/-- Whatever the order of the events and however late prompts are answered, headers are of the
signer of their call, signed over their own time. -/
theorem headers_genuine (nonzero : NoZeroSignature ed) (events : List Event) :
    ∀ r ∈ allReturned ed events, ∃ timestamp, Genuine ed r.publicKey timestamp r.headers := by
  have preserved : ∀ (s : State) (notes : List Returned) (event : Event) (next : State),
      (Wf ed s ∧ ∀ r ∈ notes, ∃ timestamp, Genuine ed r.publicKey timestamp r.headers) →
      step ed s event = .ok next → Wf ed next ∧
        ∀ r ∈ note notes s event, ∃ timestamp, Genuine ed r.publicKey timestamp r.headers := by
    rintro s notes event next ⟨wf, genuine⟩ accepted
    refine ⟨step_wf nonzero wf accepted, fun r member => ?_⟩
    rcases mem_note.mp member with before | returns
    · exact genuine r before
    · obtain ⟨timestamp, ofCall, -⟩ := returned_genuine wf accepted returns
      exact ⟨timestamp, ofCall⟩
  exact (history_invariant preserved init [] events ⟨wf_init, by simp⟩).2

/-- When every prompt without a body hash is answered in its window, all headers are current. -/
theorem current_of_timely (nonzero : NoZeroSignature ed) (events : List Event)
    (timely : Meets (step ed) Timely init events) :
    ∀ r ∈ allReturned ed events, Current ed r := by
  have preserved : ∀ (s : State) (notes : List Returned) (event : Event) (next : State),
      ((Wf ed s ∧ Fresh s) ∧ ∀ r ∈ notes, Current ed r) → Timely s event →
      step ed s event = .ok next →
      (Wf ed next ∧ Fresh next) ∧ ∀ r ∈ note notes s event, Current ed r := by
    rintro s notes event next ⟨⟨wf, fresh⟩, current⟩ allowed accepted
    refine ⟨⟨step_wf nonzero wf accepted, step_fresh wf fresh allowed accepted⟩, fun r member => ?_⟩
    rcases mem_note.mp member with before | returns
    · exact current r before
    · obtain ⟨timestamp, genuine, now, past, recent⟩ := returned_genuine wf accepted returns
      exact (current_iff wf genuine now past).mpr (recent fresh)
  exact (history_invariant_of_meets preserved init [] events timely
    ⟨⟨wf_init, fresh_init⟩, by simp⟩).2

end Returns

/-! ## Late answers -/

section Late

variable {Signature : Type} {ed : Ed25519 Signature} {s : State}

/-- A caller waits for each promise without a body hash that has not settled. -/
def Awaited (s : State) : Prop :=
  ∀ position signing, s.signings[position]? = some signing → signing.bodyHashHex = none →
    signing.phase.isSettled = false →
      ∃ call ∈ s.calls, call.signing = position ∧ call.bodyless = true

/-- A caller is going to be returned headers that are out of the window. -/
def Overdue (s : State) : Prop :=
  ∃ call ∈ s.calls, call.bodyless = true ∧ ∃ signing headers,
    s.signings[call.signing]? = some signing ∧ signing.phase.headers = some headers ∧
      ¬ Recent s.now signing.timestamp

theorem awaited_init : Awaited init := by
  intro position signing found
  simp [init] at found

theorem Awaited.advance (awaited : Awaited s) {position : Nat} {signing : Signing} {phase : Phase}
    (found : s.signings[position]? = some signing)
    (stillOpen : phase.isSettled = false → signing.phase.isSettled = false) :
    Awaited (s.advance position signing phase) := by
  intro position' signing' found' bodyless unsettled
  rcases Slots.set_cases found' with ⟨rfl, rfl⟩ | ⟨-, before⟩
  · exact awaited position' signing found bodyless (stillOpen unsettled)
  · exact awaited position' signing' before bodyless unsettled

/-- A caller that is added waits for the promise that is. -/
theorem Awaited.ask (awaited : Awaited s) (publicKey : Bytes32) {bodyHashHex : Option String}
    {bodyless : Bool} (same : bodyHashHex = none → bodyless = true) :
    Awaited ((s.signAndCache publicKey bodyHashHex).wait publicKey bodyless s.signings.length) := by
  intro position signing found isBodyless unsettled
  rcases Nat.lt_or_ge position s.signings.length with inside | after
  · have before := (List.getElem?_append_left inside).symm.trans found
    obtain ⟨call, waits, rest⟩ := awaited position signing before isBodyless unsettled
    exact ⟨call, List.mem_cons_of_mem _ waits, rest⟩
  · have last : position = s.signings.length := by
      have bound := (List.getElem?_eq_some_iff.mp found).1
      simp only [State.wait, State.signAndCache, List.length_append, List.length_singleton] at bound
      omega
    subst last
    cases (signAndCache_last s publicKey bodyHashHex).symm.trans found
    exact ⟨_, List.mem_cons_self, rfl, same isBodyless⟩

theorem step_awaited (awaited : Awaited s) {event : Event} {next : State}
    (accepted : step ed s event = .ok next) : Awaited next := by
  cases step_moved accepted with
  | tick after bounded idle => exact awaited
  | register publicKey => exact awaited
  | unregister => exact awaited
  | phantom publicKey => exact awaited
  | call called =>
    rcases getWalletAuthHeaders_cases called with
      ⟨rfl, -⟩ | ⟨-, publicKey, -, ⟨hash, rfl⟩ | ⟨position, -, rfl⟩ | rfl⟩
    · exact awaited
    · exact awaited.ask publicKey nofun
    · intro position' signing found bodyless unsettled
      obtain ⟨call, waits, rest⟩ := awaited position' signing found bodyless unsettled
      exact ⟨call, List.mem_cons_of_mem _ waits, rest⟩
    · exact awaited.ask publicKey fun _ => rfl
  | @answer position signing signatureBytes found asked signs =>
    have unsettled : signing.phase.isSettled = false := by rw [asked]; rfl
    simp only [State.answer]
    split
    next => exact awaited.advance found fun _ => unsettled
    next => exact awaited.advance found fun _ => unsettled
  | @refuse position signing found asked =>
    have unsettled : signing.phase.isSettled = false := by rw [asked]; rfl
    rw [State.refuse]
    split
    next => exact awaited.advance found fun _ => unsettled
    next => exact awaited.advance found fun _ => unsettled
  -- the promise settles, so that nobody has to wait for it
  | cleanUp found answered => exact awaited.advance found nofun
  | @resume call signing waits found settled =>
    intro position other there bodyless unsettled
    obtain ⟨waiting, waits', same, isBodyless⟩ := awaited position other there bodyless unsettled
    -- the caller that goes on waited for another promise
    have different : waiting ≠ call := by
      rintro rfl
      rw [← same] at there
      cases found.symm.trans there
      rw [settled] at unsettled
      cases unsettled
    exact ⟨waiting, (List.mem_erase_of_ne different).mpr waits', same, isBodyless⟩

theorem Overdue.advance (overdue : Overdue s) {position : Nat} {signing : Signing} {phase : Phase}
    (found : s.signings[position]? = some signing)
    (kept : ∀ headers, signing.phase.headers = some headers → phase.headers = some headers) :
    Overdue (s.advance position signing phase) := by
  obtain ⟨call, waits, bodyless, other, headers, there, has, late⟩ := overdue
  refine ⟨call, waits, bodyless, ?_⟩
  by_cases same : call.signing = position
  · subst same
    cases found.symm.trans there
    exact ⟨_, headers, Slots.set_self found _, kept headers has, late⟩
  · exact ⟨other, headers, (List.getElem?_set_ne (Ne.symm same)).trans there, has, late⟩

/-- A late answer leaves a caller that is going to be returned its headers. -/
theorem overdue_of_late (awaited : Awaited s) {event : Event} {next : State}
    (accepted : step ed s event = .ok next) (late : ¬ Timely s event) : Overdue next := by
  cases step_moved accepted with
  | @answer position signing signatureBytes found asked signs =>
    have late' : signing.bodyHashHex = none ∧ ¬ Recent s.now signing.timestamp := by
      by_contra timely
      apply late
      intro other there bodyless
      cases found.symm.trans there
      by_contra expired
      exact timely ⟨bodyless, expired⟩
    obtain ⟨bodyless, expired⟩ := late'
    obtain ⟨call, waits, same, isBodyless⟩ :=
      awaited position signing found bodyless (by rw [asked]; rfl)
    subst same
    simp only [State.answer]
    split
    next hash bound =>
      rw [bound] at bodyless
      cases bodyless
    next => exact ⟨call, waits, isBodyless, _, _, Slots.set_self found _, rfl, expired⟩
  | tick after bounded idle => exact absurd trivial late
  | register publicKey => exact absurd trivial late
  | unregister => exact absurd trivial late
  | phantom publicKey => exact absurd trivial late
  | call called => exact absurd trivial late
  | refuse found asked => exact absurd trivial late
  | cleanUp found answered => exact absurd trivial late
  | resume waits found settled => exact absurd trivial late

/-- What is overdue stays so, until it is returned. -/
theorem step_overdue (wf : Wf ed s) (overdue : Overdue s) {event : Event} {next : State}
    (accepted : step ed s event = .ok next) :
    (∃ r, returned s event = some r ∧ ¬ Current ed r) ∨ Overdue next := by
  have due := overdue
  obtain ⟨call, waits, bodyless, signing, headers, there, has, late⟩ := due
  cases step_moved accepted with
  | tick after bounded idle =>
    rw [idle.asked waits there] at has
    cases has
  | register publicKey => exact Or.inr overdue
  | unregister => exact Or.inr overdue
  | phantom publicKey => exact Or.inr overdue
  | call called =>
    right
    rcases getWalletAuthHeaders_cases called with
      ⟨rfl, -⟩ | ⟨-, publicKey, -, ⟨hash, rfl⟩ | ⟨position, -, rfl⟩ | rfl⟩
    · exact overdue
    · exact ⟨call, List.mem_cons_of_mem _ waits, bodyless, signing, headers,
        Slots.snoc_left there _, has, late⟩
    · exact ⟨call, List.mem_cons_of_mem _ waits, bodyless, signing, headers, there, has, late⟩
    · exact ⟨call, List.mem_cons_of_mem _ waits, bodyless, signing, headers,
        Slots.snoc_left there _, has, late⟩
  | @answer position asking signatureBytes found asked signs =>
    right
    simp only [State.answer]
    split
    next => exact overdue.advance found fun _ has => absurd has (asked ▸ nofun)
    next => exact overdue.advance found fun _ has => absurd has (asked ▸ nofun)
  | @refuse position asking found asked =>
    right
    rw [State.refuse]
    split
    next => exact overdue.advance found fun _ has => absurd has (asked ▸ nofun)
    next => exact overdue.advance found fun _ has => absurd has (asked ▸ nofun)
  -- a promise that settles keeps its headers
  | cleanUp found answered => exact Or.inr (overdue.advance found fun _ has => has)
  | @resume other settled waits' found isSettled =>
    by_cases same : call = other
    · -- the caller goes on, with the headers that are too old
      subst same
      have returns : returned s (.resume call) =
          some { publicKey := call.publicKey, headers, now := s.now } := by
        rw [returned, if_pos bodyless, there]
        simp only [Option.bind_eq_bind, Option.bind_some, has, Option.pure_def]
      obtain ⟨asking, found, key, unbound⟩ := wf.calls call waits bodyless
      cases there.symm.trans found
      have member := List.mem_of_getElem? there
      have genuine := wf.genuine signing member unbound headers has
      rw [key] at genuine
      have past : signing.timestamp ≤ s.now / 1000 := Nat.div_le_div_right (wf.past signing member)
      exact Or.inl ⟨_, returns, fun current => late ((current_iff wf genuine rfl past).mp current)⟩
    · exact Or.inr ⟨call, (List.mem_erase_of_ne same).mpr waits, bodyless, signing, headers, there,
        has, late⟩

theorem mem_history {r : Returned} {notes : List Returned} (noted : r ∈ notes)
    (s : State) (events : List Event) : r ∈ history (step ed) note notes s events := by
  have preserved : ∀ (s : State) (notes : List Returned) (event : Event) (next : State),
      r ∈ notes → step ed s event = .ok next → r ∈ note notes s event :=
    fun _ _ _ _ before _ => mem_note.mpr (Or.inl before)
  exact history_invariant preserved s notes events noted

/-- A run that leaves nothing due has returned what was overdue. -/
theorem run_overdue (nonzero : NoZeroSignature ed) (events : List Event) (s : State)
    (notes : List Returned) (wf : Wf ed s) (overdue : Overdue s)
    (idle : (run (step ed) s events).Idle) :
    ∃ r ∈ history (step ed) note notes s events, ¬ Current ed r := by
  induction events generalizing s notes with
  | nil =>
    obtain ⟨call, waits, -, signing, headers, there, has, -⟩ := overdue
    rw [State.Idle.asked idle waits there] at has
    cases has
  | cons event rest ih =>
    rw [run_cons] at idle
    cases outcome : step ed s event with
    | error failure =>
      rw [commit, outcome] at idle
      rw [history_cons_error outcome]
      exact ih s notes wf overdue idle
    | ok next =>
      rw [commit_ok outcome] at idle
      rw [history_cons_ok outcome]
      rcases step_overdue wf overdue outcome with ⟨r, returns, expired⟩ | later
      · exact ⟨r, mem_history (mem_note.mpr (Or.inr returns)) next rest, expired⟩
      · exact ih next _ (step_wf nonzero wf outcome) later idle

/-- A run that leaves nothing due, and has returned current headers only, has met no late
answer. -/
theorem timely_of_current (nonzero : NoZeroSignature ed) (events : List Event) (s : State)
    (notes : List Returned) (wf : Wf ed s) (awaited : Awaited s)
    (idle : (run (step ed) s events).Idle)
    (current : ∀ r ∈ history (step ed) note notes s events, Current ed r) :
    Meets (step ed) Timely s events := by
  induction events generalizing s notes with
  | nil => trivial
  | cons event rest ih =>
    rw [run_cons] at idle
    cases outcome : step ed s event with
    | error failure =>
      rw [commit, outcome] at idle
      rw [history_cons_error outcome] at current
      -- an event that does not happen asks for nothing
      refine ⟨fun next accepted => ?_, ?_⟩
      · cases outcome.symm.trans accepted
      · rw [commit, outcome]
        exact ih s notes wf awaited idle current
    | ok next =>
      rw [commit_ok outcome] at idle
      rw [history_cons_ok outcome] at current
      refine (meets_cons_ok outcome rest).mpr ⟨?_, ?_⟩
      · by_contra late
        have overdue := overdue_of_late awaited outcome late
        obtain ⟨r, member, expired⟩ :=
          run_overdue nonzero rest next _ (step_wf nonzero wf outcome) overdue idle
        exact expired (current r member)
      · exact ih next _ (step_wf nonzero wf outcome) (step_awaited awaited outcome) idle current

end Late

/-- A run whose prompts are all answered in time returns current headers only. One that leaves
nothing due and has met a late answer has returned others. -/
theorem current_iff_timely {Signature : Type} {ed : Ed25519 Signature}
    (nonzero : NoZeroSignature ed) (events : List Event) :
    (Meets (step ed) Timely init events → ∀ r ∈ allReturned ed events, Current ed r) ∧
    ((run (step ed) init events).Idle → (∀ r ∈ allReturned ed events, Current ed r) →
      Meets (step ed) Timely init events) :=
  ⟨current_of_timely nonzero events, timely_of_current nonzero events init [] wf_init awaited_init⟩

namespace Sample

open Service.Sample (keyThenText)

def asking : Signing where
  publicKey := .zero
  now := 0
  bodyHashHex := none
  phase := .asked

def signatureBytes : List UInt8 := 1 :: (Bytes32.zero.bytes ++ asking.message.toUTF8.data.toList)

/-- A prompt that is answered after a delay. -/
def answeredAfter (delay : Nat) : List Event :=
  [.register .zero, .call none, .tick delay, .answer 0 signatureBytes, .cleanUp 0,
    .resume { publicKey := .zero, bodyless := true, signing := 0 }]

theorem isSignature_keyThenText (publicKey : Bytes32) (message : String) (bytes : List UInt8) :
    isSignature keyThenText publicKey message bytes = true ↔
      bytes = 1 :: (publicKey.bytes ++ message.toUTF8.data.toList) := by
  rw [isSignature]
  simp only [keyThenText, Base58.decode_encode, decide_eq_true_iff]

theorem noZeroSignature : NoZeroSignature keyThenText := by
  intro publicKey message count
  rw [← Bool.not_eq_true, isSignature_keyThenText]
  cases count with
  | zero => exact nofun
  | succ count =>
    rw [List.replicate_succ]
    intro same
    exact absurd (List.cons.inj same).1 (by decide)

theorem signs : isSignature keyThenText .zero asking.message signatureBytes = true :=
  (isSignature_keyThenText _ _ _).mpr rfl

/-- The prompt is open. -/
def opened (now : Nat) : State where
  cached := none
  inflight := some 0
  inflightWallet := some asking.walletHex
  registeredSigner := some { publicKey := .zero }
  phantom := none
  signings := [asking]
  calls := [{ publicKey := .zero, bodyless := true, signing := 0 }]
  now

theorem step_tick {delay : Nat} (bounded : delay ≤ MAX_TIME) :
    step keyThenText (opened 0) (.tick delay) = .ok (opened delay) := by
  have idle : (opened 0).Idle := by decide
  rw [step, require, if_pos ⟨Nat.zero_le delay, bounded, idle⟩]
  rfl

theorem step_answer (delay : Nat) : step keyThenText (opened delay) (.answer 0 signatureBytes) =
    .ok ((opened delay).answer 0 asking signatureBytes) := by
  have found : (opened delay).signings[0]? = some asking := rfl
  rw [step, found, okOr, ok_bind, require, if_pos ⟨rfl, signs⟩]
  rfl

theorem allReturned_answeredAfter {delay : Nat} (bounded : delay ≤ MAX_TIME) :
    allReturned keyThenText (answeredAfter delay) =
      [{ publicKey := .zero, headers := asking.headers signatureBytes, now := delay }] := by
  have registered : step keyThenText init (.register .zero) =
      .ok (init.registerWalletSigner .zero) := rfl
  have called : step keyThenText (init.registerWalletSigner .zero) (.call none) =
      .ok (opened 0) := rfl
  have cleaned : step keyThenText ((opened delay).answer 0 asking signatureBytes) (.cleanUp 0) =
      .ok (((opened delay).answer 0 asking signatureBytes).cleanUp 0
        { asking with phase := .answered (some (asking.headers signatureBytes)) }) := rfl
  obtain ⟨last, resumed⟩ : ∃ last, step keyThenText
      (((opened delay).answer 0 asking signatureBytes).cleanUp 0
        { asking with phase := .answered (some (asking.headers signatureBytes)) })
      (.resume { publicKey := .zero, bodyless := true, signing := 0 }) = .ok last := ⟨_, rfl⟩
  rw [allReturned, answeredAfter, history_cons_ok registered, history_cons_ok called,
    history_cons_ok (step_tick bounded), history_cons_ok (step_answer delay),
    history_cons_ok cleaned, history_cons_ok resumed]
  rfl

/-- An answer within the window. -/
theorem current_iff_timely_answered : Meets (step keyThenText) Timely init (answeredAfter 200000) ∧
    ∀ r ∈ allReturned keyThenText (answeredAfter 200000), Current keyThenText r := by
  have timely : Meets (step keyThenText) Timely init (answeredAfter 200000) := by
    refine ⟨fun _ _ => trivial, fun _ _ => trivial, fun _ _ => trivial, ?_, fun _ _ => trivial,
      fun _ _ => trivial, trivial⟩
    have reached : commit (step keyThenText) (opened 0) (.tick 200000) = opened 200000 :=
      commit_ok (step_tick (by decide))
    intro next accepted signing found bodyless
    have there : (opened 200000).signings[0]? = some signing := reached ▸ found
    cases there
    show Recent (commit (step keyThenText) (opened 0) (.tick 200000)).now 0
    rw [reached, Recent]
    decide
  exact ⟨timely, (current_iff_timely noZeroSignature (answeredAfter 200000)).1 timely⟩

/-- A prompt that is open for five minutes and a second. -/
theorem not_current : ¬ ∀ events, ∀ r ∈ allReturned keyThenText events, Current keyThenText r := by
  intro always
  have current := always (answeredAfter 301000)
    { publicKey := .zero, headers := asking.headers signatureBytes, now := 301000 }
    (by rw [allReturned_answeredAfter (by decide)]; exact List.mem_singleton_self _)
  obtain ⟨timestamp, -, taken⟩ := current
  have refused : parseReplayTimestamp 301 "0" = .error "timestamp outside replay window" := by
    decide
  cases refused.symm.trans taken

end Sample

end ZkSettle.Frontend.WalletAuth
