import ZkSettle.Frontend.Submit
import ZkSettle.Library.Doubles
import ZkSettle.Service.Groth16

/-!
# The bundle of the prover

`proveGroth16` takes the answer of the prover apart by the lengths in its headers and keeps
the whole body as the proof. On the chain the body is split from its end. All three agree on
the length of the public witness, so that they find the same proof and the same entries.
-/
namespace ZkSettle.Frontend

open Checks
open ZkSettle.Program
open ZkSettle.Sdk
open ZkSettle.Service
open ZkSettle.Service.Groth16

/-! ## Source -/

/-- A number of the language that is read from digits. -/
inductive JsNumber where
  | nan
  | infinite (negative : Bool)
  | finite (n : Int)
  deriving DecidableEq, Repr

/-- The number, if `Number.isFinite` holds. -/
def JsNumber.toInt : JsNumber → Option Int
  | finite n => some n
  | nan | infinite _ => none

/-- A sign, if there is one, and what is behind it. -/
def splitSign : Text → Bool × Text
  | '-' :: rest => (true, rest)
  | '+' :: rest => (false, rest)
  | text => (false, text)

/-- `Number.parseInt(text, 10)`: the digits up to the first other character. -/
def parseInt (text : Text) : JsNumber :=
  let (negative, rest) := splitSign (text.dropWhile isSpace)
  match Numerals.parse 10 (rest.takeWhile Char.isDigit) with
  | none => .nan
  | some n =>
    match Doubles.nearest n with
    | none => .infinite negative
    | some m => .finite (if negative then -m else m)

/-- `Headers.get`: the values of one name together. -/
def getHeader (headers : List (String × String)) (name : String) : Option String :=
  match (headers.filter fun header => toAsciiLowercase header.1 = name).map Prod.snd with
  | [] => none
  | value :: values => some (", ".intercalate (value :: values))

def GROTH16_WITNESS_HEADER_LEN : Nat := 12

def GROTH16_FIELD_LEN : Nat := 32

def GROTH16_NUM_PUBLIC_INPUTS : Nat := 11

def GROTH16_PUBLIC_WITNESS_LEN : Nat :=
  GROTH16_WITNESS_HEADER_LEN + GROTH16_NUM_PUBLIC_INPUTS * GROTH16_FIELD_LEN

def GROTH16_PROOF_MAX_LEN : Nat := 4096

structure Groth16ProofBundle where
  proof : List UInt8
  publicInputs : List Text
  deriving DecidableEq, Repr

/-- Why the answer is not taken for a bundle. -/
inductive BundleError where
  | invalidLengths (proofLen witnessLen : JsNumber)
  | proofLength (proofLen : Int)
  | lengthMismatch (proofLen witnessLen : Int) (body : Nat)
  | witnessLength (witnessLen : Int)
  deriving DecidableEq, Repr

/-- The error of an answer whose status is not one of success, or of its bundle. -/
inductive ProveGroth16Error where
  | api (status : Nat)
  | bundle (error : BundleError)
  deriving DecidableEq, Repr

/-- The template of the text that is thrown. -/
def BundleError.template : BundleError → List (String ⊕ JsNumber)
  | invalidLengths proofLen witnessLen =>
    [.inl "proveGroth16: missing/invalid length headers (proof=", .inr proofLen,
      .inl ", witness=", .inr witnessLen, .inl ")"]
  | proofLength proofLen =>
    [.inl "proveGroth16: proof length ", .inr (.finite proofLen),
      .inl " outside sane bounds (0..", .inr (.finite GROTH16_PROOF_MAX_LEN), .inl ")"]
  | lengthMismatch proofLen witnessLen body =>
    [.inl "proveGroth16: length mismatch (proof=", .inr (.finite proofLen), .inl " + witness=",
      .inr (.finite witnessLen), .inl " != body=", .inr (.finite body), .inl ")"]
  | witnessLength witnessLen =>
    [.inl "proveGroth16: unexpected public-witness length ", .inr (.finite witnessLen),
      .inl " (expected ", .inr (.finite GROTH16_PUBLIC_WITNESS_LEN), .inl ")"]

/-- `bytes.subarray(start, stop)` -/
def subarray (bytes : List UInt8) (start stop : Nat) : List UInt8 := (bytes.take stop).drop start

/-- The part of `apiFetchBinary` that reads the answer. -/
def apiFetchBinary (res : Response) :
    Except ProveGroth16Error (List UInt8 × (String → Option String)) := do
  require (200 ≤ res.status ∧ res.status ≤ 299) (.api res.status)
  pure (res.body, getHeader res.headers)

/-- The entries behind the header of the public witness, as strings. -/
def witnessInputs (pwBody : List UInt8) : List Text :=
  (List.range GROTH16_NUM_PUBLIC_INPUTS).map fun i =>
    let off := i * GROTH16_FIELD_LEN
    toHex (subarray pwBody off (off + GROTH16_FIELD_LEN))

/-- What follows the two lengths. -/
def readBundle (body : List UInt8) (proofNumber witnessNumber : JsNumber) :
    Except BundleError Groth16ProofBundle := do
  let proofLen ← okOr proofNumber.toInt (.invalidLengths proofNumber witnessNumber)
  let witnessLen ← okOr witnessNumber.toInt (.invalidLengths proofNumber witnessNumber)
  require (0 ≤ proofLen ∧ proofLen ≤ GROTH16_PROOF_MAX_LEN) (.proofLength proofLen)
  require (proofLen + witnessLen = body.length) (.lengthMismatch proofLen witnessLen body.length)
  require (witnessLen = GROTH16_PUBLIC_WITNESS_LEN) (.witnessLength witnessLen)
  let pwBody := subarray body (proofLen.toNat + GROTH16_WITNESS_HEADER_LEN)
    (proofLen + witnessLen).toNat
  pure { proof := body, publicInputs := witnessInputs pwBody }

def proveGroth16 (res : Response) : Except ProveGroth16Error Groth16ProofBundle := do
  let (body, headers) ← apiFetchBinary res
  let proofLen := parseInt ((headers "x-proof-len").getD "").toList
  let witnessLen := parseInt ((headers "x-witness-len").getD "").toList
  (readBundle body proofLen witnessLen).mapError .bundle

/-! ## Lengths -/

theorem isSpace_of_isDigit {c : Char} (digit : c.isDigit = true) : isSpace c = false := by
  obtain ⟨n, -, value⟩ := Numerals.digitValue_of_isDigit digit
  exact isSpace_of_digit value

theorem splitSign_digit {c : Char} (digit : c.isDigit = true) (rest : Text) :
    splitSign (c :: rest) = (false, c :: rest) := by
  unfold splitSign
  split
  next same => cases same; cases digit
  next same => cases same; cases digit
  next => rfl

/-- The digits of a number are read to their end. -/
theorem parseInt_decimal (n : Nat) : parseInt (decimal n) =
    match Doubles.nearest n with
    | none => .infinite false
    | some m => .finite m := by
  have digits : ∀ c ∈ decimal n, c.isDigit = true := fun c member =>
    Nat.isDigit_of_mem_toDigits (by decide) (by decide) member
  have parsed : Numerals.parse 10 (decimal n) = some n :=
    Numerals.parse_toDigits (by decide) (by decide) n
  have whole : (decimal n).takeWhile Char.isDigit = decimal n :=
    List.takeWhile_eq_self_iff.mpr digits
  obtain ⟨c, rest, written⟩ := List.exists_cons_of_ne_nil (Nat.toDigits_ne_nil (n := n) (b := 10))
  rw [← decimal] at written
  rw [written] at digits parsed whole ⊢
  -- the first digit is neither white space nor a sign
  have first := digits c List.mem_cons_self
  rw [parseInt, List.dropWhile_cons_of_neg (by simp [isSpace_of_isDigit first]),
    splitSign_digit first]
  simp only [whole, parsed]
  cases Doubles.nearest n <;> rfl

/-- A length that is a number below `2 ^ 53` is written in one way. -/
theorem parseInt_decimal_iff {n m : Nat} (small : m < 2 ^ 53) :
    parseInt (decimal n) = .finite m ↔ n = m := by
  rw [parseInt_decimal]
  constructor
  · intro read
    split at read
    next => cases read
    next rounded =>
      -- a longer number is not rounded below `2 ^ 53`
      rw [JsNumber.finite.injEq, Int.ofNat_inj] at read
      exact Doubles.eq_of_nearest (read ▸ rounded) small
  · rintro rfl
    rw [Doubles.nearest_of_lt small]

theorem parseInt_toString_iff {n m : Nat} (small : m < 2 ^ 53) :
    parseInt (toString n).toList = .finite m ↔ n = m := by
  rw [Nat.toString_eq_repr, Nat.toList_repr, ← decimal, parseInt_decimal_iff small]

/-! ## Bundles -/

/-- What the headers of an answer say. -/
def announced (res : Response) (name : String) : JsNumber :=
  parseInt ((getHeader res.headers name).getD "").toList

/-- The headers are lengths, and those of the body. -/
structure Agrees (res : Response) (proofLen : Nat) : Prop where
  ok : 200 ≤ res.status ∧ res.status ≤ 299
  proofHeader : announced res "x-proof-len" = .finite proofLen
  witnessHeader : announced res "x-witness-len" = .finite GROTH16_PUBLIC_WITNESS_LEN
  bounded : proofLen ≤ GROTH16_PROOF_MAX_LEN
  length : res.body.length = proofLen + GROTH16_PUBLIC_WITNESS_LEN

theorem JsNumber.toInt_eq_some {number : JsNumber} {n : Int} :
    number.toInt = some n ↔ number = .finite n := by
  cases number <;> simp [toInt]

/-- The bundle of a body that has the announced lengths. -/
def bundleOf (body : List UInt8) (proofLen : Nat) : Groth16ProofBundle where
  proof := body
  publicInputs := witnessInputs (body.drop (proofLen + GROTH16_WITNESS_HEADER_LEN))

theorem readBundle_eq_ok {body : List UInt8} {proofNumber witnessNumber : JsNumber}
    {bundle : Groth16ProofBundle} : readBundle body proofNumber witnessNumber = .ok bundle ↔
      ∃ proofLen : Nat, proofNumber = .finite proofLen ∧
        witnessNumber = .finite GROTH16_PUBLIC_WITNESS_LEN ∧ proofLen ≤ GROTH16_PROOF_MAX_LEN ∧
        body.length = proofLen + GROTH16_PUBLIC_WITNESS_LEN ∧ bundle = bundleOf body proofLen := by
  simp only [readBundle, bind_eq_ok, okOr_eq_ok, require_eq_ok, pure_eq_ok, exists_const,
    JsNumber.toInt_eq_some]
  constructor
  · rintro ⟨proofLen, rfl, witnessLen, rfl, ⟨least, most⟩, total, rfl, rfl⟩
    -- the length of the proof is not negative
    obtain ⟨n, rfl⟩ := Int.eq_ofNat_of_zero_le least
    have length : body.length = n + GROTH16_PUBLIC_WITNESS_LEN := by omega
    refine ⟨n, rfl, rfl, by omega, length, ?_⟩
    rw [bundleOf, subarray, List.take_of_length_le (by omega)]
    rfl
  · rintro ⟨proofLen, rfl, rfl, bounded, length, rfl⟩
    refine ⟨proofLen, rfl, _, rfl, ⟨by omega, by omega⟩, by omega, rfl, ?_⟩
    rw [bundleOf, subarray, List.take_of_length_le (by omega)]
    rfl

/-- An answer is taken exactly when its lengths are those of its headers. -/
theorem proveGroth16_eq_ok {res : Response} {bundle : Groth16ProofBundle} :
    proveGroth16 res = .ok bundle ↔
      ∃ proofLen, Agrees res proofLen ∧ bundle = bundleOf res.body proofLen := by
  simp only [proveGroth16, apiFetchBinary, bind_eq_ok, require_eq_ok, pure_eq_ok, exists_const,
    mapError_eq_ok, readBundle_eq_ok]
  constructor
  · rintro ⟨-, ⟨ok, rfl⟩, proofLen, proofHeader, witnessHeader, bounded, length, rfl⟩
    exact ⟨proofLen, ⟨ok, proofHeader, witnessHeader, bounded, length⟩, rfl⟩
  · rintro ⟨proofLen, agrees, rfl⟩
    exact ⟨_, ⟨agrees.ok, rfl⟩, proofLen, agrees.proofHeader, agrees.witnessHeader,
      agrees.bounded, agrees.length, rfl⟩

/-- A header of the prover is found under its name. -/
theorem getHeader_bundleResponse (proof pw : List UInt8) :
    getHeader (bundleResponse proof pw).headers "x-proof-len" = some (toString proof.length) ∧
      getHeader (bundleResponse proof pw).headers "x-witness-len" = some (toString pw.length) := by
  have content : toAsciiLowercase "content-type" = "content-type" := by decide
  have first : toAsciiLowercase "x-proof-len" = "x-proof-len" := by decide
  have second : toAsciiLowercase "x-witness-len" = "x-witness-len" := by decide
  constructor
  · simp [getHeader, bundleResponse, content, first, second]
  · simp [getHeader, bundleResponse, content, first, second]

/-- The headers of the prover say what it has written. -/
theorem bundleResponse_agrees {proof pw : List UInt8} (bounded : proof.length ≤ 4096)
    (length : pw.length = 364) : Agrees (bundleResponse proof pw) proof.length := by
  obtain ⟨proofHeader, witnessHeader⟩ := getHeader_bundleResponse proof pw
  constructor
  case ok => exact ⟨Nat.le_refl 200, (by decide : 200 ≤ 299)⟩
  case proofHeader =>
    rw [announced, proofHeader]
    exact (parseInt_toString_iff (by omega)).mpr rfl
  case witnessHeader =>
    rw [announced, witnessHeader, length]
    exact (parseInt_toString_iff (by decide)).mpr rfl
  case bounded => exact bounded
  case length => rw [bundleResponse, List.length_append, length]; rfl

/-! ## The chain -/

variable {Proof Address World : Type} (env : External Proof Address World)

/-- The entries of a public witness follow its header. -/
def ReadsEntries : Prop :=
  ∀ bytes witness, env.gnarkWitnessFromBytes bytes = some witness → ∀ entry,
    (witness.entries entry).bytes =
      (bytes.drop (GNARK_WITNESS_HEADER_LEN + entry.val * 32)).take 32

/-- What the browser and the chain find in one bundle. -/
structure FramedAlike (proof pw : List UInt8) (bundle : Groth16ProofBundle) : Prop where
  split : ∀ payload : HookPayload, payload.proofAndWitness = bundle.proof →
    splitProofAndWitness payload.proofAndWitness (expectedWitnessLen NR_INPUTS) = .ok (proof, pw)
  checks : ∀ bindings, verifyBundle env bundle.proof bindings = do
    let parsed ← okOr (env.gnarkProofFromBytes proof) (.zksettle .malformedProof)
    let witness ← okOr (env.gnarkWitnessFromBytes pw) (.zksettle .malformedProof)
    checkBindings witness bindings
    require (env.verify parsed witness = true) (.zksettle .proofInvalid)
  inputs : ∀ witness, env.gnarkWitnessFromBytes pw = some witness →
    bundle.publicInputs = groth16PublicInputs witness
  nullifier : ∀ witness, env.gnarkWitnessFromBytes pw = some witness →
    hexToBytes (bundle.publicInputs.getD 1 []) = (witness.entries NULLIFIER_IDX).bytes
  uploaded : ∀ (opts : ChunkedUploadOptions) (dateNow : Nat) (s : State World),
    opts.proof = bundle.proof → RegisteredIssuer env opts.wallet s →
    s.accounts (env.hookPayloadAddress opts.wallet) = none → opts.nullifierHash ≠ .zero →
    0 < opts.transferContext.amount →
    ∃ s' payload dataLen,
      (∀ turns, 2 ≤ turns → uploadProofChunked env turns opts dateNow s = .ok s') ∧
      s'.accounts (env.hookPayloadAddress opts.wallet) = some (.hookPayload payload dataLen) ∧
      payload.finalized = true ∧ payload.proofAndWitness = bundle.proof

theorem split_append {proof pw : List UInt8} (nonempty : 1 ≤ proof.length)
    (length : pw.length = expectedWitnessLen NR_INPUTS) :
    splitProofAndWitness (proof ++ pw) (expectedWitnessLen NR_INPUTS) = .ok (proof, pw) := by
  refine splitProofAndWitness_eq_ok.mpr ⟨?_, rfl, length⟩
  rw [List.length_append, length]
  omega

variable {env}

/-- The strings by the entries that they are written from. -/
theorem witnessInputs_ofFn (pwBody : List UInt8) :
    witnessInputs pwBody =
      List.ofFn fun entry : Fin NR_INPUTS => toHex ((pwBody.drop (entry.val * 32)).take 32) := by
  have each : ∀ i, subarray pwBody (i * GROTH16_FIELD_LEN)
      (i * GROTH16_FIELD_LEN + GROTH16_FIELD_LEN) = (pwBody.drop (i * 32)).take 32 := by
    intro i
    rw [subarray, List.drop_take, Nat.add_sub_cancel_left, GROTH16_FIELD_LEN]
  refine List.ext_getElem (by simp [witnessInputs, GROTH16_NUM_PUBLIC_INPUTS, NR_INPUTS]) ?_
  intro i _ _
  simp [witnessInputs, each]

/-- The strings of the browser are the entries that the chain reads. -/
theorem witnessInputs_eq (reads : ReadsEntries env) {pw : List UInt8} {witness : GnarkWitness}
    (parsed : env.gnarkWitnessFromBytes pw = some witness) :
    witnessInputs (pw.drop GROTH16_WITNESS_HEADER_LEN) = groth16PublicInputs witness := by
  rw [witnessInputs_ofFn, groth16PublicInputs]
  congr 1
  funext entry
  rw [reads pw witness parsed, List.drop_drop]
  rfl

/-- Every bundle of the prover is read in one way. -/
theorem framedAlike (reads : ReadsEntries env) {proof pw : List UInt8}
    (nonempty : 1 ≤ proof.length) (bounded : proof.length ≤ 4096) (length : pw.length = 364) :
    FramedAlike env proof pw (bundleOf (proof ++ pw) proof.length) := by
  have split := split_append nonempty (length : pw.length = expectedWitnessLen NR_INPUTS)
  have behind : (proof ++ pw).drop (proof.length + GROTH16_WITNESS_HEADER_LEN) =
      pw.drop GROTH16_WITNESS_HEADER_LEN :=
    List.drop_length_add_append _
  have inputs : ∀ witness, env.gnarkWitnessFromBytes pw = some witness →
      (bundleOf (proof ++ pw) proof.length).publicInputs = groth16PublicInputs witness := by
    intro witness parsed
    rw [bundleOf, behind, witnessInputs_eq reads parsed]
  constructor
  case split =>
    intro payload holds
    rw [holds]
    exact split
  case checks =>
    intro bindings
    simp only [verifyBundle, bundleOf, split, ok_bind]
  case inputs => exact inputs
  case nullifier =>
    intro witness parsed
    rw [inputs witness parsed, nullifier_groth16PublicInputs]
  case uploaded =>
    intro opts dateNow s same registered free named positive
    have size : opts.proof.length = proof.length + 364 := by
      rw [same, bundleOf, List.length_append, length]
    obtain ⟨s', uploads, uploading⟩ := uploadProofChunked_eq_ok opts dateNow registered free
      (by omega) (by rw [MAX_HOOK_PROOF_BYTES]; omega) named positive
    exact ⟨s', _, _, uploads, uploading.stored, rfl, (finished_proof env opts dateNow).trans same⟩

variable (env)

/-- The server, the browser and the chain frame a bundle in one way, and the browser takes no
other answer. -/
structure BundleFraming : Prop where
  served : ∀ (Signature : Type) (ed : Ed25519 Signature) (now : Nat) (allowUnauth : Bool)
    (headers : Headers) (body : List UInt8) (machine : Machine) (proof pw : List UInt8),
    Proves ed now allowUnauth headers body machine proof pw → pw.length = 364 →
    handler ed now allowUnauth headers body machine = .ok (bundleResponse proof pw)
  framed : ∀ proof pw : List UInt8, 1 ≤ proof.length → proof.length ≤ 4096 → pw.length = 364 →
    ∃ bundle, proveGroth16 (bundleResponse proof pw) = .ok bundle ∧
      FramedAlike env proof pw bundle
  accepted : ∀ res bundle, proveGroth16 res = .ok bundle ↔
    ∃ proofLen, Agrees res proofLen ∧ bundle = bundleOf res.body proofLen
  disagrees : ∀ res : Response, (∀ proofLen witnessLen, announced res "x-proof-len" =
      .finite proofLen → announced res "x-witness-len" = .finite witnessLen →
      proofLen + witnessLen ≠ res.body.length ∨ witnessLen ≠ 364) →
    ∃ error, proveGroth16 res = .error error
  decimals : ∀ (res : Response) (proofLen witnessLen : Nat),
    getHeader res.headers "x-proof-len" = some (toString proofLen) →
    getHeader res.headers "x-witness-len" = some (toString witnessLen) →
    proofLen + witnessLen ≠ res.body.length ∨ witnessLen ≠ 364 →
    ∃ error, proveGroth16 res = .error error

variable {env}

theorem exists_error_of_not_agrees {res : Response} (none : ∀ proofLen, ¬ Agrees res proofLen) :
    ∃ error, proveGroth16 res = .error error := by
  cases answer : proveGroth16 res with
  | error error => exact ⟨error, rfl⟩
  | ok bundle =>
    obtain ⟨proofLen, agrees, -⟩ := proveGroth16_eq_ok.mp answer
    exact absurd agrees (none proofLen)

theorem bundleFraming (reads : ReadsEntries env) : BundleFraming env where
  served _ _ _ _ _ _ _ proof pw proves length := handler_eq_ok.mpr ⟨proof, pw, proves, length, rfl⟩
  framed proof pw nonempty bounded length :=
    ⟨_, proveGroth16_eq_ok.mpr ⟨_, bundleResponse_agrees bounded length, rfl⟩,
      framedAlike reads nonempty bounded length⟩
  accepted _ _ := proveGroth16_eq_ok
  disagrees res differ := by
    refine exists_error_of_not_agrees fun proofLen agrees => ?_
    have total : res.body.length = proofLen + 364 := agrees.length
    rcases differ proofLen 364 agrees.proofHeader agrees.witnessHeader with sum | other
    · omega
    · exact other rfl
  decimals res proofLen witnessLen proofHeader witnessHeader differ := by
    refine exists_error_of_not_agrees fun found agrees => ?_
    have total : res.body.length = found + 364 := agrees.length
    have bounded : found ≤ 4096 := agrees.bounded
    -- lengths that agree are so small that they are read as they are written
    have first : proofLen = found := by
      have read := agrees.proofHeader
      rw [announced, proofHeader] at read
      exact (parseInt_toString_iff (by omega)).mp read
    have second : witnessLen = 364 := by
      have read := agrees.witnessHeader
      rw [announced, witnessHeader] at read
      exact (parseInt_toString_iff (by decide)).mp read
    rcases differ with sum | other
    · omega
    · exact other second

theorem bundleFraming_reference : BundleFraming reference := by
  refine bundleFraming fun bytes witness parsed entry => ?_
  simp only [reference, Reference.gnarkWitnessFromBytes] at parsed
  split at parsed
  · cases parsed
    rfl
  · cases parsed

end ZkSettle.Frontend
