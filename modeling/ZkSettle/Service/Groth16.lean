import ZkSettle.Service.Auth

/-!
# The prover behind the service

`POST /prove/groth16` runs the prover of the build on a witness. What the prover has written
is answered as one body, the proof and then the public witness, with both lengths as headers.
The machine may fail at every step, and a public witness of another length is not answered.
-/
namespace ZkSettle.Service.Groth16

open Checks

/-! ## Source -/

/-- The header of the public witness, and eleven field elements. -/
def EXPECTED_WITNESS_LEN : Nat := 12 + 11 * 32

def MAX_BODY_BYTES : Nat := 1024 * 1024

def STDERR_EXCERPT_CHARS : Nat := 512

inductive ProveError where
  | invalidWitness (message : String)
  | unauthorized (error : AuthError)
  | proverBusy
  | proverTimeout
  | proverFailed (message : String)
  deriving DecidableEq, Repr

/-- The status of the answer, and the code in its body. -/
def ProveError.answer : ProveError → Nat × String
  | invalidWitness _ => (400, "invalid_witness")
  | unauthorized _ => (401, "unauthorized")
  | proverBusy => (503, "prover_busy")
  | proverTimeout => (504, "prover_timeout")
  | proverFailed _ => (500, "prover_failed")

structure Response where
  status : Nat
  headers : List (String × String)
  body : List UInt8
  deriving DecidableEq, Repr

/-- What a request for a permit of the semaphore gets within two seconds. -/
inductive Permit where
  | acquired
  | closed
  | elapsed
  deriving DecidableEq, Repr

/-- What becomes of the copies in the directory of the request. -/
inductive Setup where
  | staged
  | join (error : String)
  | failed (error : String)
  deriving DecidableEq, Repr

/-- How the command ends. -/
inductive Output where
  | exited (success : Bool) (code : Option Int) (stderr : String)
  | spawn (error : String)
  | elapsed
  deriving DecidableEq, Repr

/-- The machine, as one request meets it; the files are those that the prover writes. -/
structure Machine where
  permit : Permit
  setup : Setup
  output : Output
  proofOut : Except String (List UInt8)
  pwOut : Except String (List UInt8)

def Permit.acquire : Permit → Except ProveError Unit
  | acquired => .ok ()
  | closed => .error (.proverFailed "semaphore closed")
  | elapsed => .error .proverBusy

def Setup.stage : Setup → Except ProveError Unit
  | staged => .ok ()
  | join e => .error (.proverFailed ("temp setup join: " ++ e))
  | failed e => .error (.proverFailed ("temp setup: " ++ e))

/-- `{:?}` of the code of a status -/
def debugCode : Option Int → String
  | some code => "Some(" ++ toString code ++ ")"
  | none => "None"

def Output.check : Output → Except ProveError Unit
  | exited true _ _ => .ok ()
  | exited false code stderr =>
    let excerpt := String.ofList (stderr.toList.take STDERR_EXCERPT_CHARS)
    .error (.proverFailed ("sunspot exit " ++ debugCode code ++ ": " ++ excerpt))
  | spawn e => .error (.proverFailed ("spawn: " ++ e))
  | elapsed => .error .proverTimeout

/-- The end of the handler: the two files one after the other. -/
def bundleResponse (proof pw : List UInt8) : Response where
  status := 200
  headers :=
    [("content-type", "application/octet-stream"), ("x-proof-len", toString proof.length),
      ("x-witness-len", toString pw.length)]
  body := proof ++ pw

section Source

variable {Signature : Type} (ed : Ed25519 Signature) (now : Nat)

def handler (allowUnauth : Bool) (headers : Headers) (body : List UInt8) (machine : Machine) :
    Except ProveError Response := do
  require (body ≠ []) (.invalidWitness "empty body")
  require (body.length ≤ MAX_BODY_BYTES) (.invalidWitness ("witness too large: " ++
    toString body.length ++ " bytes (max " ++ toString MAX_BODY_BYTES ++ ")"))
  let _walletHex ← (verifyWalletHeaders ed now headers body allowUnauth).mapError .unauthorized
  machine.permit.acquire
  machine.setup.stage
  machine.output.check
  let proof ← machine.proofOut.mapError fun e => .proverFailed ("read proof: " ++ e)
  let pw ← machine.pwOut.mapError fun e => .proverFailed ("read pw: " ++ e)
  require (pw.length = EXPECTED_WITNESS_LEN) (.proverFailed ("public witness length " ++
    toString pw.length ++ " (expected " ++ toString EXPECTED_WITNESS_LEN ++ ")"))
  pure (bundleResponse proof pw)

end Source

/-! ## Answers -/

/-- The request may have a proof, and the prover has written one. -/
structure Proves {Signature : Type} (ed : Ed25519 Signature) (now : Nat) (allowUnauth : Bool)
    (headers : Headers) (body : List UInt8) (machine : Machine) (proof pw : List UInt8) :
    Prop where
  nonempty : body ≠ []
  bounded : body.length ≤ MAX_BODY_BYTES
  authorized : ∃ walletHex, verifyWalletHeaders ed now headers body allowUnauth = .ok walletHex
  acquired : machine.permit = .acquired
  staged : machine.setup = .staged
  succeeded : ∃ code stderr, machine.output = .exited true code stderr
  proofOut : machine.proofOut = .ok proof
  pwOut : machine.pwOut = .ok pw

theorem Permit.acquire_eq_ok {permit : Permit} {u : Unit} :
    permit.acquire = .ok u ↔ permit = .acquired := by
  cases permit <;> simp [acquire]

theorem Setup.stage_eq_ok {setup : Setup} {u : Unit} : setup.stage = .ok u ↔ setup = .staged := by
  cases setup <;> simp [stage]

theorem Output.check_eq_ok {output : Output} {u : Unit} :
    output.check = .ok u ↔ ∃ code stderr, output = .exited true code stderr := by
  cases output with
  | exited success code stderr => cases success <;> simp [check]
  | spawn e => simp [check]
  | elapsed => simp [check]

/-- A request is answered with what the prover has written, if the public witness is as long
as it should be. -/
theorem handler_eq_ok {Signature : Type} {ed : Ed25519 Signature} {now : Nat}
    {allowUnauth : Bool} {headers : Headers} {body : List UInt8} {machine : Machine}
    {response : Response} : handler ed now allowUnauth headers body machine = .ok response ↔
      ∃ proof pw, Proves ed now allowUnauth headers body machine proof pw ∧
        pw.length = EXPECTED_WITNESS_LEN ∧ response = bundleResponse proof pw := by
  simp only [handler, bind_eq_ok, require_eq_ok, mapError_eq_ok, Permit.acquire_eq_ok,
    Setup.stage_eq_ok, Output.check_eq_ok, pure_eq_ok, exists_const]
  constructor
  · rintro ⟨nonempty, bounded, walletHex, authorized, acquired, staged, succeeded, proof, proofOut,
      pw, pwOut, length, rfl⟩
    exact ⟨proof, pw, ⟨nonempty, bounded, ⟨walletHex, authorized⟩, acquired, staged, succeeded,
      proofOut, pwOut⟩, length, rfl⟩
  · rintro ⟨proof, pw, proves, length, rfl⟩
    obtain ⟨walletHex, authorized⟩ := proves.authorized
    exact ⟨proves.nonempty, proves.bounded, walletHex, authorized, proves.acquired, proves.staged,
      proves.succeeded, proof, proves.proofOut, pw, proves.pwOut, length, rfl⟩

end ZkSettle.Service.Groth16
