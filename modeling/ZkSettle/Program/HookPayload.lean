import ZkSettle.Program.Issuers

/-!
# The staged payload

`Execute` of the transfer hook receives only an amount, so an issuer stages the
proof and the settlement arguments in an account first: create it, grow it, write
the proof in chunks, finalize. A finalized payload can only be closed.
-/
namespace ZkSettle.Program

open Checks

variable {Proof Address World : Type} (env : External Proof Address World)

/-- `HookPayload::BASE_SPACE`: the Borsh length of a payload with an empty proof. -/
def BASE_SPACE : Nat := 4 * 32 + 8 + 8 + 135 + 4 + 4 + 1 + 4 + 1

/-- What `init` leaves in the account: every byte is zero. -/
def HookPayload.init : HookPayload where
  issuer := .zero
  nullifierHash := .zero
  mint := .zero
  recipient := .zero
  amount := 0
  epoch := 0
  lightArgs :=
    { bubblegumTail := 0
      proofPresent := false
      proofBytes := Vector.replicate 128 0
      addressMtIndex := 0
      addressQueueIndex := 0
      addressRootIndex := 0
      outputStateTreeIndex := 0 }
  expectedProofLen := 0
  highWaterMark := 0
  finalized := false
  proofAndWitness := []

structure HookPayloadAccounts where
  authority : Pubkey
  issuer : Pubkey
  hookPayload : Pubkey

/-! ## init_hook_payload -/

def InitHookPayload.load (accounts : HookPayloadAccounts) (s : State World) :
    Except Error Unit := do
  let issuer ← s.issuer accounts.issuer
  require (accounts.hookPayload = env.hookPayloadAddress accounts.authority)
    (.anchor .constraintSeeds)
  s.requireFree accounts.hookPayload
  checkIssuer env accounts.authority accounts.issuer issuer

def initHookPayloadHandler (s : State World) (accounts : HookPayloadAccounts)
    (expectedProofLen : UInt32) : Except Error (State World) := do
  InitHookPayload.load env accounts s
  require (0 < expectedProofLen.toNat ∧ expectedProofLen.toNat ≤ MAX_HOOK_PROOF_BYTES)
    (.zksettle .hookPayloadInvalid)
  pure (s.setAccount accounts.hookPayload (some (.hookPayload
    { HookPayload.init with issuer := accounts.issuer, expectedProofLen }
    (8 + BASE_SPACE))))

/-! ## resize_hook_payload, write_hook_proof, finalize_hook_payload -/

/-- The accounts of `ResizeHookPayload` and `ModifyHookPayload` have the same checks. -/
def ModifyHookPayload.load (accounts : HookPayloadAccounts) (s : State World) :
    Except Error (HookPayload × Nat) := do
  let issuer ← s.issuer accounts.issuer
  let (payload, dataLen) ← s.hookPayload accounts.hookPayload
  checkIssuer env accounts.authority accounts.issuer issuer
  require (accounts.hookPayload = env.hookPayloadAddress accounts.authority)
    (.anchor .constraintSeeds)
  require (payload.finalized = false) (.zksettle .payloadAlreadyFinalized)
  pure (payload, dataLen)

/-- The largest growth of an account in one instruction. -/
def MAX_REALLOC : Nat := 10240

/-- The proof vector is allocated when the account has reached its size. -/
def resizeHookPayloadHandler (s : State World) (accounts : HookPayloadAccounts) :
    Except Error (State World) := do
  let (payload, dataLen) ← ModifyHookPayload.load env accounts s
  let expected := payload.expectedProofLen.toNat
  let target := 8 + BASE_SPACE + expected
  if target ≤ dataLen then
    pure s
  else
    -- the caller repeats the instruction until the target is reached
    let newLen := min target (dataLen + MAX_REALLOC)
    let payload := if target ≤ newLen then
        { payload with proofAndWitness := List.replicate expected 0 }
      else payload
    pure (s.setAccount accounts.hookPayload (some (.hookPayload payload newLen)))

/-- `target[start..end].copy_from_slice(chunk)`, which panics outside the vector. -/
def copyFromSlice (target : List UInt8) (start : Nat) (chunk : List UInt8) :
    Except Error (List UInt8) :=
  if start + chunk.length ≤ target.length then
    .ok (target.take start ++ chunk ++ target.drop (start + chunk.length))
  else .error .panicked

def writeHookProofHandler (s : State World) (accounts : HookPayloadAccounts) (offset : UInt32)
    (chunk : List UInt8) : Except Error (State World) := do
  let (payload, dataLen) ← ModifyHookPayload.load env accounts s
  -- chunks are written in order and once
  require (offset = payload.highWaterMark) (.zksettle .chunkNotSequential)
  let stop ← okOr (checkedAdd (2 ^ 64) offset.toNat chunk.length) (.zksettle .chunkOutOfBounds)
  require (stop ≤ payload.expectedProofLen.toNat) (.zksettle .chunkOutOfBounds)
  let proofAndWitness ← copyFromSlice payload.proofAndWitness offset.toNat chunk
  pure (s.setAccount accounts.hookPayload (some (.hookPayload
    { payload with proofAndWitness, highWaterMark := .ofNat stop } dataLen)))

def validateFinalizeInputs (nullifierHash : Bytes32) (amount : UInt64) : Except Error Unit := do
  require (nullifierHash ≠ .zero) (.zksettle .zeroNullifier)
  require (0 < amount) (.zksettle .invalidTransferAmount)

def finalizeHookPayloadHandler (s : State World) (accounts : HookPayloadAccounts)
    (nullifierHash : Bytes32) (mint : Pubkey) (epoch : UInt64) (recipient : Pubkey)
    (amount : UInt64) (lightArgs : StagedLightArgs) : Except Error (State World) := do
  let (payload, dataLen) ← ModifyHookPayload.load env accounts s
  validateFinalizeInputs nullifierHash amount
  require (payload.highWaterMark = payload.expectedProofLen) (.zksettle .proofIncomplete)
  pure (s.setAccount accounts.hookPayload (some (.hookPayload
    { payload with nullifierHash, mint, recipient, amount, epoch, lightArgs, finalized := true }
    dataLen)))

/-! ## close_hook_payload -/

structure CloseHookPayload where
  authority : Pubkey
  hookPayload : Pubkey

def CloseHookPayload.load (accounts : CloseHookPayload) (s : State World) :
    Except Error Unit := do
  let _ ← s.hookPayload accounts.hookPayload
  require (accounts.hookPayload = env.hookPayloadAddress accounts.authority)
    (.anchor .constraintSeeds)

def closeHookPayloadHandler (s : State World) (accounts : CloseHookPayload) :
    Except Error (State World) := do
  accounts.load env s
  pure (s.setAccount accounts.hookPayload none)

/-! ## Staged arguments of the Light call -/

def StagedLightArgs.toValidityProof (args : StagedLightArgs) : Except Error ValidityProof :=
  if args.proofPresent then do
    let proof ← okOr (env.compressedProofTryFrom args.proofBytes.toList)
      (.zksettle .hookPayloadInvalid)
    pure (some proof)
  else pure none

def StagedLightArgs.toTreeInfo (args : StagedLightArgs) : PackedAddressTreeInfo where
  addressMerkleTreePubkeyIndex := args.addressMtIndex
  addressQueuePubkeyIndex := args.addressQueueIndex
  rootIndex := args.addressRootIndex

/-! ## Finalized payloads -/

/-- A finalized payload has passed the checks of `finalize_hook_payload`. -/
def FinalizedPayloadsValid (s : State World) : Prop :=
  ∀ address payload dataLen, s.accounts address = some (.hookPayload payload dataLen) →
    payload.finalized = true → payload.nullifierHash ≠ .zero ∧ 0 < payload.amount

end ZkSettle.Program
