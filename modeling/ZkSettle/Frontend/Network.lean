import ZkSettle.Frontend.Submit
import ZkSettle.Program.Ownership

/-!
# Submitting over a network

`runStepSubmit` signs its transactions in batches and hands them to a network that loses them,
delays them and takes them in any order, while other people use the chain. The flow goes on
when a transaction has landed and does not look at whether it failed; the status is asked for
the last one only.
-/
namespace ZkSettle.Frontend.Network

open Checks
open ZkSettle.Program
open ZkSettle.Sdk

/-! ## Transactions -/

/-- The instructions that the flow builds. Their accounts follow from the wallet. -/
inductive Instruction where
  | registerIssuer (merkleRoot sanctionsRoot jurisdictionRoot : Bytes32)
  | closeHookPayload
  | initHookPayload (proofLen : UInt32)
  | resizeHookPayload
  | writeHookProof (offset : UInt32) (chunk : List UInt8)
  | finalizeHookPayload (nullifierHash : Bytes32) (mint : Pubkey) (epoch : UInt64)
      (recipient : Pubkey) (amount : UInt64) (lightArgs : StagedLightArgs)
  deriving DecidableEq, Repr

/-- The signature of a transaction follows from what it says, so that one that is sent again
is the same transaction. -/
structure Signed where
  recentBlockhash : String
  instructions : List Instruction
  deriving DecidableEq, Repr

structure Blockhash where
  blockhash : String
  lastValidBlockHeight : Nat

def Blockhash.sign (bh : Blockhash) (instructions : List Instruction) : Signed where
  recentBlockhash := bh.blockhash
  instructions

section Calls

variable {Proof Address World : Type} (env : External Proof Address World)

/-- What the chain executes, with the clock that it has then. -/
def Instruction.call (wallet : Pubkey) (clock : Clock) : Instruction → Call
  | .registerIssuer merkleRoot sanctionsRoot jurisdictionRoot =>
    .registerIssuer clock { authority := wallet, issuer := env.issuerAddress wallet } merkleRoot
      sanctionsRoot jurisdictionRoot
  | .closeHookPayload =>
    .closeHookPayload { authority := wallet, hookPayload := env.hookPayloadAddress wallet }
  | .initHookPayload proofLen => .initHookPayload (hookAccounts env wallet) proofLen
  | .resizeHookPayload => .resizeHookPayload (hookAccounts env wallet)
  | .writeHookProof offset chunk => .writeHookProof (hookAccounts env wallet) offset chunk
  | .finalizeHookPayload nullifierHash mint epoch recipient amount lightArgs =>
    .finalizeHookPayload (hookAccounts env wallet) nullifierHash mint epoch recipient amount
      lightArgs

def Signed.calls (tx : Signed) (wallet : Pubkey) (clock : Clock) : List Call :=
  tx.instructions.map (Instruction.call env wallet clock)

end Calls

/-! ## What is built -/

/-- What `runStepSubmit` is called with. -/
structure Submission where
  publicKey : Pubkey
  proof : List UInt8
  publicInputs : List Text
  membershipRoot : Text
  sanctionsRoot : Text
  jurisdictionRoot : Text
  transferParams : TransferParams

/-- An argument of 32 bytes, which holds no other number of them. -/
def hexToBytes32 (hex : Text) : Option Bytes32 :=
  if length_eq : (hexToBytes hex).length = 32 then some ⟨hexToBytes hex, length_eq⟩ else none

def Submission.registerIssuer (submission : Submission) : Option Instruction := do
  let merkleRoot ← hexToBytes32 submission.membershipRoot
  let sanctionsRoot ← hexToBytes32 submission.sanctionsRoot
  let jurisdictionRoot ← hexToBytes32 submission.jurisdictionRoot
  pure (.registerIssuer merkleRoot sanctionsRoot jurisdictionRoot)

/-- The instructions of the upload, and the time at which they were built. -/
structure Upload where
  dateNow : Nat
  initIx : Instruction
  resizeIxs : List Instruction
  writeIxs : List Instruction
  finalizeIx : Instruction

/-- `Math.ceil(proofBytes.length / 10_240)` -/
def Submission.resizes (submission : Submission) : Nat :=
  (submission.proof.length + 10239) / 10240

def writeIx (chunk : Nat × List UInt8) : Instruction :=
  .writeHookProof (.ofNat chunk.1) chunk.2

def Submission.writeIxs (submission : Submission) : List Instruction :=
  (chunksFrom submission.proof CHUNK_SIZE.floor.toNat 0).map writeIx

/-- A proof whose length is no `u32` and a nullifier that is not of 32 bytes do not fit. -/
def Submission.build (submission : Submission) (dateNow : Nat) : Option Upload :=
  if submission.proof.length < 2 ^ 32 then do
    let nullifierHash ← hexToBytes32 (submission.publicInputs.getD 1 [])
    pure
      { dateNow
        initIx := .initHookPayload (.ofNat submission.proof.length)
        resizeIxs := List.replicate submission.resizes .resizeHookPayload
        writeIxs := submission.writeIxs
        finalizeIx :=
          .finalizeHookPayload nullifierHash submission.transferParams.mint
            (.ofNat (dateNow / 1000 / 86400)) submission.transferParams.recipient
            (.ofNat submission.transferParams.amount.toNat) DEFAULT_LIGHT_ARGS }
  else none

/-- The first growth goes with the creation. -/
def Upload.initTxs (upload : Upload) (bh : Blockhash) : Signed × List Signed :=
  match upload.resizeIxs with
  | firstResize :: restResize =>
    (bh.sign [upload.initIx, firstResize], restResize.map fun ix => bh.sign [ix])
  | [] => (bh.sign [upload.initIx], [])

/-! ## What the network answers -/

inductive ConfirmationStatus where
  | processed
  | confirmed
  | finalized
  deriving DecidableEq, Repr

structure Status where
  err : Bool
  confirmationStatus : Option ConfirmationStatus
  deriving DecidableEq, Repr

/-- How `confirmTransaction` ends. When the block height has run out, the status is asked for,
until the deadline or an answer that throws. -/
inductive Confirmation where
  | resolved
  | expired (polls : List (Option Status))
  | throws

inductive Failure where
  | encoding
  | rejected
  | network
  | landedButFailed
  | expired
  deriving DecidableEq, Repr

def commitmentReached (status : Option ConfirmationStatus) (commitment : ConfirmationStatus) :
    Bool :=
  match status, commitment with
  | none, _ => false
  | some _, .processed => true
  | some status, _ => status = .confirmed || status = .finalized

def tryConfirmViaPolling (commitment : ConfirmationStatus) :
    List (Option Status) → Except Failure Bool
  | value :: rest =>
    if commitmentReached (value.bind Status.confirmationStatus) commitment then
      if value.any Status.err then .error .landedButFailed else .ok true
    else tryConfirmViaPolling commitment rest
  | [] => .ok false

/-- A transaction that has failed is confirmed like any other, unless it is polled for. -/
def confirmTx (commitment : ConfirmationStatus) : Confirmation → Except Failure Unit
  | .resolved => .ok ()
  | .throws => .error .network
  | .expired polls => do
    let reached ← tryConfirmViaPolling commitment polls
    require reached .expired

/-- The statuses are missing when the request throws. -/
def pollFinalizeLanded : Option (Option Status) → Except Failure Bool
  | some (some status) =>
    if status.err then .error .landedButFailed
    else .ok (status.confirmationStatus = some .confirmed ||
      status.confirmationStatus = some .finalized)
  | _ => .ok false

/-- What the flow is told when it goes on; `none` is a request that throws. -/
structure Answers where
  dateNow : Nat
  /-- `getAccountInfo(...) !== null` -/
  accountExists : Option Bool
  /-- `getLatestBlockhash` and `signAllTransactions` -/
  signing : Option Blockhash
  /-- the transaction of the batch with which `sendRawTransaction` throws -/
  unsent : Option Nat
  confirmation : Confirmation
  statuses : Option (Option Status)
  blockHeight : Option Nat

/-! ## The flow -/

inductive Stage where
  | ensureIssuerRegistered
  | registering (tx : Signed)
  | cleanupStaleHookPayload
  | closing (tx : Signed)
  | building
  | sendInitResizeBatch (upload : Upload) (tx : Signed) (rest : List Signed)
  | sendWritesBatch (upload : Upload)
  | confirmWrites (upload : Upload) (last : Signed)
  | sendFinalize (upload : Upload)
  | rebroadcast (upload : Upload) (tx : Signed) (lastValidBlockHeight : Nat)
      (expiryDeadline : Option Nat)
  | succeeded (upload : Upload) (tx : Signed)
  | failed (failure : Failure)

def FINAL_POLL_TIMEOUT_MS : Nat := 30000

/-- The transactions that are handed over, and where the flow waits next. A transaction with
which the request throws may have reached the network. -/
def send (answers : Answers) (txs : List Signed) (next : Stage) : List Signed × Stage :=
  match answers.unsent with
  | none => (txs, next)
  | some at_ => (txs.take (at_ + 1), .failed .network)

/-- A signed transaction of one instruction, which is then awaited. -/
def signSend (answers : Answers) (ix : Instruction) (next : Blockhash → Signed → Stage) :
    List Signed × Stage :=
  match answers.signing with
  | none => ([], .failed .rejected)
  | some bh => send answers [bh.sign [ix]] (next bh (bh.sign [ix]))

def afterConfirm (answers : Answers) (next : List Signed × Stage) : List Signed × Stage :=
  match confirmTx .processed answers.confirmation with
  | .ok () => next
  | .error failure => ([], .failed failure)

def advance (submission : Submission) (answers : Answers) : Stage → List Signed × Stage
  | .ensureIssuerRegistered =>
    match answers.accountExists with
    | none => ([], .failed .network)
    | some true => ([], .cleanupStaleHookPayload)
    | some false =>
      match submission.registerIssuer with
      | none => ([], .failed .encoding)
      | some ix => signSend answers ix fun _ => .registering
  | .registering _ => afterConfirm answers ([], .cleanupStaleHookPayload)
  | .cleanupStaleHookPayload =>
    match answers.accountExists with
    | none => ([], .failed .network)
    | some true => signSend answers .closeHookPayload fun _ => .closing
    | some false => ([], .building)
  | .closing _ => afterConfirm answers ([], .building)
  | .building =>
    match submission.build answers.dateNow with
    | none => ([], .failed .encoding)
    | some upload =>
      match answers.signing with
      | none => ([], .failed .rejected)
      | some bh =>
        let txs := upload.initTxs bh
        send answers [txs.1] (.sendInitResizeBatch upload txs.1 txs.2)
  | .sendInitResizeBatch upload _ rest =>
    afterConfirm answers <|
      match rest with
      | next :: rest => send answers [next] (.sendInitResizeBatch upload next rest)
      | [] => ([], .sendWritesBatch upload)
  | .sendWritesBatch upload =>
    match answers.signing with
    | none => ([], .failed .rejected)
    | some bh =>
      -- all are sent without waiting, and only the last one is awaited
      let txs := (batches upload.writeIxs).map bh.sign
      send answers txs <|
        match txs.getLast? with
        | some last => .confirmWrites upload last
        | none => .sendFinalize upload
  | .confirmWrites upload _ => afterConfirm answers ([], .sendFinalize upload)
  | .sendFinalize upload =>
    signSend answers upload.finalizeIx fun bh tx =>
      .rebroadcast upload tx bh.lastValidBlockHeight none
  | .rebroadcast upload tx lastValidBlockHeight expiryDeadline =>
    match pollFinalizeLanded answers.statuses with
    | .error failure => ([], .failed failure)
    | .ok true => ([], .succeeded upload tx)
    | .ok false =>
      match expiryDeadline with
      | some deadline =>
        if deadline < answers.dateNow then ([], .failed .expired)
        else ([], .rebroadcast upload tx lastValidBlockHeight expiryDeadline)
      | none =>
        if answers.blockHeight.any fun height => lastValidBlockHeight < height then
          ([], .rebroadcast upload tx lastValidBlockHeight
            (some (answers.dateNow + FINAL_POLL_TIMEOUT_MS)))
        else ([tx], .rebroadcast upload tx lastValidBlockHeight none)
  | .succeeded upload tx => ([], .succeeded upload tx)
  | .failed failure => ([], .failed failure)

/-! ## The flow, the network and the chain -/

/-- What has landed is kept with whether it succeeded. -/
structure System (World : Type) where
  chain : State World
  stage : Stage
  pool : List Signed
  landed : List (Signed × Bool)

def System.start {World : Type} (chain : State World) : System World where
  chain
  stage := .ensureIssuerRegistered
  pool := []
  landed := []

/-- A transaction also fails for reasons of its own, such as a payer who cannot pay. -/
inductive Action where
  | client (answers : Answers)
  | land (tx : Signed) (clock : Clock)
  | abort (tx : Signed)
  | other (transaction : List Call)

section Steps

variable {Proof Address World : Type} (env : External Proof Address World)
  (submission : Submission)

/-- A transaction is executed once, whether or not it succeeds. -/
def System.pending (s : System World) (tx : Signed) : Prop :=
  tx ∈ s.pool ∧ tx ∉ s.landed.map Prod.fst

instance (s : System World) (tx : Signed) : Decidable (s.pending tx) :=
  inferInstanceAs (Decidable (_ ∧ _))

def step (s : System World) : Action → Except UploadError (System World)
  | .client answers =>
    let (sent, stage) := advance submission answers s.stage
    pure { s with stage, pool := s.pool ++ sent }
  | .land tx clock => do
    require (s.pending tx) .missing
    match signAndSend env (tx.calls env submission.publicKey clock) s.chain with
    | .ok chain => pure { s with chain, landed := s.landed ++ [(tx, true)] }
    | .error _ => pure { s with landed := s.landed ++ [(tx, false)] }
  | .abort tx => do
    require (s.pending tx) .missing
    pure { s with landed := s.landed ++ [(tx, false)] }
  | .other transaction => do
    let chain ← signAndSend env transaction s.chain
    pure { s with chain }

def run (s : System World) (actions : List Action) : System World :=
  Transactional.run (step env submission) s actions

end Steps

end ZkSettle.Frontend.Network
