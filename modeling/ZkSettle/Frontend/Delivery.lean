import ZkSettle.Frontend.Network

/-!
# What a submission leaves on the chain

Whatever the network does with the transactions, the payload account of the wallet holds a
prefix of the proof, since the program takes chunks in their order only. So when the last
transaction has succeeded, everything before it has.
-/
namespace ZkSettle.Frontend.Network

open Checks
open ZkSettle.Program
open ZkSettle.Sdk

variable {Proof Address World : Type} {env : External Proof Address World}
  {submission : Submission}

/-! ## Payloads on their way -/

/-- The payload is finalized with what the form says and the epoch of the given time. -/
structure Finalizes (submission : Submission) (dateNow : Nat) (payload : HookPayload) :
    Prop where
  finalized : payload.finalized = true
  nullifierHash : payload.nullifierHash.bytes = hexToBytes (submission.publicInputs.getD 1 [])
  mint : payload.mint = submission.transferParams.mint
  recipient : payload.recipient = submission.transferParams.recipient
  amount : payload.amount = .ofNat submission.transferParams.amount.toNat
  epoch : payload.epoch = .ofNat (dateNow / 1000 / 86400)
  lightArgs : payload.lightArgs = DEFAULT_LIGHT_ARGS

/-- The payload is what the form and the proof say. -/
structure Describes (env : External Proof Address World) (submission : Submission)
    (dateNow : Nat) (payload : HookPayload) : Prop extends
    Finalizes submission dateNow payload where
  issuer : payload.issuer = env.issuerAddress submission.publicKey
  proof : payload.proofAndWitness = submission.proof

/-- The chunks that have been written are those at the beginning of the proof. -/
structure Filled (env : External Proof Address World) (submission : Submission)
    (dateNow : Nat) (payload : HookPayload) (dataLen : Nat) : Prop where
  staged : ∃ chunks, payload.Staged dataLen chunks ∧ chunks.flatten <+: submission.proof
  length : payload.expectedProofLen.toNat = submission.proof.length
  issuer : payload.issuer = env.issuerAddress submission.publicKey
  described : payload.finalized = true → Describes env submission dateNow payload

/-- A proof of which as many bytes are written as there are has all of them written. -/
theorem Filled.complete {payload : HookPayload} {dataLen : Nat}
    {chunks : List (List UInt8)} (staged : payload.Staged dataLen chunks)
    (written : chunks.flatten <+: submission.proof)
    (length : payload.expectedProofLen.toNat = submission.proof.length)
    (full : payload.highWaterMark = payload.expectedProofLen) :
    payload.proofAndWitness = submission.proof := by
  have mark := staged.mark
  rw [full] at mark
  have allocated : payload.proofAndWitness.length = payload.expectedProofLen.toNat := by
    rcases staged.allocation with ⟨empty, -⟩ | ⟨allocated, -⟩
    · have positive := staged.bounded.1
      rw [empty, List.length_nil] at mark
      omega
    · exact allocated
  have same := staged.written
  rw [full, ← allocated, List.take_length] at same
  rw [← same] at written
  exact written.eq_of_length (allocated.trans length)

/-- What the chain holds of the submission. -/
def Filling (env : External Proof Address World) (submission : Submission) (dateNow : Nat)
    (chain : State World) : Prop :=
  ∀ payload dataLen,
    chain.payloads (env.hookPayloadAddress submission.publicKey) = some (payload, dataLen) →
      Filled env submission dateNow payload dataLen

/-- The payload of the wallet is finalized as the form says, and in a `clean` run it is the
payload of the submission. -/
def Submitted (env : External Proof Address World) (submission : Submission) (dateNow : Nat)
    (clean : Prop) (chain : State World) : Prop :=
  ∃ payload dataLen,
    chain.payloads (env.hookPayloadAddress submission.publicKey) = some (payload, dataLen) ∧
      Finalizes submission dateNow payload ∧ (clean → Describes env submission dateNow payload)

/-! ## Transactions of the submission -/

theorem hexToBytes32_bytes {hex : Text} {bytes : Bytes32} (read : hexToBytes32 hex = some bytes) :
    bytes.bytes = hexToBytes hex := by
  rw [hexToBytes32] at read
  split at read
  · cases read
    rfl
  · cases read

/-- The instructions of an upload. -/
def Upload.instructions (upload : Upload) : List Instruction :=
  upload.initIx :: upload.resizeIxs ++ upload.writeIxs ++ [upload.finalizeIx]

/-- What an upload of the submission consists of. -/
structure Built (submission : Submission) (upload : Upload) : Prop where
  fits : submission.proof.length < 2 ^ 32
  initIx : upload.initIx = .initHookPayload (.ofNat submission.proof.length)
  resizeIxs : upload.resizeIxs = List.replicate submission.resizes .resizeHookPayload
  writeIxs : upload.writeIxs = submission.writeIxs
  finalizeIx : ∃ nullifierHash, hexToBytes32 (submission.publicInputs.getD 1 []) =
      some nullifierHash ∧
    upload.finalizeIx =
      .finalizeHookPayload nullifierHash submission.transferParams.mint
        (.ofNat (upload.dateNow / 1000 / 86400)) submission.transferParams.recipient
        (.ofNat submission.transferParams.amount.toNat) DEFAULT_LIGHT_ARGS

theorem build_eq_some {dateNow : Nat} {upload : Upload}
    (built : submission.build dateNow = some upload) : Built submission upload := by
  rw [Submission.build] at built
  split at built
  next fits =>
    obtain ⟨nullifierHash, read, same⟩ := Option.bind_eq_some_iff.mp built
    cases same
    exact
      { fits
        initIx := rfl
        resizeIxs := rfl
        writeIxs := rfl
        finalizeIx := ⟨nullifierHash, read, rfl⟩ }
  next => cases built

theorem build_dateNow {dateNow : Nat} {upload : Upload}
    (built : submission.build dateNow = some upload) : upload.dateNow = dateNow := by
  rw [Submission.build] at built
  split at built
  · obtain ⟨nullifierHash, -, same⟩ := Option.bind_eq_some_iff.mp built
    cases same
    rfl
  · cases built

/-- A chunk of the proof, at its place. -/
theorem chunksFrom_mem {proof : List UInt8} {size : Nat} (offset : Nat) {chunk : Nat × List UInt8}
    (member : chunk ∈ chunksFrom proof size offset) :
    chunk.1 < proof.length ∧ ∃ count, chunk.2 = (proof.drop chunk.1).take count := by
  induction offset using chunksFrom.induct proof size with
  | case1 offset more ih =>
    rw [chunksFrom, if_pos more, List.mem_cons] at member
    rcases member with rfl | later
    · exact ⟨more.1, _, rfl⟩
    · exact ih later
  | case2 offset past =>
    rw [chunksFrom, if_neg past] at member
    cases member

/-- The instructions that only register the issuer, and those of the upload. -/
def Harmless (upload : Upload) : Instruction → Prop
  | .registerIssuer .. => True
  | ix => ix ∈ upload.instructions

variable {upload : Upload}

theorem Built.mem_instructions (built : Built submission upload) {ix : Instruction}
    (member : ix ∈ upload.instructions) :
    ix = .initHookPayload (.ofNat submission.proof.length) ∨ ix = .resizeHookPayload ∨
      ix ∈ submission.writeIxs ∨ ix = upload.finalizeIx := by
  simp only [Upload.instructions, List.cons_append, List.mem_cons, List.mem_append] at member
  rcases member with init | (resize | write) | finalize
  · exact Or.inl (init.trans built.initIx)
  · rw [built.resizeIxs] at resize
    exact Or.inr (Or.inl (List.eq_of_mem_replicate resize))
  · exact Or.inr (Or.inr (Or.inl (built.writeIxs ▸ write)))
  · exact Or.inr (Or.inr (Or.inr (by simpa using finalize)))

theorem Built.harmless_cases (built : Built submission upload) {ix : Instruction}
    (harmless : Harmless upload ix) :
    (∃ merkleRoot sanctionsRoot jurisdictionRoot,
        ix = .registerIssuer merkleRoot sanctionsRoot jurisdictionRoot) ∨
      ix = .initHookPayload (.ofNat submission.proof.length) ∨ ix = .resizeHookPayload ∨
      ix ∈ submission.writeIxs ∨ ix = upload.finalizeIx := by
  cases ix with
  | registerIssuer merkleRoot sanctionsRoot jurisdictionRoot => exact Or.inl ⟨_, _, _, rfl⟩
  | _ => exact Or.inr (built.mem_instructions harmless)

/-! ## One instruction -/

/-- A write that is accepted continues the proof where it has stopped. -/
theorem written_prefix {proof : List UInt8} {size done : Nat} {chunks : List (List UInt8)}
    {chunk : Nat × List UInt8} (member : chunk ∈ chunksFrom proof size 0)
    (written : chunks.flatten <+: proof) (reached : chunks.flatten.length = done)
    (sequential : chunk.1 = done) : (chunks ++ [chunk.2]).flatten <+: proof := by
  obtain ⟨-, count, slice⟩ := chunksFrom_mem 0 member
  have front : chunks.flatten = proof.take done := by
    rw [← reached]
    exact List.prefix_iff_eq_take.mp written
  rw [List.flatten_append, List.flatten_singleton, front, slice, sequential, ← List.take_add]
  exact List.take_prefix _ _

section Payloads

variable {payload payload' : HookPayload} {dataLen dataLen' : Nat}

theorem Filled.resize (filled : Filled env submission upload.dateNow payload dataLen)
    (unfinalized : payload.finalized = false)
    (resized : payload.Resized dataLen payload' dataLen') :
    Filled env submission upload.dateNow payload' dataLen' := by
  obtain ⟨chunks, staged, written⟩ := filled.staged
  have kept : payload'.expectedProofLen = payload.expectedProofLen ∧
      payload'.issuer = payload.issuer ∧ payload'.finalized = payload.finalized := by
    cases resized <;> exact ⟨rfl, rfl, rfl⟩
  obtain ⟨length, issuer, finalized⟩ := kept
  refine ⟨⟨chunks, staged.resize resized, written⟩, ?_, issuer.trans filled.issuer, ?_⟩
  · rw [length]
    exact filled.length
  · intro complete
    rw [finalized, unfinalized] at complete
    cases complete

theorem Filled.write (filled : Filled env submission upload.dateNow payload dataLen)
    (built : Built submission upload) (unfinalized : payload.finalized = false)
    {chunk : Nat × List UInt8} {copied : List UInt8}
    (member : chunk ∈ chunksFrom submission.proof CHUNK_SIZE.floor.toNat 0)
    (sequential : UInt32.ofNat chunk.1 = payload.highWaterMark)
    (within : payload.highWaterMark.toNat + chunk.2.length ≤ payload.expectedProofLen.toNat)
    (accepted : copyFromSlice payload.proofAndWitness payload.highWaterMark.toNat chunk.2 =
      .ok copied) :
    Filled env submission upload.dateNow
      { payload with
          proofAndWitness := copied
          highWaterMark := .ofNat (payload.highWaterMark.toNat + chunk.2.length) }
      dataLen := by
  obtain ⟨chunks, staged, written⟩ := filled.staged
  have reached : chunks.flatten.length = payload.highWaterMark.toNat := by
    rw [← staged.written, List.length_take_of_le staged.mark]
  have offset : chunk.1 = payload.highWaterMark.toNat := by
    rw [← sequential, UInt32.toNat_ofNat_of_lt' ((chunksFrom_mem 0 member).1.trans built.fits)]
  refine ⟨⟨chunks ++ [chunk.2], staged.write unfinalized within accepted, ?_⟩, filled.length,
    filled.issuer, ?_⟩
  · exact written_prefix member written reached offset
  · intro finalized
    cases unfinalized.symm.trans finalized

/-- What the last instruction sets. -/
theorem finalizes_set (payload : HookPayload) (dateNow : Nat) {nullifierHash : Bytes32}
    (read : hexToBytes32 (submission.publicInputs.getD 1 []) = some nullifierHash) :
    Finalizes submission dateNow
      { payload with
          nullifierHash
          mint := submission.transferParams.mint
          recipient := submission.transferParams.recipient
          amount := .ofNat submission.transferParams.amount.toNat
          epoch := .ofNat (dateNow / 1000 / 86400)
          lightArgs := DEFAULT_LIGHT_ARGS
          finalized := true } where
  finalized := rfl
  nullifierHash := hexToBytes32_bytes read
  mint := rfl
  recipient := rfl
  amount := rfl
  epoch := rfl
  lightArgs := rfl

theorem Filled.finalize (filled : Filled env submission upload.dateNow payload dataLen)
    (complete : payload.highWaterMark = payload.expectedProofLen) {nullifierHash : Bytes32}
    (read : hexToBytes32 (submission.publicInputs.getD 1 []) = some nullifierHash) :
    Filled env submission upload.dateNow
      { payload with
          nullifierHash
          mint := submission.transferParams.mint
          recipient := submission.transferParams.recipient
          amount := .ofNat submission.transferParams.amount.toNat
          epoch := .ofNat (upload.dateNow / 1000 / 86400)
          lightArgs := DEFAULT_LIGHT_ARGS
          finalized := true }
      dataLen := by
  obtain ⟨chunks, staged, written⟩ := filled.staged
  have proof := Filled.complete staged written filled.length complete
  refine ⟨⟨chunks, staged.finalize complete .., written⟩, filled.length, filled.issuer,
    fun _ => ?_⟩
  exact
    { finalizes_set payload upload.dateNow read with
      issuer := filled.issuer
      proof }

end Payloads

variable {chain chain' : State World} {clock : Clock} {ix : Instruction} {clean : Prop}

/-- Storing a payload at the wallet's address. -/
theorem filling_update {dateNow : Nat} {payload : HookPayload} {dataLen : Nat}
    (filled : Filled env submission dateNow payload dataLen)
    (stored : chain'.payloads = Function.update chain.payloads
      (env.hookPayloadAddress submission.publicKey) (some (payload, dataLen))) :
    Filling env submission dateNow chain' := by
  intro found foundLen present
  rw [stored, Function.update_self] at present
  cases present
  exact filled

/-- No instruction of the upload disturbs it, in whatever state it is executed. -/
theorem filling_step (built : Built submission upload) (harmless : Harmless upload ix)
    (filling : Filling env submission upload.dateNow chain)
    (accepted : Program.step env chain (ix.call env submission.publicKey clock) = .ok chain') :
    Filling env submission upload.dateNow chain' := by
  have effect := step_staged accepted
  rcases built.harmless_cases harmless with ⟨merkleRoot, sanctionsRoot, jurisdictionRoot, rfl⟩ |
    rfl | rfl | write | rfl
  · cases effect with
    | closes closing => cases closing
    | keeps unstaged same =>
      intro payload dataLen present
      rw [same] at present
      exact filling payload dataLen present
  · cases effect with
    | closes closing => cases closing
    | keeps unstaged => exact absurd trivial unstaged
    | initHookPayload fresh bounded stored =>
      -- the account is new, and nothing is written yet
      refine filling_update ⟨⟨[], staged_init _ bounded, List.nil_prefix⟩, ?_, rfl, ?_⟩ stored
      · exact UInt32.toNat_ofNat_of_lt' built.fits
      · intro finalized
        cases finalized
  · cases effect with
    | closes closing => cases closing
    | keeps unstaged => exact absurd trivial unstaged
    | resizeHookPayload found unfinalized resized stored =>
      exact filling_update ((filling _ _ found).resize unfinalized resized) stored
  · obtain ⟨chunk, member, rfl⟩ := List.mem_map.mp write
    cases effect with
    | closes closing => cases closing
    | keeps unstaged => exact absurd trivial unstaged
    | writeHookProof found unfinalized sequential within copied stored =>
      rw [sequential] at within copied stored
      exact filling_update ((filling _ _ found).write built unfinalized member sequential within
        copied) stored
  · obtain ⟨nullifierHash, read, finalize⟩ := built.finalizeIx
    rw [finalize] at effect
    cases effect with
    | closes closing => cases closing
    | keeps unstaged => exact absurd trivial unstaged
    | finalizeHookPayload found unfinalized complete stored =>
      exact filling_update ((filling _ _ found).finalize complete read) stored

/-- A finalized payload stays, whatever else of the upload is executed. -/
theorem submitted_step {dateNow : Nat} {call : Call}
    (submitted : Submitted env submission dateNow clean chain)
    (open_ : call.closes ≠ some (env.hookPayloadAddress submission.publicKey))
    (accepted : Program.step env chain call = .ok chain') :
    Submitted env submission dateNow clean chain' := by
  obtain ⟨payload, dataLen, found, finalizes, describes⟩ := submitted
  rcases (step_staged accepted).finalized_kept found finalizes.finalized with kept | ⟨closes, -⟩
  · exact ⟨payload, dataLen, kept, finalizes, describes⟩
  · exact absurd closes open_

/-- Of the instructions of the flow only one closes a payload. -/
theorem Instruction.closes_eq_none (open_ : ix ≠ .closeHookPayload) (wallet : Pubkey) :
    (ix.call env wallet clock).closes = none := by
  cases ix with
  | closeHookPayload => exact absurd rfl open_
  | _ => rfl

/-- The last instruction succeeds on a complete payload only. -/
theorem finalize_step (built : Built submission upload)
    (filling : clean → Filling env submission upload.dateNow chain)
    (accepted : Program.step env chain
      (upload.finalizeIx.call env submission.publicKey clock) = .ok chain') :
    Submitted env submission upload.dateNow clean chain' := by
  obtain ⟨nullifierHash, read, finalize⟩ := built.finalizeIx
  have effect := step_staged accepted
  rw [finalize] at effect
  cases effect with
  | closes closing => cases closing
  | keeps unstaged => exact absurd trivial unstaged
  | finalizeHookPayload found unfinalized complete stored =>
    have present := congrFun stored (env.hookPayloadAddress submission.publicKey)
    refine ⟨_, _, present.trans (Function.update_self _ _ _), finalizes_set _ _ read, ?_⟩
    -- the proof was there before, when nothing but the upload has written the payload
    intro honest
    exact ((filling honest _ _ found).finalize complete read).described rfl

/-! ## One transaction -/

variable {tx : Signed}

theorem Harmless.open_ (built : Built submission upload) (harmless : Harmless upload ix) :
    ix ≠ .closeHookPayload := by
  rintro rfl
  obtain ⟨nullifierHash, -, finalize⟩ := built.finalizeIx
  rcases built.mem_instructions harmless with init | resize | write | same
  · cases init
  · cases resize
  · obtain ⟨chunk, -, same⟩ := List.mem_map.mp write
    cases same
  · rw [finalize] at same
    cases same

theorem filling_executed (built : Built submission upload)
    (harmless : ∀ ix ∈ tx.instructions, Harmless upload ix)
    (filling : Filling env submission upload.dateNow chain)
    (accepted : signAndSend env (tx.calls env submission.publicKey clock) chain = .ok chain') :
    Filling env submission upload.dateNow chain' := by
  rw [signAndSend, mapError_eq_ok] at accepted
  refine foldlM_invariant (Filling env submission upload.dateNow) ?_ filling accepted
  intro call member state next filling accepted
  obtain ⟨ix, among, rfl⟩ := List.mem_map.mp member
  exact filling_step built (harmless ix among) filling accepted

theorem submitted_executed {dateNow : Nat} {calls : List Call}
    (open_ : ∀ call ∈ calls, call.closes ≠ some (env.hookPayloadAddress submission.publicKey))
    (submitted : Submitted env submission dateNow clean chain)
    (accepted : calls.foldlM (Program.step env) chain = .ok chain') :
    Submitted env submission dateNow clean chain' := by
  refine foldlM_invariant (Submitted env submission dateNow clean) ?_ submitted accepted
  intro call member state next submitted accepted
  exact submitted_step submitted (open_ call member) accepted

/-- The transactions of an upload close nothing. -/
theorem Harmless.closes (built : Built submission upload)
    (harmless : ∀ ix ∈ tx.instructions, Harmless upload ix) :
    ∀ call ∈ tx.calls env submission.publicKey clock,
      call.closes ≠ some (env.hookPayloadAddress submission.publicKey) := by
  intro call member
  obtain ⟨ix, among, rfl⟩ := List.mem_map.mp member
  rw [Instruction.closes_eq_none ((harmless ix among).open_ built)]
  simp

/-- A transaction with the last instruction leaves the payload finalized. -/
theorem finalize_executed (built : Built submission upload)
    (harmless : ∀ ix ∈ tx.instructions, Harmless upload ix)
    (finalizes : upload.finalizeIx ∈ tx.instructions)
    (filling : clean → Filling env submission upload.dateNow chain)
    (accepted : signAndSend env (tx.calls env submission.publicKey clock) chain = .ok chain') :
    Submitted env submission upload.dateNow clean chain' := by
  have closes : ∀ call ∈ tx.calls env submission.publicKey clock,
      call.closes ≠ some (env.hookPayloadAddress submission.publicKey) :=
    Harmless.closes built harmless
  obtain ⟨before, after, split⟩ := List.append_of_mem finalizes
  rw [Signed.calls, split, List.map_append, List.map_cons] at closes
  rw [signAndSend, mapError_eq_ok, Signed.calls, split, List.map_append, List.map_cons,
    List.foldlM_append, bind_eq_ok] at accepted
  obtain ⟨reached, first, accepted⟩ := accepted
  rw [List.foldlM_cons, bind_eq_ok] at accepted
  obtain ⟨finalized, last, rest⟩ := accepted
  have filling : clean → Filling env submission upload.dateNow reached := by
    intro honest
    refine foldlM_invariant (Filling env submission upload.dateNow) ?_ (filling honest) first
    intro call member state next filling accepted
    obtain ⟨ix, among, rfl⟩ := List.mem_map.mp member
    exact filling_step built (harmless ix (by simp [split, among])) filling accepted
  refine submitted_executed ?_ (finalize_step built filling last) rest
  intro call member
  exact closes call (List.mem_append_right _ (List.mem_cons_of_mem _ member))

/-- A transaction of somebody else leaves the payload of the wallet alone. -/
theorem other_executed {transaction : List Call}
    (others : ∀ call ∈ transaction,
      call.writes env ≠ some (env.hookPayloadAddress submission.publicKey))
    (accepted : signAndSend env transaction chain = .ok chain') :
    chain'.payloads (env.hookPayloadAddress submission.publicKey) =
      chain.payloads (env.hookPayloadAddress submission.publicKey) := by
  rw [signAndSend, mapError_eq_ok] at accepted
  refine foldlM_invariant (fun state =>
    state.payloads (env.hookPayloadAddress submission.publicKey) =
      chain.payloads (env.hookPayloadAddress submission.publicKey)) ?_ rfl accepted
  intro call member state next same accepted
  rw [← same, State.payloads, State.payloads, step_frame accepted (others call member)]

/-! ## What the network answers -/

/-- The account that the flow asks for. -/
def Stage.asks (env : External Proof Address World) (wallet : Pubkey) : Stage → Option Pubkey
  | .ensureIssuerRegistered => some (env.issuerAddress wallet)
  | .cleanupStaleHookPayload => some (env.hookPayloadAddress wallet)
  | _ => none

/-- The transaction that the flow waits for. -/
def Stage.awaits : Stage → Option Signed
  | .registering tx | .closing tx | .sendInitResizeBatch _ tx _ | .confirmWrites _ tx
  | .rebroadcast _ tx _ _ => some tx
  | _ => none

/-- The node reports what is on the chain, and of a transaction only what has become of it. -/
structure Truthful (env : External Proof Address World) (submission : Submission)
    (s : System World) (answers : Answers) : Prop where
  account : ∀ address present, s.stage.asks env submission.publicKey = some address →
    answers.accountExists = some present → present = (s.chain.accounts address).isSome
  resolved : ∀ tx, s.stage.awaits = some tx → answers.confirmation = .resolved →
    tx ∈ s.landed.map Prod.fst
  polled : ∀ tx polls status, s.stage.awaits = some tx → answers.confirmation = .expired polls →
    some status ∈ polls → (tx, !status.err) ∈ s.landed
  status : ∀ tx status, s.stage.awaits = some tx → answers.statuses = some (some status) →
    (tx, !status.err) ∈ s.landed

/-- Nobody else closes the payload of the wallet. -/
def Undisturbed (env : External Proof Address World) (submission : Submission)
    (s : System World) : Action → Prop
  | .client answers => Truthful env submission s answers
  | .land .. | .abort _ => True
  | .other transaction => ∀ call ∈ transaction,
    call.closes ≠ some (env.hookPayloadAddress submission.publicKey)

/-- Others do not write the payload of the wallet, nor does an earlier attempt. A transaction
that fails for reasons of its own is not the one that closes a payload. -/
def Action.Spares (env : External Proof Address World) (submission : Submission) : Action → Prop
  | .client _ | .land .. => True
  | .abort tx => .closeHookPayload ∉ tx.instructions
  | .other transaction => ∀ call ∈ transaction,
    call.writes env ≠ some (env.hookPayloadAddress submission.publicKey)

def Honest (env : External Proof Address World) (submission : Submission) (s : System World)
    (action : Action) : Prop :=
  Undisturbed env submission s action ∧ action.Spares env submission

theorem tryConfirmViaPolling_ok {commitment : ConfirmationStatus} {polls : List (Option Status)}
    (reached : tryConfirmViaPolling commitment polls = .ok true) :
    ∃ status, some status ∈ polls ∧ status.err = false := by
  induction polls with
  | nil => cases reached
  | cons value rest ih =>
    rw [tryConfirmViaPolling] at reached
    split at reached
    next here =>
      split at reached
      · cases reached
      · cases value with
        | none => simp [commitmentReached] at here
        | some status => exact ⟨status, List.mem_cons_self, by simp_all⟩
    next =>
      obtain ⟨status, member, succeeded⟩ := ih reached
      exact ⟨status, List.mem_cons_of_mem _ member, succeeded⟩

/-- What is confirmed has landed. -/
theorem Truthful.confirmed {s : System World} {answers : Answers}
    (truthful : Truthful env submission s answers) (awaits : s.stage.awaits = some tx)
    {commitment : ConfirmationStatus}
    (returned : confirmTx commitment answers.confirmation = .ok ()) :
    tx ∈ s.landed.map Prod.fst := by
  cases confirmation : answers.confirmation with
  | resolved => exact truthful.resolved tx awaits confirmation
  | throws =>
    rw [confirmation] at returned
    cases returned
  | expired polls =>
    rw [confirmation, confirmTx, bind_eq_ok] at returned
    obtain ⟨reached, polled, required⟩ := returned
    rw [require_eq_ok.mp required] at polled
    obtain ⟨status, member, succeeded⟩ := tryConfirmViaPolling_ok polled
    have landed := truthful.polled tx polls status awaits confirmation member
    exact List.mem_map_of_mem landed

/-- The last transaction is reported only when it has succeeded. -/
theorem Truthful.finalized {s : System World} {answers : Answers}
    (truthful : Truthful env submission s answers) (awaits : s.stage.awaits = some tx)
    (landed : pollFinalizeLanded answers.statuses = .ok true) : (tx, true) ∈ s.landed := by
  match statuses : answers.statuses with
  | none | some none =>
    rw [statuses] at landed
    cases landed
  | some (some status) =>
    have reported := truthful.status tx status awaits statuses
    rw [statuses, pollFinalizeLanded] at landed
    split at landed
    · cases landed
    · simp_all

/-! ## How the flow goes on -/

/-- How the flow goes on unless it fails: what it hands over, and where it waits next. -/
inductive Advanced (submission : Submission) (answers : Answers) :
    Stage → List Signed → Stage → Prop where
  | registered : Advanced submission answers .ensureIssuerRegistered [] .cleanupStaleHookPayload
  | register {ix : Instruction} {bh : Blockhash} (built : submission.registerIssuer = some ix) :
      Advanced submission answers .ensureIssuerRegistered [bh.sign [ix]]
        (.registering (bh.sign [ix]))
  | issuer {tx : Signed} : Advanced submission answers (.registering tx) [] .cleanupStaleHookPayload
  | fresh (absent : answers.accountExists = some false) :
      Advanced submission answers .cleanupStaleHookPayload [] .building
  | close {bh : Blockhash} :
      Advanced submission answers .cleanupStaleHookPayload [bh.sign [.closeHookPayload]]
        (.closing (bh.sign [.closeHookPayload]))
  | closed {tx : Signed} (confirmed : confirmTx .processed answers.confirmation = .ok ()) :
      Advanced submission answers (.closing tx) [] .building
  | init {upload : Upload} {bh : Blockhash}
      (built : submission.build answers.dateNow = some upload) :
      Advanced submission answers .building [(upload.initTxs bh).1]
        (.sendInitResizeBatch upload (upload.initTxs bh).1 (upload.initTxs bh).2)
  | resize {upload : Upload} {tx next : Signed} {rest : List Signed} :
      Advanced submission answers (.sendInitResizeBatch upload tx (next :: rest)) [next]
        (.sendInitResizeBatch upload next rest)
  | resized {upload : Upload} {tx : Signed} :
      Advanced submission answers (.sendInitResizeBatch upload tx []) [] (.sendWritesBatch upload)
  | write {upload : Upload} {bh : Blockhash} {last : Signed} :
      Advanced submission answers (.sendWritesBatch upload)
        ((batches upload.writeIxs).map bh.sign) (.confirmWrites upload last)
  | unwritten {upload : Upload} {bh : Blockhash} :
      Advanced submission answers (.sendWritesBatch upload)
        ((batches upload.writeIxs).map bh.sign) (.sendFinalize upload)
  | written {upload : Upload} {tx : Signed} :
      Advanced submission answers (.confirmWrites upload tx) [] (.sendFinalize upload)
  | finalize {upload : Upload} {bh : Blockhash} :
      Advanced submission answers (.sendFinalize upload) [bh.sign [upload.finalizeIx]]
        (.rebroadcast upload (bh.sign [upload.finalizeIx]) bh.lastValidBlockHeight none)
  | landed {upload : Upload} {tx : Signed} {height : Nat} {deadline : Option Nat}
      (succeeded : pollFinalizeLanded answers.statuses = .ok true) :
      Advanced submission answers (.rebroadcast upload tx height deadline) []
        (.succeeded upload tx)
  | again {upload : Upload} {tx : Signed} {height : Nat} {deadline deadline' : Option Nat}
      {sent : List Signed} (same : ∀ other ∈ sent, other = tx) :
      Advanced submission answers (.rebroadcast upload tx height deadline) sent
        (.rebroadcast upload tx height deadline')
  | stays {upload : Upload} {tx : Signed} :
      Advanced submission answers (.succeeded upload tx) [] (.succeeded upload tx)

/-- The flow goes on as described, or it has failed. -/
def GoesOn (submission : Submission) (answers : Answers) (stage : Stage)
    (result : List Signed × Stage) : Prop :=
  (∃ failure, result.2 = .failed failure) ∨
    Advanced submission answers stage result.1 result.2

theorem goesOn_send {answers : Answers} {stage next : Stage} {txs : List Signed}
    (advanced : Advanced submission answers stage txs next) :
    GoesOn submission answers stage (send answers txs next) := by
  rw [send]
  split
  · exact Or.inr advanced
  · exact Or.inl ⟨_, rfl⟩

theorem goesOn_signSend {answers : Answers} {stage : Stage} {next : Blockhash → Signed → Stage}
    (advanced : ∀ bh : Blockhash,
      Advanced submission answers stage [bh.sign [ix]] (next bh (bh.sign [ix]))) :
    GoesOn submission answers stage (signSend answers ix next) := by
  rw [signSend]
  split
  · exact Or.inl ⟨_, rfl⟩
  · exact goesOn_send (advanced _)

theorem goesOn_afterConfirm {answers : Answers} {stage : Stage} {next : List Signed × Stage}
    (goesOn : confirmTx .processed answers.confirmation = .ok () →
      GoesOn submission answers stage next) :
    GoesOn submission answers stage (afterConfirm answers next) := by
  rw [afterConfirm]
  split
  next returned => exact goesOn returned
  next => exact Or.inl ⟨_, rfl⟩

theorem advance_goesOn (submission : Submission) (answers : Answers) (stage : Stage) :
    GoesOn submission answers stage (advance submission answers stage) := by
  have failed : ∀ failure, GoesOn submission answers stage ([], .failed failure) :=
    fun failure => Or.inl ⟨failure, rfl⟩
  cases stage with
  | ensureIssuerRegistered =>
    rw [advance]
    split
    · exact failed _
    · exact Or.inr .registered
    · split
      · exact failed _
      next built => exact goesOn_signSend fun _ => .register built
  | registering tx => exact goesOn_afterConfirm fun _ => Or.inr .issuer
  | cleanupStaleHookPayload =>
    rw [advance]
    split
    · exact failed _
    · exact goesOn_signSend fun _ => .close
    next absent => exact Or.inr (.fresh absent)
  | closing tx => exact goesOn_afterConfirm fun confirmed => Or.inr (.closed confirmed)
  | building =>
    rw [advance]
    split
    · exact failed _
    next built =>
      split
      · exact failed _
      · exact goesOn_send (.init built)
  | sendInitResizeBatch upload tx rest =>
    refine goesOn_afterConfirm fun _ => ?_
    cases rest with
    | nil => exact Or.inr .resized
    | cons next rest => exact goesOn_send .resize
  | sendWritesBatch upload =>
    rw [advance]
    split
    · exact failed _
    · refine goesOn_send ?_
      split
      · exact .write
      · exact .unwritten
  | confirmWrites upload tx => exact goesOn_afterConfirm fun _ => Or.inr .written
  | sendFinalize upload => exact goesOn_signSend fun _ => .finalize
  | rebroadcast upload tx height deadline =>
    rw [advance.eq_def]
    cases polled : pollFinalizeLanded answers.statuses with
    | error failure => exact failed failure
    | ok landed =>
      cases landed with
      | true => exact Or.inr (.landed polled)
      | false =>
        cases deadline with
        | some deadline =>
          dsimp only
          split
          · exact failed _
          · exact Or.inr (.again (by simp))
        | none =>
          dsimp only
          split
          · exact Or.inr (.again (by simp))
          · exact Or.inr (.again (by simp))
  | succeeded upload tx => exact Or.inr .stays
  | failed failure => exact Or.inl ⟨failure, rfl⟩

end ZkSettle.Frontend.Network
