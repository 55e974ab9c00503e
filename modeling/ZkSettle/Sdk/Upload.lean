import ZkSettle.Program.Reference
import ZkSettle.Program.Staging
import ZkSettle.Sdk.Prove

/-!
# The chunked upload

`uploadProofChunked` creates the payload account, grows it until its size has grown by the
length of the proof, writes the proof two chunks to a transaction, and finalizes it. The
transactions are confirmed in order, so that each meets the state that the one before has
left. Whatever the chunk size, the program takes every one of them.
-/
namespace ZkSettle.Sdk

open Checks ZkSettle.Program

variable {Proof Address World : Type} (env : External Proof Address World)

/-! ## Source -/

def CHUNK_SIZE : Rat := 450

def DEFAULT_LIGHT_ARGS : StagedLightArgs where
  bubblegumTail := 0
  proofPresent := false
  proofBytes := Vector.replicate 128 0
  addressMtIndex := 0
  addressQueueIndex := 0
  addressRootIndex := 0
  outputStateTreeIndex := 0

/-- `chunkSize` is any finite number. -/
structure ChunkedUploadOptions where
  wallet : Pubkey
  proof : List UInt8
  nullifierHash : Bytes32
  transferContext : TransferContext
  lightArgs : Option StagedLightArgs
  chunkSize : Option Rat

inductive UploadError where
  | program (error : Error)
  | missing
  /-- the loop has not ended yet -/
  | running
  deriving DecidableEq, Repr

/-- `Math.max(1, Math.floor(raw))` -/
def ChunkedUploadOptions.size (opts : ChunkedUploadOptions) : Nat :=
  (max 1 (opts.chunkSize.getD CHUNK_SIZE).floor).toNat

/-- The accounts of the instructions, as the SDK derives them. -/
def hookAccounts (wallet : Pubkey) : HookPayloadAccounts where
  authority := wallet
  issuer := env.issuerAddress wallet
  hookPayload := env.hookPayloadAddress wallet

/-- A confirmed transaction, whose instructions succeed together or not at all. -/
def signAndSend (tx : List Call) (s : State World) : Except UploadError (State World) :=
  (tx.foldlM (step env) s).mapError .program

/-- `getAccountInfo(...).data.length` -/
def dataLength (wallet : Pubkey) (s : State World) : Except UploadError Nat :=
  okOr ((s.payloads (env.hookPayloadAddress wallet)).map Prod.snd) .missing

/-- `while (currentSize < targetSize)`, for a number of turns. -/
def resizeLoop (wallet : Pubkey) (targetSize : Nat) :
    Nat → Nat → State World → Except UploadError (State World)
  | turns, currentSize, s =>
    if currentSize < targetSize then
      match turns with
      | 0 => .error .running
      | turns + 1 => do
        let s ← signAndSend env [.resizeHookPayload (hookAccounts env wallet)] s
        let currentSize ← dataLength env wallet s
        resizeLoop wallet targetSize turns currentSize s
    else .ok s

/-- The chunks from an offset on, each with its own offset; `size` is positive. -/
def chunksFrom (proof : List UInt8) (size : Nat) (offset : Nat) : List (Nat × List UInt8) :=
  if offset < proof.length ∧ 0 < size then
    let stop := min (offset + size) proof.length
    (offset, (proof.drop offset).take (stop - offset)) :: chunksFrom proof size (offset + size)
  else []
  termination_by proof.length - offset

def writeChunk (wallet : Pubkey) (chunk : Nat × List UInt8) : Call :=
  .writeHookProof (hookAccounts env wallet) (.ofNat chunk.1) chunk.2

/-- `writeIxs.slice(i, i + WRITES_PER_TX)` for every `i`, with two writes to a transaction. -/
def batches {α : Type} : List α → List (List α)
  | first :: second :: rest => [first, second] :: batches rest
  | [last] => [[last]]
  | [] => []

/-- `opts.transferContext.epoch ?? Math.floor(Date.now() / 1000 / 86400)` -/
def ChunkedUploadOptions.epoch (opts : ChunkedUploadOptions) (dateNow : Nat) : Nat :=
  match opts.transferContext.epoch with
  | some epoch => epoch.value
  | none => dateNow / 1000 / 86400

def ChunkedUploadOptions.finalize (opts : ChunkedUploadOptions) (dateNow : Nat) : Call :=
  .finalizeHookPayload (hookAccounts env opts.wallet) opts.nullifierHash opts.transferContext.mint
    (.ofNat (opts.epoch dateNow)) opts.transferContext.recipient opts.transferContext.amount
    (opts.lightArgs.getD DEFAULT_LIGHT_ARGS)

def uploadProofChunked (turns : Nat) (opts : ChunkedUploadOptions) (dateNow : Nat)
    (s : State World) : Except UploadError (State World) := do
  let s ← signAndSend env
    [.initHookPayload (hookAccounts env opts.wallet) (.ofNat opts.proof.length)] s
  let headerSize ← dataLength env opts.wallet s
  let s ← resizeLoop env opts.wallet (headerSize + opts.proof.length) turns headerSize s
  let writeIxs := (chunksFrom opts.proof opts.size 0).map (writeChunk env opts.wallet)
  let s ← (batches writeIxs).foldlM (fun s tx => signAndSend env tx s) s
  signAndSend env [opts.finalize env dateNow] s

/-! ## Steps of the program -/

/-- The wallet has an issuer account. -/
def RegisteredIssuer (wallet : Pubkey) (s : State World) : Prop :=
  ∃ issuer, s.accounts (env.issuerAddress wallet) = some (.issuer issuer) ∧
    issuer.authority = wallet

/-- An upload on its way: what the payload account holds. -/
structure Uploading (wallet : Pubkey) (payload : HookPayload) (dataLen : Nat) (s : State World) :
    Prop where
  registered : RegisteredIssuer env wallet s
  stored : s.accounts (env.hookPayloadAddress wallet) = some (.hookPayload payload dataLen)

/-- The payload of a proof of which the first bytes are written. -/
def written (wallet : Pubkey) (proof : List UInt8) (done : Nat) : HookPayload :=
  { HookPayload.init with
    issuer := env.issuerAddress wallet
    expectedProofLen := .ofNat proof.length
    highWaterMark := .ofNat done
    proofAndWitness := proof.take done ++ List.replicate (proof.length - done) 0 }

variable {env} {wallet : Pubkey} {s : State World} {payload : HookPayload} {dataLen : Nat}

theorem RegisteredIssuer.setAccount (registered : RegisteredIssuer env wallet s)
    (distinct : env.issuerAddress wallet ≠ env.hookPayloadAddress wallet)
    (account : Option ProgramAccount) :
    RegisteredIssuer env wallet (s.setAccount (env.hookPayloadAddress wallet) account) := by
  obtain ⟨issuer, found, authority⟩ := registered
  exact ⟨issuer, by simpa [distinct] using found, authority⟩

/-- The checks of the issuer account pass. -/
theorem RegisteredIssuer.check (registered : RegisteredIssuer env wallet s) :
    ∃ issuer, s.issuer (env.issuerAddress wallet) = .ok issuer ∧
      checkIssuer env wallet (env.issuerAddress wallet) issuer = .ok ⟨⟩ := by
  obtain ⟨issuer, found, authority⟩ := registered
  refine ⟨issuer, State.issuer_eq_ok.mpr found, ?_⟩
  simp [checkIssuer, authority]

/-- The payload account is another account than the issuer's. -/
theorem RegisteredIssuer.distinct (registered : RegisteredIssuer env wallet s)
    (other : ∀ issuer, s.accounts (env.hookPayloadAddress wallet) ≠ some (.issuer issuer)) :
    env.issuerAddress wallet ≠ env.hookPayloadAddress wallet := by
  obtain ⟨issuer, found, -⟩ := registered
  intro same
  rw [same] at found
  exact other issuer found

theorem Uploading.distinct (uploading : Uploading env wallet payload dataLen s) :
    env.issuerAddress wallet ≠ env.hookPayloadAddress wallet :=
  uploading.registered.distinct (by simp [uploading.stored])

theorem Uploading.setAccount (uploading : Uploading env wallet payload dataLen s)
    (payload' : HookPayload) (dataLen' : Nat) :
    Uploading env wallet payload' dataLen'
      (s.setAccount (env.hookPayloadAddress wallet) (some (.hookPayload payload' dataLen'))) where
  registered := uploading.registered.setAccount uploading.distinct _
  stored := by simp

theorem Uploading.dataLength (uploading : Uploading env wallet payload dataLen s) :
    dataLength env wallet s = .ok dataLen := by
  rw [Sdk.dataLength, State.payloads_eq_some.mpr uploading.stored]
  rfl

theorem Uploading.load (uploading : Uploading env wallet payload dataLen s)
    (unfinalized : payload.finalized = false) :
    ModifyHookPayload.load env (hookAccounts env wallet) s = .ok (payload, dataLen) := by
  obtain ⟨issuer, found, checked⟩ := uploading.registered.check
  simp only [ModifyHookPayload.load, hookAccounts, bind_eq_ok, require_eq_ok, pure_eq_ok]
  exact ⟨issuer, found, (payload, dataLen), State.hookPayload_eq_ok.mpr uploading.stored, ⟨⟩,
    checked, ⟨⟩, trivial, ⟨⟩, unfinalized, rfl⟩

theorem signAndSend_one {call : Call} {s' : State World} (accepted : step env s call = .ok s') :
    signAndSend env [call] s = .ok s' := by
  rw [signAndSend, List.foldlM_cons, accepted]
  rfl

/-- The payload that `init` creates: every byte is zero. -/
def created (env : External Proof Address World) (wallet : Pubkey) (proof : List UInt8) :
    HookPayload :=
  { HookPayload.init with
    issuer := env.issuerAddress wallet
    expectedProofLen := .ofNat proof.length }

theorem offset_toNat {proof : List UInt8} {offset : Nat}
    (bounded : proof.length ≤ MAX_HOOK_PROOF_BYTES) (within : offset ≤ proof.length) :
    (UInt32.ofNat offset).toNat = offset := by
  rw [MAX_HOOK_PROOF_BYTES] at bounded
  rw [UInt32.toNat_ofNat']
  omega

theorem expectedProofLen_toNat {proof : List UInt8}
    (bounded : proof.length ≤ MAX_HOOK_PROOF_BYTES) :
    (UInt32.ofNat proof.length).toNat = proof.length :=
  offset_toNat bounded (Nat.le_refl _)

theorem step_init (registered : RegisteredIssuer env wallet s)
    (free : s.accounts (env.hookPayloadAddress wallet) = none) {proof : List UInt8}
    (nonempty : 0 < proof.length) (bounded : proof.length ≤ MAX_HOOK_PROOF_BYTES) :
    ∃ s', step env s (.initHookPayload (hookAccounts env wallet) (.ofNat proof.length)) = .ok s' ∧
      Uploading env wallet (created env wallet proof) (8 + BASE_SPACE) s' := by
  obtain ⟨issuer, found, checked⟩ := registered.check
  have distinct := registered.distinct (by simp [free])
  refine ⟨s.setAccount (env.hookPayloadAddress wallet)
    (some (.hookPayload (created env wallet proof) (8 + BASE_SPACE))), ?_,
    registered.setAccount distinct _, by simp⟩
  simp only [step, initHookPayloadHandler, InitHookPayload.load, State.requireFree, hookAccounts,
    bind_eq_ok, require_eq_ok, pure_eq_ok, expectedProofLen_toNat bounded]
  exact ⟨⟨⟩, ⟨issuer, found, ⟨⟩, trivial, ⟨⟩, require_eq_ok.mpr free, checked⟩, ⟨⟩,
    ⟨nonempty, bounded⟩, rfl⟩

/-! ## Growing the account -/

/-- The payload of an account grown by a number of bytes: the growth that reaches the length
of the proof also allocates it. -/
def grown (env : External Proof Address World) (wallet : Pubkey) (proof : List UInt8)
    (size : Nat) : HookPayload :=
  if proof.length ≤ size then written env wallet proof 0 else created env wallet proof

theorem written_zero (wallet : Pubkey) (proof : List UInt8) :
    written env wallet proof 0 =
      { created env wallet proof with proofAndWitness := List.replicate proof.length 0 } := rfl

theorem grown_expected {proof : List UInt8} {size : Nat}
    (bounded : proof.length ≤ MAX_HOOK_PROOF_BYTES) :
    (grown env wallet proof size).expectedProofLen.toNat = proof.length := by
  rw [grown]
  split <;> exact expectedProofLen_toNat bounded

theorem grown_unfinalized (env : External Proof Address World) (wallet : Pubkey)
    (proof : List UInt8) (size : Nat) : (grown env wallet proof size).finalized = false := by
  rw [grown]
  split <;> rfl

/-- One growth: by the limit of one instruction, or to the target. -/
theorem step_resize {proof : List UInt8} {size : Nat}
    (uploading : Uploading env wallet (grown env wallet proof size) (8 + BASE_SPACE + size) s)
    (bounded : proof.length ≤ MAX_HOOK_PROOF_BYTES) (short : size < proof.length) :
    ∃ s', step env s (.resizeHookPayload (hookAccounts env wallet)) = .ok s' ∧
      Uploading env wallet (grown env wallet proof (min proof.length (size + MAX_REALLOC)))
        (8 + BASE_SPACE + min proof.length (size + MAX_REALLOC)) s' := by
  refine ⟨_, ?_, uploading.setAccount _ _⟩
  have before : grown env wallet proof size = created env wallet proof :=
    if_neg (Nat.not_le.mpr short)
  have target : min (8 + BASE_SPACE + proof.length) (8 + BASE_SPACE + size + MAX_REALLOC) =
      8 + BASE_SPACE + min proof.length (size + MAX_REALLOC) := by omega
  have reached : 8 + BASE_SPACE + proof.length ≤
        8 + BASE_SPACE + min proof.length (size + MAX_REALLOC) ↔
      proof.length ≤ min proof.length (size + MAX_REALLOC) := by omega
  rw [step, resizeHookPayloadHandler, bind_eq_ok]
  refine ⟨_, uploading.load (grown_unfinalized env wallet proof size), ?_⟩
  simp only [grown_expected bounded, target, reached]
  rw [if_neg (by omega), pure_eq_ok, before, grown]
  split
  next full => rw [written_zero, hookAccounts]
  next partly => rw [hookAccounts]

/-- At the length of the proof the loop ends at once, with the proof allocated. -/
theorem resizeLoop_full {proof : List UInt8} {size : Nat} (full : size = proof.length)
    (uploading : Uploading env wallet (grown env wallet proof size) (8 + BASE_SPACE + size) s) :
    (∀ turns, resizeLoop env wallet (8 + BASE_SPACE + proof.length) turns
        (8 + BASE_SPACE + size) s = .ok s) ∧
      Uploading env wallet (written env wallet proof 0) (8 + BASE_SPACE + proof.length) s := by
  subst full
  refine ⟨fun turns => ?_, by simpa [grown] using uploading⟩
  rw [resizeLoop.eq_def]
  exact if_neg (Nat.lt_irrefl _)

/-- The loop ends when its turns cover what is missing, with the proof allocated. -/
theorem resizeLoop_eq_ok {proof : List UInt8} (bounded : proof.length ≤ MAX_HOOK_PROOF_BYTES)
    (turns : Nat) : ∀ {s : State World} {size : Nat},
    Uploading env wallet (grown env wallet proof size) (8 + BASE_SPACE + size) s →
    size ≤ proof.length → proof.length ≤ size + turns * MAX_REALLOC →
    ∃ s', (∀ more, turns ≤ more → resizeLoop env wallet (8 + BASE_SPACE + proof.length) more
        (8 + BASE_SPACE + size) s = .ok s') ∧
      Uploading env wallet (written env wallet proof 0) (8 + BASE_SPACE + proof.length) s' := by
  induction turns with
  | zero =>
    intro s size uploading within enough
    obtain ⟨ended, written⟩ := resizeLoop_full (by omega) uploading
    exact ⟨s, fun more _ => ended more, written⟩
  | succ turns ih =>
    intro s size uploading within enough
    by_cases short : size < proof.length
    case neg =>
      obtain ⟨ended, written⟩ := resizeLoop_full (by omega) uploading
      exact ⟨s, fun more _ => ended more, written⟩
    case pos =>
      -- one turn grows the account by the limit, so one turn less covers the rest
      obtain ⟨next, accepted, uploading⟩ := step_resize uploading bounded short
      rw [Nat.succ_mul] at enough
      obtain ⟨s', ended, written⟩ := ih uploading (by omega) (by omega)
      refine ⟨s', fun more least => ?_, written⟩
      obtain ⟨more, rfl⟩ : ∃ rest, more = rest + 1 := ⟨more - 1, by omega⟩
      rw [resizeLoop, if_pos (by omega), bind_eq_ok]
      refine ⟨next, signAndSend_one accepted, ?_⟩
      rw [bind_eq_ok]
      exact ⟨_, uploading.dataLength, ended more (by omega)⟩

/-! ## Writing the proof -/

theorem chunk_length {proof : List UInt8} (done : Nat) {stop : Nat} (within : stop ≤ proof.length) :
    ((proof.drop done).take (stop - done)).length = stop - done := by
  rw [List.length_take, List.length_drop]
  omega

/-- A chunk that goes on where the last one ended. -/
theorem copyFromSlice_next {proof : List UInt8} {done stop : Nat} (forward : done ≤ stop)
    (within : stop ≤ proof.length) :
    copyFromSlice (proof.take done ++ List.replicate (proof.length - done) 0) done
        ((proof.drop done).take (stop - done)) =
      .ok (proof.take stop ++ List.replicate (proof.length - stop) 0) := by
  have front : (proof.take done).length = done := List.length_take_of_le (by omega)
  have chunk := chunk_length done within
  have joined : proof.take stop = proof.take done ++ (proof.drop done).take (stop - done) := by
    rw [← List.take_add, Nat.add_sub_cancel' forward]
  have rest : (proof.take done ++ List.replicate (proof.length - done) 0).drop stop =
      List.replicate (proof.length - stop) 0 := by
    rw [List.drop_append, List.drop_eq_nil_of_le (by omega), front, List.drop_replicate,
      List.nil_append]
    congr 1
    omega
  rw [copyFromSlice, chunk, Nat.add_sub_cancel' forward, List.length_append, front,
    List.length_replicate, if_pos (by omega), rest, joined, List.take_left' front]

theorem step_write {proof : List UInt8} {done stop : Nat}
    (uploading : Uploading env wallet (written env wallet proof done) dataLen s)
    (bounded : proof.length ≤ MAX_HOOK_PROOF_BYTES) (forward : done ≤ stop)
    (within : stop ≤ proof.length) :
    ∃ s', step env s (writeChunk env wallet (done, (proof.drop done).take (stop - done))) =
        .ok s' ∧ Uploading env wallet (written env wallet proof stop) dataLen s' := by
  refine ⟨_, ?_, uploading.setAccount _ _⟩
  have chunk := chunk_length done within
  have small : proof.length < 2 ^ 64 := by
    rw [MAX_HOOK_PROOF_BYTES] at bounded
    omega
  rw [writeChunk, step, writeHookProofHandler, bind_eq_ok]
  refine ⟨_, uploading.load rfl, ?_⟩
  simp only [bind_eq_ok, require_eq_ok, okOr_eq_ok, checkedAdd_eq_some, pure_eq_ok, chunk,
    offset_toNat bounded (forward.trans within)]
  refine ⟨⟨⟩, rfl, stop, ⟨by omega, by omega⟩, ⟨⟩, ?_, _, copyFromSlice_next forward within, ?_⟩
  · rwa [written, expectedProofLen_toNat bounded]
  · rw [written, written, hookAccounts]

/-- The chunks from an offset on are all written, however long they are. -/
theorem writes_eq_ok {proof : List UInt8} (bounded : proof.length ≤ MAX_HOOK_PROOF_BYTES)
    {size : Nat} (positive : 0 < size) (offset : Nat) {s : State World}
    (uploading :
      Uploading env wallet (written env wallet proof (min offset proof.length)) dataLen s) :
    ∃ s', ((chunksFrom proof size offset).map (writeChunk env wallet)).foldlM (step env) s =
        .ok s' ∧ Uploading env wallet (written env wallet proof proof.length) dataLen s' := by
  induction offset using chunksFrom.induct proof size generalizing s with
  | case1 offset more ih =>
    -- the offset has reached what is written, and the chunk goes on from there
    rw [Nat.min_eq_left more.1.le] at uploading
    have forward : offset ≤ min (offset + size) proof.length := by omega
    obtain ⟨next, accepted, uploading⟩ := step_write uploading bounded forward (by omega)
    obtain ⟨s', rest, uploading⟩ := ih uploading
    refine ⟨s', ?_, uploading⟩
    rw [chunksFrom, if_pos more, List.map_cons, List.foldlM_cons, bind_eq_ok]
    exact ⟨next, accepted, rest⟩
  | case2 offset past =>
    have reached : min offset proof.length = proof.length := by omega
    rw [reached] at uploading
    refine ⟨s, ?_, uploading⟩
    rw [chunksFrom, if_neg past]
    rfl

theorem batches_flatten {α : Type} (items : List α) : (batches items).flatten = items := by
  induction items using batches.induct with
  | case1 first second rest ih => rw [batches, List.flatten_cons, ih, List.cons_append,
      List.cons_append, List.nil_append]
  | case2 last => rfl
  | case3 => rfl

/-- Transactions that succeed one after the other are their instructions one after the other. -/
theorem signAndSend_all {s s' : State World} (txs : List (List Call))
    (accepted : txs.flatten.foldlM (step env) s = .ok s') :
    txs.foldlM (fun s tx => signAndSend env tx s) s = .ok s' := by
  induction txs generalizing s with
  | nil =>
    cases accepted
    rfl
  | cons tx txs ih =>
    rw [List.flatten_cons, List.foldlM_append, bind_eq_ok] at accepted
    obtain ⟨next, first, rest⟩ := accepted
    rw [List.foldlM_cons, signAndSend, first]
    exact ih rest

/-! ## Finalizing -/

/-- The payload that the options describe. -/
def finished (env : External Proof Address World) (opts : ChunkedUploadOptions)
    (dateNow : Nat) : HookPayload :=
  { written env opts.wallet opts.proof opts.proof.length with
    nullifierHash := opts.nullifierHash
    mint := opts.transferContext.mint
    recipient := opts.transferContext.recipient
    amount := opts.transferContext.amount
    epoch := .ofNat (opts.epoch dateNow)
    lightArgs := opts.lightArgs.getD DEFAULT_LIGHT_ARGS
    finalized := true }

theorem step_finalize {proof : List UInt8}
    (uploading : Uploading env wallet (written env wallet proof proof.length) dataLen s)
    {nullifierHash : Bytes32} (named : nullifierHash ≠ .zero) {amount : UInt64}
    (positive : 0 < amount) (mint recipient : Pubkey) (epoch : UInt64)
    (lightArgs : StagedLightArgs) :
    ∃ s', step env s (.finalizeHookPayload (hookAccounts env wallet) nullifierHash mint epoch
        recipient amount lightArgs) = .ok s' ∧
      Uploading env wallet
        { written env wallet proof proof.length with
            nullifierHash, mint, recipient, amount, epoch, lightArgs, finalized := true }
        dataLen s' := by
  refine ⟨_, ?_, uploading.setAccount _ _⟩
  rw [step, finalizeHookPayloadHandler, bind_eq_ok]
  refine ⟨_, uploading.load rfl, ?_⟩
  simp only [validateFinalizeInputs, bind_eq_ok, require_eq_ok, pure_eq_ok]
  exact ⟨⟨⟩, ⟨⟨⟩, named, positive⟩, ⟨⟩, rfl, rfl⟩

/-! ## The whole upload -/

theorem finished_proof (env : External Proof Address World) (opts : ChunkedUploadOptions)
    (dateNow : Nat) : (finished env opts dateNow).proofAndWitness = opts.proof := by
  rw [finished, written, List.take_length, Nat.sub_self, List.replicate_zero, List.append_nil]

/-- The transactions succeed, each in the state that the one before has left. Two turns of the
loop are enough. -/
theorem uploadProofChunked_eq_ok (opts : ChunkedUploadOptions) (dateNow : Nat)
    (registered : RegisteredIssuer env opts.wallet s)
    (free : s.accounts (env.hookPayloadAddress opts.wallet) = none)
    (nonempty : 0 < opts.proof.length) (bounded : opts.proof.length ≤ MAX_HOOK_PROOF_BYTES)
    (named : opts.nullifierHash ≠ .zero) (positive : 0 < opts.transferContext.amount) :
    ∃ s', (∀ turns, 2 ≤ turns → uploadProofChunked env turns opts dateNow s = .ok s') ∧
      Uploading env opts.wallet (finished env opts dateNow)
        (8 + BASE_SPACE + opts.proof.length) s' := by
  obtain ⟨created, initialized, uploading⟩ := step_init registered free nonempty bounded
  have headerSize := uploading.dataLength
  -- nothing is grown yet
  have start : Uploading env opts.wallet (grown env opts.wallet opts.proof 0)
      (8 + BASE_SPACE + 0) created := by
    rwa [grown, if_neg (Nat.not_le.mpr nonempty)]
  obtain ⟨resized, resizes, uploading⟩ := resizeLoop_eq_ok bounded 2 start (Nat.zero_le _) (by
    rw [MAX_HOOK_PROOF_BYTES] at bounded
    rw [MAX_REALLOC]
    omega)
  have size : 0 < opts.size := by
    rw [ChunkedUploadOptions.size]
    omega
  obtain ⟨filled, writes, uploading⟩ := writes_eq_ok bounded size 0 (by simpa using uploading)
  obtain ⟨s', finalizes, uploading⟩ := step_finalize uploading named positive
    opts.transferContext.mint opts.transferContext.recipient (.ofNat (opts.epoch dateNow))
    (opts.lightArgs.getD DEFAULT_LIGHT_ARGS)
  refine ⟨s', fun turns least => ?_, uploading⟩
  simp only [uploadProofChunked, bind_eq_ok]
  refine ⟨created, signAndSend_one initialized, _, headerSize, resized, resizes turns least,
    filled, signAndSend_all _ ?_, signAndSend_one finalizes⟩
  rw [batches_flatten]
  exact writes

/-- The upload of every proof that the program accepts ends, whatever the size of its chunks,
with a finalized payload that holds the proof and what the options say of the transfer. -/
theorem uploadProofChunked_finalizes (opts : ChunkedUploadOptions) (dateNow : Nat)
    (registered : RegisteredIssuer env opts.wallet s)
    (free : s.accounts (env.hookPayloadAddress opts.wallet) = none)
    (nonempty : 0 < opts.proof.length) (bounded : opts.proof.length ≤ MAX_HOOK_PROOF_BYTES)
    (named : opts.nullifierHash ≠ .zero) (positive : 0 < opts.transferContext.amount) :
    ∃ s', (∀ turns, 2 ≤ turns → uploadProofChunked env turns opts dateNow s = .ok s') ∧
      s'.accounts (env.hookPayloadAddress opts.wallet) =
        some (.hookPayload (finished env opts dateNow)
          (8 + BASE_SPACE + opts.proof.length)) ∧
      (finished env opts dateNow).finalized = true ∧
      (finished env opts dateNow).proofAndWitness = opts.proof := by
  obtain ⟨s', uploads, uploading⟩ := uploadProofChunked_eq_ok opts dateNow registered free nonempty
    bounded named positive
  exact ⟨s', uploads, uploading.stored, rfl, finished_proof env opts dateNow⟩

/-- Three bytes, one at a time. -/
def Sample.upload : ChunkedUploadOptions where
  wallet := Scenario.authority
  proof := [1, 2, 3]
  nullifierHash := Scenario.nullifierHash
  transferContext :=
    { mint := Scenario.mint
      recipient := Scenario.recipient
      amount := 50
      epoch := none
      privateKey := []
      credentialExpiry := []
      jurisdictionPath := []
      jurisdictionPathIndices := [] }
  lightArgs := none
  chunkSize := some (3 / 2)

theorem uploadProofChunked_finalizes_three :
    ∃ s', (∀ turns, 2 ≤ turns →
        uploadProofChunked reference turns Sample.upload 86400000 Scenario.registered = .ok s') ∧
      s'.accounts (reference.hookPayloadAddress Scenario.authority) =
        some (.hookPayload (finished reference Sample.upload 86400000) (8 + BASE_SPACE + 3)) ∧
      (finished reference Sample.upload 86400000).finalized = true ∧
      (finished reference Sample.upload 86400000).proofAndWitness = [1, 2, 3] := by
  have registered : RegisteredIssuer reference Scenario.authority Scenario.registered :=
    ⟨_, rfl, rfl⟩
  exact uploadProofChunked_finalizes Sample.upload 86400000 registered rfl (by decide)
    (by decide) (by decide) (by decide)

end ZkSettle.Sdk
