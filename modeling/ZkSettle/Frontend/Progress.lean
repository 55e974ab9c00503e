import ZkSettle.Frontend.Landing

/-!
# A submission that gets through

Where the network takes what it is handed, the flow succeeds for every proof that the program
accepts, also when an earlier attempt has left a payload. The accounts are grown far enough by
the growths that are counted beforehand, and no two transactions that are signed together are
the same, so that none is taken for a repetition.
-/
namespace ZkSettle.Frontend.Network

open Checks Transactional
open ZkSettle.Program
open ZkSettle.Sdk

variable {Proof Address World : Type} {env : External Proof Address World}
  {submission : Submission}

/-! ## Steps -/

/-- The requests succeed, and what is awaited is confirmed. -/
def Answers.well (dateNow : Nat) (bh : Blockhash) : Answers where
  dateNow
  accountExists := none
  signing := some bh
  unsent := none
  confirmation := .resolved
  statuses := none
  blockHeight := none

section Steps

variable {s : System World} {answers : Answers} {sent : List Signed} {stage : Stage}
  {tx : Signed} {clock : Clock} {chain : State World}

theorem leads_client (answers : Answers) (truthful : Truthful env submission s answers)
    (advanced : advance submission answers s.stage = (sent, stage)) :
    Leads (step env submission) (Honest env submission) s
      { s with stage, pool := s.pool ++ sent } := by
  refine Leads.one (.client answers) ⟨truthful, trivial⟩ ?_
  rw [step_client, advanced]

theorem leads_land (pending : s.pending tx)
    (accepted : signAndSend env (tx.calls env submission.publicKey clock) s.chain = .ok chain) :
    Leads (step env submission) (Honest env submission) s
      { s with chain, landed := s.landed ++ [(tx, true)] } := by
  refine Leads.one (.land tx clock) ⟨trivial, trivial⟩ ?_
  rw [step, bind_eq_ok]
  refine ⟨⟨⟩, require_eq_ok.mpr pending, ?_⟩
  rw [accepted]
  rfl

theorem truthful_confirmed (dateNow : Nat) (bh : Blockhash)
    (asks : s.stage.asks env submission.publicKey = none) (awaits : s.stage.awaits = some tx)
    (landed : tx ∈ s.landed.map Prod.fst) : Truthful env submission s (.well dateNow bh) where
  account := by
    intro address present asked
    rw [asks] at asked
    cases asked
  resolved := by
    intro other awaits' _
    rw [awaits] at awaits'
    cases awaits'
    exact landed
  polled := by
    intro _ _ _ _ expired
    cases expired
  status := by
    intro _ _ _ reported
    cases reported

/-- The network takes the transaction that is awaited, and the flow goes on. -/
theorem leads_deliver (dateNow : Nat) (bh : Blockhash) (awaits : s.stage.awaits = some tx)
    (pending : s.pending tx) (asks : s.stage.asks env submission.publicKey = none)
    (accepted : signAndSend env (tx.calls env submission.publicKey clock) s.chain = .ok chain)
    (advanced : advance submission (.well dateNow bh) s.stage = (sent, stage)) :
    Leads (step env submission) (Honest env submission) s
      ⟨chain, stage, s.pool ++ sent, s.landed ++ [(tx, true)]⟩ :=
  (leads_land pending accepted).trans
    (leads_client _ (truthful_confirmed dateNow bh asks awaits (by simp)) advanced)

/-- Where nothing is asked for or awaited, the answers are true. -/
theorem truthful_quiet (asks : s.stage.asks env submission.publicKey = none)
    (awaits : s.stage.awaits = none) : Truthful env submission s answers where
  account := by
    intro address present asked
    rw [asks] at asked
    cases asked
  resolved := by
    intro tx awaited
    rw [awaits] at awaited
    cases awaited
  polled := by
    intro tx polls status awaited
    rw [awaits] at awaited
    cases awaited
  status := by
    intro tx status awaited
    rw [awaits] at awaited
    cases awaited

/-- An account that is asked for is reported as it is. -/
theorem truthful_account {address : Pubkey}
    (asks : s.stage.asks env submission.publicKey = some address) (awaits : s.stage.awaits = none)
    (reported : answers.accountExists = some (s.chain.accounts address).isSome) :
    Truthful env submission s answers where
  account := by
    intro other present asked told
    rw [asks] at asked
    cases asked
    rw [reported] at told
    exact (Option.some.inj told).symm
  resolved := by
    intro tx awaited
    rw [awaits] at awaited
    cases awaited
  polled := by
    intro tx polls status awaited
    rw [awaits] at awaited
    cases awaited
  status := by
    intro tx status awaited
    rw [awaits] at awaited
    cases awaited

end Steps

/-! ## Before the upload -/

/-- What has landed was signed with other blockhashes than those to come. -/
def Used (hashes : List String) (s : System World) : Prop :=
  ∀ tx ∈ s.landed.map Prod.fst, tx.recentBlockhash ∈ hashes

theorem Used.pending {hashes : List String} {s : System World} (used : Used hashes s) {tx : Signed}
    (member : tx ∈ s.pool) (fresh : tx.recentBlockhash ∉ hashes) : s.pending tx :=
  ⟨member, fun landed => fresh (used tx landed)⟩

/-- A text that is read as a root that the issuer account takes. -/
def ReadsRoot (hex : Text) : Prop := ∃ root, hexToBytes32 hex = some root ∧ root ≠ .zero

/-- The wallet has an issuer account, or it can be registered with the roots of the submission. -/
inductive Registrable (env : External Proof Address World) (submission : Submission)
    (chain : State World) : Prop where
  | registered (there : RegisteredIssuer env submission.publicKey chain)
  | unregistered (free : chain.accounts (env.issuerAddress submission.publicKey) = none)
      (apart : env.hookPayloadAddress submission.publicKey ≠
        env.issuerAddress submission.publicKey)
      (membership : ReadsRoot submission.membershipRoot)
      (sanctions : ReadsRoot submission.sanctionsRoot)
      (jurisdiction : ReadsRoot submission.jurisdictionRoot)

/-- A wallet without an issuer account gets one with the roots. -/
theorem step_registerIssuer {wallet : Pubkey} (clock : Clock) {chain : State World}
    (free : chain.accounts (env.issuerAddress wallet) = none)
    {merkleRoot sanctionsRoot jurisdictionRoot : Bytes32} (merkle : merkleRoot ≠ .zero)
    (sanctions : sanctionsRoot ≠ .zero) (jurisdiction : jurisdictionRoot ≠ .zero) :
    ∃ issuer : Issuer, issuer.authority = wallet ∧
      Program.step env chain
          ((Instruction.registerIssuer merkleRoot sanctionsRoot jurisdictionRoot).call env wallet
            clock) =
        .ok (chain.setAccount (env.issuerAddress wallet) (some (.issuer issuer))) := by
  refine ⟨⟨wallet, merkleRoot, sanctionsRoot, jurisdictionRoot, clock.slot⟩, rfl, ?_⟩
  simp only [Instruction.call, Program.step, registerHandler, RegisterIssuer.load,
    State.requireFree, requireRoots, bind_eq_ok, require_eq_ok, pure_eq_ok, exists_const]
  exact ⟨⟨trivial, free⟩, ⟨merkle, sanctions, jurisdiction⟩, trivial⟩

/-- The issuer account is there, or it is registered; the payload is left alone. -/
theorem leads_cleanup (clock : Clock) {chain : State World}
    (registrable : Registrable env submission chain) :
    ∃ s, Leads (step env submission) (Honest env submission) (.start chain) s ∧
      s.stage = .cleanupStaleHookPayload ∧ RegisteredIssuer env submission.publicKey s.chain ∧
      s.chain.accounts (env.hookPayloadAddress submission.publicKey) =
        chain.accounts (env.hookPayloadAddress submission.publicKey) ∧
      Used ["register"] s := by
  cases registrable with
  | registered there =>
    obtain ⟨issuer, found, authority⟩ := there
    refine ⟨⟨chain, .cleanupStaleHookPayload, [], []⟩, ?_, rfl, ⟨issuer, found, authority⟩, rfl, ?_⟩
    · refine leads_client { Answers.well 0 ⟨"", 0⟩ with accountExists := some true } ?_ rfl
      exact truthful_account rfl rfl (by simp [System.start, found])
    · simp [Used]
  | unregistered free apart membership sanctions jurisdiction =>
    obtain ⟨merkleRoot, readMerkle, merkle⟩ := membership
    obtain ⟨sanctionsRoot, readSanctions, sanctions⟩ := sanctions
    obtain ⟨jurisdictionRoot, readJurisdiction, jurisdiction⟩ := jurisdiction
    have built : submission.registerIssuer =
        some (.registerIssuer merkleRoot sanctionsRoot jurisdictionRoot) := by
      simp [Submission.registerIssuer, readMerkle, readSanctions, readJurisdiction]
    obtain ⟨issuer, authority, registers⟩ :=
      step_registerIssuer clock free merkle sanctions jurisdiction
    -- the transaction of the registration, and the account that it leaves
    let tx : Signed := ⟨"register", [.registerIssuer merkleRoot sanctionsRoot jurisdictionRoot]⟩
    have signed : Leads (step env submission) (Honest env submission) (.start chain)
        ⟨chain, .registering tx, [tx], []⟩ := by
      refine leads_client
        { Answers.well 0 ⟨"register", 0⟩ with accountExists := some false } ?_ ?_
      · exact truthful_account rfl rfl (by simp [System.start, free])
      · simp [System.start, advance, built, signSend, send, Answers.well, Blockhash.sign, tx]
    refine ⟨_, signed.trans (leads_deliver 0 ⟨"", 0⟩ rfl ?_ rfl (signAndSend_one registers) rfl),
      rfl, ⟨issuer, ?_, authority⟩, ?_, ?_⟩
    · simp [System.pending]
    · simp
    · simp [apart]
    · simp [Used, tx]

/-- What an earlier attempt has left is closed. -/
theorem leads_building (clock : Clock) {s : System World}
    (here : s.stage = .cleanupStaleHookPayload)
    (registered : RegisteredIssuer env submission.publicKey s.chain)
    (left : ∀ account, s.chain.accounts (env.hookPayloadAddress submission.publicKey) =
      some account → ∃ payload dataLen, account = .hookPayload payload dataLen)
    (used : Used ["register"] s) :
    ∃ s', Leads (step env submission) (Honest env submission) s s' ∧
      s'.stage = .building ∧ RegisteredIssuer env submission.publicKey s'.chain ∧
      s'.chain.accounts (env.hookPayloadAddress submission.publicKey) = none ∧
      Used ["register", "cleanup"] s' := by
  obtain ⟨chain, stage, pool, landed⟩ := s
  obtain rfl : stage = .cleanupStaleHookPayload := here
  obtain ⟨issuer, found, authority⟩ := registered
  have kept : ∀ tx ∈ landed.map Prod.fst, tx.recentBlockhash ∈ ["register", "cleanup"] :=
    fun tx earlier => List.mem_append_left ["cleanup"] (used tx earlier)
  cases there : chain.accounts (env.hookPayloadAddress submission.publicKey) with
  | none =>
    refine ⟨_, leads_client { Answers.well 0 ⟨"", 0⟩ with accountExists := some false } ?_ rfl,
      rfl, ⟨issuer, found, authority⟩, there, kept⟩
    exact truthful_account rfl rfl (by simp [there])
  | some account =>
    obtain ⟨payload, dataLen, rfl⟩ := left account there
    have distinct : env.issuerAddress submission.publicKey ≠
        env.hookPayloadAddress submission.publicKey := by
      intro same
      rw [same, there] at found
      cases found
    have closed : signAndSend env
        ((Signed.mk "cleanup" [.closeHookPayload]).calls env submission.publicKey clock) chain =
          .ok (chain.setAccount (env.hookPayloadAddress submission.publicKey) none) :=
      close_accepted rfl (State.payloads_eq_some.mpr there)
    have signed : Leads (step env submission) (Honest env submission)
        ⟨chain, .cleanupStaleHookPayload, pool, landed⟩
        ⟨chain, .closing ⟨"cleanup", [.closeHookPayload]⟩,
          pool ++ [⟨"cleanup", [.closeHookPayload]⟩], landed⟩ := by
      refine leads_client { Answers.well 0 ⟨"cleanup", 0⟩ with accountExists := some true } ?_ rfl
      exact truthful_account rfl rfl (by simp [there])
    refine ⟨_, signed.trans (leads_deliver 0 ⟨"", 0⟩ rfl ⟨by simp, ?_⟩ rfl closed rfl), rfl, ?_,
      ?_, ?_⟩
    · intro earlier
      simpa using used _ earlier
    · exact ⟨issuer, by simpa [distinct] using found, authority⟩
    · simp
    · intro tx member
      rcases mem_landed.mp member with earlier | rfl
      · exact kept tx earlier
      · simp

/-! ## Growing -/

variable {upload : Upload}

theorem signAndSend_two {s middle last : State World} {first second : Call}
    (accepted : Program.step env s first = .ok middle)
    (accepted' : Program.step env middle second = .ok last) :
    signAndSend env [first, second] s = .ok last := by
  rw [signAndSend, List.foldlM_cons, accepted]
  exact signAndSend_one accepted'

/-- One or two growths cover every proof that the program accepts. -/
theorem resizes_cases (nonempty : 0 < submission.proof.length)
    (bounded : submission.proof.length ≤ MAX_HOOK_PROOF_BYTES) :
    submission.resizes = 1 ∧ submission.proof.length ≤ MAX_REALLOC ∨
      submission.resizes = 2 ∧ MAX_REALLOC < submission.proof.length ∧
        submission.proof.length ≤ MAX_REALLOC + MAX_REALLOC := by
  rw [MAX_HOOK_PROOF_BYTES] at bounded
  simp only [Submission.resizes, MAX_REALLOC]
  omega

theorem initTxs_eq (built : Built submission upload) (bh : Blockhash) {rest : Nat}
    (resizes : submission.resizes = rest + 1) :
    upload.initTxs bh = (bh.sign [upload.initIx, .resizeHookPayload],
      List.replicate rest (bh.sign [.resizeHookPayload])) := by
  rw [Upload.initTxs, built.resizeIxs, resizes, List.replicate_succ]
  simp

theorem leads_writes (clock : Clock) {s : System World} (here : s.stage = .building)
    (registered : RegisteredIssuer env submission.publicKey s.chain)
    (free : s.chain.accounts (env.hookPayloadAddress submission.publicKey) = none)
    (used : Used ["register", "cleanup"] s) {dateNow : Nat}
    (built : submission.build dateNow = some upload) (nonempty : 0 < submission.proof.length)
    (bounded : submission.proof.length ≤ MAX_HOOK_PROOF_BYTES) :
    ∃ s', Leads (step env submission) (Honest env submission) s s' ∧
      s'.stage = .sendWritesBatch upload ∧
      Uploading env submission.publicKey (written env submission.publicKey submission.proof 0)
        (8 + BASE_SPACE + submission.proof.length) s'.chain ∧
      Used ["register", "cleanup", "init"] s' := by
  have fits := build_eq_some built
  obtain ⟨chain, stage, pool, landed⟩ := s
  obtain rfl : stage = .building := here
  obtain ⟨initialized, init, uploading⟩ := step_init registered free nonempty bounded
  have start : Uploading env submission.publicKey
      (grown env submission.publicKey submission.proof 0) (8 + BASE_SPACE + 0) initialized := by
    rwa [grown, if_neg (Nat.not_le.mpr nonempty)]
  obtain ⟨resized, resize, uploading⟩ := step_resize start bounded nonempty
  rw [Nat.zero_add] at uploading
  have first : signAndSend env ((Signed.mk "init" [upload.initIx, .resizeHookPayload]).calls env
      submission.publicKey clock) chain = .ok resized := by
    rw [Signed.calls, fits.initIx]
    exact signAndSend_two init resize
  have unused : ∀ instructions, Signed.mk "init" instructions ∉ landed.map Prod.fst := by
    intro instructions landed
    simpa using used _ landed
  -- the first transaction of the batch is sent at once
  have sent : ∀ {rest : Nat}, submission.resizes = rest + 1 →
      Leads (step env submission) (Honest env submission) ⟨chain, .building, pool, landed⟩
        ⟨chain, .sendInitResizeBatch upload ⟨"init", [upload.initIx, .resizeHookPayload]⟩
          (List.replicate rest ⟨"init", [.resizeHookPayload]⟩),
          pool ++ [⟨"init", [upload.initIx, .resizeHookPayload]⟩], landed⟩ := by
    intro rest resizes
    refine leads_client (.well dateNow ⟨"init", 0⟩) (truthful_quiet rfl rfl) ?_
    simp [advance, Answers.well, built, send, initTxs_eq fits ⟨"init", 0⟩ resizes, Blockhash.sign]
  rcases resizes_cases nonempty bounded with ⟨one, within⟩ | ⟨two, more, within⟩
  · rw [Nat.min_eq_left within] at uploading
    refine ⟨_, (sent one).trans (leads_deliver 0 ⟨"", 0⟩ rfl ⟨by simp, unused _⟩ rfl first rfl),
      rfl, (resizeLoop_full rfl uploading).2, ?_⟩
    intro tx member
    rcases mem_landed.mp member with earlier | rfl
    · exact List.mem_append_left ["init"] (used tx earlier)
    · simp
  · -- the second growth is another transaction than the first
    rw [Nat.min_eq_right more.le] at uploading
    obtain ⟨full, resize', uploading⟩ := step_resize uploading bounded more
    rw [Nat.min_eq_left within] at uploading
    have second : signAndSend env ((Signed.mk "init" [.resizeHookPayload]).calls env
        submission.publicKey clock) resized = .ok full := signAndSend_one resize'
    refine ⟨_, ((sent two).trans (leads_deliver 0 ⟨"", 0⟩ rfl ⟨by simp, unused _⟩ rfl first
      rfl)).trans (leads_deliver 0 ⟨"", 0⟩ rfl ⟨by simp, ?_⟩ rfl second rfl), rfl,
      (resizeLoop_full rfl uploading).2, ?_⟩
    · intro member
      rcases mem_landed.mp member with earlier | same
      · exact unused _ earlier
      · simp at same
    · intro tx member
      rcases mem_landed.mp member with earlier | rfl
      · rcases mem_landed.mp earlier with earlier | rfl
        · exact List.mem_append_left ["init"] (used tx earlier)
        · simp
      · simp

/-! ## Writing -/

theorem leads_land_all (clock : Clock) (txs : List Signed) {s : System World} {chain : State World}
    (pool : ∀ tx ∈ txs, tx ∈ s.pool) (distinct : txs.Nodup)
    (unused : ∀ tx ∈ txs, tx ∉ s.landed.map Prod.fst)
    (accepted : txs.foldlM (fun chain tx =>
      signAndSend env (tx.calls env submission.publicKey clock) chain) s.chain = .ok chain) :
    Leads (step env submission) (Honest env submission) s
      { s with chain, landed := s.landed ++ txs.map fun tx => (tx, true) } := by
  induction txs generalizing s with
  | nil =>
    cases accepted
    rw [List.map_nil, List.append_nil]
    exact Leads.refl s
  | cons tx rest ih =>
    rw [List.foldlM_cons, bind_eq_ok] at accepted
    obtain ⟨next, first, later⟩ := accepted
    have pending : s.pending tx := ⟨pool tx List.mem_cons_self, unused tx List.mem_cons_self⟩
    -- the rest is still on its way, since no other transaction is this one
    have onward := ih (s := { s with chain := next, landed := s.landed ++ [(tx, true)] })
      (fun other member => pool other (List.mem_cons_of_mem _ member)) distinct.of_cons
      (by
        intro other member landed
        rcases mem_landed.mp landed with earlier | rfl
        · exact unused other (List.mem_cons_of_mem _ member) earlier
        · exact (List.nodup_cons.mp distinct).1 member)
      later
    rw [List.append_assoc] at onward
    exact (leads_land pending first).trans onward

theorem chunksFrom_ge {proof : List UInt8} {size : Nat} (offset : Nat) :
    ∀ chunk ∈ chunksFrom proof size offset, offset ≤ chunk.1 := by
  induction offset using chunksFrom.induct proof size with
  | case1 offset more ih =>
    intro chunk member
    rw [chunksFrom, if_pos more, List.mem_cons] at member
    rcases member with rfl | later
    · exact Nat.le_refl _
    · have := ih chunk later
      omega
  | case2 offset past =>
    intro chunk member
    rw [chunksFrom, if_neg past] at member
    cases member

theorem chunksFrom_increasing {proof : List UInt8} {size : Nat} (offset : Nat) :
    (chunksFrom proof size offset).Pairwise fun first second => first.1 < second.1 := by
  induction offset using chunksFrom.induct proof size with
  | case1 offset more ih =>
    rw [chunksFrom, if_pos more, List.pairwise_cons]
    refine ⟨fun chunk later => ?_, ih⟩
    have := chunksFrom_ge (offset + size) chunk later
    omega
  | case2 offset past =>
    rw [chunksFrom, if_neg past]
    exact List.Pairwise.nil

theorem writeIxs_nodup (fits : submission.proof.length < 2 ^ 32) : submission.writeIxs.Nodup := by
  rw [Submission.writeIxs, List.Nodup, List.pairwise_map]
  refine (chunksFrom_increasing 0).imp_of_mem ?_
  intro first second member member' before same
  have offsets : UInt32.ofNat first.1 = UInt32.ofNat second.1 := by
    injection same
  have values := congrArg UInt32.toNat offsets
  rw [UInt32.toNat_ofNat_of_lt' ((chunksFrom_mem 0 member).1.trans fits),
    UInt32.toNat_ofNat_of_lt' ((chunksFrom_mem 0 member').1.trans fits)] at values
  omega

/-- Batches of different items are different. -/
theorem batches_nodup {α : Type} {items : List α} (distinct : items.Nodup) :
    (batches items).Nodup := by
  induction items using batches.induct with
  | case1 first second rest ih =>
    rw [batches, List.nodup_cons]
    constructor
    · intro again
      have member : first ∈ rest := by
        rw [← batches_flatten rest]
        exact List.mem_flatten.mpr ⟨_, again, List.mem_cons_self⟩
      exact (List.nodup_cons.mp distinct).1 (List.mem_cons_of_mem _ member)
    · exact ih distinct.of_cons.of_cons
  | case2 last => exact List.nodup_singleton _
  | case3 => exact List.nodup_nil

theorem sign_nodup {transactions : List (List Instruction)} (bh : Blockhash)
    (distinct : transactions.Nodup) : (transactions.map bh.sign).Nodup := by
  refine distinct.map ?_
  intro first second same
  injection same

theorem chunkSize_pos : 0 < CHUNK_SIZE.floor.toNat := by decide

/-- The transactions of the writes, one after the other, write the whole proof. -/
theorem writes_executed (clock : Clock) {chain : State World} {dataLen : Nat} (bh : Blockhash)
    (built : Built submission upload) (bounded : submission.proof.length ≤ MAX_HOOK_PROOF_BYTES)
    (uploading : Uploading env submission.publicKey
      (written env submission.publicKey submission.proof 0) dataLen chain) :
    ∃ chain', ((batches upload.writeIxs).map bh.sign).foldlM (fun chain tx =>
        signAndSend env (tx.calls env submission.publicKey clock) chain) chain = .ok chain' ∧
      Uploading env submission.publicKey
        (written env submission.publicKey submission.proof submission.proof.length) dataLen
        chain' := by
  obtain ⟨chain', writes, uploading⟩ := writes_eq_ok bounded chunkSize_pos 0
    (by rwa [Nat.zero_min])
  refine ⟨chain', ?_, uploading⟩
  have calls : ((batches upload.writeIxs).map (List.map
      (Instruction.call env submission.publicKey clock))).flatten =
        (chunksFrom submission.proof CHUNK_SIZE.floor.toNat 0).map
          (writeChunk env submission.publicKey) := by
    rw [← List.map_flatten, batches_flatten, built.writeIxs, Submission.writeIxs, List.map_map]
    rfl
  rw [← calls] at writes
  have executed := signAndSend_all _ writes
  rwa [List.foldlM_map] at executed ⊢

theorem leads_finalize (clock : Clock) {s : System World} {dataLen : Nat}
    (here : s.stage = .sendWritesBatch upload) (built : Built submission upload)
    (uploading : Uploading env submission.publicKey
      (written env submission.publicKey submission.proof 0) dataLen s.chain)
    (used : Used ["register", "cleanup", "init"] s) (nonempty : 0 < submission.proof.length)
    (bounded : submission.proof.length ≤ MAX_HOOK_PROOF_BYTES) :
    ∃ s', Leads (step env submission) (Honest env submission) s s' ∧
      s'.stage = .sendFinalize upload ∧
      Uploading env submission.publicKey
        (written env submission.publicKey submission.proof submission.proof.length) dataLen
        s'.chain ∧
      Used ["register", "cleanup", "init", "writes"] s' := by
  obtain ⟨chain, stage, pool, landed⟩ := s
  obtain rfl : stage = .sendWritesBatch upload := here
  let bh : Blockhash := ⟨"writes", 0⟩
  obtain ⟨chain', writes, uploading⟩ := writes_executed clock bh built bounded uploading
  -- there is something to write, so there is a last transaction
  obtain ⟨last, lastOf⟩ : ∃ last, ((batches upload.writeIxs).map bh.sign).getLast? = some last := by
    refine Option.isSome_iff_exists.mp (List.getLast?_isSome.mpr fun empty => ?_)
    have none : upload.writeIxs = [] := by
      rw [← batches_flatten upload.writeIxs, List.map_eq_nil_iff.mp empty, List.flatten_nil]
    rw [built.writeIxs, Submission.writeIxs, chunksFrom, if_pos ⟨nonempty, chunkSize_pos⟩] at none
    cases none
  have member := List.mem_of_getLast? lastOf
  have sent : Leads (step env submission) (Honest env submission)
      ⟨chain, .sendWritesBatch upload, pool, landed⟩
      ⟨chain, .confirmWrites upload last, pool ++ (batches upload.writeIxs).map bh.sign,
        landed⟩ := by
    refine leads_client (.well 0 bh) (truthful_quiet rfl rfl) ?_
    simp [advance, Answers.well, send, lastOf]
  have signed : ∀ tx ∈ (batches upload.writeIxs).map bh.sign, tx.recentBlockhash = "writes" := by
    intro tx among
    obtain ⟨batch, -, rfl⟩ := List.mem_map.mp among
    rfl
  have landing : Leads (step env submission) (Honest env submission)
      ⟨chain, .confirmWrites upload last, pool ++ (batches upload.writeIxs).map bh.sign, landed⟩
      ⟨chain', .confirmWrites upload last, pool ++ (batches upload.writeIxs).map bh.sign,
        landed ++ ((batches upload.writeIxs).map bh.sign).map fun tx => (tx, true)⟩ := by
    refine leads_land_all clock _ (fun tx among => List.mem_append_right _ among)
      (sign_nodup bh (batches_nodup (built.writeIxs ▸ writeIxs_nodup built.fits))) ?_ writes
    intro tx among landed
    simpa [signed tx among] using used tx landed
  refine ⟨_, (sent.trans landing).trans (leads_client _ (truthful_confirmed 0 bh rfl rfl ?_) rfl),
    rfl, uploading, ?_⟩
  · rw [List.map_append, List.mem_append, List.map_map]
    exact Or.inr (List.mem_map_of_mem member)
  · intro tx landed
    rw [List.map_append, List.mem_append, List.map_map] at landed
    rcases landed with earlier | among
    · exact List.mem_append_left ["writes"] (used tx earlier)
    · obtain ⟨other, there, rfl⟩ := List.mem_map.mp among
      rw [Function.comp, signed other there]
      simp

/-! ## The whole submission -/

theorem leads_succeeded (clock : Clock) {s : System World} {dataLen : Nat}
    (here : s.stage = .sendFinalize upload) (built : Built submission upload)
    (uploading : Uploading env submission.publicKey
      (written env submission.publicKey submission.proof submission.proof.length) dataLen s.chain)
    (used : Used ["register", "cleanup", "init", "writes"] s) {nullifierHash : Bytes32}
    (read : hexToBytes32 (submission.publicInputs.getD 1 []) = some nullifierHash)
    (named : nullifierHash ≠ .zero) (positive : 0 < submission.transferParams.amount) :
    ∃ s' tx, Leads (step env submission) (Honest env submission) s s' ∧
      s'.stage = .succeeded upload tx := by
  obtain ⟨chain, stage, pool, landed⟩ := s
  obtain rfl : stage = .sendFinalize upload := here
  obtain ⟨nullifierHash', read', finalizeIx⟩ := built.finalizeIx
  obtain rfl : nullifierHash' = nullifierHash := Option.some.inj (read'.symm.trans read)
  have amount : 0 < UInt64.ofNat submission.transferParams.amount.toNat := by
    have safe := submission.transferParams.isSafe
    have fits : submission.transferParams.amount.toNat < 2 ^ 64 := by omega
    rw [UInt64.lt_iff_toNat_lt, UInt64.toNat_ofNat_of_lt' fits]
    simpa using positive
  obtain ⟨chain', finalize, -⟩ := step_finalize uploading named amount
    submission.transferParams.mint submission.transferParams.recipient
    (.ofNat (upload.dateNow / 1000 / 86400)) DEFAULT_LIGHT_ARGS
  have executed : signAndSend env ((Signed.mk "finalize" [upload.finalizeIx]).calls env
      submission.publicKey clock) chain = .ok chain' := by
    rw [Signed.calls, finalizeIx]
    exact signAndSend_one finalize
  have sent : Leads (step env submission) (Honest env submission)
      ⟨chain, .sendFinalize upload, pool, landed⟩
      ⟨chain, .rebroadcast upload ⟨"finalize", [upload.finalizeIx]⟩ 0 none,
        pool ++ [⟨"finalize", [upload.finalizeIx]⟩], landed⟩ :=
    leads_client (.well 0 ⟨"finalize", 0⟩) (truthful_quiet rfl rfl) rfl
  have pending : System.pending
      ⟨chain, .rebroadcast upload ⟨"finalize", [upload.finalizeIx]⟩ 0 none,
        pool ++ [⟨"finalize", [upload.finalizeIx]⟩], landed⟩ ⟨"finalize", [upload.finalizeIx]⟩ :=
    ⟨by simp, fun landed => by simpa using used _ landed⟩
  refine ⟨_, _, (sent.trans (leads_land pending executed)).trans (leads_client
    { Answers.well 0 ⟨"", 0⟩ with statuses := some (some ⟨false, some .confirmed⟩) } ?_ rfl), rfl⟩
  constructor
  case account =>
    intro address present asked
    cases asked
  case resolved =>
    intro tx awaits _
    cases awaits
    simp
  case polled =>
    intro _ _ _ _ expired
    cases expired
  case status =>
    intro tx status awaits reported
    cases awaits
    cases reported
    simp

theorem leads_success (clock : Clock) {chain : State World}
    (registrable : Registrable env submission chain)
    (left : ∀ account, chain.accounts (env.hookPayloadAddress submission.publicKey) =
      some account → ∃ payload dataLen, account = .hookPayload payload dataLen)
    (nonempty : 0 < submission.proof.length)
    (bounded : submission.proof.length ≤ MAX_HOOK_PROOF_BYTES) {nullifierHash : Bytes32}
    (read : hexToBytes32 (submission.publicInputs.getD 1 []) = some nullifierHash)
    (named : nullifierHash ≠ .zero) (positive : 0 < submission.transferParams.amount)
    (dateNow : Nat) :
    ∃ s upload tx, Leads (step env submission) (Honest env submission) (.start chain) s ∧
      s.stage = .succeeded upload tx ∧ upload.dateNow = dateNow := by
  obtain ⟨upload, built⟩ : ∃ upload, submission.build dateNow = some upload := by
    have fits : submission.proof.length < 2 ^ 32 := by
      rw [MAX_HOOK_PROOF_BYTES] at bounded
      omega
    rw [Submission.build, if_pos fits, read]
    exact ⟨_, rfl⟩
  have fits := build_eq_some built
  obtain ⟨s₁, registers, cleanup, registered, same, used⟩ := leads_cleanup clock registrable
  obtain ⟨s₂, prepares, building, registered, free, used⟩ :=
    leads_building clock cleanup registered (same ▸ left) used
  obtain ⟨s₃, grown, writes, uploading, used⟩ :=
    leads_writes clock building registered free used built nonempty bounded
  obtain ⟨s₄, written, finalizes, uploading, used⟩ :=
    leads_finalize clock writes fits uploading used nonempty bounded
  obtain ⟨s₅, tx, finalized, succeeded⟩ :=
    leads_succeeded clock finalizes fits uploading used read named positive
  have prepared := registers.trans prepares
  exact ⟨s₅, upload, tx, ((prepared.trans grown).trans written).trans finalized, succeeded,
    build_dateNow built⟩

/-- For every proof that the program accepts, with a nullifier and an amount that are not zero,
whether or not the wallet has an issuer account, and whatever payload an earlier attempt has
left, there is a run of the network in which the flow reports success. -/
theorem submission_succeeds (clock : Clock) {chain : State World}
    (registrable : Registrable env submission chain)
    (left : ∀ account, chain.accounts (env.hookPayloadAddress submission.publicKey) =
      some account → ∃ payload dataLen, account = .hookPayload payload dataLen)
    (nonempty : 0 < submission.proof.length)
    (bounded : submission.proof.length ≤ MAX_HOOK_PROOF_BYTES) {nullifierHash : Bytes32}
    (read : hexToBytes32 (submission.publicInputs.getD 1 []) = some nullifierHash)
    (named : nullifierHash ≠ .zero) (positive : 0 < submission.transferParams.amount)
    (dateNow : Nat) :
    ∃ actions upload tx,
      Meets (step env submission) (Honest env submission) (.start chain) actions ∧
      (run env submission (.start chain) actions).stage = .succeeded upload tx ∧
      upload.dateNow = dateNow := by
  obtain ⟨s, upload, tx, ⟨actions, honest, rfl⟩, succeeded, builtAt⟩ :=
    leads_success clock registrable left nonempty bounded read named positive dateNow
  exact ⟨actions, upload, tx, honest, succeeded, builtAt⟩

namespace Sample

/-- The root of any of the trees. -/
def root : Bytes32 := .ofNat 5

/-- Three bytes. -/
def threeBytes : Submission where
  publicKey := Scenario.authority
  proof := [1, 2, 3]
  publicInputs := [[], toHex Scenario.nullifierHash.bytes]
  membershipRoot := toHex root.bytes
  sanctionsRoot := toHex root.bytes
  jurisdictionRoot := toHex root.bytes
  transferParams := Frontend.Sample.transfer

end Sample

theorem hexToBytes32_toHex (bytes : Bytes32) : hexToBytes32 (toHex bytes.bytes) = some bytes := by
  simp only [hexToBytes32, hexToBytes_toHex, bytes.length_eq, dif_pos]

theorem read_threeBytes : hexToBytes32 (Sample.threeBytes.publicInputs.getD 1 []) =
    some Scenario.nullifierHash := hexToBytes32_toHex _

/-- Nobody has registered the wallet. -/
theorem registrable_threeBytes : Registrable reference Sample.threeBytes (State.deployed []) :=
  have readsRoot : ReadsRoot (toHex Sample.root.bytes) :=
    ⟨Sample.root, hexToBytes32_toHex _, by decide⟩
  .unregistered rfl (by decide) readsRoot readsRoot readsRoot

theorem submission_succeeds_three : ∃ actions upload tx,
    Meets (step reference Sample.threeBytes) (Honest reference Sample.threeBytes)
      (.start (State.deployed [])) actions ∧
    (run reference Sample.threeBytes (.start (State.deployed [])) actions).stage =
      .succeeded upload tx ∧ upload.dateNow = 0 :=
  submission_succeeds ⟨0, 0⟩ registrable_threeBytes (by rintro account ⟨⟩) (by decide) (by decide)
    read_threeBytes (by decide) (by decide) 0

/-- The finalized payload of an earlier proof is still there. -/
def Sample.leftOver : State Reference.Ledger :=
  Scenario.registered.setAccount (reference.hookPayloadAddress Scenario.authority)
    (some (.hookPayload (finished reference Sdk.Sample.upload 0) (8 + BASE_SPACE + 3)))

theorem succeeded_submitted_three : ∃ actions upload tx payload dataLen,
    (run reference Sample.threeBytes (.start Sample.leftOver) actions).stage =
      .succeeded upload tx ∧
    (run reference Sample.threeBytes (.start Sample.leftOver) actions).chain.accounts
        (reference.hookPayloadAddress Scenario.authority) = some (.hookPayload payload dataLen) ∧
    Describes reference Sample.threeBytes 0 payload := by
  have registered : RegisteredIssuer reference Sample.threeBytes.publicKey Sample.leftOver :=
    ⟨_, rfl, rfl⟩
  have left : Sample.leftOver.accounts (reference.hookPayloadAddress Scenario.authority) =
      some (.hookPayload (finished reference Sdk.Sample.upload 0) (8 + BASE_SPACE + 3)) := by
    simp [Sample.leftOver]
  obtain ⟨s, upload, tx, ⟨actions, honest, rfl⟩, succeeded, builtAt⟩ :=
    leads_success ⟨0, 0⟩ (.registered registered)
      (fun account there => ⟨_, _, (Option.some.inj (left.symm.trans there)).symm⟩) (by decide)
      (by decide) read_threeBytes (by decide) (by decide) 0
  obtain ⟨payload, dataLen, found, -, describes⟩ :=
    succeeded_submitted (honest.imp fun _ _ _ both => both.1) succeeded
  rw [builtAt] at describes
  exact ⟨actions, upload, tx, payload, dataLen, succeeded, found, describes honest⟩

end ZkSettle.Frontend.Network
