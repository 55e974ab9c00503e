import ZkSettle.Frontend.Delivery

/-!
# What a reported success means

Before anything is uploaded, the flow sees that no payload of the wallet is left. From then on
only its own transactions write the payload, and the one that is reported has succeeded.
-/
namespace ZkSettle.Frontend.Network

open Checks
open ZkSettle.Program
open ZkSettle.Sdk

variable {Proof Address World : Type} {env : External Proof Address World}
  {submission : Submission} {clean : Prop}

/-! ## The invariant

What is said of the payload's chunks holds in a `clean` run only, in which nobody else writes
the payload and the closing does not fail for reasons of its own. -/

def Instruction.Prepares : Instruction → Prop
  | .registerIssuer .. | .closeHookPayload => True
  | _ => False

/-- Before the upload: of a payload that is left, the closing is awaited. -/
structure Preparing (env : External Proof Address World) (submission : Submission)
    (clean : Prop) (s : System World) : Prop where
  prepares : ∀ tx ∈ s.pool, ∀ ix ∈ tx.instructions, ix.Prepares
  awaited : ∀ tx ∈ s.pool, .closeHookPayload ∈ tx.instructions → s.stage = .closing tx
  closing : ∀ tx, s.stage = .closing tx → tx.instructions = [.closeHookPayload]
  closed : clean → ∀ tx ∈ s.landed.map Prod.fst, .closeHookPayload ∈ tx.instructions →
    s.chain.payloads (env.hookPayloadAddress submission.publicKey) = none

/-- Nothing is on its way that concerns a payload, and there is none. -/
structure Prepared (env : External Proof Address World) (submission : Submission)
    (clean : Prop) (s : System World) : Prop where
  prepares : ∀ tx ∈ s.pool, ∀ ix ∈ tx.instructions, ix.Prepares
  closed : ∀ tx ∈ s.pool, .closeHookPayload ∈ tx.instructions → tx ∈ s.landed.map Prod.fst
  absent : clean → s.chain.payloads (env.hookPayloadAddress submission.publicKey) = none

/-- What holds of the transactions of an upload at its stages. -/
def Stage.Sound (env : External Proof Address World) (submission : Submission) (clean : Prop)
    (upload : Upload) (chain : State World) : Stage → Prop
  | .sendInitResizeBatch _ _ rest => ∀ tx ∈ rest, ∀ ix ∈ tx.instructions, Harmless upload ix
  | .rebroadcast _ tx _ _ => tx.instructions = [upload.finalizeIx]
  | .succeeded _ _ => Submitted env submission upload.dateNow clean chain
  | _ => True

/-- During the upload, and after it: only the upload's own transactions are on their way. -/
structure Sending (env : External Proof Address World) (submission : Submission)
    (clean : Prop) (upload : Upload) (s : System World) : Prop where
  built : Built submission upload
  harmless : ∀ tx, s.pending tx → ∀ ix ∈ tx.instructions, Harmless upload ix
  filling : clean → Filling env submission upload.dateNow s.chain
  finalized : ∀ tx, (tx, true) ∈ s.landed → upload.finalizeIx ∈ tx.instructions →
    Submitted env submission upload.dateNow clean s.chain
  sound : s.stage.Sound env submission clean upload s.chain

inductive Phase where
  | preparing
  | prepared
  | uploading (upload : Upload)
  | ended

def Stage.phase : Stage → Phase
  | .ensureIssuerRegistered | .registering _ | .cleanupStaleHookPayload | .closing _ => .preparing
  | .building => .prepared
  | .sendInitResizeBatch upload _ _ | .sendWritesBatch upload | .confirmWrites upload _
  | .sendFinalize upload | .rebroadcast upload _ _ _ | .succeeded upload _ => .uploading upload
  | .failed _ => .ended

def Phase.Inv (env : External Proof Address World) (submission : Submission) (clean : Prop)
    (s : System World) : Phase → Prop
  | .preparing => Preparing env submission clean s
  | .prepared => Prepared env submission clean s
  | .uploading upload => Sending env submission clean upload s
  | .ended => True

/-- What lands has been handed over. -/
def System.Traced (s : System World) : Prop := ∀ tx ∈ s.landed.map Prod.fst, tx ∈ s.pool

/-! ## Transactions that prepare the upload -/

variable {chain chain' : State World} {clock : Clock} {ix : Instruction} {tx : Signed}

/-- Registering an issuer and closing a payload leave no payload that was not there. -/
theorem prepares_step (prepares : ix.Prepares)
    (absent : chain.payloads (env.hookPayloadAddress submission.publicKey) = none)
    (accepted : Program.step env chain (ix.call env submission.publicKey clock) = .ok chain') :
    chain'.payloads (env.hookPayloadAddress submission.publicKey) = none := by
  have effect := step_staged accepted
  cases ix with
  | registerIssuer merkleRoot sanctionsRoot jurisdictionRoot =>
    cases effect with
    | closes closing => cases closing
    | keeps unstaged same => rwa [same]
  | closeHookPayload =>
    cases effect with
    | closes closing closed =>
      cases closing
      apply State.payloads_none
      rw [closed, Function.update_self]
    | keeps unstaged same => rwa [same]
  | initHookPayload | resizeHookPayload | writeHookProof | finalizeHookPayload =>
    exact prepares.elim

theorem prepares_executed (prepares : ∀ ix ∈ tx.instructions, ix.Prepares)
    (absent : chain.payloads (env.hookPayloadAddress submission.publicKey) = none)
    (accepted : signAndSend env (tx.calls env submission.publicKey clock) chain = .ok chain') :
    chain'.payloads (env.hookPayloadAddress submission.publicKey) = none := by
  rw [signAndSend, mapError_eq_ok] at accepted
  refine foldlM_invariant (fun chain : State World =>
    chain.payloads (env.hookPayloadAddress submission.publicKey) = none) ?_ absent accepted
  intro call member state next absent accepted
  obtain ⟨ix, among, rfl⟩ := List.mem_map.mp member
  exact prepares_step (prepares ix among) absent accepted

/-- A payload that is there can be closed. -/
theorem close_accepted (closes : tx.instructions = [.closeHookPayload])
    {found : HookPayload × Nat}
    (there : chain.payloads (env.hookPayloadAddress submission.publicKey) = some found) :
    signAndSend env (tx.calls env submission.publicKey clock) chain =
      .ok (chain.setAccount (env.hookPayloadAddress submission.publicKey) none) := by
  obtain ⟨payload, dataLen⟩ := found
  have read : chain.hookPayload (env.hookPayloadAddress submission.publicKey) =
      .ok (payload, dataLen) := State.hookPayload_eq_ok.mpr (State.payloads_eq_some.mp there)
  rw [Signed.calls, closes]
  apply signAndSend_one
  simp only [Instruction.call, Program.step, closeHookPayloadHandler, CloseHookPayload.load, read,
    bind_eq_ok, require_eq_ok, pure_eq_ok]
  exact ⟨⟨⟩, ⟨_, rfl, trivial⟩, trivial⟩

/-- Whether closing a payload succeeds or not, there is none afterwards. -/
theorem close_executed (closes : tx.instructions = [.closeHookPayload])
    (outcome : signAndSend env (tx.calls env submission.publicKey clock) chain = .ok chain' ∨
      (∃ error, signAndSend env (tx.calls env submission.publicKey clock) chain =
        .error error) ∧ chain' = chain) :
    chain'.payloads (env.hookPayloadAddress submission.publicKey) = none := by
  cases there : chain.payloads (env.hookPayloadAddress submission.publicKey) with
  | none =>
    rcases outcome with accepted | ⟨-, rfl⟩
    · refine prepares_executed (fun ix member => ?_) there accepted
      rw [closes, List.mem_singleton] at member
      rw [member]
      trivial
    · exact there
  | some found =>
    rw [close_accepted closes there] at outcome
    rcases outcome with accepted | ⟨⟨error, refused⟩, -⟩
    · cases accepted
      simp
    · cases refused

/-! ## Steps of the chain -/

section Chain

variable {s : System World}

theorem mem_landed {entry : Signed × Bool} {other : Signed} :
    other ∈ (s.landed ++ [entry]).map Prod.fst ↔
      other ∈ s.landed.map Prod.fst ∨ other = entry.1 := by
  simp

theorem Preparing.succeed (preparing : Preparing env submission clean s) (pending : s.pending tx)
    (accepted : signAndSend env (tx.calls env submission.publicKey clock) s.chain = .ok chain) :
    Preparing env submission clean { s with chain, landed := s.landed ++ [(tx, true)] } where
  prepares := preparing.prepares
  awaited := preparing.awaited
  closing := preparing.closing
  closed := by
    intro honest other landed closes
    rcases mem_landed.mp landed with earlier | rfl
    · exact prepares_executed (preparing.prepares tx pending.1)
        (preparing.closed honest other earlier closes) accepted
    · exact close_executed (preparing.closing _ (preparing.awaited _ pending.1 closes))
        (Or.inl accepted)

theorem Preparing.fail (preparing : Preparing env submission clean s) (pending : s.pending tx)
    (refused : clean → .closeHookPayload ∈ tx.instructions →
      ∃ (clock : Clock) (error : UploadError),
        signAndSend env (tx.calls env submission.publicKey clock) s.chain = .error error) :
    Preparing env submission clean { s with landed := s.landed ++ [(tx, false)] } where
  prepares := preparing.prepares
  awaited := preparing.awaited
  closing := preparing.closing
  closed := by
    intro honest other landed closes
    rcases mem_landed.mp landed with earlier | rfl
    · exact preparing.closed honest other earlier closes
    · obtain ⟨clock, error, refused⟩ := refused honest closes
      exact close_executed (preparing.closing _ (preparing.awaited _ pending.1 closes))
        (Or.inr ⟨⟨error, refused⟩, rfl⟩)

theorem Preparing.other (preparing : Preparing env submission clean s)
    (same : clean → chain.payloads (env.hookPayloadAddress submission.publicKey) =
      s.chain.payloads (env.hookPayloadAddress submission.publicKey)) :
    Preparing env submission clean { s with chain } where
  prepares := preparing.prepares
  awaited := preparing.awaited
  closing := preparing.closing
  closed := by
    intro honest other landed closes
    exact (same honest).trans (preparing.closed honest other landed closes)

theorem Prepared.succeed (prepared : Prepared env submission clean s) (pending : s.pending tx)
    (accepted : signAndSend env (tx.calls env submission.publicKey clock) s.chain = .ok chain) :
    Prepared env submission clean { s with chain, landed := s.landed ++ [(tx, true)] } where
  prepares := prepared.prepares
  closed := fun other member closes => mem_landed.mpr (Or.inl (prepared.closed other member closes))
  absent := fun honest =>
    prepares_executed (prepared.prepares tx pending.1) (prepared.absent honest) accepted

theorem Prepared.fail (prepared : Prepared env submission clean s) :
    Prepared env submission clean { s with landed := s.landed ++ [(tx, false)] } where
  prepares := prepared.prepares
  closed := fun other member closes => mem_landed.mpr (Or.inl (prepared.closed other member closes))
  absent := prepared.absent

theorem Prepared.other (prepared : Prepared env submission clean s)
    (same : clean → chain.payloads (env.hookPayloadAddress submission.publicKey) =
      s.chain.payloads (env.hookPayloadAddress submission.publicKey)) :
    Prepared env submission clean { s with chain } where
  prepares := prepared.prepares
  closed := prepared.closed
  absent := fun honest => (same honest).trans (prepared.absent honest)

variable {upload : Upload}

/-- Fewer transactions are on their way when one has landed. -/
theorem Sending.harmless_landed (sending : Sending env submission clean upload s) (succeeded : Bool)
    (other : Signed) (pending : other ∈ s.pool ∧
      other ∉ (s.landed ++ [(tx, succeeded)]).map Prod.fst) :
    ∀ ix ∈ other.instructions, Harmless upload ix :=
  sending.harmless other ⟨pending.1, fun landed => pending.2 (mem_landed.mpr (Or.inl landed))⟩

/-- A payload that is finalized stays so. -/
theorem Stage.Sound.kept {stage : Stage} (sound : stage.Sound env submission clean upload s.chain)
    (kept : Submitted env submission upload.dateNow clean s.chain →
      Submitted env submission upload.dateNow clean chain) :
    stage.Sound env submission clean upload chain := by
  cases stage with
  | succeeded => exact kept sound
  | _ => exact sound

theorem Sending.succeed (sending : Sending env submission clean upload s) (pending : s.pending tx)
    (accepted : signAndSend env (tx.calls env submission.publicKey clock) s.chain = .ok chain) :
    Sending env submission clean upload { s with chain, landed := s.landed ++ [(tx, true)] } := by
  have harmless := sending.harmless tx pending
  have kept : Submitted env submission upload.dateNow clean s.chain →
      Submitted env submission upload.dateNow clean chain := by
    intro submitted
    rw [signAndSend, mapError_eq_ok] at accepted
    exact submitted_executed (Harmless.closes sending.built harmless) submitted accepted
  exact
    { built := sending.built
      harmless := sending.harmless_landed true
      filling := fun honest =>
        filling_executed sending.built harmless (sending.filling honest) accepted
      finalized := by
        intro other landed finalizes
        rcases List.mem_append.mp landed with earlier | new
        · exact kept (sending.finalized other earlier finalizes)
        · obtain rfl : other = tx := by simpa using new
          exact finalize_executed sending.built harmless finalizes sending.filling accepted
      sound := sending.sound.kept kept }

theorem Sending.fail (sending : Sending env submission clean upload s) :
    Sending env submission clean upload { s with landed := s.landed ++ [(tx, false)] } where
  built := sending.built
  harmless := sending.harmless_landed false
  filling := sending.filling
  finalized := by
    intro other landed finalizes
    rcases List.mem_append.mp landed with earlier | new
    · exact sending.finalized other earlier finalizes
    · simp at new
  sound := sending.sound

theorem Sending.other (sending : Sending env submission clean upload s)
    (kept : Submitted env submission upload.dateNow clean s.chain →
      Submitted env submission upload.dateNow clean chain)
    (same : clean → chain.payloads (env.hookPayloadAddress submission.publicKey) =
      s.chain.payloads (env.hookPayloadAddress submission.publicKey)) :
    Sending env submission clean upload { s with chain } where
  built := sending.built
  harmless := sending.harmless
  filling := by
    intro honest payload dataLen found
    rw [same honest] at found
    exact sending.filling honest payload dataLen found
  finalized := fun tx landed finalizes => kept (sending.finalized tx landed finalizes)
  sound := sending.sound.kept kept

variable {phase : Phase}

theorem Phase.Inv.succeed (inv : phase.Inv env submission clean s) (pending : s.pending tx)
    (accepted : signAndSend env (tx.calls env submission.publicKey clock) s.chain = .ok chain) :
    phase.Inv env submission clean { s with chain, landed := s.landed ++ [(tx, true)] } := by
  cases phase with
  | preparing => exact Preparing.succeed inv pending accepted
  | prepared => exact Prepared.succeed inv pending accepted
  | uploading upload => exact Sending.succeed inv pending accepted
  | ended => trivial

theorem Phase.Inv.fail (inv : phase.Inv env submission clean s) (pending : s.pending tx)
    (refused : clean → .closeHookPayload ∈ tx.instructions →
      ∃ (clock : Clock) (error : UploadError),
        signAndSend env (tx.calls env submission.publicKey clock) s.chain = .error error) :
    phase.Inv env submission clean { s with landed := s.landed ++ [(tx, false)] } := by
  cases phase with
  | preparing => exact Preparing.fail inv pending refused
  | prepared => exact Prepared.fail inv
  | uploading upload => exact Sending.fail inv
  | ended => trivial

theorem Phase.Inv.other (inv : phase.Inv env submission clean s)
    (kept : ∀ dateNow, Submitted env submission dateNow clean s.chain →
      Submitted env submission dateNow clean chain)
    (same : clean → chain.payloads (env.hookPayloadAddress submission.publicKey) =
      s.chain.payloads (env.hookPayloadAddress submission.publicKey)) :
    phase.Inv env submission clean { s with chain } := by
  cases phase with
  | preparing => exact Preparing.other inv same
  | prepared => exact Prepared.other inv same
  | uploading upload => exact Sending.other inv (kept upload.dateNow) same
  | ended => trivial

end Chain

/-! ## Steps of the flow -/

section Flow

variable {s : System World} {answers : Answers} {sent : List Signed} {stage : Stage}

theorem Upload.initTxs_harmless (upload : Upload) (bh : Blockhash) :
    (∀ ix ∈ (upload.initTxs bh).1.instructions, Harmless upload ix) ∧
      ∀ tx ∈ (upload.initTxs bh).2, ∀ ix ∈ tx.instructions, Harmless upload ix := by
  have among : ∀ ix ∈ upload.instructions, Harmless upload ix := by
    intro ix member
    cases ix with
    | registerIssuer => trivial
    | _ => exact member
  have init : upload.initIx ∈ upload.instructions := by simp [Upload.instructions]
  have resize : ∀ ix ∈ upload.resizeIxs, ix ∈ upload.instructions := by
    intro ix member
    simp [Upload.instructions, member]
  rw [Upload.initTxs]
  split
  next firstResize restResize resizeIxs =>
    constructor
    · intro ix member
      simp only [Blockhash.sign, List.mem_cons, List.not_mem_nil, or_false] at member
      rcases member with rfl | rfl
      · exact among _ init
      · exact among _ (resize _ (by simp [resizeIxs]))
    · intro tx later ix member
      obtain ⟨other, there, rfl⟩ := List.mem_map.mp later
      obtain rfl : ix = other := by simpa [Blockhash.sign] using member
      exact among _ (resize _ (by simp [resizeIxs, there]))
  next =>
    constructor
    · intro ix member
      obtain rfl : ix = upload.initIx := by simpa [Blockhash.sign] using member
      exact among _ init
    · intro tx later
      cases later

theorem Preparing.send (preparing : Preparing env submission clean s) (traced : s.Traced)
    (before : ∀ tx, s.stage ≠ .closing tx)
    (prepares : ∀ tx ∈ sent, ∀ ix ∈ tx.instructions, ix.Prepares)
    (awaited : ∀ tx ∈ sent, .closeHookPayload ∈ tx.instructions → stage = .closing tx)
    (closing : ∀ tx, stage = .closing tx → tx.instructions = [.closeHookPayload]) :
    Preparing env submission clean { s with stage, pool := s.pool ++ sent } where
  prepares := by
    intro tx member
    rcases List.mem_append.mp member with earlier | new
    · exact preparing.prepares tx earlier
    · exact prepares tx new
  awaited := by
    intro tx member closes
    rcases List.mem_append.mp member with earlier | new
    · exact absurd (preparing.awaited tx earlier closes) (before tx)
    · exact awaited tx new closes
  closing := closing
  closed := by
    intro _ tx landed closes
    exact absurd (preparing.awaited tx (traced tx landed) closes) (before tx)

theorem Sending.send {upload : Upload} (sending : Sending env submission clean upload s)
    (harmless : ∀ tx ∈ sent, ∀ ix ∈ tx.instructions, Harmless upload ix)
    (sound : stage.Sound env submission clean upload s.chain) :
    Sending env submission clean upload { s with stage, pool := s.pool ++ sent } where
  built := sending.built
  harmless := by
    intro tx pending
    rcases List.mem_append.mp pending.1 with earlier | new
    · exact sending.harmless tx ⟨earlier, pending.2⟩
    · exact harmless tx new
  filling := sending.filling
  finalized := sending.finalized
  sound := sound

/-- The upload begins with nothing else on its way. -/
theorem Prepared.send (prepared : Prepared env submission clean s) (traced : s.Traced)
    {upload : Upload} (built : Built submission upload)
    (harmless : ∀ tx ∈ sent, ∀ ix ∈ tx.instructions, Harmless upload ix)
    (sound : stage.Sound env submission clean upload s.chain) :
    Sending env submission clean upload { s with stage, pool := s.pool ++ sent } where
  built := built
  harmless := by
    intro tx pending ix member
    rcases List.mem_append.mp pending.1 with earlier | new
    · have prepares := prepared.prepares tx earlier ix member
      cases ix with
      | registerIssuer => trivial
      | closeHookPayload => exact absurd (prepared.closed tx earlier member) pending.2
      | _ => exact prepares.elim
    · exact harmless tx new ix member
  filling := by
    intro honest payload dataLen found
    rw [prepared.absent honest] at found
    cases found
  finalized := by
    intro tx landed finalizes
    obtain ⟨nullifierHash, -, finalize⟩ := built.finalizeIx
    have prepares := prepared.prepares tx (traced tx (List.mem_map_of_mem landed)) _ finalizes
    rw [finalize] at prepares
    exact prepares.elim
  sound := sound

theorem writes_harmless (upload : Upload) (bh : Blockhash) :
    ∀ tx ∈ (batches upload.writeIxs).map bh.sign, ∀ ix ∈ tx.instructions, Harmless upload ix := by
  intro tx member ix within
  obtain ⟨batch, there, rfl⟩ := List.mem_map.mp member
  have among : ix ∈ upload.writeIxs := by
    rw [← batches_flatten upload.writeIxs]
    exact List.mem_flatten.mpr ⟨batch, there, within⟩
  have listed : ix ∈ upload.instructions := by simp [Upload.instructions, among]
  cases ix with
  | registerIssuer => trivial
  | _ => exact listed

theorem finalize_harmless {upload : Upload} (bh : Blockhash) :
    ∀ tx ∈ [bh.sign [upload.finalizeIx]], ∀ ix ∈ tx.instructions, Harmless upload ix := by
  intro tx member ix within
  obtain rfl := List.mem_singleton.mp member
  obtain rfl := List.mem_singleton.mp within
  have listed : upload.finalizeIx ∈ upload.instructions := by simp [Upload.instructions]
  cases finalize : upload.finalizeIx with
  | registerIssuer => trivial
  | _ =>
    rw [finalize] at listed
    exact listed

/-- How the flow goes on keeps the invariant. -/
theorem advanced_inv (truthful : Truthful env submission s answers) (traced : s.Traced)
    (inv : s.stage.phase.Inv env submission clean s)
    (advanced : Advanced submission answers s.stage sent stage) :
    stage.phase.Inv env submission clean { s with stage, pool := s.pool ++ sent } := by
  -- the stage is put in place of the field, so that its facts are read off
  generalize here : s.stage = before at advanced inv
  have quiet : (∀ tx, before ≠ .closing tx) → ∀ tx, s.stage ≠ .closing tx := by
    rw [here]
    exact id
  cases advanced with
  | registered =>
    exact Preparing.send inv traced (quiet (by simp)) (by simp) (by simp) (by simp)
  | register built =>
    refine Preparing.send inv traced (quiet (by simp)) ?_ ?_ (by simp)
    · intro tx member ix within
      obtain rfl := List.mem_singleton.mp member
      obtain rfl := List.mem_singleton.mp within
      simp only [Submission.registerIssuer, Option.bind_eq_bind, Option.bind_eq_some_iff] at built
      obtain ⟨_, -, _, -, _, -, same⟩ := built
      cases same
      trivial
    · intro tx member closes
      obtain rfl := List.mem_singleton.mp member
      simp only [Submission.registerIssuer, Option.bind_eq_bind, Option.bind_eq_some_iff] at built
      obtain ⟨_, -, _, -, _, -, same⟩ := built
      cases same
      simp [Blockhash.sign] at closes
  | issuer =>
    exact Preparing.send inv traced (quiet (by simp)) (by simp) (by simp) (by simp)
  | fresh absent =>
    have none : s.chain.accounts (env.hookPayloadAddress submission.publicKey) = none := by
      have reported := truthful.account _ false (by rw [here]; rfl) absent
      simpa using reported.symm
    exact
      { prepares := by simpa using inv.prepares
        closed := by
          intro tx member closes
          have awaited := inv.awaited tx (by simpa using member) closes
          rw [here] at awaited
          cases awaited
        absent := fun _ => State.payloads_none none }
  | close =>
    refine Preparing.send inv traced (quiet (by simp)) ?_ ?_ ?_
    · intro tx member ix within
      obtain rfl := List.mem_singleton.mp member
      obtain rfl := List.mem_singleton.mp within
      trivial
    · intro tx member closes
      obtain rfl := List.mem_singleton.mp member
      rfl
    · intro tx same
      cases same
      rfl
  | @closed tx confirmed =>
    have landed : tx ∈ s.landed.map Prod.fst := truthful.confirmed (by rw [here]; rfl) confirmed
    exact
      { prepares := by simpa using inv.prepares
        closed := by
          intro other member closes
          have awaited := inv.awaited other (by simpa using member) closes
          rw [here] at awaited
          cases awaited
          exact landed
        absent := fun honest => inv.closed honest tx landed (by rw [inv.closing tx here]; simp) }
  | @init upload bh built =>
    have harmless := upload.initTxs_harmless bh
    refine Prepared.send inv traced (build_eq_some built) ?_ harmless.2
    intro tx member
    rw [List.mem_singleton.mp member]
    exact harmless.1
  | @resize upload tx next rest =>
    have sound := inv.sound
    rw [here] at sound
    refine Sending.send inv ?_ fun other member => sound other (List.mem_cons_of_mem _ member)
    intro other member
    rw [List.mem_singleton.mp member]
    exact sound next List.mem_cons_self
  | resized => exact Sending.send inv (by simp) trivial
  | @write upload bh => exact Sending.send inv (writes_harmless upload bh) trivial
  | @unwritten upload bh => exact Sending.send inv (writes_harmless upload bh) trivial
  | written => exact Sending.send inv (by simp) trivial
  | @finalize upload bh => exact Sending.send inv (finalize_harmless bh) rfl
  | @landed upload tx height deadline succeeded =>
    have sound := inv.sound
    rw [here] at sound
    refine Sending.send inv (by simp) (inv.finalized tx ?_ ?_)
    · exact truthful.finalized (by rw [here]; rfl) succeeded
    · rw [sound]
      exact List.mem_singleton_self _
  | @again upload tx height deadline deadline' sent same =>
    have sound := inv.sound
    rw [here] at sound
    have instructions : tx.instructions = [upload.finalizeIx] := sound
    refine Sending.send inv ?_ instructions
    intro other member ix within
    rw [same other member, instructions] at within
    exact finalize_harmless ⟨"", 0⟩ _ (List.mem_singleton_self _) ix within
  | stays =>
    have sound := inv.sound
    rw [here] at sound
    exact Sending.send inv (by simp) sound

end Flow

/-! ## Runs -/

structure System.Safe (env : External Proof Address World) (submission : Submission)
    (clean : Prop) (s : System World) : Prop where
  inv : s.stage.phase.Inv env submission clean s
  traced : s.Traced

theorem safe_start (chain : State World) : System.Safe env submission clean (.start chain) where
  inv :=
    { prepares := by simp [System.start]
      awaited := by simp [System.start]
      closing := by simp [System.start]
      closed := by simp [System.start] }
  traced := by simp [System.Traced, System.start]

theorem System.Traced.land {s : System World} (traced : s.Traced) (pending : s.pending tx)
    (chain : State World) (succeeded : Bool) :
    System.Traced { s with chain, landed := s.landed ++ [(tx, succeeded)] } := by
  intro other landed
  rcases mem_landed.mp landed with earlier | rfl
  · exact traced other earlier
  · exact pending.1

/-- The step of the flow itself always goes through. -/
theorem step_client (s : System World) (answers : Answers) :
    step env submission s (.client answers) = .ok
      { s with
        stage := (advance submission answers s.stage).2
        pool := s.pool ++ (advance submission answers s.stage).1 } := rfl

theorem step_safe {s next : System World} {action : Action} (safe : s.Safe env submission clean)
    (undisturbed : Undisturbed env submission s action)
    (spares : clean → action.Spares env submission)
    (accepted : step env submission s action = .ok next) : next.Safe env submission clean := by
  obtain ⟨inv, traced⟩ := safe
  cases action with
  | client answers =>
    rw [step_client] at accepted
    obtain rfl := Except.ok.inj accepted
    refine ⟨?_, fun tx landed => List.mem_append_left _ (traced tx landed)⟩
    rcases advance_goesOn submission answers s.stage with ⟨failure, failed⟩ | advanced
    · rw [failed]
      trivial
    · exact advanced_inv undisturbed traced inv advanced
  | land tx clock =>
    rw [step, bind_eq_ok] at accepted
    obtain ⟨_, required, accepted⟩ := accepted
    have pending := require_eq_ok.mp required
    split at accepted
    next chain executed =>
      obtain rfl := pure_eq_ok.mp accepted
      exact ⟨inv.succeed pending executed, traced.land pending chain true⟩
    next error refused =>
      obtain rfl := pure_eq_ok.mp accepted
      exact ⟨inv.fail pending fun _ _ => ⟨clock, error, refused⟩, traced.land pending _ false⟩
  | abort tx =>
    rw [step, bind_eq_ok] at accepted
    obtain ⟨_, required, accepted⟩ := accepted
    have pending := require_eq_ok.mp required
    obtain rfl := pure_eq_ok.mp accepted
    exact ⟨inv.fail pending fun honest closes => absurd closes (spares honest),
      traced.land pending _ false⟩
  | other transaction =>
    rw [step, bind_eq_ok] at accepted
    obtain ⟨chain, executed, accepted⟩ := accepted
    obtain rfl := pure_eq_ok.mp accepted
    refine ⟨inv.other ?_ fun honest => other_executed (spares honest) executed, traced⟩
    intro dateNow submitted
    rw [signAndSend, mapError_eq_ok] at executed
    exact submitted_executed undisturbed submitted executed

/-- When the flow reports success, and from then on, the wallet's payload is finalized with
what the form says, whatever has been lost, delayed, reordered, refused or aborted on the way,
and whatever earlier attempts have left or still have on their way but closings. If nobody else
has written the payload, and the closing was not aborted, it also holds the whole proof: the
flow does not look at whether the closing has failed. -/
theorem succeeded_submitted {chain : State World} {actions : List Action}
    (undisturbed : Transactional.Meets (step env submission) (Undisturbed env submission)
      (.start chain) actions) {upload : Upload} {tx : Signed}
    (succeeded : (run env submission (.start chain) actions).stage = .succeeded upload tx) :
    ∃ payload dataLen,
      (run env submission (.start chain) actions).chain.accounts
          (env.hookPayloadAddress submission.publicKey) = some (.hookPayload payload dataLen) ∧
        Finalizes submission upload.dateNow payload ∧
        (Transactional.Meets (step env submission) (Honest env submission) (.start chain)
          actions → Describes env submission upload.dateNow payload) := by
  generalize honestly : Transactional.Meets (step env submission) (Honest env submission)
    (.start chain) actions = clean
  -- in a run that is not honest nothing is asked of the actions
  have guarded : Transactional.Meets (step env submission)
      (fun s action => Undisturbed env submission s action ∧
        (clean → action.Spares env submission)) (.start chain) actions := by
    by_cases honest : clean
    · rw [← honestly] at honest
      exact honest.imp fun _ _ _ both => ⟨both.1, fun _ => both.2⟩
    · exact undisturbed.imp fun _ _ _ each => ⟨each, fun yes => absurd yes honest⟩
  have safe : (run env submission (.start chain) actions).Safe env submission clean :=
    Transactional.run_invariant_of_meets
      (fun _ _ _ safe both accepted => step_safe safe both.1 both.2 accepted) _ _ guarded
      (safe_start chain)
  have inv := safe.inv
  rw [succeeded] at inv
  have sound := inv.sound
  rw [succeeded] at sound
  obtain ⟨payload, dataLen, found, finalizes, describes⟩ := sound
  exact ⟨payload, dataLen, State.payloads_eq_some.mp found, finalizes, describes⟩

end ZkSettle.Frontend.Network
