import ZkSettle.Program.System

/-!
# What an accepted call does

A call that settles has passed the guards and has been through `settle_core`; every
other call prepares: it emits no settlement, and a payload that it finalizes has been
checked. Both facts are proved once for each instruction, and the invariants follow.
-/
namespace ZkSettle.Program

open Checks

variable {Proof Address World : Type} {env : External Proof Address World}

/-! ## Staged payloads -/

theorem FinalizedPayloadsValid.of_accounts {s s' : State World} (valid : FinalizedPayloadsValid s)
    (same : s'.accounts = s.accounts) : FinalizedPayloadsValid s' := by
  intro address payload dataLen found
  rw [same] at found
  exact valid address payload dataLen found

theorem FinalizedPayloadsValid.setAccount {s : State World} (valid : FinalizedPayloadsValid s)
    {address : Pubkey} {account : Option ProgramAccount}
    (validated : ∀ payload dataLen, account = some (.hookPayload payload dataLen) →
      payload.finalized = true → payload.nullifierHash ≠ .zero ∧ 0 < payload.amount) :
    FinalizedPayloadsValid (s.setAccount address account) := by
  intro other payload dataLen found
  by_cases same : other = address
  · rw [State.setAccount_accounts, same, Function.update_self] at found
    exact validated payload dataLen found
  · rw [State.setAccount_accounts, Function.update_of_ne same] at found
    exact valid other payload dataLen found

theorem modifyHookPayload_unfinalized {s : State World} {accounts : HookPayloadAccounts}
    {found : HookPayload × Nat} (loaded : ModifyHookPayload.load env accounts s = .ok found) :
    found.1.finalized = false := by
  simp only [ModifyHookPayload.load, bind_eq_ok, require_eq_ok, pure_eq_ok] at loaded
  obtain ⟨_, -, _, -, _, -, _, -, _, unfinalized, rfl⟩ := loaded
  exact unfinalized

/-! ## Settlements -/

/-- A settlement ends with the state of `settle_core`, or with a token minted after it. -/
def EndsAfter (env : External Proof Address World) (s₁ s' : State World) : Prop :=
  s' = s₁ ∨ Minted env s₁ s'

theorem EndsAfter.events {s₁ s' : State World} (ends : EndsAfter env s₁ s') :
    s'.events = s₁.events := by
  rcases ends with rfl | ⟨mint, world, -, rfl⟩
  · rfl
  · rfl

theorem EndsAfter.accounts {s₁ s' : State World} (ends : EndsAfter env s₁ s') :
    s'.accounts = s₁.accounts := by
  rcases ends with rfl | ⟨mint, world, -, rfl⟩
  · rfl
  · rfl

theorem EndsAfter.moves {s₁ s' : State World} (ends : EndsAfter env s₁ s') :
    Moves env s₁.world s'.world := by
  rcases ends with rfl | ⟨mint, world, minted, rfl⟩
  · exact .refl _
  · exact .mintV1 mint minted (.refl _)

theorem settleCore_accounts {s s' : State World} {params : SettlementParams}
    (accepted : settleCore env s params = .ok s') : s'.accounts = s.accounts := by
  obtain ⟨tree, world, -, -, -, rfl⟩ := (settleCore_eq_ok env).mp accepted
  rfl

theorem settleCore_events {s s' : State World} {params : SettlementParams}
    (accepted : settleCore env s params = .ok s') :
    s'.events = s.events ++ [.proofSettled params.event] := by
  obtain ⟨tree, world, -, -, -, rfl⟩ := (settleCore_eq_ok env).mp accepted
  rfl

theorem validateSettlementGuards_eq_ok {payloadMint payloadRecipient actualMint
    actualDestination : Pubkey} {payloadAmount payloadEpoch actualAmount issuerRootSlot
    currentSlot : UInt64} {unixTimestamp : Int64} {u : Unit} :
    validateSettlementGuards payloadMint payloadRecipient payloadAmount payloadEpoch actualMint
        actualDestination actualAmount issuerRootSlot currentSlot unixTimestamp = .ok u ↔
      0 < actualAmount ∧ payloadMint = actualMint ∧ payloadRecipient = actualDestination ∧
        payloadAmount = actualAmount ∧
        currentSlot.toNat - issuerRootSlot.toNat ≤ MAX_ROOT_AGE_SLOTS ∧
        validateEpoch unixTimestamp payloadEpoch = .ok u := by
  simp only [validateSettlementGuards, bind_eq_ok, require_eq_ok, exists_const]

/-- What `run_settlement` has checked before it calls `settle_core`. -/
structure StagedChecks (env : External Proof Address World) (clock : Clock)
    (sctx : SettlementContext) (timestamp : UInt64) : Prop where
  finalized : sctx.payload.finalized = true
  mint : sctx.payload.mint = sctx.mintKey
  recipient : sctx.payload.recipient = sctx.destinationKey
  fresh : clock.slot.toNat - sctx.issuer.rootSlot.toNat ≤ MAX_ROOT_AGE_SLOTS
  epoch : validateEpoch clock.unixTimestamp sctx.payload.epoch = .ok ()
  computed : epochTimestamp sctx.payload.epoch = .ok timestamp
  verified : verifyBundle env sctx.payload.proofAndWitness (sctx.bindings timestamp) = .ok ()

theorem runSettlement_ok {s s' : State World} {clock : Clock} {sctx : SettlementContext}
    (accepted : runSettlement env s clock sctx = .ok s') :
    ∃ timestamp validityProof s₁, StagedChecks env clock sctx timestamp ∧
      settleCore env s (sctx.params clock timestamp validityProof) = .ok s₁ ∧
      EndsAfter env s₁ s' := by
  simp only [runSettlement, bind_eq_ok, require_eq_ok, validateSettlementGuards_eq_ok] at accepted
  obtain ⟨_, finalized, _, ⟨-, mint, recipient, -, fresh, epoch⟩, timestamp, computed, _, verified,
    validityProof, -, s₁, core, token⟩ := accepted
  have checks : StagedChecks env clock sctx timestamp :=
    ⟨finalized, mint, recipient, fresh, epoch, computed, verified⟩
  refine ⟨timestamp, validityProof, s₁, checks, core, ?_⟩
  -- the three ways to mint the attestation token: not at all, from the tail, named
  split at token
  · exact Or.inl (pure_eq_ok.mp token).symm
  · exact Or.inr (cpiMintFromRemainingTail_minted env token)
  · exact Or.inr (cpiMintComplianceAttestation_minted env token)

/-- A staged settlement passes the guards when the staged arguments were validated. -/
theorem StagedChecks.guarded {s : State World} {clock : Clock} {sctx : SettlementContext}
    {timestamp : UInt64} (checks : StagedChecks env clock sctx timestamp)
    (found : s.accounts sctx.issuerKey = some (.issuer sctx.issuer))
    (valid : sctx.payload.finalized = true →
      sctx.payload.nullifierHash ≠ .zero ∧ 0 < sctx.payload.amount)
    (validityProof : ValidityProof) :
    Guarded env s clock sctx.payload.proofAndWitness
      (sctx.params clock timestamp validityProof).event := by
  obtain ⟨nonzero, positive⟩ := valid checks.finalized
  constructor
  case nullifier => exact nonzero
  case amount => exact positive
  case issuer => exact ⟨sctx.issuer, found, checks.fresh, rfl, rfl, rfl⟩
  case slot => rfl
  case epoch => exact (validateEpoch_eq_ok (u := ())).mp checks.epoch
  case timestamp => exact epochTimestamp_toNat checks.computed
  case verified =>
    -- the event names the live mint and destination, which are the staged ones
    have bindings : (sctx.params clock timestamp validityProof).event.bindings =
        sctx.bindings timestamp := by
      simp only [ProofSettled.bindings, SettlementParams.event, SettlementContext.params,
        SettlementContext.bindings, checks.mint, checks.recipient]
    rw [bindings]
    exact (verifyBundle_eq_ok env (u := ())).mp checks.verified

theorem runSettlement_accounts {s s' : State World} {clock : Clock} {sctx : SettlementContext}
    (accepted : runSettlement env s clock sctx = .ok s') : s'.accounts = s.accounts := by
  obtain ⟨timestamp, validityProof, s₁, -, core, ends⟩ := runSettlement_ok accepted
  rw [ends.accounts, settleCore_accounts core]

theorem runSettlement_event {s s' : State World} {clock : Clock} {sctx : SettlementContext}
    (accepted : runSettlement env s clock sctx = .ok s') : ∃ timestamp validityProof,
      s'.events =
        s.events ++ [.proofSettled (sctx.params clock timestamp validityProof).event] := by
  obtain ⟨timestamp, validityProof, s₁, -, core, ends⟩ := runSettlement_ok accepted
  exact ⟨timestamp, validityProof, by rw [ends.events, settleCore_events core]⟩

theorem handler_settled {s s' : State World} {clock : Clock} {accounts : VerifyProof}
    {args : VerifyProofArgs} {remaining : List AccountInfo}
    (accepted : handler env s clock accounts args remaining = .ok s') :
    s'.accounts = s.accounts ∧
      ∃ params, Settled env s (.verifyProof clock accounts args remaining) s' params := by
  simp only [handler, VerifyProof.load, bind_eq_ok, pure_eq_ok, require_eq_ok,
    State.issuer_eq_ok, validateEpoch_eq_ok, verifyBundle_eq_ok] at accepted
  obtain ⟨issuer, ⟨_, found, _, -, _, -, _, fresh, _, -, rfl⟩, _, nonzero, _, positive, _, -, _,
    epoch, timestamp, computed, _, verified, s₁, core, minted⟩ := accepted
  have ends : EndsAfter env s₁ s' := Or.inr (cpiMintComplianceAttestation_minted env minted)
  refine ⟨by rw [ends.accounts, settleCore_accounts core],
    args.params accounts _ clock timestamp remaining, rfl, ⟨_, rfl, rfl, rfl, rfl, ?_⟩, s₁, core,
    ends.events, ends.moves⟩
  exact
    { nullifier := nonzero
      amount := positive
      issuer := ⟨_, found, fresh, rfl, rfl, rfl⟩
      slot := rfl
      epoch := epoch
      timestamp := epochTimestamp_toNat computed
      verified := verified }

theorem settleHookHandler_settled {s s' : State World} {clock : Clock} {accounts : SettleHook}
    {amount : UInt64} {remaining : List AccountInfo} (valid : FinalizedPayloadsValid s)
    (accepted : settleHookHandler env s clock accounts amount remaining = .ok s') :
    s'.accounts = Function.update s.accounts accounts.hookPayload none ∧
      ∃ params, Settled env s (.settleHook clock accounts amount remaining) s' params := by
  simp only [settleHookHandler, SettleHook.load, bind_eq_ok, pure_eq_ok,
    State.issuer_eq_ok] at accepted
  obtain ⟨⟨payload, issuer, registry⟩, ⟨_, -, ⟨staged, dataLen⟩, read, _, found, _, -, _, -, _, -,
    _, -, _, -, _, -, _, -, same⟩, s₂, settled, rfl⟩ := accepted
  cases same
  obtain ⟨timestamp, validityProof, s₁, checks, core, ends⟩ := runSettlement_ok settled
  have guarded := checks.guarded found (valid _ _ _ (State.hookPayload_eq_ok.mp read))
    validityProof
  have about : (Call.settleHook clock accounts amount remaining).settlement env s = some
      { clock
        bundle := staged.proofAndWitness
        issuer := accounts.issuer
        nullifierHash := staged.nullifierHash
        addressTree :=
          env.getTreePubkey staged.lightArgs.toTreeInfo accounts.authority remaining } := by
    simp only [Call.settlement, read]
  refine ⟨?_, _, rfl, ⟨_, about, rfl, rfl, rfl, guarded⟩, s₁, core, ends.events, ends.moves⟩
  -- the settlement leaves the accounts alone, and the payload is closed after it
  rw [State.setAccount_accounts, runSettlement_accounts settled]

theorem executeHookHandler_settled {s s' : State World} {clock : Clock}
    {accounts : ExecuteHook} {amount : UInt64} {remaining : List AccountInfo}
    (valid : FinalizedPayloadsValid s)
    (accepted : executeHookHandler env s clock accounts amount remaining = .ok s') :
    s'.accounts = s.accounts ∧
      ∃ params, Settled env s (.transferHook clock accounts amount remaining) s' params := by
  simp only [executeHookHandler, ExecuteHook.load, bind_eq_ok, pure_eq_ok,
    State.issuer_eq_ok] at accepted
  obtain ⟨⟨payload, issuer, registry⟩, ⟨⟨staged, dataLen⟩, read, _, found, _, -, _, -, _, -, _, -,
    _, -, _, -, _, -, same⟩, _, -, ⟨lightRem, bubblegumMint⟩, split, settled⟩ := accepted
  cases same
  obtain ⟨timestamp, validityProof, s₁, checks, core, ends⟩ := runSettlement_ok settled
  have guarded := checks.guarded found (valid _ _ _ (State.hookPayload_eq_ok.mp read))
    validityProof
  have about : (Call.transferHook clock accounts amount remaining).settlement env s = some
      { clock
        bundle := staged.proofAndWitness
        issuer := accounts.issuer
        nullifierHash := staged.nullifierHash
        addressTree :=
          env.getTreePubkey staged.lightArgs.toTreeInfo accounts.owner lightRem } := by
    simp only [Call.settlement, read, split]
  exact ⟨runSettlement_accounts settled, _, rfl, ⟨_, about, rfl, rfl, rfl, guarded⟩, s₁, core,
    ends.events, ends.moves⟩

/-! ## Preparations -/

/-- The call is quiet, and a payload that it finalizes has been validated. -/
structure Prepares (env : External Proof Address World) (s s' : State World) : Prop where
  quiet : Quiet env s s'
  valid : FinalizedPayloadsValid s → FinalizedPayloadsValid s'

theorem Prepares.refl (s : State World) : Prepares env s s where
  quiet := ⟨Or.inl rfl, .refl _⟩
  valid := id

theorem Prepares.setAccount {s : State World} {address : Pubkey}
    {account : Option ProgramAccount}
    (validated : ∀ payload dataLen, account = some (.hookPayload payload dataLen) →
      payload.finalized = true → payload.nullifierHash ≠ .zero ∧ 0 < payload.amount) :
    Prepares env s (s.setAccount address account) where
  quiet := ⟨Or.inl rfl, .refl _⟩
  valid := fun valid => valid.setAccount validated

/-- A payload that is not finalized may be stored. -/
theorem Prepares.setUnfinalized {s : State World} {address : Pubkey} {payload : HookPayload}
    {dataLen : Nat} (unfinalized : payload.finalized = false) :
    Prepares env s (s.setAccount address (some (.hookPayload payload dataLen))) := by
  apply Prepares.setAccount
  intro stored storedLen same finalized
  cases same
  rw [unfinalized] at finalized
  cases finalized

theorem checkHandler_prepares {s s' : State World} {clock : Clock} {accounts : CheckAttestation}
    {nullifierHash : Bytes32} {validityProof : ValidityProof} {attestationMeta : List UInt8}
    {attestation : CompressedAttestation} {remaining : List AccountInfo}
    (accepted : checkHandler env s clock accounts nullifierHash validityProof attestationMeta
      attestation remaining = .ok s') : Prepares env s s' := by
  simp only [checkHandler, bind_eq_ok, okOr_eq_ok, pure_eq_ok] at accepted
  obtain ⟨_, -, _, validated, trees, -, readOnly, found, s₁, invoked, rfl⟩ := accepted
  obtain ⟨world, call, rfl⟩ := lightInvoke_eq_ok env invoked
  -- the only account of the call is the one that was read
  refine ⟨⟨Or.inr ⟨_, ?_, rfl⟩, .lightInvoke _ ?_ call (.refl _)⟩,
    fun valid => valid.of_accounts rfl⟩
  · exact ⟨attestation, attestationMeta, trees, readOnly, _, world, validated, found,
      List.mem_singleton_self readOnly, call⟩
  · intro account member
    rw [List.mem_singleton.mp member]
    exact ⟨attestationMeta, .attestation attestation, trees, found⟩

theorem initHandler_prepares {s s' : State World} {accounts : InitAttestationTree}
    (accepted : initHandler env s accounts = .ok s') : Prepares env s s' := by
  simp only [initHandler, bind_eq_ok, okOr_eq_ok, pure_eq_ok] at accepted
  obtain ⟨_, -, _, -, _, -, _, -, world, created, rfl⟩ := accepted
  refine ⟨⟨Or.inl rfl, .createTreeConfig _ created (.refl _)⟩, fun valid => ?_⟩
  exact (valid.of_accounts rfl).setAccount (by simp)

theorem resizeHookPayloadHandler_prepares {s s' : State World} {accounts : HookPayloadAccounts}
    (accepted : resizeHookPayloadHandler env s accounts = .ok s') : Prepares env s s' := by
  simp only [resizeHookPayloadHandler, bind_eq_ok] at accepted
  obtain ⟨⟨payload, dataLen⟩, loaded, resized⟩ := accepted
  have unfinalized : payload.finalized = false := modifyHookPayload_unfinalized loaded
  split at resized
  · rw [← pure_eq_ok.mp resized]
    exact .refl s
  · rw [← pure_eq_ok.mp resized]
    -- with or without the proof vector, the payload is still not finalized
    apply Prepares.setUnfinalized
    split
    · exact unfinalized
    · exact unfinalized

/-- The calls that emit `ProofSettled`. -/
def Call.Settles : Call → Prop
  | .verifyProof .. | .settleHook .. | .transferHook .. => True
  | _ => False

/-- Only `finalize_hook_payload` finalizes, after it has checked its arguments. -/
theorem step_prepares {s s' : State World} {call : Call}
    (accepted : step env s call = .ok s') (silent : ¬ call.Settles) : Prepares env s s' := by
  cases call with
  | verifyProof => exact absurd trivial silent
  | settleHook => exact absurd trivial silent
  | transferHook => exact absurd trivial silent
  -- what remains writes one account: an issuer, a payload not yet final, or one that is valid
  | initAttestationTree accounts => exact initHandler_prepares accepted
  | checkAttestation => exact checkHandler_prepares accepted
  | resizeHookPayload accounts => exact resizeHookPayloadHandler_prepares accepted
  | elsewhere transaction =>
    cases accepted
    exact ⟨⟨Or.inl rfl, .elsewhere transaction (.refl _)⟩, fun valid => valid.of_accounts rfl⟩
  | registerIssuer clock accounts merkleRoot sanctionsRoot jurisdictionRoot =>
    simp only [step, registerHandler, bind_eq_ok, pure_eq_ok] at accepted
    obtain ⟨_, -, _, -, rfl⟩ := accepted
    exact .setAccount (by simp)
  | updateIssuerRoot clock accounts merkleRoot sanctionsRoot jurisdictionRoot =>
    simp only [step, updateHandler, bind_eq_ok, pure_eq_ok] at accepted
    obtain ⟨_, -, _, -, rfl⟩ := accepted
    exact .setAccount (by simp)
  | initHookPayload accounts expectedProofLen =>
    simp only [step, initHookPayloadHandler, bind_eq_ok, pure_eq_ok] at accepted
    obtain ⟨_, -, _, -, rfl⟩ := accepted
    exact .setUnfinalized rfl
  | writeHookProof accounts offset chunk =>
    simp only [step, writeHookProofHandler, bind_eq_ok, pure_eq_ok] at accepted
    obtain ⟨_, loaded, _, -, _, -, _, -, _, -, rfl⟩ := accepted
    exact .setUnfinalized (modifyHookPayload_unfinalized loaded)
  | finalizeHookPayload accounts nullifierHash mint epoch recipient amount lightArgs =>
    simp only [step, finalizeHookPayloadHandler, validateFinalizeInputs, bind_eq_ok,
      require_eq_ok, pure_eq_ok] at accepted
    obtain ⟨_, -, _, ⟨_, nonzero, positive⟩, _, -, rfl⟩ := accepted
    apply Prepares.setAccount
    intro payload dataLen same _
    cases same
    exact ⟨nonzero, positive⟩
  | initExtraAccountMetaList accounts extras =>
    simp only [step, initExtraAccountMetaListHandler, bind_eq_ok, pure_eq_ok] at accepted
    obtain ⟨_, -, _, -, _, -, _, -, _, -, rfl⟩ := accepted
    exact .setAccount (by simp)
  | closeHookPayload accounts =>
    simp only [step, closeHookPayloadHandler, bind_eq_ok, pure_eq_ok] at accepted
    obtain ⟨_, -, rfl⟩ := accepted
    exact .setAccount (by simp)

/-! ## Steps and runs -/

/-- Every accepted call is quiet or has settled. -/
theorem step_quiet_or_settled {s s' : State World} {call : Call}
    (valid : FinalizedPayloadsValid s) (accepted : step env s call = .ok s') :
    Quiet env s s' ∨ ∃ params, Settled env s call s' params := by
  cases call with
  | verifyProof clock accounts args remaining => exact Or.inr (handler_settled accepted).2
  | settleHook clock accounts amount remaining =>
    exact Or.inr (settleHookHandler_settled valid accepted).2
  | transferHook clock accounts amount remaining =>
    exact Or.inr (executeHookHandler_settled valid accepted).2
  | _ => exact Or.inl (step_prepares accepted id).quiet

theorem step_finalizedPayloadsValid {s s' : State World} {call : Call}
    (valid : FinalizedPayloadsValid s) (accepted : step env s call = .ok s') :
    FinalizedPayloadsValid s' := by
  cases call with
  | verifyProof clock accounts args remaining =>
    exact valid.of_accounts (handler_settled accepted).1
  | settleHook clock accounts amount remaining =>
    -- the payload that was settled is closed
    have closed : FinalizedPayloadsValid (s.setAccount accounts.hookPayload none) :=
      valid.setAccount (by simp)
    exact closed.of_accounts (settleHookHandler_settled valid accepted).1
  | transferHook clock accounts amount remaining =>
    exact valid.of_accounts (executeHookHandler_settled valid accepted).1
  | _ => exact (step_prepares accepted id).valid valid

theorem run_finalizedPayloadsValid (world : World) (calls : List Call) :
    FinalizedPayloadsValid (run env (.deployed world) calls) := by
  apply Transactional.run_invariant
  · intro state call next valid accepted
    exact step_finalizedPayloadsValid valid accepted
  · intro address payload dataLen found
    cases found

end ZkSettle.Program
