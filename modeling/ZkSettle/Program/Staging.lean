import ZkSettle.Program.Effects

/-!
# The life of a staged payload

A payload is created, grown, written and finalized by separate transactions, in any order
and any number of times. What an account has of the proof is what was accepted of it,
chunk after chunk, and a finalized payload stands until it is closed.
-/
namespace ZkSettle.Program

open Checks Transactional

variable {Proof Address World : Type} {env : External Proof Address World}

/-! ## Payload accounts -/

def ProgramAccount.payload : ProgramAccount → Option (HookPayload × Nat)
  | .hookPayload payload dataLen => some (payload, dataLen)
  | _ => none

/-- The payload at an address, with the length of its account. -/
def State.payloads (s : State World) (address : Pubkey) : Option (HookPayload × Nat) :=
  (s.accounts address).bind ProgramAccount.payload

theorem State.payloads_eq_some {s : State World} {address : Pubkey} {payload : HookPayload}
    {dataLen : Nat} : s.payloads address = some (payload, dataLen) ↔
      s.accounts address = some (.hookPayload payload dataLen) := by
  rw [State.payloads]
  cases s.accounts address with
  | none => simp
  | some account => cases account <;> simp [ProgramAccount.payload]

theorem State.payloads_none {s : State World} {address : Pubkey}
    (free : s.accounts address = none) : s.payloads address = none := by
  simp [payloads, free]

theorem State.payloads_of_accounts {s s' : State World} (same : s'.accounts = s.accounts) :
    s'.payloads = s.payloads := by
  funext address
  simp [payloads, same]

@[simp] theorem State.payloads_setAccount (s : State World) (address : Pubkey)
    (account : Option ProgramAccount) : (s.setAccount address account).payloads =
      Function.update s.payloads address (account.bind ProgramAccount.payload) := by
  funext other
  by_cases same : other = address
  · subst same
    simp [payloads]
  · simp [payloads, same]

/-- Storing an account that is no payload where none was leaves the payloads alone. -/
theorem State.payloads_setOther {s : State World} {address : Pubkey} {account : ProgramAccount}
    (absent : s.payloads address = none) (other : account.payload = none) :
    (s.setAccount address (some account)).payloads = s.payloads := by
  rw [State.payloads_setAccount, Option.bind_some, other, ← absent, Function.update_eq_self]

/-! ## What an accepted call does to payloads -/

/-- The length at which the proof vector is allocated. -/
def HookPayload.target (payload : HookPayload) : Nat :=
  8 + BASE_SPACE + payload.expectedProofLen.toNat

/-- A resize of a payload of length `dataLen`. -/
inductive HookPayload.Resized (payload : HookPayload) (dataLen : Nat) :
    HookPayload → Nat → Prop where
  | reached (full : payload.target ≤ dataLen) : Resized payload dataLen payload dataLen
  | grown {longer : Nat} (short : dataLen < payload.target) (still : longer < payload.target) :
      Resized payload dataLen payload longer
  | allocated (short : dataLen < payload.target) :
      Resized payload dataLen
        { payload with proofAndWitness := List.replicate payload.expectedProofLen.toNat 0 }
        payload.target

/-- The calls that write a payload. -/
def Call.Stages : Call → Prop
  | .initHookPayload .. | .resizeHookPayload .. | .writeHookProof .. | .finalizeHookPayload .. =>
    True
  | _ => False

/-- The payload that a call closes. -/
def Call.closes : Call → Option Pubkey
  | .settleHook _ accounts _ _ => some accounts.hookPayload
  | .closeHookPayload accounts => some accounts.hookPayload
  | _ => none

inductive StagingEffect (s : State World) : Call → State World → Prop where
  | initHookPayload {accounts expectedProofLen s'} (fresh : s.payloads accounts.hookPayload = none)
      (bounded : 0 < expectedProofLen.toNat ∧ expectedProofLen.toNat ≤ MAX_HOOK_PROOF_BYTES)
      (stored : s'.payloads = Function.update s.payloads accounts.hookPayload (some
        ({ HookPayload.init with issuer := accounts.issuer, expectedProofLen },
          8 + BASE_SPACE))) :
      StagingEffect s (.initHookPayload accounts expectedProofLen) s'
  | resizeHookPayload {accounts payload dataLen payload' dataLen' s'}
      (found : s.payloads accounts.hookPayload = some (payload, dataLen))
      (unfinalized : payload.finalized = false)
      (resized : payload.Resized dataLen payload' dataLen')
      (stored : s'.payloads =
        Function.update s.payloads accounts.hookPayload (some (payload', dataLen'))) :
      StagingEffect s (.resizeHookPayload accounts) s'
  | writeHookProof {accounts offset chunk payload dataLen proofAndWitness s'}
      (found : s.payloads accounts.hookPayload = some (payload, dataLen))
      (unfinalized : payload.finalized = false) (sequential : offset = payload.highWaterMark)
      (within : offset.toNat + chunk.length ≤ payload.expectedProofLen.toNat)
      (copied : copyFromSlice payload.proofAndWitness offset.toNat chunk = .ok proofAndWitness)
      (stored : s'.payloads = Function.update s.payloads accounts.hookPayload (some
        ({ payload with
            proofAndWitness, highWaterMark := .ofNat (offset.toNat + chunk.length) }, dataLen))) :
      StagingEffect s (.writeHookProof accounts offset chunk) s'
  | finalizeHookPayload {accounts nullifierHash mint epoch recipient amount lightArgs payload
        dataLen s'}
      (found : s.payloads accounts.hookPayload = some (payload, dataLen))
      (unfinalized : payload.finalized = false)
      (complete : payload.highWaterMark = payload.expectedProofLen)
      (stored : s'.payloads = Function.update s.payloads accounts.hookPayload (some
        ({ payload with
            nullifierHash, mint, recipient, amount, epoch, lightArgs, finalized := true },
          dataLen))) :
      StagingEffect s
        (.finalizeHookPayload accounts nullifierHash mint epoch recipient amount lightArgs) s'
  | closes {call address s'} (closing : call.closes = some address)
      (closed : s'.accounts = Function.update s.accounts address none) : StagingEffect s call s'
  | keeps {call s'} (unstaged : ¬ call.Stages) (same : s'.payloads = s.payloads) :
      StagingEffect s call s'

theorem modifyHookPayload_found {s : State World} {accounts : HookPayloadAccounts}
    {payload : HookPayload} {dataLen : Nat}
    (loaded : ModifyHookPayload.load env accounts s = .ok (payload, dataLen)) :
    s.payloads accounts.hookPayload = some (payload, dataLen) := by
  simp only [ModifyHookPayload.load, bind_eq_ok, require_eq_ok, pure_eq_ok] at loaded
  obtain ⟨_, -, found, read, _, -, _, -, _, -, same⟩ := loaded
  rw [State.hookPayload_eq_ok] at read
  cases same
  exact State.payloads_eq_some.mpr read

theorem resizeHookPayloadHandler_staged {s s' : State World} {accounts : HookPayloadAccounts}
    (accepted : resizeHookPayloadHandler env s accounts = .ok s') :
    StagingEffect s (.resizeHookPayload accounts) s' := by
  simp only [resizeHookPayloadHandler, bind_eq_ok] at accepted
  obtain ⟨⟨payload, dataLen⟩, loaded, resized⟩ := accepted
  have found := modifyHookPayload_found loaded
  have unfinalized : payload.finalized = false := modifyHookPayload_unfinalized loaded
  split at resized
  next full =>
    rw [← pure_eq_ok.mp resized]
    exact .resizeHookPayload found unfinalized (.reached full)
      (by rw [← found, Function.update_eq_self])
  next short =>
    -- the account grows by one step, and the last step allocates the vector
    rw [← pure_eq_ok.mp resized]
    have below : dataLen < payload.target := Nat.lt_of_not_le short
    refine .resizeHookPayload found unfinalized ?_ (State.payloads_setAccount _ _ _)
    split
    next full =>
      have reached : min payload.target (dataLen + MAX_REALLOC) = payload.target :=
        Nat.le_antisymm (Nat.min_le_left _ _) full
      rw [show 8 + BASE_SPACE + payload.expectedProofLen.toNat = payload.target from rfl, reached]
      exact .allocated below
    next still => exact .grown below (Nat.lt_of_not_le still)

theorem writeHookProofHandler_staged {s s' : State World} {accounts : HookPayloadAccounts}
    {offset : UInt32} {chunk : List UInt8}
    (accepted : writeHookProofHandler env s accounts offset chunk = .ok s') :
    StagingEffect s (.writeHookProof accounts offset chunk) s' := by
  simp only [writeHookProofHandler, bind_eq_ok, require_eq_ok, okOr_eq_ok, checkedAdd_eq_some,
    pure_eq_ok] at accepted
  obtain ⟨⟨payload, dataLen⟩, loaded, _, sequential, stop, ⟨-, rfl⟩, _, within, written, copied,
    rfl⟩ := accepted
  exact .writeHookProof (modifyHookPayload_found loaded) (modifyHookPayload_unfinalized loaded)
    sequential within copied (State.payloads_setAccount _ _ _)

/-- What every accepted call does to the payloads. -/
theorem step_staged {s s' : State World} {call : Call} (accepted : step env s call = .ok s') :
    StagingEffect s call s' := by
  cases call with
  | resizeHookPayload accounts => exact resizeHookPayloadHandler_staged accepted
  | writeHookProof accounts offset chunk => exact writeHookProofHandler_staged accepted
  | initHookPayload accounts expectedProofLen =>
    simp only [step, initHookPayloadHandler, InitHookPayload.load, State.requireFree, bind_eq_ok,
      require_eq_ok, pure_eq_ok] at accepted
    obtain ⟨_, ⟨_, -, _, -, _, free, -⟩, _, bounded, rfl⟩ := accepted
    exact .initHookPayload (State.payloads_none free) bounded (State.payloads_setAccount _ _ _)
  | finalizeHookPayload accounts nullifierHash mint epoch recipient amount lightArgs =>
    simp only [step, finalizeHookPayloadHandler, bind_eq_ok, require_eq_ok, pure_eq_ok]
      at accepted
    obtain ⟨⟨payload, dataLen⟩, loaded, _, -, _, complete, rfl⟩ := accepted
    exact .finalizeHookPayload (modifyHookPayload_found loaded)
      (modifyHookPayload_unfinalized loaded) complete (State.payloads_setAccount _ _ _)
  | closeHookPayload accounts =>
    simp only [step, closeHookPayloadHandler, bind_eq_ok, pure_eq_ok] at accepted
    obtain ⟨_, -, rfl⟩ := accepted
    exact .closes rfl rfl
  | settleHook clock accounts amount remaining =>
    simp only [step, settleHookHandler, bind_eq_ok, pure_eq_ok] at accepted
    obtain ⟨_, -, s₁, settled, rfl⟩ := accepted
    exact .closes rfl (by rw [State.setAccount_accounts, runSettlement_accounts settled])
  | transferHook clock accounts amount remaining =>
    simp only [step, executeHookHandler, bind_eq_ok] at accepted
    obtain ⟨_, -, _, -, _, -, settled⟩ := accepted
    exact .keeps id (State.payloads_of_accounts (runSettlement_accounts settled))
  | verifyProof => exact .keeps id (State.payloads_of_accounts (handler_settled accepted).1)
  | checkAttestation =>
    simp only [step, checkHandler, bind_eq_ok, pure_eq_ok] at accepted
    obtain ⟨_, -, _, -, _, -, _, -, s₁, invoked, rfl⟩ := accepted
    obtain ⟨world, -, rfl⟩ := lightInvoke_eq_ok env invoked
    exact .keeps id rfl
  -- the other accounts are created at free addresses, or replace one of their own kind
  | initAttestationTree accounts =>
    simp only [step, initHandler, InitAttestationTree.load, State.requireFree, bind_eq_ok,
      okOr_eq_ok, require_eq_ok, pure_eq_ok] at accepted
    obtain ⟨_, ⟨_, -, _, -, _, free, -⟩, _, -, _, -, _, -, world, -, rfl⟩ := accepted
    exact .keeps id (State.payloads_setOther (State.payloads_none free) rfl)
  | registerIssuer clock accounts merkleRoot sanctionsRoot jurisdictionRoot =>
    simp only [step, registerHandler, RegisterIssuer.load, State.requireFree, bind_eq_ok,
      require_eq_ok, pure_eq_ok] at accepted
    obtain ⟨_, ⟨_, -, free⟩, _, -, rfl⟩ := accepted
    exact .keeps id (State.payloads_setOther (State.payloads_none free) rfl)
  | updateIssuerRoot clock accounts merkleRoot sanctionsRoot jurisdictionRoot =>
    simp only [step, updateHandler, UpdateIssuerRoot.load, bind_eq_ok, State.issuer_eq_ok,
      pure_eq_ok] at accepted
    obtain ⟨issuer, ⟨_, found, _, -, -⟩, _, -, rfl⟩ := accepted
    exact .keeps id (State.payloads_setOther
      (by simp [State.payloads, found, ProgramAccount.payload]) rfl)
  | initExtraAccountMetaList accounts extras =>
    simp only [step, initExtraAccountMetaListHandler, State.requireFree, bind_eq_ok,
      require_eq_ok, pure_eq_ok] at accepted
    obtain ⟨_, -, _, -, _, -, _, free, _, -, rfl⟩ := accepted
    exact .keeps id (State.payloads_setOther (State.payloads_none free) rfl)
  | elsewhere transaction =>
    cases accepted
    exact .keeps id rfl

/-! ## The chunks of a payload -/

/-- A new payload has no chunk, and every accepted write adds one. -/
def noteChunk (chunks : Pubkey → List (List UInt8)) (_ : State World) :
    Call → Pubkey → List (List UInt8)
  | .initHookPayload accounts _ => Function.update chunks accounts.hookPayload []
  | .writeHookProof accounts _ chunk =>
    Function.update chunks accounts.hookPayload (chunks accounts.hookPayload ++ [chunk])
  | _ => chunks

/-- The chunks that a run has written, since the payload at the address was created. -/
def writtenChunks (env : External Proof Address World) (world : World) (calls : List Call) :
    Pubkey → List (List UInt8) :=
  history (step env) noteChunk (fun _ => []) (.deployed world) calls

theorem noteChunk_unstaged {call : Call} (unstaged : ¬ call.Stages)
    (chunks : Pubkey → List (List UInt8)) (s : State World) : noteChunk chunks s call = chunks := by
  cases call with
  | initHookPayload => exact absurd trivial unstaged
  | writeHookProof => exact absurd trivial unstaged
  | _ => rfl

theorem Call.closes_unstaged {call : Call} {address : Pubkey}
    (closing : call.closes = some address) : ¬ call.Stages := by
  cases call <;> first | exact id | cases closing

/-- A payload whose account was filled by the given chunks. -/
structure HookPayload.Staged (payload : HookPayload) (dataLen : Nat)
    (chunks : List (List UInt8)) : Prop where
  bounded : 0 < payload.expectedProofLen.toNat ∧
    payload.expectedProofLen.toNat ≤ MAX_HOOK_PROOF_BYTES
  allocation : payload.proofAndWitness = [] ∧ dataLen < payload.target ∨
    payload.proofAndWitness.length = payload.expectedProofLen.toNat ∧ payload.target ≤ dataLen
  mark : payload.highWaterMark.toNat ≤ payload.proofAndWitness.length
  written : payload.proofAndWitness.take payload.highWaterMark.toNat = chunks.flatten
  complete : payload.finalized = true → payload.highWaterMark = payload.expectedProofLen

theorem staged_init (issuer : Pubkey) {expectedProofLen : UInt32}
    (bounded : 0 < expectedProofLen.toNat ∧ expectedProofLen.toNat ≤ MAX_HOOK_PROOF_BYTES) :
    HookPayload.Staged { HookPayload.init with issuer, expectedProofLen } (8 + BASE_SPACE) [] where
  bounded := bounded
  allocation := Or.inl ⟨rfl, Nat.lt_add_of_pos_right bounded.1⟩
  mark := Nat.le_refl 0
  written := rfl
  complete := by
    intro finalized
    cases finalized

variable {payload payload' : HookPayload} {dataLen dataLen' : Nat} {chunks : List (List UInt8)}

/-- A resize keeps the mark and the bytes below it. -/
theorem HookPayload.Resized.kept (resized : payload.Resized dataLen payload' dataLen')
    (staged : payload.Staged dataLen chunks) :
    payload'.highWaterMark = payload.highWaterMark ∧
      payload'.proofAndWitness.take payload.highWaterMark.toNat =
        payload.proofAndWitness.take payload.highWaterMark.toNat := by
  cases resized with
  | reached => exact ⟨rfl, rfl⟩
  | grown => exact ⟨rfl, rfl⟩
  | allocated short =>
    -- nothing has been written to a vector that was not allocated
    rcases staged.allocation with ⟨empty, -⟩ | ⟨-, full⟩
    · have mark := staged.mark
      rw [empty, List.length_nil, Nat.le_zero] at mark
      refine ⟨rfl, ?_⟩
      rw [mark, List.take_zero, List.take_zero]
    · omega

theorem HookPayload.Staged.resize (staged : payload.Staged dataLen chunks)
    (resized : payload.Resized dataLen payload' dataLen') : payload'.Staged dataLen' chunks := by
  cases resized with
  | reached => exact staged
  | grown short still =>
    have unallocated : payload.proofAndWitness = [] := by
      rcases staged.allocation with ⟨empty, -⟩ | ⟨-, full⟩
      · exact empty
      · omega
    exact { staged with allocation := Or.inl ⟨unallocated, still⟩ }
  | allocated short =>
    have kept := (HookPayload.Resized.allocated short).kept staged
    have mark : payload.highWaterMark.toNat = 0 := by
      rcases staged.allocation with ⟨empty, -⟩ | ⟨-, full⟩
      · simpa [empty] using staged.mark
      · omega
    exact
      { staged with
        allocation := Or.inr ⟨List.length_replicate, Nat.le_refl _⟩
        mark := mark.trans_le (Nat.zero_le _)
        written := kept.2.trans staged.written }

/-- A copy within a vector keeps its length and what comes before. -/
theorem copyFromSlice_take {target copied chunk : List UInt8} {start : Nat}
    (accepted : copyFromSlice target start chunk = .ok copied) :
    start + chunk.length ≤ target.length ∧ copied.length = target.length ∧
      copied.take (start + chunk.length) = target.take start ++ chunk := by
  rw [copyFromSlice] at accepted
  split at accepted
  next within =>
    cases accepted
    have front : (target.take start ++ chunk).length = start + chunk.length := by
      rw [List.length_append, List.length_take_of_le (by omega)]
    refine ⟨within, ?_, ?_⟩
    · rw [List.length_append, front, List.length_drop]
      omega
    · rw [← front, List.take_left]
  next => cases accepted

theorem HookPayload.Staged.write (staged : payload.Staged dataLen chunks)
    (unfinalized : payload.finalized = false) {chunk copied : List UInt8}
    (within : payload.highWaterMark.toNat + chunk.length ≤ payload.expectedProofLen.toNat)
    (accepted : copyFromSlice payload.proofAndWitness payload.highWaterMark.toNat chunk =
      .ok copied) :
    HookPayload.Staged
      { payload with
          proofAndWitness := copied
          highWaterMark := .ofNat (payload.highWaterMark.toNat + chunk.length) }
      dataLen (chunks ++ [chunk]) := by
  obtain ⟨room, length, front⟩ := copyFromSlice_take accepted
  -- the new mark is below the expected length, which fits in 32 bits
  have mark : (UInt32.ofNat (payload.highWaterMark.toNat + chunk.length)).toNat =
      payload.highWaterMark.toNat + chunk.length := by
    have below := payload.expectedProofLen.toNat_lt
    rw [UInt32.toNat_ofNat']
    omega
  constructor
  case bounded => exact staged.bounded
  case allocation =>
    -- only an empty chunk fits in a vector that is not allocated
    rcases staged.allocation with ⟨empty, short⟩ | ⟨full, long⟩
    · rw [empty, List.length_nil] at length
      exact Or.inl ⟨List.eq_nil_of_length_eq_zero length, short⟩
    · exact Or.inr ⟨length.trans full, long⟩
  case mark =>
    rw [mark, length]
    exact room
  case written => rw [mark, front, staged.written, List.flatten_append, List.flatten_singleton]
  case complete =>
    intro finalized
    rw [unfinalized] at finalized
    cases finalized

theorem HookPayload.Staged.finalize (staged : payload.Staged dataLen chunks)
    (complete : payload.highWaterMark = payload.expectedProofLen) (nullifierHash : Bytes32)
    (mint recipient : Pubkey) (amount epoch : UInt64) (lightArgs : StagedLightArgs) :
    HookPayload.Staged
      { payload with
          nullifierHash, mint, recipient, amount, epoch, lightArgs, finalized := true }
      dataLen chunks :=
  { staged with complete := fun _ => complete }

/-! ## Runs -/

/-- Every payload of the state was filled by its chunks. -/
def AllStaged (s : State World) (chunks : Pubkey → List (List UInt8)) : Prop :=
  ∀ address payload dataLen, s.payloads address = some (payload, dataLen) →
    payload.Staged dataLen (chunks address)

/-- Storing a staged payload at one address, with the chunks noted for it. -/
theorem AllStaged.update {s s' : State World} {chunks : Pubkey → List (List UInt8)}
    (all : AllStaged s chunks) {address : Pubkey} {payload : HookPayload} {dataLen : Nat}
    {filled : List (List UInt8)}
    (stored : s'.payloads = Function.update s.payloads address (some (payload, dataLen)))
    (staged : payload.Staged dataLen filled) :
    AllStaged s' (Function.update chunks address filled) := by
  intro other found foundLen present
  rw [stored] at present
  by_cases same : other = address
  · subst same
    rw [Function.update_self] at present ⊢
    cases present
    exact staged
  · rw [Function.update_of_ne same] at present ⊢
    exact all other found foundLen present

theorem allStaged_step {s s' : State World} {chunks : Pubkey → List (List UInt8)} {call : Call}
    (all : AllStaged s chunks) (effect : StagingEffect s call s') :
    AllStaged s' (noteChunk chunks s call) := by
  -- a call that notes no chunk leaves those of the address
  have unnoted : ∀ {address : Pubkey} {payload : HookPayload} {dataLen : Nat},
      s'.payloads = Function.update s.payloads address (some (payload, dataLen)) →
      payload.Staged dataLen (chunks address) → AllStaged s' chunks := by
    intro address payload dataLen stored staged
    rw [← Function.update_eq_self address chunks]
    exact all.update stored staged
  cases effect with
  | initHookPayload fresh bounded stored => exact all.update stored (staged_init _ bounded)
  | resizeHookPayload found unfinalized resized stored =>
    exact unnoted stored ((all _ _ _ found).resize resized)
  | writeHookProof found unfinalized sequential within copied stored =>
    subst sequential
    exact all.update stored ((all _ _ _ found).write unfinalized within copied)
  | finalizeHookPayload found unfinalized complete stored =>
    exact unnoted stored ((all _ _ _ found).finalize complete ..)
  | @closes _ address _ closing closed =>
    -- the payload is gone, and the others stay with their chunks
    rw [noteChunk_unstaged (Call.closes_unstaged closing)]
    intro other found foundLen present
    rw [State.payloads_eq_some, closed] at present
    by_cases same : other = address
    · rw [same, Function.update_self] at present
      cases present
    · rw [Function.update_of_ne same, ← State.payloads_eq_some] at present
      exact all other found foundLen present
  | keeps unstaged same =>
    rw [noteChunk_unstaged unstaged]
    intro address found foundLen present
    rw [same] at present
    exact all address found foundLen present

theorem run_allStaged (env : External Proof Address World) (world : World) (calls : List Call) :
    AllStaged (run env (.deployed world) calls) (writtenChunks env world calls) := by
  apply history_invariant
  case preserved =>
    intro s chunks call s' all accepted
    exact allStaged_step all (step_staged accepted)
  case holds =>
    intro address payload dataLen found
    cases found

/-- What a run and any call after it promise about payload accounts. -/
structure StagedRun (env : External Proof Address World) (world : World) (calls : List Call) :
    Prop where
  length : ∀ address payload dataLen,
    (run env (.deployed world) calls).accounts address = some (.hookPayload payload dataLen) →
    payload.proofAndWitness.length = 0 ∨
      payload.proofAndWitness.length = payload.expectedProofLen.toNat
  mark : ∀ address payload dataLen,
    (run env (.deployed world) calls).accounts address = some (.hookPayload payload dataLen) →
    payload.highWaterMark ≤ payload.expectedProofLen
  allocated : ∀ address payload dataLen,
    (run env (.deployed world) calls).accounts address = some (.hookPayload payload dataLen) →
    0 < payload.highWaterMark →
    payload.proofAndWitness.length = payload.expectedProofLen.toNat ∧ payload.target ≤ dataLen
  written : ∀ address payload dataLen,
    (run env (.deployed world) calls).accounts address = some (.hookPayload payload dataLen) →
    payload.proofAndWitness.take payload.highWaterMark.toNat =
      (writtenChunks env world calls address).flatten
  complete : ∀ address payload dataLen,
    (run env (.deployed world) calls).accounts address = some (.hookPayload payload dataLen) →
    payload.finalized = true → payload.highWaterMark = payload.expectedProofLen
  finalized : ∀ call s' address payload dataLen,
    step env (run env (.deployed world) calls) call = .ok s' →
    (run env (.deployed world) calls).accounts address = some (.hookPayload payload dataLen) →
    payload.finalized = true →
    s'.accounts address = some (.hookPayload payload dataLen) ∨
      call.closes = some address ∧ s'.accounts address = none
  resized : ∀ accounts s',
    step env (run env (.deployed world) calls) (.resizeHookPayload accounts) = .ok s' →
    ∃ payload dataLen payload' dataLen',
      (run env (.deployed world) calls).accounts accounts.hookPayload =
        some (.hookPayload payload dataLen) ∧
      s'.accounts accounts.hookPayload = some (.hookPayload payload' dataLen') ∧
      payload'.highWaterMark = payload.highWaterMark ∧
      payload'.proofAndWitness.take payload.highWaterMark.toNat =
        payload.proofAndWitness.take payload.highWaterMark.toNat
  rejected : ∀ call error, step env (run env (.deployed world) calls) call = .error error →
    run env (.deployed world) (calls ++ [call]) = run env (.deployed world) calls

/-- Only the call that closes a finalized payload changes it. -/
theorem StagingEffect.finalized_kept {s s' : State World} {call : Call}
    (effect : StagingEffect s call s') {address : Pubkey}
    (found : s.payloads address = some (payload, dataLen)) (finalized : payload.finalized = true) :
    s'.payloads address = some (payload, dataLen) ∨
      call.closes = some address ∧ s'.accounts address = none := by
  -- a payload that is written is another one, which is not finalized
  have elsewhere : ∀ {written : Pubkey} {open_ stored : HookPayload} {openLen storedLen : Nat},
      s.payloads written = some (open_, openLen) → open_.finalized = false →
      s'.payloads = Function.update s.payloads written (some (stored, storedLen)) →
      s'.payloads address = some (payload, dataLen) := by
    intro written open_ stored openLen storedLen present unfinalized updated
    have other : address ≠ written := by
      rintro rfl
      rw [found] at present
      cases present
      rw [finalized] at unfinalized
      cases unfinalized
    rw [updated, Function.update_of_ne other]
    exact found
  cases effect with
  | initHookPayload fresh bounded stored =>
    refine Or.inl ?_
    rw [stored, Function.update_of_ne]
    · exact found
    · rintro rfl
      rw [fresh] at found
      cases found
  | resizeHookPayload present unfinalized resized stored =>
    exact Or.inl (elsewhere present unfinalized stored)
  | writeHookProof present unfinalized sequential within copied stored =>
    exact Or.inl (elsewhere present unfinalized stored)
  | finalizeHookPayload present unfinalized complete stored =>
    exact Or.inl (elsewhere present unfinalized stored)
  | @closes _ closedAddress _ closing closed =>
    by_cases same : closedAddress = address
    · subst same
      exact Or.inr ⟨closing, by rw [closed, Function.update_self]⟩
    · refine Or.inl ?_
      rw [State.payloads_eq_some, closed, Function.update_of_ne (Ne.symm same),
        ← State.payloads_eq_some]
      exact found
  | keeps unstaged same =>
    rw [same]
    exact Or.inl found

/-- The life of a payload, in every run of the program. -/
theorem run_stagedRun (env : External Proof Address World) (world : World) (calls : List Call) :
    StagedRun env world calls := by
  have all : ∀ address payload dataLen,
      (run env (.deployed world) calls).accounts address = some (.hookPayload payload dataLen) →
      payload.Staged dataLen (writtenChunks env world calls address) := by
    intro address payload dataLen found
    exact run_allStaged env world calls address payload dataLen (State.payloads_eq_some.mpr found)
  constructor
  case length =>
    intro address payload dataLen found
    rcases (all address payload dataLen found).allocation with ⟨empty, -⟩ | ⟨full, -⟩
    · exact Or.inl (by rw [empty, List.length_nil])
    · exact Or.inr full
  case mark =>
    intro address payload dataLen found
    have staged := all address payload dataLen found
    have within := staged.mark
    rw [UInt32.le_iff_toNat_le]
    rcases staged.allocation with ⟨empty, -⟩ | ⟨full, -⟩
    · rw [empty, List.length_nil] at within
      exact within.trans (Nat.zero_le _)
    · rw [full] at within
      exact within
  case allocated =>
    intro address payload dataLen found positive
    have staged := all address payload dataLen found
    rcases staged.allocation with ⟨empty, -⟩ | allocated
    · -- nothing is written before the proof is allocated
      have within := staged.mark
      rw [empty, List.length_nil] at within
      rw [UInt32.lt_iff_toNat_lt] at positive
      exact absurd (positive.trans_le within) (Nat.lt_irrefl 0)
    · exact allocated
  case written =>
    intro address payload dataLen found
    exact (all address payload dataLen found).written
  case complete =>
    intro address payload dataLen found
    exact (all address payload dataLen found).complete
  case finalized =>
    intro call s' address payload dataLen accepted found finalized
    rw [← State.payloads_eq_some] at found ⊢
    exact (step_staged accepted).finalized_kept found finalized
  case resized =>
    intro accounts s' accepted
    cases step_staged accepted with
    | @resizeHookPayload _ payload dataLen payload' dataLen' _ found unfinalized resized stored =>
      rw [State.payloads_eq_some] at found
      refine ⟨payload, dataLen, payload', dataLen', found, ?_, resized.kept (all _ _ _ found)⟩
      rw [← State.payloads_eq_some, stored, Function.update_self]
    | closes closing => cases closing
    | keeps unstaged => exact absurd trivial unstaged
  case rejected =>
    intro call error rejected
    rw [run, run, Transactional.run_append, Transactional.run_cons, Transactional.run_nil,
      Transactional.commit]
    rw [run] at rejected
    rw [rejected]

end ZkSettle.Program
