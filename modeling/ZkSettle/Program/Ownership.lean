import ZkSettle.Program.Effects

/-!
# Who writes an issuer account

Each instruction writes at most one account of the program, at the address derived for it.
The accounts of issuers are written by two instructions only, both signed by the authority,
so what an issuer account holds is what its authority sent last.
-/
namespace ZkSettle.Program

open Checks Transactional

variable {Proof Address World : Type} {env : External Proof Address World}

/-! ## Frames -/

/-- The address of the one account of the program that a call may write. -/
def Call.writes (env : External Proof Address World) : Call → Option Pubkey
  | .initAttestationTree _ => some env.registryAddress
  | .registerIssuer _ accounts _ _ _ | .updateIssuerRoot _ accounts _ _ _ =>
    some (env.issuerAddress accounts.authority)
  | .initHookPayload accounts _ | .resizeHookPayload accounts | .writeHookProof accounts _ _
  | .finalizeHookPayload accounts _ _ _ _ _ _ => some (env.hookPayloadAddress accounts.authority)
  | .initExtraAccountMetaList accounts _ =>
    some (env.extraAccountMetaListAddress accounts.mint.key)
  | .settleHook _ accounts _ _ => some (env.hookPayloadAddress accounts.authority)
  | .closeHookPayload accounts => some (env.hookPayloadAddress accounts.authority)
  | .verifyProof .. | .checkAttestation .. | .transferHook .. | .elsewhere _ => none

theorem modifyHookPayload_derived {s : State World} {accounts : HookPayloadAccounts}
    {found : HookPayload × Nat} (loaded : ModifyHookPayload.load env accounts s = .ok found) :
    accounts.hookPayload = env.hookPayloadAddress accounts.authority := by
  simp only [ModifyHookPayload.load, bind_eq_ok, require_eq_ok] at loaded
  obtain ⟨_, -, _, -, _, -, _, derived, -⟩ := loaded
  exact derived

/-- Every other account is as it was. -/
theorem step_frame {s s' : State World} {call : Call} (accepted : step env s call = .ok s')
    {address : Pubkey} (other : call.writes env ≠ some address) :
    s'.accounts address = s.accounts address := by
  have apart : ∀ {written : Pubkey}, call.writes env = some written → ∀ account,
      (s.setAccount written account).accounts address = s.accounts address := by
    rintro written writes account
    have ne : address ≠ written := by
      rintro rfl
      exact other writes
    rw [State.setAccount_accounts, Function.update_of_ne ne]
  cases call with
  | verifyProof => rw [(handler_settled accepted).1]
  | checkAttestation =>
    simp only [step, checkHandler, bind_eq_ok, pure_eq_ok] at accepted
    obtain ⟨_, -, _, -, _, -, _, -, s₁, invoked, rfl⟩ := accepted
    obtain ⟨world, -, rfl⟩ := lightInvoke_eq_ok env invoked
    rfl
  | transferHook clock accounts amount remaining =>
    simp only [step, executeHookHandler, bind_eq_ok] at accepted
    obtain ⟨_, -, _, -, _, -, settled⟩ := accepted
    rw [runSettlement_accounts settled]
  | elsewhere transaction =>
    cases accepted
    rfl
  -- the accounts of issuers
  | registerIssuer clock accounts merkleRoot sanctionsRoot jurisdictionRoot =>
    simp only [step, registerHandler, RegisterIssuer.load, bind_eq_ok, require_eq_ok,
      pure_eq_ok] at accepted
    obtain ⟨_, ⟨_, derived, -⟩, _, -, rfl⟩ := accepted
    exact apart (congrArg some derived.symm) _
  | updateIssuerRoot clock accounts merkleRoot sanctionsRoot jurisdictionRoot =>
    simp only [step, updateHandler, UpdateIssuerRoot.load, checkIssuer, bind_eq_ok, require_eq_ok,
      pure_eq_ok] at accepted
    obtain ⟨_, ⟨_, -, _, ⟨_, derived, -⟩, -⟩, _, -, rfl⟩ := accepted
    exact apart (congrArg some derived.symm) _
  -- what an issuer sets up once
  | initAttestationTree accounts =>
    simp only [step, initHandler, InitAttestationTree.load, bind_eq_ok, okOr_eq_ok,
      require_eq_ok, pure_eq_ok] at accepted
    obtain ⟨_, ⟨_, -, _, derived, -⟩, _, -, _, -, _, -, world, -, rfl⟩ := accepted
    exact apart (congrArg some derived.symm) _
  | initExtraAccountMetaList accounts extras =>
    simp only [step, initExtraAccountMetaListHandler, InitExtraAccountMetaList.load, bind_eq_ok,
      require_eq_ok, pure_eq_ok] at accepted
    obtain ⟨_, ⟨_, -, _, -, derived⟩, _, -, _, -, _, -, _, -, rfl⟩ := accepted
    exact apart (congrArg some derived.symm) _
  -- staged payloads
  | initHookPayload accounts expectedProofLen =>
    simp only [step, initHookPayloadHandler, InitHookPayload.load, bind_eq_ok, require_eq_ok,
      pure_eq_ok] at accepted
    obtain ⟨_, ⟨_, -, _, derived, -⟩, _, -, rfl⟩ := accepted
    exact apart (congrArg some derived.symm) _
  | resizeHookPayload accounts =>
    simp only [step, resizeHookPayloadHandler, bind_eq_ok] at accepted
    obtain ⟨_, loaded, resized⟩ := accepted
    have derived := modifyHookPayload_derived loaded
    split at resized
    · rw [← pure_eq_ok.mp resized]
    · rw [← pure_eq_ok.mp resized]
      exact apart (congrArg some derived.symm) _
  | writeHookProof accounts offset chunk =>
    simp only [step, writeHookProofHandler, bind_eq_ok, pure_eq_ok] at accepted
    obtain ⟨_, loaded, _, -, _, -, _, -, _, -, rfl⟩ := accepted
    exact apart (congrArg some (modifyHookPayload_derived loaded).symm) _
  | finalizeHookPayload accounts nullifierHash mint epoch recipient amount lightArgs =>
    simp only [step, finalizeHookPayloadHandler, bind_eq_ok, pure_eq_ok] at accepted
    obtain ⟨_, loaded, _, -, _, -, rfl⟩ := accepted
    exact apart (congrArg some (modifyHookPayload_derived loaded).symm) _
  | closeHookPayload accounts =>
    simp only [step, closeHookPayloadHandler, CloseHookPayload.load, bind_eq_ok, require_eq_ok,
      pure_eq_ok] at accepted
    obtain ⟨_, ⟨_, -, derived⟩, rfl⟩ := accepted
    exact apart (congrArg some derived.symm) _
  | settleHook clock accounts amount remaining =>
    simp only [step, settleHookHandler, SettleHook.load, bind_eq_ok, require_eq_ok,
      pure_eq_ok] at accepted
    obtain ⟨_, ⟨_, -, _, -, _, -, _, -, _, -, _, -, _, derived, -⟩, s₁, settled, rfl⟩ := accepted
    have kept := apart (congrArg some derived.symm) none
    rw [State.setAccount_accounts] at kept ⊢
    rw [runSettlement_accounts settled]
    exact kept

/-! ## Issuer accounts -/

def ProgramAccount.asIssuer : ProgramAccount → Option Issuer
  | .issuer found => some found
  | _ => none

/-- The issuer account at an address. -/
def State.issuers (s : State World) (address : Pubkey) : Option Issuer :=
  (s.accounts address).bind ProgramAccount.asIssuer

theorem State.issuers_eq_some {s : State World} {address : Pubkey} {issuer : Issuer} :
    s.issuers address = some issuer ↔ s.accounts address = some (.issuer issuer) := by
  rw [State.issuers]
  cases s.accounts address with
  | none => simp
  | some account => cases account <;> simp [ProgramAccount.asIssuer]

@[simp] theorem State.issuers_setAccount (s : State World) (address : Pubkey)
    (account : Option ProgramAccount) : (s.setAccount address account).issuers =
      Function.update s.issuers address (account.bind ProgramAccount.asIssuer) := by
  funext other
  by_cases same : other = address
  · subst same
    simp [issuers]
  · simp [issuers, same]

/-- An account of another kind takes the place of no issuer. -/
theorem State.issuers_setOther {s : State World} {address : Pubkey}
    {account : Option ProgramAccount} (absent : s.issuers address = none)
    (other : account.bind ProgramAccount.asIssuer = none) :
    (s.setAccount address account).issuers = s.issuers := by
  rw [State.issuers_setAccount, other, ← absent, Function.update_eq_self]

theorem State.issuers_of_accounts {s s' : State World} (same : s'.accounts = s.accounts) :
    s'.issuers = s.issuers := by
  funext address
  rw [State.issuers, State.issuers, same]

/-- The issuer account that a call leaves behind when it is accepted. -/
def Call.issuerWrite : Call → Option (Pubkey × Issuer)
  | .registerIssuer clock accounts merkleRoot sanctionsRoot jurisdictionRoot
  | .updateIssuerRoot clock accounts merkleRoot sanctionsRoot jurisdictionRoot =>
    some (accounts.issuer,
      { authority := accounts.authority
        merkleRoot
        sanctionsRoot
        jurisdictionRoot
        rootSlot := clock.slot })
  | _ => none

/-- The issuers after a call that writes the given account, or none. -/
def writeIssuer (issuers : Pubkey → Option Issuer) : Option (Pubkey × Issuer) →
    Pubkey → Option Issuer
  | some (address, issuer) => Function.update issuers address (some issuer)
  | none => issuers

theorem State.issuers_of_payload {s : State World} {address : Pubkey}
    {found : HookPayload × Nat} (read : s.hookPayload address = .ok found) :
    s.issuers address = none := by
  rw [State.hookPayload_eq_ok] at read
  simp [issuers, read, ProgramAccount.asIssuer]

theorem State.issuers_of_free {s : State World} {address : Pubkey}
    (free : s.accounts address = none) : s.issuers address = none := by
  simp [issuers, free]

theorem modifyHookPayload_issuers {s : State World} {accounts : HookPayloadAccounts}
    {found : HookPayload × Nat} (loaded : ModifyHookPayload.load env accounts s = .ok found) :
    s.issuers accounts.hookPayload = none := by
  simp only [ModifyHookPayload.load, bind_eq_ok] at loaded
  obtain ⟨_, -, _, read, -⟩ := loaded
  exact State.issuers_of_payload read

/-- What every accepted call does to the accounts of issuers. -/
theorem step_issuers {s s' : State World} {call : Call} (accepted : step env s call = .ok s') :
    s'.issuers = writeIssuer s.issuers call.issuerWrite := by
  cases call with
  | registerIssuer clock accounts merkleRoot sanctionsRoot jurisdictionRoot =>
    simp only [step, registerHandler, bind_eq_ok, pure_eq_ok] at accepted
    obtain ⟨_, -, _, -, rfl⟩ := accepted
    exact State.issuers_setAccount _ _ _
  | updateIssuerRoot clock accounts merkleRoot sanctionsRoot jurisdictionRoot =>
    simp only [step, updateHandler, UpdateIssuerRoot.load, checkIssuer, bind_eq_ok, require_eq_ok,
      pure_eq_ok] at accepted
    obtain ⟨issuer, ⟨_, -, _, ⟨_, -, owner⟩, rfl⟩, _, -, rfl⟩ := accepted
    rw [State.issuers_setAccount, Call.issuerWrite, writeIssuer, ← owner]
    rfl
  -- the other accounts are created at free addresses, or replace a payload
  | initAttestationTree accounts =>
    simp only [step, initHandler, InitAttestationTree.load, State.requireFree, bind_eq_ok,
      okOr_eq_ok, require_eq_ok, pure_eq_ok] at accepted
    obtain ⟨_, ⟨_, -, _, -, _, free, -⟩, _, -, _, -, _, -, world, -, rfl⟩ := accepted
    exact State.issuers_setOther (State.issuers_of_free free) rfl
  | initExtraAccountMetaList accounts extras =>
    simp only [step, initExtraAccountMetaListHandler, State.requireFree, bind_eq_ok,
      require_eq_ok, pure_eq_ok] at accepted
    obtain ⟨_, -, _, -, _, -, _, free, _, -, rfl⟩ := accepted
    exact State.issuers_setOther (State.issuers_of_free free) rfl
  | initHookPayload accounts expectedProofLen =>
    simp only [step, initHookPayloadHandler, InitHookPayload.load, State.requireFree, bind_eq_ok,
      require_eq_ok, pure_eq_ok] at accepted
    obtain ⟨_, ⟨_, -, _, -, _, free, -⟩, _, -, rfl⟩ := accepted
    exact State.issuers_setOther (State.issuers_of_free free) rfl
  | resizeHookPayload accounts =>
    simp only [step, resizeHookPayloadHandler, bind_eq_ok] at accepted
    obtain ⟨_, loaded, resized⟩ := accepted
    split at resized
    · rw [← pure_eq_ok.mp resized]
      rfl
    · rw [← pure_eq_ok.mp resized]
      exact State.issuers_setOther (modifyHookPayload_issuers loaded) rfl
  | writeHookProof accounts offset chunk =>
    simp only [step, writeHookProofHandler, bind_eq_ok, pure_eq_ok] at accepted
    obtain ⟨_, loaded, _, -, _, -, _, -, _, -, rfl⟩ := accepted
    exact State.issuers_setOther (modifyHookPayload_issuers loaded) rfl
  | finalizeHookPayload accounts nullifierHash mint epoch recipient amount lightArgs =>
    simp only [step, finalizeHookPayloadHandler, bind_eq_ok, pure_eq_ok] at accepted
    obtain ⟨_, loaded, _, -, _, -, rfl⟩ := accepted
    exact State.issuers_setOther (modifyHookPayload_issuers loaded) rfl
  | closeHookPayload accounts =>
    simp only [step, closeHookPayloadHandler, CloseHookPayload.load, bind_eq_ok, pure_eq_ok]
      at accepted
    obtain ⟨_, ⟨_, read, -⟩, rfl⟩ := accepted
    exact State.issuers_setOther (State.issuers_of_payload read) rfl
  | settleHook clock accounts amount remaining =>
    simp only [step, settleHookHandler, SettleHook.load, bind_eq_ok, pure_eq_ok] at accepted
    obtain ⟨_, ⟨_, -, _, read, -⟩, s₁, settled, rfl⟩ := accepted
    have same := State.issuers_of_accounts (runSettlement_accounts settled)
    have absent : s₁.issuers accounts.hookPayload = none := by
      rw [same]
      exact State.issuers_of_payload read
    exact (State.issuers_setOther absent rfl).trans same
  -- these write no account
  | verifyProof => exact State.issuers_of_accounts (handler_settled accepted).1
  | transferHook clock accounts amount remaining =>
    simp only [step, executeHookHandler, bind_eq_ok] at accepted
    obtain ⟨_, -, _, -, _, -, settled⟩ := accepted
    exact State.issuers_of_accounts (runSettlement_accounts settled)
  | checkAttestation =>
    simp only [step, checkHandler, bind_eq_ok, pure_eq_ok] at accepted
    obtain ⟨_, -, _, -, _, -, _, -, s₁, invoked, rfl⟩ := accepted
    obtain ⟨world, -, rfl⟩ := lightInvoke_eq_ok env invoked
    rfl
  | elsewhere transaction =>
    cases accepted
    rfl

/-! ## The last word of the authority -/

/-- The call at a position of a run is accepted there and writes the issuer account. -/
def WritesAt (env : External Proof Address World) (world : World) (calls : List Call) (i : Nat)
    (address : Pubkey) (issuer : Issuer) : Prop :=
  ∃ call, calls[i]? = some call ∧ call.issuerWrite = some (address, issuer) ∧
    ∃ s', step env (run env (.deployed world) (calls.take i)) call = .ok s'

theorem writesAt_append {world : World} {past : List Call} {call : Call} {i : Nat}
    {address : Pubkey} {issuer : Issuer} :
    WritesAt env world (past ++ [call]) i address issuer ↔
      WritesAt env world past i address issuer ∨
        i = past.length ∧ call.issuerWrite = some (address, issuer) ∧
          ∃ s', step env (run env (.deployed world) past) call = .ok s' := by
  rw [WritesAt, WritesAt]
  rcases Nat.lt_trichotomy i past.length with before | rfl | beyond
  · rw [List.getElem?_append_left before, List.take_append_of_le_length before.le]
    simp [before.ne]
  · simp
  · have outside : past.length + 1 ≤ i := beyond
    rw [List.getElem?_eq_none (by simpa using outside), List.getElem?_eq_none beyond.le]
    simp [beyond.ne']

theorem WritesAt.before {world : World} {calls : List Call} {i : Nat} {address : Pubkey}
    {issuer : Issuer} (writes : WritesAt env world calls i address issuer) : i < calls.length := by
  obtain ⟨call, found, -⟩ := writes
  exact (List.getElem?_eq_some_iff.mp found).1

theorem writeIssuer_eq_some {issuers : Pubkey → Option Issuer} {written : Option (Pubkey × Issuer)}
    {address : Pubkey} {issuer : Issuer} :
    writeIssuer issuers written address = some issuer ↔ written = some (address, issuer) ∨
      issuers address = some issuer ∧ ∀ other, written ≠ some (address, other) := by
  rcases written with - | ⟨target, value⟩
  · simp [writeIssuer]
  · by_cases here : address = target
    · subst here
      simp [writeIssuer]
    · simp [writeIssuer, here, Ne.symm here]

theorem step_sameAuthority {s s' : State World} {call : Call} {address : Pubkey}
    {current issuer : Issuer} (accepted : step env s call = .ok s')
    (found : s.issuers address = some current)
    (writes : call.issuerWrite = some (address, issuer)) :
    issuer.authority = current.authority := by
  rw [State.issuers_eq_some] at found
  cases call with
  | registerIssuer clock accounts merkleRoot sanctionsRoot jurisdictionRoot =>
    -- a registration needs a free address
    cases writes
    simp only [step, registerHandler, RegisterIssuer.load, State.requireFree, bind_eq_ok,
      require_eq_ok] at accepted
    obtain ⟨_, ⟨_, -, free⟩, -⟩ := accepted
    rw [found] at free
    cases free
  | updateIssuerRoot clock accounts merkleRoot sanctionsRoot jurisdictionRoot =>
    cases writes
    simp only [step, updateHandler, UpdateIssuerRoot.load, checkIssuer, bind_eq_ok, require_eq_ok,
      State.issuer_eq_ok, pure_eq_ok] at accepted
    obtain ⟨_, ⟨_, read, _, ⟨_, -, owner⟩, rfl⟩, -⟩ := accepted
    cases found.symm.trans read
    exact owner.symm
  | _ => cases writes

/-- What a run says of an issuer account: it holds what was written last, and belongs to
the authority of everything that was written. -/
structure Governed (env : External Proof Address World) (world : World) (past : List Call)
    (s : State World) : Prop where
  last : ∀ address issuer, s.issuers address = some issuer ↔
    ∃ i, WritesAt env world past i address issuer ∧
      ∀ j other, i < j → ¬ WritesAt env world past j address other
  authority : ∀ i address issuer, WritesAt env world past i address issuer →
    ∃ current, s.issuers address = some current ∧ current.authority = issuer.authority

theorem governed_deployed (world : World) : Governed env world [] (.deployed world) where
  last := by
    intro address issuer
    constructor
    · intro found
      cases found
    · rintro ⟨i, writes, -⟩
      exact absurd writes.before (Nat.not_lt_zero i)
  authority := by
    intro i address issuer writes
    exact absurd writes.before (Nat.not_lt_zero i)

/-- A call that is rejected writes nothing. -/
theorem Governed.rejected {world : World} {past : List Call} {call : Call} {failure : Error}
    (governed : Governed env world past (run env (.deployed world) past))
    (refused : step env (run env (.deployed world) past) call = .error failure) :
    Governed env world (past ++ [call]) (run env (.deployed world) past) := by
  have same : ∀ i address issuer, WritesAt env world (past ++ [call]) i address issuer ↔
      WritesAt env world past i address issuer := by
    intro i address issuer
    rw [writesAt_append, refused]
    simp
  constructor
  · simpa only [same] using governed.last
  · simpa only [same] using governed.authority

/-- An accepted call replaces the account that it writes and leaves the others alone. -/
theorem Governed.step {world : World} {past : List Call} {call : Call} {next : State World}
    (governed : Governed env world past (run env (.deployed world) past))
    (accepted : Program.step env (run env (.deployed world) past) call = .ok next) :
    Governed env world (past ++ [call]) next := by
  have written : ∀ i address issuer, WritesAt env world (past ++ [call]) i address issuer ↔
      WritesAt env world past i address issuer ∨
        i = past.length ∧ call.issuerWrite = some (address, issuer) := by
    intro i address issuer
    rw [writesAt_append, accepted]
    simp
  constructor
  · intro address issuer
    rw [step_issuers accepted, writeIssuer_eq_some, governed.last]
    constructor
    · rintro (now | ⟨⟨i, writes, alone⟩, silent⟩)
      · refine ⟨past.length, (written _ _ _).mpr (Or.inr ⟨rfl, now⟩), ?_⟩
        intro j other later writes
        rcases (written _ _ _).mp writes with earlier | ⟨rfl, -⟩
        · exact absurd earlier.before (Nat.not_lt_of_lt later)
        · exact absurd later (lt_irrefl _)
      · refine ⟨i, (written _ _ _).mpr (Or.inl writes), ?_⟩
        intro j other later again
        rcases (written _ _ _).mp again with earlier | ⟨-, now⟩
        · exact alone j other later earlier
        · exact silent other now
    · rintro ⟨i, writes, alone⟩
      rcases (written _ _ _).mp writes with earlier | ⟨rfl, now⟩
      · right
        refine ⟨⟨i, earlier, fun j other later again =>
          alone j other later ((written _ _ _).mpr (Or.inl again))⟩, ?_⟩
        intro other now
        exact alone past.length other earlier.before ((written _ _ _).mpr (Or.inr ⟨rfl, now⟩))
      · exact Or.inl now
  · intro i address issuer writes
    rw [step_issuers accepted]
    rcases (written _ _ _).mp writes with earlier | ⟨-, now⟩
    · obtain ⟨current, found, owner⟩ := governed.authority i address issuer earlier
      by_cases touched : ∃ other, call.issuerWrite = some (address, other)
      · obtain ⟨other, now⟩ := touched
        refine ⟨other, writeIssuer_eq_some.mpr (Or.inl now), ?_⟩
        rw [← owner]
        exact step_sameAuthority accepted found now
      · exact ⟨current, writeIssuer_eq_some.mpr (Or.inr ⟨found, not_exists.mp touched⟩), owner⟩
    · exact ⟨issuer, writeIssuer_eq_some.mpr (Or.inl now), rfl⟩

/-- In every run an issuer account holds the roots of the last accepted call that wrote it,
and all of these calls were signed by one authority. -/
theorem run_governed (world : World) (calls : List Call) :
    Governed env world calls (run env (.deployed world) calls) := by
  apply run_invariant_of_past (Governed env world)
  case holds => exact governed_deployed world
  case rejected =>
    intro past call failure governed refused
    exact governed.rejected refused
  case preserved =>
    intro past call next governed accepted
    exact governed.step accepted

end ZkSettle.Program
