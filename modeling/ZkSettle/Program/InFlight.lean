import ZkSettle.Program.Reference

/-!
# The transfer in flight

`transfer_hook` may be called by anyone with any accounts. It checks that the source
is a token account of the owner in the middle of a transfer, but not that the source
or the destination holds the mint that the payload was staged for.
-/
namespace ZkSettle.Program

open Checks

variable {Proof Address World : Type} {env : External Proof Address World}

/-- The accounts are those of a transfer of the passed mint that is in flight. -/
structure InFlight (env : External Proof Address World) (accounts : ExecuteHook) : Prop where
  source : accounts.sourceToken.owner = env.token2022Id ∧
    ∃ account, env.unpackTokenAccount accounts.sourceToken.data = some account ∧
      account.mint = accounts.mint.key ∧ account.owner = accounts.owner ∧
      account.transferring = some true
  destination : accounts.destinationToken.owner = env.token2022Id ∧
    ∃ account, env.unpackTokenAccount accounts.destinationToken.data = some account ∧
      account.mint = accounts.mint.key

/-- What the call emits is a settlement of the mint whose token is transferred. -/
def SettlesTransferred (env : External Proof Address World) (accounts : ExecuteHook)
    (s s' : State World) : Prop :=
  ∀ event, s'.events = s.events ++ [.proofSettled event] →
    ∃ account, env.unpackTokenAccount accounts.sourceToken.data = some account ∧
      account.mint = event.mint

/-- The data of an account are those of a token account of the mint. -/
def HoldsMint (env : External Proof Address World) (data : List UInt8) (mint : Pubkey) : Prop :=
  (env.unpackTokenAccount data).map TokenAccount.mint = some mint

theorem holdsMint_iff {data : List UInt8} {mint : Pubkey} : HoldsMint env data mint ↔
    ∃ account, env.unpackTokenAccount data = some account ∧ account.mint = mint := by
  simp [HoldsMint]

theorem enforceToken2022HookAccounts_eq_ok {sourceToken mint destinationToken : AccountInfo}
    {expectedOwner : Pubkey} {u : Unit} :
    enforceToken2022HookAccounts env sourceToken mint destinationToken expectedOwner = .ok u ↔
      sourceToken.owner = env.token2022Id ∧ mint.owner = env.token2022Id ∧
        destinationToken.owner = env.token2022Id ∧
        ∃ account, env.unpackTokenAccount sourceToken.data = some account ∧
          account.owner = expectedOwner ∧ account.transferring = some true := by
  simp only [enforceToken2022HookAccounts, bind_eq_ok, require_eq_ok, okOr_eq_ok, exists_const]
  constructor
  · rintro ⟨source, mint, destination, account, unpacked, owner, flag, transferring, rfl⟩
    exact ⟨source, mint, destination, account, unpacked, owner, transferring⟩
  · rintro ⟨source, mint, destination, account, unpacked, owner, transferring⟩
    exact ⟨source, mint, destination, account, unpacked, owner, true, transferring, rfl⟩

theorem executeHookHandler_checks {s s' : State World} {clock : Clock} {accounts : ExecuteHook}
    {amount : UInt64} {remaining : List AccountInfo}
    (accepted : executeHookHandler env s clock accounts amount remaining = .ok s') :
    accounts.sourceToken.owner = env.token2022Id ∧
      accounts.destinationToken.owner = env.token2022Id ∧
      ∃ account, env.unpackTokenAccount accounts.sourceToken.data = some account ∧
        account.owner = accounts.owner ∧ account.transferring = some true := by
  simp only [executeHookHandler, bind_eq_ok] at accepted
  obtain ⟨_, -, _, enforced, -⟩ := accepted
  obtain ⟨source, -, destination, checked⟩ := enforceToken2022HookAccounts_eq_ok.mp enforced
  exact ⟨source, destination, checked⟩

theorem executeHookHandler_event {s s' : State World} {clock : Clock} {accounts : ExecuteHook}
    {amount : UInt64} {remaining : List AccountInfo}
    (accepted : executeHookHandler env s clock accounts amount remaining = .ok s') :
    ∃ event, s'.events = s.events ++ [.proofSettled event] ∧ event.mint = accounts.mint.key := by
  simp only [executeHookHandler, bind_eq_ok] at accepted
  obtain ⟨_, -, _, -, _, -, settled⟩ := accepted
  obtain ⟨timestamp, validityProof, events⟩ := runSettlement_event settled
  exact ⟨_, events, rfl⟩

/-- An accepted call is of a transfer in flight if and only if the two token accounts,
which it does not compare with the mint, hold it. -/
theorem executeHook_inFlight_iff (s s' : State World) (clock : Clock) (accounts : ExecuteHook)
    (amount : UInt64) (remaining : List AccountInfo)
    (accepted : executeHookHandler env s clock accounts amount remaining = .ok s') :
    InFlight env accounts ∧ SettlesTransferred env accounts s s' ↔
      HoldsMint env accounts.sourceToken.data accounts.mint.key ∧
        HoldsMint env accounts.destinationToken.data accounts.mint.key := by
  obtain ⟨source, destination, account, unpacked, owner, transferring⟩ :=
    executeHookHandler_checks accepted
  rw [holdsMint_iff, holdsMint_iff]
  constructor
  · rintro ⟨⟨⟨-, held, unpacked', mint, -, -⟩, -, received⟩, -⟩
    exact ⟨⟨held, unpacked', mint⟩, received⟩
  · rintro ⟨⟨held, unpacked', mint⟩, received⟩
    -- the source unpacks to one account, so the mint and the flag are of the same account
    have same : account = held := Option.some.inj (unpacked.symm.trans unpacked')
    rw [← same] at mint
    refine ⟨⟨⟨source, account, unpacked, mint, owner, transferring⟩, destination, received⟩, ?_⟩
    intro event emitted
    obtain ⟨event', emitted', named⟩ := executeHookHandler_event accepted
    have events := List.append_cancel_left (emitted.symm.trans emitted')
    rw [List.cons.injEq, Event.proofSettled.injEq] at events
    rw [events.1, named]
    exact ⟨account, unpacked, mint⟩

/-! ## A staged transfer -/

namespace Scenario

def staging : HookPayloadAccounts where
  authority := authority
  issuer := issuer
  hookPayload := reference.hookPayloadAddress authority

/-- The payload for the transfer is created, grown, written and finalized. -/
def stage : List Call :=
  [.initHookPayload staging 365,
    .resizeHookPayload staging,
    .writeHookProof staging 0 (bundle bindings),
    .finalizeHookPayload staging nullifierHash mint 1 recipient 50
      { bubblegumTail := 0
        proofPresent := false
        proofBytes := Vector.replicate 128 0
        addressMtIndex := 0
        addressQueueIndex := 0
        addressRootIndex := 0
        outputStateTreeIndex := 0 }]

/-- A token account of the mint, flagged as transferring. -/
def tokenAccount (key mint : Pubkey) : AccountInfo where
  key
  owner := .ofNat 1000
  data := mint.bytes ++ authority.bytes ++ List.replicate 44 0 ++ [1] ++ List.replicate 56 0 ++
    [2, 15, 0, 1, 0, 1]

/-- `Execute` with a source account of the given mint. -/
def execute (sourceMint : Pubkey) : ExecuteHook where
  sourceToken := tokenAccount (.ofNat 30) sourceMint
  mint := { key := mint, owner := .ofNat 1000, data := [] }
  destinationToken := tokenAccount recipient mint
  owner := authority
  extraAccountMetaList := reference.extraAccountMetaListAddress mint
  hookPayload := reference.hookPayloadAddress authority
  issuer := issuer
  registry := reference.registryAddress
  bubblegumProgram := MPL_BUBBLEGUM_ID

end Scenario

open Scenario in
theorem executeHook_inFlight_staged : ∃ s',
    executeHookHandler reference (run reference prepared stage) clock (execute mint) 50
      [addressTree 20] = .ok s' ∧
    (InFlight reference (execute mint) ∧
        SettlesTransferred reference (execute mint) (run reference prepared stage) s' ↔
      HoldsMint reference (execute mint).sourceToken.data mint ∧
        HoldsMint reference (execute mint).destinationToken.data mint) := by
  have settles : (executeHookHandler reference (run reference prepared stage) clock
      (execute mint) 50 [addressTree 20]).isOk = true := by decide +kernel
  obtain ⟨s', accepted⟩ := exists_eq_ok settles
  exact ⟨s', accepted, executeHook_inFlight_iff _ s' clock _ 50 _ accepted⟩

open Scenario in
/-- A transfer of another mint is in flight, and the staged mint is settled. -/
theorem not_executeHook_inFlight :
    ¬ ∀ (Proof Address World : Type) (env : External Proof Address World) (world : World)
        (calls : List Call) (clock : Clock) (accounts : ExecuteHook) (amount : UInt64)
        (remaining : List AccountInfo) (s' : State World),
      step env (run env (.deployed world) calls)
          (.transferHook clock accounts amount remaining) = .ok s' →
        InFlight env accounts ∧
          SettlesTransferred env accounts (run env (.deployed world) calls) s' := by
  intro always
  have settles : (step reference (run reference prepared stage)
      (.transferHook clock (execute (.ofNat 31)) 50 [addressTree 20])).isOk = true := by
    decide +kernel
  rw [← run_prepare_append] at settles
  obtain ⟨s', accepted⟩ := exists_eq_ok settles
  have transfer := always _ _ _ reference [] (prepare ++ stage) clock _ 50 _ s' accepted
  obtain ⟨-, account, unpacked, mint, -⟩ := transfer.1.source
  -- the source account unpacks to one of mint 31, the payload is staged for mint 2
  have other : (reference.unpackTokenAccount (execute (.ofNat 31)).sourceToken.data).map
      TokenAccount.mint = some (.ofNat 31) := by decide +kernel
  rw [unpacked, Option.map_some, mint, Option.some.injEq] at other
  exact absurd other (by decide +kernel)

end ZkSettle.Program
