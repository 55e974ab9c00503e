import ZkSettle.Stablecoin.Escrow

/-!
# Compliance freezes

An account has one freeze bit, which the admin sets for compliance and a request
sets for its escrow. When the admin freezes an account that no open request can
thaw, it stays frozen until an admin thaw. When there is such a request, its holder
lifts the freeze by cancelling.
-/
namespace ZkSettle.Stablecoin

open Checks Transactional

variable {Key : Type}

/-- The call is no admin thaw of the account and does not close it. Token-2022 lets the
owner close a frozen account that is empty. -/
def KeepsFreeze (account : Address Key) (_ : State Key) (call : Call Key) : Prop :=
  match call.instruction with
  | .thawAccount accounts => accounts.targetAccount ≠ account
  | .token _ (.closeAccount closed) => closed ≠ account
  | _ => True

/-- The account is frozen now and after every run without an admin thaw of it. -/
def StaysFrozen [DecidableEq Key] (process : TokenProgram Key) (s : State Key)
    (account : Address Key) : Prop :=
  ∀ calls, Meets (step process) (KeepsFreeze account) s calls →
    ∃ a, (run process s calls).bank.accounts account = some a ∧ a.frozen = true

/-- A request that can be ended with this account: it names the account, its owner and
its mint. -/
structure Requests (r : RedemptionRequest Key) (account : Address Key) (a : TokenAccount Key) :
    Prop where
  tokenAccount : r.tokenAccount = account
  holder : r.holder = a.owner
  mint : r.mint = a.mint

variable [DecidableEq Key]

/-- A frozen account of a treasury's mint that no open request can thaw. -/
structure HeldFrozen (account : Address Key) (a : TokenAccount Key) (s : State Key) : Prop where
  wellFormed : WellFormed s
  held : s.bank.accounts account = some a
  frozen : a.frozen = true
  treasury : ∃ treasury t, s.treasuries treasury = some t ∧ t.mint = a.mint
  unrequested : ∀ redemption r, s.requests redemption = some r → ¬ Requests r account a

/-! ## Without a request the freeze lasts -/

/-- A step that opens no request keeps the freeze if it keeps the account. -/
private theorem heldFrozen_of_kept {s s' : State Key} {call : Call Key} {account : Address Key}
    {a : TokenAccount Key} (invariant : HeldFrozen account a s)
    (effect : Effect s call.now call.instruction s')
    (opensNone : ∀ redemption r, s'.requests redemption = some r → s.requests redemption = some r)
    (kept : s'.bank.accounts account = some a) : HeldFrozen account a s' where
  wellFormed := wellFormed_effect effect invariant.wellFormed
  held := kept
  frozen := invariant.frozen
  treasury := by
    obtain ⟨treasury, t, found, mint⟩ := invariant.treasury
    obtain ⟨t', found', sameMint⟩ := effect.treasury_kept found
    exact ⟨treasury, t', found', sameMint.trans mint⟩
  unrequested := by
    intro redemption r pending
    exact invariant.unrequested redemption r (opensNone redemption r pending)

private theorem still_pending {s : State Key} {ended redemption : Address Key}
    {r : RedemptionRequest Key}
    (pending : Function.update s.requests ended none redemption = some r) :
    s.requests redemption = some r := by
  rw [Function.update_apply] at pending
  split at pending
  · cases pending
  · exact pending

/-- The account of a request that is ended is not the frozen one. -/
private theorem ended_unrequested {s : State Key} {account : Address Key} {a : TokenAccount Key}
    (invariant : HeldFrozen account a s) {accounts : RedemptionAccounts Key} {t : Treasury Key}
    {r : RedemptionRequest Key} (loaded : accounts.Loaded s t r) :
    accounts.holderTokenAccount ≠ account := by
  intro same
  -- the checks of approve and cancel match holder and mint against the account
  obtain ⟨o, held, sameMint, owner⟩ := loaded.held
  rw [same, invariant.held] at held
  cases held
  apply invariant.unrequested _ r loaded.request
  constructor
  · rw [← loaded.tokenAccount, same]
  · rw [loaded.requestHolder, owner]
  · rw [loaded.requestMint, loaded.mint, sameMint]

theorem heldFrozen_effect {s s' : State Key} {call : Call Key} {account : Address Key}
    {a : TokenAccount Key} (effect : Effect s call.now call.instruction s')
    (keeps : KeepsFreeze account s call) (invariant : HeldFrozen account a s) :
    HeldFrozen account a s' := by
  obtain ⟨now, instruction⟩ := call
  have whole := effect
  have held := invariant.held
  have frozen := invariant.frozen
  cases effect with
  | initializeMint loaded created =>
    exact heldFrozen_of_kept invariant whole (fun _ _ pending => pending)
      (created.frozen_kept held frozen id)
  | mintTokens loaded unpaused positive capped minted =>
    exact heldFrozen_of_kept invariant whole (fun _ _ pending => pending)
      (minted.frozen_kept held frozen id)
  | @requestRedemption accounts amount t o approvedBank bank loaded unpaused positive thawed enough
      approved froze bounded =>
    -- the requested account was not frozen
    have elsewhere : accounts.holderTokenAccount ≠ account := by
      intro same
      have present := loaded.held
      rw [same, held] at present
      cases present
      rw [frozen] at thawed
      cases thawed
    refine ⟨wellFormed_effect whole invariant.wellFormed,
      froze.frozen_kept (approved.frozen_kept held frozen id) frozen id, frozen, ?_, ?_⟩
    · obtain ⟨treasury, t, found, mint⟩ := invariant.treasury
      obtain ⟨t', found', sameMint⟩ := whole.treasury_kept found
      exact ⟨treasury, t', found', sameMint.trans mint⟩
    · intro redemption r pending
      simp only [State.emit_requests, State.setTreasury_requests, State.setRequest_requests,
        Function.update_apply] at pending
      split at pending
      · cases pending
        exact fun requests => elsewhere requests.tokenAccount
      · exact invariant.unrequested redemption r pending
  | approveRedemption loaded operator unpaused thawed burned =>
    have elsewhere := ended_unrequested invariant loaded
    exact heldFrozen_of_kept invariant whole (fun _ _ pending => still_pending pending)
      (burned.frozen_kept (thawed.frozen_kept held frozen elsewhere) frozen id)
  | cancelRedemption loaded allowed thawed revoked =>
    have unfrozen := thawed.frozen_kept held frozen (ended_unrequested invariant loaded)
    refine heldFrozen_of_kept invariant whole (fun _ _ pending => still_pending pending) ?_
    split at revoked
    · exact revoked.frozen_kept unfrozen frozen id
    · subst revoked
      exact unfrozen
  | freezeAccount loaded unpaused froze =>
    exact heldFrozen_of_kept invariant whole (fun _ _ pending => pending)
      (froze.frozen_kept held frozen id)
  | thawAccount loaded thawed =>
    exact heldFrozen_of_kept invariant whole (fun _ _ pending => pending)
      (thawed.frozen_kept held frozen keeps)
  | govern =>
    exact heldFrozen_of_kept invariant whole (fun _ _ pending => pending) held
  | @token signer op bank processed =>
    obtain ⟨treasury, t, found, mint⟩ := invariant.treasury
    have unclosed : op ≠ .closeAccount account := by
      rintro rfl
      exact keeps rfl
    exact heldFrozen_of_kept invariant whole (fun _ _ pending => pending)
      (processed.frozen_kept held frozen
        (not_releases_of_key invariant.wellFormed processed found held mint.symm unclosed))

variable {process : TokenProgram Key}

theorem heldFrozen_run (documented : Documented process) {s : State Key} {account : Address Key}
    {a : TokenAccount Key} (invariant : HeldFrozen account a s) (calls : List (Call Key))
    (keeps : Meets (step process) (KeepsFreeze account) s calls) :
    HeldFrozen account a (run process s calls) :=
  run_invariant_of_meets (fun _ _ _ invariant keeps accepted =>
    heldFrozen_effect (step_effect documented accepted) keeps invariant) s calls keeps invariant

/-! ## With a request the holder lifts the freeze -/

theorem cancelled_thawed (documented : Documented process) {s s' : State Key}
    {redemption : Address Key} {r : RedemptionRequest Key} {holder : Key} {now : Int}
    (pending : s.requests redemption = some r)
    (accepted : step process s ⟨now, cancelBy redemption r holder⟩ = .ok s') :
    ∀ a, s'.bank.accounts r.tokenAccount = some a → a.frozen = false := by
  intro a held
  have effect := step_effect documented accepted
  simp only [cancelBy] at effect
  cases effect with
  | cancelRedemption loaded allowed thawed revoked =>
    have same := loaded.request
    simp only [redemptionAccounts] at same thawed revoked
    rw [pending] at same
    cases same
    cases thawed
    -- the bank after the thaw, with or without the revoke
    split at revoked
    · cases revoked with
      | revoke present unfrozen =>
        simp only [State.setRequest_bank, State.emit_bank, Bank.setAccount_self] at held
        cases held
        exact unfrozen
    · subst revoked
      simp only [State.setRequest_bank, State.emit_bank, Bank.setAccount_self] at held
      cases held
      rfl
  | govern governs => exact governs.elim

/-! ## A compliance freeze is sticky exactly without an open request -/

/-- An open request that can be ended with the account as it is. -/
def OpenlyRequested (s : State Key) (account : Address Key) : Prop :=
  ∃ a redemption r, s.bank.accounts account = some a ∧ s.requests redemption = some r ∧
    Requests r account a

/-- What a successful admin freeze leaves: the account frozen, the requests as before. -/
private theorem adminFreeze_cases (documented : Documented process) {s s' : State Key}
    {now : Int} {accounts : FreezeOrThaw Key}
    (froze : step process s ⟨now, .freezeAccount accounts⟩ = .ok s') :
    ∃ t a, accounts.Loaded s t ∧ s.bank.accounts accounts.targetAccount = some a ∧
      s'.bank.accounts accounts.targetAccount = some { a with frozen := true } ∧
      a.mint = t.mint ∧ s'.requests = s.requests ∧ s'.treasuries = s.treasuries := by
  have effect := step_effect documented froze
  simp only at effect
  cases effect with
  | @freezeAccount _ t _ loaded unpaused frozen =>
    cases frozen with
    | freezeAccount minted held sameMint =>
      exact ⟨t, _, loaded, held, Bank.setAccount_self .., sameMint.trans loaded.mint, rfl, rfl⟩
  | govern governs => exact governs.elim

private theorem not_staysFrozen_of_request (documented : Documented process) {s : State Key}
    {account redemption : Address Key} {a : TokenAccount Key} {r : RedemptionRequest Key}
    (wellFormed : WellFormed s) (pending : s.requests redemption = some r)
    (held : s.bank.accounts account = some a) (frozen : a.frozen = true)
    (requests : Requests r account a) : ¬ StaysFrozen process s account := by
  intro stays
  -- the continuation is the holder's cancel, which is accepted and thaws
  obtain ⟨⟨holder, signer⟩, -⟩ := wellFormed.issued redemption r pending
  obtain ⟨s', accepted⟩ := cancel_succeeds documented wellFormed pending
    (requests.tokenAccount ▸ held) requests.mint.symm requests.holder.symm frozen signer 0
  have keeps : Meets (step process) (KeepsFreeze account) s [⟨0, cancelBy redemption r holder⟩] :=
    ⟨fun _ _ => trivial, trivial⟩
  obtain ⟨o, held', frozen'⟩ := stays _ keeps
  simp only [run, run_cons, run_nil, commit_ok accepted] at held'
  have thawed := cancelled_thawed documented pending accepted o (requests.tokenAccount ▸ held')
  rw [thawed] at frozen'
  cases frozen'

/-- In every reachable state, an admin freeze lasts until an admin thaw if and only if no
open request can be ended with the account. -/
theorem adminFreeze_staysFrozen_iff (documented : Documented process)
    (history : List (Call Key)) (now : Int) (accounts : FreezeOrThaw Key) (s' : State Key)
    (froze : step process (run process .empty history) ⟨now, .freezeAccount accounts⟩ = .ok s') :
    StaysFrozen process s' accounts.targetAccount ↔
      ¬ OpenlyRequested (run process .empty history) accounts.targetAccount := by
  have wellFormed := wellFormed_run documented history
  have wellFormed' := wellFormed_step documented wellFormed froze
  obtain ⟨t, a, loaded, held, held', mint, requests, treasuries⟩ :=
    adminFreeze_cases documented froze
  constructor
  · -- the holder of an open request can have the account thawed by its approval
    rintro stays ⟨o, redemption, r, present, pending, requested⟩
    rw [held] at present
    cases present
    rw [← requests] at pending
    exact not_staysFrozen_of_request documented wellFormed' pending held' rfl
      ⟨requested.tokenAccount, requested.holder, requested.mint⟩ stays
  · -- without one, a frozen account cannot open a request either
    intro unrequested calls keeps
    have invariant : HeldFrozen accounts.targetAccount { a with frozen := true } s' := by
      refine ⟨wellFormed', held', rfl, ⟨accounts.treasury, t, ?_, mint.symm⟩, ?_⟩
      · rw [treasuries]
        exact loaded.found
      · intro redemption r pending requested
        rw [requests] at pending
        exact unrequested ⟨a, redemption, r, held, pending,
          ⟨requested.tokenAccount, requested.holder, requested.mint⟩⟩
    have final := heldFrozen_run documented invariant calls keeps
    exact ⟨_, final.held, final.frozen⟩

open Scenario in
theorem adminFreeze_staysFrozen_funded :
    StaysFrozen reference (run reference .empty (funded ++ [⟨0, .freezeAccount freezeOrThaw⟩]))
      account ↔ ¬ OpenlyRequested (run reference .empty funded) account :=
  adminFreeze_staysFrozen_iff reference_documented funded 0 freezeOrThaw _ rfl

open Scenario in
/-- The admin thaws an account with an open request and freezes it again; the holder
cancels the request and the account is thawed. -/
theorem not_adminFreeze_staysFrozen :
    ¬ ∀ (history : List (Call Nat)) (now : Int) (accounts : FreezeOrThaw Nat) (s' : State Nat),
      step reference (run reference .empty history) ⟨now, .freezeAccount accounts⟩ = .ok s' →
        StaysFrozen reference s' accounts.targetAccount := by
  intro sticky
  have stays := sticky (funded ++ [request, ⟨0, .thawAccount freezeOrThaw⟩]) 0 freezeOrThaw _ rfl
  obtain ⟨a, held, frozen⟩ := stays [⟨0, cancelBy redemption requested 1⟩]
    ⟨fun _ _ => trivial, trivial⟩
  have thawed : (run reference .empty (funded ++ [request, ⟨0, .thawAccount freezeOrThaw⟩,
      ⟨0, .freezeAccount freezeOrThaw⟩, ⟨0, cancelBy redemption requested 1⟩])).bank.accounts
        account = some { mint, owner := .key 1, amount := 100, delegate := none,
                         delegatedAmount := 0, frozen := false } := by decide
  have same := thawed.symm.trans held
  cases same
  cases frozen

end ZkSettle.Stablecoin
