import ZkSettle.Stablecoin.Escrow

/-!
# The escrow allowance

The allowance of the escrow authority lives on the holder's account and outlives the
request unless the instruction that ends the request removes it. Approve burns it,
a cancel revokes it only when the holder cancels.
-/
namespace ZkSettle.Stablecoin

open Checks Transactional

variable {Key : Type} [DecidableEq Key]

/-- What a delegate may spend from an account. -/
def TokenAccount.allowance (a : TokenAccount Key) (delegate : Address Key) : Nat :=
  if a.delegate = some delegate then a.delegatedAmount else 0

/-- The allowance of the escrow authority of the treasury of the account's mint. -/
def TokenAccount.escrowAllowance (a : TokenAccount Key) : Nat :=
  a.allowance (.escrowAuthority (.treasury a.mint))

def Bank.escrowAllowance (b : Bank Key) (account : Address Key) : Nat :=
  match b.accounts account with
  | some a => a.escrowAllowance
  | none => 0

/-- An account has a nonzero escrow allowance only while a request for it is open. -/
def NoResidualAllowance (s : State Key) : Prop :=
  ∀ account, 0 < s.bank.escrowAllowance account →
    ∃ redemption r, s.requests redemption = some r ∧ r.tokenAccount = account

/-- The call approves or cancels a request for the account. -/
def EndsRequest (account : Address Key) (call : Call Key) : Prop :=
  match call.instruction with
  | .approveRedemption accounts => accounts.holderTokenAccount = account
  | .cancelRedemption accounts => accounts.holderTokenAccount = account
  | _ => False

/-- The instruction names a delegate of the account for a positive amount. -/
def TokenOp.Approves (op : TokenOp Key) (account delegate : Address Key) : Prop :=
  match op with
  | .approve source named amount => source = account ∧ named = delegate ∧ 0 < amount
  | .approveChecked source _ named amount _ => source = account ∧ named = delegate ∧ 0 < amount
  | _ => False

/-- The condition on a call: a request is approved only when the allowance is its amount;
nobody but the holder cancels it while there is an allowance; and nobody approves the
escrow authority directly for an account without an open request. -/
def KeepsAllowanceClean (s : State Key) (call : Call Key) : Prop :=
  match call.instruction with
  | .approveRedemption accounts => ∀ r, s.requests accounts.redemptionRequest = some r →
      s.bank.escrowAllowance r.tokenAccount = r.amount
  | .cancelRedemption accounts => ∀ r, s.requests accounts.redemptionRequest = some r →
      .key accounts.canceller = r.holder ∨ s.bank.escrowAllowance r.tokenAccount = 0
  | .token _ op => ∀ account a, s.bank.accounts account = some a →
      op.Approves account (.escrowAuthority (.treasury a.mint)) →
        ∃ redemption r, s.requests redemption = some r ∧ r.tokenAccount = account
  | _ => True

/-! ## The allowance under one token instruction -/

theorem Bank.escrowAllowance_held {b : Bank Key} {account : Address Key} {a : TokenAccount Key}
    (held : b.accounts account = some a) : b.escrowAllowance account = a.escrowAllowance := by
  simp [escrowAllowance, held]

theorem Bank.escrowAllowance_setMint (b : Bank Key) (mint : Address Key) (m : Mint Key)
    (account : Address Key) :
    (b.setMint mint m).escrowAllowance account = b.escrowAllowance account := rfl

theorem Bank.escrowAllowance_setAccount (b : Bank Key) (other account : Address Key)
    (a : Option (TokenAccount Key)) : (b.setAccount other a).escrowAllowance account =
      if account = other then (a.map TokenAccount.escrowAllowance).getD 0
      else b.escrowAllowance account := by
  by_cases same : account = other
  · subst same
    cases a <;> simp [escrowAllowance]
  · simp [escrowAllowance, same]

/-- Replacing an account by one that allows no more lowers no allowance bound. -/
private theorem escrowAllowance_set_le {b : Bank Key} {other : Address Key}
    {a' : Option (TokenAccount Key)}
    (below : (a'.map TokenAccount.escrowAllowance).getD 0 ≤ b.escrowAllowance other)
    (account : Address Key) :
    (b.setAccount other a').escrowAllowance account ≤ b.escrowAllowance account := by
  rw [Bank.escrowAllowance_setAccount]
  split
  next same => rw [same]; exact below
  next => exact le_rfl

theorem TokenAccount.spend_allowance {a a' : TokenAccount Key} {authority : Address Key}
    {amount : Nat} (spent : a.spend authority amount = some a') (delegate : Address Key) :
    a'.allowance delegate ≤ a.allowance delegate ∧
      (delegate = authority → a.allowance delegate ≤ amount → a'.allowance delegate = 0) := by
  unfold spend at spent
  split at spent
  next enough =>
    split at spent
    next delegated =>
      split at spent
      next allowed =>
        cases spent
        -- a used-up allowance is removed together with its delegate
        by_cases used : a.delegatedAmount = amount
        · simp [allowance, used]
        · simp only [allowance, if_neg used, delegated, Option.some.injEq]
          constructor
          · split <;> omega
          · rintro rfl below
            simp only [if_true] at below ⊢
            omega
      next => cases spent
    next other =>
      split at spent
      next =>
        cases spent
        refine ⟨le_rfl, ?_⟩
        rintro rfl -
        simp [allowance, other]
      next => cases spent
  next => cases spent

theorem TokenAccount.spend_escrowAllowance {a a' : TokenAccount Key} {authority : Address Key}
    {amount : Nat} (spent : a.spend authority amount = some a') :
    a'.escrowAllowance ≤ a.escrowAllowance := by
  obtain ⟨-, -, mint, -, -⟩ := spend_below spent
  unfold escrowAllowance
  rw [mint]
  exact (spend_allowance spent _).1

/-- An approval of another delegate, or of nothing, leaves no escrow allowance. -/
private theorem approved_escrowAllowance {a : TokenAccount Key} {delegate : Address Key}
    {amount : Nat} (unapproved : ¬ (delegate = .escrowAuthority (.treasury a.mint) ∧ 0 < amount)) :
    ({ a with delegate := some delegate, delegatedAmount := amount } :
      TokenAccount Key).escrowAllowance = 0 := by
  simp only [TokenAccount.escrowAllowance, TokenAccount.allowance, Option.some.injEq]
  split
  next same => exact Nat.eq_zero_of_not_pos fun positive => unapproved ⟨same, positive⟩
  next => rfl

/-- Only an approval raises the escrow allowance of an account. -/
theorem TokenEffect.escrowAllowance_le {b b' : Bank Key} {authority : Address Key}
    {op : TokenOp Key} (effect : TokenEffect b authority op b') (account : Address Key)
    (unapproved : ∀ a, b.accounts account = some a →
      ¬ op.Approves account (.escrowAuthority (.treasury a.mint))) :
    b'.escrowAllowance account ≤ b.escrowAllowance account := by
  cases effect with
  | initializeMint2 => exact le_rfl
  | initializeAccount =>
    apply escrowAllowance_set_le
    simp [TokenAccount.escrowAllowance, TokenAccount.allowance]
  | mintTo minted held =>
    apply escrowAllowance_set_le
    rw [Bank.escrowAllowance_setMint, Bank.escrowAllowance_held held]
    exact le_rfl
  | burn minted held sameMint thawed spent =>
    apply escrowAllowance_set_le
    rw [Bank.escrowAllowance_setMint, Bank.escrowAllowance_held held]
    exact TokenAccount.spend_escrowAllowance spent
  | @transfer source destination _ a a' d _ held thawed spent receives _ _ distinct =>
    -- the destination keeps its delegate, and the source may have spent from its own
    refine (escrowAllowance_set_le ?_ account).trans (escrowAllowance_set_le ?_ account)
    · rw [Bank.escrowAllowance_setAccount, if_neg distinct.symm, Bank.escrowAllowance_held receives]
      exact le_rfl
    · rw [Bank.escrowAllowance_held held]
      exact TokenAccount.spend_escrowAllowance spent
  | selfTransfer => exact le_rfl
  | approve held =>
    rw [Bank.escrowAllowance_setAccount]
    split
    next same =>
      have zero := approved_escrowAllowance fun named =>
        unapproved _ (same ▸ held) ⟨same.symm, named⟩
      simp [zero]
    next => exact le_rfl
  | approveChecked minted held =>
    rw [Bank.escrowAllowance_setAccount]
    split
    next same =>
      have zero := approved_escrowAllowance fun named =>
        unapproved _ (same ▸ held) ⟨same.symm, named⟩
      simp [zero]
    next => exact le_rfl
  | revoke held =>
    apply escrowAllowance_set_le
    simp [TokenAccount.escrowAllowance, TokenAccount.allowance]
  | setAccountOwner held =>
    apply escrowAllowance_set_le
    simp [TokenAccount.escrowAllowance, TokenAccount.allowance]
  | setMintAuthority => exact le_rfl
  | setFreezeAuthority => exact le_rfl
  | closeAccount =>
    apply escrowAllowance_set_le
    simp
  | freezeAccount minted held =>
    apply escrowAllowance_set_le
    rw [Bank.escrowAllowance_held held]
    exact le_rfl
  | thawAccount minted held =>
    apply escrowAllowance_set_le
    rw [Bank.escrowAllowance_held held]
    exact le_rfl

/-- The burn of an approved redemption uses up an allowance of at most its amount. -/
theorem TokenEffect.burn_escrowAllowance {b b' : Bank Key} {account mint : Address Key}
    {amount : Nat}
    (effect : TokenEffect b (.escrowAuthority (.treasury mint)) (.burn account mint amount) b')
    (below : b.escrowAllowance account ≤ amount) : b'.escrowAllowance account = 0 := by
  cases effect with
  | burn minted held sameMint thawed spent =>
    obtain ⟨-, -, keptMint, -, -⟩ := TokenAccount.spend_below spent
    rw [Bank.escrowAllowance_held held, TokenAccount.escrowAllowance, sameMint] at below
    have zero := (TokenAccount.spend_allowance spent _).2 rfl below
    simp [Bank.escrowAllowance_setAccount, TokenAccount.escrowAllowance, keptMint, sameMint, zero]

theorem TokenEffect.revoke_escrowAllowance {b b' : Bank Key} {authority account : Address Key}
    (effect : TokenEffect b authority (.revoke account) b') : b'.escrowAllowance account = 0 := by
  cases effect
  simp [Bank.escrowAllowance_setAccount, TokenAccount.escrowAllowance, TokenAccount.allowance]

/-! ## The allowance under one step -/

private theorem noResidualAllowance_of_le {s s' : State Key} (clean : NoResidualAllowance s)
    (sameRequests : s'.requests = s.requests)
    (below : ∀ account, s'.bank.escrowAllowance account ≤ s.bank.escrowAllowance account) :
    NoResidualAllowance s' := by
  intro account positive
  rw [sameRequests]
  exact clean account (positive.trans_le (below account))

/-- Ending a request is clean when it leaves no allowance on the request's account. -/
private theorem noResidualAllowance_of_ended {s s' : State Key} {ended : Address Key}
    {r : RedemptionRequest Key} (clean : NoResidualAllowance s)
    (present : s.requests ended = some r)
    (requests : s'.requests = Function.update s.requests ended none)
    (below : ∀ account, s'.bank.escrowAllowance account ≤ s.bank.escrowAllowance account)
    (zero : s'.bank.escrowAllowance r.tokenAccount = 0) : NoResidualAllowance s' := by
  intro account positive
  obtain ⟨redemption, r', pending, tokenAccount⟩ :=
    clean account (positive.trans_le (below account))
  have other : redemption ≠ ended := by
    rintro rfl
    rw [present] at pending
    cases pending
    rw [← tokenAccount, zero] at positive
    exact Nat.lt_irrefl 0 positive
  exact ⟨redemption, r', by rw [requests, Function.update_of_ne other]; exact pending,
    tokenAccount⟩

theorem noResidualAllowance_effect {s s' : State Key} {call : Call Key}
    (effect : Effect s call.now call.instruction s') (keeps : KeepsAllowanceClean s call)
    (clean : NoResidualAllowance s) : NoResidualAllowance s' ∧
      ∀ account, EndsRequest account call → s'.bank.escrowAllowance account = 0 := by
  obtain ⟨now, instruction⟩ := call
  cases effect with
  | initializeMint loaded created =>
    exact ⟨noResidualAllowance_of_le clean rfl
      fun account => created.escrowAllowance_le account fun _ _ => id, fun _ => False.elim⟩
  | mintTokens loaded unpaused positive capped minted =>
    exact ⟨noResidualAllowance_of_le clean rfl
      fun account => minted.escrowAllowance_le account fun _ _ => id, fun _ => False.elim⟩
  | @requestRedemption accounts amount t a approvedBank bank loaded unpaused positive thawed enough
      approved frozen bounded =>
    refine ⟨?_, fun _ => False.elim⟩
    intro account positive
    -- the account of the new request has its request, the others kept theirs
    by_cases same : account = accounts.holderTokenAccount
    · exact ⟨accounts.redemptionRequest, _, Function.update_self .., same.symm⟩
    · have below := (frozen.escrowAllowance_le account fun _ _ => id).trans
        (approved.escrowAllowance_le account fun _ _ approves => same approves.1.symm)
      obtain ⟨redemption, r, pending, tokenAccount⟩ := clean account (positive.trans_le below)
      have other : redemption ≠ accounts.redemptionRequest := by
        rintro rfl
        rw [loaded.fresh] at pending
        cases pending
      exact ⟨redemption, r, (Function.update_of_ne other ..).trans pending, tokenAccount⟩
  | @approveRedemption accounts t r thawedBank bank loaded operator unpaused thawed burned
      bounded =>
    have unfrozen := fun account => thawed.escrowAllowance_le account fun _ _ => id
    have below := fun account => (burned.escrowAllowance_le account fun _ _ => id).trans
      (unfrozen account)
    have zero : bank.escrowAllowance accounts.holderTokenAccount = 0 := by
      have exact := keeps r loaded.request
      rw [← loaded.tokenAccount] at exact
      -- the burn is by the escrow authority that holds the allowance
      rw [loaded.treasury, ← loaded.mint] at burned
      exact burned.burn_escrowAllowance ((unfrozen _).trans exact.le)
    refine ⟨noResidualAllowance_of_ended clean loaded.request rfl below ?_, ?_⟩
    · rw [← loaded.tokenAccount]
      exact zero
    · rintro account rfl
      exact zero
  | @cancelRedemption accounts t r thawedBank bank loaded allowed thawed revoked =>
    have unfrozen := fun account => thawed.escrowAllowance_le account fun _ _ => id
    have both : (∀ account, bank.escrowAllowance account ≤ s.bank.escrowAllowance account) ∧
        bank.escrowAllowance accounts.holderTokenAccount = 0 := by
      split at revoked
      next =>
        exact ⟨fun account => (revoked.escrowAllowance_le account fun _ _ => id).trans
          (unfrozen account), revoked.revoke_escrowAllowance⟩
      next other =>
        -- nobody revokes: the condition says that there is nothing to revoke
        subst revoked
        have none := (keeps r loaded.request).resolve_left other
        rw [← loaded.tokenAccount] at none
        exact ⟨unfrozen, Nat.le_zero.mp ((unfrozen _).trans none.le)⟩
    obtain ⟨below, zero⟩ := both
    refine ⟨noResidualAllowance_of_ended clean loaded.request rfl below ?_, ?_⟩
    · rw [← loaded.tokenAccount]
      exact zero
    · rintro account rfl
      exact zero
  | freezeAccount loaded unpaused frozen =>
    exact ⟨noResidualAllowance_of_le clean rfl
      fun account => frozen.escrowAllowance_le account fun _ _ => id, fun _ => False.elim⟩
  | thawAccount loaded thawed =>
    exact ⟨noResidualAllowance_of_le clean rfl
      fun account => thawed.escrowAllowance_le account fun _ _ => id, fun _ => False.elim⟩
  | govern governs =>
    refine ⟨noResidualAllowance_of_le clean rfl fun account => le_rfl, ?_⟩
    intro account ends
    cases instruction <;> first | exact ends.elim | exact governs.elim
  | @token signer op bank processed =>
    refine ⟨?_, fun _ => False.elim⟩
    intro account positive
    by_cases approves : ∃ a, s.bank.accounts account = some a ∧
        op.Approves account (.escrowAuthority (.treasury a.mint))
    · obtain ⟨a, held, approves⟩ := approves
      exact keeps account a held approves
    · have below := processed.escrowAllowance_le account
        fun a held named => approves ⟨a, held, named⟩
      exact clean account (positive.trans_le below)

variable {process : TokenProgram Key}

theorem noResidualAllowance_run (documented : Documented process) (calls : List (Call Key))
    (keeps : Meets (step process) KeepsAllowanceClean .empty calls) :
    NoResidualAllowance (run process .empty calls) := by
  refine run_invariant_of_meets ?preserved State.empty calls keeps ?initial
  case initial =>
    intro account positive
    simp [State.empty, Bank.escrowAllowance] at positive
  case preserved =>
    intro s call s' clean keeps accepted
    exact (noResidualAllowance_effect (step_effect documented accepted) keeps clean).1

/-- What the program promises about the allowance in a state: none without an open
request, and none after the call that ends a request. -/
structure AllowanceClean (process : TokenProgram Key) (s : State Key) (call : Call Key) : Prop where
  residual : NoResidualAllowance s
  ended : ∀ account s', step process s call = .ok s' → EndsRequest account call →
    s'.bank.escrowAllowance account = 0

/-- In every run whose calls all meet the condition there is no residual allowance, and
no call that meets it leaves an allowance where it ends a request. -/
theorem run_allowanceClean (documented : Documented process) (calls : List (Call Key))
    (call : Call Key)
    (keeps : Meets (step process) KeepsAllowanceClean .empty (calls ++ [call])) :
    AllowanceClean process (run process .empty calls) call := by
  rw [meets_append] at keeps
  obtain ⟨before, ⟨last, -⟩⟩ := keeps
  have clean := noResidualAllowance_run documented calls before
  constructor
  · exact clean
  · intro account s' accepted ends
    exact (noResidualAllowance_effect (step_effect documented accepted) (last s' accepted)
      clean).2 account ends

open Scenario in
theorem run_allowanceClean_requested :
    AllowanceClean reference (run reference .empty (funded ++ [request]))
      ⟨0, cancelBy redemption requested 1⟩ := by
  apply run_allowanceClean reference_documented (funded ++ [request])
  refine ⟨fun _ _ => trivial, fun _ _ _ _ _ => False.elim, fun _ _ => trivial, fun _ _ => trivial,
    ?_, trivial⟩
  intro _ _ r pending
  have opened : (run reference .empty (funded ++ [request])).requests redemption =
      some requested := by decide
  have same := opened.symm.trans pending
  cases same
  exact Or.inl rfl

open Scenario in
/-- The admin cancels the open request; the escrow authority keeps its allowance of 40. -/
theorem not_run_allowanceClean :
    ¬ ∀ calls call,
      AllowanceClean reference (run reference (State.empty : State Nat) calls) call := by
  intro always
  have clean := always (funded ++ [request]) ⟨0, cancelBy redemption requested 0⟩
  have zero := clean.ended account _ rfl rfl
  have left : (run reference .empty (funded ++
      [request, ⟨0, cancelBy redemption requested 0⟩])).bank.escrowAllowance account = 40 := by
    decide
  have same := left.symm.trans zero
  cases same

end ZkSettle.Stablecoin
