import ZkSettle.Stablecoin.WellFormed

/-!
# Escrow of open redemption requests

The escrow of a request is not a vault: the tokens stay on the holder's own account,
which is frozen and delegated to the treasury's escrow authority. As long as the
admin does not thaw an account with an open request, every open request is escrowed,
no account carries two of them, and the holder can cancel and the operator approve.
-/
namespace ZkSettle.Stablecoin

open Checks Transactional

variable {Key : Type}

/-- The account of a request is frozen and delegated for the requested amount. -/
structure Escrowed (b : Bank Key) (r : RedemptionRequest Key) (a : TokenAccount Key) : Prop where
  held : b.accounts r.tokenAccount = some a
  mint : a.mint = r.mint
  owner : a.owner = r.holder
  frozen : a.frozen = true
  delegate : a.delegate = some (.escrowAuthority r.treasury)
  allowance : r.amount ≤ a.delegatedAmount
  balance : r.amount ≤ a.amount

/-- The accounts with which a request can be approved or cancelled. -/
def redemptionAccounts (redemption : Address Key) (r : RedemptionRequest Key) :
    RedemptionAccounts Key where
  holder := r.holder
  treasury := r.treasury
  mint := r.mint
  redemptionRequest := redemption
  holderTokenAccount := r.tokenAccount
  escrowAuthority := .escrowAuthority r.treasury
  freezeAuthority := .freezeAuthority r.treasury

def cancelBy (redemption : Address Key) (r : RedemptionRequest Key) (canceller : Key) :
    Instruction Key :=
  .cancelRedemption { redemptionAccounts redemption r with canceller }

def approveBy (redemption : Address Key) (r : RedemptionRequest Key) (operator : Key) :
    Instruction Key :=
  .approveRedemption { redemptionAccounts redemption r with operator }

variable [DecidableEq Key]

/-- What an open request promises: it is escrowed, its holder can cancel it at any
time, and the operator can approve it unless the program is paused. -/
structure Redeemable (process : TokenProgram Key) (s : State Key) (redemption : Address Key)
    (r : RedemptionRequest Key) : Prop where
  escrowed : ∃ a, Escrowed s.bank r a
  holderCancels : ∃ holder, r.holder = .key holder ∧
    ∀ now, ∃ s', step process s ⟨now, cancelBy redemption r holder⟩ = .ok s'
  operatorApproves : ∃ t, s.treasuries r.treasury = some t ∧ (t.paused = false →
    ∀ operator, t.operator = .key operator →
      ∀ now, ∃ s', step process s ⟨now, approveBy redemption r operator⟩ = .ok s')

/-- The call is no admin thaw of an account with an open request. -/
def SparesEscrow (s : State Key) (call : Call Key) : Prop :=
  ∀ accounts, call.instruction = .thawAccount accounts →
    ∀ redemption r, s.requests redemption = some r → r.tokenAccount ≠ accounts.targetAccount

structure EscrowInvariant (s : State Key) : Prop where
  wellFormed : WellFormed s
  escrowed : ∀ redemption r, s.requests redemption = some r → ∃ a, Escrowed s.bank r a
  single : ∀ redemption other r r', s.requests redemption = some r → s.requests other = some r' →
    r.tokenAccount = r'.tokenAccount → redemption = other

/-! ## Escrow under one token instruction -/

theorem Escrowed.of_effect {b b' : Bank Key} {authority : Address Key} {op : TokenOp Key}
    {r : RedemptionRequest Key} {a : TokenAccount Key} (escrowed : Escrowed b r a)
    (effect : TokenEffect b authority op b') (locked : ¬ op.Releases r.tokenAccount) :
    Escrowed b' r a where
  held := effect.frozen_kept escrowed.held escrowed.frozen locked
  mint := escrowed.mint
  owner := escrowed.owner
  frozen := escrowed.frozen
  delegate := escrowed.delegate
  allowance := escrowed.allowance
  balance := escrowed.balance

/-- No key can release an account of the program's mint that holds tokens. -/
theorem not_releases_of_key {s : State Key} (wellFormed : WellFormed s) {bank : Bank Key}
    {signer : Key} {op : TokenOp Key} (effect : TokenEffect s.bank (.key signer) op bank)
    {account treasury : Address Key} {a : TokenAccount Key} {t : Treasury Key}
    (found : s.treasuries treasury = some t) (held : s.bank.accounts account = some a)
    (mint : a.mint = t.mint) (unclosed : op ≠ .closeAccount account) : ¬ op.Releases account := by
  intro releases
  obtain ⟨m, minted, backs⟩ := wellFormed.backed treasury t found
  cases effect with
  | closeAccount =>
    simp only [TokenOp.Releases] at releases
    exact unclosed (by rw [releases])
  | thawAccount present thawed sameMint signed =>
    -- the freeze authority of the mint is a derived address, which no key signs for
    simp only [TokenOp.Releases] at releases
    subst releases
    rw [held] at thawed
    cases thawed
    rw [← sameMint, mint, minted] at present
    cases present
    rw [backs.freezeAuthority] at signed
    cases signed
  | _ => exact releases

theorem Escrowed.not_closed {b b' : Bank Key} {authority account : Address Key}
    {r : RedemptionRequest Key} {a : TokenAccount Key} (escrowed : Escrowed b r a)
    (positive : 0 < r.amount) (effect : TokenEffect b authority (.closeAccount account) b') :
    account ≠ r.tokenAccount := by
  rintro rfl
  cases effect with
  | closeAccount held emptied =>
    rw [escrowed.held] at held
    cases held
    have balance := escrowed.balance
    omega

/-- The approval and the freeze of a request leave its account escrowed. -/
private theorem escrowed_of_request {s : State Key} {accounts : RequestRedemption Key}
    {t : Treasury Key} {a : TokenAccount Key} {amount : Nat} {now : Int}
    {approvedBank bank : Bank Key} (loaded : accounts.Loaded s t a) (enough : amount ≤ a.amount)
    (approved : TokenEffect s.bank (.key accounts.holder)
      (.approveChecked accounts.holderTokenAccount accounts.mint
        (.escrowAuthority accounts.treasury) amount t.decimals) approvedBank)
    (frozen : TokenEffect approvedBank (.freezeAuthority accounts.treasury)
      (.freezeAccount accounts.holderTokenAccount accounts.mint) bank) :
    ∃ o, Escrowed bank
      { holder := .key accounts.holder, treasury := accounts.treasury, mint := accounts.mint,
        tokenAccount := accounts.holderTokenAccount, amount, nonce := t.redemptionNonce,
        requestedAt := now } o := by
  cases approved with
  | approveChecked minted held sameMint sameDecimals thawed signed =>
    rw [loaded.held] at held
    cases held
    cases frozen with
    | @freezeAccount _ _ _ o minted held =>
      simp only [Bank.setAccount_accounts, Function.update_self, Option.some.injEq] at held
      subst held
      exact ⟨_, Bank.setAccount_self .., sameMint, signed, rfl, rfl, le_rfl, enough⟩

/-! ## Escrow under one step -/

/-- A step that opens no request keeps the invariant if it keeps each escrow. -/
private theorem escrowInvariant_of_kept {s s' : State Key} (invariant : EscrowInvariant s)
    (wellFormed : WellFormed s')
    (opensNone : ∀ redemption r, s'.requests redemption = some r → s.requests redemption = some r)
    (kept : ∀ redemption r a, s'.requests redemption = some r → Escrowed s.bank r a →
      Escrowed s'.bank r a) : EscrowInvariant s' where
  wellFormed := wellFormed
  escrowed := by
    intro redemption r pending
    obtain ⟨a, escrowed⟩ := invariant.escrowed redemption r (opensNone redemption r pending)
    exact ⟨a, kept redemption r a pending escrowed⟩
  single := by
    intro redemption other r r' pending pending' same
    exact invariant.single redemption other r r' (opensNone redemption r pending)
      (opensNone other r' pending') same

/-- A request may be opened on an account that no open request has. -/
private theorem escrowInvariant_of_opened {s s' : State Key} (invariant : EscrowInvariant s)
    (wellFormed : WellFormed s') {opened : Address Key} {request : RedemptionRequest Key}
    (requests : s'.requests = Function.update s.requests opened (some request))
    (elsewhere : ∀ redemption r, s.requests redemption = some r →
      r.tokenAccount ≠ request.tokenAccount)
    (holds : ∃ a, Escrowed s'.bank request a)
    (kept : ∀ redemption r a, s.requests redemption = some r → Escrowed s.bank r a →
      Escrowed s'.bank r a) : EscrowInvariant s' where
  wellFormed := wellFormed
  escrowed := by
    intro redemption r pending
    rw [requests, Function.update_apply] at pending
    split at pending
    next =>
      cases pending
      exact holds
    next =>
      obtain ⟨a, escrowed⟩ := invariant.escrowed redemption r pending
      exact ⟨a, kept redemption r a pending escrowed⟩
  single := by
    intro redemption other r r' pending pending' same
    rw [requests, Function.update_apply] at pending pending'
    split at pending
    next this =>
      split at pending'
      next that => rw [this, that]
      next =>
        cases pending
        exact absurd same.symm (elsewhere other r' pending')
    next =>
      split at pending'
      next =>
        cases pending'
        exact absurd same (elsewhere redemption r pending)
      next => exact invariant.single redemption other r r' pending pending' same

/-- A request may end, since the open ones have other accounts. -/
private theorem escrowInvariant_of_ended {s s' : State Key} (invariant : EscrowInvariant s)
    (wellFormed : WellFormed s') {ended : Address Key} {request : RedemptionRequest Key}
    (present : s.requests ended = some request)
    (requests : s'.requests = Function.update s.requests ended none)
    (kept : ∀ r a, request.tokenAccount ≠ r.tokenAccount → Escrowed s.bank r a →
      Escrowed s'.bank r a) : EscrowInvariant s' := by
  have distinct : ∀ redemption r, s'.requests redemption = some r → redemption ≠ ended := by
    rintro redemption r pending rfl
    simp [requests] at pending
  have opensNone : ∀ redemption r, s'.requests redemption = some r →
      s.requests redemption = some r := by
    intro redemption r pending
    have other := distinct redemption r pending
    rwa [requests, Function.update_of_ne other] at pending
  refine escrowInvariant_of_kept invariant wellFormed opensNone ?_
  intro redemption r a pending escrowed
  refine kept r a (fun same => distinct redemption r pending ?_) escrowed
  exact (invariant.single ended redemption request r present (opensNone redemption r pending)
    same).symm

theorem escrowInvariant_effect {s s' : State Key} {call : Call Key}
    (effect : Effect s call.now call.instruction s') (spares : SparesEscrow s call)
    (invariant : EscrowInvariant s) : EscrowInvariant s' := by
  have wellFormed := wellFormed_effect effect invariant.wellFormed
  obtain ⟨now, instruction⟩ := call
  cases effect with
  | initializeMint loaded created =>
    refine escrowInvariant_of_kept invariant wellFormed (fun _ _ pending => pending) ?_
    intro redemption r a pending escrowed
    exact escrowed.of_effect created id
  | mintTokens loaded unpaused positive capped minted =>
    refine escrowInvariant_of_kept invariant wellFormed (fun _ _ pending => pending) ?_
    intro redemption r a pending escrowed
    exact escrowed.of_effect minted id
  | @requestRedemption accounts amount t a approvedBank bank loaded unpaused positive thawed enough
      approved frozen bounded =>
    -- the account was not frozen, so no open request has it
    have elsewhere : ∀ redemption r, s.requests redemption = some r →
        r.tokenAccount ≠ accounts.holderTokenAccount := by
      intro redemption r pending same
      obtain ⟨o, escrowed⟩ := invariant.escrowed redemption r pending
      have held := escrowed.held
      rw [same, loaded.held] at held
      cases held
      rw [escrowed.frozen] at thawed
      cases thawed
    refine escrowInvariant_of_opened invariant wellFormed rfl elsewhere
      (escrowed_of_request loaded enough approved frozen) ?_
    intro redemption r o pending escrowed
    exact (escrowed.of_effect approved id).of_effect frozen id
  | approveRedemption loaded operator unpaused thawed burned =>
    refine escrowInvariant_of_ended invariant wellFormed loaded.request rfl ?_
    intro r a elsewhere escrowed
    rw [← loaded.tokenAccount] at elsewhere
    exact (escrowed.of_effect thawed elsewhere).of_effect burned id
  | cancelRedemption loaded allowed thawed revoked =>
    refine escrowInvariant_of_ended invariant wellFormed loaded.request rfl ?_
    intro r a elsewhere escrowed
    rw [← loaded.tokenAccount] at elsewhere
    have unfrozen := escrowed.of_effect thawed elsewhere
    split at revoked
    · exact unfrozen.of_effect revoked id
    · subst revoked
      exact unfrozen
  | freezeAccount loaded unpaused frozen =>
    refine escrowInvariant_of_kept invariant wellFormed (fun _ _ pending => pending) ?_
    intro redemption r a pending escrowed
    exact escrowed.of_effect frozen id
  | @thawAccount accounts t bank loaded thawed =>
    -- the one step that needs the condition
    refine escrowInvariant_of_kept invariant wellFormed (fun _ _ pending => pending) ?_
    intro redemption r a pending escrowed
    have elsewhere := spares accounts rfl redemption r pending
    exact escrowed.of_effect thawed fun same => elsewhere same.symm
  | govern =>
    refine escrowInvariant_of_kept invariant wellFormed (fun _ _ pending => pending) ?_
    intro redemption r a pending escrowed
    exact escrowed
  | @token signer op bank effect =>
    refine escrowInvariant_of_kept invariant wellFormed (fun _ _ pending => pending) ?_
    intro redemption r a pending escrowed
    obtain ⟨-, -, ⟨t, found, mint, -⟩, positive⟩ :=
      invariant.wellFormed.issued redemption r pending
    -- the account holds the requested amount, so it cannot be closed
    have unclosed : op ≠ .closeAccount r.tokenAccount := by
      rintro rfl
      exact escrowed.not_closed positive effect rfl
    exact escrowed.of_effect effect (not_releases_of_key invariant.wellFormed effect found
      escrowed.held (escrowed.mint.trans mint.symm) unclosed)

/-! ## The holder can cancel and the operator approve -/

variable {process : TokenProgram Key}

/-- The accounts of an open request pass the checks of approve and cancel. -/
private theorem redemptionAccounts_loaded {s : State Key} {redemption : Address Key}
    {r : RedemptionRequest Key} {t : Treasury Key} {a : TokenAccount Key}
    (wellFormed : WellFormed s) (pending : s.requests redemption = some r)
    (found : s.treasuries r.treasury = some t) (mint : t.mint = r.mint)
    (held : s.bank.accounts r.tokenAccount = some a) (sameMint : a.mint = r.mint)
    (owner : a.owner = r.holder) : (redemptionAccounts redemption r).Loaded s t r := by
  obtain ⟨m, minted, -⟩ := wellFormed.backed r.treasury t found
  constructor
  · exact found
  · exact ⟨m, by rw [← minted, mint]; rfl⟩
  · exact pending
  · exact wellFormed.address r.treasury t found
  · exact mint.symm
  · rfl
  · rfl
  · rfl
  · rfl
  · exact ⟨a, held, sameMint.trans mint.symm, owner⟩
  · rfl
  · rfl

/-- Thawing the account of a request succeeds when it is frozen, and unfreezes it. -/
private theorem thaw_redemption (documented : Documented process) {s : State Key}
    {r : RedemptionRequest Key} {t : Treasury Key} {a : TokenAccount Key}
    (wellFormed : WellFormed s) (found : s.treasuries r.treasury = some t)
    (mint : t.mint = r.mint) (held : s.bank.accounts r.tokenAccount = some a)
    (sameMint : a.mint = r.mint) (frozen : a.frozen = true) :
    ∃ m, s.bank.mints r.mint = some m ∧
      process s.bank (.freezeAuthority r.treasury) (.thawAccount r.tokenAccount r.mint) =
        .ok (s.bank.setAccount r.tokenAccount (some { a with frozen := false })) := by
  obtain ⟨m, minted, backs⟩ := wellFormed.backed r.treasury t found
  rw [mint] at minted
  obtain ⟨bank, processed⟩ :=
    documented.thaw_succeeds minted held sameMint backs.freezeAuthority frozen
  refine ⟨m, minted, ?_⟩
  cases documented.effect processed with
  | thawAccount _ present =>
    rw [held] at present
    cases present
    exact processed

theorem cancel_succeeds (documented : Documented process) {s : State Key}
    {redemption : Address Key} {r : RedemptionRequest Key} {a : TokenAccount Key} {holder : Key}
    (wellFormed : WellFormed s) (pending : s.requests redemption = some r)
    (held : s.bank.accounts r.tokenAccount = some a) (sameMint : a.mint = r.mint)
    (owner : a.owner = r.holder) (frozen : a.frozen = true) (signer : r.holder = .key holder)
    (now : Int) : ∃ s', step process s ⟨now, cancelBy redemption r holder⟩ = .ok s' := by
  obtain ⟨-, -, ⟨t, found, mint, -⟩, -⟩ := wellFormed.issued redemption r pending
  have loaded := redemptionAccounts_loaded wellFormed pending found mint held sameMint owner
  obtain ⟨m, -, thawed⟩ := thaw_redemption documented wellFormed found mint held sameMint frozen
  obtain ⟨bank, revoked⟩ := documented.revoke_succeeds
    (Bank.setAccount_self s.bank r.tokenAccount (some { a with frozen := false })) rfl owner
  rw [signer] at revoked
  refine ⟨({ s with bank }.emit (.redemptionCancelled r.mint r.holder r.amount r.nonce
    (.key holder))).setRequest redemption none, ?_⟩
  simp only [step, cancelBy, cancelRedemptionHandler, CancelRedemption.load, thawTokenAccount,
    bind_eq_ok, Prod.exists, RedemptionAccounts.load_eq_ok, State.invoke_eq_ok, require_eq_ok,
    pure_eq_ok, exists_const, and_true]
  refine ⟨t, r, loaded, Or.inl signer.symm, _, ⟨_, thawed, rfl⟩, { s with bank }, ?_, rfl⟩
  rw [if_pos signer.symm, State.invoke_eq_ok]
  exact ⟨bank, revoked, rfl⟩

theorem approve_succeeds (documented : Documented process) {s : State Key}
    {redemption : Address Key} {r : RedemptionRequest Key} {t : Treasury Key}
    {a : TokenAccount Key} {operator : Key} (wellFormed : WellFormed s)
    (pending : s.requests redemption = some r) (escrowed : Escrowed s.bank r a)
    (found : s.treasuries r.treasury = some t) (unpaused : t.paused = false)
    (signer : t.operator = .key operator) (now : Int) :
    ∃ s', step process s ⟨now, approveBy redemption r operator⟩ = .ok s' := by
  obtain ⟨-, -, ⟨t', found', mint, -⟩, -⟩ := wellFormed.issued redemption r pending
  rw [found] at found'
  cases found'
  have loaded := redemptionAccounts_loaded wellFormed pending found mint escrowed.held
    escrowed.mint escrowed.owner
  obtain ⟨m, minted, thawed⟩ := thaw_redemption documented wellFormed found mint escrowed.held
    escrowed.mint escrowed.frozen
  -- the account holds the amount, so the supply covers it and the count does not overflow
  have inSupply : r.amount ≤ m.supply :=
    escrowed.balance.trans (wellFormed.bank.amount_le escrowed.held (escrowed.mint ▸ minted))
  have counts : t.totalBurned + r.amount < U64_SIZE := by
    obtain ⟨m', minted', backs⟩ := wellFormed.backed r.treasury t found
    rw [mint, minted] at minted'
    cases minted'
    have accounted := backs.accounted
    have counted := wellFormed.counted r.treasury t found
    omega
  obtain ⟨a', spent⟩ : ∃ a', ({ a with frozen := false } : TokenAccount Key).spend
      (.escrowAuthority r.treasury) r.amount = some a' := by
    simp [TokenAccount.spend, escrowed.balance, escrowed.delegate, escrowed.allowance]
  obtain ⟨bank, burned⟩ := documented.burn_succeeds
    (b := s.bank.setAccount r.tokenAccount (some { a with frozen := false })) minted
    (Bank.setAccount_self ..) escrowed.mint rfl spent inSupply
  refine ⟨(({ s with bank }.setTreasury r.treasury
    { t with totalBurned := t.totalBurned + r.amount }).emit (.redemptionApproved r.mint r.holder
      r.amount r.nonce (.key operator))).setRequest redemption none, ?_⟩
  simp only [step, approveBy, approveRedemptionHandler, ApproveRedemption.load, thawTokenAccount,
    bind_eq_ok, Prod.exists, RedemptionAccounts.load_eq_ok, State.invoke_eq_ok, require_eq_ok,
    checkedAddU64_eq_ok, pure_eq_ok, exists_const]
  exact ⟨t, r, ⟨loaded, signer⟩, unpaused, _, ⟨_, thawed, rfl⟩, _, ⟨bank, burned, rfl⟩, _,
    ⟨counts, rfl⟩, rfl⟩

theorem EscrowInvariant.redeemable (documented : Documented process) {s : State Key}
    (invariant : EscrowInvariant s) {redemption : Address Key} {r : RedemptionRequest Key}
    (pending : s.requests redemption = some r) : Redeemable process s redemption r := by
  obtain ⟨a, escrowed⟩ := invariant.escrowed redemption r pending
  obtain ⟨⟨holder, signer⟩, -, ⟨t, found, -⟩, -⟩ :=
    invariant.wellFormed.issued redemption r pending
  constructor
  case escrowed => exact ⟨a, escrowed⟩
  case holderCancels =>
    exact ⟨holder, signer, cancel_succeeds documented invariant.wellFormed pending escrowed.held
      escrowed.mint escrowed.owner escrowed.frozen signer⟩
  case operatorApproves =>
    exact ⟨t, found, fun unpaused operator => approve_succeeds documented invariant.wellFormed
      pending escrowed found unpaused⟩

/-! ## Escrow over runs -/

theorem escrowInvariant_empty : EscrowInvariant (State.empty : State Key) where
  wellFormed := wellFormed_empty
  escrowed := by simp [State.empty]
  single := by simp [State.empty]

theorem escrowInvariant_run (documented : Documented process) (calls : List (Call Key))
    (spares : Meets (step process) SparesEscrow .empty calls) :
    EscrowInvariant (run process .empty calls) :=
  run_invariant_of_meets (fun _ _ _ invariant spares accepted =>
    escrowInvariant_effect (step_effect documented accepted) spares invariant)
    _ calls spares escrowInvariant_empty

/-- In every run in which the admin thaws no account with an open request, every open
request is redeemable in every state reached. -/
theorem openRequest_redeemable (documented : Documented process) (calls : List (Call Key))
    (spares : Meets (step process) SparesEscrow .empty calls) (redemption : Address Key)
    (r : RedemptionRequest Key)
    (pending : (run process .empty calls).requests redemption = some r) :
    Redeemable process (run process .empty calls) redemption r :=
  (escrowInvariant_run documented calls spares).redeemable documented pending

/-! ## A run in which the admin thaws an escrowed account -/

namespace Scenario

def mint : Address Nat := .key 2

def treasury : Address Nat := .treasury mint

def account : Address Nat := .key 3

def redemption : Address Nat := .redemption treasury (.key 1) 0

/-- Key 0 is admin and operator of a mint, key 1 holds 100 tokens of it. -/
def funded : List (Call Nat) :=
  [⟨0, .initializeMint
      { admin := 0, mint, mintOwner := .token2022, treasury
        mintAuthority := .mintAuthority treasury, freezeAuthority := .freezeAuthority treasury
        escrowAuthority := .escrowAuthority treasury } 6⟩,
    ⟨0, .token 1 (.initializeAccount account mint (.key 1))⟩,
    ⟨0, .mintTokens
      { operator := 0, treasury, mint, mintAuthority := .mintAuthority treasury
        destination := account } 100⟩]

def request : Call Nat :=
  ⟨0, .requestRedemption
    { holder := 1, treasury, mint, holderTokenAccount := account, redemptionRequest := redemption
      escrowAuthority := .escrowAuthority treasury
      freezeAuthority := .freezeAuthority treasury } 40⟩

def freezeOrThaw : FreezeOrThaw Nat where
  admin := 0
  treasury := treasury
  mint := mint
  freezeAuthority := .freezeAuthority treasury
  targetAccount := account

def requested : RedemptionRequest Nat where
  holder := .key 1
  treasury := treasury
  mint := mint
  tokenAccount := account
  amount := 40
  nonce := 0
  requestedAt := 0

end Scenario

open Scenario in
theorem openRequest_redeemable_requested :
    Redeemable reference (run reference .empty (funded ++ [request])) redemption requested :=
  openRequest_redeemable reference_documented _
    (meets_of_forall _ _ (by
      intro call member s accounts thaws
      simp only [funded, request, List.cons_append, List.nil_append, List.mem_cons,
        List.not_mem_nil, or_false] at member
      rcases member with rfl | rfl | rfl | rfl <;> cases thaws))
    redemption requested (by decide)

open Scenario in
/-- Once the admin has thawed the account of an open request, the request is still open
but its account is not frozen. -/
theorem not_openRequest_redeemable :
    ¬ ∀ (calls : List (Call Nat)) redemption r,
      (run reference .empty calls).requests redemption = some r →
        Redeemable reference (run reference .empty calls) redemption r := by
  intro always
  obtain ⟨⟨a, escrowed⟩, -, -⟩ :=
    always (funded ++ [request, ⟨0, .thawAccount freezeOrThaw⟩]) redemption requested (by decide)
  have thawed : (run reference .empty (funded ++
      [request, ⟨0, .thawAccount freezeOrThaw⟩])).bank.accounts account =
        some { mint, owner := .key 1, amount := 100,
               delegate := some (.escrowAuthority treasury), delegatedAmount := 40,
               frozen := false } := by decide
  have held := escrowed.held
  rw [show requested.tokenAccount = account from rfl, thawed] at held
  cases held
  cases escrowed.frozen

end ZkSettle.Stablecoin
