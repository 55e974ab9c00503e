import ZkSettle.Stablecoin.Bank
import ZkSettle.Stablecoin.Instructions

/-!
# What a successful instruction does

`Loaded` says what the account checks of an instruction establish, `Effect` what a
successful call did to the state, and `step_effect` that every successful call had
its effect. The invariants are proved from `Effect` alone.
-/
namespace ZkSettle.Stablecoin

open Checks

variable {Key : Type} [DecidableEq Key]

/-! ## Account checks -/

omit [DecidableEq Key] in
@[simp] theorem State.treasury_eq_ok {s : State Key} {address : Address Key} {t : Treasury Key} :
    s.treasury address = .ok t ↔ s.treasuries address = some t := by
  simp [treasury]

omit [DecidableEq Key] in
@[simp] theorem State.request_eq_ok {s : State Key} {address : Address Key}
    {r : RedemptionRequest Key} : s.request address = .ok r ↔ s.requests address = some r := by
  simp [request]

omit [DecidableEq Key] in
@[simp] theorem State.mint_eq_ok {s : State Key} {address : Address Key} {m : Mint Key} :
    s.mint address = .ok m ↔ s.bank.mints address = some m := by
  simp [mint]

omit [DecidableEq Key] in
@[simp] theorem State.tokenAccount_eq_ok {s : State Key} {address : Address Key}
    {a : TokenAccount Key} : s.tokenAccount address = .ok a ↔ s.bank.accounts address = some a := by
  simp [tokenAccount]

@[simp] theorem checkedAddU64_eq_ok {a b c : Nat} :
    checkedAddU64 a b = .ok c ↔ a + b < U64_SIZE ∧ a + b = c := by
  simp [checkedAddU64]

structure InitializeMint.Loaded (accounts : InitializeMint Key) (s : State Key) : Prop where
  treasury : accounts.treasury = .treasury accounts.mint
  fresh : s.treasuries accounts.treasury = none
  owned : accounts.mintOwner = .token2022
  mintAuthority : accounts.mintAuthority = .mintAuthority accounts.treasury
  freezeAuthority : accounts.freezeAuthority = .freezeAuthority accounts.treasury
  escrowAuthority : accounts.escrowAuthority = .escrowAuthority accounts.treasury

theorem InitializeMint.load_eq_ok {accounts : InitializeMint Key} {s : State Key} {u : Unit} :
    accounts.load s = .ok u ↔ accounts.Loaded s := by
  simp only [load, bind_eq_ok, require_eq_ok, exists_const]
  constructor
  · rintro ⟨treasury, fresh, owned, mintAuthority, freezeAuthority, escrowAuthority⟩
    exact ⟨treasury, fresh, owned, mintAuthority, freezeAuthority, escrowAuthority⟩
  · rintro ⟨treasury, fresh, owned, mintAuthority, freezeAuthority, escrowAuthority⟩
    exact ⟨treasury, fresh, owned, mintAuthority, freezeAuthority, escrowAuthority⟩

structure MintTokens.Loaded (accounts : MintTokens Key) (s : State Key) (t : Treasury Key) :
    Prop where
  found : s.treasuries accounts.treasury = some t
  minted : ∃ m, s.bank.mints accounts.mint = some m
  treasury : accounts.treasury = .treasury t.mint
  operator : t.operator = .key accounts.operator
  mint : accounts.mint = t.mint
  mintAuthority : accounts.mintAuthority = .mintAuthority accounts.treasury
  destination : ∃ a, s.bank.accounts accounts.destination = some a ∧ a.mint = t.mint

theorem MintTokens.load_eq_ok {accounts : MintTokens Key} {s : State Key} {t : Treasury Key} :
    accounts.load s = .ok t ↔ accounts.Loaded s t := by
  simp only [load, bind_eq_ok, State.treasury_eq_ok, State.mint_eq_ok, State.tokenAccount_eq_ok,
    require_eq_ok, pure_eq_ok, exists_const]
  constructor
  · rintro ⟨t', found, m, minted, a, held, treasury, operator, mint, mintAuthority, sameMint, rfl⟩
    exact ⟨found, ⟨m, minted⟩, treasury, operator, mint, mintAuthority, a, held, sameMint⟩
  · rintro ⟨found, ⟨m, minted⟩, treasury, operator, mint, mintAuthority, a, held, sameMint⟩
    exact ⟨t, found, m, minted, a, held, treasury, operator, mint, mintAuthority, sameMint, rfl⟩

structure RequestRedemption.Loaded (accounts : RequestRedemption Key) (s : State Key)
    (t : Treasury Key) (a : TokenAccount Key) : Prop where
  found : s.treasuries accounts.treasury = some t
  minted : ∃ m, s.bank.mints accounts.mint = some m
  held : s.bank.accounts accounts.holderTokenAccount = some a
  request : accounts.redemptionRequest =
    .redemption accounts.treasury (.key accounts.holder) t.redemptionNonce
  fresh : s.requests accounts.redemptionRequest = none
  treasury : accounts.treasury = .treasury t.mint
  mint : accounts.mint = t.mint
  sameMint : a.mint = t.mint
  owner : a.owner = .key accounts.holder
  escrowAuthority : accounts.escrowAuthority = .escrowAuthority accounts.treasury
  freezeAuthority : accounts.freezeAuthority = .freezeAuthority accounts.treasury

theorem RequestRedemption.load_eq_ok {accounts : RequestRedemption Key} {s : State Key}
    {t : Treasury Key} {a : TokenAccount Key} :
    accounts.load s = .ok (t, a) ↔ accounts.Loaded s t a := by
  simp only [load, bind_eq_ok, State.treasury_eq_ok, State.mint_eq_ok, State.tokenAccount_eq_ok,
    require_eq_ok, pure_eq_ok, exists_const, Prod.mk.injEq]
  constructor
  · rintro ⟨t', found, m, minted, a', held, request, fresh, treasury, mint, sameMint, owner,
      escrowAuthority, freezeAuthority, rfl, rfl⟩
    exact ⟨found, ⟨m, minted⟩, held, request, fresh, treasury, mint, sameMint, owner,
      escrowAuthority, freezeAuthority⟩
  · rintro ⟨found, ⟨m, minted⟩, held, request, fresh, treasury, mint, sameMint, owner,
      escrowAuthority, freezeAuthority⟩
    exact ⟨t, found, m, minted, a, held, request, fresh, treasury, mint, sameMint, owner,
      escrowAuthority, freezeAuthority, rfl, rfl⟩

structure RedemptionAccounts.Loaded (accounts : RedemptionAccounts Key) (s : State Key)
    (t : Treasury Key) (r : RedemptionRequest Key) : Prop where
  found : s.treasuries accounts.treasury = some t
  minted : ∃ m, s.bank.mints accounts.mint = some m
  request : s.requests accounts.redemptionRequest = some r
  treasury : accounts.treasury = .treasury t.mint
  mint : accounts.mint = t.mint
  requestTreasury : r.treasury = accounts.treasury
  requestHolder : r.holder = accounts.holder
  requestMint : r.mint = accounts.mint
  tokenAccount : accounts.holderTokenAccount = r.tokenAccount
  held : ∃ a, s.bank.accounts accounts.holderTokenAccount = some a ∧ a.mint = t.mint ∧
    a.owner = accounts.holder
  escrowAuthority : accounts.escrowAuthority = .escrowAuthority accounts.treasury
  freezeAuthority : accounts.freezeAuthority = .freezeAuthority accounts.treasury

theorem RedemptionAccounts.load_eq_ok {accounts : RedemptionAccounts Key} {s : State Key}
    {authorize : Treasury Key → Except Error Unit} {t : Treasury Key}
    {r : RedemptionRequest Key} :
    accounts.load s authorize = .ok (t, r) ↔ accounts.Loaded s t r ∧ ∃ u, authorize t = .ok u := by
  simp only [load, bind_eq_ok, State.treasury_eq_ok, State.mint_eq_ok, State.request_eq_ok,
    State.tokenAccount_eq_ok, require_eq_ok, pure_eq_ok, exists_const, Prod.mk.injEq]
  constructor
  · rintro ⟨t', found, m, minted, r', request, a, held, treasury, authorized, authorization, mint,
      requestTreasury, requestHolder, requestMint, tokenAccount, sameMint, owner, escrowAuthority,
      freezeAuthority, rfl, rfl⟩
    exact ⟨⟨found, ⟨m, minted⟩, request, treasury, mint, requestTreasury, requestHolder,
      requestMint, tokenAccount, ⟨a, held, sameMint, owner⟩, escrowAuthority, freezeAuthority⟩,
      authorized, authorization⟩
  · rintro ⟨⟨found, ⟨m, minted⟩, request, treasury, mint, requestTreasury, requestHolder,
      requestMint, tokenAccount, ⟨a, held, sameMint, owner⟩, escrowAuthority, freezeAuthority⟩,
      authorized, authorization⟩
    exact ⟨t, found, m, minted, r, request, a, held, treasury, authorized, authorization, mint,
      requestTreasury, requestHolder, requestMint, tokenAccount, sameMint, owner, escrowAuthority,
      freezeAuthority, rfl, rfl⟩

structure FreezeOrThaw.Loaded (accounts : FreezeOrThaw Key) (s : State Key) (t : Treasury Key) :
    Prop where
  found : s.treasuries accounts.treasury = some t
  minted : ∃ m, s.bank.mints accounts.mint = some m
  treasury : accounts.treasury = .treasury t.mint
  admin : t.admin = .key accounts.admin
  mint : accounts.mint = t.mint
  freezeAuthority : accounts.freezeAuthority = .freezeAuthority accounts.treasury
  target : ∃ a, s.bank.accounts accounts.targetAccount = some a ∧ a.mint = t.mint

theorem FreezeOrThaw.load_eq_ok {accounts : FreezeOrThaw Key} {s : State Key} {t : Treasury Key} :
    accounts.load s = .ok t ↔ accounts.Loaded s t := by
  simp only [load, bind_eq_ok, State.treasury_eq_ok, State.mint_eq_ok, State.tokenAccount_eq_ok,
    require_eq_ok, pure_eq_ok, exists_const]
  constructor
  · rintro ⟨t', found, m, minted, a, held, treasury, admin, mint, freezeAuthority, sameMint, rfl⟩
    exact ⟨found, ⟨m, minted⟩, treasury, admin, mint, freezeAuthority, a, held, sameMint⟩
  · rintro ⟨found, ⟨m, minted⟩, treasury, admin, mint, freezeAuthority, a, held, sameMint⟩
    exact ⟨t, found, m, minted, a, held, treasury, admin, mint, freezeAuthority, sameMint, rfl⟩

theorem AdminAccounts.load_eq_ok {accounts : AdminAccounts Key} {s : State Key}
    {t : Treasury Key} : accounts.load s = .ok t ↔ s.treasuries accounts.treasury = some t ∧
      accounts.treasury = .treasury t.mint ∧ t.admin = .key accounts.admin := by
  simp only [load, bind_eq_ok, State.treasury_eq_ok, require_eq_ok, pure_eq_ok, exists_const]
  constructor
  · rintro ⟨t', found, treasury, admin, rfl⟩
    exact ⟨found, treasury, admin⟩
  · rintro ⟨found, treasury, admin⟩
    exact ⟨t, found, treasury, admin, rfl⟩

theorem AcceptAdmin.load_eq_ok {accounts : AcceptAdmin Key} {s : State Key} {t : Treasury Key} :
    accounts.load s = .ok t ↔ s.treasuries accounts.treasury = some t ∧
      accounts.treasury = .treasury t.mint ∧ t.pendingAdmin = some (.key accounts.newAdmin) := by
  simp only [load, bind_eq_ok, State.treasury_eq_ok, require_eq_ok, pure_eq_ok, exists_const]
  constructor
  · rintro ⟨t', found, treasury, pending, rfl⟩
    exact ⟨found, treasury, pending⟩
  · rintro ⟨found, treasury, pending⟩
    exact ⟨t, found, treasury, pending, rfl⟩

/-! ## Effects -/

/-- The part of a treasury that no administration instruction changes. -/
structure Treasury.SameLedger (t t' : Treasury Key) : Prop where
  mint : t'.mint = t.mint
  totalMinted : t'.totalMinted = t.totalMinted
  totalBurned : t'.totalBurned = t.totalBurned
  decimals : t'.decimals = t.decimals
  redemptionNonce : t'.redemptionNonce = t.redemptionNonce

/-- The administration instructions. -/
def Instruction.Governs : Instruction Key → Prop
  | .proposeAdmin .. | .acceptAdmin .. | .cancelPendingAdmin .. | .setOperator ..
  | .updateMintCap .. | .pause .. | .unpause .. => True
  | _ => False

/-- What a successful call did to the state. -/
inductive Effect (s : State Key) (now : Int) : Instruction Key → State Key → Prop where
  | initializeMint {accounts decimals bank} (loaded : accounts.Loaded s)
      (created : TokenEffect s.bank (.key accounts.admin)
        (.initializeMint2 accounts.mint decimals (.mintAuthority accounts.treasury)
          (some (.freezeAuthority accounts.treasury))) bank) :
      Effect s now (.initializeMint accounts decimals)
        (({ s with bank }.setTreasury accounts.treasury
          { admin := .key accounts.admin, operator := .key accounts.admin, mint := accounts.mint,
            totalMinted := 0, totalBurned := 0, decimals, paused := false, pendingAdmin := none,
            mintCap := 0, redemptionNonce := 0 }).emit
          (.mintInitialized accounts.treasury accounts.mint (.key accounts.admin)
            (.key accounts.admin)))
  | mintTokens {accounts amount t bank} (loaded : accounts.Loaded s t)
      (unpaused : t.paused = false) (positive : 0 < amount)
      (capped : 0 < t.mintCap → t.totalMinted + amount ≤ t.mintCap)
      (minted : TokenEffect s.bank (.mintAuthority accounts.treasury)
        (.mintTo accounts.mint accounts.destination amount) bank)
      (bounded : t.totalMinted + amount < U64_SIZE) :
      Effect s now (.mintTokens accounts amount)
        (({ s with bank }.setTreasury accounts.treasury
          { t with totalMinted := t.totalMinted + amount }).emit
          (.tokensMinted accounts.mint accounts.destination amount (.key accounts.operator)))
  | requestRedemption {accounts amount t a approvedBank bank} (loaded : accounts.Loaded s t a)
      (unpaused : t.paused = false) (positive : 0 < amount) (thawed : a.frozen = false)
      (enough : amount ≤ a.amount)
      (approved : TokenEffect s.bank (.key accounts.holder)
        (.approveChecked accounts.holderTokenAccount accounts.mint
          (.escrowAuthority accounts.treasury) amount t.decimals) approvedBank)
      (frozen : TokenEffect approvedBank (.freezeAuthority accounts.treasury)
        (.freezeAccount accounts.holderTokenAccount accounts.mint) bank)
      (bounded : t.redemptionNonce + 1 < U64_SIZE) :
      Effect s now (.requestRedemption accounts amount)
        ((({ s with bank }.setRequest accounts.redemptionRequest
          (some { holder := .key accounts.holder, treasury := accounts.treasury,
                  mint := accounts.mint, tokenAccount := accounts.holderTokenAccount, amount,
                  nonce := t.redemptionNonce, requestedAt := now })).setTreasury accounts.treasury
          { t with redemptionNonce := t.redemptionNonce + 1 }).emit
          (.redemptionRequested accounts.mint (.key accounts.holder) amount t.redemptionNonce
            accounts.redemptionRequest))
  | approveRedemption {accounts t r thawedBank bank}
      (loaded : accounts.toRedemptionAccounts.Loaded s t r)
      (operator : t.operator = .key accounts.operator) (unpaused : t.paused = false)
      (thawed : TokenEffect s.bank (.freezeAuthority accounts.treasury)
        (.thawAccount accounts.holderTokenAccount accounts.mint) thawedBank)
      (burned : TokenEffect thawedBank (.escrowAuthority accounts.treasury)
        (.burn accounts.holderTokenAccount accounts.mint r.amount) bank)
      (bounded : t.totalBurned + r.amount < U64_SIZE) :
      Effect s now (.approveRedemption accounts)
        ((({ s with bank }.setTreasury accounts.treasury
          { t with totalBurned := t.totalBurned + r.amount }).emit
          (.redemptionApproved accounts.mint accounts.holder r.amount r.nonce
            (.key accounts.operator))).setRequest accounts.redemptionRequest none)
  | cancelRedemption {accounts t r thawedBank bank}
      (loaded : accounts.toRedemptionAccounts.Loaded s t r)
      (allowed : .key accounts.canceller = r.holder ∨ .key accounts.canceller = t.admin ∨
        isExpired now r)
      (thawed : TokenEffect s.bank (.freezeAuthority accounts.treasury)
        (.thawAccount accounts.holderTokenAccount accounts.mint) thawedBank)
      -- only the holder's own cancel revokes the allowance
      (revoked : if .key accounts.canceller = r.holder then
          TokenEffect thawedBank (.key accounts.canceller) (.revoke accounts.holderTokenAccount)
            bank
        else bank = thawedBank) :
      Effect s now (.cancelRedemption accounts)
        (({ s with bank }.emit (.redemptionCancelled accounts.mint r.holder r.amount r.nonce
          (.key accounts.canceller))).setRequest accounts.redemptionRequest none)
  | freezeAccount {accounts t bank} (loaded : accounts.Loaded s t) (unpaused : t.paused = false)
      (frozen : TokenEffect s.bank (.freezeAuthority accounts.treasury)
        (.freezeAccount accounts.targetAccount accounts.mint) bank) :
      Effect s now (.freezeAccount accounts)
        ({ s with bank }.emit
          (.accountFrozen accounts.mint accounts.targetAccount (.key accounts.admin)))
  | thawAccount {accounts t bank} (loaded : accounts.Loaded s t)
      (thawed : TokenEffect s.bank (.freezeAuthority accounts.treasury)
        (.thawAccount accounts.targetAccount accounts.mint) bank) :
      Effect s now (.thawAccount accounts)
        ({ s with bank }.emit
          (.accountThawed accounts.mint accounts.targetAccount (.key accounts.admin)))
  | govern {instruction treasury t t' event} (governs : instruction.Governs)
      (found : s.treasuries treasury = some t) (sameLedger : t.SameLedger t') :
      Effect s now instruction ((s.setTreasury treasury t').emit event)
  | token {signer op bank} (effect : TokenEffect s.bank (.key signer) op bank) :
      Effect s now (.token signer op) { s with bank }

/-! ## Every successful call had its effect -/

variable {process : TokenProgram Key}

omit [DecidableEq Key] in
theorem checkMintCap_below {t : Treasury Key} {amount : Nat} {u : Unit}
    (checked : checkMintCap t amount = .ok u) (capped : 0 < t.mintCap) :
    t.totalMinted + amount ≤ t.mintCap := by
  unfold checkMintCap at checked
  rw [if_pos capped] at checked
  simp only [bind_eq_ok, checkedAddU64_eq_ok, require_eq_ok] at checked
  obtain ⟨_, ⟨-, rfl⟩, below⟩ := checked
  exact below

private theorem initializeMint_effect (documented : Documented process) {s s' : State Key}
    {now : Int} {accounts : InitializeMint Key} {decimals : Nat}
    (returned : initializeMintHandler process s accounts decimals = .ok s') :
    Effect s now (.initializeMint accounts decimals) s' := by
  simp only [initializeMintHandler, bind_eq_ok, InitializeMint.load_eq_ok, State.invoke_eq_ok,
    pure_eq_ok, exists_const] at returned
  obtain ⟨loaded, _, ⟨bank, created, rfl⟩, rfl⟩ := returned
  -- the seeds of the derived signers are those that Anchor has checked
  rw [loaded.mintAuthority, loaded.freezeAuthority] at created
  exact .initializeMint loaded (documented.effect created)

private theorem mintTokens_effect (documented : Documented process) {s s' : State Key}
    {now : Int} {accounts : MintTokens Key} {amount : Nat}
    (returned : mintTokensHandler process s accounts amount = .ok s') :
    Effect s now (.mintTokens accounts amount) s' := by
  simp only [mintTokensHandler, bind_eq_ok, MintTokens.load_eq_ok, State.invoke_eq_ok,
    require_eq_ok, checkedAddU64_eq_ok, pure_eq_ok, exists_const] at returned
  obtain ⟨t, loaded, unpaused, positive, _, capped, _, ⟨bank, minted, rfl⟩, _, ⟨bounded, rfl⟩,
    rfl⟩ := returned
  rw [loaded.mintAuthority] at minted
  exact .mintTokens loaded unpaused positive (checkMintCap_below capped)
    (documented.effect minted) bounded

private theorem requestRedemption_effect (documented : Documented process) {s s' : State Key}
    {now : Int} {accounts : RequestRedemption Key} {amount : Nat}
    (returned : requestRedemptionHandler process now s accounts amount = .ok s') :
    Effect s now (.requestRedemption accounts amount) s' := by
  simp only [requestRedemptionHandler, bind_eq_ok, Prod.exists, RequestRedemption.load_eq_ok,
    State.invoke_eq_ok, require_eq_ok, checkedAddU64_eq_ok, pure_eq_ok, exists_const] at returned
  obtain ⟨t, a, loaded, unpaused, positive, thawed, enough, _, ⟨approvedBank, approved, rfl⟩,
    _, ⟨bank, frozen, rfl⟩, _, ⟨bounded, rfl⟩, rfl⟩ := returned
  rw [loaded.escrowAuthority] at approved
  rw [loaded.freezeAuthority] at frozen
  exact .requestRedemption loaded unpaused positive thawed enough (documented.effect approved)
    (documented.effect frozen) bounded

private theorem approveRedemption_effect (documented : Documented process) {s s' : State Key}
    {now : Int} {accounts : ApproveRedemption Key}
    (returned : approveRedemptionHandler process s accounts = .ok s') :
    Effect s now (.approveRedemption accounts) s' := by
  simp only [approveRedemptionHandler, ApproveRedemption.load, thawTokenAccount, bind_eq_ok,
    Prod.exists, RedemptionAccounts.load_eq_ok, State.invoke_eq_ok, require_eq_ok,
    checkedAddU64_eq_ok, pure_eq_ok, exists_const] at returned
  obtain ⟨t, r, ⟨loaded, operator⟩, unpaused, _, ⟨thawedBank, thawed, rfl⟩, _,
    ⟨bank, burned, rfl⟩, _, ⟨bounded, rfl⟩, rfl⟩ := returned
  rw [loaded.freezeAuthority] at thawed
  rw [loaded.escrowAuthority] at burned
  exact .approveRedemption loaded operator unpaused (documented.effect thawed)
    (documented.effect burned) bounded

private theorem cancelRedemption_effect (documented : Documented process) {s s' : State Key}
    {now : Int} {accounts : CancelRedemption Key}
    (returned : cancelRedemptionHandler process now s accounts = .ok s') :
    Effect s now (.cancelRedemption accounts) s' := by
  simp only [cancelRedemptionHandler, CancelRedemption.load, thawTokenAccount, bind_eq_ok,
    Prod.exists, RedemptionAccounts.load_eq_ok, State.invoke_eq_ok, require_eq_ok, pure_eq_ok,
    exists_const, and_true] at returned
  obtain ⟨t, r, loaded, allowed, _, ⟨thawedBank, thawed, rfl⟩, _, revoked, rfl⟩ := returned
  rw [loaded.freezeAuthority] at thawed
  split at revoked
  next holder =>
    rw [State.invoke_eq_ok] at revoked
    obtain ⟨bank, revoked, rfl⟩ := revoked
    exact .cancelRedemption loaded allowed (documented.effect thawed)
      (by rw [if_pos holder]; exact documented.effect revoked)
  next other =>
    rw [pure_eq_ok] at revoked
    subst revoked
    exact .cancelRedemption loaded allowed (documented.effect thawed) (by rw [if_neg other])

private theorem freezeAccount_effect (documented : Documented process) {s s' : State Key}
    {now : Int} {accounts : FreezeOrThaw Key}
    (returned : freezeHandler process s accounts = .ok s') :
    Effect s now (.freezeAccount accounts) s' := by
  simp only [freezeHandler, bind_eq_ok, FreezeOrThaw.load_eq_ok, State.invoke_eq_ok,
    require_eq_ok, pure_eq_ok, exists_const] at returned
  obtain ⟨t, loaded, unpaused, _, ⟨bank, frozen, rfl⟩, rfl⟩ := returned
  rw [loaded.freezeAuthority] at frozen
  exact .freezeAccount loaded unpaused (documented.effect frozen)

private theorem thawAccount_effect (documented : Documented process) {s s' : State Key}
    {now : Int} {accounts : FreezeOrThaw Key}
    (returned : thawHandler process s accounts = .ok s') :
    Effect s now (.thawAccount accounts) s' := by
  simp only [thawHandler, thawTokenAccount, bind_eq_ok, FreezeOrThaw.load_eq_ok,
    State.invoke_eq_ok, pure_eq_ok] at returned
  obtain ⟨t, loaded, _, ⟨bank, thawed, rfl⟩, rfl⟩ := returned
  rw [loaded.freezeAuthority] at thawed
  exact .thawAccount loaded (documented.effect thawed)

/-- Whatever a call does to the accounts and the bank, it is one of the effects. -/
theorem step_effect (documented : Documented process) {s s' : State Key} {call : Call Key}
    (accepted : step process s call = .ok s') : Effect s call.now call.instruction s' := by
  obtain ⟨now, instruction⟩ := call
  cases instruction with
  | initializeMint accounts decimals => exact initializeMint_effect documented accepted
  | mintTokens accounts amount => exact mintTokens_effect documented accepted
  | requestRedemption accounts amount => exact requestRedemption_effect documented accepted
  | approveRedemption accounts => exact approveRedemption_effect documented accepted
  | cancelRedemption accounts => exact cancelRedemption_effect documented accepted
  | freezeAccount accounts => exact freezeAccount_effect documented accepted
  | thawAccount accounts => exact thawAccount_effect documented accepted
  -- the instructions of the admin write the treasury alone, and nothing that is counted
  | proposeAdmin accounts newAdmin =>
    simp only [step, proposeAdminHandler, bind_eq_ok, AdminAccounts.load_eq_ok, require_eq_ok,
      pure_eq_ok, exists_const] at accepted
    obtain ⟨t, ⟨found, -⟩, -, -, rfl⟩ := accepted
    exact .govern trivial found ⟨rfl, rfl, rfl, rfl, rfl⟩
  | acceptAdmin accounts =>
    simp only [step, acceptAdminHandler, bind_eq_ok, AcceptAdmin.load_eq_ok, pure_eq_ok]
      at accepted
    obtain ⟨t, ⟨found, -⟩, rfl⟩ := accepted
    exact .govern trivial found ⟨rfl, rfl, rfl, rfl, rfl⟩
  | cancelPendingAdmin accounts =>
    simp only [step, cancelPendingAdminHandler, bind_eq_ok, AdminAccounts.load_eq_ok, okOr_eq_ok,
      pure_eq_ok] at accepted
    obtain ⟨t, ⟨found, -⟩, _, -, rfl⟩ := accepted
    exact .govern trivial found ⟨rfl, rfl, rfl, rfl, rfl⟩
  | setOperator accounts newOperator =>
    simp only [step, setOperatorHandler, bind_eq_ok, AdminAccounts.load_eq_ok, require_eq_ok,
      pure_eq_ok, exists_const] at accepted
    obtain ⟨t, ⟨found, -⟩, -, -, rfl⟩ := accepted
    exact .govern trivial found ⟨rfl, rfl, rfl, rfl, rfl⟩
  | updateMintCap accounts newCap =>
    simp only [step, updateMintCapHandler, bind_eq_ok, AdminAccounts.load_eq_ok, require_eq_ok,
      pure_eq_ok, exists_const] at accepted
    obtain ⟨t, ⟨found, -⟩, -, rfl⟩ := accepted
    exact .govern trivial found ⟨rfl, rfl, rfl, rfl, rfl⟩
  | pause accounts =>
    simp only [step, pauseHandler, bind_eq_ok, AdminAccounts.load_eq_ok, require_eq_ok,
      pure_eq_ok, exists_const] at accepted
    obtain ⟨t, ⟨found, -⟩, -, rfl⟩ := accepted
    exact .govern trivial found ⟨rfl, rfl, rfl, rfl, rfl⟩
  | unpause accounts =>
    simp only [step, unpauseHandler, bind_eq_ok, AdminAccounts.load_eq_ok, require_eq_ok,
      pure_eq_ok, exists_const] at accepted
    obtain ⟨t, ⟨found, -⟩, -, rfl⟩ := accepted
    exact .govern trivial found ⟨rfl, rfl, rfl, rfl, rfl⟩
  | token signer op =>
    simp only [step, State.invoke_eq_ok] at accepted
    obtain ⟨bank, processed, rfl⟩ := accepted
    exact .token (documented.effect processed)

end ZkSettle.Stablecoin
