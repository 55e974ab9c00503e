import ZkSettle.Library.Checks
import ZkSettle.Library.Ledger
import ZkSettle.Stablecoin.Accounts

/-!
# The Token-2022 program

Token-2022 is not part of the repository. Its processor is a parameter, and
`Documented` lists what its documentation promises and the stablecoin program
relies on: what a successful instruction did (`TokenEffect`) and that thaw,
revoke and burn do succeed on accounts in the right state. `reference` is an
executable processor that keeps these promises.
-/
namespace ZkSettle.Stablecoin

open Checks Ledger

variable {Key : Type} [DecidableEq Key]

inductive TokenOp (Key : Type) where
  | initializeMint2 (mint : Address Key) (decimals : Nat) (mintAuthority : Address Key)
      (freezeAuthority : Option (Address Key))
  | initializeAccount (account mint owner : Address Key)
  | mintTo (mint account : Address Key) (amount : Nat)
  | burn (account mint : Address Key) (amount : Nat)
  | transfer (source destination : Address Key) (amount : Nat)
  | approve (source delegate : Address Key) (amount : Nat)
  | approveChecked (source mint delegate : Address Key) (amount decimals : Nat)
  | revoke (source : Address Key)
  | setAccountOwner (account newOwner : Address Key)
  | setMintAuthority (mint : Address Key) (newAuthority : Option (Address Key))
  | setFreezeAuthority (mint : Address Key) (newAuthority : Option (Address Key))
  | closeAccount (account : Address Key)
  | freezeAccount (account mint : Address Key)
  | thawAccount (account mint : Address Key)
  deriving DecidableEq, Repr

/-- The processor, called with the authority that signed the instruction. -/
abbrev TokenProgram (Key : Type) :=
  Bank Key → Address Key → TokenOp Key → Except Nat (Bank Key)

/-- A debit, by the delegate within its allowance or else by the owner. An allowance
that is used up is removed. -/
def TokenAccount.spend (a : TokenAccount Key) (authority : Address Key) (amount : Nat) :
    Option (TokenAccount Key) :=
  if amount ≤ a.amount then
    -- an owner who is also the delegate spends as the delegate
    if a.delegate = some authority then
      if amount ≤ a.delegatedAmount then
        some { a with
          amount := a.amount - amount
          delegate := if a.delegatedAmount = amount then none else a.delegate
          delegatedAmount := a.delegatedAmount - amount }
      else none
    else if a.owner = authority then some { a with amount := a.amount - amount } else none
  else none

/-- What a successful instruction did to the bank. A transfer may withhold a fee. -/
inductive TokenEffect (b : Bank Key) (authority : Address Key) : TokenOp Key → Bank Key → Prop where
  | initializeMint2 {mint decimals mintAuthority freezeAuthority}
      (fresh : b.mints mint = none) :
      TokenEffect b authority (.initializeMint2 mint decimals mintAuthority freezeAuthority)
        (b.setMint mint
          { supply := 0, decimals, mintAuthority := some mintAuthority, freezeAuthority })
  | initializeAccount {account mint owner m frozen}
      (fresh : b.accounts account = none) (minted : b.mints mint = some m) :
      TokenEffect b authority (.initializeAccount account mint owner)
        (b.setAccount account
          (some { mint, owner, amount := 0, delegate := none, delegatedAmount := 0, frozen }))
  | mintTo {mint account amount m a}
      (minted : b.mints mint = some m) (held : b.accounts account = some a)
      (sameMint : a.mint = mint) (thawed : a.frozen = false)
      (signed : m.mintAuthority = some authority) (bounded : m.supply + amount < U64_SIZE) :
      TokenEffect b authority (.mintTo mint account amount)
        ((b.setMint mint { m with supply := m.supply + amount }).setAccount account
          (some { a with amount := a.amount + amount }))
  | burn {account mint amount m a a'}
      (minted : b.mints mint = some m) (held : b.accounts account = some a)
      (sameMint : a.mint = mint) (thawed : a.frozen = false)
      (spent : a.spend authority amount = some a') (covered : amount ≤ m.supply) :
      TokenEffect b authority (.burn account mint amount)
        ((b.setMint mint { m with supply := m.supply - amount }).setAccount account (some a'))
  | transfer {source destination amount a a' d received}
      (held : b.accounts source = some a) (thawed : a.frozen = false)
      (spent : a.spend authority amount = some a')
      (receives : b.accounts destination = some d) (thawedDestination : d.frozen = false)
      (sameMint : d.mint = a.mint) (distinct : source ≠ destination)
      (withheld : received ≤ amount) :
      TokenEffect b authority (.transfer source destination amount)
        ((b.setAccount source (some a')).setAccount destination
          (some { d with amount := d.amount + received }))
  | selfTransfer {source amount a}
      (held : b.accounts source = some a) (thawed : a.frozen = false) :
      TokenEffect b authority (.transfer source source amount) b
  | approve {source delegate amount a}
      (held : b.accounts source = some a) (thawed : a.frozen = false)
      (signed : a.owner = authority) :
      TokenEffect b authority (.approve source delegate amount)
        (b.setAccount source (some { a with delegate := some delegate, delegatedAmount := amount }))
  | approveChecked {source mint delegate amount decimals m a}
      (minted : b.mints mint = some m) (held : b.accounts source = some a)
      (sameMint : a.mint = mint) (sameDecimals : m.decimals = decimals)
      (thawed : a.frozen = false) (signed : a.owner = authority) :
      TokenEffect b authority (.approveChecked source mint delegate amount decimals)
        (b.setAccount source (some { a with delegate := some delegate, delegatedAmount := amount }))
  | revoke {source a}
      (held : b.accounts source = some a) (thawed : a.frozen = false)
      (signed : a.owner = authority ∨ a.delegate = some authority) :
      TokenEffect b authority (.revoke source)
        (b.setAccount source (some { a with delegate := none, delegatedAmount := 0 }))
  | setAccountOwner {account newOwner a}
      (held : b.accounts account = some a) (thawed : a.frozen = false)
      (signed : a.owner = authority) :
      TokenEffect b authority (.setAccountOwner account newOwner)
        (b.setAccount account
          (some { a with owner := newOwner, delegate := none, delegatedAmount := 0 }))
  | setMintAuthority {mint newAuthority m}
      (minted : b.mints mint = some m) (signed : m.mintAuthority = some authority) :
      TokenEffect b authority (.setMintAuthority mint newAuthority)
        (b.setMint mint { m with mintAuthority := newAuthority })
  | setFreezeAuthority {mint newAuthority m}
      (minted : b.mints mint = some m) (signed : m.freezeAuthority = some authority) :
      TokenEffect b authority (.setFreezeAuthority mint newAuthority)
        (b.setMint mint { m with freezeAuthority := newAuthority })
  | closeAccount {account a}
      (held : b.accounts account = some a) (emptied : a.amount = 0) :
      TokenEffect b authority (.closeAccount account) (b.setAccount account none)
  | freezeAccount {account mint m a}
      (minted : b.mints mint = some m) (held : b.accounts account = some a)
      (sameMint : a.mint = mint) (signed : m.freezeAuthority = some authority)
      (thawed : a.frozen = false) :
      TokenEffect b authority (.freezeAccount account mint)
        (b.setAccount account (some { a with frozen := true }))
  | thawAccount {account mint m a}
      (minted : b.mints mint = some m) (held : b.accounts account = some a)
      (sameMint : a.mint = mint) (signed : m.freezeAuthority = some authority)
      (frozen : a.frozen = true) :
      TokenEffect b authority (.thawAccount account mint)
        (b.setAccount account (some { a with frozen := false }))

/-- The documented behaviour the stablecoin program relies on. -/
structure Documented (process : TokenProgram Key) : Prop where
  effect : ∀ {b authority op b'}, process b authority op = .ok b' → TokenEffect b authority op b'
  thaw_succeeds : ∀ {b authority account mint m a}, b.mints mint = some m →
    b.accounts account = some a → a.mint = mint → m.freezeAuthority = some authority →
    a.frozen = true → ∃ b', process b authority (.thawAccount account mint) = .ok b'
  revoke_succeeds : ∀ {b authority source a}, b.accounts source = some a → a.frozen = false →
    a.owner = authority → ∃ b', process b authority (.revoke source) = .ok b'
  burn_succeeds : ∀ {b authority account mint amount m a a'}, b.mints mint = some m →
    b.accounts account = some a → a.mint = mint → a.frozen = false →
    a.spend authority amount = some a' → amount ≤ m.supply →
    ∃ b', process b authority (.burn account mint amount) = .ok b'

/-- Error codes of the token program. -/
def INSUFFICIENT_FUNDS : Nat := 1
def MINT_MISMATCH : Nat := 3
def OWNER_MISMATCH : Nat := 4
def FIXED_SUPPLY : Nat := 5
def ALREADY_IN_USE : Nat := 6
def UNINITIALIZED_STATE : Nat := 9
def NON_NATIVE_HAS_BALANCE : Nat := 11
def INVALID_STATE : Nat := 13
def OVERFLOW : Nat := 14
def ACCOUNT_FROZEN : Nat := 17
def MINT_DECIMALS_MISMATCH : Nat := 18

def Bank.mint (b : Bank Key) (mint : Address Key) : Except Nat (Mint Key) :=
  okOr (b.mints mint) UNINITIALIZED_STATE

def Bank.account (b : Bank Key) (account : Address Key) : Except Nat (TokenAccount Key) :=
  okOr (b.accounts account) UNINITIALIZED_STATE

def Bank.thawedAccount (b : Bank Key) (account : Address Key) :
    Except Nat (TokenAccount Key) := do
  let a ← b.account account
  require (a.frozen = false) ACCOUNT_FROZEN
  pure a

/-- An executable processor without extensions. -/
def reference : TokenProgram Key
  | b, _, .initializeMint2 mint decimals mintAuthority freezeAuthority => do
    require (b.mints mint = none) ALREADY_IN_USE
    pure (b.setMint mint
      { supply := 0, decimals, mintAuthority := some mintAuthority, freezeAuthority })
  | b, _, .initializeAccount account mint owner => do
    require (b.accounts account = none) ALREADY_IN_USE
    let _ ← b.mint mint
    pure (b.setAccount account (some
      { mint, owner, amount := 0, delegate := none, delegatedAmount := 0, frozen := false }))
  | b, authority, .mintTo mint account amount => do
    let a ← b.thawedAccount account
    require (a.mint = mint) MINT_MISMATCH
    let m ← b.mint mint
    require (m.mintAuthority = some authority) FIXED_SUPPLY
    let supply ← okOr (checkedAdd U64_SIZE m.supply amount) OVERFLOW
    pure ((b.setMint mint { m with supply }).setAccount account
      (some { a with amount := a.amount + amount }))
  | b, authority, .burn account mint amount => do
    let a ← b.thawedAccount account
    require (a.mint = mint) MINT_MISMATCH
    let m ← b.mint mint
    let a' ← okOr (a.spend authority amount) INSUFFICIENT_FUNDS
    require (amount ≤ m.supply) OVERFLOW
    pure ((b.setMint mint { m with supply := m.supply - amount }).setAccount account (some a'))
  | b, authority, .transfer source destination amount => do
    let a ← b.thawedAccount source
    let d ← b.thawedAccount destination
    require (d.mint = a.mint) MINT_MISMATCH
    let a' ← okOr (a.spend authority amount) INSUFFICIENT_FUNDS
    if source = destination then pure b
    else pure ((b.setAccount source (some a')).setAccount destination
      (some { d with amount := d.amount + amount }))
  | b, authority, .approve source delegate amount => do
    let a ← b.thawedAccount source
    require (a.owner = authority) OWNER_MISMATCH
    pure (b.setAccount source
      (some { a with delegate := some delegate, delegatedAmount := amount }))
  | b, authority, .approveChecked source mint delegate amount decimals => do
    let a ← b.thawedAccount source
    require (a.mint = mint) MINT_MISMATCH
    let m ← b.mint mint
    require (m.decimals = decimals) MINT_DECIMALS_MISMATCH
    require (a.owner = authority) OWNER_MISMATCH
    pure (b.setAccount source
      (some { a with delegate := some delegate, delegatedAmount := amount }))
  | b, authority, .revoke source => do
    let a ← b.thawedAccount source
    require (a.owner = authority ∨ a.delegate = some authority) OWNER_MISMATCH
    pure (b.setAccount source (some { a with delegate := none, delegatedAmount := 0 }))
  | b, authority, .setAccountOwner account newOwner => do
    let a ← b.thawedAccount account
    require (a.owner = authority) OWNER_MISMATCH
    pure (b.setAccount account
      (some { a with owner := newOwner, delegate := none, delegatedAmount := 0 }))
  | b, authority, .setMintAuthority mint newAuthority => do
    let m ← b.mint mint
    require (m.mintAuthority = some authority) OWNER_MISMATCH
    pure (b.setMint mint { m with mintAuthority := newAuthority })
  | b, authority, .setFreezeAuthority mint newAuthority => do
    let m ← b.mint mint
    require (m.freezeAuthority = some authority) OWNER_MISMATCH
    pure (b.setMint mint { m with freezeAuthority := newAuthority })
  | b, authority, .closeAccount account => do
    let a ← b.account account
    -- no check of the freeze: an empty frozen account can be closed
    require (a.amount = 0) NON_NATIVE_HAS_BALANCE
    require (a.owner = authority) OWNER_MISMATCH
    pure (b.setAccount account none)
  | b, authority, .freezeAccount account mint => do
    let a ← b.account account
    require (a.frozen = false) INVALID_STATE
    require (a.mint = mint) MINT_MISMATCH
    let m ← b.mint mint
    require (m.freezeAuthority = some authority) OWNER_MISMATCH
    pure (b.setAccount account (some { a with frozen := true }))
  | b, authority, .thawAccount account mint => do
    let a ← b.account account
    require (a.frozen = true) INVALID_STATE
    require (a.mint = mint) MINT_MISMATCH
    let m ← b.mint mint
    require (m.freezeAuthority = some authority) OWNER_MISMATCH
    pure (b.setAccount account (some { a with frozen := false }))

omit [DecidableEq Key] in
@[simp] theorem Bank.thawedAccount_eq_ok {b : Bank Key} {account : Address Key}
    {a : TokenAccount Key} :
    b.thawedAccount account = .ok a ↔ b.accounts account = some a ∧ a.frozen = false := by
  unfold Bank.thawedAccount Bank.account
  simp only [bind_eq_ok, okOr_eq_ok, require_eq_ok, pure_eq_ok, exists_const]
  constructor
  · rintro ⟨a', held, thawed, rfl⟩
    exact ⟨held, thawed⟩
  · rintro ⟨held, thawed⟩
    exact ⟨a, held, thawed, rfl⟩

theorem reference_effect {b b' : Bank Key} {authority : Address Key} {op : TokenOp Key}
    (returned : reference b authority op = .ok b') : TokenEffect b authority op b' := by
  -- the checks of each operation are the arguments of its effect
  cases op <;> simp only [reference, Bank.mint, Bank.account, bind_eq_ok, okOr_eq_ok,
    require_eq_ok, pure_eq_ok, exists_const, Bank.thawedAccount_eq_ok, checkedAdd_eq_some]
    at returned
  case initializeMint2 mint decimals mintAuthority freezeAuthority =>
    obtain ⟨fresh, rfl⟩ := returned
    exact .initializeMint2 fresh
  case initializeAccount account mint owner =>
    obtain ⟨fresh, m, minted, rfl⟩ := returned
    exact .initializeAccount fresh minted
  case mintTo mint account amount =>
    obtain ⟨a, ⟨held, thawed⟩, sameMint, m, minted, signed, _, ⟨bounded, rfl⟩, rfl⟩ := returned
    exact .mintTo minted held sameMint thawed signed bounded
  case burn account mint amount =>
    obtain ⟨a, ⟨held, thawed⟩, sameMint, m, minted, a', spent, covered, rfl⟩ := returned
    exact .burn minted held sameMint thawed spent covered
  case transfer source destination amount =>
    obtain ⟨a, ⟨held, thawed⟩, d, ⟨receives, thawedDestination⟩, sameMint, a', spent, moved⟩ :=
      returned
    split at moved
    next same =>
      rw [pure_eq_ok] at moved
      subst same moved
      exact .selfTransfer held thawed
    next distinct =>
      rw [pure_eq_ok] at moved
      subst moved
      exact .transfer held thawed spent receives thawedDestination sameMint distinct le_rfl
  case approve source delegate amount =>
    obtain ⟨a, ⟨held, thawed⟩, signed, rfl⟩ := returned
    exact .approve held thawed signed
  case approveChecked source mint delegate amount decimals =>
    obtain ⟨a, ⟨held, thawed⟩, sameMint, m, minted, sameDecimals, signed, rfl⟩ := returned
    exact .approveChecked minted held sameMint sameDecimals thawed signed
  case revoke source =>
    obtain ⟨a, ⟨held, thawed⟩, signed, rfl⟩ := returned
    exact .revoke held thawed signed
  case setAccountOwner account newOwner =>
    obtain ⟨a, ⟨held, thawed⟩, signed, rfl⟩ := returned
    exact .setAccountOwner held thawed signed
  case setMintAuthority mint newAuthority =>
    obtain ⟨m, minted, signed, rfl⟩ := returned
    exact .setMintAuthority minted signed
  case setFreezeAuthority mint newAuthority =>
    obtain ⟨m, minted, signed, rfl⟩ := returned
    exact .setFreezeAuthority minted signed
  case closeAccount account =>
    obtain ⟨a, held, emptied, _, rfl⟩ := returned
    exact .closeAccount held emptied
  case freezeAccount account mint =>
    obtain ⟨a, held, thawed, sameMint, m, minted, signed, rfl⟩ := returned
    exact .freezeAccount minted held sameMint signed thawed
  case thawAccount account mint =>
    obtain ⟨a, held, frozen, sameMint, m, minted, signed, rfl⟩ := returned
    exact .thawAccount minted held sameMint signed frozen

/-- The documented promises can be kept. -/
theorem reference_documented : Documented (reference : TokenProgram Key) where
  effect := reference_effect
  thaw_succeeds := by
    intro b authority account mint m a minted held sameMint signed frozen
    refine ⟨b.setAccount account (some { a with frozen := false }), ?_⟩
    simp only [reference, Bank.mint, Bank.account, bind_eq_ok, okOr_eq_ok, require_eq_ok,
      pure_eq_ok, exists_const]
    exact ⟨a, held, frozen, sameMint, m, minted, signed, rfl⟩
  revoke_succeeds := by
    intro b authority source a held thawed signed
    refine ⟨b.setAccount source (some { a with delegate := none, delegatedAmount := 0 }), ?_⟩
    simp only [reference, bind_eq_ok, require_eq_ok, pure_eq_ok, exists_const,
      Bank.thawedAccount_eq_ok]
    exact ⟨a, ⟨held, thawed⟩, Or.inl signed, rfl⟩
  burn_succeeds := by
    intro b authority account mint amount m a a' minted held sameMint thawed spent covered
    refine ⟨(b.setMint mint { m with supply := m.supply - amount }).setAccount account (some a'),
      ?_⟩
    simp only [reference, Bank.mint, bind_eq_ok, okOr_eq_ok, require_eq_ok, pure_eq_ok,
      exists_const, Bank.thawedAccount_eq_ok]
    exact ⟨a, ⟨held, thawed⟩, sameMint, m, minted, a', spent, covered, rfl⟩

end ZkSettle.Stablecoin
