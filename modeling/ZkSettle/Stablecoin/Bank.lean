import ZkSettle.Stablecoin.Token2022

/-!
# Invariants of the token program

Three facts about every successful token instruction: the supply of a mint covers
its balances, only the authorities of a mint change the mint (other than by
burning), and a frozen account is changed by nothing but a thaw or, when it is
empty, by closing it.
-/
namespace ZkSettle.Stablecoin

open Ledger

variable {Key : Type} [DecidableEq Key]

/-! ## Supply -/

/-- What an account holds of a mint. -/
def Bank.balanceOf (b : Bank Key) (mint account : Address Key) : Nat :=
  match b.accounts account with
  | some a => if a.mint = mint then a.amount else 0
  | none => 0

structure Bank.Sound (b : Bank Key) : Prop where
  minted : ∀ account a, b.accounts account = some a → ∃ m, b.mints a.mint = some m
  covered : ∀ mint m, b.mints mint = some m → Covered (b.balanceOf mint) m.supply
  bounded : ∀ mint m, b.mints mint = some m → m.supply < U64_SIZE

theorem Bank.balanceOf_held {b : Bank Key} {account : Address Key} {a : TokenAccount Key}
    (mint : Address Key) (held : b.accounts account = some a) :
    b.balanceOf mint account = if a.mint = mint then a.amount else 0 := by
  simp [balanceOf, held]

@[simp] theorem Bank.balanceOf_setMint (b : Bank Key) (mint : Address Key) (m : Mint Key) :
    (b.setMint mint m).balanceOf = b.balanceOf := rfl

theorem Bank.balanceOf_own {b : Bank Key} {mint account : Address Key} {a : TokenAccount Key}
    (held : b.accounts account = some a) (sameMint : a.mint = mint) :
    b.balanceOf mint account = a.amount := by
  rw [balanceOf_held _ held, if_pos sameMint]

theorem Bank.balanceOf_setAccount (b : Bank Key) (mint account : Address Key)
    (a : TokenAccount Key) : (b.setAccount account (some a)).balanceOf mint =
      Function.update (b.balanceOf mint) account (if a.mint = mint then a.amount else 0) := by
  funext other
  by_cases same : other = account
  · subst same
    simp [balanceOf]
  · simp [balanceOf, same]

theorem Bank.Sound.amount_le {b : Bank Key} (sound : b.Sound) {account : Address Key}
    {a : TokenAccount Key} {m : Mint Key} (held : b.accounts account = some a)
    (minted : b.mints a.mint = some m) : a.amount ≤ m.supply := by
  have balance := (sound.covered _ _ minted).balance_le account
  rwa [b.balanceOf_own held rfl] at balance

theorem Bank.empty_sound : (State.empty : State Key).bank.Sound where
  minted := by simp [State.empty]
  covered := by simp [State.empty]
  bounded := by simp [State.empty]

/-- An account may be replaced by one of an existing mint that holds no more. -/
theorem Bank.Sound.setAccount {b : Bank Key} (sound : b.Sound) {account : Address Key}
    {a : TokenAccount Key} (minted : ∃ m, b.mints a.mint = some m)
    (below : ∀ mint, (if a.mint = mint then a.amount else 0) ≤ b.balanceOf mint account) :
    (b.setAccount account (some a)).Sound where
  minted := by
    intro other a' held
    simp only [setAccount_accounts, Function.update_apply] at held
    split at held
    · cases held
      exact minted
    · exact sound.minted other a' held
  covered := by
    intro mint m held
    apply (sound.covered mint m held).of_le
    intro other
    rw [b.balanceOf_setAccount]
    by_cases same : other = account
    · subst same
      simpa using below mint
    · simp [same]
  bounded := sound.bounded

/-- A changed account of the same mint that holds no more. -/
theorem Bank.Sound.setHeld {b : Bank Key} (sound : b.Sound) {account : Address Key}
    {a a' : TokenAccount Key} (held : b.accounts account = some a) (sameMint : a'.mint = a.mint)
    (below : a'.amount ≤ a.amount) : (b.setAccount account (some a')).Sound := by
  apply sound.setAccount
  · rw [sameMint]
    exact sound.minted _ _ held
  · intro mint
    rw [Bank.balanceOf_held _ held, sameMint]
    split <;> omega

theorem Bank.Sound.close {b : Bank Key} (sound : b.Sound) (account : Address Key) :
    (b.setAccount account none).Sound where
  minted := by
    intro other a held
    simp only [setAccount_accounts, Function.update_apply] at held
    split at held
    · cases held
    · exact sound.minted other a held
  covered := by
    intro mint m held
    apply (sound.covered mint m held).of_le
    intro other
    by_cases same : other = account
    · simp [balanceOf, same]
    · simp [balanceOf, same]
  bounded := sound.bounded

theorem Bank.setMint_cases {b : Bank Key} {mint other : Address Key} {m o : Mint Key}
    (found : (b.setMint mint m).mints other = some o) :
    other = mint ∧ m = o ∨ other ≠ mint ∧ b.mints other = some o := by
  rw [setMint_mints, Function.update_apply] at found
  split at found
  next same => exact Or.inl ⟨same, Option.some.inj found⟩
  next elsewhere => exact Or.inr ⟨elsewhere, found⟩

/-- A mint and one of its accounts move together. -/
theorem Bank.Sound.setSupply {b : Bank Key} (sound : b.Sound) {mint account : Address Key}
    {m m' : Mint Key} {a a' : TokenAccount Key} (minted : b.mints mint = some m)
    (held : b.accounts account = some a) (sameMint : a.mint = mint) (keptMint : a'.mint = a.mint)
    (covered : Covered (Function.update (b.balanceOf mint) account a'.amount) m'.supply)
    (bounded : m'.supply < U64_SIZE) :
    ((b.setMint mint m').setAccount account (some a')).Sound where
  minted := by
    intro other o found
    simp only [setAccount_accounts, setMint_accounts, setAccount_mints, setMint_mints,
      Function.update_apply] at found ⊢
    split
    · exact ⟨_, rfl⟩
    next elsewhere =>
      split at found
      · -- the account that was set is of the mint that was set
        cases found
        exact absurd (keptMint.trans sameMint) elsewhere
      · exact sound.minted other o found
  covered := by
    intro other o found
    rw [balanceOf_setAccount, keptMint, sameMint]
    rcases Bank.setMint_cases found with ⟨rfl, rfl⟩ | ⟨elsewhere, kept⟩
    · simpa using covered
    · -- the account holds nothing of another mint, before and after
      have nothing : b.balanceOf other account = 0 := by
        rw [Bank.balanceOf_held _ held, sameMint]
        simp [Ne.symm elsewhere]
      rw [if_neg (Ne.symm elsewhere), ← nothing]
      rw [balanceOf_setMint, Function.update_eq_self]
      exact sound.covered other o kept
  bounded := by
    intro other o found
    rcases Bank.setMint_cases found with ⟨rfl, rfl⟩ | ⟨-, kept⟩
    · exact bounded
    · exact sound.bounded other o kept

/-- Two accounts of one mint, where the second receives at most what the first spends. -/
theorem Bank.Sound.move {b : Bank Key} (sound : b.Sound) {source destination : Address Key}
    {a a' d : TokenAccount Key} {amount received : Nat} (held : b.accounts source = some a)
    (receives : b.accounts destination = some d) (sameMint : d.mint = a.mint)
    (distinct : source ≠ destination) (keptMint : a'.mint = a.mint) (enough : amount ≤ a.amount)
    (left : a'.amount = a.amount - amount) (withheld : received ≤ amount) :
    ((b.setAccount source (some a')).setAccount destination
      (some { d with amount := d.amount + received })).Sound where
  minted := by
    intro other o found
    simp only [setAccount_accounts, setAccount_mints, Function.update_apply] at found ⊢
    split at found
    · cases found
      exact sound.minted destination d receives
    · split at found
      · cases found
        rw [keptMint]
        exact sound.minted _ _ held
      · exact sound.minted other o found
  covered := by
    intro mint m found
    have sourceBalance := Bank.balanceOf_held mint held
    have destinationBalance := Bank.balanceOf_held mint receives
    rw [balanceOf_setAccount, balanceOf_setAccount]
    simp only [keptMint, left, sameMint] at sourceBalance destinationBalance ⊢
    by_cases same : a.mint = mint
    · -- both accounts are of this mint: the balance moves
      simp only [if_pos same] at sourceBalance destinationBalance ⊢
      rw [← sourceBalance, ← destinationBalance]
      exact (sound.covered mint m found).move source destination amount received
        (by omega) withheld distinct
    · -- neither account holds anything of another mint
      simp only [if_neg same] at sourceBalance destinationBalance ⊢
      rw [← sourceBalance, Function.update_eq_self, sourceBalance, ← destinationBalance,
        Function.update_eq_self]
      exact sound.covered mint m found
  bounded := sound.bounded

/-- A mint may be stored that covers what is held of it. -/
private theorem Bank.Sound.putMint {b : Bank Key} (sound : b.Sound) {mint : Address Key}
    {m : Mint Key} (covered : Covered (b.balanceOf mint) m.supply)
    (bounded : m.supply < U64_SIZE) : (b.setMint mint m).Sound where
  minted := by
    intro account a held
    simp only [setMint_mints, Function.update_apply]
    split
    · exact ⟨_, rfl⟩
    · exact sound.minted account a held
  covered := by
    intro other o found
    rw [balanceOf_setMint]
    rcases Bank.setMint_cases found with ⟨rfl, rfl⟩ | ⟨-, kept⟩
    · exact covered
    · exact sound.covered other o kept
  bounded := by
    intro other o found
    rcases Bank.setMint_cases found with ⟨rfl, rfl⟩ | ⟨-, kept⟩
    · exact bounded
    · exact sound.bounded other o kept

theorem Bank.Sound.setMint {b : Bank Key} (sound : b.Sound) {mint : Address Key} {m m' : Mint Key}
    (minted : b.mints mint = some m) (sameSupply : m'.supply = m.supply) :
    (b.setMint mint m').Sound := by
  apply sound.putMint
  · rw [sameSupply]
    exact sound.covered mint m minted
  · rw [sameSupply]
    exact sound.bounded mint m minted

theorem Bank.Sound.createMint {b : Bank Key} (sound : b.Sound) {mint : Address Key}
    {m : Mint Key} (fresh : b.mints mint = none) (zero : m.supply = 0) :
    (b.setMint mint m).Sound := by
  -- no account can be of a mint that did not exist
  have nothing : b.balanceOf mint = fun _ => 0 := by
    funext account
    unfold balanceOf
    split
    next a held =>
      obtain ⟨_, minted⟩ := sound.minted account a held
      rw [if_neg]
      rintro rfl
      simp [fresh] at minted
    next => rfl
  apply sound.putMint
  · rw [nothing]
    exact covered_zero _
  · rw [zero]
    decide

omit [DecidableEq Key] in
theorem TokenAccount.spend_below {a a' : TokenAccount Key} [DecidableEq Key]
    {authority : Address Key} {amount : Nat} (spent : a.spend authority amount = some a') :
    amount ≤ a.amount ∧ a'.amount = a.amount - amount ∧ a'.mint = a.mint ∧ a'.owner = a.owner ∧
      a'.frozen = a.frozen := by
  unfold spend at spent
  split at spent
  next enough =>
    split at spent
    · split at spent
      · cases spent
        exact ⟨enough, rfl, rfl, rfl, rfl⟩
      · cases spent
    · split at spent
      · cases spent
        exact ⟨enough, rfl, rfl, rfl, rfl⟩
      · cases spent
  next => cases spent

/-- Every successful instruction keeps the balances covered. -/
theorem TokenEffect.sound {b b' : Bank Key} {authority : Address Key} {op : TokenOp Key}
    (effect : TokenEffect b authority op b') (sound : b.Sound) : b'.Sound := by
  cases effect with
  | initializeMint2 fresh => exact sound.createMint fresh rfl
  | initializeAccount fresh minted => exact sound.setAccount ⟨_, minted⟩ (by simp)
  | mintTo minted held sameMint thawed signed bounded =>
    refine sound.setSupply minted held sameMint rfl ?_ bounded
    rw [← Bank.balanceOf_own held sameMint]
    exact (sound.covered _ _ minted).credit _ _
  | burn minted held sameMint thawed spent covered =>
    -- the balance and the supply go down together
    obtain ⟨enough, left, keptMint, -, -⟩ := TokenAccount.spend_below spent
    rw [← Bank.balanceOf_own held sameMint] at enough left
    refine sound.setSupply minted held sameMint keptMint ?_ ?_
    · rw [left]
      exact (sound.covered _ _ minted).debit _ _ enough
    · exact (Nat.sub_le _ _).trans_lt (sound.bounded _ _ minted)
  | transfer held thawed spent receives thawedDestination sameMint distinct withheld =>
    obtain ⟨enough, left, keptMint, -, -⟩ := TokenAccount.spend_below spent
    exact sound.move held receives sameMint distinct keptMint enough left withheld
  | selfTransfer => exact sound
  | approve held => exact sound.setHeld held rfl le_rfl
  | approveChecked minted held => exact sound.setHeld held rfl le_rfl
  | revoke held => exact sound.setHeld held rfl le_rfl
  | setAccountOwner held => exact sound.setHeld held rfl le_rfl
  | setMintAuthority minted => exact sound.setMint minted rfl
  | setFreezeAuthority minted => exact sound.setMint minted rfl
  | closeAccount => exact sound.close _
  | freezeAccount minted held => exact sound.setHeld held rfl le_rfl
  | thawAccount minted held => exact sound.setHeld held rfl le_rfl

/-! ## Frozen accounts -/

/-- The instructions that can change a frozen account. -/
def TokenOp.Releases (account : Address Key) : TokenOp Key → Prop
  | .thawAccount thawed _ => thawed = account
  | .closeAccount closed => closed = account
  | _ => False

theorem TokenEffect.frozen_kept {b b' : Bank Key} {authority : Address Key} {op : TokenOp Key}
    (effect : TokenEffect b authority op b') {account : Address Key} {a : TokenAccount Key}
    (held : b.accounts account = some a) (frozen : a.frozen = true)
    (locked : ¬ op.Releases account) : b'.accounts account = some a := by
  -- every other instruction works on accounts that are not frozen
  have elsewhere : ∀ {other o}, b.accounts other = some o → o.frozen = false → account ≠ other := by
    rintro other o found thawed rfl
    rw [held] at found
    cases found
    rw [frozen] at thawed
    cases thawed
  cases effect with
  | initializeMint2 => exact held
  | @initializeAccount opened _ _ _ _ fresh =>
    have other : account ≠ opened := by
      rintro rfl
      simp [held] at fresh
    simp [Function.update_of_ne other, held]
  | mintTo minted found sameMint thawed =>
    simp [Function.update_of_ne (elsewhere found thawed), held]
  | burn minted found sameMint thawed =>
    simp [Function.update_of_ne (elsewhere found thawed), held]
  | transfer found thawed spent receives thawedDestination =>
    simp [Function.update_of_ne (elsewhere found thawed),
      Function.update_of_ne (elsewhere receives thawedDestination), held]
  | selfTransfer => exact held
  | approve found thawed => simp [Function.update_of_ne (elsewhere found thawed), held]
  | approveChecked minted found sameMint sameDecimals thawed =>
    simp [Function.update_of_ne (elsewhere found thawed), held]
  | revoke found thawed => simp [Function.update_of_ne (elsewhere found thawed), held]
  | setAccountOwner found thawed => simp [Function.update_of_ne (elsewhere found thawed), held]
  | setMintAuthority => exact held
  | setFreezeAuthority => exact held
  | closeAccount =>
    have other : account ≠ _ := fun same => locked same.symm
    simp [Function.update_of_ne other, held]
  | freezeAccount minted found sameMint signed thawed =>
    simp [Function.update_of_ne (elsewhere found thawed), held]
  | thawAccount =>
    have other : account ≠ _ := fun same => locked same.symm
    simp [Function.update_of_ne other, held]

/-! ## Mints -/

/-- The terms of a mint that only its authorities can change. -/
structure Mint.SameTerms (m m' : Mint Key) : Prop where
  mintAuthority : m'.mintAuthority = m.mintAuthority
  freezeAuthority : m'.freezeAuthority = m.freezeAuthority
  decimals : m'.decimals = m.decimals

omit [DecidableEq Key] in
theorem Mint.SameTerms.refl (m : Mint Key) : m.SameTerms m := ⟨rfl, rfl, rfl⟩

/-- What an instruction burns of a mint. -/
def TokenOp.burned (mint : Address Key) : TokenOp Key → Nat
  | .burn _ burnt amount => if burnt = mint then amount else 0
  | _ => 0

/-- What anyone but the authorities of a mint can do to it is to burn. -/
theorem TokenEffect.mint_kept {b b' : Bank Key} {authority : Address Key} {op : TokenOp Key}
    (effect : TokenEffect b authority op b') {mint : Address Key} {m : Mint Key}
    (minted : b.mints mint = some m) (notMinter : m.mintAuthority ≠ some authority)
    (notFreezer : m.freezeAuthority ≠ some authority) :
    ∃ m', b'.mints mint = some m' ∧ m.SameTerms m' ∧
      m'.supply + op.burned mint = m.supply := by
  have unchanged : b'.mints mint = b.mints mint → op.burned mint = 0 →
      ∃ m', b'.mints mint = some m' ∧ m.SameTerms m' ∧ m'.supply + op.burned mint = m.supply :=
    fun same nothing => ⟨m, same.trans minted, .refl m, by rw [nothing, Nat.add_zero]⟩
  -- what an authority signs for is not this mint
  have elsewhere : ∀ {other o}, b.mints other = some o →
      (o.mintAuthority = some authority ∨ o.freezeAuthority = some authority) → mint ≠ other := by
    rintro other o found signed rfl
    rw [minted] at found
    cases found
    exact signed.elim notMinter notFreezer
  cases effect with
  | @initializeMint2 created _ _ _ fresh =>
    have other : mint ≠ created := by
      rintro rfl
      simp [minted] at fresh
    exact unchanged (by simp [Function.update_of_ne other]) rfl
  | mintTo found held sameMint thawed signed =>
    exact unchanged (by simp [Function.update_of_ne (elsewhere found (.inl signed))]) rfl
  | @burn _ burned amount m₀ _ _ found _ _ _ _ covered =>
    by_cases same : mint = burned
    · subst same
      rw [minted] at found
      cases found
      refine ⟨{ m with supply := m.supply - amount }, by simp, ⟨rfl, rfl, rfl⟩, ?_⟩
      simp only [TokenOp.burned, if_true]
      exact Nat.sub_add_cancel covered
    · exact unchanged (by simp [Function.update_of_ne same])
        (by simp only [TokenOp.burned, if_neg (Ne.symm same)])
  | setMintAuthority found signed =>
    exact unchanged (by simp [Function.update_of_ne (elsewhere found (.inl signed))]) rfl
  | setFreezeAuthority found signed =>
    exact unchanged (by simp [Function.update_of_ne (elsewhere found (.inr signed))]) rfl
  | _ => exact unchanged rfl rfl

/-- No instruction removes a mint. -/
theorem TokenEffect.mint_stays {b b' : Bank Key} {authority : Address Key} {op : TokenOp Key}
    (effect : TokenEffect b authority op b') {mint : Address Key}
    (gone : b'.mints mint = none) : b.mints mint = none := by
  -- a mint that was stored is there afterwards
  have stored : ∀ {other o}, Function.update b.mints other (some o) mint = none →
      b.mints mint = none := by
    intro other o absent
    by_cases same : mint = other
    · subst same
      simp at absent
    · rwa [Function.update_of_ne same] at absent
  cases effect with
  | initializeMint2 => exact stored gone
  | mintTo => exact stored gone
  | burn => exact stored gone
  | setMintAuthority => exact stored gone
  | setFreezeAuthority => exact stored gone
  | _ => exact gone

end ZkSettle.Stablecoin
