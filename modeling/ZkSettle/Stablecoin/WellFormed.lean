import ZkSettle.Stablecoin.Effects

/-!
# Well-formed states

In every reachable state a treasury sits at its derived address over a mint that
only the program's authorities mint and freeze, what is in supply or was burned by
the program was minted by it, and every open request was issued by a treasury to a
key that signed for it.
-/
namespace ZkSettle.Stablecoin

open Checks Transactional

variable {Key : Type}

/-- The mint behind a treasury. -/
structure Mint.Backs (m : Mint Key) (treasury : Address Key) (t : Treasury Key) : Prop where
  mintAuthority : m.mintAuthority = some (.mintAuthority treasury)
  freezeAuthority : m.freezeAuthority = some (.freezeAuthority treasury)
  decimals : m.decimals = t.decimals
  accounted : m.supply + t.totalBurned ≤ t.totalMinted

def Backed (b : Bank Key) (treasury : Address Key) (t : Treasury Key) : Prop :=
  ∃ m, b.mints t.mint = some m ∧ m.Backs treasury t

/-- A request that a treasury issued under the next nonce. -/
structure Issued (s : State Key) (redemption : Address Key) (r : RedemptionRequest Key) :
    Prop where
  signed : ∃ holder, r.holder = .key holder
  address : redemption = .redemption r.treasury r.holder r.nonce
  treasury : ∃ t, s.treasuries r.treasury = some t ∧ t.mint = r.mint ∧
    r.nonce < t.redemptionNonce
  positive : 0 < r.amount

variable [DecidableEq Key]

structure WellFormed (s : State Key) : Prop where
  bank : s.bank.Sound
  address : ∀ treasury t, s.treasuries treasury = some t → treasury = .treasury t.mint
  backed : ∀ treasury t, s.treasuries treasury = some t → Backed s.bank treasury t
  counted : ∀ treasury t, s.treasuries treasury = some t → t.totalMinted < U64_SIZE
  issued : ∀ redemption r, s.requests redemption = some r → Issued s redemption r

theorem wellFormed_empty : WellFormed (State.empty : State Key) where
  bank := Bank.empty_sound
  address := by simp [State.empty]
  backed := by simp [State.empty]
  counted := by simp [State.empty]
  issued := by simp [State.empty]

/-! ## The mint behind a treasury -/

omit [DecidableEq Key] in
/-- Who is neither authority of the program has no authority over the mint. -/
theorem Mint.Backs.others {m : Mint Key} {treasury authority : Address Key} {t : Treasury Key}
    (backs : m.Backs treasury t) (notMinter : authority ≠ .mintAuthority treasury)
    (notFreezer : authority ≠ .freezeAuthority treasury) :
    m.mintAuthority ≠ some authority ∧ m.freezeAuthority ≠ some authority := by
  rw [backs.mintAuthority, backs.freezeAuthority]
  exact ⟨fun same => notMinter (Option.some.inj same).symm,
    fun same => notFreezer (Option.some.inj same).symm⟩

theorem Backed.of_effect {b b' : Bank Key} {authority treasury : Address Key} {op : TokenOp Key}
    {t : Treasury Key} (backed : Backed b treasury t) (effect : TokenEffect b authority op b')
    (notMinter : authority ≠ .mintAuthority treasury)
    (notFreezer : authority ≠ .freezeAuthority treasury) : Backed b' treasury t := by
  obtain ⟨m, minted, backs⟩ := backed
  obtain ⟨otherMinter, otherFreezer⟩ := backs.others notMinter notFreezer
  obtain ⟨m', kept, terms, burned⟩ := effect.mint_kept minted otherMinter otherFreezer
  refine ⟨m', kept, ?_⟩
  constructor
  · rw [terms.mintAuthority, backs.mintAuthority]
  · rw [terms.freezeAuthority, backs.freezeAuthority]
  · rw [terms.decimals, backs.decimals]
  · have accounted := backs.accounted
    omega

/-- Freezing and thawing leave every mint alone. -/
theorem Backed.of_freeze {b b' : Bank Key} {authority treasury account mint : Address Key}
    {t : Treasury Key} (backed : Backed b treasury t)
    (effect : TokenEffect b authority (.freezeAccount account mint) b') :
    Backed b' treasury t := by
  cases effect
  exact backed

theorem Backed.of_thaw {b b' : Bank Key} {authority treasury account mint : Address Key}
    {t : Treasury Key} (backed : Backed b treasury t)
    (effect : TokenEffect b authority (.thawAccount account mint) b') : Backed b' treasury t := by
  cases effect
  exact backed

/-- A mint that grows by what its treasury has added to its count. -/
theorem Backed.of_mintTo {b b' : Bank Key} {authority treasury account : Address Key}
    {amount : Nat} {t : Treasury Key} (backed : Backed b treasury t)
    (effect : TokenEffect b authority (.mintTo t.mint account amount) b') :
    Backed b' treasury { t with totalMinted := t.totalMinted + amount } := by
  obtain ⟨m, minted, backs⟩ := backed
  cases effect with
  | mintTo found =>
    rw [minted] at found
    cases found
    refine ⟨_, by simp; rfl, ?_⟩
    constructor
    · exact backs.mintAuthority
    · exact backs.freezeAuthority
    · exact backs.decimals
    · have accounted := backs.accounted
      simp only
      omega

/-- A mint that shrinks by what its treasury has added to its count. -/
theorem Backed.of_burn {b b' : Bank Key} {authority treasury account : Address Key}
    {amount : Nat} {t : Treasury Key} (backed : Backed b treasury t)
    (effect : TokenEffect b authority (.burn account t.mint amount) b') :
    Backed b' treasury { t with totalBurned := t.totalBurned + amount } := by
  obtain ⟨m, minted, backs⟩ := backed
  cases effect with
  | burn found held sameMint thawed spent covered =>
    rw [minted] at found
    cases found
    refine ⟨_, by simp; rfl, ?_⟩
    constructor
    · exact backs.mintAuthority
    · exact backs.freezeAuthority
    · exact backs.decimals
    · have accounted := backs.accounted
      simp only
      omega

omit [DecidableEq Key] in
/-- A treasury that counts more minted or less burned is still backed. -/
theorem Backed.of_counts {b : Bank Key} {treasury : Address Key} {t t' : Treasury Key}
    (backed : Backed b treasury t) (mint : t'.mint = t.mint) (decimals : t'.decimals = t.decimals)
    (minted : t.totalMinted ≤ t'.totalMinted) (burned : t'.totalBurned ≤ t.totalBurned) :
    Backed b treasury t' := by
  obtain ⟨m, found, backs⟩ := backed
  refine ⟨m, by rw [mint]; exact found, ?_⟩
  constructor
  · exact backs.mintAuthority
  · exact backs.freezeAuthority
  · rw [decimals, backs.decimals]
  · have accounted := backs.accounted
    omega

/-! ## Changing one part of a state -/

omit [DecidableEq Key] in
/-- A request stays issued when no treasury changes. -/
theorem Issued.of_treasuries {s s' : State Key} {redemption : Address Key}
    {r : RedemptionRequest Key} (issued : Issued s redemption r)
    (same : s'.treasuries = s.treasuries) : Issued s' redemption r where
  signed := issued.signed
  address := issued.address
  treasury := by
    rw [same]
    exact issued.treasury
  positive := issued.positive

theorem WellFormed.setBank {s : State Key} (wellFormed : WellFormed s) {bank : Bank Key}
    (sound : bank.Sound)
    (backed : ∀ treasury t, s.treasuries treasury = some t → Backed bank treasury t) :
    WellFormed { s with bank } where
  bank := sound
  address := wellFormed.address
  backed := backed
  counted := wellFormed.counted
  issued := fun redemption r found => (wellFormed.issued redemption r found).of_treasuries rfl

theorem State.setTreasury_cases {s : State Key} {treasury other : Address Key}
    {t o : Treasury Key} (present : (s.setTreasury treasury t).treasuries other = some o) :
    other = treasury ∧ t = o ∨ other ≠ treasury ∧ s.treasuries other = some o := by
  rw [setTreasury_treasuries, Function.update_apply] at present
  split at present
  next same => exact Or.inl ⟨same, Option.some.inj present⟩
  next elsewhere => exact Or.inr ⟨elsewhere, present⟩

/-- An update of one treasury, seen from any other treasury or from the same. -/
theorem State.setTreasury_related {R : Treasury Key → Treasury Key → Prop}
    (refl : ∀ t, R t t) {s : State Key} {treasury other : Address Key} {t o o' : Treasury Key}
    (found : s.treasuries treasury = some t) (present : s.treasuries other = some o)
    (related : R o o') :
    ∃ t', (s.setTreasury other o').treasuries treasury = some t' ∧ R t t' := by
  by_cases same : treasury = other
  · subst same
    rw [found] at present
    cases present
    exact ⟨o', by simp, related⟩
  · exact ⟨t, by simp [same, found], refl t⟩

/-- A treasury may be stored under which every open request is still issued. -/
private theorem WellFormed.putTreasury {s : State Key} (wellFormed : WellFormed s)
    {treasury : Address Key} {t : Treasury Key} (address : treasury = .treasury t.mint)
    (backed : Backed s.bank treasury t) (counted : t.totalMinted < U64_SIZE)
    (issued : ∀ redemption r, s.requests redemption = some r →
      Issued (s.setTreasury treasury t) redemption r) : WellFormed (s.setTreasury treasury t) where
  bank := wellFormed.bank
  address := by
    intro other o present
    rcases State.setTreasury_cases present with ⟨rfl, rfl⟩ | ⟨-, kept⟩
    · exact address
    · exact wellFormed.address other o kept
  backed := by
    intro other o present
    rcases State.setTreasury_cases present with ⟨rfl, rfl⟩ | ⟨-, kept⟩
    · exact backed
    · exact wellFormed.backed other o kept
  counted := by
    intro other o present
    rcases State.setTreasury_cases present with ⟨rfl, rfl⟩ | ⟨-, kept⟩
    · exact counted
    · exact wellFormed.counted other o kept
  issued := issued

/-- A treasury may change as long as it stays backed and issues new nonces only. -/
theorem WellFormed.setTreasury {s : State Key} (wellFormed : WellFormed s)
    {treasury : Address Key} {t t' : Treasury Key} (found : s.treasuries treasury = some t)
    (sameMint : t'.mint = t.mint) (backed : Backed s.bank treasury t')
    (counted : t'.totalMinted < U64_SIZE) (later : t.redemptionNonce ≤ t'.redemptionNonce) :
    WellFormed (s.setTreasury treasury t') := by
  have address : treasury = .treasury t'.mint := by
    rw [sameMint]
    exact wellFormed.address treasury t found
  apply wellFormed.putTreasury address backed counted
  intro redemption r pending
  obtain ⟨signed, derived, ⟨o, present, mint, below⟩, positive⟩ :=
    wellFormed.issued redemption r pending
  refine ⟨signed, derived, ?_, positive⟩
  by_cases same : r.treasury = treasury
  · -- the nonces of this treasury only grow, so the request's is still below them
    rw [same, found] at present
    cases present
    exact ⟨t', by simp [same], sameMint.trans mint, below.trans_le later⟩
  · exact ⟨o, by simp [Function.update_of_ne same, present], mint, below⟩

theorem WellFormed.createTreasury {s : State Key} (wellFormed : WellFormed s)
    {treasury : Address Key} {t : Treasury Key} (fresh : s.treasuries treasury = none)
    (address : treasury = .treasury t.mint) (backed : Backed s.bank treasury t)
    (counted : t.totalMinted < U64_SIZE) : WellFormed (s.setTreasury treasury t) := by
  apply wellFormed.putTreasury address backed counted
  intro redemption r pending
  obtain ⟨signed, derived, ⟨o, present, issuer⟩, positive⟩ :=
    wellFormed.issued redemption r pending
  have other : r.treasury ≠ treasury := by
    intro same
    rw [same, fresh] at present
    cases present
  exact ⟨signed, derived, ⟨o, by simp [Function.update_of_ne other, present], issuer⟩, positive⟩

theorem WellFormed.setRequest {s : State Key} (wellFormed : WellFormed s)
    {redemption : Address Key} {r : RedemptionRequest Key} (issued : Issued s redemption r) :
    WellFormed (s.setRequest redemption (some r)) where
  bank := wellFormed.bank
  address := wellFormed.address
  backed := wellFormed.backed
  counted := wellFormed.counted
  issued := by
    intro other o present
    simp only [State.setRequest_requests, Function.update_apply] at present
    split at present
    next same =>
      cases present
      subst same
      exact issued.of_treasuries rfl
    next => exact (wellFormed.issued other o present).of_treasuries rfl

theorem WellFormed.closeRequest {s : State Key} (wellFormed : WellFormed s)
    (redemption : Address Key) : WellFormed (s.setRequest redemption none) where
  bank := wellFormed.bank
  address := wellFormed.address
  backed := wellFormed.backed
  counted := wellFormed.counted
  issued := by
    intro other o present
    simp only [State.setRequest_requests, Function.update_apply] at present
    split at present
    · cases present
    · exact (wellFormed.issued other o present).of_treasuries rfl

theorem WellFormed.emit {s : State Key} (wellFormed : WellFormed s) (event : Event Key) :
    WellFormed (s.emit event) where
  bank := wellFormed.bank
  address := wellFormed.address
  backed := wellFormed.backed
  counted := wellFormed.counted
  issued := fun redemption r found => (wellFormed.issued redemption r found).of_treasuries rfl

/-! ## Every step keeps states well formed -/

theorem wellFormed_effect {s s' : State Key} {now : Int} {instruction : Instruction Key}
    (effect : Effect s now instruction s') (wellFormed : WellFormed s) : WellFormed s' := by
  cases effect with
  | @initializeMint accounts decimals bank loaded created =>
    apply WellFormed.emit
    have sound := created.sound wellFormed.bank
    have backed : ∀ treasury t, s.treasuries treasury = some t → Backed bank treasury t := by
      intro treasury t found
      exact (wellFormed.backed treasury t found).of_effect created (by simp) (by simp)
    apply (wellFormed.setBank sound backed).createTreasury loaded.fresh loaded.treasury
    · cases created
      exact ⟨_, by simp; rfl, rfl, rfl, rfl, by simp⟩
    · simp [U64_SIZE]
  | @mintTokens accounts amount t bank loaded unpaused positive capped minted bounded =>
    apply WellFormed.emit
    have sound := minted.sound wellFormed.bank
    have raised := loaded.mint ▸ minted
    have backed := (wellFormed.backed _ t loaded.found).of_mintTo raised
    -- the treasury counts first, so that the mint never runs ahead of the count
    have counts : Backed s.bank accounts.treasury
        { t with totalMinted := t.totalMinted + amount } :=
      (wellFormed.backed _ t loaded.found).of_counts rfl rfl (Nat.le_add_right _ _) le_rfl
    have counted : WellFormed (s.setTreasury accounts.treasury
        { t with totalMinted := t.totalMinted + amount }) :=
      wellFormed.setTreasury loaded.found rfl counts bounded le_rfl
    refine counted.setBank sound ?_
    intro other o present
    rcases State.setTreasury_cases present with ⟨rfl, rfl⟩ | ⟨elsewhere, kept⟩
    · exact backed
    · -- another treasury has another mint authority
      have distinct : Address.mintAuthority accounts.treasury ≠ .mintAuthority other := by
        intro same
        cases same
        exact elsewhere rfl
      exact (wellFormed.backed other o kept).of_effect minted distinct (by simp)
  | @requestRedemption accounts amount t a approvedBank bank loaded unpaused positive thawed enough
      approved frozen bounded =>
    apply WellFormed.emit
    have sound := frozen.sound (approved.sound wellFormed.bank)
    have backed : ∀ treasury t, s.treasuries treasury = some t → Backed bank treasury t := by
      intro treasury o found
      exact ((wellFormed.backed treasury o found).of_effect approved (by simp)
        (by simp)).of_freeze frozen
    -- the nonce moves first, so that the new request is below it
    have unchanged : Backed bank accounts.treasury
        { t with redemptionNonce := t.redemptionNonce + 1 } :=
      (backed _ t loaded.found).of_counts rfl rfl le_rfl le_rfl
    have counted : WellFormed ({ s with bank }.setTreasury accounts.treasury
        { t with redemptionNonce := t.redemptionNonce + 1 }) :=
      (wellFormed.setBank sound backed).setTreasury loaded.found rfl unchanged
        (wellFormed.counted _ t loaded.found) (Nat.le_succ _)
    refine counted.setRequest ⟨⟨accounts.holder, rfl⟩, loaded.request, ?_, positive⟩
    exact ⟨{ t with redemptionNonce := t.redemptionNonce + 1 }, by simp, loaded.mint.symm,
      Nat.lt_succ_self _⟩
  | @approveRedemption accounts t r thawedBank bank loaded operator unpaused thawed burned
      bounded =>
    apply WellFormed.closeRequest
    apply WellFormed.emit
    have sound := burned.sound (thawed.sound wellFormed.bank)
    have unfrozen : ∀ treasury o, s.treasuries treasury = some o → Backed thawedBank treasury o :=
      fun treasury o found => (wellFormed.backed treasury o found).of_thaw thawed
    have backed : ∀ treasury o, s.treasuries treasury = some o → Backed bank treasury o :=
      fun treasury o found => (unfrozen treasury o found).of_effect burned (by simp) (by simp)
    have lowered := loaded.mint ▸ burned
    exact (wellFormed.setBank sound backed).setTreasury loaded.found rfl
      ((unfrozen _ t loaded.found).of_burn lowered) (wellFormed.counted _ t loaded.found) le_rfl
  | @cancelRedemption accounts t r thawedBank bank loaded allowed thawed revoked =>
    apply WellFormed.closeRequest
    apply WellFormed.emit
    have unfrozen : ∀ treasury o, s.treasuries treasury = some o → Backed thawedBank treasury o :=
      fun treasury o found => (wellFormed.backed treasury o found).of_thaw thawed
    split at revoked
    · exact wellFormed.setBank (revoked.sound (thawed.sound wellFormed.bank))
        fun treasury o found => (unfrozen treasury o found).of_effect revoked (by simp) (by simp)
    · subst revoked
      exact wellFormed.setBank (thawed.sound wellFormed.bank) unfrozen
  | freezeAccount loaded unpaused frozen =>
    apply WellFormed.emit
    exact wellFormed.setBank (frozen.sound wellFormed.bank)
      fun treasury o found => (wellFormed.backed treasury o found).of_freeze frozen
  | thawAccount loaded thawed =>
    apply WellFormed.emit
    exact wellFormed.setBank (thawed.sound wellFormed.bank)
      fun treasury o found => (wellFormed.backed treasury o found).of_thaw thawed
  | @govern _ treasury t t' event governs found sameLedger =>
    apply WellFormed.emit
    apply wellFormed.setTreasury found sameLedger.mint
    · exact (wellFormed.backed treasury t found).of_counts sameLedger.mint sameLedger.decimals
        sameLedger.totalMinted.ge sameLedger.totalBurned.le
    · rw [sameLedger.totalMinted]
      exact wellFormed.counted treasury t found
    · exact sameLedger.redemptionNonce.ge
  | token effect =>
    exact wellFormed.setBank (effect.sound wellFormed.bank)
      fun treasury o found =>
        (wellFormed.backed treasury o found).of_effect effect (by simp) (by simp)

/-- A treasury, once created, keeps its mint. -/
theorem Effect.treasury_kept {s s' : State Key} {now : Int} {instruction : Instruction Key}
    (effect : Effect s now instruction s') {treasury : Address Key} {t : Treasury Key}
    (found : s.treasuries treasury = some t) :
    ∃ t', s'.treasuries treasury = some t' ∧ t'.mint = t.mint := by
  have updated : ∀ {other o o'}, s.treasuries other = some o → o'.mint = o.mint →
      ∃ t', (s.setTreasury other o').treasuries treasury = some t' ∧ t'.mint = t.mint :=
    fun present sameMint =>
      State.setTreasury_related (R := fun t t' => t'.mint = t.mint) (fun _ => rfl) found present
        sameMint
  cases effect with
  | @initializeMint accounts _ _ loaded =>
    -- the new treasury is at an address that was free
    have other : treasury ≠ accounts.treasury := by
      rintro rfl
      rw [loaded.fresh] at found
      cases found
    exact ⟨t, by simp [Function.update_of_ne other, found], rfl⟩
  | mintTokens loaded => exact updated loaded.found rfl
  | requestRedemption loaded => exact updated loaded.found rfl
  | approveRedemption loaded => exact updated loaded.found rfl
  | govern governs present sameLedger => exact updated present sameLedger.mint
  | _ => exact ⟨t, found, rfl⟩

variable {process : TokenProgram Key}

theorem wellFormed_step (documented : Documented process) {s s' : State Key} {call : Call Key}
    (wellFormed : WellFormed s) (accepted : step process s call = .ok s') : WellFormed s' :=
  wellFormed_effect (step_effect documented accepted) wellFormed

theorem wellFormed_run (documented : Documented process) (calls : List (Call Key)) :
    WellFormed (run process .empty calls) :=
  run_invariant (fun _ _ _ wellFormed accepted => wellFormed_step documented wellFormed accepted)
    _ calls wellFormed_empty

end ZkSettle.Stablecoin
