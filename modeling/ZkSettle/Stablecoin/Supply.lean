import Mathlib.Algebra.GroupWithZero.Nat
import ZkSettle.Stablecoin.Escrow

/-!
# Supply accounting

A run of the program writes a ledger: what was minted, requested, approved and
cancelled, and what holders burned on their own. The counters of a treasury are the
sums of its ledger, and the supply of its mint is what was minted less what was
burned. A request is opened under a nonce of its own and consumed at most once.
-/
namespace ZkSettle.Stablecoin

open Checks Transactional

variable {Key : Type}

/-- One line of the ledger; `burned` is a burn that a holder signed without the program. -/
inductive Entry (Key : Type) where
  | minted (treasury : Address Key) (amount : Nat)
  | requested (redemption : Address Key) (r : RedemptionRequest Key)
  | approved (redemption : Address Key) (r : RedemptionRequest Key)
  | cancelled (redemption : Address Key) (r : RedemptionRequest Key)
  | burned (mint : Address Key) (amount : Nat)
  deriving DecidableEq, Repr

/-- What an accepted call adds to the ledger. -/
def entries (s : State Key) (call : Call Key) : List (Entry Key) :=
  match call.instruction with
  | .mintTokens accounts amount => [.minted accounts.treasury amount]
  | .requestRedemption accounts amount =>
    match s.treasuries accounts.treasury with
    | some t =>
      [.requested accounts.redemptionRequest
        { holder := .key accounts.holder
          treasury := accounts.treasury
          mint := accounts.mint
          tokenAccount := accounts.holderTokenAccount
          amount
          nonce := t.redemptionNonce
          requestedAt := call.now }]
    | none => []
  | .approveRedemption accounts =>
    (s.requests accounts.redemptionRequest).toList.map (.approved accounts.redemptionRequest)
  | .cancelRedemption accounts =>
    (s.requests accounts.redemptionRequest).toList.map (.cancelled accounts.redemptionRequest)
  | .token _ (.burn _ mint amount) => [.burned mint amount]
  | _ => []

/-- The request that an entry opened. -/
def Entry.opened : Entry Key → Option (Address Key)
  | .requested redemption _ => some redemption
  | _ => none

/-- The request that an entry consumed, by an approval or by a cancellation. -/
def Entry.consumed : Entry Key → Option (Address Key)
  | .approved redemption _ => some redemption
  | .cancelled redemption _ => some redemption
  | _ => none

variable [DecidableEq Key]

def Entry.mintedBy (treasury : Address Key) : Entry Key → Nat
  | .minted minter amount => if minter = treasury then amount else 0
  | _ => 0

def Entry.approvedBy (treasury : Address Key) : Entry Key → Nat
  | .approved _ r => if r.treasury = treasury then r.amount else 0
  | _ => 0

def Entry.burnedOf (mint : Address Key) : Entry Key → Nat
  | .burned burnt amount => if burnt = mint then amount else 0
  | _ => 0

def Entry.nonceOf (treasury : Address Key) : Entry Key → Option Nat
  | .requested _ r => if r.treasury = treasury then some r.nonce else none
  | _ => none

/-- The ledger of a run from the empty state. -/
def ledger (process : TokenProgram Key) (calls : List (Call Key)) : List (Entry Key) :=
  history (step process) (fun ledger s call => ledger ++ entries s call) [] .empty calls

def mintedBy (treasury : Address Key) (ledger : List (Entry Key)) : Nat :=
  (ledger.map (Entry.mintedBy treasury)).sum

def approvedBy (treasury : Address Key) (ledger : List (Entry Key)) : Nat :=
  (ledger.map (Entry.approvedBy treasury)).sum

def burnedOf (mint : Address Key) (ledger : List (Entry Key)) : Nat :=
  (ledger.map (Entry.burnedOf mint)).sum

def noncesOf (treasury : Address Key) (ledger : List (Entry Key)) : List Nat :=
  ledger.filterMap (Entry.nonceOf treasury)

@[simp] theorem mintedBy_append (treasury : Address Key) (first second : List (Entry Key)) :
    mintedBy treasury (first ++ second) = mintedBy treasury first + mintedBy treasury second := by
  simp [mintedBy]

@[simp] theorem approvedBy_append (treasury : Address Key) (first second : List (Entry Key)) :
    approvedBy treasury (first ++ second) =
      approvedBy treasury first + approvedBy treasury second := by
  simp [approvedBy]

@[simp] theorem burnedOf_append (mint : Address Key) (first second : List (Entry Key)) :
    burnedOf mint (first ++ second) = burnedOf mint first + burnedOf mint second := by
  simp [burnedOf]

@[simp] theorem noncesOf_append (treasury : Address Key) (first second : List (Entry Key)) :
    noncesOf treasury (first ++ second) = noncesOf treasury first ++ noncesOf treasury second := by
  simp [noncesOf]

/-! ## Counters -/

/-- A counter of a treasury, zero before the treasury exists. -/
def State.counter (field : Treasury Key → Nat) (s : State Key) (treasury : Address Key) : Nat :=
  match s.treasuries treasury with
  | some t => field t
  | none => 0

omit [DecidableEq Key] in
theorem State.counter_found {s : State Key} {treasury : Address Key} {t : Treasury Key}
    (field : Treasury Key → Nat) (found : s.treasuries treasury = some t) :
    s.counter field treasury = field t := by
  simp [counter, found]

omit [DecidableEq Key] in
theorem State.counter_of_treasuries {s s' : State Key} (field : Treasury Key → Nat)
    (same : s'.treasuries = s.treasuries) : s'.counter field = s.counter field := by
  funext treasury
  simp [counter, same]

/-- Storing a treasury moves its own counter and no other. -/
theorem State.counter_setTreasury {s : State Key} {treasury : Address Key} {t : Treasury Key}
    {field : Treasury Key → Nat} {added : Nat}
    (grown : field t = s.counter field treasury + added) (other : Address Key) :
    (s.setTreasury treasury t).counter field other =
      s.counter field other + if treasury = other then added else 0 := by
  by_cases same : other = treasury
  · subst same
    simp [counter, setTreasury] at grown ⊢
    exact grown
  · simp [counter, setTreasury, same, Ne.symm same]

/-- The counters of every treasury follow the entries of a step. -/
structure Counted (s s' : State Key) (added : List (Entry Key)) : Prop where
  minted : ∀ treasury, s'.counter Treasury.totalMinted treasury =
    s.counter Treasury.totalMinted treasury + mintedBy treasury added
  burned : ∀ treasury, s'.counter Treasury.totalBurned treasury =
    s.counter Treasury.totalBurned treasury + approvedBy treasury added
  nonces : ∀ treasury, List.range (s'.counter Treasury.redemptionNonce treasury) =
    List.range (s.counter Treasury.redemptionNonce treasury) ++ noncesOf treasury added

omit [DecidableEq Key] in
theorem Instruction.Governs.entries {instruction : Instruction Key} (governs : instruction.Governs)
    (s : State Key) (now : Int) : entries s ⟨now, instruction⟩ = [] := by
  cases instruction <;> first | rfl | exact governs.elim

/-- A step that writes no treasury, with entries that count for none. -/
private theorem counted_of_same {s s' : State Key} {added : List (Entry Key)}
    (same : s'.treasuries = s.treasuries)
    (uncounted : ∀ treasury, mintedBy treasury added = 0 ∧ approvedBy treasury added = 0 ∧
      noncesOf treasury added = []) : Counted s s' added where
  minted := by
    intro treasury
    rw [State.counter_of_treasuries _ same, (uncounted treasury).1, Nat.add_zero]
  burned := by
    intro treasury
    rw [State.counter_of_treasuries _ same, (uncounted treasury).2.1, Nat.add_zero]
  nonces := by
    intro treasury
    rw [State.counter_of_treasuries _ same, (uncounted treasury).2.2, List.append_nil]

/-- A step that stores one treasury, with entries for the growth of its counters. -/
private theorem counted_of_setTreasury {s s' : State Key} {address : Address Key}
    {t : Treasury Key} {added : List (Entry Key)} {mints burns issues : Nat}
    (stored : s'.treasuries = (s.setTreasury address t).treasuries)
    (minted : t.totalMinted = s.counter Treasury.totalMinted address + mints)
    (burned : t.totalBurned = s.counter Treasury.totalBurned address + burns)
    (nonce : t.redemptionNonce = s.counter Treasury.redemptionNonce address + issues)
    (added_minted : ∀ other, mintedBy other added = if address = other then mints else 0)
    (added_approved : ∀ other, approvedBy other added = if address = other then burns else 0)
    (added_nonces : ∀ other, noncesOf other added = if address = other then
      List.range' (s.counter Treasury.redemptionNonce address) issues else []) :
    Counted s s' added where
  minted := by
    intro other
    rw [State.counter_of_treasuries _ stored, State.counter_setTreasury minted, added_minted]
  burned := by
    intro other
    rw [State.counter_of_treasuries _ stored, State.counter_setTreasury burned, added_approved]
  nonces := by
    intro other
    rw [State.counter_of_treasuries _ stored, State.counter_setTreasury nonce, added_nonces]
    split
    next same =>
      rw [same, List.range_add, List.range'_eq_map_range]
    next => simp

private theorem counted_of_update {s s' : State Key} {address : Address Key}
    {t t' : Treasury Key} {added : List (Entry Key)} {mints burns issues : Nat}
    (found : s.treasuries address = some t)
    (stored : s'.treasuries = (s.setTreasury address t').treasuries)
    (minted : t'.totalMinted = t.totalMinted + mints)
    (burned : t'.totalBurned = t.totalBurned + burns)
    (nonce : t'.redemptionNonce = t.redemptionNonce + issues)
    (added_minted : ∀ other, mintedBy other added = if address = other then mints else 0)
    (added_approved : ∀ other, approvedBy other added = if address = other then burns else 0)
    (added_nonces : ∀ other, noncesOf other added =
      if address = other then List.range' t.redemptionNonce issues else []) :
    Counted s s' added := by
  rw [← State.counter_found Treasury.totalMinted found] at minted
  rw [← State.counter_found Treasury.totalBurned found] at burned
  rw [← State.counter_found Treasury.redemptionNonce found] at nonce added_nonces
  exact counted_of_setTreasury stored minted burned nonce added_minted added_approved added_nonces

theorem Effect.counted {s s' : State Key} {now : Int} {instruction : Instruction Key}
    (effect : Effect s now instruction s') : Counted s s' (entries s ⟨now, instruction⟩) := by
  have none_added : ∀ address other : Address Key, 0 = if address = other then 0 else 0 :=
    fun _ _ => (ite_self _).symm
  have none_issued : ∀ (address other : Address Key) (nonce : Nat),
      [] = if address = other then List.range' nonce 0 else [] := fun _ _ _ => (ite_self _).symm
  cases effect with
  | @initializeMint accounts decimals bank loaded created =>
    -- the counters start where those of a missing treasury stand, at zero
    have zero : ∀ field, 0 = s.counter field accounts.treasury := by
      intro field
      simp [State.counter, loaded.fresh]
    exact counted_of_setTreasury rfl (zero _) (zero _) (zero _) (none_added _) (none_added _)
      fun other => none_issued _ other _
  | mintTokens loaded =>
    refine counted_of_update loaded.found rfl rfl rfl rfl ?_ (none_added _)
      fun other => none_issued _ other _
    intro other
    simp [entries, mintedBy, Entry.mintedBy]
  | @requestRedemption accounts amount t a approvedBank bank loaded =>
    refine counted_of_update loaded.found rfl (Nat.add_zero _).symm (Nat.add_zero _).symm rfl
      ?_ ?_ ?_
    · intro other
      simp [entries, loaded.found, mintedBy, Entry.mintedBy]
    · intro other
      simp [entries, loaded.found, approvedBy, Entry.approvedBy]
    · intro other
      by_cases same : accounts.treasury = other
      · subst same
        simp [entries, loaded.found, noncesOf, Entry.nonceOf]
      · simp [entries, loaded.found, noncesOf, Entry.nonceOf, same]
  | @approveRedemption accounts t r thawedBank bank loaded =>
    refine counted_of_update loaded.found rfl (Nat.add_zero _).symm rfl (Nat.add_zero _).symm
      ?_ ?_ ?_
    · intro other
      simp [entries, loaded.request, mintedBy, Entry.mintedBy]
    · intro other
      simp [entries, loaded.request, approvedBy, Entry.approvedBy, loaded.requestTreasury]
    · intro other
      simp [entries, loaded.request, noncesOf, Entry.nonceOf]
  | cancelRedemption loaded =>
    refine counted_of_same rfl ?_
    intro treasury
    simp [entries, loaded.request, mintedBy, approvedBy, noncesOf, Entry.mintedBy,
      Entry.approvedBy, Entry.nonceOf]
  | freezeAccount => exact counted_of_same rfl fun treasury => ⟨rfl, rfl, rfl⟩
  | thawAccount => exact counted_of_same rfl fun treasury => ⟨rfl, rfl, rfl⟩
  | govern governs found sameLedger =>
    rw [governs.entries]
    have same : ∀ {a b : Nat}, a = b → a = b + 0 := id
    exact counted_of_update found rfl (same sameLedger.totalMinted) (same sameLedger.totalBurned)
      (same sameLedger.redemptionNonce) (none_added _) (none_added _)
      fun other => none_issued _ other _
  | @token signer op bank effect =>
    refine counted_of_same rfl ?_
    intro treasury
    cases op <;> exact ⟨rfl, rfl, rfl⟩

/-! ## Supply -/

def Bank.supply (b : Bank Key) (mint : Address Key) : Nat :=
  match b.mints mint with
  | some m => m.supply
  | none => 0

omit [DecidableEq Key] in
theorem Bank.supply_found {b : Bank Key} {mint : Address Key} {m : Mint Key}
    (minted : b.mints mint = some m) : b.supply mint = m.supply := by
  simp [supply, minted]

/-- Anyone but the authorities of the program changes the supply by burning. -/
theorem Backed.supply_burned {b b' : Bank Key} {authority treasury : Address Key}
    {op : TokenOp Key} {t : Treasury Key} (backed : Backed b treasury t)
    (effect : TokenEffect b authority op b') (notMinter : authority ≠ .mintAuthority treasury)
    (notFreezer : authority ≠ .freezeAuthority treasury) :
    b'.supply t.mint + op.burned t.mint = b.supply t.mint := by
  obtain ⟨m, minted, backs⟩ := backed
  obtain ⟨otherMinter, otherFreezer⟩ := backs.others notMinter notFreezer
  obtain ⟨m', kept, -, burned⟩ := effect.mint_kept minted otherMinter otherFreezer
  rw [Bank.supply_found kept, Bank.supply_found minted]
  exact burned

/-- Freezing and thawing leave every supply alone. -/
theorem TokenEffect.supply_freeze {b b' : Bank Key} {authority account mint : Address Key}
    (effect : TokenEffect b authority (.freezeAccount account mint) b') : b'.supply = b.supply := by
  cases effect
  rfl

theorem TokenEffect.supply_thaw {b b' : Bank Key} {authority account mint : Address Key}
    (effect : TokenEffect b authority (.thawAccount account mint) b') : b'.supply = b.supply := by
  cases effect
  rfl

theorem TokenEffect.supply_mintTo {b b' : Bank Key} {authority account mint : Address Key}
    {amount : Nat} (effect : TokenEffect b authority (.mintTo mint account amount) b') :
    b'.supply mint = b.supply mint + amount := by
  cases effect with
  | mintTo found =>
    rw [Bank.supply_found found]
    simp [Bank.supply]

theorem TokenEffect.supply_initializeMint2 {b b' : Bank Key}
    {authority mint mintAuthority : Address Key} {freezeAuthority : Option (Address Key)}
    {decimals : Nat} (effect : TokenEffect b authority
      (.initializeMint2 mint decimals mintAuthority freezeAuthority) b') :
    b.mints mint = none ∧ b'.supply mint = 0 := by
  cases effect with
  | initializeMint2 fresh => exact ⟨fresh, by simp [Bank.supply]⟩

/-- The supply of a treasury's mint follows the entries of a step. -/
theorem Effect.supply {s s' : State Key} {now : Int} {instruction : Instruction Key}
    (effect : Effect s now instruction s') (wellFormed : WellFormed s) {treasury : Address Key}
    {t : Treasury Key} (found : s.treasuries treasury = some t) :
    s'.bank.supply t.mint + approvedBy treasury (entries s ⟨now, instruction⟩) +
        burnedOf t.mint (entries s ⟨now, instruction⟩) =
      s.bank.supply t.mint + mintedBy treasury (entries s ⟨now, instruction⟩) := by
  have backed := wellFormed.backed treasury t found
  have address := wellFormed.address treasury t found
  cases effect with
  | initializeMint loaded created =>
    exact backed.supply_burned created (by simp) (by simp)
  | @mintTokens accounts amount o bank loaded unpaused positive capped minted =>
    by_cases same : accounts.treasury = treasury
    · have present := loaded.found
      rw [same, found] at present
      cases present
      have raised := minted.supply_mintTo
      rw [loaded.mint] at raised
      simpa [entries, mintedBy, approvedBy, burnedOf, Entry.mintedBy, Entry.approvedBy,
        Entry.burnedOf, same] using raised
    · have distinct : Address.mintAuthority accounts.treasury ≠ .mintAuthority treasury := by
        intro equal
        cases equal
        exact same rfl
      have kept := backed.supply_burned minted distinct (by simp)
      simpa [entries, mintedBy, approvedBy, burnedOf, Entry.mintedBy, Entry.approvedBy,
        Entry.burnedOf, TokenOp.burned, same] using kept
  -- an approval and a freeze leave the supply
  | requestRedemption loaded unpaused positive thawed enough approved frozen =>
    have kept := backed.supply_burned approved (by simp) (by simp)
    rw [← frozen.supply_freeze] at kept
    simpa [entries, loaded.found, mintedBy, approvedBy, burnedOf, Entry.mintedBy,
      Entry.approvedBy, Entry.burnedOf, TokenOp.burned] using kept
  | @approveRedemption accounts o r thawedBank bank loaded operator unpaused thawed burned =>
    have kept := (backed.of_thaw thawed).supply_burned burned (by simp) (by simp)
    rw [thawed.supply_thaw] at kept
    -- a mint and its treasury name each other
    have same : accounts.mint = t.mint ↔ r.treasury = treasury := by
      rw [loaded.requestTreasury, loaded.treasury, loaded.mint, address]
      simp
    simpa [entries, loaded.request, mintedBy, approvedBy, burnedOf, Entry.mintedBy,
      Entry.approvedBy, Entry.burnedOf, TokenOp.burned, same] using kept
  | @cancelRedemption accounts o r thawedBank bank loaded allowed thawed revoked =>
    have kept : bank.supply t.mint = s.bank.supply t.mint := by
      rw [← thawed.supply_thaw]
      split at revoked
      · exact (backed.of_thaw thawed).supply_burned revoked (by simp) (by simp)
      · rw [revoked]
    simpa [entries, loaded.request, mintedBy, approvedBy, burnedOf, Entry.mintedBy,
      Entry.approvedBy, Entry.burnedOf] using kept
  | freezeAccount loaded unpaused frozen => exact congrFun frozen.supply_freeze t.mint
  | thawAccount loaded thawed => exact congrFun thawed.supply_thaw t.mint
  | govern governs =>
    rw [governs.entries]
    rfl
  -- a holder signs for a burn at most: the authorities of the mint are derived
  | @token signer op bank effect =>
    have kept := backed.supply_burned effect (by simp) (by simp)
    cases op <;> simpa [entries, mintedBy, approvedBy, burnedOf, Entry.mintedBy, Entry.approvedBy,
      Entry.burnedOf, TokenOp.burned] using kept

/-! ## Requests -/

/-- What a step does to the open requests. -/
inductive RequestEffect (s s' : State Key) : List (Entry Key) → Prop where
  | opens {redemption r} {treasury holder : Address Key}
      (address : redemption =
        .redemption treasury holder (s.counter Treasury.redemptionNonce treasury))
      (issued : s'.counter Treasury.redemptionNonce treasury =
        s.counter Treasury.redemptionNonce treasury + 1)
      (requests : s'.requests = Function.update s.requests redemption (some r)) :
      RequestEffect s s' [.requested redemption r]
  | consumes {entry : Entry Key} {redemption r} (consumed : entry.consumed = some redemption)
      (unopened : entry.opened = none) (present : s.requests redemption = some r)
      (requests : s'.requests = Function.update s.requests redemption none) :
      RequestEffect s s' [entry]
  | keeps {added : List (Entry Key)} (requests : s'.requests = s.requests)
      (unopened : added.filterMap Entry.opened = [])
      (unconsumed : added.filterMap Entry.consumed = []) : RequestEffect s s' added

theorem Effect.requests {s s' : State Key} {now : Int} {instruction : Instruction Key}
    (effect : Effect s now instruction s') : RequestEffect s s' (entries s ⟨now, instruction⟩) := by
  cases effect with
  | @requestRedemption accounts amount t a approvedBank bank loaded =>
    -- the address of the request carries the nonce that the treasury has counted to
    have count := State.counter_found Treasury.redemptionNonce loaded.found
    have added : entries s ⟨now, .requestRedemption accounts amount⟩ =
        [.requested accounts.redemptionRequest
          { holder := .key accounts.holder, treasury := accounts.treasury, mint := accounts.mint,
            tokenAccount := accounts.holderTokenAccount, amount, nonce := t.redemptionNonce,
            requestedAt := now }] := by
      simp [entries, loaded.found]
    have address : accounts.redemptionRequest = .redemption accounts.treasury
        (.key accounts.holder) (s.counter Treasury.redemptionNonce accounts.treasury) := by
      rw [count]
      exact loaded.request
    rw [added]
    refine .opens address ?_ rfl
    rw [count]
    simp [State.counter]
  | @approveRedemption accounts t r thawedBank bank loaded =>
    have added : entries s ⟨now, .approveRedemption accounts⟩ =
        [.approved accounts.redemptionRequest r] := by
      simp [entries, loaded.request]
    rw [added]
    exact .consumes rfl rfl loaded.request rfl
  | @cancelRedemption accounts t r thawedBank bank loaded =>
    have added : entries s ⟨now, .cancelRedemption accounts⟩ =
        [.cancelled accounts.redemptionRequest r] := by
      simp [entries, loaded.request]
    rw [added]
    exact .consumes rfl rfl loaded.request rfl
  | initializeMint => exact .keeps rfl rfl rfl
  | mintTokens => exact .keeps rfl rfl rfl
  | freezeAccount => exact .keeps rfl rfl rfl
  | thawAccount => exact .keeps rfl rfl rfl
  | govern governs =>
    rw [governs.entries]
    exact .keeps rfl rfl rfl
  | @token signer op bank effect => cases op <;> exact .keeps rfl rfl rfl

def openedIn (ledger : List (Entry Key)) : List (Address Key) := ledger.filterMap Entry.opened

def consumedIn (ledger : List (Entry Key)) : List (Address Key) := ledger.filterMap Entry.consumed

/-- Every request is opened under a new nonce, and is open or has been consumed once. -/
structure RequestsOnce (s : State Key) (ledger : List (Entry Key)) : Prop where
  issued : ∀ redemption ∈ openedIn ledger, ∃ treasury holder nonce,
    redemption = .redemption treasury holder nonce ∧
      nonce < s.counter Treasury.redemptionNonce treasury
  opened : (openedIn ledger).Nodup
  pending : ∀ redemption r, s.requests redemption = some r →
    redemption ∈ openedIn ledger ∧ redemption ∉ consumedIn ledger
  consumed : ∀ redemption ∈ consumedIn ledger, redemption ∈ openedIn ledger
  once : (consumedIn ledger).Nodup

omit [DecidableEq Key] in
theorem requestsOnce_empty : RequestsOnce (State.empty : State Key) [] where
  issued := by simp [openedIn]
  opened := by simp [openedIn]
  pending := by simp [State.empty]
  consumed := by simp [consumedIn]
  once := by simp [consumedIn]

theorem Counted.nonce_le {s s' : State Key} {added : List (Entry Key)}
    (counted : Counted s s' added) (treasury : Address Key) :
    s.counter Treasury.redemptionNonce treasury ≤
      s'.counter Treasury.redemptionNonce treasury := by
  have lengths := congrArg List.length (counted.nonces treasury)
  simp only [List.length_append, List.length_range] at lengths
  omega

/-- Nonces that have been issued are below the counter later on. -/
theorem RequestsOnce.issued_later {s s' : State Key} {ledger added : List (Entry Key)}
    (once : RequestsOnce s ledger) (counted : Counted s s' added) :
    ∀ redemption ∈ openedIn ledger, ∃ treasury holder nonce,
      redemption = .redemption treasury holder nonce ∧
        nonce < s'.counter Treasury.redemptionNonce treasury := by
  intro redemption member
  obtain ⟨treasury, holder, nonce, address, below⟩ := once.issued redemption member
  exact ⟨treasury, holder, nonce, address, below.trans_le (counted.nonce_le treasury)⟩

theorem RequestsOnce.opens {s s' : State Key} {ledger : List (Entry Key)}
    {redemption treasury holder : Address Key} {r : RedemptionRequest Key}
    (once : RequestsOnce s ledger) (counted : Counted s s' [.requested redemption r])
    (address : redemption =
      .redemption treasury holder (s.counter Treasury.redemptionNonce treasury))
    (next : s'.counter Treasury.redemptionNonce treasury =
      s.counter Treasury.redemptionNonce treasury + 1)
    (requests : s'.requests = Function.update s.requests redemption (some r)) :
    RequestsOnce s' (ledger ++ [.requested redemption r]) := by
  have opened : openedIn (ledger ++ [.requested redemption r]) =
      openedIn ledger ++ [redemption] := by simp [openedIn, Entry.opened]
  have consumed : consumedIn (ledger ++ [.requested redemption r]) = consumedIn ledger := by
    simp [consumedIn, Entry.consumed]
  -- the new request has a nonce that no opened request has
  have fresh : redemption ∉ openedIn ledger := by
    intro member
    obtain ⟨issuer, owner, nonce, same, below⟩ := once.issued redemption member
    rw [address] at same
    cases same
    exact Nat.lt_irrefl _ below
  constructor
  case issued =>
    intro other member
    rw [opened, List.mem_append, List.mem_singleton] at member
    -- the counter has passed the nonce of the new request
    rcases member with member | rfl
    · exact once.issued_later counted other member
    · exact ⟨treasury, holder, _, address, by rw [next]; exact Nat.lt_succ_self _⟩
  case opened =>
    rw [opened, ← List.concat_eq_append]
    exact once.opened.concat fresh
  case pending =>
    intro other r' present
    rw [opened, consumed, List.mem_append, List.mem_singleton]
    rw [requests, Function.update_apply] at present
    split at present
    next same => exact ⟨Or.inr same, fun member => fresh (same ▸ once.consumed other member)⟩
    next =>
      obtain ⟨member, unconsumed⟩ := once.pending other r' present
      exact ⟨Or.inl member, unconsumed⟩
  case consumed =>
    intro other member
    rw [consumed] at member
    rw [opened, List.mem_append]
    exact Or.inl (once.consumed other member)
  case once =>
    rw [consumed]
    exact once.once

theorem RequestsOnce.consumes {s s' : State Key} {ledger : List (Entry Key)} {entry : Entry Key}
    {redemption : Address Key} {r : RedemptionRequest Key} (once : RequestsOnce s ledger)
    (counted : Counted s s' [entry]) (consumes : entry.consumed = some redemption)
    (unopened : entry.opened = none) (present : s.requests redemption = some r)
    (requests : s'.requests = Function.update s.requests redemption none) :
    RequestsOnce s' (ledger ++ [entry]) := by
  have opened : openedIn (ledger ++ [entry]) = openedIn ledger := by
    simp [openedIn, unopened]
  have consumed : consumedIn (ledger ++ [entry]) = consumedIn ledger ++ [redemption] := by
    simp [consumedIn, consumes]
  obtain ⟨wasOpened, unconsumed⟩ := once.pending redemption r present
  constructor
  case issued =>
    rw [opened]
    exact once.issued_later counted
  case opened =>
    rw [opened]
    exact once.opened
  -- what is still open is another request
  case pending =>
    intro other r' pending
    rw [requests, Function.update_apply] at pending
    split at pending
    · cases pending
    next distinct =>
      obtain ⟨member, open_⟩ := once.pending other r' pending
      rw [opened, consumed, List.mem_append, List.mem_singleton]
      exact ⟨member, fun done => done.elim open_ distinct⟩
  case consumed =>
    intro other member
    rw [consumed, List.mem_append, List.mem_singleton] at member
    rw [opened]
    rcases member with member | rfl
    · exact once.consumed other member
    · exact wasOpened
  -- it was open, so that nothing has consumed it before
  case once =>
    rw [consumed, ← List.concat_eq_append]
    exact once.once.concat unconsumed

theorem RequestsOnce.keeps {s s' : State Key} {ledger added : List (Entry Key)}
    (once : RequestsOnce s ledger) (counted : Counted s s' added)
    (requests : s'.requests = s.requests) (unopened : added.filterMap Entry.opened = [])
    (unconsumed : added.filterMap Entry.consumed = []) : RequestsOnce s' (ledger ++ added) := by
  have opened : openedIn (ledger ++ added) = openedIn ledger := by
    simp only [openedIn, List.filterMap_append, unopened, List.append_nil]
  have consumed : consumedIn (ledger ++ added) = consumedIn ledger := by
    simp only [consumedIn, List.filterMap_append, unconsumed, List.append_nil]
  constructor
  case issued =>
    rw [opened]
    exact once.issued_later counted
  case opened =>
    rw [opened]
    exact once.opened
  case pending =>
    rw [requests, opened, consumed]
    exact once.pending
  case consumed =>
    rw [opened, consumed]
    exact once.consumed
  case once =>
    rw [consumed]
    exact once.once

theorem RequestsOnce.step {s s' : State Key} {ledger added : List (Entry Key)}
    (once : RequestsOnce s ledger) (counted : Counted s s' added)
    (effect : RequestEffect s s' added) : RequestsOnce s' (ledger ++ added) := by
  cases effect with
  | opens address next requests => exact once.opens counted address next requests
  | consumes consumes unopened present requests =>
    exact once.consumes counted consumes unopened present requests
  | keeps requests unopened unconsumed => exact once.keeps counted requests unopened unconsumed

/-! ## The account of a run -/

/-- The counters of a treasury fit in a `u64`. -/
structure Treasury.Bounded (t : Treasury Key) : Prop where
  minted : t.totalMinted < U64_SIZE
  burned : t.totalBurned < U64_SIZE
  nonce : t.redemptionNonce < U64_SIZE

theorem Effect.bounded {s s' : State Key} {now : Int} {instruction : Instruction Key}
    (effect : Effect s now instruction s')
    (bounded : ∀ treasury t, s.treasuries treasury = some t → t.Bounded) :
    ∀ treasury t, s'.treasuries treasury = some t → t.Bounded := by
  -- one treasury is stored, the others are the ones before
  have stored : ∀ {address : Address Key} {t' : Treasury Key}, t'.Bounded →
      ∀ treasury t, (s.setTreasury address t').treasuries treasury = some t → t.Bounded := by
    intro address t' fits treasury t present
    rcases State.setTreasury_cases present with ⟨-, rfl⟩ | ⟨-, kept⟩
    · exact fits
    · exact bounded treasury t kept
  cases effect with
  | initializeMint =>
    have zero : 0 < U64_SIZE := by decide
    exact stored ⟨zero, zero, zero⟩
  | mintTokens loaded unpaused positive capped minted below =>
    obtain ⟨-, burned, nonce⟩ := bounded _ _ loaded.found
    exact stored ⟨below, burned, nonce⟩
  | requestRedemption loaded unpaused positive thawed enough approved frozen below =>
    obtain ⟨minted, burned, -⟩ := bounded _ _ loaded.found
    exact stored ⟨minted, burned, below⟩
  | approveRedemption loaded operator unpaused thawed burned below =>
    obtain ⟨minted, -, nonce⟩ := bounded _ _ loaded.found
    exact stored ⟨minted, below, nonce⟩
  | govern governs found sameLedger =>
    obtain ⟨minted, burned, nonce⟩ := bounded _ _ found
    exact stored ⟨sameLedger.totalMinted ▸ minted, sameLedger.totalBurned ▸ burned,
      sameLedger.redemptionNonce ▸ nonce⟩
  | _ => exact bounded

theorem Effect.mint_stays {s s' : State Key} {now : Int} {instruction : Instruction Key}
    (effect : Effect s now instruction s') {mint : Address Key}
    (gone : s'.bank.mints mint = none) : s.bank.mints mint = none := by
  cases effect with
  | initializeMint loaded created => exact created.mint_stays gone
  | mintTokens loaded unpaused positive capped minted => exact minted.mint_stays gone
  | requestRedemption loaded unpaused positive thawed enough approved frozen =>
    exact approved.mint_stays (frozen.mint_stays gone)
  | approveRedemption loaded operator unpaused thawed burned =>
    exact thawed.mint_stays (burned.mint_stays gone)
  | cancelRedemption loaded allowed thawed revoked =>
    split at revoked
    · exact thawed.mint_stays (revoked.mint_stays gone)
    · subst revoked
      exact thawed.mint_stays gone
  | freezeAccount loaded unpaused frozen => exact frozen.mint_stays gone
  | thawAccount loaded thawed => exact thawed.mint_stays gone
  | govern => exact gone
  | token effect => exact effect.mint_stays gone

/-- Nobody burns a mint that does not exist. -/
theorem Effect.burned_minted {s s' : State Key} {now : Int} {instruction : Instruction Key}
    (effect : Effect s now instruction s') {mint : Address Key}
    (gone : s.bank.mints mint = none) : burnedOf mint (entries s ⟨now, instruction⟩) = 0 := by
  cases effect with
  | requestRedemption loaded => simp [entries, loaded.found, burnedOf, Entry.burnedOf]
  | approveRedemption loaded => simp [entries, loaded.request, burnedOf, Entry.burnedOf]
  | cancelRedemption loaded => simp [entries, loaded.request, burnedOf, Entry.burnedOf]
  | govern governs =>
    rw [governs.entries]
    rfl
  | token effect =>
    cases effect with
    | @burn account burnt amount m a a' minted =>
      have other : burnt ≠ mint := by
        rintro rfl
        rw [gone] at minted
        cases minted
      simp [entries, burnedOf, Entry.burnedOf, other]
    | _ => rfl
  | _ => rfl

/-- A treasury is created by `initialize_mint` together with its mint. -/
theorem Effect.treasury_created {s s' : State Key} {now : Int} {instruction : Instruction Key}
    (effect : Effect s now instruction s') {treasury : Address Key} {t : Treasury Key}
    (fresh : s.treasuries treasury = none) (found : s'.treasuries treasury = some t) :
    ∃ (accounts : InitializeMint Key) (decimals : Nat), TokenEffect s.bank (.key accounts.admin)
        (.initializeMint2 accounts.mint decimals (.mintAuthority accounts.treasury)
          (some (.freezeAuthority accounts.treasury))) s'.bank ∧
      t = { admin := .key accounts.admin, operator := .key accounts.admin, mint := accounts.mint,
            totalMinted := 0, totalBurned := 0, decimals, paused := false, pendingAdmin := none,
            mintCap := 0, redemptionNonce := 0 } := by
  -- an instruction about a treasury that was there has not created this one
  have existing : ∀ {address : Address Key} {o o' : Treasury Key},
      s.treasuries address = some o →
      (s.setTreasury address o').treasuries treasury = some t → False := by
    intro address o o' present stored
    rcases State.setTreasury_cases stored with ⟨rfl, -⟩ | ⟨-, kept⟩
    · rw [fresh] at present
      cases present
    · rw [fresh] at kept
      cases kept
  cases effect with
  | @initializeMint accounts decimals bank loaded created =>
    rcases State.setTreasury_cases (s := s) found with ⟨-, same⟩ | ⟨-, kept⟩
    · exact ⟨accounts, decimals, created, same.symm⟩
    · rw [fresh] at kept
      cases kept
  | mintTokens loaded => exact (existing loaded.found found).elim
  | requestRedemption loaded => exact (existing loaded.found found).elim
  | approveRedemption loaded => exact (existing loaded.found found).elim
  | govern governs present => exact (existing present found).elim
  | _ =>
    rw [show s.treasuries treasury = some t from found] at fresh
    cases fresh

/-- A state and the ledger of the run that led to it. -/
structure Accounted (s : State Key) (ledger : List (Entry Key)) : Prop where
  wellFormed : WellFormed s
  minted : ∀ treasury, s.counter Treasury.totalMinted treasury = mintedBy treasury ledger
  burned : ∀ treasury, s.counter Treasury.totalBurned treasury = approvedBy treasury ledger
  nonces : ∀ treasury,
    List.range (s.counter Treasury.redemptionNonce treasury) = noncesOf treasury ledger
  bounded : ∀ treasury t, s.treasuries treasury = some t → t.Bounded
  supply : ∀ treasury t, s.treasuries treasury = some t →
    s.bank.supply t.mint + t.totalBurned + burnedOf t.mint ledger = t.totalMinted
  unminted : ∀ mint, s.bank.mints mint = none → burnedOf mint ledger = 0
  requests : RequestsOnce s ledger

theorem accounted_empty : Accounted (State.empty : State Key) [] where
  wellFormed := wellFormed_empty
  minted := fun _ => rfl
  burned := fun _ => rfl
  nonces := fun _ => rfl
  bounded := by simp [State.empty]
  supply := by simp [State.empty]
  unminted := fun _ _ => rfl
  requests := requestsOnce_empty

theorem accounted_effect {s s' : State Key} {ledger : List (Entry Key)} {now : Int}
    {instruction : Instruction Key} (accounted : Accounted s ledger)
    (effect : Effect s now instruction s') :
    Accounted s' (ledger ++ entries s ⟨now, instruction⟩) := by
  have counted := effect.counted
  constructor
  case wellFormed => exact wellFormed_effect effect accounted.wellFormed
  case minted =>
    intro treasury
    rw [counted.minted, accounted.minted, mintedBy_append]
  case burned =>
    intro treasury
    rw [counted.burned, accounted.burned, approvedBy_append]
  case nonces =>
    intro treasury
    rw [counted.nonces, accounted.nonces, noncesOf_append]
  case bounded => exact effect.bounded accounted.bounded
  case supply =>
    intro treasury t' found
    rw [burnedOf_append]
    cases present : s.treasuries treasury with
    | some t =>
      -- the counters and the supply move by the same entries
      have minted := counted.minted treasury
      have burned := counted.burned treasury
      rw [State.counter_found _ found, State.counter_found _ present] at minted burned
      obtain ⟨_, kept, mint⟩ := effect.treasury_kept present
      rw [found] at kept
      cases kept
      have moved := effect.supply accounted.wellFormed present
      have before := accounted.supply treasury t present
      rw [mint]
      omega
    | none =>
      -- nothing is in supply of a new mint, and nobody has burned of it before
      obtain ⟨accounts, decimals, created, rfl⟩ := effect.treasury_created present found
      obtain ⟨fresh, empty⟩ := created.supply_initializeMint2
      rw [empty, accounted.unminted accounts.mint fresh, effect.burned_minted fresh]
      rfl
  case unminted =>
    intro mint gone
    have before := effect.mint_stays gone
    rw [burnedOf_append, accounted.unminted mint before, effect.burned_minted before]
  case requests => exact accounted.requests.step counted effect.requests

variable {process : TokenProgram Key}

theorem run_accounted (documented : Documented process) (calls : List (Call Key)) :
    Accounted (run process .empty calls) (ledger process calls) := by
  apply history_invariant
  case preserved =>
    intro s ledger call s' accounted accepted
    exact accounted_effect accounted (step_effect documented accepted)
  case holds => exact accounted_empty

/-- What the state and the ledger of a run promise about each other. -/
structure SupplyAccounted (process : TokenProgram Key) (calls : List (Call Key)) : Prop where
  supply : ∀ treasury t, (run process .empty calls).treasuries treasury = some t →
    ∃ m, (run process .empty calls).bank.mints t.mint = some m ∧
      m.supply + t.totalBurned ≤ t.totalMinted ∧
      ((∀ amount, .burned t.mint amount ∉ ledger process calls) →
        m.supply + t.totalBurned = t.totalMinted)
  counters : ∀ treasury t, (run process .empty calls).treasuries treasury = some t →
    t.Bounded ∧ t.totalMinted = mintedBy treasury (ledger process calls)
  burned : ∀ treasury t, (run process .empty calls).treasuries treasury = some t →
    t.totalBurned = approvedBy treasury (ledger process calls)
  nonces : ∀ treasury t, (run process .empty calls).treasuries treasury = some t →
    noncesOf treasury (ledger process calls) = List.range t.redemptionNonce
  opened : (openedIn (ledger process calls)).Nodup
  consumed : (consumedIn (ledger process calls)).Nodup ∧
    ∀ redemption ∈ consumedIn (ledger process calls), redemption ∈ openedIn (ledger process calls)
  capped : ∀ now accounts amount s', step process (run process .empty calls)
      ⟨now, .mintTokens accounts amount⟩ = .ok s' →
    ∃ t, s'.treasuries accounts.treasury = some t ∧ (0 < t.mintCap → t.totalMinted ≤ t.mintCap)
  failed : ∀ call error, step process (run process .empty calls) call = .error error →
    run process .empty (calls ++ [call]) = run process .empty calls

theorem burnedOf_eq_zero {mint : Address Key} {ledger : List (Entry Key)}
    (unburned : ∀ amount, .burned mint amount ∉ ledger) : burnedOf mint ledger = 0 := by
  rw [burnedOf, List.sum_eq_zero]
  intro amount member
  obtain ⟨entry, present, rfl⟩ := List.mem_map.mp member
  cases entry with
  | burned burnt amount =>
    have other : burnt ≠ mint := by
      rintro rfl
      exact unburned amount present
    simp [Entry.burnedOf, other]
  | _ => rfl

/-- After every run: the supply and what was burned through the program were minted by
it, exactly when no holder burned alone; the counters are the sums of the history; nonces
and requests are used once; and a mint respects its cap. -/
theorem run_supplyAccounted (documented : Documented process) (calls : List (Call Key)) :
    SupplyAccounted process calls := by
  have accounted := run_accounted documented calls
  constructor
  case supply =>
    intro treasury t found
    obtain ⟨m, minted, backs⟩ := accounted.wellFormed.backed treasury t found
    have balance := accounted.supply treasury t found
    rw [Bank.supply_found minted] at balance
    refine ⟨m, minted, backs.accounted, ?_⟩
    -- when nobody burns by hand, the only burns are those of the approvals
    intro unburned
    rw [burnedOf_eq_zero unburned] at balance
    exact balance
  case counters =>
    intro treasury t found
    rw [← accounted.minted, State.counter_found _ found]
    exact ⟨accounted.bounded treasury t found, rfl⟩
  case burned =>
    intro treasury t found
    rw [← accounted.burned, State.counter_found _ found]
  case nonces =>
    intro treasury t found
    rw [← accounted.nonces, State.counter_found _ found]
  case opened => exact accounted.requests.opened
  case consumed => exact ⟨accounted.requests.once, accounted.requests.consumed⟩
  case capped =>
    intro now accounts amount s' accepted
    cases step_effect documented accepted with
    | mintTokens loaded unpaused positive capped => exact ⟨_, Function.update_self .., capped⟩
    | govern governs => exact governs.elim
  case failed =>
    intro call error rejected
    rw [run, Transactional.run_append, Transactional.run_cons, Transactional.run_nil,
      Transactional.commit, rejected]

open Scenario in
theorem run_supplyAccounted_approved :
    ledger reference (funded ++ [request, ⟨0, approveBy redemption requested 0⟩]) =
        [.minted treasury 100, .requested redemption requested, .approved redemption requested] ∧
      SupplyAccounted reference (funded ++ [request, ⟨0, approveBy redemption requested 0⟩]) :=
  ⟨by decide, run_supplyAccounted reference_documented _⟩

end ZkSettle.Stablecoin
