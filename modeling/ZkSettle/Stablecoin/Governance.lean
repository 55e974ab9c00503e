import ZkSettle.Stablecoin.Supply

/-!
# Governance

Who holds an office of a treasury and what a pause stops. An office changes only by its
own instruction under the signature of the admin, and the admin hands over in two steps:
what the pending admin accepts is the last proposal of the admin still in office. While
a treasury is paused its books do not move.
-/
namespace ZkSettle.Stablecoin

open Checks Transactional

variable {Key : Type}

/-- The treasury that an administration instruction is about. -/
def Instruction.governed : Instruction Key → Option (Address Key)
  | .proposeAdmin accounts _ => some accounts.treasury
  | .acceptAdmin accounts => some accounts.treasury
  | .cancelPendingAdmin accounts => some accounts.treasury
  | .setOperator accounts _ => some accounts.treasury
  | .updateMintCap accounts _ => some accounts.treasury
  | .pause accounts => some accounts.treasury
  | .unpause accounts => some accounts.treasury
  | _ => none

/-- The instructions that write or clear the pending admin of a treasury. -/
def Instruction.HandsOver (treasury : Address Key) : Instruction Key → Prop
  | .proposeAdmin accounts _ => accounts.treasury = treasury
  | .acceptAdmin accounts => accounts.treasury = treasury
  | .cancelPendingAdmin accounts => accounts.treasury = treasury
  | _ => False

/-- The part of a treasury that only administration instructions change. -/
structure Treasury.SameOffice (t t' : Treasury Key) : Prop where
  admin : t'.admin = t.admin
  operator : t'.operator = t.operator
  paused : t'.paused = t.paused
  pendingAdmin : t'.pendingAdmin = t.pendingAdmin
  mintCap : t'.mintCap = t.mintCap

theorem Treasury.SameOffice.refl (t : Treasury Key) : t.SameOffice t := ⟨rfl, rfl, rfl, rfl, rfl⟩

/-- What an accepted administration instruction does to its treasury. -/
inductive Treasury.Governed (t : Treasury Key) : Instruction Key → Treasury Key → Prop where
  | proposeAdmin {accounts newAdmin} (signed : t.admin = .key accounts.admin) :
      Governed t (.proposeAdmin accounts newAdmin) { t with pendingAdmin := some newAdmin }
  | acceptAdmin {accounts} (pending : t.pendingAdmin = some (.key accounts.newAdmin)) :
      Governed t (.acceptAdmin accounts)
        { t with admin := .key accounts.newAdmin, pendingAdmin := none }
  | cancelPendingAdmin {accounts} (signed : t.admin = .key accounts.admin) :
      Governed t (.cancelPendingAdmin accounts) { t with pendingAdmin := none }
  | setOperator {accounts newOperator} (signed : t.admin = .key accounts.admin) :
      Governed t (.setOperator accounts newOperator) { t with operator := newOperator }
  | updateMintCap {accounts newCap} (signed : t.admin = .key accounts.admin) :
      Governed t (.updateMintCap accounts newCap) { t with mintCap := newCap }
  | pause {accounts} (signed : t.admin = .key accounts.admin) :
      Governed t (.pause accounts) { t with paused := true }
  | unpause {accounts} (signed : t.admin = .key accounts.admin) :
      Governed t (.unpause accounts) { t with paused := false }

variable [DecidableEq Key] {process : TokenProgram Key}

/-- An accepted administration instruction writes its treasury and nothing else. -/
theorem step_governed {s s' : State Key} {call : Call Key}
    (accepted : step process s call = .ok s') (governs : call.instruction.Governs) :
    ∃ treasury t t', call.instruction.governed = some treasury ∧
      s.treasuries treasury = some t ∧ t.Governed call.instruction t' ∧
      s'.treasuries = (s.setTreasury treasury t').treasuries := by
  obtain ⟨now, instruction⟩ := call
  -- every handler loads the treasury with its signer, checks its argument and writes one field
  cases instruction with
  | proposeAdmin accounts newAdmin =>
    simp only [step, proposeAdminHandler, bind_eq_ok, AdminAccounts.load_eq_ok, require_eq_ok,
      pure_eq_ok, exists_const] at accepted
    obtain ⟨t, ⟨found, -, signed⟩, -, -, rfl⟩ := accepted
    exact ⟨accounts.treasury, t, _, rfl, found, .proposeAdmin signed, rfl⟩
  | acceptAdmin accounts =>
    simp only [step, acceptAdminHandler, bind_eq_ok, AcceptAdmin.load_eq_ok, pure_eq_ok]
      at accepted
    obtain ⟨t, ⟨found, -, pending⟩, rfl⟩ := accepted
    exact ⟨accounts.treasury, t, _, rfl, found, .acceptAdmin pending, rfl⟩
  | cancelPendingAdmin accounts =>
    simp only [step, cancelPendingAdminHandler, bind_eq_ok, AdminAccounts.load_eq_ok, okOr_eq_ok,
      pure_eq_ok] at accepted
    obtain ⟨t, ⟨found, -, signed⟩, _, -, rfl⟩ := accepted
    exact ⟨accounts.treasury, t, _, rfl, found, .cancelPendingAdmin signed, rfl⟩
  | setOperator accounts newOperator =>
    simp only [step, setOperatorHandler, bind_eq_ok, AdminAccounts.load_eq_ok, require_eq_ok,
      pure_eq_ok, exists_const] at accepted
    obtain ⟨t, ⟨found, -, signed⟩, -, -, rfl⟩ := accepted
    exact ⟨accounts.treasury, t, _, rfl, found, .setOperator signed, rfl⟩
  | updateMintCap accounts newCap =>
    simp only [step, updateMintCapHandler, bind_eq_ok, AdminAccounts.load_eq_ok, require_eq_ok,
      pure_eq_ok, exists_const] at accepted
    obtain ⟨t, ⟨found, -, signed⟩, -, rfl⟩ := accepted
    exact ⟨accounts.treasury, t, _, rfl, found, .updateMintCap signed, rfl⟩
  | pause accounts =>
    simp only [step, pauseHandler, bind_eq_ok, AdminAccounts.load_eq_ok, require_eq_ok,
      pure_eq_ok, exists_const] at accepted
    obtain ⟨t, ⟨found, -, signed⟩, -, rfl⟩ := accepted
    exact ⟨accounts.treasury, t, _, rfl, found, .pause signed, rfl⟩
  | unpause accounts =>
    simp only [step, unpauseHandler, bind_eq_ok, AdminAccounts.load_eq_ok, require_eq_ok,
      pure_eq_ok, exists_const] at accepted
    obtain ⟨t, ⟨found, -, signed⟩, -, rfl⟩ := accepted
    exact ⟨accounts.treasury, t, _, rfl, found, .unpause signed, rfl⟩
  | _ => exact governs.elim

/-- Every other instruction leaves the offices of a treasury alone. -/
theorem Effect.office_kept {s s' : State Key} {now : Int} {instruction : Instruction Key}
    (effect : Effect s now instruction s') (governs : ¬ instruction.Governs)
    {treasury : Address Key} {t : Treasury Key} (found : s.treasuries treasury = some t) :
    ∃ t', s'.treasuries treasury = some t' ∧ t.SameOffice t' := by
  have updated : ∀ {address : Address Key} {o o' : Treasury Key}, s.treasuries address = some o →
      o.SameOffice o' →
      ∃ t', (s.setTreasury address o').treasuries treasury = some t' ∧ t.SameOffice t' := by
    intro address o o' present office
    exact State.setTreasury_related .refl found present office
  cases effect with
  | @initializeMint accounts _ _ loaded =>
    -- the new treasury is at an address that was free
    have other : treasury ≠ accounts.treasury := by
      rintro rfl
      rw [loaded.fresh] at found
      cases found
    exact ⟨t, by simp [other, found], .refl t⟩
  | mintTokens loaded => exact updated loaded.found ⟨rfl, rfl, rfl, rfl, rfl⟩
  | requestRedemption loaded => exact updated loaded.found ⟨rfl, rfl, rfl, rfl, rfl⟩
  | approveRedemption loaded => exact updated loaded.found ⟨rfl, rfl, rfl, rfl, rfl⟩
  | govern governing => exact absurd governing governs
  | _ => exact ⟨t, found, .refl t⟩

omit [DecidableEq Key] in
theorem Instruction.governed_isSome {instruction : Instruction Key} {treasury : Address Key}
    (about : instruction.governed = some treasury) : instruction.Governs := by
  cases instruction <;> trivial

/-- What an accepted call does to the offices of a treasury: nothing, unless it governs it. -/
theorem step_office (documented : Documented process) {s s' : State Key} {call : Call Key}
    (accepted : step process s call = .ok s') {treasury : Address Key} {t : Treasury Key}
    (found : s.treasuries treasury = some t) :
    ∃ t', s'.treasuries treasury = some t' ∧
      (call.instruction.governed ≠ some treasury ∧ t.SameOffice t' ∨
        call.instruction.governed = some treasury ∧ t.Governed call.instruction t') := by
  by_cases governs : call.instruction.Governs
  -- it writes one treasury, this one or another
  · obtain ⟨governed, o, o', about, present, change, stored⟩ := step_governed accepted governs
    rw [stored, about]
    by_cases same : treasury = governed
    · subst same
      rw [found] at present
      cases present
      exact ⟨o', by simp, Or.inr ⟨rfl, change⟩⟩
    · exact ⟨t, by simp [same, found], Or.inl ⟨by simpa using Ne.symm same, .refl t⟩⟩
  · obtain ⟨t', kept, office⟩ := (step_effect documented accepted).office_kept governs found
    exact ⟨t', kept, Or.inl ⟨fun about => governs (Instruction.governed_isSome about), office⟩⟩

/-! ## Handover -/

/-- The accepted calls of a run from the empty state. -/
def acceptedCalls (process : TokenProgram Key) (calls : List (Call Key)) : List (Call Key) :=
  history (step process) (fun log _ call => log ++ [call]) [] .empty calls

omit [DecidableEq Key] in
/-- The last instruction in the log about the pending admin of the treasury is a proposal
of the candidate, signed by the admin. -/
def ProposedBy (log : List (Call Key)) (treasury : Address Key) (admin : Key)
    (candidate : Address Key) : Prop :=
  ∃ before now between,
    log = before ++ ⟨now, .proposeAdmin { admin, treasury } candidate⟩ :: between ∧
      ∀ call ∈ between, ¬ call.instruction.HandsOver treasury

/-- A pending admin was proposed by the admin in office. -/
def PendingProposed (s : State Key) (log : List (Call Key)) : Prop :=
  ∀ treasury t candidate, s.treasuries treasury = some t → t.pendingAdmin = some candidate →
    ∃ admin, t.admin = .key admin ∧ ProposedBy log treasury admin candidate

omit [DecidableEq Key] in
theorem ProposedBy.later {log : List (Call Key)} {treasury candidate : Address Key} {admin : Key}
    (proposed : ProposedBy log treasury admin candidate) {call : Call Key}
    (unrelated : ¬ call.instruction.HandsOver treasury) :
    ProposedBy (log ++ [call]) treasury admin candidate := by
  obtain ⟨before, now, between, rfl, quiet⟩ := proposed
  refine ⟨before, now, between ++ [call], by simp, ?_⟩
  intro other member
  rcases List.mem_append.mp member with member | member
  · exact quiet other member
  · rw [List.mem_singleton.mp member]
    exact unrelated

omit [DecidableEq Key] in
theorem Instruction.HandsOver.governed {instruction : Instruction Key} {treasury : Address Key}
    (handsOver : instruction.HandsOver treasury) : instruction.governed = some treasury := by
  cases instruction <;> first | exact handsOver.elim | exact congrArg some handsOver

theorem pendingProposed_step (documented : Documented process) {s s' : State Key}
    {log : List (Call Key)} {call : Call Key} (proposed : PendingProposed s log)
    (accepted : step process s call = .ok s') : PendingProposed s' (log ++ [call]) := by
  intro treasury t' candidate found pending
  cases present : s.treasuries treasury with
  | none =>
    obtain ⟨accounts, decimals, -, rfl⟩ :=
      (step_effect documented accepted).treasury_created present found
    cases pending
  | some t =>
    obtain ⟨_, kept, change⟩ := step_office documented accepted present
    rw [found] at kept
    cases kept
    -- a step that is not about the pending admin keeps it together with the admin
    have unrelated : t'.admin = t.admin → t'.pendingAdmin = t.pendingAdmin →
        ¬ call.instruction.HandsOver treasury →
        ∃ admin, t'.admin = .key admin ∧ ProposedBy (log ++ [call]) treasury admin candidate := by
      intro sameAdmin samePending quiet
      rw [samePending] at pending
      obtain ⟨admin, office, before⟩ := proposed treasury t candidate present pending
      exact ⟨admin, sameAdmin.trans office, before.later quiet⟩
    rcases change with ⟨elsewhere, office⟩ | ⟨about, change⟩
    · exact unrelated office.admin office.pendingAdmin
        fun handsOver => elsewhere handsOver.governed
    · obtain ⟨now, instruction⟩ := call
      cases change with
      | @proposeAdmin accounts newAdmin signed =>
        -- the proposal is the last call of the log
        cases pending
        cases about
        exact ⟨accounts.admin, signed, log, now, [], rfl, by simp⟩
      -- nobody is pending afterwards
      | acceptAdmin => cases pending
      | cancelPendingAdmin => cases pending
      | setOperator => exact unrelated rfl rfl id
      | updateMintCap => exact unrelated rfl rfl id
      | pause => exact unrelated rfl rfl id
      | unpause => exact unrelated rfl rfl id

theorem pendingProposed_run (documented : Documented process) (calls : List (Call Key)) :
    PendingProposed (run process .empty calls) (acceptedCalls process calls) := by
  apply history_invariant
  case preserved =>
    intro s log call s' proposed accepted
    exact pendingProposed_step documented proposed accepted
  case holds =>
    intro treasury t candidate found
    cases found

/-! ## Pause -/

/-- Nothing is written in the ledger of a paused treasury but what holders burn alone. -/
theorem Effect.paused_entries {s s' : State Key} {now : Int} {instruction : Instruction Key}
    (effect : Effect s now instruction s') {treasury : Address Key} {t : Treasury Key}
    (found : s.treasuries treasury = some t) (paused : t.paused = true) :
    mintedBy treasury (entries s ⟨now, instruction⟩) = 0 ∧
      approvedBy treasury (entries s ⟨now, instruction⟩) = 0 ∧
      noncesOf treasury (entries s ⟨now, instruction⟩) = [] := by
  -- an instruction that asks for an unpaused treasury is about another one
  have elsewhere : ∀ {address : Address Key} {o : Treasury Key}, s.treasuries address = some o →
      o.paused = false → address ≠ treasury := by
    rintro address o present unpaused rfl
    rw [found] at present
    cases present
    rw [paused] at unpaused
    cases unpaused
  cases effect with
  | mintTokens loaded unpaused =>
    have other := elsewhere loaded.found unpaused
    simp [entries, mintedBy, approvedBy, noncesOf, Entry.mintedBy, Entry.approvedBy,
      Entry.nonceOf, other]
  | requestRedemption loaded unpaused =>
    have other := elsewhere loaded.found unpaused
    simp [entries, loaded.found, mintedBy, approvedBy, noncesOf, Entry.mintedBy,
      Entry.approvedBy, Entry.nonceOf, other]
  | approveRedemption loaded operator unpaused =>
    have other := elsewhere loaded.found unpaused
    rw [← loaded.requestTreasury] at other
    simp [entries, loaded.request, mintedBy, approvedBy, noncesOf, Entry.mintedBy,
      Entry.approvedBy, Entry.nonceOf, other]
  | cancelRedemption loaded =>
    simp [entries, loaded.request, mintedBy, approvedBy, noncesOf, Entry.mintedBy,
      Entry.approvedBy, Entry.nonceOf]
  | govern governs =>
    rw [governs.entries]
    exact ⟨rfl, rfl, rfl⟩
  | @token signer op => cases op <;> exact ⟨rfl, rfl, rfl⟩
  | _ => exact ⟨rfl, rfl, rfl⟩

omit [DecidableEq Key] in
/-- The calls that reach the token program without the stablecoin program. -/
def Instruction.Direct : Instruction Key → Prop
  | .token .. => True
  | _ => False

theorem burnedOf_entries {s : State Key} {call : Call Key} (through : ¬ call.instruction.Direct)
    (mint : Address Key) : burnedOf mint (entries s call) = 0 := by
  apply burnedOf_eq_zero
  intro amount member
  obtain ⟨now, instruction⟩ := call
  cases instruction with
  | requestRedemption accounts =>
    cases found : s.treasuries accounts.treasury <;> simp [entries, found] at member
  | token => exact through trivial
  | _ => simp [entries] at member

/-- The books of a paused treasury, and through the program the supply of its mint, stand. -/
theorem step_paused (documented : Documented process) {s s' : State Key} {call : Call Key}
    (wellFormed : WellFormed s) (accepted : step process s call = .ok s')
    {treasury : Address Key} {t t' : Treasury Key} (found : s.treasuries treasury = some t)
    (kept : s'.treasuries treasury = some t') (paused : t.paused = true) :
    t'.totalMinted = t.totalMinted ∧ t'.totalBurned = t.totalBurned ∧
      t'.redemptionNonce = t.redemptionNonce ∧
      (¬ call.instruction.Direct → s'.bank.supply t.mint = s.bank.supply t.mint) := by
  have effect := step_effect documented accepted
  have counted := effect.counted
  -- what a paused treasury refuses is what the ledger has no entries of
  obtain ⟨noMint, noBurn, noNonce⟩ := effect.paused_entries found paused
  have minted := counted.minted treasury
  have burned := counted.burned treasury
  have nonces := counted.nonces treasury
  rw [State.counter_found _ kept, State.counter_found _ found] at minted burned nonces
  rw [noMint] at minted
  rw [noBurn] at burned
  rw [noNonce, List.append_nil] at nonces
  have nonce := congrArg List.length nonces
  rw [List.length_range, List.length_range] at nonce
  refine ⟨minted, burned, nonce, ?_⟩
  intro through
  have supply := effect.supply wellFormed found
  rw [noMint, noBurn, burnedOf_entries through] at supply
  exact supply

/-! ## The government of a run -/

/-- Who changed what of a treasury's offices, and under which signature. -/
structure Treasury.Answered (t t' : Treasury Key) (treasury : Address Key)
    (instruction : Instruction Key) : Prop where
  admin : t'.admin ≠ t.admin → ∃ newAdmin, instruction = .acceptAdmin { newAdmin, treasury } ∧
    t.pendingAdmin = some (.key newAdmin) ∧ t'.admin = .key newAdmin
  operator : t'.operator ≠ t.operator → ∃ admin newOperator,
    instruction = .setOperator { admin, treasury } newOperator ∧ t.admin = .key admin ∧
      t'.operator = newOperator
  mintCap : t'.mintCap ≠ t.mintCap → ∃ admin newCap,
    instruction = .updateMintCap { admin, treasury } newCap ∧ t.admin = .key admin ∧
      t'.mintCap = newCap
  paused : t'.paused ≠ t.paused → ∃ admin, t.admin = .key admin ∧
    (instruction = .pause { admin, treasury } ∧ t'.paused = true ∨
      instruction = .unpause { admin, treasury } ∧ t'.paused = false)

omit [DecidableEq Key] in
theorem Treasury.SameOffice.answered {t t' : Treasury Key} (office : t.SameOffice t')
    (treasury : Address Key) (instruction : Instruction Key) :
    t.Answered t' treasury instruction where
  admin changed := absurd office.admin changed
  operator changed := absurd office.operator changed
  mintCap changed := absurd office.mintCap changed
  paused changed := absurd office.paused changed

omit [DecidableEq Key] in
theorem Treasury.Governed.answered {t t' : Treasury Key} {instruction : Instruction Key}
    (change : t.Governed instruction t') {treasury : Address Key}
    (about : instruction.governed = some treasury) : t.Answered t' treasury instruction := by
  cases change with
  | proposeAdmin => exact ⟨absurd rfl, absurd rfl, absurd rfl, absurd rfl⟩
  | cancelPendingAdmin => exact ⟨absurd rfl, absurd rfl, absurd rfl, absurd rfl⟩
  | @acceptAdmin accounts pending =>
    cases about
    exact ⟨fun _ => ⟨accounts.newAdmin, rfl, pending, rfl⟩, absurd rfl, absurd rfl, absurd rfl⟩
  | @setOperator accounts newOperator signed =>
    cases about
    exact ⟨absurd rfl, fun _ => ⟨accounts.admin, newOperator, rfl, signed, rfl⟩, absurd rfl,
      absurd rfl⟩
  | @updateMintCap accounts newCap signed =>
    cases about
    exact ⟨absurd rfl, absurd rfl, fun _ => ⟨accounts.admin, newCap, rfl, signed, rfl⟩,
      absurd rfl⟩
  | @pause accounts signed =>
    cases about
    exact ⟨absurd rfl, absurd rfl, absurd rfl,
      fun _ => ⟨accounts.admin, signed, Or.inl ⟨rfl, rfl⟩⟩⟩
  | @unpause accounts signed =>
    cases about
    exact ⟨absurd rfl, absurd rfl, absurd rfl,
      fun _ => ⟨accounts.admin, signed, Or.inr ⟨rfl, rfl⟩⟩⟩

/-- What a run and any call after it promise about the offices. -/
structure WellGoverned (process : TokenProgram Key) (calls : List (Call Key)) : Prop where
  handover : ∀ now newAdmin treasury s', step process (run process .empty calls)
      ⟨now, .acceptAdmin { newAdmin, treasury }⟩ = .ok s' →
    ∃ t admin, (run process .empty calls).treasuries treasury = some t ∧ t.admin = .key admin ∧
      ProposedBy (acceptedCalls process calls) treasury admin (.key newAdmin)
  answered : ∀ call s' treasury t, step process (run process .empty calls) call = .ok s' →
    (run process .empty calls).treasuries treasury = some t →
    ∃ t', s'.treasuries treasury = some t' ∧ t.Answered t' treasury call.instruction
  paused : ∀ call s' treasury t t', step process (run process .empty calls) call = .ok s' →
    (run process .empty calls).treasuries treasury = some t →
    s'.treasuries treasury = some t' → t.paused = true →
    t'.totalMinted = t.totalMinted ∧ t'.totalBurned = t.totalBurned ∧
      t'.redemptionNonce = t.redemptionNonce ∧ (¬ call.instruction.Direct →
        s'.bank.supply t.mint = (run process .empty calls).bank.supply t.mint)

/-- In every run the admin of a treasury hands over in two steps, every office changes by its
own instruction under the right signature, and a pause stops the books. -/
theorem run_wellGoverned (documented : Documented process) (calls : List (Call Key)) :
    WellGoverned process calls := by
  constructor
  case handover =>
    intro now newAdmin treasury s' accepted
    simp only [step, acceptAdminHandler, bind_eq_ok, AcceptAdmin.load_eq_ok] at accepted
    obtain ⟨t, ⟨found, -, pending⟩, -⟩ := accepted
    obtain ⟨admin, office, proposed⟩ :=
      pendingProposed_run documented calls treasury t _ found pending
    exact ⟨t, admin, found, office, proposed⟩
  case answered =>
    intro call s' treasury t accepted found
    obtain ⟨t', kept, ⟨-, office⟩ | ⟨about, change⟩⟩ := step_office documented accepted found
    · exact ⟨t', kept, office.answered treasury call.instruction⟩
    · exact ⟨t', kept, change.answered about⟩
  case paused =>
    intro call s' treasury t t' accepted found kept paused
    exact step_paused documented (wellFormed_run documented calls) accepted found kept paused

open Scenario in
theorem run_wellGoverned_accepted :
    (∃ s', step reference
        (run reference .empty (funded ++ [⟨0, .proposeAdmin ⟨0, treasury⟩ (.key 5)⟩]))
        ⟨0, .acceptAdmin ⟨5, treasury⟩⟩ = .ok s') ∧
      WellGoverned reference (funded ++ [⟨0, .proposeAdmin ⟨0, treasury⟩ (.key 5)⟩]) :=
  ⟨⟨_, rfl⟩, run_wellGoverned reference_documented _⟩

end ZkSettle.Stablecoin
