import ZkSettle.Service.Attempts

/-!
# Recovery

The flag of the issuer service is a guess about the issuer account. An attempt recovers
when the guess is right, and the service keeps it right as long as it learns of every
registration.
-/
namespace ZkSettle.Service

open Crypto Program Checks Transactional

variable {Proof Address World : Type} {env : External Proof Address World} {config : Config}

variable (env config) in
/-- An attempt ends with the roots of the service on the chain and with the flag set. -/
def Recovers (s : System World) : Prop :=
  chainRoots env config (run env config s attempt).chain = some s.issuer.rootsAsBytes ∧
    (run env config s attempt).issuer.registered = true

theorem recovers_iff {s : System World} (sound : Sound env config s) (idle : s.publication = none)
    (dirty : s.issuer.rootsDirty = true) :
    Recovers env config s ↔ (s.issuer.registered = true ↔ Registered env config s.chain) ∧
      s.issuer.rootsAsBytes.merkle ≠ .zero := by
  obtain ⟨records, represents⟩ := sound.represented
  have taken : s.issuer.snapshot =
      some { register := !s.issuer.registered, roots := s.issuer.rootsAsBytes } := by
    rw [IssuerState.snapshot, if_neg (by simp [dirty])]
  rw [← represents.nonzero, ← lands_iff sound.account, Recovers]
  constructor
  · rintro ⟨published, flag⟩
    by_contra rejected
    -- nothing happened: the roots were on the chain before, and the flag was set
    rw [run_attempt_rejected sound.account idle taken rejected] at published flag
    apply rejected
    rw [lands_iff sound.account]
    exact ⟨iff_of_true flag (sound.issuerFlag flag), sound.account.nonzero published⟩
  · intro lands
    rw [run_attempt_lands sound.account idle taken lands]
    exact ⟨chainRoots_setAccount, by simp⟩

/-! ## What the flag knows -/

variable (env config) in
/-- The service learns of every registration: no probe fails while the account exists,
and no registration lands that is reported as failed or is waited for no longer. -/
def Informed (s : System World) : Action World → Prop
  | .restartIssuer _ probeFault => probeFault = true → ¬ Registered env config s.chain
  | .finishPublish fault => fault = true → ∀ tx slot,
      s.publication = some ⟨tx, .landed slot⟩ → tx.register = false
  | .landLate index => ∀ writer tx, s.late[index]? = some (writer, tx) →
      tx.register = true → ¬ tx.Lands env config s.chain
  | _ => True

variable (env config) in
/-- The flag is right, or the registration that it misses is about to be confirmed. -/
def Agrees (s : System World) : Prop :=
  (s.issuer.registered = true ↔ Registered env config s.chain) ∨
    ∃ tx slot, s.publication = some ⟨tx, .landed slot⟩ ∧ tx.register = true

/-- A transaction that is no registration leaves an account as registered as it was. -/
theorem registered_executed {chain chain' : State World} {clock : Clock} {tx : Transaction}
    (account : SoundAccount env config chain) (update : tx.register = false)
    (executed : tx.execute env config chain clock = .ok chain') :
    Registered env config chain' ↔ Registered env config chain := by
  obtain ⟨⟨fits, -⟩, rfl⟩ := (execute_eq_ok account).mp executed
  rw [update] at fits
  exact iff_of_true registered_setAccount fits

/-- The updater cannot register: it has no merkle root to register with. -/
theorem updater_update {chain chain' : State World} {clock : Clock} {tx : Transaction}
    (account : SoundAccount env config chain)
    (sent : SoundTransaction env config chain .updater tx)
    (executed : tx.execute env config chain clock = .ok chain') : tx.register = false := by
  obtain ⟨⟨-, nonzero⟩, -⟩ := (execute_eq_ok account).mp executed
  cases kind : tx.register with
  | false => rfl
  | true => exact absurd (sent.updater rfl kind) nonzero.1

theorem step_agrees {s s' : System World} {action : Action World} (sound : Sound env config s)
    (agrees : Agrees env config s) (informed : Informed env config s action)
    (accepted : step env config s action = .ok s') : Agrees env config s' := by
  -- the flag is right unless a registration has landed and is not confirmed yet
  have right : (∀ tx slot, s.publication = some ⟨tx, .landed slot⟩ → tx.register = false) →
      (s.issuer.registered = true ↔ Registered env config s.chain) := by
    intro unaware
    rcases agrees with agrees | ⟨tx, slot, under, register⟩
    · exact agrees
    · rw [unaware tx slot under] at register
      cases register
  -- the account may be written as long as its existence does not change
  have kept : ∀ {chain : State World},
      (Registered env config chain ↔ Registered env config s.chain) →
        Agrees env config { s with chain } := fun same =>
    agrees.imp (fun agrees => agrees.trans same.symm) id
  cases step_stepped accepted with
  | request served =>
    obtain ⟨_, _, _, outcome⟩ := sound.served served
    rw [Agrees, outcome.flags.registered]
    exact agrees
  | skipped => exact agrees
  | taken idle => exact Or.inl (right (by simp [idle]))
  | @confirmed tx slot under =>
    -- the service learns that the account is there
    have registered := (sound.flights .issuer _ under).landed slot rfl
    refine Or.inl (iff_of_true ?_ registered)
    rw [IssuerState.confirm_registered]
    cases kind : tx.register with
    | true => rfl
    | false =>
      have unaware : ∀ tx' slot', s.publication = some ⟨tx', .landed slot'⟩ →
          tx'.register = false := by
        intro tx' slot' same
        cases under.symm.trans same
        exact kind
      exact (right unaware).mpr registered
  | @unconfirmed flight fault under answer =>
    refine Or.inl (right ?_)
    rintro tx slot landed
    cases under.symm.trans landed
    -- an error after the landing is allowed for an update only
    cases fault with
    | true => exact informed rfl tx slot landed
    | false => cases answer
  | prepared => exact agrees
  | unprepared => exact agrees
  | ticked => exact agrees
  | unticked => exact agrees
  | @landed writer tx chain under executed =>
    cases writer with
    | issuer =>
      cases kind : tx.register with
      | true => exact Or.inr ⟨tx, s.clock.slot, rfl, kind⟩
      | false =>
        have flag := right fun tx' slot landed => by cases under.symm.trans landed
        exact Or.inl (flag.trans (registered_executed sound.account kind executed).symm)
    -- the updater has nothing to register with
    | updater =>
      have update := updater_update sound.account (sound.flights .updater _ under).transaction
        executed
      exact kept (registered_executed sound.account update executed)
  | @rejected writer tx e under =>
    cases writer with
    | issuer => exact Or.inl (right fun tx' slot landed => by cases under.symm.trans landed)
    | updater => exact agrees
  | @landedLate index writer tx chain waiting executed =>
    have update : tx.register = false := by
      cases kind : tx.register with
      | false => rfl
      | true =>
        exact absurd ((execute_eq_ok sound.account).mp executed).1
          (informed writer tx waiting kind)
    exact kept (registered_executed sound.account update executed)
  | rejectedLate => exact agrees
  | @restartIssuer loadFault probeFault =>
    -- a probe that does not fail finds the account
    left
    change probe env config probeFault s.chain = true ↔ Registered env config s.chain
    rw [probe_eq_true sound.account, and_iff_right_iff_imp]
    intro registered
    cases probeFault with
    | false => rfl
    | true => exact absurd registered (informed rfl)
  | restartUpdater => exact agrees
  | advance => exact agrees
  | elsewhere same =>
    apply kept
    rw [Registered, Registered, same]

structure Aware (env : External Proof Address World) (config : Config) (s : System World) :
    Prop where
  sound : Sound env config s
  agrees : Agrees env config s

theorem run_aware {s : System World} (aware : Aware env config s) (actions : List (Action World))
    (informed : Meets (step env config) (Informed env config) s actions) :
    Aware env config (run env config s actions) := by
  apply run_invariant_of_meets _ s actions informed aware
  intro state action next aware informed accepted
  exact ⟨step_sound aware.sound accepted, step_agrees aware.sound aware.agrees informed accepted⟩

/-- In every reachable state an attempt with dirty roots recovers exactly when the flag is
right about the account and the merkle root is not zero. The flag is right after every run
in which the service learns of every registration. -/
theorem run_recovers (issuerFault updaterFault : Bool) (clock : Clock) {chain : State World}
    (account : SoundAccount env config chain) (actions : List (Action World)) {s : System World}
    (reached : s =
      run env config (System.start env config issuerFault updaterFault clock chain) actions)
    (idle : s.publication = none) (dirty : s.issuer.rootsDirty = true) :
    (Recovers env config s ↔ (s.issuer.registered = true ↔ Registered env config s.chain) ∧
        s.issuer.rootsAsBytes.merkle ≠ .zero) ∧
      ((issuerFault = true → ¬ Registered env config chain) →
        Meets (step env config) (Informed env config)
          (System.start env config issuerFault updaterFault clock chain) actions →
        s.issuer.rootsAsBytes.merkle ≠ .zero → Recovers env config s) := by
  have started := sound_start account issuerFault updaterFault clock
  have sound : Sound env config s := reached ▸ run_sound started actions
  refine ⟨recovers_iff sound idle dirty, ?_⟩
  intro probed informed nonzero
  have first : Agrees env config
      (System.start env config issuerFault updaterFault clock chain) := by
    left
    simp only [System.start, startIssuer_fresh]
    rw [probe_eq_true account, and_iff_right_iff_imp]
    intro registered
    -- a probe that failed has said that there is no account
    cases issuerFault with
    | false => rfl
    | true => exact absurd registered (probed rfl)
  have aware : Aware env config s := reached ▸ run_aware ⟨started, first⟩ actions informed
  rw [recovers_iff sound idle dirty]
  refine ⟨?_, nonzero⟩
  rcases aware.agrees with agrees | ⟨tx, slot, under, -⟩
  · exact agrees
  · rw [idle] at under
    cases under

theorem run_recovers_issued : Recovers reference (Sample.service none)
    (run reference (Sample.service none)
      (System.start reference (Sample.service none) false false (Sample.clock 0)
        (State.deployed [])) [.request false Sample.issue]) := by
  have issued := (Sample.stepped_issue none false false (State.deployed []) rfl).run []
  have outcome := run_recovers false false (Sample.clock 0) (Sample.soundAccount_deployed none)
    [.request false Sample.issue] issued.symm rfl rfl
  rw [issued]
  exact outcome.2 nofun ⟨fun _ _ => trivial, trivial⟩ (Sample.issued_nonzero _).1

/-- The account exists, and the probe fails: the service sends registrations for ever. -/
theorem not_run_recovers : ¬ ∀ (Proof Address World : Type) (env : External Proof Address World)
    (config : Config) (issuerFault updaterFault : Bool) (clock : Clock) (chain : State World)
    (actions : List (Action World)) (s : System World), SoundAccount env config chain →
      s = run env config (System.start env config issuerFault updaterFault clock chain) actions →
      s.publication = none → s.issuer.rootsDirty = true →
      s.issuer.rootsAsBytes.merkle ≠ .zero → Recovers env config s := by
  intro always
  have account := Sample.soundAccount_registered none
  have started := sound_start account true false (Sample.clock 0)
  have issued := (Sample.stepped_issue none true false (Sample.registered none) rfl).run []
  have sound := run_sound started [.request false Sample.issue]
  have recovers := always _ _ _ reference (Sample.service none) true false (Sample.clock 0)
    (Sample.registered none) [.request false Sample.issue] _ account rfl
  rw [issued] at recovers sound
  have recovered := recovers rfl rfl (Sample.issued_nonzero false).1
  rw [recovers_iff sound rfl rfl] at recovered
  have flag : (false = true) := recovered.1.mpr registered_setAccount
  cases flag

/-! ## Restarts -/

variable (env config) in
/-- After a stop and a start that reads the file, the next publication sends the roots from
before the stop. -/
def Resumes (s : System World) (probeFault : Bool) : Prop :=
  ∃ flight, (run env config s [.restartIssuer false probeFault, .beginPublish]).publication =
    some flight ∧ flight.tx.roots = s.issuer.rootsAsBytes

theorem resumes_iff {s : System World} (recorded : Recorded s) {path : String}
    (configured : config.statePath = some path) {persisted : PersistedState}
    (disk : s.disk = some persisted)
    (saved : persisted.credentials = s.issuer.persisted.credentials) (probeFault : Bool) :
    Resumes env config s probeFault ↔
      probeFault = true ∨ s.chain.accounts (issuerPda env config) = none := by
  obtain ⟨records, represents⟩ := recorded.represented
  obtain ⟨loaded, clean, flag⟩ := startIssuer_loaded env configured
    (recorded.stored persisted disk) probeFault s.chain
  rw [saved, represents.persisted, ← disk] at loaded
  rw [← disk] at clean flag
  have roots := represents.rootsAsBytes loaded
  have restarted : Stepped env config s (.restartIssuer false probeFault) _ := .restartIssuer
  -- the file does not say that the roots are unpublished
  have quiet : (startIssuer env config false probeFault s.disk s.chain).snapshot = none ↔
      ¬ (probeFault = true ∨ s.chain.accounts (issuerPda env config) = none) := by
    rw [snapshot_eq_none, flag, probe_eq_true_iff]
    simp [clean]
  rw [Resumes, restarted.run]
  cases taken : (startIssuer env config false probeFault s.disk s.chain).snapshot with
  | none =>
    rw [(Stepped.skipped rfl taken).run, run, run_nil]
    refine iff_of_false ?_ (quiet.mp taken)
    rintro ⟨flight, under, -⟩
    cases under
  | some tx =>
    rw [(Stepped.taken rfl taken).run, run, run_nil]
    refine iff_of_true ?_ (by_contra fun skips => ?_)
    · cases snapshot_eq_some taken
      exact ⟨_, rfl, roots⟩
    · rw [quiet.mpr skips] at taken
      cases taken

/-- In every reachable state whose records are in the file, a restart keeps the publication
pending exactly when the probe fails or there is no account to find. -/
theorem run_resumes (issuerFault updaterFault : Bool) (clock : Clock) (chain : State World)
    {path : String}
    (configured : config.statePath = some path) (actions : List (Action World)) {s : System World}
    (reached : s =
      run env config (System.start env config issuerFault updaterFault clock chain) actions)
    {persisted : PersistedState} (disk : s.disk = some persisted)
    (saved : persisted.credentials = s.issuer.persisted.credentials) (probeFault : Bool) :
    Resumes env config s probeFault ↔
      probeFault = true ∨ s.chain.accounts (issuerPda env config) = none := by
  have started : Recorded (System.start env config issuerFault updaterFault clock chain) :=
    recorded_start issuerFault updaterFault clock chain
  have recorded : Recorded s := reached ▸ run_recorded started actions
  exact resumes_iff recorded configured disk saved probeFault

/-- Before the account exists a restart loses nothing. -/
theorem run_resumes_deployed : Resumes reference (Sample.service (some "state.json"))
    (run reference (Sample.service (some "state.json"))
      (System.start reference (Sample.service (some "state.json")) false false (Sample.clock 0)
        (State.deployed [])) [.request false Sample.issue]) false := by
  have issued :=
    (Sample.stepped_issue (some "state.json") false false (State.deployed []) rfl).run []
  rw [issued]
  exact (run_resumes false false (Sample.clock 0) (State.deployed []) rfl
    [.request false Sample.issue] issued.symm rfl rfl false).mpr (Or.inr rfl)

/-- The account exists: what was issued and saved is not published after a restart. -/
theorem not_run_resumes : ¬ ∀ (Proof Address World : Type) (env : External Proof Address World)
    (config : Config) (issuerFault updaterFault : Bool) (clock : Clock) (chain : State World)
    (path : String) (actions : List (Action World)) (s : System World)
    (persisted : PersistedState) (probeFault : Bool), SoundAccount env config chain →
      config.statePath = some path →
      s = run env config (System.start env config issuerFault updaterFault clock chain) actions →
      s.disk = some persisted → persisted.credentials = s.issuer.persisted.credentials →
      chainRoots env config s.chain ≠ some s.issuer.rootsAsBytes →
      Resumes env config s probeFault := by
  intro always
  have issued := (Sample.stepped_issue (some "state.json") false false
    (Sample.registered (some "state.json")) rfl).run []
  have account := Sample.soundAccount_registered (some "state.json")
  have sound := run_sound (sound_start account false false (Sample.clock 0))
    [.request false Sample.issue]
  rw [issued] at sound
  have resumes := always _ _ _ reference (Sample.service (some "state.json")) false false
    (Sample.clock 0) _ "state.json" [.request false Sample.issue] _ _ false account rfl
    issued.symm rfl rfl (Sample.issued_unpublished _ _)
  rw [resumes_iff sound.toRecorded rfl rfl rfl] at resumes
  rcases resumes with fault | free
  · cases fault
  · exact account.registered.mp registered_setAccount free

end ZkSettle.Service
