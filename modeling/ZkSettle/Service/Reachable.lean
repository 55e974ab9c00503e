import ZkSettle.Service.System

/-!
# Reachable states

What a step does is said once, case by case. From it follows what holds in every state
of every run: the records behind the state and the file, the issuer account, and what
the flags and the transactions under way know of that account.
-/
namespace ZkSettle.Service

open Crypto Program Checks

variable {Proof Address World : Type} (env : External Proof Address World) (config : Config)

/-- The cases of a step. -/
inductive Stepped (s : System World) : Action World → System World → Prop where
  | request {saveFault request reply issuer disk}
      (served : request.serve config.statePath saveFault s.issuer s.disk = (reply, issuer, disk)) :
      Stepped s (.request saveFault request) { s with issuer, disk }
  | skipped (idle : s.publication = none) (nothing : s.issuer.snapshot = none) :
      Stepped s .beginPublish s
  | taken {tx} (idle : s.publication = none) (taken : s.issuer.snapshot = some tx) :
      Stepped s .beginPublish { s with publication := some ⟨tx, .sent⟩ }
  | confirmed {tx slot} (under : s.publication = some ⟨tx, .landed slot⟩) :
      Stepped s (.finishPublish false)
        { s with issuer := s.issuer.confirm slot tx.register, publication := none }
  | unconfirmed {flight fault} (under : s.publication = some flight)
      (answer : flight.answer fault = .ok none) :
      Stepped s (.finishPublish fault)
        { s with
          publication := none
          late := s.late ++ Flight.abandon .issuer (some flight) }
  | prepared {fetched rpcFault tx} (idle : s.tick = none)
      (begun : Updater.beginTick env config s.updaterRegistered rpcFault fetched s.chain = .ok tx) :
      Stepped s (.beginTick fetched rpcFault) { s with tick := some ⟨tx, .sent⟩ }
  | unprepared {fetched rpcFault e} (idle : s.tick = none)
      (failed : Updater.beginTick env config s.updaterRegistered rpcFault fetched s.chain =
        .error e) : Stepped s (.beginTick fetched rpcFault) s
  | ticked {tx slot} (under : s.tick = some ⟨tx, .landed slot⟩) :
      Stepped s (.finishTick false)
        { s with updaterRegistered := tx.register || s.updaterRegistered, tick := none }
  | unticked {flight fault} (under : s.tick = some flight)
      (answer : flight.answer fault = .ok none) :
      Stepped s (.finishTick fault)
        { s with tick := none, late := s.late ++ Flight.abandon .updater (some flight) }
  | landed {writer tx chain} (under : s.flight writer = some ⟨tx, .sent⟩)
      (executed : tx.execute env config s.chain s.clock = .ok chain) :
      Stepped s (.land writer)
        ({ s with chain }.setFlight (some ⟨tx, .landed s.clock.slot⟩) writer)
  | rejected {writer tx e} (under : s.flight writer = some ⟨tx, .sent⟩)
      (executed : tx.execute env config s.chain s.clock = .error e) :
      Stepped s (.land writer) (s.setFlight (some ⟨tx, .rejected e⟩) writer)
  | landedLate {index writer tx chain} (waiting : s.late[index]? = some (writer, tx))
      (executed : tx.execute env config s.chain s.clock = .ok chain) :
      Stepped s (.landLate index) { s with chain, late := s.late.eraseIdx index }
  | rejectedLate {index writer tx e} (waiting : s.late[index]? = some (writer, tx))
      (executed : tx.execute env config s.chain s.clock = .error e) :
      Stepped s (.landLate index) { s with late := s.late.eraseIdx index }
  | restartIssuer {loadFault probeFault} :
      Stepped s (.restartIssuer loadFault probeFault)
        { s with
          issuer := startIssuer env config loadFault probeFault s.disk s.chain
          publication := none
          late := s.late ++ Flight.abandon .issuer s.publication }
  | restartUpdater {probeFault} :
      Stepped s (.restartUpdater probeFault)
        { s with
          updaterRegistered := probe env config probeFault s.chain
          tick := none
          late := s.late ++ Flight.abandon .updater s.tick }
  | advance {clock} (later : s.clock.slot ≤ clock.slot) :
      Stepped s (.advance clock) { s with clock }
  | elsewhere {chain}
      (same : chain.accounts (issuerPda env config) = s.chain.accounts (issuerPda env config)) :
      Stepped s (.elsewhere chain) { s with chain }

variable {env config}

theorem Flight.answer_eq_ok {flight : Flight} {fault : Bool} {answer : Option UInt64}
    (answered : flight.answer fault = .ok answer) :
    answer = none ∨ fault = false ∧ ∃ slot, flight.phase = .landed slot ∧ answer = some slot := by
  obtain ⟨tx, phase⟩ := flight
  cases fault with
  | true =>
    cases phase <;> cases answered <;> exact Or.inl rfl
  | false =>
    cases phase with
    | sent => cases answered
    | landed slot =>
      cases answered
      exact Or.inr ⟨rfl, slot, rfl, rfl⟩
    | rejected e =>
      cases answered
      exact Or.inl rfl

theorem Flight.land_eq_some {flight next : Flight} {chain chain' : State World} {clock : Clock}
    (landed : flight.land env config chain clock = some (next, chain')) :
    flight = ⟨flight.tx, .sent⟩ ∧
      (flight.tx.execute env config chain clock = .ok chain' ∧
          next = ⟨flight.tx, .landed clock.slot⟩ ∨
        chain' = chain ∧ ∃ e, flight.tx.execute env config chain clock = .error e ∧
          next = ⟨flight.tx, .rejected e⟩) := by
  obtain ⟨tx, phase⟩ := flight
  cases phase with
  | sent =>
    refine ⟨rfl, ?_⟩
    -- only a sent transaction lands, and its phase says how that turned out
    rw [Flight.land] at landed
    cases outcome : tx.execute env config chain clock with
    | ok moved =>
      simp only [outcome, Option.some.injEq, Prod.mk.injEq] at landed
      obtain ⟨rfl, rfl⟩ := landed
      exact Or.inl ⟨rfl, rfl⟩
    | error e =>
      simp only [outcome, Option.some.injEq, Prod.mk.injEq] at landed
      obtain ⟨rfl, rfl⟩ := landed
      exact Or.inr ⟨rfl, e, rfl, rfl⟩
  | landed slot => cases landed
  | rejected e => cases landed

theorem step_stepped {s s' : System World} {action : Action World}
    (accepted : step env config s action = .ok s') : Stepped env config s action s' := by
  cases action with
  | request saveFault request =>
    cases accepted
    exact .request rfl
  | beginPublish =>
    rw [step] at accepted
    cases idle : s.publication with
    | some flight => rw [idle] at accepted; cases accepted
    | none =>
      rw [idle] at accepted
      cases accepted
      cases taken : s.issuer.snapshot with
      | none =>
        have same : s = { s with publication := none } := by rw [← idle]
        exact same ▸ .skipped idle taken
      | some tx => exact .taken idle taken
  | finishPublish fault =>
    simp only [step, bind_eq_ok, okOr_eq_ok, pure_eq_ok] at accepted
    obtain ⟨flight, under, answer, answered, rfl⟩ := accepted
    -- a slot comes from a transaction that has landed; without one the sender knows nothing
    rcases Flight.answer_eq_ok answered with rfl | ⟨rfl, slot, landed, rfl⟩
    · rw [under]
      exact .unconfirmed under answered
    · obtain ⟨tx, phase⟩ := flight
      cases landed
      simp only [under, Flight.abandon, List.append_nil]
      exact .confirmed under
  | beginTick fetched rpcFault =>
    rw [step] at accepted
    cases idle : s.tick with
    | some flight => rw [idle] at accepted; cases accepted
    | none =>
      rw [idle] at accepted
      cases begun : Updater.beginTick env config s.updaterRegistered rpcFault fetched s.chain with
      | error e =>
        rw [begun] at accepted
        cases accepted
        exact .unprepared idle begun
      | ok tx =>
        rw [begun] at accepted
        cases accepted
        exact .prepared idle begun
  | finishTick fault =>
    simp only [step, bind_eq_ok, okOr_eq_ok, pure_eq_ok] at accepted
    obtain ⟨flight, under, answer, answered, rfl⟩ := accepted
    rcases Flight.answer_eq_ok answered with rfl | ⟨rfl, slot, landed, rfl⟩
    · rw [under]
      exact .unticked under answered
    · obtain ⟨tx, phase⟩ := flight
      cases landed
      simp only [under, Flight.abandon, List.append_nil]
      have flag : (if (some slot).isSome && tx.register then true else s.updaterRegistered) =
          (tx.register || s.updaterRegistered) := by cases tx.register <;> rfl
      rw [flag]
      exact .ticked under
  | land writer =>
    simp only [step, bind_eq_ok, okOr_eq_ok, pure_eq_ok] at accepted
    obtain ⟨flight, under, ⟨next, chain⟩, landed, rfl⟩ := accepted
    obtain ⟨sent, ⟨executed, rfl⟩ | ⟨rfl, e, executed, rfl⟩⟩ := Flight.land_eq_some landed
    · exact .landed (sent ▸ under) executed
    · exact .rejected (sent ▸ under) executed
  | landLate index =>
    simp only [step, bind_eq_ok, okOr_eq_ok, pure_eq_ok] at accepted
    obtain ⟨⟨writer, tx⟩, waiting, rfl⟩ := accepted
    cases executed : tx.execute env config s.chain s.clock with
    | ok chain => exact .landedLate waiting executed
    | error e => exact .rejectedLate waiting executed
  | restartIssuer loadFault probeFault =>
    cases accepted
    exact .restartIssuer
  | restartUpdater probeFault =>
    cases accepted
    exact .restartUpdater
  | advance clock =>
    simp only [step, bind_eq_ok, require_eq_ok, pure_eq_ok] at accepted
    obtain ⟨_, later, rfl⟩ := accepted
    exact .advance later
  | elsewhere chain =>
    simp only [step, bind_eq_ok, require_eq_ok, pure_eq_ok] at accepted
    obtain ⟨_, same, rfl⟩ := accepted
    exact .elsewhere same

theorem Stepped.accepted {s s' : System World} {action : Action World}
    (stepped : Stepped env config s action s') : step env config s action = .ok s' := by
  cases stepped with
  | request served => rw [step, served]
  | skipped idle nothing =>
    have same : { s with publication := none } = s := by rw [← idle]
    rw [step, idle, nothing, Option.map_none, same]
  | taken idle taken => rw [step, idle, taken, Option.map_some]
  | confirmed under => simp [step, under, Flight.answer, Flight.abandon]
  | unconfirmed under answer => simp [step, under, answer]
  | prepared idle begun => rw [step, idle, begun]
  | unprepared idle failed => rw [step, idle, failed]
  | ticked under => simp [step, under, Flight.answer, Flight.abandon]
  | unticked under answer => simp [step, under, answer]
  | landed under executed =>
    simp only [step, bind_eq_ok, okOr_eq_ok, pure_eq_ok]
    exact ⟨_, under, _, by rw [Flight.land, executed], rfl⟩
  | rejected under executed =>
    simp only [step, bind_eq_ok, okOr_eq_ok, pure_eq_ok]
    exact ⟨_, under, _, by rw [Flight.land, executed], rfl⟩
  -- nobody waits for these any more, so no flight changes its phase
  | landedLate waiting executed =>
    simp only [step, bind_eq_ok, okOr_eq_ok, pure_eq_ok]
    exact ⟨_, waiting, by rw [executed]⟩
  | rejectedLate waiting executed =>
    simp only [step, bind_eq_ok, okOr_eq_ok, pure_eq_ok]
    exact ⟨_, waiting, by rw [executed]⟩
  | restartIssuer => rfl
  | restartUpdater => rfl
  | advance later =>
    simp only [step, bind_eq_ok, require_eq_ok, pure_eq_ok]
    exact ⟨⟨⟩, later, trivial⟩
  | elsewhere same =>
    simp only [step, bind_eq_ok, require_eq_ok, pure_eq_ok]
    exact ⟨⟨⟩, same, trivial⟩

theorem Stepped.run {s s' : System World} {action : Action World}
    (stepped : Stepped env config s action s') (rest : List (Action World)) :
    run env config s (action :: rest) = run env config s' rest :=
  Transactional.run_cons_ok stepped.accepted rest

theorem noted_step {γ : Type} {note : γ → System World → Action World → γ} {notes notes' : γ}
    {s s' : System World} {action : Action World} (stepped : Stepped env config s action s')
    (noted : note notes s action = notes') :
    Transactional.annotate (step env config) note (s, notes) action = .ok (s', notes') :=
  Transactional.annotate_eq_ok.mpr ⟨stepped.accepted, noted.symm⟩

/-! ## Sound states -/

variable (env config)

/-- What a transaction of a writer carries, whenever it lands. -/
structure SoundTransaction (chain : State World) (writer : Writer) (tx : Transaction) : Prop where
  known : tx.register = false → Registered env config chain
  issuer : writer = .issuer →
    tx.roots.sanctions = IssuerState.new.rootsAsBytes.sanctions ∧
      tx.roots.jurisdiction = IssuerState.new.rootsAsBytes.jurisdiction
  updater : writer = .updater → tx.register = true → tx.roots.merkle = .zero

structure SoundFlight (chain : State World) (writer : Writer) (flight : Flight) : Prop where
  transaction : SoundTransaction env config chain writer flight.tx
  landed : ∀ slot, flight.phase = .landed slot → Registered env config chain

/-- Records that a load restores. -/
def Storable (records : List CredentialRecord) : Prop :=
  (records.map CredentialRecord.wallet).Nodup ∧
    records.map CredentialRecord.leafIndex = List.range records.length

/-- The state and the file stand for records. -/
structure Recorded (s : System World) : Prop where
  represented : ∃ records, Represents s.issuer records
  stored : ∀ persisted, s.disk = some persisted → Storable persisted.credentials

structure Sound (s : System World) : Prop extends Recorded s where
  account : SoundAccount env config s.chain
  issuerFlag : s.issuer.registered = true → Registered env config s.chain
  updaterFlag : s.updaterRegistered = true → Registered env config s.chain
  flights : ∀ writer flight, s.flight writer = some flight →
    SoundFlight env config s.chain writer flight
  late : ∀ writer tx, (writer, tx) ∈ s.late → SoundTransaction env config s.chain writer tx

variable {env config}

theorem SoundTransaction.mono {chain chain' : State World} {writer : Writer} {tx : Transaction}
    (sound : SoundTransaction env config chain writer tx)
    (kept : Registered env config chain → Registered env config chain') :
    SoundTransaction env config chain' writer tx :=
  { sound with known := fun update => kept (sound.known update) }

theorem SoundFlight.mono {chain chain' : State World} {writer : Writer} {flight : Flight}
    (sound : SoundFlight env config chain writer flight)
    (kept : Registered env config chain → Registered env config chain') :
    SoundFlight env config chain' writer flight where
  transaction := sound.transaction.mono kept
  landed := fun slot landed => kept (sound.landed slot landed)

/-- The account after a transaction has landed. -/
theorem soundAccount_setAccount {chain : State World} {roots : Roots} (clock : Clock)
    (nonzero : roots.Nonzero) :
    SoundAccount env config (chain.setAccount (issuerPda env config)
      (some (.issuer (issuerOf config roots clock)))) := by
  right
  refine ⟨issuerOf config roots clock, ?_, rfl, nonzero⟩
  simp

theorem registered_setAccount {chain : State World} {issuer : Issuer} :
    Registered env config (chain.setAccount (issuerPda env config) (some (.issuer issuer))) :=
  ⟨issuer, by simp⟩

theorem SoundAccount.registered {chain : State World} (sound : SoundAccount env config chain) :
    Registered env config chain ↔ chain.accounts (issuerPda env config) ≠ none := by
  rcases sound with free | ⟨issuer, found, -⟩
  · simp [Registered, free]
  · simp [Registered, found]

/-- A probe that succeeds says whether there is an account. -/
theorem probe_eq_true_iff {chain : State World} {fault : Bool} :
    probe env config fault chain = true ↔
      fault = false ∧ chain.accounts (issuerPda env config) ≠ none := by
  cases fault with
  | true => simp [probe, isIssuerRegistered]
  | false =>
    cases found : chain.accounts (issuerPda env config) with
    | none => simp [probe, isIssuerRegistered, getAccountData, found]
    | some account => cases account <;> simp [probe, isIssuerRegistered, getAccountData, found]

theorem probe_eq_true {chain : State World} (sound : SoundAccount env config chain)
    {fault : Bool} :
    probe env config fault chain = true ↔ fault = false ∧ Registered env config chain := by
  rw [probe_eq_true_iff, sound.registered]

theorem mem_abandon {writer writer' : Writer} {tx : Transaction} {flight : Option Flight}
    (member : (writer', tx) ∈ Flight.abandon writer flight) :
    writer' = writer ∧ flight = some ⟨tx, .sent⟩ := by
  cases flight with
  | none => cases member
  | some flight =>
    obtain ⟨sent, phase⟩ := flight
    cases phase with
    | sent =>
      cases List.mem_singleton.mp member
      exact ⟨rfl, rfl⟩
    | landed slot => cases member
    | rejected e => cases member

/-! ## Soundness is kept -/

theorem Sound.withChain {s : System World} (sound : Sound env config s) {chain : State World}
    (account : SoundAccount env config chain)
    (kept : Registered env config s.chain → Registered env config chain) :
    Sound env config { s with chain } where
  toRecorded := { sound.toRecorded with }
  account := account
  issuerFlag := fun flag => kept (sound.issuerFlag flag)
  updaterFlag := fun flag => kept (sound.updaterFlag flag)
  flights := fun writer flight under => (sound.flights writer flight under).mono kept
  late := fun writer tx waiting => (sound.late writer tx waiting).mono kept

/-- A transaction has landed. -/
theorem Sound.executed {s : System World} (sound : Sound env config s) {tx : Transaction}
    {chain : State World} (executed : tx.execute env config s.chain s.clock = .ok chain) :
    Sound env config { s with chain } ∧ Registered env config chain := by
  obtain ⟨⟨_, nonzero⟩, rfl⟩ := (execute_eq_ok sound.account).mp executed
  have registered : Registered env config (s.chain.setAccount (issuerPda env config)
      (some (.issuer (issuerOf config tx.roots s.clock)))) := registered_setAccount
  exact ⟨sound.withChain (soundAccount_setAccount _ nonzero) fun _ => registered, registered⟩

theorem Sound.setFlight {s : System World} (sound : Sound env config s) (writer : Writer)
    (flight : Option Flight)
    (fits : ∀ f, flight = some f → SoundFlight env config s.chain writer f) :
    Sound env config (s.setFlight flight writer) := by
  cases writer with
  | issuer =>
    refine { sound with flights := ?_ }
    intro writer f under
    cases writer with
    | issuer => exact fits f under
    | updater => exact sound.flights .updater f under
  | updater =>
    refine { sound with flights := ?_ }
    intro writer f under
    cases writer with
    | issuer => exact sound.flights .issuer f under
    | updater => exact fits f under

/-- The sender stops waiting. -/
theorem Sound.abandon {s : System World} (sound : Sound env config s) (writer : Writer) :
    Sound env config
      ({ s with late := s.late ++ Flight.abandon writer (s.flight writer) }.setFlight none
        writer) := by
  apply Sound.setFlight _ _ _ (by simp)
  refine { sound with late := ?_ }
  intro writer' tx waiting
  rcases List.mem_append.mp waiting with waiting | abandoned
  · exact sound.late writer' tx waiting
  · obtain ⟨rfl, under⟩ := mem_abandon abandoned
    exact (sound.flights writer' _ under).transaction

theorem Represents.storable {st : IssuerState} {records : List CredentialRecord}
    (represents : Represents st records) : Storable st.persisted.credentials := by
  rw [represents.persisted]
  exact ⟨represents.wallets, represents.indices⟩

theorem startIssuer_fresh (loadFault probeFault : Bool) (chain : State World) :
    startIssuer env config loadFault probeFault none chain =
      { IssuerState.new with registered := probe env config probeFault chain } := by
  rw [startIssuer]
  cases config.statePath with
  | none => rfl
  | some path => rfl

variable (env) in
/-- A process that reads its file has the records of the file and nothing to publish. -/
theorem startIssuer_loaded {path : String} (configured : config.statePath = some path)
    {persisted : PersistedState} (storable : Storable persisted.credentials) (probeFault : Bool)
    (chain : State World) :
    Represents (startIssuer env config false probeFault (some persisted) chain)
        persisted.credentials ∧
      (startIssuer env config false probeFault (some persisted) chain).rootsDirty = false ∧
      (startIssuer env config false probeFault (some persisted) chain).registered =
        probe env config probeFault chain := by
  obtain ⟨wallets, indices⟩ := storable
  obtain ⟨st, loaded, represents, clean, -⟩ : ∃ st, load false (some persisted) = .ok st ∧
      Represents st persisted.credentials ∧ st.rootsDirty = false ∧
        st.registered = persisted.registered :=
    represents_load wallets indices
  rw [startIssuer, configured]
  simp only [loaded]
  exact ⟨{ represents with }, clean, trivial⟩

/-- A process that cannot read its file starts without a record. -/
theorem startIssuer_unread (probeFault : Bool) (disk : Disk) (chain : State World) :
    startIssuer env config true probeFault disk chain =
      { IssuerState.new with registered := probe env config probeFault chain } := by
  rw [startIssuer]
  cases config.statePath with
  | none => rfl
  | some path => cases disk <;> rfl

theorem represents_startIssuer {disk : Disk} {chain : State World} (loadFault probeFault : Bool)
    (stored : ∀ persisted, disk = some persisted → Storable persisted.credentials) :
    ∃ records, Represents (startIssuer env config loadFault probeFault disk chain) records := by
  have fresh : ∃ records, Represents { IssuerState.new with
      registered := probe env config probeFault chain } records := ⟨[], { represents_new with }⟩
  cases disk with
  | none =>
    rw [startIssuer_fresh]
    exact fresh
  | some persisted =>
    cases loadFault with
    | true =>
      rw [startIssuer_unread]
      exact fresh
    | false =>
      cases configured : config.statePath with
      | none =>
        rw [startIssuer, configured]
        exact fresh
      | some path =>
        exact ⟨_, (startIssuer_loaded env configured (stored persisted rfl) probeFault chain).1⟩

/-- A publication is skipped when nothing has changed and the flag is set. -/
theorem snapshot_eq_none {st : IssuerState} :
    st.snapshot = none ↔ st.rootsDirty = false ∧ st.registered = true := by
  rw [IssuerState.snapshot]
  split <;> simp [*]

theorem snapshot_eq_some {st : IssuerState} {tx : Transaction} (taken : st.snapshot = some tx) :
    tx = { register := !st.registered, roots := st.rootsAsBytes } := by
  rw [IssuerState.snapshot] at taken
  split at taken
  · cases taken
  · cases taken
    rfl

theorem Represents.roots {st : IssuerState} {records : List CredentialRecord}
    (represents : Represents st records) :
    st.rootsAsBytes.sanctions = IssuerState.new.rootsAsBytes.sanctions ∧
      st.rootsAsBytes.jurisdiction = IssuerState.new.rootsAsBytes.jurisdiction := by
  constructor
  · rw [IssuerState.rootsAsBytes, represents.sanctions]
    rfl
  · rw [IssuerState.rootsAsBytes, represents.jurisdiction]
    rfl

/-- The two roots that the service never changes are no zeros. -/
theorem roots_new : IssuerState.new.rootsAsBytes.sanctions ≠ .zero ∧
    IssuerState.new.rootsAsBytes.jurisdiction ≠ .zero := by
  have sanctions : IssuerState.new.sanctionsTree.root = MerkleTree.new.root :=
    SparseMerkleTree.root_new
  have jurisdiction : IssuerState.new.jurisdictionTree.root =
      MerkleTree.root ⟨[poseidon2Hash [1]]⟩ := rfl
  simp only [IssuerState.rootsAsBytes, ne_eq, frToBytesBe_eq_zero]
  rw [sanctions, jurisdiction, MerkleTree.root_new, MerkleTree.root_one]
  decide

theorem Represents.nonzero {st : IssuerState} {records : List CredentialRecord}
    (represents : Represents st records) :
    st.rootsAsBytes.Nonzero ↔ st.rootsAsBytes.merkle ≠ .zero := by
  rw [Roots.Nonzero, represents.roots.1, represents.roots.2, and_iff_left roots_new]

theorem prepare_eq_ok {registered rpcFault : Bool} {root : Bytes32} {chain : State World}
    {tx : Transaction}
    (prepared : Updater.prepare env config registered rpcFault root chain = .ok tx) :
    tx.register = !registered ∧ tx.roots.sanctions = root ∧
      (registered = false → tx.roots.merkle = .zero) := by
  simp only [Updater.prepare, bind_eq_ok, pure_eq_ok] at prepared
  obtain ⟨current, read, rfl⟩ := prepared
  refine ⟨rfl, rfl, ?_⟩
  rintro rfl
  cases read
  rfl

theorem beginTick_eq_ok {registered rpcFault : Bool}
    {fetched : Except Updater.UpdaterError (List String)} {chain : State World} {tx : Transaction}
    (begun : Updater.beginTick env config registered rpcFault fetched chain = .ok tx) :
    ∃ wallets tree root, fetched = .ok wallets ∧
      Updater.buildSanctionsTree wallets = .ok (tree, root) ∧
      Updater.prepare env config registered rpcFault root chain = .ok tx := by
  simp only [Updater.beginTick, bind_eq_ok] at begun
  obtain ⟨wallets, fetched, ⟨tree, root⟩, built, prepared⟩ := begun
  exact ⟨wallets, tree, root, fetched, built, prepared⟩

/-! ## Every step is sound -/

theorem recorded_start (issuerFault updaterFault : Bool) (clock : Clock) (chain : State World) :
    Recorded (System.start env config issuerFault updaterFault clock chain) where
  represented := by
    simp only [System.start]
    apply represents_startIssuer
    intro persisted saved
    cases saved
  stored := by simp [System.start]

/-- What a request does to the records behind a state. -/
theorem Recorded.served {s : System World} (recorded : Recorded s) {saveFault : Bool}
    {request : Request} {reply : Reply Unit}
    (served : request.serve config.statePath saveFault s.issuer s.disk = reply) :
    ∃ records records', Represents s.issuer records ∧
      Served config.statePath s.issuer s.disk records reply records' := by
  obtain ⟨records, represents⟩ := recorded.represented
  obtain ⟨records', outcome⟩ := serve_served config.statePath saveFault request s.disk represents
  rw [served] at outcome
  exact ⟨records, records', represents, outcome⟩

theorem step_recorded {s s' : System World} {action : Action World} (recorded : Recorded s)
    (accepted : step env config s action = .ok s') : Recorded s' := by
  obtain ⟨records, represents⟩ := recorded.represented
  cases step_stepped accepted with
  | request served =>
    obtain ⟨_, records', _, outcome⟩ := recorded.served served
    refine ⟨⟨records', outcome.represents⟩, ?_⟩
    intro persisted saved
    -- the file is the old one, or the records of the new state
    rcases outcome.file with same | moved
    · exact recorded.stored persisted (same ▸ saved)
    · cases moved.symm.trans saved
      exact outcome.represents.storable
  | confirmed => exact { recorded with represented := ⟨records, { represents with }⟩ }
  | @landed writer => cases writer <;> exact { recorded with }
  | @rejected writer => cases writer <;> exact { recorded with }
  | @restartIssuer loadFault probeFault =>
    exact { recorded with
      represented := represents_startIssuer loadFault probeFault recorded.stored }
  | _ => exact { recorded with }

theorem run_recorded {s : System World} (recorded : Recorded s) (actions : List (Action World)) :
    Recorded (run env config s actions) :=
  Transactional.run_invariant (fun _ _ _ recorded accepted => step_recorded recorded accepted) s
    actions recorded

theorem sound_start {chain : State World} (account : SoundAccount env config chain)
    (issuerFault updaterFault : Bool) (clock : Clock) :
    Sound env config (System.start env config issuerFault updaterFault clock chain) where
  toRecorded := recorded_start issuerFault updaterFault clock chain
  account := account
  issuerFlag := fun flag => ((probe_eq_true account).mp flag).2
  updaterFlag := fun flag => ((probe_eq_true account).mp flag).2
  flights := by
    intro writer flight under
    cases writer <;> cases under
  late := by simp [System.start]

theorem step_sound {s s' : System World} {action : Action World} (sound : Sound env config s)
    (accepted : step env config s action = .ok s') : Sound env config s' := by
  have recorded := step_recorded sound.toRecorded accepted
  obtain ⟨records, represents⟩ := sound.represented
  cases step_stepped accepted with
  | request served =>
    obtain ⟨_, _, _, outcome⟩ := sound.served served
    -- no request touches the flag
    refine { sound with toRecorded := recorded, issuerFlag := ?_ }
    intro flag
    exact sound.issuerFlag (outcome.flags.registered ▸ flag)
  | skipped => exact sound
  | @taken tx _ taken =>
    apply sound.setFlight .issuer
    rintro _ ⟨⟩
    cases snapshot_eq_some taken
    refine ⟨⟨?_, fun _ => represents.roots, by simp⟩, by simp⟩
    -- an update is sent with the flag set, and then the account is there
    intro update
    apply sound.issuerFlag
    simpa using update
  | @confirmed tx slot under =>
    -- the flag is set by a transaction that has landed
    have registered := (sound.flights .issuer _ under).landed slot rfl
    have idle := sound.setFlight .issuer none (by simp)
    exact { idle with toRecorded := recorded, issuerFlag := fun _ => registered }
  | unconfirmed under => exact under ▸ sound.abandon .issuer
  | @prepared _ _ tx _ begun =>
    apply sound.setFlight .updater
    rintro _ ⟨⟩
    obtain ⟨_, _, _, -, -, prepared⟩ := beginTick_eq_ok begun
    obtain ⟨kind, -, zero⟩ := prepare_eq_ok prepared
    refine ⟨⟨?_, by simp, ?_⟩, by simp⟩
    · intro update
      apply sound.updaterFlag
      simpa [kind] using update
    -- without its flag the updater has read no merkle root
    · intro _ register
      apply zero
      simpa [kind] using register
  | unprepared => exact sound
  | @ticked tx slot under =>
    have registered := (sound.flights .updater _ under).landed slot rfl
    have idle := sound.setFlight .updater none (by simp)
    exact { idle with updaterFlag := fun _ => registered }
  | unticked under => exact under ▸ sound.abandon .updater
  | @landed writer tx chain under executed =>
    -- whatever lands leaves an account behind
    obtain ⟨moved, registered⟩ := sound.executed executed
    apply moved.setFlight
    rintro _ ⟨⟩
    have sent := (sound.flights writer _ under).transaction
    exact ⟨sent.mono fun _ => registered, fun _ _ => registered⟩
  | @rejected writer tx e under =>
    apply sound.setFlight
    rintro _ ⟨⟩
    exact ⟨(sound.flights writer _ under).transaction, by simp⟩
  | @landedLate index writer tx chain waiting executed =>
    obtain ⟨moved, -⟩ := sound.executed executed
    exact { moved with
      late := fun writer tx later => moved.late writer tx (List.mem_of_mem_eraseIdx later) }
  | rejectedLate =>
    exact { sound with
      late := fun writer tx later => sound.late writer tx (List.mem_of_mem_eraseIdx later) }
  | @restartIssuer loadFault probeFault =>
    -- the flag comes from a probe; what was under way may still land
    have stopped := sound.abandon .issuer
    exact { stopped with
      toRecorded := recorded
      issuerFlag := fun flag => ((probe_eq_true sound.account).mp flag).2 }
  | restartUpdater =>
    have stopped := sound.abandon .updater
    exact { stopped with updaterFlag := fun flag => ((probe_eq_true sound.account).mp flag).2 }
  | advance => exact { sound with }
  | elsewhere same =>
    apply sound.withChain
    · rw [SoundAccount, same]
      exact sound.account
    · rw [Registered, Registered, same]
      exact id

/-- Every state of every run is sound. -/
theorem run_sound {s : System World} (sound : Sound env config s)
    (actions : List (Action World)) : Sound env config (run env config s actions) :=
  Transactional.run_invariant (fun _ _ _ sound accepted => step_sound sound accepted) s actions
    sound

/-- An account that exists stays. -/
theorem step_registered {s s' : System World} {action : Action World}
    (sound : Sound env config s) (registered : Registered env config s.chain)
    (accepted : step env config s action = .ok s') : Registered env config s'.chain := by
  cases step_stepped accepted with
  | @landed writer _ _ _ executed => cases writer <;> exact (sound.executed executed).2
  | @rejected writer => cases writer <;> exact registered
  | landedLate _ executed => exact (sound.executed executed).2
  | elsewhere same =>
    rw [Registered, same]
    exact registered
  | _ => exact registered

structure Enrolled (env : External Proof Address World) (config : Config) (s : System World) :
    Prop where
  sound : Sound env config s
  registered : Registered env config s.chain

theorem run_enrolled {s : System World} (enrolled : Enrolled env config s)
    (actions : List (Action World)) : Enrolled env config (run env config s actions) := by
  apply Transactional.run_invariant _ s actions enrolled
  intro state action next enrolled accepted
  exact ⟨step_sound enrolled.sound accepted,
    step_registered enrolled.sound enrolled.registered accepted⟩

end ZkSettle.Service
