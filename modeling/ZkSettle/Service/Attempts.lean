import ZkSettle.Program.Reference
import ZkSettle.Service.Reachable

/-!
# Attempts without a fault

A publication, or a tick of the updater, in which no call fails and nobody else comes
between. Whether it lands is decided by what the flag of its sender says of the account
and by the roots it sends.
-/
namespace ZkSettle.Service

open Crypto Program Checks Transactional

variable {Proof Address World : Type} (env : External Proof Address World) (config : Config)

/-- A publication: decided, landed or rejected, confirmed. -/
def attempt : List (Action World) := [.beginPublish, .land .issuer, .finishPublish false]

/-- A tick that has fetched the wallets. -/
def tickOf (wallets : List String) : List (Action World) :=
  [.beginTick (.ok wallets) false, .land .updater, .finishTick false]

/-- The roots of the issuer account. -/
def chainRoots (chain : State World) : Option Roots :=
  match chain.accounts (issuerPda env config) with
  | some (.issuer issuer) =>
    some
      { merkle := issuer.merkleRoot
        sanctions := issuer.sanctionsRoot
        jurisdiction := issuer.jurisdictionRoot }
  | _ => none

variable {env config}

theorem chainRoots_setAccount {chain : State World} {roots : Roots} {clock : Clock} :
    chainRoots env config (chain.setAccount (issuerPda env config)
      (some (.issuer (issuerOf config roots clock)))) = some roots := by
  simp [chainRoots, issuerOf]

theorem chainRoots_eq_some {chain : State World} {roots : Roots} :
    chainRoots env config chain = some roots ↔ ∃ issuer,
      chain.accounts (issuerPda env config) = some (.issuer issuer) ∧
        roots =
          { merkle := issuer.merkleRoot
            sanctions := issuer.sanctionsRoot
            jurisdiction := issuer.jurisdictionRoot } := by
  rw [chainRoots]
  cases chain.accounts (issuerPda env config) with
  | none => simp
  | some account => cases account <;> simp [eq_comm]

/-- The roots of a sound account are no zeros. -/
theorem SoundAccount.nonzero {chain : State World} (sound : SoundAccount env config chain)
    {roots : Roots} (found : chainRoots env config chain = some roots) : roots.Nonzero := by
  rcases sound with free | ⟨issuer, present, -, nonzero⟩
  · rw [chainRoots, free] at found
    cases found
  · rw [chainRoots, present] at found
    cases found
    exact nonzero

/-- A transaction is executed, or leaves the chain as it is. -/
theorem execute_cases {chain : State World} (sound : SoundAccount env config chain)
    (tx : Transaction) (clock : Clock) :
    (tx.Lands env config chain ∧ tx.execute env config chain clock =
        .ok (chain.setAccount (issuerPda env config)
          (some (.issuer (issuerOf config tx.roots clock))))) ∨
      (¬ tx.Lands env config chain ∧
        ∃ e, tx.execute env config chain clock = .error e) := by
  cases outcome : tx.execute env config chain clock with
  | ok chain' =>
    obtain ⟨lands, rfl⟩ := (execute_eq_ok sound).mp outcome
    exact Or.inl ⟨lands, rfl⟩
  | error e =>
    refine Or.inr ⟨?_, e, rfl⟩
    -- what fits the account would have been executed
    intro lands
    rw [(execute_eq_ok sound).mpr ⟨lands, rfl⟩] at outcome
    cases outcome

/-- An update of an account that exists. -/
theorem execute_update {chain : State World} (account : SoundAccount env config chain)
    (registered : Registered env config chain) {roots : Roots} (nonzero : roots.Nonzero)
    (clock : Clock) :
    Transaction.execute env config { register := false, roots } chain clock =
      .ok (chain.setAccount (issuerPda env config)
        (some (.issuer (issuerOf config roots clock)))) :=
  (execute_eq_ok account).mpr ⟨⟨registered, nonzero⟩, rfl⟩

/-! ## Publications -/

theorem run_attempt_skipped {s : System World} (idle : s.publication = none)
    (nothing : s.issuer.snapshot = none) : run env config s attempt = s := by
  have begun : Stepped env config s .beginPublish s := .skipped idle nothing
  -- without a publication there is nothing to land and nothing to confirm
  have nothing_lands : commit (step env config) s (.land .issuer) = s := by
    rw [commit, step, System.flight, idle]
    rfl
  have nothing_ends : commit (step env config) s (.finishPublish false) = s := by
    rw [commit, step, idle]
    rfl
  rw [attempt, begun.run, run, run_cons, nothing_lands, run_cons, nothing_ends, run_nil]

theorem run_attempt_lands {s : System World} (account : SoundAccount env config s.chain)
    (idle : s.publication = none) {tx : Transaction} (taken : s.issuer.snapshot = some tx)
    (lands : tx.Lands env config s.chain) : run env config s attempt =
      { s with
        chain := s.chain.setAccount (issuerPda env config)
          (some (.issuer (issuerOf config tx.roots s.clock)))
        issuer := s.issuer.confirm s.clock.slot tx.register } := by
  have executed : tx.execute env config s.chain s.clock = .ok _ :=
    (execute_eq_ok account).mpr ⟨lands, rfl⟩
  have begun : Stepped env config s .beginPublish _ := .taken idle taken
  have landed : Stepped env config { s with publication := some ⟨tx, .sent⟩ } (.land .issuer) _ :=
    .landed rfl executed
  rw [attempt, begun.run, landed.run, (Stepped.confirmed rfl).run, run, run_nil]
  simp only [System.setFlight, idle]

theorem run_attempt_rejected {s : System World} (account : SoundAccount env config s.chain)
    (idle : s.publication = none) {tx : Transaction} (taken : s.issuer.snapshot = some tx)
    (rejected : ¬ tx.Lands env config s.chain) : run env config s attempt = s := by
  obtain ⟨lands, -⟩ | ⟨-, e, executed⟩ := execute_cases account tx s.clock
  · exact absurd lands rejected
  -- the error is the answer, and the lock is free again
  have begun : Stepped env config s .beginPublish _ := .taken idle taken
  have landed : Stepped env config { s with publication := some ⟨tx, .sent⟩ } (.land .issuer) _ :=
    .rejected rfl executed
  rw [attempt, begun.run, landed.run, (Stepped.unconfirmed rfl rfl).run, run, run_nil]
  simp only [System.setFlight, Flight.abandon, List.append_nil]
  rw [← idle]

@[simp] theorem IssuerState.confirm_registered (st : IssuerState) (slot : UInt64)
    (didRegister : Bool) :
    (st.confirm slot didRegister).registered = (didRegister || st.registered) := by
  cases didRegister <;> cases known : st.registered <;> simp [IssuerState.confirm, known]

/-- What a service with a flag sends lands when the flag is right and no root is zero. -/
theorem lands_iff {chain : State World} (account : SoundAccount env config chain)
    (registered : Bool) (roots : Roots) :
    Transaction.Lands env config { register := !registered, roots } chain ↔
      (registered = true ↔ Registered env config chain) ∧ roots.Nonzero := by
  cases registered with
  | true => simp [Transaction.Lands]
  | false => simp [Transaction.Lands, account.registered]

/-! ## Ticks -/

theorem run_tick_lands {s : System World} (account : SoundAccount env config s.chain)
    (idle : s.tick = none) {wallets : List String} {tx : Transaction}
    (begun : Updater.beginTick env config s.updaterRegistered false (.ok wallets) s.chain = .ok tx)
    (lands : tx.Lands env config s.chain) : run env config s (tickOf wallets) =
      { s with
        chain := s.chain.setAccount (issuerPda env config)
          (some (.issuer (issuerOf config tx.roots s.clock)))
        updaterRegistered := tx.register || s.updaterRegistered } := by
  have executed : tx.execute env config s.chain s.clock = .ok _ :=
    (execute_eq_ok account).mpr ⟨lands, rfl⟩
  have prepared : Stepped env config s (.beginTick (.ok wallets) false) _ := .prepared idle begun
  have landed : Stepped env config { s with tick := some ⟨tx, .sent⟩ } (.land .updater) _ :=
    .landed rfl executed
  rw [tickOf, prepared.run, landed.run, (Stepped.ticked rfl).run, run, run_nil]
  simp only [System.setFlight, idle]

theorem run_tick_rejected {s : System World} (account : SoundAccount env config s.chain)
    (idle : s.tick = none) {wallets : List String} {tx : Transaction}
    (begun : Updater.beginTick env config s.updaterRegistered false (.ok wallets) s.chain = .ok tx)
    (rejected : ¬ tx.Lands env config s.chain) : run env config s (tickOf wallets) = s := by
  obtain ⟨lands, -⟩ | ⟨-, e, executed⟩ := execute_cases account tx s.clock
  · exact absurd lands rejected
  have prepared : Stepped env config s (.beginTick (.ok wallets) false) _ := .prepared idle begun
  have landed : Stepped env config { s with tick := some ⟨tx, .sent⟩ } (.land .updater) _ :=
    .rejected rfl executed
  rw [tickOf, prepared.run, landed.run, (Stepped.unticked rfl rfl).run, run, run_nil]
  simp only [System.setFlight, Flight.abandon, List.append_nil]
  rw [← idle]

/-- A tick that has read the roots sends them back with its own between them. -/
theorem beginTick_registered {chain : State World} {before : Roots}
    (found : chainRoots env config chain = some before) {wallets : List String}
    {tree : SparseMerkleTree} {root : Bytes32}
    (built : Updater.buildSanctionsTree wallets = .ok (tree, root)) :
    Updater.beginTick env config true false (.ok wallets) chain =
      .ok { register := false, roots := { before with sanctions := root } } := by
  obtain ⟨issuer, present, rfl⟩ := chainRoots_eq_some.mp found
  simp only [Updater.beginTick, Updater.prepare, bind_eq_ok, pure_eq_ok, if_true]
  exact ⟨wallets, rfl, _, built, _, readCurrentRoots_issuer env config present, rfl⟩

/-- A tick that has not read them has no roots to send but its own. -/
theorem beginTick_unregistered (chain : State World) {wallets : List String}
    {tree : SparseMerkleTree} {root : Bytes32}
    (built : Updater.buildSanctionsTree wallets = .ok (tree, root)) :
    Updater.beginTick env config false false (.ok wallets) chain =
      .ok { register := true, roots := ⟨.zero, root, .zero⟩ } := by
  simp only [Updater.beginTick, Updater.prepare, bind_eq_ok, pure_eq_ok]
  exact ⟨wallets, rfl, _, built, _, rfl, rfl⟩

/-! ## One credential -/

namespace Sample

def service (statePath : Option String) : Config where
  authority := .zero
  statePath
  bump := 255

def clock (slot : UInt64) : Clock where
  slot
  unixTimestamp := 0

def one : Bytes32 := .ofNat 1

/-- The account exists, with roots that come from no tree. -/
def registered (statePath : Option String) : State Reference.Ledger :=
  (State.deployed []).setAccount (issuerPda reference (service statePath))
    (some (.issuer (issuerOf (service statePath) ⟨one, one, one⟩ (clock 0))))

def issue : Request :=
  .issue 0
    { wallet := "0000000000000000000000000000000000000000000000000000000000000001"
      jurisdiction := "US" }

/-- A process that has issued one credential. -/
def issued (registered : Bool) : IssuerState :=
  { IssuerState.new with registered }.insertCredential one 1 "US" 0

theorem soundAccount_deployed (statePath : Option String) :
    SoundAccount reference (service statePath) (State.deployed []) := Or.inl rfl

theorem soundAccount_registered (statePath : Option String) :
    SoundAccount reference (service statePath) (registered statePath) :=
  soundAccount_setAccount (clock 0) ⟨by decide, by decide, by decide⟩

/-- A process that starts without a fault finds the account. -/
theorem probe_registered (statePath : Option String) :
    probe reference (service statePath) false (registered statePath) = true :=
  (probe_eq_true (soundAccount_registered statePath)).mpr ⟨rfl, registered_setAccount⟩

theorem decode_one : walletHexToBytes
    "0000000000000000000000000000000000000000000000000000000000000001" = .ok one := by
  decide +kernel

theorem fr_one : bytesBeToFr one = 1 := by decide +kernel

def two : Bytes32 := .ofNat 2

def requestTwo : IssueRequest where
  wallet := "0000000000000000000000000000000000000000000000000000000000000002"
  jurisdiction := "US"

theorem decode_two : walletHexToBytes requestTwo.wallet = .ok two := by decide +kernel

theorem serve_issue (statePath : Option String) (registered : Bool) (disk : Disk) :
    issue.serve statePath false { IssuerState.new with registered } disk =
      (.ok (), issued registered,
        if statePath.isSome then some (issued registered).persisted else disk) := by
  have absent : one ∉ { IssuerState.new with registered }.credentials := AList.notMem_empty one
  rw [issue, Service.serve_issue statePath 0 decode_one absent, fr_one, issued]

theorem represents_issued (registered : Bool) :
    Represents (issued registered) [newRecord [] one "US" 0] := by
  have fresh : Represents { IssuerState.new with registered } [] := { represents_new with }
  have inserted := fresh.insert (AList.notMem_empty one) "US" 0
  rwa [fr_one] at inserted

/-- The roots after it, with one leaf in the membership tree. -/
theorem issued_roots (registered : Bool) : (issued registered).rootsAsBytes =
    { IssuerState.new.rootsAsBytes with
      merkle := IssuerState.new.rootsAsBytes.jurisdiction } := rfl

/-- The request comes to a process that has just started. -/
theorem stepped_issue (statePath : Option String) (issuerFault updaterFault : Bool)
    (chain : State Reference.Ledger) {s : System Reference.Ledger}
    (started : s = System.start reference (service statePath) issuerFault updaterFault (clock 0)
      chain) : Stepped reference (service statePath) s (.request false issue)
        { s with
          issuer := issued (probe reference (service statePath) issuerFault chain)
          disk := if statePath.isSome then
            some (issued (probe reference (service statePath) issuerFault chain)).persisted
            else none } := by
  have fresh : s.issuer = { IssuerState.new with
      registered := probe reference (service statePath) issuerFault chain } := by
    rw [started, System.start, startIssuer_fresh]
  have empty : s.disk = none := by rw [started, System.start]
  have served := serve_issue statePath (probe reference (service statePath) issuerFault chain) none
  rw [← fresh, ← empty] at served
  rw [← empty]
  exact .request served

theorem issued_nonzero (registered : Bool) : (issued registered).rootsAsBytes.Nonzero := by
  rw [issued_roots]
  exact ⟨roots_new.2, roots_new⟩

theorem snapshot_issued (registered : Bool) : (issued registered).snapshot =
    some { register := !registered, roots := (issued registered).rootsAsBytes } := rfl

/-- The first publication of a service that nobody has registered. -/
theorem execute_issued (statePath : Option String) :
    Transaction.execute reference (service statePath)
        { register := true, roots := (issued false).rootsAsBytes } (State.deployed []) (clock 0) =
      .ok ((State.deployed []).setAccount (issuerPda reference (service statePath))
        (some (.issuer (issuerOf (service statePath) (issued false).rootsAsBytes (clock 0))))) :=
  (execute_eq_ok (soundAccount_deployed statePath)).mpr ⟨⟨rfl, issued_nonzero false⟩, rfl⟩

theorem issued_merkle (registered : Bool) : (issued registered).rootsAsBytes.merkle ≠ one := by
  have value : (one : Bytes32) = frToBytesBe 1 := rfl
  have leaf : IssuerState.new.rootsAsBytes.jurisdiction =
      frToBytesBe (MerkleTree.root ⟨[poseidon2Hash [1]]⟩) := rfl
  rw [issued_roots, leaf, value, MerkleTree.root_one, ne_eq, frToBytesBe_injective.eq_iff]
  decide

/-- They are not the roots of the account. -/
theorem issued_unpublished (statePath : Option String) (known : Bool) :
    chainRoots reference (service statePath) (registered statePath) ≠
      some (issued known).rootsAsBytes := by
  rw [registered, chainRoots_setAccount]
  intro same
  exact issued_merkle known (congrArg Roots.merkle (Option.some.inj same)).symm

end Sample

end ZkSettle.Service
