import ZkSettle.Program.Ownership
import ZkSettle.Service.Reachable

/-!
# Where the roots on the chain come from

The two services and everybody else on one chain: every other transaction is a call of the
program that does not carry the authority's signature on new roots. The roots in the
issuer account are then those of a tree that the issuer service has had, with the sanctions
root of a list that the updater has fetched.
-/
namespace ZkSettle.Service

open Crypto Program Checks Transactional

variable {Proof Address World : Type} (env : External Proof Address World) (config : Config)

/-! ## One chain -/

inductive Move (World : Type) where
  | service (action : Action World)
  | call (call : Call)

/-- An action of the services, or a call of the program by others. Nobody but the services
sends roots that are signed by the authority. -/
def move (s : System World) : Move World → Except Unit (System World)
  | .service (.elsewhere _) => .error ()
  | .service action => step env config s action
  | .call call => do
    require (∀ written ∈ call.issuerWrite, written.2.authority ≠ config.authority) ()
    let chain ← okOr (Program.step env s.chain call).toOption ()
    pure { s with chain }

abbrev runMoves : System World → List (Move World) → System World :=
  Transactional.run (move env config)

variable {env config}

variable (env config) in
/-- The cases of a move. -/
inductive Moved (s : System World) : Move World → System World → Prop where
  | service {action s'} (stepped : step env config s action = .ok s')
      (here : ∀ chain, action ≠ .elsewhere chain) : Moved s (.service action) s'
  | call {call chain} (accepted : Program.step env s.chain call = .ok chain)
      (same : chain.accounts (issuerPda env config) = s.chain.accounts (issuerPda env config)) :
      Moved s (.call call) { s with chain }

/-- A step of the services is a move. -/
theorem Stepped.move {s s' : System World} {action : Action World}
    (stepped : Stepped env config s action s') (here : ∀ chain, action ≠ .elsewhere chain) :
    Service.move env config s (.service action) = .ok s' := by
  have accepted := stepped.accepted
  cases action with
  | elsewhere chain => exact absurd rfl (here chain)
  | _ => exact accepted

/-- To the services, a call by others is a step elsewhere. -/
theorem Moved.step {s s' : System World} {m : Move World}
    (moved : Moved env config s m s') :
    ∃ action, step env config s action = .ok s' := by
  cases moved with
  | service stepped => exact ⟨_, stepped⟩
  | @call call chain accepted same =>
    refine ⟨.elsewhere chain, ?_⟩
    simp only [Service.step, bind_eq_ok, require_eq_ok, pure_eq_ok]
    exact ⟨⟨⟩, same, trivial⟩

/-- The chain moves by calls of the program. -/
theorem Moved.chain {s s' : System World} {m : Move World}
    (moved : Moved env config s m s') :
    s'.chain = s.chain ∨ ∃ call, Program.step env s.chain call = .ok s'.chain := by
  cases moved with
  | @call call _ accepted same => exact Or.inr ⟨call, accepted⟩
  | service stepped here =>
    cases step_stepped stepped with
    | @landed writer _ _ _ executed => cases writer <;> exact Or.inr ⟨_, executed⟩
    | @rejected writer => cases writer <;> exact Or.inl rfl
    | landedLate _ executed => exact Or.inr ⟨_, executed⟩
    | elsewhere => exact absurd rfl (here _)
    | _ => exact Or.inl rfl

/-- The roots stored in an issuer account. -/
def rootsOf (issuer : Issuer) : Roots where
  merkle := issuer.merkleRoot
  sanctions := issuer.sanctionsRoot
  jurisdiction := issuer.jurisdictionRoot

/-- Where three roots come from: a state that the issuer service has had, a list that the
updater has fetched or none, and the one tree of jurisdictions. -/
structure Provenance (held : IssuerState → Prop) (fetched : List String → Prop)
    (roots : Roots) : Prop where
  merkle : ∃ st, held st ∧ roots.merkle = st.rootsAsBytes.merkle
  sanctions : roots.sanctions = IssuerState.new.rootsAsBytes.sanctions ∨
    ∃ wallets tree, fetched wallets ∧
      Updater.buildSanctionsTree wallets = .ok (tree, roots.sanctions)
  jurisdiction : roots.jurisdiction = IssuerState.new.rootsAsBytes.jurisdiction

variable {held held' : IssuerState → Prop} {fetched fetched' : List String → Prop}

theorem Provenance.mono {roots : Roots} (provenance : Provenance held fetched roots)
    (more : ∀ st, held st → held' st) (longer : ∀ wallets, fetched wallets → fetched' wallets) :
    Provenance held' fetched' roots where
  merkle := by
    obtain ⟨st, had, root⟩ := provenance.merkle
    exact ⟨st, more st had, root⟩
  sanctions := by
    rcases provenance.sanctions with empty | ⟨wallets, tree, had, built⟩
    · exact Or.inl empty
    · exact Or.inr ⟨wallets, tree, longer wallets had, built⟩
  jurisdiction := provenance.jurisdiction

/-- The roots in the account and in every transaction that could land have a provenance. -/
structure Traced (env : External Proof Address World) (config : Config)
    (held : IssuerState → Prop) (fetched : List String → Prop) (s : System World) : Prop where
  account : ∀ issuer, s.chain.accounts (issuerPda env config) = some (.issuer issuer) →
    Provenance held fetched (rootsOf issuer)
  flights : ∀ writer flight, s.flight writer = some flight → flight.tx.roots.Nonzero →
    Provenance held fetched flight.tx.roots
  late : ∀ writer tx, (writer, tx) ∈ s.late → tx.roots.Nonzero →
    Provenance held fetched tx.roots

theorem Traced.mono {s : System World} (traced : Traced env config held fetched s)
    (more : ∀ st, held st → held' st) (longer : ∀ wallets, fetched wallets → fetched' wallets) :
    Traced env config held' fetched' s where
  account := fun issuer found => (traced.account issuer found).mono more longer
  flights := fun writer flight under nonzero =>
    (traced.flights writer flight under nonzero).mono more longer
  late := fun writer tx waiting nonzero => (traced.late writer tx waiting nonzero).mono more longer

theorem Traced.setFlight {s : System World} (traced : Traced env config held fetched s)
    (writer : Writer) (flight : Option Flight)
    (fits : ∀ f, flight = some f → f.tx.roots.Nonzero → Provenance held fetched f.tx.roots) :
    Traced env config held fetched (s.setFlight flight writer) := by
  cases writer with
  | issuer =>
    refine { traced with flights := ?_ }
    intro writer f under
    cases writer with
    | issuer => exact fits f under
    | updater => exact traced.flights .updater f under
  | updater =>
    refine { traced with flights := ?_ }
    intro writer f under
    cases writer with
    | issuer => exact traced.flights .issuer f under
    | updater => exact fits f under

/-- A transaction that nobody waits for any more may still land. -/
theorem Traced.abandon {s : System World} (traced : Traced env config held fetched s)
    (writer : Writer) : Traced env config held fetched
      ({ s with late := s.late ++ Flight.abandon writer (s.flight writer) }.setFlight none
        writer) := by
  apply Traced.setFlight _ _ _ (by simp)
  refine { traced with late := ?_ }
  intro writer' tx waiting
  rcases List.mem_append.mp waiting with waiting | abandoned
  · exact traced.late writer' tx waiting
  · obtain ⟨rfl, under⟩ := mem_abandon abandoned
    exact traced.flights writer' _ under

/-- What lands has the provenance of the transaction. -/
theorem Traced.executed {s : System World} (traced : Traced env config held fetched s)
    (sound : Sound env config s) {tx : Transaction} {chain : State World}
    (origin : tx.roots.Nonzero → Provenance held fetched tx.roots)
    (executed : tx.execute env config s.chain s.clock = .ok chain) :
    Traced env config held fetched { s with chain } := by
  obtain ⟨⟨_, nonzero⟩, rfl⟩ := (execute_eq_ok sound.account).mp executed
  refine { traced with account := ?_ }
  intro issuer found
  rw [State.setAccount_accounts, Function.update_self] at found
  cases found
  exact origin nonzero

/-- The issuer service has had the state in the course of the moves. -/
def Held (env : External Proof Address World) (config : Config) (start : System World)
    (moves : List (Move World)) (st : IssuerState) : Prop :=
  ∃ earlier, earlier <+: moves ∧ (runMoves env config start earlier).issuer = st

/-- A tick of the updater has begun with the list. -/
def Fetched (moves : List (Move World)) (wallets : List String) : Prop :=
  ∃ rpcFault, .service (.beginTick (.ok wallets) rpcFault) ∈ moves

theorem Held.append {start : System World} {moves : List (Move World)} {st : IssuerState}
    (had : Held env config start moves st) (m : Move World) :
    Held env config start (moves ++ [m]) st := by
  obtain ⟨earlier, before, same⟩ := had
  exact ⟨earlier, before.trans (List.prefix_append moves [m]), same⟩

theorem Fetched.append {moves : List (Move World)} {wallets : List String}
    (had : Fetched moves wallets) (m : Move World) : Fetched (moves ++ [m]) wallets := by
  obtain ⟨rpcFault, member⟩ := had
  exact ⟨rpcFault, List.mem_append_left [m] member⟩

end ZkSettle.Service
