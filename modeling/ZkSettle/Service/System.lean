import ZkSettle.Service.Publish

/-!
# The services and the chain

The issuer service, the sanctions updater and the chain between them, in any order of
their steps. A publication is three steps under one lock: what is sent is decided, the
transaction lands, the answer comes back. A step that fails may have landed before, or
may land later. A process may stop between any two steps and start again.
-/
namespace ZkSettle.Service

open Crypto Program Checks

variable {Proof Address World : Type}

/-- A transaction on its way. -/
inductive Phase where
  | sent
  | landed (slot : UInt64)
  | rejected (error : Error)
  deriving DecidableEq, Repr

structure Flight where
  tx : Transaction
  phase : Phase
  deriving DecidableEq, Repr

inductive Writer where
  | issuer
  | updater
  deriving DecidableEq, Repr

structure System (World : Type) where
  clock : Clock
  chain : State World
  issuer : IssuerState
  disk : Disk
  /-- the holder of the publish lock -/
  publication : Option Flight
  updaterRegistered : Bool
  /-- the tick that the updater is in -/
  tick : Option Flight
  /-- transactions whose sender no longer waits for them -/
  late : List (Writer × Transaction)

inductive Action (World : Type) where
  /-- a handler, from the write lock to its answer -/
  | request (saveFault : Bool) (request : Request)
  /-- the publish handler or the rotation task, with the publish lock -/
  | beginPublish
  | finishPublish (fault : Bool)
  | beginTick (fetched : Except Updater.UpdaterError (List String)) (rpcFault : Bool)
  | finishTick (fault : Bool)
  | land (writer : Writer)
  | landLate (index : Nat)
  | restartIssuer (loadFault probeFault : Bool)
  | restartUpdater (probeFault : Bool)
  | advance (clock : Clock)
  /-- any other transaction; nobody else signs for the authority -/
  | elsewhere (chain : State World)

variable (env : External Proof Address World) (config : Config)

/-- Two processes that have just started, the issuer without a file. -/
def System.start (issuerFault updaterFault : Bool) (clock : Clock) (chain : State World) :
    System World where
  clock
  chain
  issuer := startIssuer env config false issuerFault none chain
  disk := none
  publication := none
  updaterRegistered := probe env config updaterFault chain
  tick := none
  late := []

def System.flight (s : System World) : Writer → Option Flight
  | .issuer => s.publication
  | .updater => s.tick

def System.setFlight (s : System World) (flight : Option Flight) : Writer → System World
  | .issuer => { s with publication := flight }
  | .updater => { s with tick := flight }

/-- The transaction is executed, or the program rejects it. -/
def Flight.land (flight : Flight) (chain : State World) (clock : Clock) :
    Option (Flight × State World) :=
  match flight.phase with
  | .sent =>
    match flight.tx.execute env config chain clock with
    | .ok chain => some ({ flight with phase := .landed clock.slot }, chain)
    | .error e => some ({ flight with phase := .rejected e }, chain)
  | _ => none

/-- What still may land when the sender stops waiting. -/
def Flight.abandon (writer : Writer) : Option Flight → List (Writer × Transaction)
  | some ⟨tx, .sent⟩ => [(writer, tx)]
  | _ => []

/-- `send_and_confirm` returned: the slot, or nothing when it is an error. An answer
without an error waits for the transaction to land. -/
def Flight.answer (flight : Flight) (fault : Bool) : Except Unit (Option UInt64) :=
  match flight.phase, fault with
  | .sent, false => .error ()
  | .landed slot, false => .ok (some slot)
  | _, _ => .ok none

def step (s : System World) : Action World → Except Unit (System World)
  | .request saveFault request =>
    let (_, issuer, disk) := request.serve config.statePath saveFault s.issuer s.disk
    .ok { s with issuer, disk }
  | .beginPublish =>
    match s.publication with
    | some _ => .error ()
    | none => .ok { s with publication := s.issuer.snapshot.map (⟨·, .sent⟩) }
  | .finishPublish fault => do
    let flight ← okOr s.publication ()
    let answer ← flight.answer fault
    let issuer := match answer with
      | some slot => s.issuer.confirm slot flight.tx.register
      | none => s.issuer
    pure { s with
      issuer
      publication := none
      late := s.late ++ Flight.abandon .issuer s.publication }
  | .beginTick fetched rpcFault =>
    match s.tick with
    | some _ => .error ()
    | none =>
      match Updater.beginTick env config s.updaterRegistered rpcFault fetched s.chain with
      | .ok tx => .ok { s with tick := some ⟨tx, .sent⟩ }
      | .error _ => .ok s
  | .finishTick fault => do
    let flight ← okOr s.tick ()
    let answer ← flight.answer fault
    pure { s with
      updaterRegistered := if answer.isSome && flight.tx.register then true
        else s.updaterRegistered
      tick := none
      late := s.late ++ Flight.abandon .updater s.tick }
  | .land writer => do
    let flight ← okOr (s.flight writer) ()
    let (flight, chain) ← okOr (flight.land env config s.chain s.clock) ()
    pure ({ s with chain }.setFlight flight writer)
  | .landLate index => do
    let (_, tx) ← okOr s.late[index]? ()
    let chain := match tx.execute env config s.chain s.clock with
      | .ok chain => chain
      | .error _ => s.chain
    pure { s with chain, late := s.late.eraseIdx index }
  | .restartIssuer loadFault probeFault =>
    .ok { s with
      issuer := startIssuer env config loadFault probeFault s.disk s.chain
      publication := none
      late := s.late ++ Flight.abandon .issuer s.publication }
  | .restartUpdater probeFault =>
    .ok { s with
      updaterRegistered := probe env config probeFault s.chain
      tick := none
      late := s.late ++ Flight.abandon .updater s.tick }
  | .advance clock => do
    require (s.clock.slot ≤ clock.slot) ()
    pure { s with clock }
  | .elsewhere chain => do
    require
      (chain.accounts (issuerPda env config) = s.chain.accounts (issuerPda env config)) ()
    pure { s with chain }

/-- The state after any actions; an action that cannot happen is left out. -/
abbrev run : System World → List (Action World) → System World :=
  Transactional.run (step env config)

/-! ## Transactions that land -/

/-- The issuer account does not exist, or belongs to the authority and has three roots. -/
def SoundAccount (chain : State World) : Prop :=
  chain.accounts (issuerPda env config) = none ∨
    ∃ issuer, chain.accounts (issuerPda env config) = some (.issuer issuer) ∧
      issuer.authority = config.authority ∧ issuer.merkleRoot ≠ .zero ∧
      issuer.sanctionsRoot ≠ .zero ∧ issuer.jurisdictionRoot ≠ .zero

def Registered (chain : State World) : Prop :=
  ∃ issuer, chain.accounts (issuerPda env config) = some (.issuer issuer)

def Roots.Nonzero (roots : Roots) : Prop :=
  roots.merkle ≠ .zero ∧ roots.sanctions ≠ .zero ∧ roots.jurisdiction ≠ .zero

/-- The issuer account with the given roots. -/
def issuerOf (roots : Roots) (clock : Clock) : Issuer where
  authority := config.authority
  merkleRoot := roots.merkle
  sanctionsRoot := roots.sanctions
  jurisdictionRoot := roots.jurisdiction
  rootSlot := clock.slot

/-- When a transaction lands: its instruction fits the account, and no root is zero. -/
def Transaction.Lands (tx : Transaction) (chain : State World) : Prop :=
  (if tx.register then chain.accounts (issuerPda env config) = none
    else Registered env config chain) ∧ tx.roots.Nonzero

variable {env config}

theorem requireRoots_eq_ok {roots : Roots} {u : Unit} :
    requireRoots roots.merkle roots.sanctions roots.jurisdiction = .ok u ↔ roots.Nonzero := by
  simp [requireRoots, Roots.Nonzero]

theorem execute_eq_ok {tx : Transaction} {chain chain' : State World} {clock : Clock}
    (sound : SoundAccount env config chain) :
    tx.execute env config chain clock = .ok chain' ↔ tx.Lands env config chain ∧
      chain' = chain.setAccount (issuerPda env config)
        (some (.issuer (issuerOf config tx.roots clock))) := by
  cases kind : tx.register with
  | true =>
    simp only [Transaction.execute, Transaction.instruction, Transaction.Lands, kind, if_true,
      Program.step, registerHandler, RegisterIssuer.load, State.requireFree, bind_eq_ok,
      require_eq_ok, requireRoots_eq_ok, pure_eq_ok, issuerPda]
    constructor
    · rintro ⟨_, ⟨_, -, free⟩, _, nonzero, rfl⟩
      exact ⟨⟨free, nonzero⟩, rfl⟩
    · rintro ⟨⟨free, nonzero⟩, rfl⟩
      exact ⟨⟨⟩, ⟨⟨⟩, trivial, free⟩, ⟨⟩, nonzero, rfl⟩
  | false =>
    simp only [Transaction.execute, Transaction.instruction, Transaction.Lands, kind,
      Bool.false_eq_true, if_false, Program.step, updateHandler, UpdateIssuerRoot.load, checkIssuer,
      bind_eq_ok, require_eq_ok, requireRoots_eq_ok, State.issuer_eq_ok, pure_eq_ok, issuerPda]
    -- an update needs the account that a registration has made
    rcases sound with free | ⟨issuer, found, authority, -⟩
    · rw [issuerPda] at free
      simp [Registered, issuerPda, free]
    · rw [issuerPda] at found
      constructor
      · rintro ⟨_, ⟨_, present, _, -, rfl⟩, _, nonzero, rfl⟩
        cases found.symm.trans present
        refine ⟨⟨⟨_, found⟩, nonzero⟩, ?_⟩
        simp only [issuerOf, authority]
      · rintro ⟨⟨-, nonzero⟩, rfl⟩
        refine ⟨issuer, ⟨issuer, found, ⟨⟩, ⟨⟨⟩, trivial, authority⟩, rfl⟩, ⟨⟩, nonzero, ?_⟩
        simp only [issuerOf, authority]

end ZkSettle.Service
