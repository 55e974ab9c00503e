import ZkSettle.Service.Attempts

/-!
# The two writers

A tick of the updater lands when its flag is set: what it registers with is rejected.
Then both writers send all three roots, the issuer service its own empty sanctions root,
the updater the merkle root that it has read some time before.
-/
namespace ZkSettle.Service

open Crypto Program Checks Transactional

variable {Proof Address World : Type} {env : External Proof Address World} {config : Config}

/-! ## Ticks that land -/

variable (env config) in
/-- The tick ends with its root on the chain, beside the other roots as they were. -/
def TickLands (s : System World) (wallets : List String) (root : Bytes32) : Prop :=
  ∃ roots, chainRoots env config (run env config s (tickOf wallets)).chain = some roots ∧
    roots.sanctions = root ∧ ∀ before, chainRoots env config s.chain = some before →
      roots.merkle = before.merkle ∧ roots.jurisdiction = before.jurisdiction

theorem tickLands_iff {s : System World} (sound : Sound env config s) (idle : s.tick = none)
    {wallets : List String} {tree : SparseMerkleTree} {root : Bytes32}
    (built : Updater.buildSanctionsTree wallets = .ok (tree, root)) (nonzero : root ≠ .zero) :
    TickLands env config s wallets root ↔ s.updaterRegistered = true ∨
      ∃ before, chainRoots env config s.chain = some before ∧ before.sanctions = root := by
  cases flag : s.updaterRegistered with
  | true =>
    -- the flag is right: the roots are read, and only one of them is replaced
    obtain ⟨issuer, found⟩ := sound.updaterFlag flag
    have present := chainRoots_eq_some.mpr ⟨issuer, found, rfl⟩
    have others := sound.account.nonzero present
    have begun := beginTick_registered present built
    rw [← flag] at begun
    have lands := run_tick_lands sound.account idle begun
      ⟨sound.updaterFlag flag, others.1, nonzero, others.2.2⟩
    refine iff_of_true ?_ (Or.inl rfl)
    rw [TickLands, lands]
    refine ⟨_, chainRoots_setAccount, rfl, ?_⟩
    intro before read
    cases present.symm.trans read
    exact ⟨rfl, rfl⟩
  | false =>
    have begun : Updater.beginTick env config s.updaterRegistered false (.ok wallets) s.chain =
        .ok { register := true, roots := ⟨.zero, root, .zero⟩ } := by
      rw [flag]
      exact beginTick_unregistered s.chain built
    -- a registration without a merkle root is rejected, whether the account exists or not
    have unchanged := run_tick_rejected sound.account idle begun fun lands => lands.2.1 rfl
    rw [TickLands, unchanged]
    constructor
    · rintro ⟨roots, present, own, -⟩
      exact Or.inr ⟨roots, present, own⟩
    · rintro (flag | ⟨roots, present, own⟩)
      · cases flag
      · refine ⟨roots, present, own, ?_⟩
        intro before read
        cases present.symm.trans read
        exact ⟨rfl, rfl⟩

variable (env config) in
/-- Whenever the updater starts it finds the account. -/
def FindsAccount (s : System World) : Action World → Prop
  | .restartUpdater probeFault => probe env config probeFault s.chain = true
  | _ => True

def KnowsAccount (s : System World) : Prop := s.updaterRegistered = true

theorem step_knowsAccount {s s' : System World} {action : Action World} (knows : KnowsAccount s)
    (finds : FindsAccount env config s action) (accepted : step env config s action = .ok s') :
    KnowsAccount s' := by
  cases step_stepped accepted with
  | @ticked tx slot under =>
    rw [KnowsAccount] at knows
    rw [KnowsAccount, knows, Bool.or_true]
  | @landed writer => cases writer <;> exact knows
  | @rejected writer => cases writer <;> exact knows
  | restartUpdater => exact finds
  | _ => exact knows

theorem run_knowsAccount {s : System World} (knows : KnowsAccount s)
    (actions : List (Action World))
    (finds : Meets (step env config) (FindsAccount env config) s actions) :
    KnowsAccount (run env config s actions) := by
  apply run_invariant_of_meets _ s actions finds knows
  intro state action next knows finds accepted
  exact step_knowsAccount knows finds accepted

/-- In every reachable state a tick lands exactly when the flag of the updater is set, or
when its root is on the chain already. The flag is set after every run in which the updater
finds the account whenever it starts. -/
theorem run_tickLands (issuerFault updaterFault : Bool) (clock : Clock) {chain : State World}
    (account : SoundAccount env config chain) (actions : List (Action World)) {s : System World}
    (reached : s =
      run env config (System.start env config issuerFault updaterFault clock chain) actions)
    (idle : s.tick = none) {wallets : List String} {tree : SparseMerkleTree} {root : Bytes32}
    (built : Updater.buildSanctionsTree wallets = .ok (tree, root)) (nonzero : root ≠ .zero) :
    (TickLands env config s wallets root ↔ s.updaterRegistered = true ∨
        ∃ before, chainRoots env config s.chain = some before ∧ before.sanctions = root) ∧
      (probe env config updaterFault chain = true →
        Meets (step env config) (FindsAccount env config)
          (System.start env config issuerFault updaterFault clock chain) actions →
        TickLands env config s wallets root) := by
  have started := sound_start account issuerFault updaterFault clock
  have sound : Sound env config s := reached ▸ run_sound started actions
  have exactly := tickLands_iff sound idle built nonzero
  refine ⟨exactly, ?_⟩
  intro probed finds
  have first : KnowsAccount (System.start env config issuerFault updaterFault clock chain) :=
    probed
  have knows : KnowsAccount s := reached ▸ run_knowsAccount first actions finds
  exact exactly.mpr (Or.inl knows)

theorem run_tickLands_registered : TickLands reference (Sample.service none)
    (System.start reference (Sample.service none) false false (Sample.clock 0)
      (Sample.registered none)) [] IssuerState.new.rootsAsBytes.sanctions := by
  have account := Sample.soundAccount_registered none
  exact (run_tickLands false false (Sample.clock 0) account [] rfl rfl rfl roots_new.1).2
    (Sample.probe_registered none) trivial

/-- Nobody has registered: the updater registers without a merkle root, and is rejected. -/
theorem not_run_tickLands : ¬ ∀ (Proof Address World : Type) (env : External Proof Address World)
    (config : Config) (issuerFault updaterFault : Bool) (clock : Clock) (chain : State World)
    (actions : List (Action World)) (s : System World) (wallets : List String)
    (tree : SparseMerkleTree) (root : Bytes32), SoundAccount env config chain →
      s = run env config (System.start env config issuerFault updaterFault clock chain) actions →
      s.tick = none → Updater.buildSanctionsTree wallets = .ok (tree, root) → root ≠ .zero →
      TickLands env config s wallets root := by
  intro always
  have account := Sample.soundAccount_deployed none
  have sound := sound_start account false false (Sample.clock 0)
  have lands := always _ _ _ reference (Sample.service none) false false (Sample.clock 0) _ [] _
    [] .new IssuerState.new.rootsAsBytes.sanctions account rfl rfl rfl roots_new.1
  rw [run, run_nil, tickLands_iff sound rfl rfl roots_new.1] at lands
  rcases lands with flag | ⟨before, found, -⟩
  · cases flag
  · cases found

/-! ## What each has landed last -/

/-- The roots that the two writers have landed last, each its own. -/
structure Landings where
  published : Option Bytes32
  computed : Option Bytes32

/-- The transaction that an action brings to the chain. -/
def arriving (s : System World) : Action World → Option (Writer × Transaction)
  | .land writer => (s.flight writer).map fun flight => (writer, flight.tx)
  | .landLate index => s.late[index]?
  | _ => none

variable (env config) in
/-- It, when the program accepts it. -/
def landing (s : System World) (action : Action World) : Option (Writer × Transaction) :=
  (arriving s action).filter fun sent => (sent.2.execute env config s.chain s.clock).isOk

def Landings.add (landings : Landings) (tx : Transaction) : Writer → Landings
  | .issuer => { landings with published := some tx.roots.merkle }
  | .updater => { landings with computed := some tx.roots.sanctions }

variable (env config) in
def Landings.note (landings : Landings) (s : System World) (action : Action World) : Landings :=
  match landing env config s action with
  | some (writer, tx) => landings.add tx writer
  | none => landings

variable (env config) in
/-- The account has the merkle root of the one writer and the sanctions root of the other. -/
def Apart (annotated : System World × Landings) : Prop :=
  ∀ roots, chainRoots env config annotated.1.chain = some roots →
    (∀ root, annotated.2.published = some root → roots.merkle = root) ∧
      (∀ root, annotated.2.computed = some root → roots.sanctions = root)

variable (env config) in
/-- A publication lands over no sanctions root but that of the empty list; a tick lands with
the merkle root that was published last. -/
def Yields (annotated : System World × Landings) (action : Action World) : Prop :=
  ∀ writer tx, landing env config annotated.1 action = some (writer, tx) →
    match writer with
    | .issuer => ∀ root, annotated.2.computed = some root →
        root = frToBytesBe SparseMerkleTree.new.root
    | .updater => ∀ root, annotated.2.published = some root → tx.roots.merkle = root

theorem landing_eq_some {s : System World} {action : Action World} {writer : Writer}
    {tx : Transaction} {chain : State World} (arrives : arriving s action = some (writer, tx))
    (executed : tx.execute env config s.chain s.clock = .ok chain) :
    landing env config s action = some (writer, tx) := by
  rw [landing, arrives, Option.filter_some, executed]
  rfl

theorem landing_eq_none {s : System World} {action : Action World} {writer : Writer}
    {tx : Transaction} {e : Error} (arrives : arriving s action = some (writer, tx))
    (executed : tx.execute env config s.chain s.clock = .error e) :
    landing env config s action = none := by
  rw [landing, arrives, Option.filter_some, executed]
  rfl

/-- A step writes the roots of the transaction that lands, or leaves the roots. -/
theorem step_landing {s s' : System World} {action : Action World} (sound : Sound env config s)
    (accepted : step env config s action = .ok s') :
    (∃ writer tx, landing env config s action = some (writer, tx) ∧
        SoundTransaction env config s.chain writer tx ∧
        chainRoots env config s'.chain = some tx.roots) ∨
      (landing env config s action = none ∧
        chainRoots env config s'.chain = chainRoots env config s.chain) := by
  have written : ∀ {tx : Transaction} {chain : State World},
      tx.execute env config s.chain s.clock = .ok chain →
        chainRoots env config chain = some tx.roots := by
    intro tx chain executed
    obtain ⟨-, rfl⟩ := (execute_eq_ok sound.account).mp executed
    exact chainRoots_setAccount
  -- only what is executed on the chain changes its roots, in time or late
  cases step_stepped accepted with
  | @landed writer tx chain under executed =>
    have arrives : arriving s (.land writer) = some (writer, tx) := by rw [arriving, under]; rfl
    refine Or.inl ⟨writer, tx, landing_eq_some arrives executed,
      (sound.flights writer _ under).transaction, ?_⟩
    cases writer <;> exact written executed
  | @rejected writer tx e under executed =>
    have arrives : arriving s (.land writer) = some (writer, tx) := by rw [arriving, under]; rfl
    refine Or.inr ⟨landing_eq_none arrives executed, ?_⟩
    cases writer <;> rfl
  | @landedLate index writer tx chain waiting executed =>
    exact Or.inl ⟨writer, tx, landing_eq_some waiting executed,
      sound.late writer tx (List.mem_of_getElem? waiting), written executed⟩
  | rejectedLate waiting executed => exact Or.inr ⟨landing_eq_none waiting executed, rfl⟩
  | elsewhere same =>
    refine Or.inr ⟨rfl, ?_⟩
    rw [chainRoots, chainRoots, same]
  | _ => exact Or.inr ⟨rfl, rfl⟩

structure SoundApart (env : External Proof Address World) (config : Config)
    (annotated : System World × Landings) : Prop where
  sound : Sound env config annotated.1
  apart : Apart env config annotated

theorem step_apart_iff {annotated next : System World × Landings} {action : Action World}
    (before : SoundApart env config annotated)
    (accepted : annotate (step env config) (Landings.note env config) annotated action =
      .ok next) : Apart env config next ↔ Yields env config annotated action := by
  obtain ⟨moved, noted⟩ := annotate_eq_ok.mp accepted
  obtain ⟨writer, tx, lands, sent, roots⟩ | ⟨lands, roots⟩ := step_landing before.sound moved
  · have notes : next.2 = annotated.2.add tx writer := by rw [noted, Landings.note, lands]
    rw [Apart, Yields, roots, notes, lands]
    cases writer with
    | issuer =>
      -- the service always sends the root of its own empty sanctions tree
      have empty : tx.roots.sanctions = frToBytesBe SparseMerkleTree.new.root :=
        (sent.issuer rfl).1
      constructor
      · rintro apart _ _ ⟨⟩ root computed
        rw [← empty]
        exact ((apart tx.roots rfl).2 root computed).symm
      · rintro yields _ ⟨⟩
        refine ⟨fun root published => Option.some.inj published, fun root computed => ?_⟩
        rw [empty]
        exact (yields .issuer tx rfl root computed).symm
    | updater =>
      -- the updater sends back the merkle root that it has read
      constructor
      · rintro apart _ _ ⟨⟩ root published
        exact (apart tx.roots rfl).1 root published
      · rintro yields _ ⟨⟩
        exact ⟨yields .updater tx rfl, fun root computed => Option.some.inj computed⟩
  -- nothing lands, and neither the roots nor the notes change
  · have notes : next.2 = annotated.2 := by rw [noted, Landings.note, lands]
    rw [Apart, Yields, roots, notes, lands]
    exact iff_of_true before.apart (by simp)

/-- After every step of a run the account has the roots that each writer has landed last,
exactly when every transaction that lands leaves the other's root as it is. -/
theorem run_apart (issuerFault updaterFault : Bool) (clock : Clock) {chain : State World}
    (account : SoundAccount env config chain) (actions : List (Action World)) :
    Attains (annotate (step env config) (Landings.note env config)) (Apart env config)
        (System.start env config issuerFault updaterFault clock chain, ⟨none, none⟩) actions ↔
      Meets (annotate (step env config) (Landings.note env config)) (Yields env config)
        (System.start env config issuerFault updaterFault clock chain, ⟨none, none⟩) actions := by
  have started : SoundApart env config
      (System.start env config issuerFault updaterFault clock chain, ⟨none, none⟩) :=
    ⟨sound_start account issuerFault updaterFault clock, by simp [Apart]⟩
  apply attains_iff_meets _ _ _ actions started
  · intro annotated action next before accepted apart
    obtain ⟨moved, -⟩ := annotate_eq_ok.mp accepted
    exact ⟨step_sound before.sound moved, apart⟩
  · intro annotated action next before accepted
    exact step_apart_iff before accepted

theorem note_landing {s : System World} {action : Action World} {writer : Writer}
    {tx : Transaction} {chain : State World} (arrives : arriving s action = some (writer, tx))
    (executed : tx.execute env config s.chain s.clock = .ok chain) (landings : Landings) :
    landings.note env config s action = landings.add tx writer := by
  rw [Landings.note, landing_eq_some arrives executed]

theorem note_elsewhere {s : System World} {action : Action World}
    (elsewhere : arriving s action = none) (landings : Landings) :
    landings.note env config s action = landings := by
  rw [Landings.note, landing, elsewhere]
  rfl

theorem yields_issuer {annotated : System World × Landings}
    (alone : annotated.2.computed = none) : Yields env config annotated (.land .issuer) := by
  intro writer tx lands
  obtain ⟨arrives, -⟩ := Option.filter_eq_some_iff.mp lands
  rw [arriving] at arrives
  obtain ⟨flight, -, sent⟩ := Option.map_eq_some_iff.mp arrives
  cases sent
  rintro root computed
  rw [alone] at computed
  cases computed

theorem yields_updater {annotated : System World × Landings} {flight : Flight}
    (held : annotated.1.tick = some flight)
    (same : ∀ root, annotated.2.published = some root → flight.tx.roots.merkle = root) :
    Yields env config annotated (.land .updater) := by
  intro writer tx lands
  obtain ⟨arrives, -⟩ := Option.filter_eq_some_iff.mp lands
  have held : annotated.1.flight .updater = some flight := held
  rw [arriving, held] at arrives
  cases arrives
  exact same

/-- The issuer publishes, and a tick that is begun then lands with the root that it has read. -/
theorem meets_attempt_tick {s : System World} (sound : Sound env config s)
    (idle : s.publication = none) (waiting : s.tick = none)
    (flag : s.updaterRegistered = true) {tx : Transaction} (taken : s.issuer.snapshot = some tx)
    (lands : tx.Lands env config s.chain) {landings : Landings}
    (alone : landings.computed = none) :
    Meets (annotate (step env config) (Landings.note env config)) (Yields env config)
      (s, landings) (attempt ++ tickOf []) := by
  have published : tx.execute env config s.chain s.clock = .ok _ :=
    (execute_eq_ok sound.account).mpr ⟨lands, rfl⟩
  have read : chainRoots env config (s.chain.setAccount (issuerPda env config)
      (some (.issuer (issuerOf config tx.roots s.clock)))) = some tx.roots := chainRoots_setAccount
  have begun := beginTick_registered read
    (rfl : Updater.buildSanctionsTree [] = .ok (.new, IssuerState.new.rootsAsBytes.sanctions))
  rw [← flag] at begun
  rw [attempt, tickOf, List.cons_append, List.cons_append, List.cons_append, List.nil_append]
  refine Meets.cons (noted_step (.taken idle taken) (note_elsewhere rfl _)) ?_ ?_
  · rintro writer tx ⟨⟩
  refine Meets.cons (noted_step (.landed rfl published) (note_landing rfl (by exact published) _))
    (yields_issuer alone) ?_
  refine Meets.cons (noted_step (.confirmed rfl) (note_elsewhere rfl _)) ?_ ?_
  · rintro writer tx ⟨⟩
  refine Meets.cons (noted_step (.prepared waiting begun) (note_elsewhere rfl _)) ?_ ?_
  · rintro writer tx ⟨⟩
  refine ⟨fun _ _ => yields_updater rfl fun root noted => Option.some.inj noted, ?_, trivial⟩
  rintro next accepted writer tx ⟨⟩

/-- The issuer publishes a credential, and then a tick lands over its root. -/
theorem run_apart_published : Attains
    (annotate (step reference (Sample.service none))
      (Landings.note reference (Sample.service none)))
    (Apart reference (Sample.service none))
    (System.start reference (Sample.service none) false false (Sample.clock 0)
      (Sample.registered none), ⟨none, none⟩)
    (.request false Sample.issue :: (attempt ++ tickOf [])) := by
  have account := Sample.soundAccount_registered none
  have known := Sample.probe_registered none
  have issued := Sample.stepped_issue none false false (Sample.registered none) rfl
  rw [known] at issued
  have sound := step_sound (sound_start account false false (Sample.clock 0)) issued.accepted
  have taken := Sample.snapshot_issued true
  apply (run_apart false false (Sample.clock 0) account _).mpr
  rw [meets_cons_ok (noted_step issued rfl)]
  refine ⟨?_, meets_attempt_tick sound rfl rfl known taken
    ⟨registered_setAccount, Sample.issued_nonzero true⟩ rfl⟩
  rintro writer tx ⟨⟩

/-- A tick reads the roots, the issuer publishes, the tick puts the old merkle root back. -/
theorem not_attains_stale {s : System World} (sound : Sound env config s)
    (idle : s.publication = none) (waiting : s.tick = none)
    (flag : s.updaterRegistered = true) {tx : Transaction} (taken : s.issuer.snapshot = some tx)
    (lands : tx.Lands env config s.chain) {before : Roots}
    (read : chainRoots env config s.chain = some before)
    (differs : tx.roots.merkle ≠ before.merkle) (landings : Landings) :
    ¬ Attains (annotate (step env config) (Landings.note env config)) (Apart env config)
      (s, landings) [.beginTick (.ok []) false, .beginPublish, .land .issuer,
        .finishPublish false, .land .updater] := by
  intro attains
  have others := sound.account.nonzero read
  have begun := beginTick_registered read
    (rfl : Updater.buildSanctionsTree [] = .ok (.new, IssuerState.new.rootsAsBytes.sanctions))
  rw [← flag] at begun
  have prepared : Stepped env config s (.beginTick (.ok []) false) _ := .prepared waiting begun
  obtain ⟨-, attains⟩ := attains.cons (noted_step prepared rfl)
  obtain ⟨-, attains⟩ := attains.cons (noted_step (.taken idle taken) rfl)
  have published : tx.execute env config s.chain s.clock = .ok _ :=
    (execute_eq_ok sound.account).mpr ⟨lands, rfl⟩
  obtain ⟨-, attains⟩ := attains.cons (noted_step (.landed rfl published)
    (note_landing rfl (by exact published) _))
  obtain ⟨-, attains⟩ := attains.cons (noted_step (.confirmed rfl) rfl)
  have nonzero :
      Roots.Nonzero { before with sanctions := IssuerState.new.rootsAsBytes.sanctions } :=
    ⟨others.1, roots_new.1, others.2.2⟩
  -- the tick was begun before the publication landed, and puts the old root back
  have written : SoundAccount env config (s.chain.setAccount (issuerPda env config)
      (some (.issuer (issuerOf config tx.roots s.clock)))) := soundAccount_setAccount _ lands.2
  have restored := execute_update written registered_setAccount nonzero s.clock
  obtain ⟨apart, -⟩ := attains.cons (noted_step (.landed rfl restored)
    (note_landing rfl (by exact restored) _))
  exact differs ((apart _ chainRoots_setAccount).1 _ rfl).symm

/-- A tick reads the roots, the issuer publishes, the tick puts the old merkle root back. -/
theorem not_run_apart : ¬ Attains
    (annotate (step reference (Sample.service none))
      (Landings.note reference (Sample.service none)))
    (Apart reference (Sample.service none))
    (System.start reference (Sample.service none) false false (Sample.clock 0)
      (Sample.registered none), ⟨none, none⟩)
    [.request false Sample.issue, .beginTick (.ok []) false, .beginPublish, .land .issuer,
      .finishPublish false, .land .updater] := by
  intro attains
  have account := Sample.soundAccount_registered none
  have known := Sample.probe_registered none
  have issued := Sample.stepped_issue none false false (Sample.registered none) rfl
  rw [known] at issued
  obtain ⟨-, attains⟩ := attains.cons (noted_step issued rfl)
  have sound := step_sound (sound_start account false false (Sample.clock 0)) issued.accepted
  have taken := Sample.snapshot_issued true
  exact not_attains_stale sound rfl rfl known taken
    ⟨registered_setAccount, Sample.issued_nonzero true⟩ chainRoots_setAccount
    (Sample.issued_merkle true) _ attains

end ZkSettle.Service
