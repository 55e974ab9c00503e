import ZkSettle.Service.Attempts

/-!
# Rotation

The rotation task publishes when a credential has changed. The program refuses to settle
with roots older than `MAX_ROOT_AGE_SLOTS`, however valid they are. A tick leaves fresh
roots when it has something to publish, or when the roots on the chain are still fresh.
-/
namespace ZkSettle.Service

open Crypto Program Checks Transactional

variable {Proof Address World : Type} (env : External Proof Address World) (config : Config)

/-- The roots of the issuer are not refused for their age. -/
def Fresh (s : System World) : Prop :=
  ∃ issuer, s.chain.accounts (issuerPda env config) = some (.issuer issuer) ∧
    s.clock.slot.toNat - issuer.rootSlot.toNat ≤ MAX_ROOT_AGE_SLOTS

/-- What happens between two ticks, and the second tick, when it gets the publish lock. -/
def rotate (s : System World) (between : List (Action World)) : Except Unit (System World) := do
  let s := run env config s between
  require (s.publication = none) ()
  pure (run env config s attempt)

/-- The tick has roots to publish and the flag to publish them with, or finds fresh ones. -/
def Refreshes (s : System World) (between : List (Action World)) : Prop :=
  let s := run env config s between
  (s.issuer.rootsDirty = true ∧ s.issuer.registered = true ∧
    s.issuer.rootsAsBytes.merkle ≠ .zero) ∨ Fresh env config s

variable {env config}

theorem rotate_eq_ok {s s' : System World} {between : List (Action World)} :
    rotate env config s between = .ok s' ↔
      (run env config s between).publication = none ∧
        run env config (run env config s between) attempt = s' := by
  simp only [rotate, bind_eq_ok, require_eq_ok, pure_eq_ok, exists_const]

/-- Roots published in this slot are fresh. -/
theorem fresh_setAccount (s : System World) (roots : Roots) (issuer : IssuerState) :
    Fresh env config
      { s with
        chain := s.chain.setAccount (issuerPda env config)
          (some (.issuer (issuerOf config roots s.clock)))
        issuer } := by
  refine ⟨issuerOf config roots s.clock, by simp, ?_⟩
  simp [issuerOf]

theorem fresh_attempt_iff {s : System World} (enrolled : Enrolled env config s)
    (idle : s.publication = none) :
    Fresh env config (run env config s attempt) ↔
      (s.issuer.rootsDirty = true ∧ s.issuer.registered = true ∧
        s.issuer.rootsAsBytes.merkle ≠ .zero) ∨ Fresh env config s := by
  obtain ⟨sound, registered⟩ := enrolled
  obtain ⟨records, represents⟩ := sound.represented
  cases taken : s.issuer.snapshot with
  | none =>
    -- nothing is published, and the roots on the chain stay as old as they are
    obtain ⟨clean, -⟩ := snapshot_eq_none.mp taken
    rw [run_attempt_skipped idle taken, clean]
    simp
  | some tx =>
    have sent := snapshot_eq_some taken
    have fits : tx.Lands env config s.chain ↔
        s.issuer.registered = true ∧ s.issuer.rootsAsBytes.merkle ≠ .zero := by
      rw [sent, lands_iff sound.account, represents.nonzero, iff_true_right registered]
    by_cases lands : tx.Lands env config s.chain
    · rw [run_attempt_lands sound.account idle taken lands]
      refine iff_of_true (fresh_setAccount s tx.roots _) (Or.inl ⟨?_, fits.mp lands⟩)
      -- with the flag set only dirty roots are sent
      by_contra clean
      have nothing := snapshot_eq_none.mpr ⟨by simpa using clean, (fits.mp lands).1⟩
      rw [nothing] at taken
      cases taken
    · rw [run_attempt_rejected sound.account idle taken lands]
      refine (or_iff_right ?_).symm
      rintro ⟨-, sends⟩
      exact lands (fits.mpr sends)

theorem rotate_enrolled {s s' : System World} {between : List (Action World)}
    (enrolled : Enrolled env config s) (accepted : rotate env config s between = .ok s') :
    Enrolled env config s' := by
  obtain ⟨-, rfl⟩ := rotate_eq_ok.mp accepted
  exact run_enrolled (run_enrolled enrolled between) attempt

/-- A run with a registered issuer has fresh roots after every tick exactly when every tick
publishes, or finds roots on the chain that are still fresh. -/
theorem run_fresh (issuerFault updaterFault : Bool) (clock : Clock) {chain : State World}
    (account : SoundAccount env config chain) (registered : Registered env config chain)
    (rounds : List (List (Action World))) :
    Attains (rotate env config) (Fresh env config)
        (System.start env config issuerFault updaterFault clock chain) rounds ↔
      Meets (rotate env config) (Refreshes env config)
        (System.start env config issuerFault updaterFault clock chain) rounds := by
  have started : Enrolled env config
      (System.start env config issuerFault updaterFault clock chain) :=
    ⟨sound_start account issuerFault updaterFault clock, registered⟩
  apply attains_iff_meets _ _ _ rounds started
  · intro s between s' enrolled accepted _
    exact rotate_enrolled enrolled accepted
  · intro s between s' enrolled accepted
    obtain ⟨idle, rfl⟩ := rotate_eq_ok.mp accepted
    exact fresh_attempt_iff (run_enrolled enrolled between) idle

/-- A credential was issued before the tick, long after the last publication. -/
theorem run_fresh_issued : Attains (rotate reference (Sample.service none))
    (Fresh reference (Sample.service none))
    (System.start reference (Sample.service none) false false (Sample.clock 0)
      (Sample.registered none))
    [[.request false Sample.issue, .advance (Sample.clock 864000)]] := by
  have account := Sample.soundAccount_registered none
  have issued := Sample.stepped_issue none false false (Sample.registered none) rfl
  apply (run_fresh false false (Sample.clock 0) account registered_setAccount _).mpr
  refine ⟨fun _ _ => Or.inl ?_, trivial⟩
  rw [Sample.probe_registered] at issued
  rw [issued.run, (Stepped.advance (by decide)).run]
  exact ⟨rfl, rfl, (Sample.issued_nonzero true).1⟩

/-- A tick that finds nothing changed lets the time pass. -/
theorem rotate_quiet {s : System World} (idle : s.publication = none)
    (nothing : s.issuer.snapshot = none) {clock : Clock} (later : s.clock.slot ≤ clock.slot) :
    rotate env config s [.advance clock] = .ok { s with clock } := by
  have advanced : run env config s [.advance clock] = { s with clock } := by
    rw [(Stepped.advance later).run, run, run_nil]
  rw [rotate_eq_ok, advanced]
  exact ⟨idle, run_attempt_skipped idle nothing⟩

/-- Ticks `MAX_ROOT_AGE_SLOTS` apart, and no credential: the second leaves stale roots. -/
theorem not_run_fresh : ¬ Attains (rotate reference (Sample.service none))
    (Fresh reference (Sample.service none))
    (System.start reference (Sample.service none) false false (Sample.clock 0)
      (Sample.registered none))
    [[.advance (Sample.clock 432000)], [.advance (Sample.clock 864000)]] := by
  have nothing : (System.start reference (Sample.service none) false false (Sample.clock 0)
      (Sample.registered none)).issuer.snapshot = none := by
    rw [System.start, startIssuer_fresh, Sample.probe_registered]
    rfl
  rintro ⟨-, attained, -⟩
  rw [commit_ok (rotate_quiet rfl nothing (by decide))] at attained
  obtain ⟨issuer, found, young⟩ := attained _ (rotate_quiet rfl nothing (by decide))
  have written : issuer = issuerOf (Sample.service none) ⟨Sample.one, Sample.one, Sample.one⟩
      (Sample.clock 0) := by
    simpa [System.start, Sample.registered] using found.symm
  rw [written] at young
  revert young
  decide

end ZkSettle.Service
