import ZkSettle.Service.Attempts

/-!
# Confirmation

What the service has confirmed on the chain, beside its trees. A confirmation clears the
dirty flag for whatever the trees are by then, not for the roots that were sent; the flag
tells the truth as long as the trees stand still between the snapshot and the confirmation.
-/
namespace ZkSettle.Service

open Crypto Program Checks Transactional

variable {Proof Address World : Type} (env : External Proof Address World) (config : Config)

structure Confirmations where
  /-- the roots that the process has confirmed last -/
  confirmed : Option Roots
  /-- the roots that the process has started with -/
  started : Roots
  /-- the state that the last publication was decided on -/
  snapshot : IssuerState

def Confirmations.start (st : IssuerState) : Confirmations where
  confirmed := none
  started := st.rootsAsBytes
  snapshot := st

def Confirmations.note (notes : Confirmations) (s : System World) :
    Action World → Confirmations
  | .beginPublish => { notes with snapshot := s.issuer }
  | .finishPublish fault =>
    match s.publication with
    | some flight =>
      match flight.answer fault with
      | .ok (some _) => { notes with confirmed := some flight.tx.roots }
      | _ => notes
    | none => notes
  | .restartIssuer loadFault probeFault =>
    .start (startIssuer env config loadFault probeFault s.disk s.chain)
  | _ => notes

/-- The system with its confirmations. -/
abbrev follow : System World × Confirmations → Action World →
    Except Unit (System World × Confirmations) :=
  annotate (step env config) (Confirmations.note env config)

/-- The two processes when they start. -/
def following (issuerFault updaterFault : Bool) (clock : Clock) (chain : State World) :
    System World × Confirmations :=
  let s := System.start env config issuerFault updaterFault clock chain
  (s, .start s.issuer)

/-- Nothing was issued, added or revoked since the snapshot of what is confirmed. -/
def Undisturbed (annotated : System World × Confirmations) : Action World → Prop
  | .finishPublish fault => ∀ flight slot, annotated.1.publication = some flight →
      flight.answer fault = .ok (some slot) →
      annotated.1.issuer.membershipTree = annotated.2.snapshot.membershipTree ∧
        annotated.1.issuer.sanctionsTree = annotated.2.snapshot.sanctionsTree ∧
        annotated.1.issuer.jurisdictionTree = annotated.2.snapshot.jurisdictionTree
  | _ => True

/-- A clean state has the roots that were confirmed last, or has not changed. -/
def Confirmed (annotated : System World × Confirmations) : Prop :=
  annotated.1.issuer.rootsDirty = false →
    annotated.2.confirmed.getD annotated.2.started = annotated.1.issuer.rootsAsBytes

structure Followed (annotated : System World × Confirmations) : Prop where
  recorded : Recorded annotated.1
  sent : ∀ flight, annotated.1.publication = some flight →
    flight.tx.roots = annotated.2.snapshot.rootsAsBytes
  confirmed : Confirmed annotated

variable {env config}

theorem rootsAsBytes_of_trees {st st' : IssuerState}
    (membership : st.membershipTree = st'.membershipTree)
    (sanctions : st.sanctionsTree = st'.sanctionsTree)
    (jurisdiction : st.jurisdictionTree = st'.jurisdictionTree) :
    st.rootsAsBytes = st'.rootsAsBytes := by
  rw [IssuerState.rootsAsBytes, IssuerState.rootsAsBytes, membership, sanctions, jurisdiction]

/-- A request leaves the roots as they are, or the state dirty. -/
theorem Served.roots {statePath : Option String} {st : IssuerState} {disk : Disk}
    {records records' : List CredentialRecord} {reply : Reply Unit}
    (represents : Represents st records) (served : Served statePath st disk records reply records')
    (clean : reply.2.1.rootsDirty = false) :
    st.rootsDirty = false ∧ reply.2.1.rootsAsBytes = st.rootsAsBytes := by
  cases served with
  | refused represents' _ dirty =>
    exact ⟨dirty.symm.trans clean, represents.rootsAsBytes represents'⟩
  | added _ _ _ _ _ _ dirty => exact absurd (dirty.symm.trans clean) (by decide)
  | revoked _ _ _ _ _ dirty => exact absurd (dirty.symm.trans clean) (by decide)

theorem step_followed {annotated next : System World × Confirmations} {action : Action World}
    (followed : Followed annotated) (undisturbed : Undisturbed annotated action)
    (accepted : follow env config annotated action = .ok next) : Followed next := by
  obtain ⟨moved, noted⟩ := annotate_eq_ok.mp accepted
  obtain ⟨s, notes⟩ := annotated
  obtain ⟨s', notes'⟩ := next
  simp only at moved noted
  subst noted
  obtain ⟨recorded, sent, confirmed⟩ := followed
  have recorded' := step_recorded recorded moved
  -- most steps change neither the issuer, nor what is under way, nor the notes
  have kept : ∀ {s' : System World}, Recorded s' → s'.issuer = s.issuer →
      s'.publication = s.publication → Followed (s', notes) := by
    intro s' recorded' issuer publication
    refine ⟨recorded', ?_, ?_⟩
    · rw [publication]
      exact sent
    · rw [Confirmed, issuer]
      exact confirmed
  cases step_stepped moved with
  | request served =>
    obtain ⟨_, _, represents, outcome⟩ := recorded.served served
    refine ⟨recorded', sent, ?_⟩
    intro clean
    -- a state that is still clean has not changed its roots
    obtain ⟨before, roots⟩ := outcome.roots represents clean
    exact (confirmed before).trans roots.symm
  | skipped idle =>
    refine ⟨recorded', ?_, confirmed⟩
    intro flight under
    rw [idle] at under
    cases under
  | taken idle taken =>
    refine ⟨recorded', ?_, confirmed⟩
    rintro _ ⟨⟩
    rw [snapshot_eq_some taken]
    rfl
  | @confirmed tx slot under =>
    have noted : notes.note env config s (.finishPublish false) =
        { notes with confirmed := some tx.roots } := by
      rw [Confirmations.note, under]
      rfl
    rw [noted]
    refine ⟨recorded', by simp, ?_⟩
    intro _
    -- the trees have not moved since the snapshot, so the roots that landed are theirs
    obtain ⟨membership, sanctions, jurisdiction⟩ := undisturbed _ slot under rfl
    exact (sent _ under).trans (rootsAsBytes_of_trees membership sanctions jurisdiction).symm
  | @unconfirmed flight fault under answer =>
    have noted : notes.note env config s (.finishPublish fault) = notes := by
      rw [Confirmations.note, under]
      simp only [answer]
    rw [noted]
    -- without an answer the flag and the notes stay as they are
    exact ⟨recorded', by simp, confirmed⟩
  | @landed writer tx chain under =>
    cases writer with
    | issuer =>
      refine ⟨recorded', ?_, confirmed⟩
      rintro _ ⟨⟩
      exact sent ⟨tx, .sent⟩ under
    | updater => exact kept recorded' rfl rfl
  | @rejected writer tx e under =>
    cases writer with
    | issuer =>
      refine ⟨recorded', ?_, confirmed⟩
      rintro _ ⟨⟩
      exact sent ⟨tx, .sent⟩ under
    | updater => exact kept recorded' rfl rfl
  | restartIssuer => exact ⟨recorded', by simp, fun _ => rfl⟩
  | _ => exact kept recorded' rfl rfl

/-- In every run in which the trees stand still between a snapshot and its confirmation, a
service that is not dirty, registered or not, has the roots that it has confirmed last;
until it has confirmed any, those it has started with. A restart forgets what was confirmed:
the service then starts with the roots of the file that it loads. -/
theorem run_confirmed (issuerFault updaterFault : Bool) (clock : Clock) (chain : State World)
    (actions : List (Action World)) {reached : System World × Confirmations}
    (undisturbed : Meets (follow env config) Undisturbed
      (following env config issuerFault updaterFault clock chain) actions)
    (ends : Transactional.run (follow env config)
      (following env config issuerFault updaterFault clock chain) actions = reached)
    (clean : reached.1.issuer.rootsDirty = false) :
    reached.2.confirmed.getD reached.2.started = reached.1.issuer.rootsAsBytes := by
  have first : Followed (following env config issuerFault updaterFault clock chain) := by
    refine ⟨recorded_start issuerFault updaterFault clock chain, ?_, fun _ => rfl⟩
    rintro flight ⟨⟩
  have followed : Followed reached := by
    rw [← ends]
    apply run_invariant_of_meets _ _ actions undisturbed first
    intro annotated action next followed undisturbed accepted
    exact step_followed followed undisturbed accepted
  exact followed.confirmed clean

/-! ## A request between the snapshot and the confirmation -/

section Between

variable {s : System World} {tx : Transaction} {chain : State World}

theorem taken_step (idle : s.publication = none) (taken : s.issuer.snapshot = some tx)
    (notes : Confirmations) : follow env config (s, notes) .beginPublish =
        .ok ({ s with publication := some ⟨tx, .sent⟩ }, { notes with snapshot := s.issuer }) :=
  noted_step (.taken idle taken) rfl

theorem landed_step (executed : tx.execute env config s.chain s.clock = .ok chain)
    (notes : Confirmations) : follow env config
      ({ s with publication := some ⟨tx, .sent⟩ }, notes) (.land .issuer) =
        .ok ({ s with chain, publication := some ⟨tx, .landed s.clock.slot⟩ }, notes) :=
  noted_step (.landed rfl executed) rfl

theorem confirmed_step (idle : s.publication = none) (slot : UInt64) (notes : Confirmations) :
    follow env config
      ({ s with publication := some ⟨tx, .landed slot⟩ }, notes) (.finishPublish false) =
        .ok ({ s with issuer := s.issuer.confirm slot tx.register },
          { notes with confirmed := some tx.roots }) := by
  have ended : Stepped env config { s with publication := some ⟨tx, .landed slot⟩ }
      (.finishPublish false) { s with issuer := s.issuer.confirm slot tx.register } := by
    rw [idle]
    exact .confirmed rfl
  exact noted_step ended rfl

/-- The request is served, and the confirmation does not see it. -/
theorem run_disturbed (idle : s.publication = none) (taken : s.issuer.snapshot = some tx)
    (executed : tx.execute env config s.chain s.clock = .ok chain) {saveFault : Bool}
    {request : Request} {reply : Except ServiceError Unit} {issuer : IssuerState} {disk : Disk}
    (served : request.serve config.statePath saveFault s.issuer s.disk = (reply, issuer, disk))
    (notes : Confirmations) :
    Transactional.run (follow env config) (s, notes)
        [.beginPublish, .land .issuer, .request saveFault request, .finishPublish false] =
      ({ s with chain, issuer := issuer.confirm s.clock.slot tx.register, disk },
        { notes with snapshot := s.issuer, confirmed := some tx.roots }) := by
  have requested : Stepped env config
      { s with chain, publication := some ⟨tx, .landed s.clock.slot⟩ } (.request saveFault request)
      { s with chain, issuer, disk, publication := some ⟨tx, .landed s.clock.slot⟩ } :=
    .request served
  rw [run_cons_ok (taken_step idle taken notes), run_cons_ok (landed_step executed _),
    run_cons_ok (noted_step requested rfl)]
  exact run_cons_ok (confirmed_step (s := { s with chain, issuer, disk }) idle s.clock.slot _) []

/-- Without a request the confirmation is of the roots that were sent. -/
theorem run_undisturbed (idle : s.publication = none) (taken : s.issuer.snapshot = some tx)
    (executed : tx.execute env config s.chain s.clock = .ok chain) (notes : Confirmations) :
    Meets (follow env config) Undisturbed (s, notes)
        attempt ∧
      Transactional.run (follow env config) (s, notes)
          attempt =
        ({ s with chain, issuer := s.issuer.confirm s.clock.slot tx.register },
          { notes with snapshot := s.issuer, confirmed := some tx.roots }) := by
  rw [attempt, meets_cons_ok (taken_step idle taken notes), meets_cons_ok (landed_step executed _),
    run_cons_ok (taken_step idle taken notes), run_cons_ok (landed_step executed _)]
  constructor
  · refine ⟨trivial, trivial, ?_, trivial⟩
    intro _ _ flight slot _ _
    exact ⟨rfl, rfl, rfl⟩
  · exact run_cons_ok (confirmed_step (s := { s with chain }) idle s.clock.slot _) []

end Between

theorem run_confirmed_issued : ∃ reached : System Reference.Ledger × Confirmations,
    Transactional.run (follow reference (Sample.service none))
        (following reference (Sample.service none) false false (Sample.clock 0) (State.deployed []))
        (.request false Sample.issue :: attempt) = reached ∧
      reached.2.confirmed.getD reached.2.started = reached.1.issuer.rootsAsBytes := by
  have issued := Sample.stepped_issue none false false (State.deployed []) rfl
  have taken := Sample.snapshot_issued false
  have executed := Sample.execute_issued none
  have begun : follow reference (Sample.service none)
      (following reference (Sample.service none) false false (Sample.clock 0) (State.deployed []))
      (.request false Sample.issue) = .ok _ := noted_step issued rfl
  have ends := (run_cons_ok begun _).trans
    (run_undisturbed (by exact rfl) (by exact taken) (by exact executed) _).2
  have meets := (meets_cons_ok begun attempt).mpr ⟨trivial,
    (run_undisturbed (by exact rfl) (by exact taken) (by exact executed) _).1⟩
  exact ⟨_, ends, run_confirmed false false (Sample.clock 0) (State.deployed []) _ meets ends rfl⟩

/-- The wallet is revoked while its publication is confirmed: the revocation is left
unpublished by a service that is not dirty. -/
theorem not_run_confirmed : ¬ ∀ (Proof Address World : Type) (env : External Proof Address World)
    (config : Config) (issuerFault updaterFault : Bool) (clock : Clock) (chain : State World)
    (actions : List (Action World)) (reached : System World × Confirmations),
      SoundAccount env config chain →
      Transactional.run (follow env config)
        (following env config issuerFault updaterFault clock chain) actions = reached →
      reached.1.issuer.registered = true → reached.1.issuer.rootsDirty = false →
      reached.2.confirmed.getD reached.2.started = reached.1.issuer.rootsAsBytes := by
  intro always
  have account := Sample.soundAccount_deployed none
  -- issued, taken, landed, revoked, confirmed
  have issued := Sample.stepped_issue none false false (State.deployed []) rfl
  have taken := Sample.snapshot_issued false
  have executed := Sample.execute_issued none
  have served := serve_revoke none Sample.decode_one (Sample.represents_issued false)
    (AList.lookup_insert _) rfl none
  have same := always _ _ _ reference (Sample.service none) false false (Sample.clock 0)
    (State.deployed []) _ _ account ((run_cons_ok (noted_step issued rfl) _).trans
      (run_disturbed (by exact rfl) (by exact taken) (by exact executed) (by exact served) _))
    rfl rfl
  have merkle : frToBytesBe (MerkleTree.root ⟨[poseidon2Hash [1]]⟩) =
      frToBytesBe (MerkleTree.root ⟨[0]⟩) := congrArg Roots.merkle same
  rw [frToBytesBe_injective.eq_iff, MerkleTree.root_one, MerkleTree.root_zero] at merkle
  revert merkle
  decide

end ZkSettle.Service
