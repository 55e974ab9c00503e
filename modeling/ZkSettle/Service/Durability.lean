import ZkSettle.Service.Attempts

/-!
# Durability

What the service has acknowledged, and what its file holds. A process that reads its file
has every record of the file in memory, so that the next save keeps them all. A process
that cannot read it starts without a record, and its first save overwrites the file.
-/
namespace ZkSettle.Service

open Crypto Program Checks Transactional

variable {Proof Address World : Type} (env : External Proof Address World) (config : Config)

/-! ## Records that are kept -/

/-- The record as it was, or revoked since. -/
def Keeps (record stored : CredentialRecord) : Prop :=
  stored = record ∨ stored = { record with revoked := true }

theorem Keeps.refl (record : CredentialRecord) : Keeps record record := Or.inl rfl

theorem Keeps.trans {a b c : CredentialRecord} (first : Keeps a b) (second : Keeps b c) :
    Keeps a c := by
  rcases first with rfl | rfl
  · exact second
  · rcases second with rfl | rfl
    · exact Or.inr rfl
    · exact Or.inr rfl

/-- Every record of the one list is kept in the other. -/
def Included (records stored : List CredentialRecord) : Prop :=
  ∀ record ∈ records, ∃ record' ∈ stored, Keeps record record'

theorem Included.refl (records : List CredentialRecord) : Included records records :=
  fun record member => ⟨record, member, .refl record⟩

theorem Included.trans {a b c : List CredentialRecord} (first : Included a b)
    (second : Included b c) : Included a c := by
  intro record member
  obtain ⟨between, present, keeps⟩ := first record member
  obtain ⟨last, stored, keeps'⟩ := second between present
  exact ⟨last, stored, keeps.trans keeps'⟩

theorem included_set {records : List CredentialRecord} {i : Nat} {record : CredentialRecord}
    (found : records[i]? = some record) :
    Included records (records.set i { record with revoked := true }) := by
  intro other member
  rcases Slots.mem_set_or_eq found member { record with revoked := true } with rfl | stays
  · exact ⟨_, Slots.mem_set_self found _, Or.inr rfl⟩
  · exact ⟨other, stays, .refl other⟩

/-- A request adds a record or revokes one; none is lost. -/
theorem Served.included {statePath : Option String} {st : IssuerState} {disk : Disk}
    {records records' : List CredentialRecord} {reply : Reply Unit}
    (served : Served statePath st disk records reply records') : Included records records' := by
  cases served with
  | refused => exact .refl records
  | added =>
    intro record member
    exact ⟨record, List.mem_append_left _ member, .refl record⟩
  | revoked record found => exact included_set found

/-- What a save would write holds what it would have written before. -/
theorem Served.persisted_included {statePath : Option String} {st : IssuerState} {disk : Disk}
    {records records' : List CredentialRecord} {reply : Reply Unit}
    (represents : Represents st records)
    (served : Served statePath st disk records reply records') :
    Included st.persisted.credentials reply.2.1.persisted.credentials := by
  rw [represents.persisted, served.represents.persisted]
  exact served.included

/-! ## Acknowledgements -/

def Request.wallet : Request → String
  | .issue _ req => req.wallet
  | .add _ wallet => wallet
  | .revoke wallet => wallet

structure Receipts where
  /-- the records as they were when a request for them succeeded -/
  acknowledged : List CredentialRecord
  /-- the process could not read the file that was there when it started -/
  unread : Bool

def Receipts.note (receipts : Receipts) (s : System World) : Action World → Receipts
  | .request saveFault request =>
    match request.serve config.statePath saveFault s.issuer s.disk,
      walletHexToBytes request.wallet with
    | (.ok _, issuer, _), .ok wallet =>
      { receipts with
        acknowledged := (issuer.credentials.lookup wallet).toList ++ receipts.acknowledged }
    | _, _ => receipts
  | .restartIssuer loadFault _ => { receipts with unread := loadFault && s.disk.isSome }
  | _ => receipts

/-- The system with its receipts. -/
abbrev receipting : System World × Receipts → Action World →
    Except Unit (System World × Receipts) :=
  annotate (step env config) (Receipts.note config)

/-- The two processes when they start; nothing is acknowledged yet. -/
def unacknowledged (issuerFault updaterFault : Bool) (clock : Clock) (chain : State World) :
    System World × Receipts :=
  (System.start env config issuerFault updaterFault clock chain, ⟨[], false⟩)

/-- The request is one that the handler carries out. -/
def Request.Changes (st : IssuerState) : Request → Prop
  | .issue _ req => ∃ wallet, walletHexToBytes req.wallet = .ok wallet ∧ wallet ∉ st.credentials
  | .add _ text => ∃ wallet, walletHexToBytes text = .ok wallet ∧ wallet ∉ st.credentials
  | .revoke text => ∃ wallet record, walletHexToBytes text = .ok wallet ∧
      st.credentials.lookup wallet = some record ∧ record.revoked = false

/-- A process that could not read its file saves nothing. -/
def Spares (annotated : System World × Receipts) : Action World → Prop
  | .request saveFault request => annotated.2.unread = true →
      saveFault = true ∨ ¬ request.Changes annotated.1.issuer
  | _ => True

/-- Every record that was acknowledged is in the file, or revoked there. -/
def Durable (annotated : System World × Receipts) : Prop :=
  ∀ record ∈ annotated.2.acknowledged, ∃ persisted, annotated.1.disk = some persisted ∧
    ∃ stored ∈ persisted.credentials, Keeps record stored

structure Receipted (annotated : System World × Receipts) : Prop where
  recorded : Recorded annotated.1
  durable : Durable annotated
  read : annotated.2.unread = false → ∀ persisted, annotated.1.disk = some persisted →
    Included persisted.credentials annotated.1.issuer.persisted.credentials

variable {env config}

theorem serveInsert_ok {path : String} {saveFault : Bool} {now : UInt64}
    {hexStr jurisdiction : String} {st issuer : IssuerState} {disk disk' : Disk} {u : Unit}
    (served : serveInsert (some path) saveFault now hexStr jurisdiction st disk =
      (.ok u, issuer, disk')) :
    saveFault = false ∧ ∃ wallet, walletHexToBytes hexStr = .ok wallet ∧
      wallet ∉ st.credentials := by
  rw [serveInsert] at served
  cases decoded : walletHexToBytes hexStr with
  | error e =>
    rw [decoded] at served
    cases served
  | ok wallet =>
    rw [decoded] at served
    by_cases known : wallet ∈ st.credentials
    · simp only [if_pos known] at served
      cases served
    · simp only [if_neg known] at served
      cases saveFault with
      | true => cases served
      | false => exact ⟨rfl, wallet, rfl, known⟩

/-- A request succeeds when it changes something and that is saved. -/
theorem serve_ok {path : String} {saveFault : Bool} {request : Request} {st issuer : IssuerState}
    {disk disk' : Disk} {u : Unit}
    (served : request.serve (some path) saveFault st disk = (.ok u, issuer, disk')) :
    saveFault = false ∧ request.Changes st := by
  cases request with
  | issue now req =>
    rw [serve_issue_eq] at served
    exact serveInsert_ok served
  | add now text =>
    rw [serve_add_eq] at served
    exact serveInsert_ok served
  | revoke text =>
    have reply := revokeCredential_reply (some path) saveFault text st disk
    rw [Request.serve] at served
    generalize revokeCredential (some path) saveFault text st disk = answer at reply served
    cases reply with
    | refused => cases served
    | unsaved => cases served
    | @saved wallet record _ _ marks saved =>
      refine ⟨?_, wallet, record, marks.decoded, marks.known, marks.live⟩
      cases saveFault with
      | false => rfl
      | true => cases saved

/-- What a request acknowledges is in the file: it was saved. -/
theorem Served.acknowledged {path : String} {st issuer : IssuerState} {disk disk' : Disk}
    {records records' : List CredentialRecord} {u : Unit}
    (served : Served (some path) st disk records (.ok u, issuer, disk') records') :
    disk' = some issuer.persisted := by
  cases served with
  | added _ _ _ _ _ _ _ saved => exact saved
  | revoked _ _ _ _ _ _ saved => exact saved

/-- A request that fails leaves the file as it was. -/
theorem Served.failed {statePath : Option String} {st issuer : IssuerState} {disk disk' : Disk}
    {records records' : List CredentialRecord} {e : ServiceError}
    (served : Served statePath st disk records (.error e, issuer, disk') records') :
    disk' = disk := by
  cases served with
  | refused => rfl
  | added _ _ _ _ _ _ _ saved => exact saved

/-- The receipt of a request names a record of the state. -/
theorem Represents.receipt {st : IssuerState} {records : List CredentialRecord}
    (represents : Represents st records) {wallet : Bytes32} {record : CredentialRecord}
    (member : record ∈ (st.credentials.lookup wallet).toList) :
    record ∈ st.persisted.credentials := by
  rw [represents.persisted]
  exact ((represents.lookup wallet record).mp (Option.mem_toList.mp member)).1

theorem Receipts.note_request (receipts : Receipts) {s : System World} {saveFault : Bool}
    {request : Request} {reply : Except ServiceError Unit} {issuer : IssuerState} {disk : Disk}
    (served : request.serve config.statePath saveFault s.issuer s.disk = (reply, issuer, disk)) :
    (receipts.note config s (.request saveFault request)).unread = receipts.unread ∧
      ∀ record ∈ (receipts.note config s (.request saveFault request)).acknowledged,
        record ∈ receipts.acknowledged ∨ (∃ u, reply = .ok u) ∧
          ∃ wallet, record ∈ (issuer.credentials.lookup wallet).toList := by
  rw [Receipts.note, served]
  cases reply with
  | error e => exact ⟨rfl, fun record member => Or.inl member⟩
  | ok u =>
    cases decoded : walletHexToBytes request.wallet with
    | error e => exact ⟨rfl, fun record member => Or.inl member⟩
    | ok wallet =>
      refine ⟨rfl, fun record member => ?_⟩
      rcases List.mem_append.mp member with new | old
      · exact Or.inr ⟨⟨u, rfl⟩, wallet, new⟩
      · exact Or.inl old

theorem step_receipted {path : String} (configured : config.statePath = some path)
    {annotated next : System World × Receipts} {action : Action World}
    (receipted : Receipted annotated) (spares : Spares annotated action)
    (accepted : receipting env config annotated action = .ok next) : Receipted next := by
  obtain ⟨moved, noted⟩ := annotate_eq_ok.mp accepted
  obtain ⟨s, receipts⟩ := annotated
  obtain ⟨s', receipts'⟩ := next
  simp only at moved noted
  subst noted
  obtain ⟨recorded, durable, read⟩ := receipted
  have recorded' := step_recorded recorded moved
  -- most steps change neither the records, nor the file, nor the receipts
  have kept : ∀ {s' : System World}, Recorded s' →
      s'.issuer.persisted.credentials = s.issuer.persisted.credentials → s'.disk = s.disk →
        Receipted (s', receipts) := by
    intro s' recorded' issuer disk
    refine ⟨recorded', ?_, ?_⟩
    · rw [Durable, disk]
      exact durable
    · rw [issuer, disk]
      exact read
  cases step_stepped moved with
  | @request saveFault request reply issuer disk served =>
    obtain ⟨_, _, represents, outcome⟩ := recorded.served served
    obtain ⟨unread, receipt⟩ := Receipts.note_request receipts served
    cases reply with
    | error e =>
      -- nothing is acknowledged; the file is the old one, and memory has lost nothing
      have same : disk = s.disk := outcome.failed
      subst same
      refine ⟨recorded', ?_, ?_⟩
      · intro record member
        rcases receipt record member with old | ⟨⟨u, success⟩, -⟩
        · exact durable record old
        · cases success
      · intro known persisted present
        exact (read (unread.symm.trans known) persisted present).trans
          (outcome.persisted_included represents)
    | ok u =>
      -- the file holds what is in memory, and memory held what was in the file
      rw [configured] at served outcome
      obtain ⟨rfl, changes⟩ := serve_ok served
      have readable : receipts.unread = false := by
        cases known : receipts.unread with
        | false => rfl
        | true =>
          rcases spares known with fault | unchanged
          · cases fault
          · exact absurd changes unchanged
      have saved : disk = some issuer.persisted := outcome.acknowledged
      subst saved
      have included := outcome.persisted_included represents
      refine ⟨recorded', ?_, ?_⟩
      · intro record member
        refine ⟨_, rfl, ?_⟩
        rcases receipt record member with old | ⟨-, wallet, new⟩
        · obtain ⟨persisted, present, stored, member, keeps⟩ := durable record old
          obtain ⟨last, member', keeps'⟩ :=
            (read readable persisted present).trans included stored member
          exact ⟨last, member', keeps.trans keeps'⟩
        · exact ⟨record, outcome.represents.receipt new, .refl record⟩
      · intro _ persisted present
        cases present
        exact .refl _
  | confirmed => exact kept recorded' rfl rfl
  | @landed writer => cases writer <;> exact kept recorded' rfl rfl
  | @rejected writer => cases writer <;> exact kept recorded' rfl rfl
  | @restartIssuer loadFault probeFault =>
    refine ⟨recorded', durable, ?_⟩
    intro known persisted present
    -- a file that is there has been read
    simp only at present
    have loaded : loadFault = false := by simpa [Receipts.note, present] using known
    subst loaded
    obtain ⟨represents, -⟩ := startIssuer_loaded env configured
      (recorded.stored persisted present) probeFault s.chain
    rw [present, represents.persisted]
    exact .refl _
  | _ => exact kept recorded' rfl rfl

/-- What was acknowledged is in the file after every run in which no process that could not
read its file saves to it. -/
theorem run_durable (issuerFault updaterFault : Bool) (clock : Clock) (chain : State World)
    {path : String} (configured : config.statePath = some path) (actions : List (Action World))
    {reached : System World × Receipts}
    (spares : Meets (receipting env config) Spares
      (unacknowledged env config issuerFault updaterFault clock chain) actions)
    (ends : Transactional.run (receipting env config)
      (unacknowledged env config issuerFault updaterFault clock chain) actions = reached) :
    Durable reached := by
  have first : Receipted (unacknowledged env config issuerFault updaterFault clock chain) := by
    refine ⟨recorded_start issuerFault updaterFault clock chain, ?_, ?_⟩
    · rintro record ⟨⟩
    · rintro - persisted ⟨⟩
  have receipted : Receipted reached := by
    rw [← ends]
    apply run_invariant_of_meets _ _ actions spares first
    intro annotated action next receipted spares accepted
    exact step_receipted configured receipted spares accepted
  exact receipted.durable

/-! ## A file that cannot be read -/

theorem Keeps.wallet {record stored : CredentialRecord} (keeps : Keeps record stored) :
    stored.wallet = record.wallet := by
  rcases keeps with rfl | rfl
  · rfl
  · rfl

section Unread

variable {s : System World} {receipts : Receipts} {path : String} {wallet : Bytes32}
  {req : IssueRequest}

theorem issued_step (configured : config.statePath = some path) (now : UInt64)
    (decoded : walletHexToBytes req.wallet = .ok wallet)
    (absent : wallet ∉ s.issuer.credentials) :
    let issuer := s.issuer.insertCredential wallet (bytesBeToFr wallet) req.jurisdiction now
    receipting env config (s, receipts) (.request false (.issue now req)) =
      .ok ({ s with issuer, disk := some issuer.persisted },
        { receipts with
          acknowledged :=
            (issuer.credentials.lookup wallet).toList ++ receipts.acknowledged }) := by
  have served := serve_issue config.statePath now decoded absent s.disk
  rw [configured] at served
  apply noted_step
  · apply Stepped.request
    rw [configured]
    exact served
  · rw [Receipts.note, configured, served, Request.wallet, decoded]

theorem unread_step (present : s.disk.isSome = true) (probeFault : Bool) :
    receipting env config (s, receipts) (.restartIssuer true probeFault) =
      .ok ({ s with
          issuer := { IssuerState.new with registered := probe env config probeFault s.chain }
          publication := none
          late := s.late ++ Flight.abandon .issuer s.publication },
        { receipts with unread := true }) := by
  have restarted : Stepped env config s (.restartIssuer true probeFault) _ := .restartIssuer
  rw [startIssuer_unread] at restarted
  apply noted_step restarted
  rw [Receipts.note, present, Bool.and_true]

variable (env s receipts) in
/-- The file is not read, and the next credential that is saved is alone in it. -/
theorem run_overwritten (configured : config.statePath = some path) (present : s.disk.isSome = true)
    (probeFault : Bool) (now : UInt64) (decoded : walletHexToBytes req.wallet = .ok wallet) :
    ∃ reached persisted, Transactional.run (receipting env config) (s, receipts)
        [.restartIssuer true probeFault, .request false (.issue now req)] = reached ∧
      receipts.acknowledged ⊆ reached.2.acknowledged ∧ reached.1.disk = some persisted ∧
      persisted.credentials = [newRecord [] wallet req.jurisdiction now] := by
  have absent : wallet ∉ IssuerState.new.credentials := AList.notMem_empty wallet
  rw [run_cons_ok (unread_step present probeFault),
    run_cons_ok (issued_step configured now decoded absent), run_nil]
  refine ⟨_, _, rfl, List.subset_append_right _ _, rfl, ?_⟩
  have fresh : Represents
      { IssuerState.new with registered := probe env config probeFault s.chain } [] :=
    { represents_new with }
  exact (fresh.insert absent req.jurisdiction now).persisted

end Unread

/-- The first credential is saved, and there is a receipt for it. -/
theorem step_issued (path : String) : ∃ s receipts,
    receipting reference (Sample.service (some path))
        (unacknowledged reference (Sample.service (some path)) false false (Sample.clock 0)
          (State.deployed [])) (.request false Sample.issue) = .ok (s, receipts) ∧
      s.disk = some s.issuer.persisted ∧ Represents s.issuer [newRecord [] Sample.one "US" 0] ∧
        newRecord [] Sample.one "US" 0 ∈ receipts.acknowledged := by
  have fresh : Represents (System.start reference (Sample.service (some path)) false false
      (Sample.clock 0) (State.deployed [])).issuer [] := { represents_new with }
  refine ⟨_, _, issued_step rfl 0 (by exact Sample.decode_one)
    (by exact AList.notMem_empty Sample.one), rfl,
    fresh.insert (AList.notMem_empty Sample.one) "US" 0, ?_⟩
  simp only [IssuerState.insertCredential, AList.lookup_insert]
  exact List.mem_append_left _ (List.mem_singleton_self _)

/-- A credential, a restart that reads the file, and another credential. -/
def restartBetween : List (Action Reference.Ledger) :=
  [.request false Sample.issue, .restartIssuer false false,
    .request false (.issue 0 Sample.requestTwo)]

theorem run_durable_restarted : ∃ reached : System Reference.Ledger × Receipts,
    Transactional.run (receipting reference (Sample.service (some "state.json")))
        (unacknowledged reference (Sample.service (some "state.json")) false false
          (Sample.clock 0) (State.deployed [])) restartBetween = reached ∧
      newRecord [] Sample.one "US" 0 ∈ reached.2.acknowledged ∧
        newRecord [newRecord [] Sample.one "US" 0] Sample.two "US" 0 ∈ reached.2.acknowledged ∧
          Durable reached := by
  have configured : (Sample.service (some "state.json")).statePath = some "state.json" := rfl
  obtain ⟨s, receipts, issued, saved, represents, member⟩ := step_issued "state.json"
  -- the file brings the record back
  obtain ⟨s', restarted, loaded⟩ : ∃ s',
      receipting reference (Sample.service (some "state.json")) (s, receipts)
          (.restartIssuer false false) = .ok (s', { receipts with unread := false }) ∧
        Represents s'.issuer [newRecord [] Sample.one "US" 0] := by
    obtain ⟨loaded, -⟩ :=
      startIssuer_loaded reference configured represents.storable false s.chain
    rw [represents.persisted, ← saved] at loaded
    exact ⟨_, noted_step .restartIssuer rfl, loaded⟩
  have absent : Sample.two ∉ s'.issuer.credentials := by
    intro present
    obtain ⟨record, found⟩ := Option.isSome_iff_exists.mp (AList.lookup_isSome.mpr present)
    obtain ⟨member, owner⟩ := (loaded.lookup _ _).mp found
    rw [List.mem_singleton.mp member] at owner
    exact absurd owner (by decide)
  have again : receipting reference (Sample.service (some "state.json"))
      (s', { receipts with unread := false }) (.request false (.issue 0 Sample.requestTwo)) =
        .ok (_, _) := issued_step configured 0 Sample.decode_two absent
  have added := ((loaded.insert absent "US" 0).lookup _ _).mpr
    ⟨List.mem_append_right _ (List.mem_singleton_self _), rfl⟩
  have ends := (run_cons_ok issued _).trans ((run_cons_ok restarted _).trans
    (run_cons_ok again []))
  refine ⟨_, ends, ?_, ?_, ?_⟩
  · exact List.mem_append_right _ member
  · refine List.mem_append_left _ (Option.mem_toList.mpr ?_)
    exact added
  · apply run_durable false false (Sample.clock 0) (State.deployed []) configured _ _ ends
    rw [meets_cons_ok issued, meets_cons_ok restarted, meets_cons_ok again]
    refine ⟨?_, trivial, ?_, trivial⟩
    · rintro ⟨⟩
    · rintro ⟨⟩

/-- The file cannot be read at a start, and the next credential is saved over it. -/
theorem not_run_durable : ¬ ∀ (Proof Address World : Type) (env : External Proof Address World)
    (config : Config) (issuerFault updaterFault : Bool) (clock : Clock) (chain : State World)
    (path : String) (actions : List (Action World)) (reached : System World × Receipts),
      config.statePath = some path →
      Transactional.run (receipting env config)
        (unacknowledged env config issuerFault updaterFault clock chain) actions = reached →
      Durable reached := by
  intro always
  have configured : (Sample.service (some "state.json")).statePath = some "state.json" := rfl
  obtain ⟨s, receipts, issued, present, -, receipt⟩ := step_issued "state.json"
  obtain ⟨reached, persisted, ends, kept, saved, alone⟩ :=
    run_overwritten reference s receipts configured (by rw [present]; rfl) false 0
      Sample.decode_two
  have durable := always _ _ _ reference (Sample.service (some "state.json")) false false
    (Sample.clock 0) (State.deployed []) "state.json" _ reached rfl
    ((run_cons_ok issued _).trans ends)
  -- the first receipt is still there, and the file has the second record alone
  obtain ⟨file, present', stored, member, keeps⟩ := durable _ (kept receipt)
  cases saved.symm.trans present'
  rw [alone, List.mem_singleton] at member
  rw [member] at keeps
  exact absurd keeps.wallet (by decide)

end ZkSettle.Service
