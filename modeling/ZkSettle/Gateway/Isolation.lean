import ZkSettle.Gateway.Serving

/-!
# Keys among each other

What the other keys, the tenants and the logins leave alone. The calls of one key, picked out
of a run of the whole gateway, are a run of the machine that has this key alone, until the key
is deleted; so no key is served more than its tier allows, whatever is done with the others.
The calls of a deleted key that had no place in its quota never get one.
-/
namespace ZkSettle.Gateway.Serving

open Checks Program Tenancy

variable {standard : Base64.Engine} {ed : Ed25519} {jwt : Jwt} {settings : Settings}
  {config : Config}

/-! ## The traffic of one key -/

def owns (keyHash : String) (forward : Forward) : Bool := forward.record.keyHash == keyHash

def System.calls (s : System) (keyHash : String) : List Call :=
  (s.forwards.filter (owns keyHash)).map Forward.call

/-- The time of the latest call. -/
def latest (calls : List Call) : Nat := (calls.map Call.now).getLast?.getD 0

/-- What the gateway holds of one key. -/
def System.traffic (s : System) (keyHash : String) : Traffic where
  rows := s.rows keyHash
  clock := latest (s.calls keyHash)
  calls := s.calls keyHash

/-- A release that lowers the count of a key is that of a call which was not delivered, in the
period that the row of the key is in. -/
def Returns (s : System) : Action → Prop
  | .resume id (.release false) => ∀ forward row, s.forwards[id]? = some forward →
      (s.rows forward.record.keyHash).usage = some row → row.requestCount = 0 ∨
        (forward.call.stage.isUnrecorded = false ∧ forward.call.period = some row.periodStart)
  | _ => True

/-- The step does not delete the key. -/
def Keeps (standard : Base64.Engine) (ed : Ed25519) (jwt : Jwt) (settings : Settings)
    (keyHash : String) (s : System) : Action → Prop
  | .tenancy action => ∀ tenancy,
      Tenancy.step standard ed jwt settings s.tenancy action = .ok tenancy →
        known s.tenancy.db keyHash = true → known tenancy.db keyHash = true
  | _ => True

theorem owns_iff {keyHash : String} {forward : Forward} :
    owns keyHash forward = true ↔ forward.record.keyHash = keyHash := beq_iff_eq

theorem owns_eq_false {keyHash : String} {forward : Forward} :
    owns keyHash forward = false ↔ forward.record.keyHash ≠ keyHash := beq_eq_false_iff_ne

theorem mem_calls {s : System} {keyHash : String} {call : Call} (member : call ∈ s.calls keyHash) :
    ∃ forward ∈ s.forwards, forward.record.keyHash = keyHash ∧ forward.call = call := by
  obtain ⟨forward, filtered, same⟩ := List.mem_map.mp member
  obtain ⟨there, own⟩ := List.mem_filter.mp filtered
  exact ⟨forward, there, owns_iff.mp own, same⟩

theorem latest_snoc (calls : List Call) (call : Call) : latest (calls ++ [call]) = call.now := by
  simp [latest]

/-- A call that goes on keeps its time. -/
theorem latest_set {calls : List Call} {id : Nat} {call call' : Call}
    (found : calls[id]? = some call) (same : call'.now = call.now) :
    latest (calls.set id call') = latest calls := by
  have there : (calls.map Call.now)[id]? = some call.now := by simp [found]
  obtain ⟨inside, here⟩ := List.getElem?_eq_some_iff.mp there
  rw [latest, latest, List.map_set, same, ← here, List.set_getElem_self]

theorem latest_le {calls : List Call} {clock : Nat} (times : ∀ call ∈ calls, call.now ≤ clock) :
    latest calls ≤ clock := by
  rw [latest]
  cases last : (calls.map Call.now).getLast? with
  | none => exact Nat.zero_le clock
  | some now =>
    obtain ⟨call, member, rfl⟩ := List.mem_map.mp (List.mem_of_getLast? last)
    exact times call member

theorem Coherent.latest_le {s : System} (coherent : Coherent jwt settings s) (keyHash : String) :
    latest (s.calls keyHash) ≤ s.clock := by
  refine Serving.latest_le fun call member => ?_
  obtain ⟨forward, there, -, rfl⟩ := mem_calls member
  exact coherent.times forward there

/-! ## One step, for one key -/

/-- For one key, a step of the gateway does nothing, or is a step of the key's own machine. -/
inductive Projected (tier : Tier) (config : Config) (s : System) (action : Action)
    (keyHash : String) (next : System) : Prop
  | idle (same : next.traffic keyHash = s.traffic keyHash)
  | moved (action' : Gateway.Action)
      (accepted : Gateway.step tier config (s.traffic keyHash) action' =
        .ok (next.traffic keyHash))
      (own : Returns s action → GivesOwnBack (s.traffic keyHash) action')
      (allowed : ∀ id event, action' = .resume id event →
        answerable (known s.tenancy.db keyHash) event = true)

/-- The record is the one that all requests with its key bear. -/
def Alone (s : System) (record : ApiKeyRecord) : Prop :=
  ∀ other, Serves s other → other.keyHash = record.keyHash → other = record

theorem calls_rank {s : System} {id : Nat} {forward : Forward}
    (found : s.forwards[id]? = some forward) :
    (s.calls forward.record.keyHash)[Slots.rank (owns forward.record.keyHash) s.forwards id]? =
      some forward.call := by
  rw [System.calls, List.getElem?_map, Slots.filter_rank found (owns_iff.mpr rfl)]
  rfl

theorem entered_projected {s : System} {id now : Nat} {arrival : Arrival} {record : ApiKeyRecord}
    (coherent : Coherent jwt settings s) (later : s.clock ≤ now) :
    Projected record.tier config s (.enter id now) record.keyHash { s with
      clock := now
      arrivals := s.arrivals.eraseIdx id
      forwards := s.forwards ++ [⟨arrival.record, .begin now arrival.request⟩] } := by
  by_cases own : arrival.record.keyHash = record.keyHash
  · -- the clock of the key has not gone further than that of the gateway
    have before := (coherent.latest_le record.keyHash).trans later
    refine .moved (.call now arrival.request) ?_ (fun _ => trivial) (by rintro _ _ ⟨⟩)
    rw [Gateway.step, System.traffic, if_pos before]
    simp [System.traffic, System.calls, List.filter_append, owns, own, latest_snoc, Call.begin]
  · refine .idle ?_
    simp [System.traffic, System.calls, List.filter_append, owns, own]

theorem resumed_projected {s : System} {id : Nat} {event : Event} {forward : Forward}
    {rows : Rows} {call : Call} {record : ApiKeyRecord} (alone : Alone s record)
    (found : s.forwards[id]? = some forward)
    (allowed : answerable (known s.tenancy.db forward.record.keyHash) event = true)
    (advanced : forward.call.advance forward.record.tier config (s.rows forward.record.keyHash)
      event = .ok (rows, call)) :
    Projected record.tier config s (.resume id event) record.keyHash { s with
      rows := Function.update s.rows forward.record.keyHash rows
      forwards := s.forwards.set id ⟨forward.record, call⟩ } := by
  by_cases own : forward.record.keyHash = record.keyHash
  · obtain rfl := alone forward.record (Or.inr ⟨forward, List.mem_of_getElem? found, rfl⟩) own
    have there := calls_rank found
    refine .moved (.resume (Slots.rank (owns forward.record.keyHash) s.forwards id) event)
      ?_ ?_ ?_
    · have still : owns forward.record.keyHash ⟨forward.record, call⟩ = true := owns_iff.mpr rfl
      have times := latest_set there (advanced_now (advance_advanced advanced))
      rw [Gateway.step]
      simp only [System.traffic, there, advanced, bind_eq_ok, Except.ok.injEq]
      refine ⟨_, rfl, ?_⟩
      simp only [System.calls, Slots.filter_set_own found (owns_iff.mpr rfl) still, List.map_set,
        Function.update_self] at times ⊢
      rw [times]
    · intro returns
      cases event with
      | release failed =>
        cases failed with
        | true => trivial
        | false =>
          intro call' row found' present
          obtain rfl := Option.some.inj (there.symm.trans found')
          exact returns forward row found present
      | _ => trivial
    · rintro _ _ ⟨⟩
      exact allowed
  · refine .idle ?_
    have other : owns record.keyHash forward = false := owns_eq_false.mpr own
    have still : owns record.keyHash ⟨forward.record, call⟩ = false := owns_eq_false.mpr own
    simp only [System.traffic, System.calls, Slots.filter_set_other found other still,
      Function.update_of_ne (Ne.symm own)]

theorem step_projected {s next : System} {action : Action} {record : ApiKeyRecord}
    (coherent : Coherent jwt settings s) (alone : Alone s record)
    (keeps : Keeps standard ed jwt settings record.keyHash s action)
    (accepted : step standard ed jwt settings config s action = .ok next) :
    Projected record.tier config s action record.keyHash next := by
  cases step_stepped accepted with
  | @tenancy action tenancy stepped =>
    refine .idle ?_
    simp only [System.traffic, System.calls, cascade]
    split
    next => rfl
    next absent =>
      -- a key that is not there now was not there before, and had no rows
      have before : known s.tenancy.db record.keyHash = false :=
        Bool.eq_false_iff.mpr fun there => absent (keeps tenancy stepped there)
      rw [coherent.cascaded record.keyHash before]
  | arrived => exact .idle rfl
  | entered found later => exact entered_projected coherent later
  | resumed found allowed advanced => exact resumed_projected alone found allowed advanced

/-! ## Runs -/

theorem serves_run {s : System} {record : ApiKeyRecord} (serves : Serves s record)
    (actions : List Action) : Serves (run standard ed jwt settings config s actions) record := by
  have kept : ∀ s action next, Serves s record →
      step standard ed jwt settings config s action = .ok next → Serves next record :=
    fun _ _ _ serves accepted => serves.step accepted
  exact Transactional.run_invariant kept s actions serves

/-- The step puts no key that is in use into the table, and does not delete the key. -/
def FreshAndKept (standard : Base64.Engine) (ed : Ed25519) (jwt : Jwt) (settings : Settings)
    (keyHash : String) (s : System) (action : Action) : Prop :=
  Fresh s action ∧ Keeps standard ed jwt settings keyHash s action

/-- The induction goes over the rest of a run, whose end says which record the key has. -/
theorem leads_of_run {s : System} {actions : List Action} {record : ApiKeyRecord}
    (coherent : Coherent jwt settings s)
    (guarded : Transactional.Meets (step standard ed jwt settings config)
      (FreshAndKept standard ed jwt settings record.keyHash) s actions)
    (alone : Alone (run standard ed jwt settings config s actions) record) :
    Transactional.Leads (Gateway.step record.tier config) (fun _ _ => True)
      (s.traffic record.keyHash)
      ((run standard ed jwt settings config s actions).traffic record.keyHash) := by
  induction actions generalizing s with
  | nil => exact .refl _
  | cons action rest ih =>
    obtain ⟨allowed, later⟩ := guarded
    rw [run, Transactional.run_cons] at alone ⊢
    rcases @Transactional.commit_cases _ _ _ (step standard ed jwt settings config) s action with
      same | ⟨next, accepted, moved⟩
    · rw [same] at later alone ⊢
      exact ih coherent later alone
    · rw [moved] at later alone ⊢
      obtain ⟨fresh, keeps⟩ := allowed next accepted
      have coherent' := step_coherent coherent fresh accepted
      have now : Alone s record := fun other serves =>
        alone other (serves_run (serves.step accepted) rest)
      refine .trans ?_ (ih coherent' later alone)
      cases step_projected coherent now keeps accepted with
      | idle same =>
        rw [same]
        exact .refl _
      | moved action' stepped own answers => exact .one action' trivial stepped

/-- In every run of the gateway that does not delete the key, its calls and its rows are those
of a run of the machine that has this key alone, at the tier of its record. -/
theorem key_refines {clock : Nat} {actions : List Action} {record : ApiKeyRecord}
    (guarded : Transactional.Meets (step standard ed jwt settings config)
      (FreshAndKept standard ed jwt settings record.keyHash) (.start clock) actions)
    (serves : Serves (run standard ed jwt settings config (.start clock) actions) record) :
    ∃ actions', Transactional.run (Gateway.step record.tier config) (.start noRows 0) actions' =
      (run standard ed jwt settings config (.start clock) actions).traffic record.keyHash := by
  have coherent : Coherent jwt settings
      (run standard ed jwt settings config (.start clock) actions) :=
    Transactional.run_invariant_of_meets
      (fun _ _ _ coherent guarded accepted => step_coherent coherent guarded.1 accepted)
      _ _ guarded (coherent_start clock)
  obtain ⟨actions', -, reached⟩ := leads_of_run (coherent_start clock) guarded
    fun other serves' same => coherent.agree other record serves' serves same
  exact ⟨actions', reached⟩

/-! ## The quota of a key -/

/-- A key that is there has room for what its calls claim, and one that was there has had it. -/
def BoundedFor (s : System) (record : ApiKeyRecord) : Prop :=
  (known s.tenancy.db record.keyHash = true →
    Admitted record.tier (s.traffic record.keyHash).rows.usage
      (s.traffic record.keyHash).claims) ∧
  ∀ period, (s.traffic record.keyHash).claims period ≤ record.tier.monthlyLimit

def Bounded (s : System) : Prop := ∀ record, Serves s record → BoundedFor s record

theorem bounded_start (clock : Nat) : Bounded (.start clock) := by
  rintro record (⟨arrival, ⟨⟩, -⟩ | ⟨forward, ⟨⟩, -⟩)

theorem boundedFor_of_admitted {s : System} {record : ApiKeyRecord}
    (admitted : Admitted record.tier (s.traffic record.keyHash).rows.usage
      (s.traffic record.keyHash).claims) : BoundedFor s record :=
  ⟨fun _ => admitted, admitted.le_limit⟩

/-- The calls of a key that is not there claim no more than they did. -/
theorem Projected.claims_le {tier : Tier} {s next : System} {action : Action} {keyHash : String}
    (projected : Projected tier config s action keyHash next)
    (absent : known s.tenancy.db keyHash = false) (empty : s.rows keyHash = noRows)
    (period : Nat) : (next.traffic keyHash).claims period ≤ (s.traffic keyHash).claims period := by
  cases projected with
  | idle same => rw [same]
  | moved action' accepted own allowed =>
    generalize next.traffic keyHash = after at accepted ⊢
    cases Gateway.step_stepped accepted with
    | began later => simp [Traffic.claims, Call.claims_entered, Call.begin]
    | @resumed id event call call' rows found advanced =>
      have answered := allowed id event rfl
      have rows' : (s.traffic keyHash).rows = noRows := empty
      rw [rows'] at advanced
      rw [absent] at answered
      obtain ⟨-, -, less⟩ := advanced_absent advanced answered
      have counted := claims_set call' period found
      have bound := less period
      simp only [Traffic.claims] at counted ⊢
      omega

/-- A key whose request comes for the first time has no calls. -/
theorem calls_of_not_serves {s : System} {record : ApiKeyRecord} (alone : Alone s record)
    (new : ¬ Serves s record) : s.calls record.keyHash = [] := by
  rw [System.calls, List.map_eq_nil_iff, List.filter_eq_nil_iff]
  intro forward member own
  have serves : Serves s forward.record := Or.inr ⟨forward, member, rfl⟩
  rw [alone forward.record serves (owns_iff.mp own)] at serves
  exact new serves

/-- A key that is in use does not come back, once it is deleted. -/
theorem Fresh.stays_deleted {s next : System} {action : Action} (fresh : Fresh s action)
    (accepted : step standard ed jwt settings config s action = .ok next)
    {record : ApiKeyRecord} (serves : Serves s record)
    (gone : known s.tenancy.db record.keyHash = false) :
    known next.tenancy.db record.keyHash = false := by
  cases step_stepped accepted with
  | tenancy stepped =>
    refine Bool.eq_false_iff.mpr fun back => ?_
    obtain ⟨key, member, same⟩ := known_iff.mp back
    rcases fresh.unused stepped member with earlier | unused
    · rw [known_iff.mpr ⟨key, earlier, same⟩] at gone
      cases gone
    · exact unused record serves same.symm
  | arrived => exact gone
  | entered => exact gone
  | resumed => exact gone

/-- The quota of a key that was in use before the step. -/
theorem Bounded.old {s next : System} {action : Action} {record : ApiKeyRecord}
    (bounded : Bounded s) (coherent : Coherent jwt settings s) (alone : Alone s record)
    (serves : Serves s record) (fresh : Fresh s action) (own : Returns s action)
    (accepted : step standard ed jwt settings config s action = .ok next) :
    BoundedFor next record := by
  obtain ⟨admitted, limit⟩ := bounded record serves
  cases there : known s.tenancy.db record.keyHash with
  | true =>
    by_cases keeps : Keeps standard ed jwt settings record.keyHash s action
    · -- the key's own machine has made the step, and keeps the quota
      apply boundedFor_of_admitted
      cases step_projected coherent alone keeps accepted with
      | idle same =>
        rw [same]
        exact admitted there
      | moved action' stepped returns answers =>
        exact step_admitted (admitted there) (returns own) stepped
    · -- the key is deleted, and its calls keep what they claim
      cases step_stepped accepted with
      | tenancy stepped =>
        refine ⟨fun still => absurd (fun tenancy stepped' _ => ?_) keeps, limit⟩
        rwa [← Except.ok.inj (stepped.symm.trans stepped')]
      | arrived => exact absurd trivial keeps
      | entered => exact absurd trivial keeps
      | resumed => exact absurd trivial keeps
  | false =>
    have gone := fresh.stays_deleted accepted serves there
    have keeps : Keeps standard ed jwt settings record.keyHash s action := by
      cases action with
      | tenancy action =>
        intro tenancy stepped still
        rw [there] at still
        cases still
      | _ => trivial
    have less := (step_projected coherent alone keeps accepted).claims_le there
      (coherent.cascaded _ there)
    refine ⟨fun back => ?_, fun period => (less period).trans (limit period)⟩
    rw [gone] at back
    cases back

theorem step_bounded {s next : System} {action : Action} (coherent : Coherent jwt settings s)
    (fresh : Fresh s action) (bounded : Bounded s) (own : Returns s action)
    (accepted : step standard ed jwt settings config s action = .ok next) : Bounded next := by
  have coherent' := step_coherent coherent fresh accepted
  intro record serves
  have alone : Alone s record := fun other serves' same =>
    coherent'.agree other record (serves'.step accepted) serves same
  by_cases before : Serves s record
  · exact bounded.old coherent alone before fresh own accepted
  · -- the first request with the key, which nothing was claimed for
    obtain ⟨request, rfl, -⟩ := (serves_before accepted serves).resolve_left before
    have none : s.calls record.keyHash = [] := calls_of_not_serves alone before
    cases step_stepped accepted with
    | @arrived request record' authenticated =>
      have claims : ∀ arrivals, (System.traffic { s with arrivals } record.keyHash).claims =
          fun _ => 0 := by
        intro arrivals
        funext period
        have same : (System.traffic { s with arrivals } record.keyHash).calls =
            s.calls record.keyHash := rfl
        rw [Traffic.claims, same, none]
        rfl
      apply boundedFor_of_admitted
      rw [claims]
      exact admitted_zero _

/-- What a run is asked for: new keys are new, and a release gives back what its own call has
taken. -/
def Orderly (s : System) (action : Action) : Prop := Fresh s action ∧ Returns s action

theorem run_bounded {clock : Nat} {actions : List Action}
    (orderly : Transactional.Meets (step standard ed jwt settings config) Orderly (.start clock)
      actions) :
    Bounded (run standard ed jwt settings config (.start clock) actions) := by
  have kept : ∀ s action next, Coherent jwt settings s ∧ Bounded s → Orderly s action →
      step standard ed jwt settings config s action = .ok next →
      Coherent jwt settings next ∧ Bounded next := by
    rintro s action next ⟨coherent, bounded⟩ ⟨fresh, own⟩ accepted
    exact ⟨step_coherent coherent fresh accepted,
      step_bounded coherent fresh bounded own accepted⟩
  have both := Transactional.run_invariant_of_meets kept _ _ orderly
    ⟨coherent_start clock, bounded_start clock⟩
  exact both.2

/-- However the requests of all the keys, the logins and the changes to the keys come between
each other: no key gets more billable responses in one of its periods than its tier has, the
deleted ones included. -/
theorem every_key_within_limit {clock : Nat} {actions : List Action}
    (orderly : Transactional.Meets (step standard ed jwt settings config) Orderly (.start clock)
      actions) {record : ApiKeyRecord}
    (serves : Serves (run standard ed jwt settings config (.start clock) actions) record) :
    NoOverAdmission record.tier
      ((run standard ed jwt settings config (.start clock) actions).traffic record.keyHash) := by
  intro period
  apply le_trans _ ((run_bounded orderly record serves).2 period)
  apply List.countP_mono_left
  intro call _ delivered
  rw [Call.deliveredIn, Bool.and_eq_true] at delivered
  simp [Call.claims, delivered]

/-! ## The calls of a deleted key -/

/-- A call of the key that holds or has held a place in the quota had it before. -/
def ReservedBefore (keyHash : String) (s next : System) : Prop :=
  ∀ (id : Nat) (forward : Forward), next.forwards[id]? = some forward →
    forward.record.keyHash = keyHash → forward.call.period.isSome = true →
      ∃ before, s.forwards[id]? = some before ∧ before.record = forward.record ∧
        before.call.period = forward.call.period

theorem ReservedBefore.refl (keyHash : String) (s : System) : ReservedBefore keyHash s s :=
  fun _ forward found _ _ => ⟨forward, found, rfl, rfl⟩

theorem ReservedBefore.trans {keyHash : String} {first second third : System}
    (earlier : ReservedBefore keyHash first second)
    (later : ReservedBefore keyHash second third) : ReservedBefore keyHash first third := by
  intro id forward found own reserved
  obtain ⟨between, found', same, period⟩ := later id forward found own reserved
  rw [← same] at own
  rw [← period] at reserved
  obtain ⟨before, there, same', period'⟩ := earlier id between found' own reserved
  exact ⟨before, there, same'.trans same, period'.trans period⟩

theorem step_reservedBefore {s next : System} {action : Action} {keyHash : String}
    (coherent : Coherent jwt settings s) (gone : known s.tenancy.db keyHash = false)
    (accepted : step standard ed jwt settings config s action = .ok next) :
    ReservedBefore keyHash s next := by
  cases step_stepped accepted with
  | tenancy => exact .refl keyHash s
  | arrived => exact .refl keyHash s
  | entered =>
    intro id forward found own reserved
    rcases Slots.snoc_cases found with rfl | earlier
    · cases reserved
    · exact ⟨forward, earlier, rfl, rfl⟩
  | @resumed id event forward rows call found allowed advanced =>
    intro place other there own reserved
    rcases Slots.set_cases there with ⟨rfl, rfl⟩ | ⟨-, earlier⟩
    · have advances := advance_advanced advanced
      rw [show forward.record.keyHash = keyHash from own, gone] at allowed
      rw [show forward.record.keyHash = keyHash from own, coherent.cascaded keyHash gone]
        at advances
      obtain ⟨-, period, -⟩ := advanced_absent advances allowed
      exact ⟨forward, found, rfl, period.symm⟩
    · exact ⟨other, earlier, rfl, rfl⟩

theorem run_reservedBefore {s : System} {actions : List Action} {record : ApiKeyRecord}
    (coherent : Coherent jwt settings s) (serves : Serves s record)
    (gone : known s.tenancy.db record.keyHash = false)
    (fresh : Transactional.Meets (step standard ed jwt settings config) Fresh s actions) :
    ReservedBefore record.keyHash s (run standard ed jwt settings config s actions) ∧
      (run standard ed jwt settings config s actions).rows record.keyHash = noRows := by
  induction actions generalizing s with
  | nil => exact ⟨.refl _ s, coherent.cascaded _ gone⟩
  | cons action rest ih =>
    obtain ⟨allowed, later⟩ := fresh
    rw [run, Transactional.run_cons]
    rcases @Transactional.commit_cases _ _ _ (step standard ed jwt settings config) s action with
      same | ⟨next, accepted, moved⟩
    · rw [same] at later ⊢
      exact ih coherent serves gone later
    · rw [moved] at later ⊢
      have fresh := allowed next accepted
      -- the key stays in use, so that it stays away
      obtain ⟨reserved, empty⟩ := ih (step_coherent coherent fresh accepted)
        (serves.step accepted) (fresh.stays_deleted accepted serves gone) later
      exact ⟨(step_reservedBefore coherent gone accepted).trans reserved, empty⟩

/-- Once the key of a request is deleted, none of its requests gets a place in a quota: those
that have one are calls that had it when the key was deleted. Nothing is counted for the key
any more. -/
theorem deleted_reserves_nothing {clock : Nat} {past later : List Action}
    (fresh : Transactional.Meets (step standard ed jwt settings config) Fresh (.start clock)
      (past ++ later)) {record : ApiKeyRecord}
    (serves : Serves (run standard ed jwt settings config (.start clock) past) record)
    (gone : known (run standard ed jwt settings config (.start clock) past).tenancy.db
      record.keyHash = false) :
    ReservedBefore record.keyHash (run standard ed jwt settings config (.start clock) past)
        (run standard ed jwt settings config (.start clock) (past ++ later)) ∧
      (run standard ed jwt settings config (.start clock) (past ++ later)).rows record.keyHash =
        noRows := by
  obtain ⟨before, after⟩ := (Transactional.meets_append _ past later).mp fresh
  have ended := run_reservedBefore (coherent_run before) serves gone after
  rw [run, run, Transactional.run_append]
  exact ended

/-! ## A key that is made, shown and deleted -/

/-- Whoever asks is the administrator. -/
def openSettings : Settings := { signInSettings with allowOpenKeys := true }

def ownerRow : KeyRow := keyRow zerosKey "owner" .developer 1777723300 none

def ownerRecord : ApiKeyRecord where
  keyHash := hashKey zerosKey
  tier := .developer
  owner := "owner"
  createdAt := 1777723300

def creation (stage : KeyStage) : KeyCall where
  handler := .createKey "owner"
  headers := []
  session := none
  stage
  authority := some .administrator

def created : KeyCall := creation (.ended (.ok (.created zerosKey .developer "owner")))

def deletion : KeyCall := .begin (.deleteKey (hashKey zerosKey)) [] none

def deleted : KeyCall := { deletion with
  stage := .ended (.ok (.deleted (hashKey zerosKey)))
  authority := some .administrator }

def keyed (apiKeys : List KeyRow) (calls : List KeyCall) : Tenancy.System where
  signIn := .start 0
  upserts := []
  db := { tenants := [], apiKeys }
  calls

/-- No request was counted yet. -/
def uncounted (tenancy : Tenancy.System) (arrivals : List Arrival) (forwards : List Forward) :
    System where
  tenancy
  rows _ := noRows
  clock := 0
  arrivals
  forwards

def keyRequest : Request := { Sample.request with headers := keyHeaders }

def keyMade : List Action :=
  [.tenancy (.request (.createKey "owner") [] none), .tenancy (.resume 0 working),
    .tenancy (.resume 0 working)]

/-- The key is deleted while a call with it has still to reserve. -/
def overtaken : List Action :=
  keyMade ++ [.arrive keyRequest, .enter 0 0,
    .tenancy (.request (.deleteKey (hashKey zerosKey)) [] none), .tenancy (.resume 1 working)]

abbrev machine : System → Action → Except Unit System :=
  step Base64.standard SignIn.oneSignature oneToken openSettings Sample.settings

theorem step_uncounted {before after : Tenancy.System} {action : Tenancy.Action}
    {arrivals : List Arrival} {forwards : List Forward}
    (stepped : Tenancy.step Base64.standard SignIn.oneSignature oneToken openSettings before
      action = .ok after) :
    machine (uncounted before arrivals forwards) (.tenancy action) =
      .ok (uncounted after arrivals forwards) := by
  have empty : cascade after.db (fun _ => noRows) = fun _ => noRows := by
    funext keyHash
    simp [cascade]
  simp [machine, step, uncounted, stepped, bind, Except.bind, empty]

theorem modelToRecord_ownerRow : modelToRecord ownerRow = .ok ownerRecord := by
  have tier : ownerRow.tier = tierText .developer := rfl
  exact modelToRecord_of_tier tier

theorem authenticate_owner :
    authenticateKey (keyed [ownerRow] [created]).db keyRequest.headers = .ok ownerRecord :=
  authenticateKey_of_mem (List.nodup_singleton _) List.mem_cons_self bearer_keyHeaders
    (generateKey_ne_empty zeros) rfl modelToRecord_ownerRow

/-! ### The steps -/

theorem requested_key : Tenancy.step Base64.standard SignIn.oneSignature oneToken openSettings
    (.start 0) (.request (.createKey "owner") [] none) =
      .ok (keyed [] [.begin (.createKey "owner") [] none]) := by
  rfl

theorem entered_key : Tenancy.step Base64.standard SignIn.oneSignature oneToken openSettings
    (keyed [] [.begin (.createKey "owner") [] none]) (.resume 0 working) =
      .ok (keyed [] [creation (.inserting zerosKey .developer ownerRow)]) := by
  rfl

theorem inserted_key : Tenancy.step Base64.standard SignIn.oneSignature oneToken openSettings
    (keyed [] [creation (.inserting zerosKey .developer ownerRow)]) (.resume 0 working) =
      .ok (keyed [ownerRow] [created]) := by
  rfl

theorem requested_deletion : Tenancy.step Base64.standard SignIn.oneSignature oneToken openSettings
    (keyed [ownerRow] [created]) (.request (.deleteKey (hashKey zerosKey)) [] none) =
      .ok (keyed [ownerRow] [created, deletion]) := by
  rfl

theorem deleted_key : Tenancy.step Base64.standard SignIn.oneSignature oneToken openSettings
    (keyed [ownerRow] [created, deletion]) (.resume 1 working) =
      .ok (keyed [] [created, deleted]) := by
  have named : Named (hashKey zerosKey) none ownerRow = true :=
    named_iff.mpr ⟨rfl, by rintro id ⟨⟩⟩
  have removed : removeKey { tenants := [], apiKeys := [ownerRow] } (hashKey zerosKey) none =
      ({ tenants := [], apiKeys := [] }, true) := by
    simp [removeKey, named]
  have started : deletion.start { tenants := [], apiKeys := [ownerRow] } working .administrator =
      ({ tenants := [], apiKeys := [] }, .ended (.ok (.deleted (hashKey zerosKey)))) := by
    simp only [KeyCall.start, deletion, KeyCall.begin, working, Authority.scope, removed]
  have authorized : authorize oneToken openSettings deletion working.now = .ok .administrator :=
    rfl
  have advanced : deletion.advance oneToken openSettings { tenants := [], apiKeys := [ownerRow] }
      working = .ok ({ tenants := [], apiKeys := [] }, deleted) := by
    have entered : deletion.stage = .entered := rfl
    simp only [KeyCall.advance, entered, authorized, started, deleted]
  have found : (keyed [ownerRow] [created, deletion]).calls[1]? = some deletion := rfl
  have there : (keyed [ownerRow] [created, deletion]).db =
      { tenants := [], apiKeys := [ownerRow] } := rfl
  simp only [Tenancy.step, found, there, advanced]
  rfl

/-! ### The runs -/

theorem run_keyMade (rest : List Action) :
    run Base64.standard SignIn.oneSignature oneToken openSettings Sample.settings (.start 0)
        (keyMade ++ rest) =
      run Base64.standard SignIn.oneSignature oneToken openSettings Sample.settings
        (uncounted (keyed [ownerRow] [created]) [] []) rest := by
  have first : machine (.start 0) (.tenancy (.request (.createKey "owner") [] none)) =
      .ok (uncounted (keyed [] [.begin (.createKey "owner") [] none]) [] []) :=
    step_uncounted requested_key
  rw [run, keyMade, List.cons_append, Transactional.run_cons_ok first, List.cons_append,
    Transactional.run_cons_ok (step_uncounted entered_key), List.cons_append,
    Transactional.run_cons_ok (step_uncounted inserted_key)]
  rfl

theorem arrived_key : machine (uncounted (keyed [ownerRow] [created]) [] []) (.arrive keyRequest) =
    .ok (uncounted (keyed [ownerRow] [created]) [⟨ownerRecord, keyRequest⟩] []) := by
  have authenticated : authenticateKey
      (uncounted (keyed [ownerRow] [created]) [] []).tenancy.db keyRequest.headers =
        .ok ownerRecord := authenticate_owner
  simp only [machine, step, authenticated]
  rfl

theorem meets_keyMade {guard : System → Action → Prop} {rest : List Action}
    (requested : guard (uncounted (.start 0) [] [])
      (.tenancy (.request (.createKey "owner") [] none)))
    (entered : guard (uncounted (keyed [] [.begin (.createKey "owner") [] none]) [] [])
      (.tenancy (.resume 0 working)))
    (inserted : guard (uncounted (keyed [] [creation (.inserting zerosKey .developer ownerRow)])
      [] []) (.tenancy (.resume 0 working)))
    (later : Transactional.Meets machine guard (uncounted (keyed [ownerRow] [created]) [] [])
      rest) :
    Transactional.Meets machine guard (.start 0) (keyMade ++ rest) := by
  have first : machine (.start 0) (.tenancy (.request (.createKey "owner") [] none)) =
      .ok (uncounted (keyed [] [.begin (.createKey "owner") [] none]) [] []) :=
    step_uncounted requested_key
  refine .cons first requested ?_
  refine .cons (step_uncounted entered_key) entered ?_
  exact .cons (step_uncounted inserted_key) inserted later

/-- Nobody has shown a key yet. -/
theorem fresh_uncounted (tenancy : Tenancy.System) (action : Action) :
    Fresh (uncounted tenancy [] []) action := by
  cases action with
  | tenancy action =>
    cases action with
    | resume id answers =>
      rintro call rawKey tier row - - record (⟨arrival, ⟨⟩, -⟩ | ⟨forward, ⟨⟩, -⟩)
    | _ => trivial
  | _ => trivial

/-! ### Another key -/

def ones : Bytes32 := ⟨List.replicate 32 1, rfl⟩

def onesKey : String := generateKey ones

def otherAnswers : Answers := { working with random := ones }

def otherRow : KeyRow := keyRow onesKey "other" .developer 1777723300 none

def otherRecord : ApiKeyRecord where
  keyHash := hashKey onesKey
  tier := .developer
  owner := "other"
  createdAt := 1777723300

def otherCreation (stage : KeyStage) : KeyCall :=
  { creation stage with handler := .createKey "other" }

def otherCreated : KeyCall :=
  otherCreation (.ended (.ok (.created onesKey .developer "other")))

def otherRequest : Request := { Sample.request with
  headers := [("authorization", ("Bearer " ++ onesKey).toUTF8.data.toList)] }

/-- Both keys are made before they are used. -/
def keysMade : List Action :=
  keyMade ++ [.tenancy (.request (.createKey "other") [] none),
    .tenancy (.resume 1 otherAnswers), .tenancy (.resume 1 otherAnswers)]

/-- What a call is answered on its way to its response. -/
def events : List Event :=
  [.tryReserve none, .check true, .readBody (.ok []), .send (.ok (Sample.response 200)),
    .recordDaily none]

/-- A request with each key, served side by side. -/
def bothServed : List Action :=
  .arrive keyRequest :: .arrive otherRequest :: .enter 0 0 :: .enter 0 0 ::
    events.flatMap fun event => [.resume 0 event, .resume 1 event]

theorem hashes_ne : hashKey zerosKey ≠ hashKey onesKey := by decide +kernel

theorem requested_other : Tenancy.step Base64.standard SignIn.oneSignature oneToken openSettings
    (keyed [ownerRow] [created]) (.request (.createKey "other") [] none) =
      .ok (keyed [ownerRow] [created, .begin (.createKey "other") [] none]) := by
  rfl

theorem entered_other : Tenancy.step Base64.standard SignIn.oneSignature oneToken openSettings
    (keyed [ownerRow] [created, .begin (.createKey "other") [] none]) (.resume 1 otherAnswers) =
      .ok (keyed [ownerRow]
        [created, otherCreation (.inserting onesKey .developer otherRow)]) := by
  rfl

theorem inserted_other : Tenancy.step Base64.standard SignIn.oneSignature oneToken openSettings
    (keyed [ownerRow] [created, otherCreation (.inserting onesKey .developer otherRow)])
    (.resume 1 otherAnswers) =
      .ok (keyed [ownerRow, otherRow] [created, otherCreated]) := by
  have inserted : insertKey { tenants := [], apiKeys := [ownerRow] } otherRow =
      some { tenants := [], apiKeys := [ownerRow, otherRow] } := by
    have apart : ownerRow.keyHash ≠ otherRow.keyHash := hashes_ne
    have free : otherRow.tenantId = none := rfl
    simp [insertKey, apart, free]
  have advanced : (otherCreation (.inserting onesKey .developer otherRow)).advance oneToken
      openSettings { tenants := [], apiKeys := [ownerRow] } otherAnswers =
        .ok ({ tenants := [], apiKeys := [ownerRow, otherRow] }, otherCreated) := by
    have fault : otherAnswers.fault = none := rfl
    have stage : (otherCreation (.inserting onesKey .developer otherRow)).stage =
      .inserting onesKey .developer otherRow := rfl
    simp only [KeyCall.advance, stage, fault, inserted]
    rfl
  have found : (keyed [ownerRow]
      [created, otherCreation (.inserting onesKey .developer otherRow)]).calls[1]? =
        some (otherCreation (.inserting onesKey .developer otherRow)) := rfl
  have there : (keyed [ownerRow]
      [created, otherCreation (.inserting onesKey .developer otherRow)]).db =
        { tenants := [], apiKeys := [ownerRow] } := rfl
  simp only [Tenancy.step, found, there, advanced]
  rfl

/-- The gateway with both keys. -/
def twoKeys : Tenancy.System := keyed [ownerRow, otherRow] [created, otherCreated]

theorem run_keysMade (rest : List Action) :
    run Base64.standard SignIn.oneSignature oneToken openSettings Sample.settings (.start 0)
        (keysMade ++ rest) =
      run Base64.standard SignIn.oneSignature oneToken openSettings Sample.settings
        (uncounted twoKeys [] []) rest := by
  rw [keysMade, List.append_assoc, run_keyMade, run, List.cons_append,
    Transactional.run_cons_ok (step_uncounted requested_other), List.cons_append,
    Transactional.run_cons_ok (step_uncounted entered_other), List.cons_append,
    Transactional.run_cons_ok (step_uncounted inserted_other)]
  rfl

theorem unique_twoKeys : (twoKeys.db.apiKeys.map KeyRow.keyHash).Nodup := by
  have apart : ownerRow.keyHash ≠ otherRow.keyHash := hashes_ne
  simpa [twoKeys, keyed] using apart

theorem modelToRecord_otherRow : modelToRecord otherRow = .ok otherRecord := by
  have tier : otherRow.tier = tierText .developer := rfl
  exact modelToRecord_of_tier tier

theorem arrived_both : ∃ s, machine (uncounted twoKeys [] []) (.arrive keyRequest) = .ok s ∧
    machine s (.arrive otherRequest) =
      .ok (uncounted twoKeys [⟨ownerRecord, keyRequest⟩, ⟨otherRecord, otherRequest⟩] []) := by
  have owner : authenticateKey (uncounted twoKeys [] []).tenancy.db keyRequest.headers =
      .ok ownerRecord :=
    authenticateKey_of_mem unique_twoKeys List.mem_cons_self bearer_keyHeaders
      (generateKey_ne_empty zeros) rfl modelToRecord_ownerRow
  have other : authenticateKey
      (uncounted twoKeys [⟨ownerRecord, keyRequest⟩] []).tenancy.db otherRequest.headers =
        .ok otherRecord :=
    authenticateKey_of_mem unique_twoKeys (List.mem_cons_of_mem _ (List.mem_singleton_self _))
      (by decide) (generateKey_ne_empty ones) rfl modelToRecord_otherRow
  refine ⟨uncounted twoKeys [⟨ownerRecord, keyRequest⟩] [], ?_, ?_⟩
  · simp only [machine, step, owner]
    rfl
  · simp only [machine, step, other]
    rfl

/-- Making the two keys is allowed by a guard that the six steps meet. -/
theorem meets_keysMade {guard : System → Action → Prop} {rest : List Action}
    (made : ∀ before action after,
      Tenancy.step Base64.standard SignIn.oneSignature oneToken openSettings before action =
          .ok after →
        (∀ row ∈ before.db.apiKeys, row ∈ after.db.apiKeys) →
          guard (uncounted before [] []) (.tenancy action))
    (later : Transactional.Meets machine guard (uncounted twoKeys [] []) rest) :
    Transactional.Meets machine guard (.start 0) (keysMade ++ rest) := by
  rw [keysMade, List.append_assoc]
  refine meets_keyMade (made _ _ _ requested_key ?_) (made _ _ _ entered_key ?_)
    (made _ _ _ inserted_key ?_) ?_
  · rintro row ⟨⟩
  · rintro row ⟨⟩
  · rintro row ⟨⟩
  refine .cons (step_uncounted requested_other)
    (made _ _ _ requested_other fun _ member => member) ?_
  refine .cons (step_uncounted entered_other) (made _ _ _ entered_other fun _ member => member) ?_
  exact .cons (step_uncounted inserted_other)
    (made _ _ _ inserted_other fun _ member => List.mem_append_left [otherRow] member) later

/-- A request is let in and served without a change to the keys. -/
theorem mem_bothServed {action : Action} (member : action ∈ bothServed) (s : System) :
    Fresh s action ∧ Returns s action ∧ ∀ keyHash,
      Keeps Base64.standard SignIn.oneSignature oneToken openSettings keyHash s action := by
  simp only [bothServed, events, List.mem_cons, List.mem_flatMap, List.not_mem_nil, or_false]
    at member
  rcases member with rfl | rfl | rfl | rfl | ⟨event, answered, rfl | rfl⟩
  iterate 4 exact ⟨trivial, trivial, fun _ => trivial⟩
  all_goals
    rcases answered with rfl | rfl | rfl | rfl | rfl
    all_goals exact ⟨trivial, trivial, fun _ => trivial⟩

theorem serves_bothServed : Serves (run Base64.standard SignIn.oneSignature oneToken openSettings
      Sample.settings (.start 0) (keysMade ++ bothServed)) ownerRecord ∧
    Serves (run Base64.standard SignIn.oneSignature oneToken openSettings Sample.settings
      (.start 0) (keysMade ++ bothServed)) otherRecord := by
  obtain ⟨s, owner, other⟩ := arrived_both
  have first : Serves (uncounted twoKeys
      [⟨ownerRecord, keyRequest⟩, ⟨otherRecord, otherRequest⟩] []) ownerRecord :=
    Or.inl ⟨⟨ownerRecord, keyRequest⟩, List.mem_cons_self, rfl⟩
  have second : Serves (uncounted twoKeys
      [⟨ownerRecord, keyRequest⟩, ⟨otherRecord, otherRequest⟩] []) otherRecord :=
    Or.inl ⟨⟨otherRecord, otherRequest⟩, List.mem_cons_of_mem _ (List.mem_singleton_self _), rfl⟩
  rw [run_keysMade, run, bothServed, Transactional.run_cons_ok owner,
    Transactional.run_cons_ok other]
  exact ⟨serves_run first _, serves_run second _⟩

theorem key_refines_owner : ∃ actions',
    Transactional.run (Gateway.step ownerRecord.tier Sample.settings) (.start noRows 0) actions' =
      (run Base64.standard SignIn.oneSignature oneToken openSettings Sample.settings (.start 0)
        (keysMade ++ bothServed)).traffic ownerRecord.keyHash := by
  refine key_refines (meets_keysMade ?_ ?_) serves_bothServed.1
  · intro before action after accepted grows
    refine ⟨fresh_uncounted _ _, fun tenancy accepted' there => ?_⟩
    obtain rfl : after = tenancy := Except.ok.inj (accepted.symm.trans accepted')
    obtain ⟨row, member, same⟩ := List.any_eq_true.mp there
    exact List.any_eq_true.mpr ⟨row, grows row member, same⟩
  · refine Transactional.meets_of_forall _ _ fun action member s => ?_
    obtain ⟨fresh, -, keeps⟩ := mem_bothServed member s
    exact ⟨fresh, keeps _⟩

theorem every_key_within_limit_owner : NoOverAdmission ownerRecord.tier
    ((run Base64.standard SignIn.oneSignature oneToken openSettings Sample.settings (.start 0)
      (keysMade ++ bothServed)).traffic ownerRecord.keyHash) := by
  refine every_key_within_limit (meets_keysMade ?_ ?_) serves_bothServed.1
  · intro before action after accepted grows
    exact ⟨fresh_uncounted _ _, trivial⟩
  · refine Transactional.meets_of_forall _ _ fun action member s => ?_
    obtain ⟨fresh, returns, -⟩ := mem_bothServed member s
    exact ⟨fresh, returns⟩

/-! ### A deletion -/

/-- The call that the deletion has overtaken. -/
def overtakenCall : Forward := ⟨ownerRecord, .begin 0 keyRequest⟩

theorem entered_call : machine
    (uncounted (keyed [ownerRow] [created]) [⟨ownerRecord, keyRequest⟩] []) (.enter 0 0) =
      .ok (uncounted (keyed [ownerRow] [created]) [] [overtakenCall]) := by
  rfl

theorem run_overtaken :
    run Base64.standard SignIn.oneSignature oneToken openSettings Sample.settings (.start 0)
        overtaken =
      uncounted (keyed [] [created, deleted]) [] [overtakenCall] := by
  rw [overtaken, run_keyMade, run, Transactional.run_cons_ok arrived_key,
    Transactional.run_cons_ok entered_call,
    Transactional.run_cons_ok (step_uncounted requested_deletion),
    Transactional.run_cons_ok (step_uncounted deleted_key)]
  rfl

theorem fresh_overtaken (answers : Event) : Transactional.Meets machine Fresh (.start 0)
    (overtaken ++ [.resume 0 answers]) := by
  rw [overtaken, List.append_assoc]
  refine meets_keyMade (fresh_uncounted _ _) (fresh_uncounted _ _) (fresh_uncounted _ _) ?_
  refine .cons arrived_key trivial ?_
  refine .cons entered_call trivial ?_
  refine .cons (step_uncounted requested_deletion) trivial ?_
  refine .cons (step_uncounted deleted_key) ?_ ?_
  · -- the request that goes on is the deletion, which inserts nothing
    intro call rawKey tier row found inserting
    obtain rfl : deletion = call := Option.some.inj found
    cases inserting
  · exact Transactional.meets_of_forall _ _ fun action member s => by
      rw [List.mem_singleton.mp member]
      trivial

theorem deleted_reserves_nothing_owner :
    ReservedBefore ownerRecord.keyHash
        (run Base64.standard SignIn.oneSignature oneToken openSettings Sample.settings (.start 0)
          overtaken)
        (run Base64.standard SignIn.oneSignature oneToken openSettings Sample.settings (.start 0)
          (overtaken ++ [.resume 0 (.tryReserve (some "foreign key"))])) ∧
      (run Base64.standard SignIn.oneSignature oneToken openSettings Sample.settings (.start 0)
        (overtaken ++ [.resume 0 (.tryReserve (some "foreign key"))])).rows ownerRecord.keyHash =
          noRows := by
  have serves : Serves (run Base64.standard SignIn.oneSignature oneToken openSettings
      Sample.settings (.start 0) overtaken) ownerRecord := by
    rw [run_overtaken]
    exact Or.inr ⟨overtakenCall, List.mem_singleton_self _, rfl⟩
  refine deleted_reserves_nothing (fresh_overtaken _) serves ?_
  rw [run_overtaken]
  rfl

end ZkSettle.Gateway.Serving
