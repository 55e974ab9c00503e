import ZkSettle.Gateway.Proxy
import ZkSettle.Library.Checks
import ZkSettle.Library.Runs

/-!
# Concurrent calls

All the calls that are made with one key. A call begins when its clock is read, and the
clock never goes back; from there on the calls advance in any order. What an advance does is
said once, in terms of what a stage means for the quota: that a reservation is under way,
that a billable response was delivered, that a failure has left the call without a release.
-/
namespace ZkSettle.Gateway

structure Traffic where
  rows : Rows
  clock : Nat
  calls : List Call

inductive Action where
  | call (now : Nat) (request : Request)
  | resume (id : Nat) (event : Event)

def Call.begin (now : Nat) (request : Request) : Call where
  now := now
  request := request
  stage := .entered
  period := none
  released := false

def Traffic.start (rows : Rows) (clock : Nat) : Traffic where
  rows := rows
  clock := clock
  calls := []

def step (tier : Tier) (config : Config) (s : Traffic) : Action → Except Unit Traffic
  | .call now request =>
    if s.clock ≤ now then .ok { s with clock := now, calls := s.calls ++ [.begin now request] }
    else .error ()
  | .resume id event =>
    match s.calls[id]? with
    | none => .error ()
    | some call => do
      let (rows, call) ← call.advance tier config s.rows event
      .ok { s with rows, calls := s.calls.set id call }

/-! ## What a stage means for the quota -/

/-- A reservation was taken, and the call has not ended. -/
def Stage.inFlight : Stage → Bool
  | .entered | .ended _ => false
  | _ => true

/-- The client has a 2xx or 3xx response of the upstream. -/
def Stage.delivered : Stage → Bool
  | .ended (.ok response) => billable response.status
  | _ => false

/-- The call has ended between its reservation and the release. -/
def Stage.lost : Stage → Bool
  | .ended (.error (.upstream _)) => true
  | _ => false

def Stage.isUnrecorded : Stage → Bool
  | .unrecorded _ _ => true
  | _ => false

/-- The body is too large or cannot be read, or the upstream cannot be reached. -/
def Event.loses : Event → Bool
  | .readBody body => !(toBytes body BODY_LIMIT).isOk
  | .send answer => !answer.isOk
  | _ => false

/-- A failure of `record_daily`. -/
def Event.unrecorded : Event → Bool
  | .recordDaily fault => fault.isSome
  | _ => false

theorem Stage.unended {stage : Stage} (inFlight : stage.inFlight = true) :
    stage.delivered = false ∧ stage.lost = false := by
  cases stage with
  | ended result => cases inFlight
  | _ => exact ⟨rfl, rfl⟩

theorem Stage.inFlight_answered {stage : Stage} {response : UpstreamResponse}
    (answered : stage = .answered response) : stage.inFlight = true := by
  rw [answered]
  rfl

/-- What a call does next: it reserves or is refused, goes on, ends without a release, has
its response recorded or not, or gives its place back. -/
inductive Advanced (tier : Tier) (rows : Rows) (call : Call) : Event → Rows → Call → Prop
  | reserved {row : UsageRecord} (entered : call.stage = .entered)
      (taken : Reserved tier.monthlyLimit rows.usage call.now row) :
      Advanced tier rows call (.tryReserve none) { rows with usage := some row }
        { call with stage := .reserved, period := some row.periodStart }
  | refused {fault : Option String} {error : GatewayError} (entered : call.stage = .entered)
      (refusal : error = .quotaExhausted ∨ ∃ message, error = .database message) :
      Advanced tier rows call (.tryReserve fault) rows { call with stage := .ended (.error error) }
  | moved {event : Event} {stage : Stage} (before : call.stage.inFlight = true)
      (after : stage.inFlight = true) (recorded : call.stage.isUnrecorded = false)
      (recording : stage.isUnrecorded = false) (quiet : event.loses = false)
      (unfailing : event.unrecorded = false) :
      Advanced tier rows call event rows { call with stage }
  | lost {event : Event} {message : String} (before : call.stage.inFlight = true)
      (recorded : call.stage.isUnrecorded = false) (loses : event.loses = true)
      (unfailing : event.unrecorded = false) :
      Advanced tier rows call event rows
        { call with stage := .ended (.error (.upstream message)) }
  | recorded {response : UpstreamResponse} (answered : call.stage = .answered response)
      (paid : billable response.status = true) :
      Advanced tier rows call (.recordDaily none)
        { rows with daily := recordDaily rows.daily call.now none }
        { call with stage := .ended (.ok (intoResponse response)) }
  | unrecorded {response : UpstreamResponse} {fault : RecordFault}
      (answered : call.stage = .answered response) (paid : billable response.status = true) :
      Advanced tier rows call (.recordDaily (some fault))
        { rows with daily := recordDaily rows.daily call.now (some fault) }
        { call with stage := .unrecorded response paid }
  | gaveBack {failed : Bool} {result : Except GatewayError UpstreamResponse}
      (before : call.stage.inFlight = true)
      (delivers : (Stage.ended result).delivered = call.stage.isUnrecorded)
      (ends : result = .error .rateLimited ∨ ∃ response, result = .ok response) :
      Advanced tier rows call (.release failed) (call.giveBack rows failed result).1
        (call.giveBack rows failed result).2

variable {tier : Tier} {config : Config}

theorem advance_advanced {rows rows' : Rows} {call call' : Call} {event : Event}
    (advanced : call.advance tier config rows event = .ok (rows', call')) :
    Advanced tier rows call event rows' call' := by
  cases event with
  | tryReserve fault =>
    simp only [Call.advance] at advanced
    split at advanced
    next entered =>
      -- the statement has failed, and nothing is reserved
      cases advanced
      exact .refused entered (Or.inr ⟨_, rfl⟩)
    next entered =>
      split at advanced
      next usage reserved =>
        obtain ⟨row, rfl, taken⟩ := tryReserve_reserved reserved
        cases advanced
        exact .reserved entered taken
      next usage refused =>
        obtain rfl := tryReserve_refused refused
        cases advanced
        exact .refused entered (Or.inl rfl)
    next => cases advanced
  | check allowed =>
    simp only [Call.advance] at advanced
    split at advanced
    next reserved =>
      cases advanced
      apply Advanced.moved (by rw [reserved]; rfl) _ (by rw [reserved]; rfl) _ rfl rfl
      · cases allowed <;> rfl
      · cases allowed <;> rfl
    next => cases advanced
  | readBody body =>
    simp only [Call.advance] at advanced
    split at advanced
    next admitted read =>
      cases advanced
      exact .moved (by rw [admitted]; rfl) rfl (by rw [admitted]; rfl) rfl
        (by rw [Event.loses, read]; rfl) rfl
    next admitted unread =>
      -- the call leaves with its reservation
      cases advanced
      exact .lost (by rw [admitted]; rfl) (by rw [admitted]; rfl)
        (by rw [Event.loses, unread]; rfl) rfl
    next => cases advanced
  | send answer =>
    simp only [Call.advance] at advanced
    split at advanced
    next sending =>
      cases advanced
      exact .moved (by rw [sending]; rfl) rfl (by rw [sending]; rfl) rfl rfl rfl
    next sending =>
      cases advanced
      exact .lost (by rw [sending]; rfl) (by rw [sending]; rfl) rfl rfl
    next => cases advanced
  | recordDaily fault =>
    simp only [Call.advance] at advanced
    split at advanced
    next response answered =>
      split at advanced
      next paid =>
        cases fault with
        | none =>
          cases advanced
          exact .recorded answered paid
        | some fault =>
          cases advanced
          exact .unrecorded answered paid
      next => cases advanced
    next => cases advanced
  | release failed =>
    simp only [Call.advance] at advanced
    split at advanced
    next limited =>
      obtain ⟨rfl, rfl⟩ := Prod.mk.inj (Except.ok.inj advanced)
      exact .gaveBack (by rw [limited]; rfl) (by rw [limited]; rfl) (Or.inl rfl)
    next response paid unrecorded =>
      -- the response was delivered, and its reservation goes all the same
      obtain ⟨rfl, rfl⟩ := Prod.mk.inj (Except.ok.inj advanced)
      exact .gaveBack (by rw [unrecorded]; rfl) (by rw [unrecorded]; exact paid)
        (Or.inr ⟨_, rfl⟩)
    next response answered =>
      split at advanced
      next => cases advanced
      next unpaid =>
        obtain ⟨rfl, rfl⟩ := Prod.mk.inj (Except.ok.inj advanced)
        exact .gaveBack (by rw [answered]; rfl)
          (by rw [answered]; exact Bool.eq_false_iff.mpr unpaid) (Or.inr ⟨_, rfl⟩)
    next => cases advanced

/-- The call that has begun last goes on. -/
theorem step_last {rows rows' : Rows} {clock : Nat} {calls : List Call} {call call' : Call}
    {event : Event} (advanced : call.advance tier config rows event = .ok (rows', call')) :
    step tier config ⟨rows, clock, calls ++ [call]⟩ (.resume calls.length event) =
      .ok ⟨rows', clock, calls ++ [call']⟩ := by
  have found : (calls ++ [call])[calls.length]? = some call := by simp
  rw [step, found, Checks.bind_eq_ok]
  refine ⟨(rows', call'), advanced, ?_⟩
  simp

/-- What a step does to the calls. -/
inductive Stepped (tier : Tier) (s : Traffic) : Action → Traffic → Prop
  | began {now : Nat} {request : Request} (later : s.clock ≤ now) :
      Stepped tier s (.call now request)
        { s with clock := now, calls := s.calls ++ [.begin now request] }
  | resumed {id : Nat} {event : Event} {call call' : Call} {rows : Rows}
      (found : s.calls[id]? = some call) (advanced : Advanced tier s.rows call event rows call') :
      Stepped tier s (.resume id event) { s with rows, calls := s.calls.set id call' }

theorem step_stepped {s next : Traffic} {action : Action}
    (accepted : step tier config s action = .ok next) : Stepped tier s action next := by
  cases action with
  | call now request =>
    rw [step] at accepted
    split at accepted
    next later =>
      cases accepted
      exact .began later
    next => cases accepted
  | resume id event =>
    rw [step] at accepted
    split at accepted
    next => cases accepted
    next call found =>
      obtain ⟨⟨rows, call'⟩, advanced, moved⟩ := Checks.bind_eq_ok.mp accepted
      cases moved
      exact .resumed found (advance_advanced advanced)

/-! ## Calls that are answered -/

namespace Sample

def settings : Config where
  upstreamUrl := "http://upstream.example"
  indexerUrl := none
  upstreamToken := none

def request : Request where
  method := "GET"
  path := "/v1/roots"
  query := none
  headers := []

def response (status : Nat) : UpstreamResponse where
  status := status
  headers := []
  body := []

/-- A call that the upstream answers. -/
def forwarded (id now : Nat) (status : Nat) : List Action :=
  [.call now request, .resume id (.tryReserve none), .resume id (.check true),
    .resume id (.readBody (.ok [])), .resume id (.send (.ok (response status)))]

/-- A call that is delivered and recorded. -/
def served (id now : Nat) : List Action :=
  forwarded id now 200 ++ [.resume id (.recordDaily none)]

/-- A call that the upstream has failed. -/
def failed (id now : Nat) : List Action :=
  forwarded id now 500 ++ [.resume id (.release false)]

/-- A call of either kind, one after the other. -/
def hour : List Action := served 0 0 ++ failed 1 1

/-- A call that holds its reservation. -/
def holding (now period : Nat) (stage : Stage) : Call where
  now := now
  request := request
  stage := stage
  period := some period
  released := false

/-- A call that has an error response, and has given its reservation back. -/
def returned (now period : Nat) : Call where
  now := now
  request := request
  stage := .ended (.ok (response 500))
  period := some period
  released := true

end Sample

open Sample Transactional

theorem run_forwarded {rows : Rows} {clock now status : Nat} {calls : List Call}
    {usage : UsageRecord} (later : clock ≤ now)
    (taken : tryReserve rows.usage now tier.monthlyLimit = (some usage, true)) :
    run (step tier config) ⟨rows, clock, calls⟩ (forwarded calls.length now status) =
      ⟨{ rows with usage := some usage }, now, calls ++
        [holding now usage.periodStart (.answered (response status))]⟩ := by
  have began : step tier config ⟨rows, clock, calls⟩ (.call now request) =
      .ok ⟨rows, now, calls ++ [.begin now request]⟩ := if_pos later
  have reserved : (Call.begin now request).advance tier config rows (.tryReserve none) =
      .ok ({ rows with usage := some usage }, holding now usage.periodStart .reserved) := by
    simp [Call.advance, Call.begin, taken, holding]
  have checked : ∀ rows, (holding now usage.periodStart .reserved).advance tier config rows
      (.check true) = .ok (rows, holding now usage.periodStart .admitted) := fun _ => rfl
  have read : ∀ rows, (holding now usage.periodStart .admitted).advance tier config rows
      (.readBody (.ok [])) = .ok (rows, holding now usage.periodStart
        (.sending (upstreamRequest config request []))) := by
    simp [Call.advance, toBytes, holding]
  have sent : ∀ rows upstream, (holding now usage.periodStart (.sending upstream)).advance tier
      config rows (.send (.ok (response status))) =
        .ok (rows, holding now usage.periodStart (.answered (response status))) :=
    fun _ _ => rfl
  rw [forwarded, run_cons_ok began, run_cons_ok (step_last reserved),
    run_cons_ok (step_last (checked _)), run_cons_ok (step_last (read _)),
    run_cons_ok (step_last (sent _ _)), run_nil]

theorem run_served {rows : Rows} {clock now : Nat} {calls : List Call} {usage : UsageRecord}
    (later : clock ≤ now)
    (taken : tryReserve rows.usage now tier.monthlyLimit = (some usage, true)) :
    run (step tier config) ⟨rows, clock, calls⟩ (served calls.length now) =
      ⟨⟨some usage, recordDaily rows.daily now none⟩, now, calls ++
        [holding now usage.periodStart (.ended (.ok (response 200)))]⟩ := by
  have recorded : ∀ rows, (holding now usage.periodStart (.answered (response 200))).advance tier
      config rows (.recordDaily none) = .ok ({ rows with daily := recordDaily rows.daily now none },
        holding now usage.periodStart (.ended (.ok (response 200)))) := fun _ => rfl
  rw [served, run_append, run_forwarded later taken, run_cons_ok (step_last (recorded _)), run_nil]

theorem run_failed {rows : Rows} {clock now : Nat} {calls : List Call} {usage : UsageRecord}
    (later : clock ≤ now)
    (taken : tryReserve rows.usage now tier.monthlyLimit = (some usage, true)) :
    run (step tier config) ⟨rows, clock, calls⟩ (failed calls.length now) =
      ⟨{ rows with usage := release (some usage) }, now, calls ++
        [returned now usage.periodStart]⟩ := by
  have released : ∀ rows, (holding now usage.periodStart (.answered (response 500))).advance tier
      config rows (.release false) =
        .ok ({ rows with usage := release rows.usage }, returned now usage.periodStart) :=
    fun _ => rfl
  rw [failed, run_append, run_forwarded later taken, run_cons_ok (step_last (released _)), run_nil]

theorem run_served_first (daily : DailyUsage) :
    run (step .developer config) (.start ⟨none, daily⟩ 0) (served 0 0) =
      ⟨⟨some ⟨1, 0, 0⟩, recordDaily daily 0 none⟩, 0,
        [holding 0 0 (.ended (.ok (response 200)))]⟩ := by
  have first : run (step .developer config) (.start ⟨none, daily⟩ 0)
      (served ([] : List Call).length 0) = _ := run_served (Nat.le_refl 0) rfl
  exact first

theorem tryReserve_second : tryReserve (some ⟨1, 0, 0⟩) 1 (Tier.monthlyLimit .developer) =
    (some ⟨2, 0, 1⟩, true) := by
  simp [tryReserve, PERIOD_SECS, Tier.monthlyLimit]

/-- What is left of the two calls is the one that was delivered. -/
theorem run_hour (daily : DailyUsage) :
    run (step .developer config) (.start ⟨none, daily⟩ 0) hour =
      ⟨⟨some ⟨1, 0, 1⟩, recordDaily daily 0 none⟩, 1,
        [holding 0 0 (.ended (.ok (response 200))), returned 1 0]⟩ := by
  have second : run (step .developer config) ⟨⟨some ⟨1, 0, 0⟩, recordDaily daily 0 none⟩, 0,
      [holding 0 0 (.ended (.ok (response 200)))]⟩
      (failed [holding 0 0 (.ended (.ok (response 200)))].length 1) = _ :=
    run_failed (Nat.zero_le 1) tryReserve_second
  rw [hour, run_append, run_served_first]
  exact second

end ZkSettle.Gateway
