import ZkSettle.Gateway.Calls
import ZkSettle.Library.Slots

/-!
# Billing

What a key is billed for. The count of a period is that of the reservations which nobody has
given back. A call that leaves by a `?` after its reservation keeps it although nobody was
served, and a failure of `record_daily` gives one back although the response is delivered:
the count is right when there are as many of the one kind as of the other.
-/
namespace ZkSettle.Gateway

open Transactional Sample

variable {tier : Tier} {config : Config}

/-- What the row has counted in a period. -/
def requestCount (usage : Option UsageRecord) (period : Nat) : Nat :=
  match usage with
  | some row => if row.periodStart = period then row.requestCount else 0
  | none => 0

/-- The failures that the calls of a run have met. -/
structure Faults where
  /-- bodies that are too large or unreadable, and transport errors -/
  lost : Nat
  /-- failures of `record_daily` -/
  unrecorded : Nat

def Faults.note (faults : Faults) (_ : Traffic) : Action → Faults
  | .call _ _ => faults
  | .resume _ event =>
    ⟨faults.lost + event.loses.toNat, faults.unrecorded + event.unrecorded.toNat⟩

/-- The failures of a run. -/
def faultsOf (tier : Tier) (config : Config) (s : Traffic) (actions : List Action) : Faults :=
  history (step tier config) Faults.note ⟨0, 0⟩ s actions

def ReleaseSucceeds (_ : Traffic) : Action → Prop
  | .resume _ (.release failed) => failed = false
  | _ => True

/-- Every reservation was taken in the one period. -/
def OnePeriod (period : Nat) (s : Traffic) : Prop :=
  ∀ call ∈ s.calls, ∀ start, call.period = some start → start = period

def Traffic.Ended (s : Traffic) : Prop := ∀ call ∈ s.calls, ∃ result, call.stage = .ended result

/-- The calls that have returned a 2xx or 3xx response. -/
def Traffic.delivered (s : Traffic) : Nat := s.calls.countP fun call => call.stage.delivered

/-! ## A call's reservation -/

/-- What the stage says about the reservation, when releases succeed. -/
def Call.Shaped (call : Call) : Prop :=
  match call.stage with
  | .entered => call.period = none ∧ call.released = false
  | .ended (.ok response) =>
    call.period.isSome = true ∧ (billable response.status = false → call.released = true)
  | .ended (.error (.upstream _)) => call.period.isSome = true ∧ call.released = false
  | .ended (.error .rateLimited) => call.released = true
  | .ended (.error _) => call.period = none
  | _ => call.period.isSome = true ∧ call.released = false

def Call.held (call : Call) : Bool := call.period.isSome && !call.released

/-- The response goes out without being billed. -/
def Call.unbilled (call : Call) : Bool :=
  call.stage.isUnrecorded || (call.stage.delivered && call.released)

theorem Call.shaped_inFlight {call : Call} (inFlight : call.stage.inFlight = true) :
    call.Shaped ↔ call.period.isSome = true ∧ call.released = false := by
  rw [Call.Shaped]
  cases stage : call.stage with
  | entered => simp [stage, Stage.inFlight] at inFlight
  | ended result => simp [stage, Stage.inFlight] at inFlight
  | _ => exact Iff.rfl

/-- A call that has ended holds a reservation for its response, or has lost it. -/
theorem Call.Shaped.ended {call : Call} (shaped : call.Shaped)
    (ended : ∃ result, call.stage = .ended result) :
    call.held.toNat + call.unbilled.toNat =
      call.stage.delivered.toNat + call.stage.lost.toNat := by
  obtain ⟨result, ended⟩ := ended
  rw [Call.Shaped, ended] at shaped
  rw [Call.held, Call.unbilled, ended]
  cases result with
  | ok response =>
    obtain ⟨reserved, returned⟩ := shaped
    cases paid : billable response.status with
    | true =>
      -- delivered, and either still held or given back after a failure of `record_daily`
      cases call.released <;> simp [reserved, Stage.isUnrecorded, Stage.delivered, Stage.lost, paid]
    | false => simp [returned paid, Stage.isUnrecorded, Stage.delivered, Stage.lost, paid]
  | error error =>
    cases error with
    | rateLimited =>
      -- this exit releases, the next one does not
      have returned : call.released = true := shaped
      simp [returned, Stage.isUnrecorded, Stage.delivered, Stage.lost]
    | upstream message =>
      obtain ⟨reserved, kept⟩ := shaped
      simp [reserved, kept, Stage.isUnrecorded, Stage.delivered, Stage.lost]
    | _ =>
      have unreserved : call.period = none := shaped
      simp [unreserved, Stage.isUnrecorded, Stage.delivered, Stage.lost]

/-- What a call does next, for its reservation and for the failures it meets. -/
structure Accounted (call call' : Call) (event : Event) : Prop where
  shaped : call'.Shaped
  lost : call'.stage.lost.toNat = call.stage.lost.toNat + event.loses.toNat
  unbilled : call'.unbilled.toNat = call.unbilled.toNat + event.unrecorded.toNat

theorem Call.unbilled_inFlight {call : Call} (inFlight : call.stage.inFlight = true) :
    call.unbilled = call.stage.isUnrecorded := by
  rw [Call.unbilled, (Stage.unended inFlight).1]
  simp

theorem Advanced.accounted {rows rows' : Rows} {call call' : Call} {event : Event}
    (advanced : Advanced tier rows call event rows' call') (shaped : call.Shaped)
    (succeeds : event ≠ .release true) : Accounted call call' event := by
  cases advanced with
  | reserved entered taken =>
    rw [Call.Shaped, entered] at shaped
    refine ⟨⟨rfl, shaped.2⟩, ?_, ?_⟩
    · simp [entered, Stage.lost, Event.loses]
    · simp [Call.unbilled, entered, Stage.isUnrecorded, Stage.delivered, Event.unrecorded]
  | refused entered refusal =>
    rw [Call.Shaped, entered] at shaped
    obtain ⟨unreserved, kept⟩ := shaped
    rcases refusal with rfl | ⟨message, rfl⟩
    all_goals
      refine ⟨unreserved, ?_, ?_⟩
      · simp [entered, Stage.lost, Event.loses]
      · simp [Call.unbilled, entered, Stage.isUnrecorded, Stage.delivered, Event.unrecorded]
  | moved before after recorded recording quiet unfailing =>
    have shaped' := (Call.shaped_inFlight before).mp shaped
    refine ⟨(Call.shaped_inFlight after).mpr shaped', ?_, ?_⟩
    · rw [(Stage.unended before).2, (Stage.unended after).2, quiet]
      rfl
    · rw [Call.unbilled_inFlight before, Call.unbilled_inFlight after, recorded, recording,
        unfailing]
      rfl
  | lost before recorded loses unfailing =>
    refine ⟨(Call.shaped_inFlight before).mp shaped, ?_, ?_⟩
    · rw [(Stage.unended before).2, loses]
      rfl
    · rw [Call.unbilled_inFlight before, recorded, unfailing]
      rfl
  | recorded answered paid =>
    have before := Stage.inFlight_answered answered
    obtain ⟨reserved, kept⟩ := (Call.shaped_inFlight before).mp shaped
    refine ⟨⟨reserved, fun unpaid => absurd (paid.symm.trans unpaid) (by decide)⟩, ?_, ?_⟩
    · rw [(Stage.unended before).2]
      rfl
    · rw [Call.unbilled_inFlight before, answered]
      simp [Call.unbilled, kept, Stage.isUnrecorded, Event.unrecorded]
  | unrecorded answered paid =>
    have before := Stage.inFlight_answered answered
    refine ⟨(Call.shaped_inFlight before).mp shaped, ?_, ?_⟩
    · rw [(Stage.unended before).2]
      rfl
    · rw [Call.unbilled_inFlight before, answered]
      rfl
  | @gaveBack failed result before delivers ends =>
    obtain rfl : failed = false := by simpa using succeeds
    obtain ⟨reserved, _⟩ := (Call.shaped_inFlight before).mp shaped
    have unbilled : ((call.giveBack rows false result).2.unbilled).toNat =
        call.unbilled.toNat + (Event.release false).unrecorded.toNat := by
      rw [Call.unbilled_inFlight before, ← delivers]
      simp [Call.unbilled, Call.giveBack, Stage.isUnrecorded, Event.unrecorded]
    have unlost := (Stage.unended before).2
    -- a rate-limited call needs no period: it is the release that says it has ended well
    rcases ends with rfl | ⟨response, rfl⟩
    · exact ⟨rfl, by rw [unlost]; rfl, unbilled⟩
    · exact ⟨⟨reserved, fun _ => rfl⟩, by rw [unlost]; rfl, unbilled⟩

/-- The row counts a reservation when the call begins to hold it, and no longer when it has
given it back. -/
theorem Advanced.counted {rows rows' : Rows} {call call' : Call} {event : Event} {period : Nat}
    (advanced : Advanced tier rows call event rows' call') (shaped : call.Shaped)
    (succeeds : event ≠ .release true)
    (onePeriod : ∀ start, call'.period = some start → start = period)
    (counts : call.held = true → 0 < requestCount rows.usage period) :
    requestCount rows'.usage period + call.held.toNat =
      requestCount rows.usage period + call'.held.toNat := by
  cases advanced with
  | @reserved row entered taken =>
    rw [Call.Shaped, entered] at shaped
    obtain rfl := onePeriod _ rfl
    -- the row has counted nothing in the period if the reservation has opened it
    cases taken with
    | first absent => simp [requestCount, absent, Call.held, shaped]
    | @rolled old present expired =>
      have positive : 0 < PERIOD_SECS := by decide
      have earlier : old.periodStart ≠ call.now := by omega
      simp [requestCount, present, Call.held, shaped, earlier]
    | counted present free => simp [requestCount, present, Call.held, shaped]
  | @gaveBack failed result before =>
    obtain rfl : failed = false := by simpa using succeeds
    obtain ⟨reserved, kept⟩ := (Call.shaped_inFlight before).mp shaped
    have held : call.held = true := by simp [Call.held, reserved, kept]
    have counted := counts held
    have given : (call.giveBack rows false result).2.held = false := by
      simp [Call.held, Call.giveBack]
    rw [held, given]
    -- the count is positive, so there is a row, it is in the period, and it can be lowered
    cases usage : rows.usage with
    | none => simp [requestCount, usage] at counted
    | some row =>
      by_cases current : row.periodStart = period
      · simp [requestCount, usage, current] at counted
        simp [requestCount, Call.giveBack, release, usage, current]
        omega
      · simp [requestCount, usage, current] at counted
  | refused | moved | lost | recorded | unrecorded => rfl

/-- A call keeps the period of its reservation. -/
theorem Advanced.period_kept {rows rows' : Rows} {call call' : Call} {event : Event} {start : Nat}
    (advanced : Advanced tier rows call event rows' call') (shaped : call.Shaped)
    (reserved : call.period = some start) : call'.period = some start := by
  cases advanced with
  | reserved entered taken =>
    rw [Call.Shaped, entered, reserved] at shaped
    cases shaped.1
  | @gaveBack failed result =>
    cases failed
    · exact reserved
    · exact reserved
  | refused | moved | lost | recorded | unrecorded => exact reserved

/-- If the calls are in one period after one of them has gone on, they were before. -/
theorem OnePeriod.before {period id : Nat} {s : Traffic} {call call' : Call} {rows rows' : Rows}
    {event : Event}
    (onePeriod : OnePeriod period { s with rows := rows', calls := s.calls.set id call' })
    (found : s.calls[id]? = some call) (advanced : Advanced tier rows call event rows' call')
    (shaped : call.Shaped) : OnePeriod period s := by
  intro other member start reserved
  rcases Slots.mem_set_or_eq found member call' with rfl | stays
  · exact onePeriod call' (Slots.mem_set_self found call') start
      (advanced.period_kept shaped reserved)
  · exact onePeriod other stays start reserved

/-! ## Runs -/

/-- The failures so far are found in the calls, and so is the count while there is one period. -/
structure Balanced (period : Nat) (s : Traffic) (faults : Faults) : Prop where
  shaped : ∀ call ∈ s.calls, call.Shaped
  lost : faults.lost = s.calls.countP fun call => call.stage.lost
  unbilled : faults.unrecorded = s.calls.countP Call.unbilled
  counted : OnePeriod period s → requestCount s.rows.usage period = s.calls.countP Call.held

theorem balanced_start {rows : Rows} {period : Nat} (clock : Nat)
    (fresh : requestCount rows.usage period = 0) :
    Balanced period (.start rows clock) ⟨0, 0⟩ where
  shaped := by simp [Traffic.start]
  lost := rfl
  unbilled := rfl
  counted _ := fresh

theorem step_balanced {period : Nat} {s next : Traffic} {faults : Faults} {action : Action}
    (balanced : Balanced period s faults) (succeeds : ReleaseSucceeds s action)
    (accepted : step tier config s action = .ok next) :
    Balanced period next (faults.note s action) := by
  obtain ⟨shaped, lost, unbilled, counted⟩ := balanced
  cases step_stepped accepted with
  | @began now request later =>
    refine ⟨?_, ?_, ?_, ?_⟩
    · intro call member
      rcases List.mem_append.mp member with old | new
      · exact shaped call old
      · cases List.mem_singleton.mp new
        exact ⟨rfl, rfl⟩
    · rw [List.countP_append]
      exact lost
    · rw [List.countP_append]
      exact unbilled
    · intro onePeriod
      rw [List.countP_append]
      exact counted fun call member => onePeriod call (List.mem_append_left _ member)
  | @resumed id event call call' rows found advanced =>
    have here := shaped call (List.mem_of_getElem? found)
    have succeeds : event ≠ .release true := by
      rintro rfl
      cases succeeds
    obtain ⟨shaped', lost', unbilled'⟩ := advanced.accounted here succeeds
    -- only one call has changed, so each count changes by that call's own
    have lostCount := Quota.countP_set_add (fun call => call.stage.lost) call' found
    have unbilledCount := Quota.countP_set_add Call.unbilled call' found
    have heldCount := Quota.countP_set_add Call.held call' found
    refine ⟨?_, ?_, ?_, ?_⟩
    · intro other member
      rcases List.mem_or_eq_of_mem_set member with old | rfl
      · exact shaped other old
      · exact shaped'
    · simp only [Faults.note]
      omega
    · simp only [Faults.note]
      omega
    · intro onePeriod
      obtain ⟨inside, _⟩ := List.getElem?_eq_some_iff.mp found
      have balance := counted (onePeriod.before found advanced here)
      have counts : call.held = true → 0 < requestCount s.rows.usage period := by
        intro held
        rw [balance]
        exact List.countP_pos_iff.mpr ⟨call, List.mem_of_getElem? found, held⟩
      have one := onePeriod call' (List.mem_set inside call')
      have moved := advanced.counted here succeeds one counts
      simp only
      omega

/-- What is counted and what was delivered differ by the failures. -/
theorem run_balance {rows : Rows} {clock period : Nat} {actions : List Action}
    (fresh : requestCount rows.usage period = 0)
    (succeeds : Meets (step tier config) ReleaseSucceeds (.start rows clock) actions)
    (onePeriod : OnePeriod period (run (step tier config) (.start rows clock) actions))
    (ended : (run (step tier config) (.start rows clock) actions).Ended) :
    requestCount (run (step tier config) (.start rows clock) actions).rows.usage period +
        (faultsOf tier config (.start rows clock) actions).unrecorded =
      (run (step tier config) (.start rows clock) actions).delivered +
        (faultsOf tier config (.start rows clock) actions).lost := by
  have stepped : ∀ s faults action next, Balanced period s faults → ReleaseSucceeds s action →
      step tier config s action = .ok next → Balanced period next (faults.note s action) :=
    fun _ _ _ _ balanced succeeds accepted => step_balanced balanced succeeds accepted
  have balanced := history_invariant_of_meets stepped (.start rows clock) ⟨0, 0⟩ actions succeeds
    (balanced_start clock fresh)
  rw [← faultsOf] at balanced
  rw [balanced.counted onePeriod, balanced.unbilled, balanced.lost]
  exact Quota.countP_add_congr fun call member =>
    (balanced.shaped call member).ended (ended call member)

/-- When every call of a period has ended, and releases have not failed, the key is billed for
what was delivered exactly if as many calls were lost as went out unrecorded. -/
theorem billed_iff (tier : Tier) (config : Config) (rows : Rows) (clock period : Nat)
    (actions : List Action) (fresh : requestCount rows.usage period = 0)
    (succeeds : Meets (step tier config) ReleaseSucceeds (.start rows clock) actions)
    (onePeriod : OnePeriod period (run (step tier config) (.start rows clock) actions))
    (ended : (run (step tier config) (.start rows clock) actions).Ended) :
    requestCount (run (step tier config) (.start rows clock) actions).rows.usage period =
        (run (step tier config) (.start rows clock) actions).delivered ↔
      (faultsOf tier config (.start rows clock) actions).lost =
        (faultsOf tier config (.start rows clock) actions).unrecorded := by
  have balance := run_balance fresh succeeds onePeriod ended
  omega

theorem releaseSucceeds_hour (s : Traffic) :
    Meets (step tier config) ReleaseSucceeds s hour := by
  apply meets_of_forall
  intro action member s
  simp only [hour, served, failed, forwarded, List.cons_append, List.nil_append, List.mem_cons,
    List.not_mem_nil, or_false] at member
  rcases member with rfl | rfl | rfl | rfl | rfl | rfl | rfl | rfl | rfl | rfl | rfl | rfl
  all_goals trivial

theorem billed_hour :
    requestCount
        (run (step .developer settings) (.start ⟨none, fun _ => none⟩ 0) hour).rows.usage 0 =
      (run (step .developer settings) (.start ⟨none, fun _ => none⟩ 0) hour).delivered := by
  have met : (faultsOf .developer settings (.start ⟨none, fun _ => none⟩ 0) hour).lost =
      (faultsOf .developer settings (.start ⟨none, fun _ => none⟩ 0) hour).unrecorded := by
    rfl
  refine (billed_iff _ _ _ _ _ _ rfl (releaseSucceeds_hour _) ?_ ?_).mpr met
  · rw [run_hour]
    simp [OnePeriod, holding, returned]
  · rw [run_hour]
    simp [Traffic.Ended, holding, returned]

namespace Sample

/-- A call whose body breaks off. -/
def brokenOff : List Action :=
  [.call 0 request, .resume 0 (.tryReserve none), .resume 0 (.check true),
    .resume 0 (.readBody (.error "connection reset"))]

end Sample

theorem run_brokenOff (daily : DailyUsage) :
    run (step tier config) (.start ⟨none, daily⟩ 0) brokenOff =
      ⟨⟨some ⟨1, 0, 0⟩, daily⟩, 0,
        [holding 0 0 (.ended (.error (.upstream "connection reset")))]⟩ := rfl

/-- The call that broke off is billed. -/
theorem not_billed : ¬ ∀ (tier : Tier) (config : Config) (rows : Rows) (clock period : Nat)
    (actions : List Action), requestCount rows.usage period = 0 →
    Meets (step tier config) ReleaseSucceeds (.start rows clock) actions →
    OnePeriod period (run (step tier config) (.start rows clock) actions) →
    (run (step tier config) (.start rows clock) actions).Ended →
    requestCount (run (step tier config) (.start rows clock) actions).rows.usage period =
      (run (step tier config) (.start rows clock) actions).delivered := by
  intro always
  have succeeds : Meets (step .developer settings) ReleaseSucceeds
      (.start ⟨none, fun _ => none⟩ 0) brokenOff := by
    apply meets_of_forall
    intro action member s
    simp only [brokenOff, List.mem_cons, List.not_mem_nil, or_false] at member
    rcases member with rfl | rfl | rfl | rfl
    all_goals trivial
  have billed := always .developer settings ⟨none, fun _ => none⟩ 0 0 brokenOff rfl succeeds
  rw [run_brokenOff] at billed
  have counted := billed (by simp [OnePeriod, holding]) (by simp [Traffic.Ended, holding])
  cases counted

end ZkSettle.Gateway
