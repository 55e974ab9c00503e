import ZkSettle.Gateway.Calls

/-!
# Admission

How many billable responses a key gets in one period. A call claims a place in the period of
its reservation while it is under way and when it has been delivered; the row counts at least
the claims of its own period. A release lowers the count of whatever period the row has come
to, and after a failure of `record_daily` it does so for a call that is delivered: only the
releases of undelivered calls, in the period that counted them, keep the quota.
-/
namespace ZkSettle.Gateway

open Transactional Sample

variable {tier : Tier} {config : Config}

def Call.deliveredIn (period : Nat) (call : Call) : Bool :=
  call.period == some period && call.stage.delivered

def Call.claims (period : Nat) (call : Call) : Bool :=
  call.period == some period && (call.stage.inFlight || call.stage.delivered)

def Traffic.deliveredIn (s : Traffic) (period : Nat) : Nat :=
  s.calls.countP (Call.deliveredIn period)

def Traffic.claims (s : Traffic) (period : Nat) : Nat := s.calls.countP (Call.claims period)

/-- No more billable responses to the calls that reserved in one period than the tier has. -/
def NoOverAdmission (tier : Tier) (s : Traffic) : Prop :=
  ∀ period, s.deliveredIn period ≤ tier.monthlyLimit

/-- A release that lowers the count is that of a call which was not delivered, and the row is
still in the period of the call's reservation. -/
def GivesOwnBack (s : Traffic) : Action → Prop
  | .resume id (.release false) => ∀ call row, s.calls[id]? = some call →
      s.rows.usage = some row → row.requestCount = 0 ∨
        (call.stage.isUnrecorded = false ∧ call.period = some row.periodStart)
  | _ => True

/-! ## The row as a counter -/

/-- The row is a counter that keeps the claims within the limit. -/
def Admitted (tier : Tier) (usage : Option UsageRecord) (claims : Nat → Nat) : Prop :=
  match usage with
  | none => ∀ period, claims period = 0
  | some row => Quota.Within tier.monthlyLimit row.counter claims

section

variable {usage : Option UsageRecord} {claims claims' : Nat → Nat}

theorem admitted_zero (usage : Option UsageRecord) : Admitted tier usage fun _ => 0 := by
  cases usage with
  | none => exact fun _ => rfl
  | some row => exact ⟨Nat.zero_le _, fun _ => Nat.zero_le _, fun _ _ => rfl⟩

theorem Admitted.le_limit (admitted : Admitted tier usage claims) (period : Nat) :
    claims period ≤ tier.monthlyLimit := by
  cases usage with
  | none => exact (admitted period).le.trans (Nat.zero_le _)
  | some row => exact admitted.bounded period

theorem Admitted.of_le (admitted : Admitted tier usage claims)
    (fewer : ∀ period, claims' period ≤ claims period) : Admitted tier usage claims' := by
  cases usage with
  | none => exact fun period => Nat.le_zero.mp ((fewer period).trans (admitted period).le)
  | some row => exact Quota.Within.of_le admitted fewer

/-- A reservation claims a place in the period that the row then has. -/
theorem Admitted.reserve {now : Nat} {row : UsageRecord} (admitted : Admitted tier usage claims)
    (taken : Reserved tier.monthlyLimit usage now row)
    (here : claims' row.periodStart = claims row.periodStart + 1)
    (others : ∀ period, period ≠ row.periodStart → claims' period = claims period) :
    Admitted tier (some row) claims' := by
  have fewer := fun period other => (others period other).le
  cases taken with
  | first absent =>
    subst absent
    apply Quota.within_first now tier.monthlyLimit_pos
    · exact (here.trans (by rw [admitted])).le
    · exact fun period other => (others period other).trans (admitted period)
  | rolled present expired =>
    subst present
    have positive : 0 < PERIOD_SECS := by decide
    have later := lt_of_lt_of_le (Nat.lt_add_of_pos_right positive) expired
    exact Quota.Within.roll admitted later tier.monthlyLimit_pos here.le fewer
  | counted present free =>
    subst present
    exact Quota.Within.take admitted free here.le fewer

/-- A release keeps the quota when the claim that goes is one of the row's own period, and
when there is nothing to lower. -/
theorem Admitted.release (admitted : Admitted tier usage claims)
    (fewer : ∀ period, claims' period ≤ claims period)
    (own : ∀ row, usage = some row → row.requestCount = 0 ∨
      claims' row.periodStart + 1 ≤ claims row.periodStart) :
    Admitted tier (release usage) claims' := by
  cases usage with
  | none => exact Admitted.of_le admitted fewer
  | some row =>
    rcases own row rfl with empty | given
    · exact Quota.Within.give_zero admitted empty fewer
    · exact Quota.Within.give admitted given fun period _ => fewer period

end

/-! ## One step -/

theorem Call.claims_entered {call : Call} (entered : call.stage = .entered) (period : Nat) :
    call.claims period = false := by
  rw [Call.claims, entered]
  exact Bool.and_false _

/-- A call that stays in its period claims no more than it has. -/
theorem Call.claims_le {call call' : Call} (inFlight : call.stage.inFlight = true)
    (same : call'.period = call.period) (period : Nat) :
    (call'.claims period).toNat ≤ (call.claims period).toNat := by
  rw [Call.claims, Call.claims, same, inFlight, Bool.true_or]
  cases call.period == some period
  · exact (Bool.toNat_false).le
  · exact Bool.toNat_le _

/-- The claims after one call has changed. -/
theorem claims_set {s : Traffic} {id : Nat} {call : Call} (call' : Call) (period : Nat)
    (found : s.calls[id]? = some call) :
    (s.calls.set id call').countP (Call.claims period) + (call.claims period).toNat =
      s.claims period + (call'.claims period).toNat :=
  Quota.countP_set_add (Call.claims period) call' found

theorem step_admitted {s next : Traffic} {action : Action}
    (admitted : Admitted tier s.rows.usage s.claims) (own : GivesOwnBack s action)
    (accepted : step tier config s action = .ok next) :
    Admitted tier next.rows.usage next.claims := by
  cases step_stepped accepted with
  | began later =>
    apply admitted.of_le
    intro period
    simp [Traffic.claims, Call.claims_entered, Call.begin]
  | @resumed id event call call' rows found advanced =>
    have moved := fun period => claims_set call' period found
    have fewer : (∀ period, (call'.claims period).toNat ≤ (call.claims period).toNat) →
        ∀ period, (s.calls.set id call').countP (Call.claims period) ≤ s.claims period := by
      intro less period
      have bound := less period
      have counted := moved period
      omega
    -- what most advances do: the row stays, and the call claims no more than before
    have kept : rows.usage = s.rows.usage →
        (∀ period, (call'.claims period).toNat ≤ (call.claims period).toNat) →
        Admitted tier rows.usage fun period =>
          (s.calls.set id call').countP (Call.claims period) := by
      intro same less
      rw [same]
      exact admitted.of_le (fewer less)
    cases advanced with
    | @reserved row entered taken =>
      have counted : ∀ period,
          (s.calls.set id { call with stage := .reserved, period := some row.periodStart }).countP
            (Call.claims period) = s.claims period + (row.periodStart == period).toNat := by
        intro period
        have reserved := moved period
        rw [Call.claims_entered entered] at reserved
        simpa [Call.claims, Stage.inFlight] using reserved
      apply admitted.reserve taken
      · rw [Traffic.claims, counted, beq_self_eq_true]
        rfl
      · intro period other
        rw [Traffic.claims, counted, beq_false_of_ne other.symm]
        rfl
    | refused entered refusal =>
      apply kept rfl
      intro period
      simp [Call.claims, Stage.inFlight, Stage.delivered]
    | moved before => exact kept rfl (Call.claims_le before rfl)
    | lost before => exact kept rfl (Call.claims_le before rfl)
    | recorded answered paid =>
      exact kept rfl (Call.claims_le (Stage.inFlight_answered answered) rfl)
    | unrecorded answered paid =>
      exact kept rfl (Call.claims_le (Stage.inFlight_answered answered) rfl)
    | @gaveBack failed result before delivers =>
      cases failed with
      | true => exact kept rfl (Call.claims_le before rfl)
      | false =>
        apply admitted.release (fewer (Call.claims_le before rfl))
        intro row present
        refine (own call row found present).imp_right ?_
        rintro ⟨undelivered, current⟩
        -- the claim that goes is one of the period that the row is in
        have counted := moved row.periodStart
        have claimed : call.claims row.periodStart = true := by
          simp [Call.claims, current, before]
        have gone : (call.giveBack s.rows false result).2.claims row.periodStart = false := by
          rw [undelivered] at delivers
          simp [Call.claims, Call.giveBack, delivers, Stage.inFlight]
        rw [claimed, gone] at counted
        exact counted.le

/-! ## Runs -/

/-- As long as every release gives back the place of an undelivered call of the period that the
row is in, no period has more billable responses than the tier allows. -/
theorem run_noOverAdmission (tier : Tier) (config : Config) (rows : Rows) (clock : Nat)
    (actions : List Action)
    (own : Meets (step tier config) GivesOwnBack (.start rows clock) actions) :
    NoOverAdmission tier (run (step tier config) (.start rows clock) actions) := by
  have started : Admitted tier rows.usage fun _ => 0 := admitted_zero rows.usage
  have admitted := run_invariant_of_meets
    (fun _ _ _ admitted own accepted => step_admitted admitted own accepted)
    (.start rows clock) actions own started
  intro period
  apply le_trans _ (admitted.le_limit period)
  apply List.countP_mono_left
  intro call _ delivered
  rw [Call.deliveredIn, Bool.and_eq_true] at delivered
  simp [Call.claims, delivered]

theorem meets_forwarded (s : Traffic) (id now status : Nat) :
    Meets (step tier config) GivesOwnBack s (forwarded id now status) := by
  apply meets_of_forall
  intro action member s
  simp only [forwarded, List.mem_cons, List.not_mem_nil, or_false] at member
  rcases member with rfl | rfl | rfl | rfl | rfl
  all_goals trivial

/-- A call that the upstream has failed gives its own place back. -/
theorem meets_failed {rows : Rows} {clock now : Nat} {calls : List Call} {usage : UsageRecord}
    (later : clock ≤ now)
    (taken : tryReserve rows.usage now tier.monthlyLimit = (some usage, true)) :
    Meets (step tier config) GivesOwnBack ⟨rows, clock, calls⟩ (failed calls.length now) := by
  rw [failed, meets_append, run_forwarded later taken]
  refine ⟨meets_forwarded _ _ _ _, fun _ _ => ?_, trivial⟩
  intro call row found present
  obtain rfl : _ = call := by simpa using found
  obtain rfl : usage = row := by simpa using present
  exact Or.inr ⟨rfl, rfl⟩

theorem run_noOverAdmission_hour :
    NoOverAdmission .developer
      (run (step .developer settings) (.start ⟨none, fun _ => none⟩ 0) hour) := by
  apply run_noOverAdmission
  rw [hour, served, meets_append, meets_append, ← served, run_served_first]
  refine ⟨⟨meets_forwarded _ _ _ _, fun _ _ => trivial, trivial⟩, ?_⟩
  have second : Meets (step .developer settings) GivesOwnBack
      ⟨⟨some ⟨1, 0, 0⟩, recordDaily (fun _ => none) 0 none⟩, 0,
        [holding 0 0 (.ended (.ok (response 200)))]⟩
      (failed [holding 0 0 (.ended (.ok (response 200)))].length 1) :=
    meets_failed (Nat.zero_le 1) tryReserve_second
  exact second

namespace Sample

/-- A call that is delivered, and whose usage cannot be recorded. -/
def unrecorded (id now : Nat) : List Action :=
  forwarded id now 200 ++ [.resume id (.recordDaily (some .insert)), .resume id (.release false)]

/-- One call a second, on a day when `daily_usage` cannot be written. -/
def evening (seconds : Nat) : List Action :=
  (List.range seconds).flatMap fun now => unrecorded now now

/-- A call that was delivered, and has given its reservation back all the same. -/
def delivered (now : Nat) : Call where
  now := now
  request := request
  stage := .ended (.ok (response 200))
  period := some 0
  released := true

end Sample

/-- The reservation of a delivered call is free again. -/
theorem run_unrecorded {rows : Rows} {clock now : Nat} {calls : List Call} (later : clock ≤ now)
    (taken : tryReserve rows.usage now tier.monthlyLimit = (some ⟨1, 0, now⟩, true)) :
    run (step tier config) ⟨rows, clock, calls⟩ (unrecorded calls.length now) =
      ⟨{ rows with usage := some ⟨0, 0, now⟩ }, now, calls ++ [delivered now]⟩ := by
  have paid : billable (response 200).status = true := by decide
  have failed : ∀ rows, (holding now 0 (.answered (response 200))).advance tier config rows
      (.recordDaily (some .insert)) =
        .ok (rows, holding now 0 (.unrecorded (response 200) paid)) := fun _ => rfl
  have released : (holding now 0 (.unrecorded (response 200) paid)).advance tier config
      { rows with usage := some ⟨1, 0, now⟩ } (.release false) =
        .ok ({ rows with usage := some ⟨0, 0, now⟩ }, delivered now) := rfl
  rw [unrecorded, run_append, run_forwarded later taken, run_cons_ok (step_last (failed _)),
    run_cons_ok (step_last released), run_nil]

theorem run_evening (daily : DailyUsage) (seconds : Nat) (short : seconds < PERIOD_SECS) :
    run (step tier config) (.start ⟨none, daily⟩ 0) (evening (seconds + 1)) =
      ⟨⟨some ⟨0, 0, seconds⟩, daily⟩, seconds, (List.range (seconds + 1)).map delivered⟩ := by
  induction seconds with
  | zero =>
    have first : run (step tier config) ⟨⟨none, daily⟩, 0, []⟩
        (unrecorded ([] : List Call).length 0) = _ := run_unrecorded (Nat.le_refl 0) rfl
    exact first
  | succ seconds ih =>
    -- the period has not ended, and the row is back at zero
    have running : ¬ 0 + PERIOD_SECS ≤ seconds + 1 := by omega
    have taken : tryReserve (some ⟨0, 0, seconds⟩) (seconds + 1) tier.monthlyLimit =
        (some ⟨1, 0, seconds + 1⟩, true) := by
      simp only [tryReserve, if_neg running, if_pos tier.monthlyLimit_pos]
    rw [evening, List.range_succ, List.flatMap_append, run_append, ← evening,
      ih (Nat.lt_of_succ_lt short), List.flatMap_singleton]
    have next : run (step tier config)
        ⟨⟨some ⟨0, 0, seconds⟩, daily⟩, seconds, (List.range (seconds + 1)).map delivered⟩
        (unrecorded ((List.range (seconds + 1)).map delivered).length (seconds + 1)) = _ :=
      run_unrecorded (Nat.le_succ seconds) taken
    rw [List.length_map, List.length_range] at next
    rw [next]
    simp [List.range_succ]

/-- All of them are billable responses in the one period. -/
theorem deliveredIn_evening (daily : DailyUsage) (seconds : Nat) (short : seconds < PERIOD_SECS) :
    (run (step tier config) (.start ⟨none, daily⟩ 0) (evening (seconds + 1))).deliveredIn 0 =
      seconds + 1 := by
  have all : ∀ call ∈ (List.range (seconds + 1)).map delivered,
      Call.deliveredIn 0 call = true := by
    intro call member
    obtain ⟨now, _, rfl⟩ := List.mem_map.mp member
    rfl
  rw [run_evening daily seconds short, Traffic.deliveredIn, List.countP_eq_length.mpr all,
    List.length_map, List.length_range]

/-! ### A late release -/

namespace Sample

/-- An error response to a call of the first period arrives when the next one has begun. -/
def crossing : List Action :=
  forwarded 0 (PERIOD_SECS - 1) 500 ++ served 1 PERIOD_SECS ++ [.resume 0 (.release false)]

/-- So many calls after it, one a second. -/
def late (calls : Nat) : List Action :=
  crossing ++ (List.range calls).flatMap fun second =>
    served (second + 2) (PERIOD_SECS + (second + 1))

/-- The late call, and the ones delivered in the next period. -/
def lateCalls (calls : Nat) : List Call :=
  returned (PERIOD_SECS - 1) 0 :: (List.range calls).map fun second =>
    holding (PERIOD_SECS + second) PERIOD_SECS (.ended (.ok (response 200)))

end Sample

theorem length_lateCalls (calls : Nat) : (lateCalls calls).length = calls + 1 := by
  simp [lateCalls]

theorem lateCalls_succ (calls : Nat) :
    lateCalls (calls + 1) = lateCalls calls ++
      [holding (PERIOD_SECS + calls) PERIOD_SECS (.ended (.ok (response 200)))] := by
  simp [lateCalls, List.range_succ]

theorem deliveredIn_lateCalls (calls : Nat) :
    (lateCalls calls).countP (Call.deliveredIn PERIOD_SECS) = calls := by
  induction calls with
  | zero => simp [lateCalls, Call.deliveredIn, returned, Stage.delivered, response, billable]
  | succ calls ih =>
    rw [lateCalls_succ, List.countP_append, ih]
    simp [Call.deliveredIn, holding, Stage.delivered, response, billable]

/-- The release lowers the count of the new period to nothing, with one call delivered in it. -/
theorem run_crossing (tier : Tier) (config : Config) (daily : DailyUsage) :
    run (step tier config) (.start ⟨some ⟨0, 0, 0⟩, daily⟩ 0) crossing =
      ⟨⟨some ⟨0, PERIOD_SECS, PERIOD_SECS⟩, recordDaily daily PERIOD_SECS none⟩, PERIOD_SECS,
        lateCalls 1⟩ := by
  have positive : 0 < PERIOD_SECS := by decide
  have running : ¬ 0 + PERIOD_SECS ≤ PERIOD_SECS - 1 := by omega
  have taken : tryReserve (some ⟨0, 0, 0⟩) (PERIOD_SECS - 1) tier.monthlyLimit =
      (some ⟨1, 0, PERIOD_SECS - 1⟩, true) := by
    simp only [tryReserve, if_neg running, if_pos tier.monthlyLimit_pos]
  have first : run (step tier config) ⟨⟨some ⟨0, 0, 0⟩, daily⟩, 0, []⟩
      (forwarded ([] : List Call).length (PERIOD_SECS - 1) 500) = _ :=
    run_forwarded (Nat.zero_le _) taken
  -- the next call opens a period of its own, and the late release lowers that one's count
  have rolled : tryReserve (some ⟨1, 0, PERIOD_SECS - 1⟩) PERIOD_SECS tier.monthlyLimit =
      (some ⟨1, PERIOD_SECS, PERIOD_SECS⟩, true) := by
    simp [tryReserve]
  have second : run (step tier config) ⟨⟨some ⟨1, 0, PERIOD_SECS - 1⟩, daily⟩, PERIOD_SECS - 1,
      [holding (PERIOD_SECS - 1) 0 (.answered (response 500))]⟩
      (served [holding (PERIOD_SECS - 1) 0 (.answered (response 500))].length PERIOD_SECS) = _ :=
    run_served (Nat.sub_le _ _) rolled
  have released : step tier config ⟨⟨some ⟨1, PERIOD_SECS, PERIOD_SECS⟩,
      recordDaily daily PERIOD_SECS none⟩, PERIOD_SECS,
      [holding (PERIOD_SECS - 1) 0 (.answered (response 500)),
        holding PERIOD_SECS PERIOD_SECS (.ended (.ok (response 200)))]⟩
      (.resume 0 (.release false)) =
        .ok ⟨⟨some ⟨0, PERIOD_SECS, PERIOD_SECS⟩, recordDaily daily PERIOD_SECS none⟩,
          PERIOD_SECS, lateCalls 1⟩ := rfl
  have before := (congrArg (run (step tier config) · (served 1 PERIOD_SECS)) first).trans second
  rw [crossing, run_append, run_append]
  exact (congrArg (run (step tier config) · [.resume 0 (.release false)]) before).trans
    (run_cons_ok released [])

/-- However many places the tier has, all of them are still free. -/
theorem run_late (tier : Tier) (config : Config) (daily : DailyUsage) (calls : Nat)
    (free : calls ≤ tier.monthlyLimit) (running : calls < PERIOD_SECS) :
    ∃ daily', run (step tier config) (.start ⟨some ⟨0, 0, 0⟩, daily⟩ 0) (late calls) =
      ⟨⟨some ⟨calls, PERIOD_SECS, PERIOD_SECS + calls⟩, daily'⟩, PERIOD_SECS + calls,
        lateCalls (calls + 1)⟩ := by
  induction calls with
  | zero => exact ⟨recordDaily daily PERIOD_SECS none, run_crossing tier config daily⟩
  | succ calls ih =>
    obtain ⟨daily', before⟩ := ih (Nat.le_of_succ_le free) (Nat.lt_of_succ_lt running)
    -- the count is one behind the calls delivered in the period
    have within : ¬ PERIOD_SECS + PERIOD_SECS ≤ PERIOD_SECS + (calls + 1) := by omega
    have taken : tryReserve (some ⟨calls, PERIOD_SECS, PERIOD_SECS + calls⟩)
        (PERIOD_SECS + (calls + 1)) tier.monthlyLimit =
          (some ⟨calls + 1, PERIOD_SECS, PERIOD_SECS + (calls + 1)⟩, true) := by
      simp only [tryReserve, if_neg within, if_pos (Nat.lt_of_succ_le free)]
    have next : run (step tier config)
        ⟨⟨some ⟨calls, PERIOD_SECS, PERIOD_SECS + calls⟩, daily'⟩, PERIOD_SECS + calls,
          lateCalls (calls + 1)⟩
        (served (lateCalls (calls + 1)).length (PERIOD_SECS + (calls + 1))) = _ :=
      run_served (Nat.le_succ _) taken
    rw [length_lateCalls] at next
    refine ⟨recordDaily daily' (PERIOD_SECS + (calls + 1)) none, ?_⟩
    rw [late, List.range_succ, List.flatMap_append, ← List.append_assoc, ← late, run_append,
      before, List.flatMap_singleton, lateCalls_succ (calls + 1)]
    exact next

theorem deliveredIn_late (tier : Tier) (config : Config) (daily : DailyUsage) (calls : Nat)
    (free : calls ≤ tier.monthlyLimit) (running : calls < PERIOD_SECS) :
    (run (step tier config) (.start ⟨some ⟨0, 0, 0⟩, daily⟩ 0) (late calls)).deliveredIn
      PERIOD_SECS = calls + 1 := by
  obtain ⟨daily', after⟩ := run_late tier config daily calls free running
  rw [after, Traffic.deliveredIn, deliveredIn_lateCalls]

/-- A thousand and one billable responses in one period. -/
theorem not_noOverAdmission : ¬ ∀ (tier : Tier) (config : Config) (rows : Rows) (clock : Nat)
    (actions : List Action),
    NoOverAdmission tier (run (step tier config) (.start rows clock) actions) := by
  intro always
  have admitted := always .developer settings ⟨some ⟨0, 0, 0⟩, fun _ => none⟩ 0 (late 1000)
    PERIOD_SECS
  have running : 1000 < PERIOD_SECS := by simp [PERIOD_SECS]
  rw [deliveredIn_late _ _ _ _ (Nat.le_refl 1000) running] at admitted
  exact absurd admitted (Nat.not_succ_le_self 1000)

end ZkSettle.Gateway
