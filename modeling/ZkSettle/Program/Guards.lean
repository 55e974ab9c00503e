import ZkSettle.Program.Reference

/-!
# Every settlement passed every guard

The checks of a settlement are spread over account constraints, the staging of a
payload, the handlers and the pairing check, with another mixture on each path. An
event of a settlement shows that all of them held, whichever path was taken.
-/
namespace ZkSettle.Program

variable {Proof Address World : Type} (env : External Proof Address World)

theorem Settled.events {env : External Proof Address World} {s s' : State World} {call : Call}
    {params : SettlementParams} (settled : Settled env s call s' params) :
    s'.events = s.events ++ [.proofSettled params.event] := by
  obtain ⟨s₁, core, events, -⟩ := settled.core
  rw [events, settleCore_events core]

/-- What an accepted call emits was guarded in the state the call met. -/
theorem settlements_guarded (world : World) (calls : List Call) (call : Call) (s' : State World)
    (accepted : step env (run env (.deployed world) calls) call = .ok s') :
    ∃ emitted, s'.events = (run env (.deployed world) calls).events ++ emitted ∧
      ∀ event, Event.proofSettled event ∈ emitted →
        ∃ settlement, call.settlement env (run env (.deployed world) calls) = some settlement ∧
          Guarded env (run env (.deployed world) calls) settlement.clock settlement.bundle
            event := by
  have valid : FinalizedPayloadsValid (run env (.deployed world) calls) :=
    run_finalizedPayloadsValid world calls
  rcases step_quiet_or_settled valid accepted with quiet | ⟨params, settled⟩
  · -- a quiet call emits nothing or an attestation check
    rcases quiet.events with same | ⟨checked, -, same⟩
    · refine ⟨[], by rw [same, List.append_nil], ?_⟩
      intro event member
      cases member
    · refine ⟨[.attestationChecked checked], same, ?_⟩
      intro event member
      simp at member
  · -- a settlement emits its own event, which is the guarded one
    refine ⟨[.proofSettled params.event], settled.events, ?_⟩
    intro event member
    rw [List.mem_singleton, Event.proofSettled.injEq] at member
    obtain ⟨settlement, about, -, -, -, guarded⟩ := settled.settlement
    rw [member]
    exact ⟨settlement, about, guarded⟩

open Scenario in
theorem settlements_guarded_verifyProof : ∃ s',
    step reference (run reference (.deployed []) prepare) (settle bindings 20) = .ok s' ∧
    ∃ emitted, s'.events = (run reference (.deployed []) prepare).events ++ emitted ∧
      ∀ event, Event.proofSettled event ∈ emitted → ∃ settlement,
        (settle bindings 20).settlement reference (run reference (.deployed []) prepare) =
          some settlement ∧
        Guarded reference (run reference (.deployed []) prepare) settlement.clock
          settlement.bundle event := by
  have settles : (step reference prepared (settle bindings 20)).isOk = true := by decide +kernel
  rw [← run_prepare] at settles
  obtain ⟨s', accepted⟩ := Checks.exists_eq_ok settles
  exact ⟨s', accepted, settlements_guarded reference [] prepare _ s' accepted⟩

end ZkSettle.Program
