import ZkSettle.Program.Reference

/-!
# Single settlement

The only barrier against a second settlement of a nullifier is the compressed
address derived from it, and the address also depends on the address tree that the
caller names. A pair that is always settled in one tree is settled at most once; in
two trees it is settled twice.
-/
namespace ZkSettle.Program

variable {Proof Address World : Type} {env : External Proof Address World}

/-- The pairs of issuer and nullifier that have been settled, in order. -/
def State.settled (s : State World) : List (Pubkey × Bytes32) :=
  s.events.filterMap fun event => match event with
    | .proofSettled event => some (event.issuer, event.nullifierHash)
    | .attestationChecked _ => none

/-- A settlement names the one address tree of its pair. -/
def NamesTree (env : External Proof Address World) (treeOf : Pubkey × Bytes32 → Pubkey)
    (s : State World) (call : Call) : Prop :=
  ∀ settlement tree, call.settlement env s = some settlement →
    settlement.addressTree = some tree →
      tree = treeOf (settlement.issuer, settlement.nullifierHash)

/-- The nullifier address of a pair in its tree. -/
def nullifierEntry (env : External Proof Address World) (treeOf : Pubkey × Bytes32 → Pubkey)
    (pair : Pubkey × Bytes32) : Pubkey × Address :=
  (treeOf pair, (env.nullifierAddress pair.1 pair.2 (treeOf pair)).1)

/-- No pair is settled twice, and the address of each settled pair exists. -/
structure Barred (env : External Proof Address World) (holds : World → Pubkey × Address → Prop)
    (treeOf : Pubkey × Bytes32 → Pubkey) (s : State World) : Prop where
  valid : FinalizedPayloadsValid s
  nodup : s.settled.Nodup
  held : ∀ pair ∈ s.settled, holds s.world (nullifierEntry env treeOf pair)

/-- `settle_core` creates the nullifier address in the tree it names. -/
theorem nullifier_created {params : SettlementParams} {tree : Pubkey}
    (named : params.addressTree env = some tree) :
    (tree, (env.nullifierAddress params.issuerBytes params.nullifierHash tree).1) ∈
      (params.lightCpi env tree).created env.getTreePubkey := by
  rw [SettlementParams.addressTree] at named
  simp only [LightCpi.created, SettlementParams.lightCpi, List.filterMap_cons]
  simp [named, LightAccount.address]

theorem settled_of_quiet {s s' : State World} (quiet : Quiet env s s') :
    s'.settled = s.settled := by
  rcases quiet.events with same | ⟨event, -, same⟩
  · rw [State.settled, same, State.settled]
  · rw [State.settled, same, List.filterMap_append]
    exact List.append_nil _

theorem step_barred {holds : World → Pubkey × Address → Prop} (book : AddressBook env holds)
    {treeOf : Pubkey × Bytes32 → Pubkey} (s : State World) (call : Call) (s' : State World)
    (barred : Barred env holds treeOf s) (names : NamesTree env treeOf s call)
    (accepted : step env s call = .ok s') : Barred env holds treeOf s' := by
  have valid := step_finalizedPayloadsValid barred.valid accepted
  rcases step_quiet_or_settled barred.valid accepted with quiet | ⟨params, settled⟩
  · -- nothing is settled, and what other programs do keeps the addresses
    refine ⟨valid, ?_, ?_⟩
    · rw [settled_of_quiet quiet]
      exact barred.nodup
    · intro pair member
      rw [settled_of_quiet quiet] at member
      exact book.moves_keeps quiet.world (barred.held pair member)
  · obtain ⟨settlement, about, issuer, nullifier, tree, -⟩ := settled.settlement
    obtain ⟨s₁, core, events, moves⟩ := settled.core
    obtain ⟨named, world, names_tree, -, invoked, rfl⟩ := (settleCore_eq_ok env).mp core
    have sameTree := names settlement named about (tree.trans names_tree)
    rw [issuer, nullifier] at sameTree
    have created := nullifier_created names_tree
    rw [settled.issuerBytes] at created
    -- the entry that Light has just created is the barrier of this pair
    have entry : nullifierEntry env treeOf (params.issuerKey, params.nullifierHash) =
        (named, (env.nullifierAddress params.issuerKey params.nullifierHash named).1) := by
      rw [nullifierEntry, ← sameTree]
    have appended : s'.settled = s.settled ++ [(params.issuerKey, params.nullifierHash)] := by
      rw [State.settled, events, List.filterMap_append]
      rfl
    refine ⟨valid, ?_, ?_⟩
    · rw [appended, List.nodup_append]
      refine ⟨barred.nodup, List.nodup_singleton _, ?_⟩
      intro pair member other new same
      -- a pair settled before has its address in this tree, where Light would reject it
      rw [List.mem_singleton] at new
      have held := barred.held pair member
      rw [same, new, entry] at held
      exact book.fresh invoked created held
    · intro pair member
      apply book.moves_keeps moves
      rw [appended, List.mem_append, List.mem_singleton] at member
      rcases member with earlier | rfl
      · exact book.lightInvoke_keeps invoked (barred.held pair earlier)
      · rw [entry]
        exact book.recorded invoked created

/-- A run in which every pair keeps to one address tree settles no pair twice. -/
theorem settled_once {holds : World → Pubkey × Address → Prop} (book : AddressBook env holds)
    (treeOf : Pubkey × Bytes32 → Pubkey) (world : World) (calls : List Call)
    (names : Transactional.Meets (step env) (NamesTree env treeOf) (.deployed world) calls) :
    (run env (.deployed world) calls).settled.Nodup := by
  have barred : Barred env holds treeOf (run env (.deployed world) calls) := by
    apply Transactional.run_invariant_of_meets (step_barred book) _ _ names
    refine ⟨?_, List.nodup_nil, fun pair member => absurd member (List.not_mem_nil)⟩
    intro address payload dataLen found
    cases found
  exact barred.nodup

open Scenario in
/-- The second attempt with the same pair and tree is refused. -/
theorem settled_once_one_tree :
    let calls := prepare ++ [settle bindings 20, settle bindings 20]
    (run reference (.deployed []) calls).settled = [(issuer, nullifierHash)] ∧
      (run reference (.deployed []) calls).settled.Nodup := by
  refine ⟨?_, settled_once reference_addressBook (fun _ => .ofNat 20) _ _ ?_⟩
  · rw [run_prepare_append]
    decide +kernel
  · apply Transactional.meets_of_forall
    intro call member s settlement tree about named
    simp only [prepare, List.cons_append, List.nil_append, List.mem_cons, List.not_mem_nil,
      or_false] at member
    rcases member with rfl | rfl | rfl | rfl
    · cases about
    · cases about
    all_goals
      cases about
      cases named
      rfl

open Scenario in
/-- One nullifier is settled in two address trees. -/
theorem not_settled_once :
    ¬ ∀ (Proof Address World : Type) (env : External Proof Address World)
        (holds : World → Pubkey × Address → Prop), AddressBook env holds →
      AddressesInjective env → ∀ (world : World) (calls : List Call),
        (run env (.deployed world) calls).settled.Nodup := by
  intro once
  -- the same proof twice, with trees 20 and 21 in the remaining accounts
  have nodup := once _ _ _ reference _ reference_addressBook reference_addressesInjective []
    (prepare ++ [settle bindings 20, settle bindings 21])
  rw [run_prepare_append] at nodup
  have twice : (run reference prepared [settle bindings 20, settle bindings 21]).settled =
      [(issuer, nullifierHash), (issuer, nullifierHash)] := by decide +kernel
  rw [twice] at nodup
  exact absurd (List.mem_singleton_self _) (List.nodup_cons.mp nodup).1

end ZkSettle.Program
