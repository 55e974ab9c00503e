import Mathlib.Data.List.Induction
import Mathlib.Tactic.Common

/-!
# Transactional runs

A machine answers each call with a new state or with an error. A call that
fails is rolled back. `run` is the state after any sequence of calls, accepted
or not; an invariant of the accepted steps is an invariant of every run, also
when only the steps allowed by a guard keep it. `history` is what was noted of the
accepted calls on the way, for invariants that relate a state to its past.
-/
namespace Transactional

universe u v w

variable {σ : Type u} {ι : Type v} {ε : Type w} (step : σ → ι → Except ε σ)

/-- One call: the machine's new state, or the old one when the call is rejected. -/
def commit (state : σ) (call : ι) : σ :=
  match step state call with
  | .ok next => next
  | .error _ => state

def run (state : σ) (calls : List ι) : σ := calls.foldl (commit step) state

/-- Every call of the run that is accepted satisfies the guard in the state it meets. -/
def Meets (guard : σ → ι → Prop) : σ → List ι → Prop
  | _, [] => True
  | state, call :: rest =>
    (∀ next, step state call = .ok next → guard state call) ∧
      Meets guard (commit step state call) rest

variable {step}

@[simp] theorem run_nil (state : σ) : run step state [] = state := rfl

@[simp] theorem run_cons (state : σ) (call : ι) (rest : List ι) :
    run step state (call :: rest) = run step (commit step state call) rest := rfl

theorem run_append (state : σ) (first second : List ι) :
    run step state (first ++ second) = run step (run step state first) second :=
  List.foldl_append

@[simp] theorem commit_ok {state next : σ} {call : ι} (accepted : step state call = .ok next) :
    commit step state call = next := by
  simp [commit, accepted]

/-- A run goes on from the state after its first call. -/
theorem run_cons_ok {state next : σ} {call : ι} (accepted : step state call = .ok next)
    (rest : List ι) : run step state (call :: rest) = run step next rest := by
  rw [run_cons, commit_ok accepted]

theorem commit_cases (state : σ) (call : ι) :
    commit step state call = state ∨ ∃ next, step state call = .ok next ∧
      commit step state call = next := by
  cases outcome : step state call with
  | error e => exact Or.inl (by simp [commit, outcome])
  | ok next => exact Or.inr ⟨next, rfl, commit_ok outcome⟩

theorem commit_invariant {Inv : σ → Prop} {state : σ} {call : ι} (holds : Inv state)
    (preserved : ∀ next, step state call = .ok next → Inv next) :
    Inv (commit step state call) := by
  rcases commit_cases state call with same | ⟨next, accepted, moved⟩
  · rw [same]; exact holds
  · rw [moved]; exact preserved next accepted

/-- The run lemma: what every guarded step preserves, every guarded run preserves. -/
theorem run_invariant_of_meets {guard : σ → ι → Prop} {Inv : σ → Prop}
    (preserved : ∀ state call next, Inv state → guard state call →
      step state call = .ok next → Inv next)
    (state : σ) (calls : List ι) (meets : Meets step guard state calls) (holds : Inv state) :
    Inv (run step state calls) := by
  -- each call meets its own state, so the state varies in the induction
  induction calls generalizing state with
  | nil => exact holds
  | cons call rest ih =>
    obtain ⟨allowed, later⟩ := meets
    apply ih _ later
    exact commit_invariant holds fun next accepted =>
      preserved state call next holds (allowed next accepted) accepted

theorem meets_of_forall {guard : σ → ι → Prop} (state : σ) (calls : List ι)
    (always : ∀ call ∈ calls, ∀ state, guard state call) : Meets step guard state calls := by
  induction calls generalizing state with
  | nil => trivial
  | cons call rest ih =>
    exact ⟨fun _ _ => always call (by simp) state,
      ih _ fun other member => always other (by simp [member])⟩

/-- A guard that allows more, for the calls that are made. -/
theorem Meets.imp {guard guard' : σ → ι → Prop} {state : σ} {calls : List ι}
    (meets : Meets step guard state calls)
    (allows : ∀ call ∈ calls, ∀ state, guard state call → guard' state call) :
    Meets step guard' state calls := by
  induction calls generalizing state with
  | nil => trivial
  | cons call rest ih =>
    obtain ⟨here, later⟩ := meets
    exact ⟨fun next accepted => allows call (by simp) state (here next accepted),
      ih later fun other member => allows other (by simp [member])⟩

theorem run_invariant {Inv : σ → Prop}
    (preserved : ∀ state call next, Inv state → step state call = .ok next → Inv next)
    (state : σ) (calls : List ι) (holds : Inv state) : Inv (run step state calls) :=
  have unguarded : Meets step (fun _ _ => True) state calls :=
    meets_of_forall state calls fun _ _ _ => trivial
  run_invariant_of_meets (fun state call next holds _ => preserved state call next holds)
    state calls unguarded holds

/-- The run lemma for an invariant that speaks of the calls made so far, rejected ones
included. -/
theorem run_invariant_of_past (Inv : List ι → σ → Prop) (state : σ) (holds : Inv [] state)
    (rejected : ∀ past call failure, Inv past (run step state past) →
      step (run step state past) call = .error failure →
      Inv (past ++ [call]) (run step state past))
    (preserved : ∀ past call next, Inv past (run step state past) →
      step (run step state past) call = .ok next → Inv (past ++ [call]) next)
    (calls : List ι) : Inv calls (run step state calls) := by
  -- the last call is taken off, so that the past of every call is a run of its own
  induction calls using List.reverseRecOn with
  | nil => exact holds
  | append_singleton past call ih =>
    rw [run_append, run_cons, run_nil, commit]
    cases outcome : step (run step state past) call with
    | error failure => exact rejected past call failure ih outcome
    | ok next => exact preserved past call next ih outcome

theorem meets_cons_ok {guard : σ → ι → Prop} {state next : σ} {call : ι}
    (accepted : step state call = .ok next) (rest : List ι) :
    Meets step guard state (call :: rest) ↔ guard state call ∧ Meets step guard next rest := by
  rw [Meets, commit_ok accepted]
  refine and_congr_left fun _ => ⟨fun allowed => allowed next accepted, fun allowed _ _ => allowed⟩

theorem Meets.cons {guard : σ → ι → Prop} {state next : σ} {call : ι} {rest : List ι}
    (accepted : step state call = .ok next) (allowed : guard state call)
    (later : Meets step guard next rest) : Meets step guard state (call :: rest) :=
  (meets_cons_ok accepted rest).mpr ⟨allowed, later⟩

theorem meets_append {guard : σ → ι → Prop} (state : σ) (first second : List ι) :
    Meets step guard state (first ++ second) ↔
      Meets step guard state first ∧ Meets step guard (run step state first) second := by
  induction first generalizing state with
  | nil => simp [Meets]
  | cons call rest ih => simp only [List.cons_append, Meets, ih, run_cons, and_assoc]

/-- A run whose calls meet the guard ends in the given state. -/
def Leads (step : σ → ι → Except ε σ) (guard : σ → ι → Prop) (state final : σ) : Prop :=
  ∃ calls, Meets step guard state calls ∧ run step state calls = final

section Leads

variable {guard : σ → ι → Prop}

theorem Leads.refl (state : σ) : Leads step guard state state := ⟨[], trivial, rfl⟩

theorem Leads.trans {first second third : σ} (before : Leads step guard first second)
    (after : Leads step guard second third) : Leads step guard first third := by
  obtain ⟨calls, meets, rfl⟩ := before
  obtain ⟨calls', meets', rfl⟩ := after
  exact ⟨calls ++ calls', (meets_append first calls calls').mpr ⟨meets, meets'⟩,
    run_append first calls calls'⟩

theorem Leads.one {state next : σ} (call : ι) (allowed : guard state call)
    (accepted : step state call = .ok next) : Leads step guard state next :=
  ⟨[call], (meets_cons_ok accepted []).mpr ⟨allowed, trivial⟩, run_cons_ok accepted []⟩

end Leads

/-- Every accepted call of the run leads to a state with the property. -/
def Attains (step : σ → ι → Except ε σ) (goal : σ → Prop) : σ → List ι → Prop
  | _, [] => True
  | state, call :: rest =>
    (∀ next, step state call = .ok next → goal next) ∧
      Attains step goal (commit step state call) rest

theorem Attains.cons {goal : σ → Prop} {state next : σ} {call : ι} {rest : List ι}
    (attains : Attains step goal state (call :: rest)) (accepted : step state call = .ok next) :
    goal next ∧ Attains step goal next rest := by
  have later := attains.2
  rw [commit_ok accepted] at later
  exact ⟨attains.1 next accepted, later⟩

/-- When a guard says exactly which steps attain a property, it says exactly which runs do. -/
theorem attains_iff_meets {guard : σ → ι → Prop} {goal Inv : σ → Prop}
    (preserved : ∀ state call next, Inv state → step state call = .ok next → goal next → Inv next)
    (exactly : ∀ state call next, Inv state → step state call = .ok next →
      (goal next ↔ guard state call))
    (state : σ) (calls : List ι) (holds : Inv state) :
    Attains step goal state calls ↔ Meets step guard state calls := by
  -- each call meets its own state, so the state varies in the induction
  induction calls generalizing state with
  | nil => exact Iff.rfl
  | cons call rest ih =>
    have here : (∀ next, step state call = .ok next → goal next) ↔
        ∀ next, step state call = .ok next → guard state call :=
      forall₂_congr fun next accepted => exactly state call next holds accepted
    rw [Attains, Meets, here, and_congr_right_iff]
    intro allowed
    apply ih
    exact commit_invariant holds fun next accepted =>
      preserved state call next holds accepted (here.mpr allowed next accepted)

/-! ## History variables -/

section History

variable {γ : Type*} {note : γ → σ → ι → γ}

/-- What is noted of the accepted calls of a run, each in the state it meets. -/
def history (step : σ → ι → Except ε σ) (note : γ → σ → ι → γ) : γ → σ → List ι → γ
  | notes, _, [] => notes
  | notes, state, call :: rest =>
    match step state call with
    | .ok next => history step note (note notes state call) next rest
    | .error _ => history step note notes state rest

theorem history_cons_ok {state next : σ} {call : ι} (accepted : step state call = .ok next)
    (notes : γ) (rest : List ι) :
    history step note notes state (call :: rest) =
      history step note (note notes state call) next rest := by
  rw [history, accepted]

theorem history_cons_error {state : σ} {call : ι} {failure : ε}
    (rejected : step state call = .error failure) (notes : γ) (rest : List ι) :
    history step note notes state (call :: rest) = history step note notes state rest := by
  rw [history, rejected]

/-- The machine that carries the notes along with its state, for guards that read them. -/
def annotate (step : σ → ι → Except ε σ) (note : γ → σ → ι → γ) (annotated : σ × γ) (call : ι) :
    Except ε (σ × γ) :=
  (step annotated.1 call).map fun next => (next, note annotated.2 annotated.1 call)

theorem annotate_eq_ok {annotated next : σ × γ} {call : ι} :
    annotate step note annotated call = .ok next ↔
      step annotated.1 call = .ok next.1 ∧ next.2 = note annotated.2 annotated.1 call := by
  cases outcome : step annotated.1 call with
  | error e => simp [annotate, outcome, Except.map]
  | ok reached => simp [annotate, outcome, Except.map, Prod.ext_iff, eq_comm]

theorem run_annotate (annotated : σ × γ) (calls : List ι) :
    run (annotate step note) annotated calls =
      (run step annotated.1 calls, history step note annotated.2 annotated.1 calls) := by
  induction calls generalizing annotated with
  | nil => rfl
  | cons call rest ih =>
    rw [run_cons, run_cons, ih]
    cases outcome : step annotated.1 call with
    | error e => simp [commit, annotate, history, outcome, Except.map]
    | ok next => simp [commit, annotate, history, outcome, Except.map]

theorem meets_annotate {guard : σ → ι → Prop} (annotated : σ × γ) (calls : List ι) :
    Meets (annotate step note) (fun annotated call => guard annotated.1 call) annotated calls ↔
      Meets step guard annotated.1 calls := by
  induction calls generalizing annotated with
  | nil => exact Iff.rfl
  | cons call rest ih =>
    rw [Meets, Meets, ih]
    cases outcome : step annotated.1 call with
    | error e => simp [commit, annotate, outcome, Except.map]
    | ok next => simp [commit, annotate, outcome, Except.map]

/-- The run lemma for a state and the notes about its past. -/
theorem history_invariant_of_meets {guard : σ → ι → Prop} {Inv : σ → γ → Prop}
    (preserved : ∀ state notes call next, Inv state notes → guard state call →
      step state call = .ok next → Inv next (note notes state call))
    (state : σ) (notes : γ) (calls : List ι) (meets : Meets step guard state calls)
    (holds : Inv state notes) :
    Inv (run step state calls) (history step note notes state calls) := by
  have stepped : ∀ annotated call next, Inv annotated.1 annotated.2 → guard annotated.1 call →
      annotate step note annotated call = .ok next → Inv next.1 next.2 := by
    intro annotated call next holds allowed accepted
    obtain ⟨moved, noted⟩ := annotate_eq_ok.mp accepted
    rw [noted]
    exact preserved annotated.1 annotated.2 call next.1 holds allowed moved
  have kept : Inv (run (annotate step note) (state, notes) calls).1
      (run (annotate step note) (state, notes) calls).2 :=
    run_invariant_of_meets stepped (state, notes) calls
      ((meets_annotate (state, notes) calls).mpr meets) holds
  rwa [run_annotate] at kept

theorem history_invariant {Inv : σ → γ → Prop}
    (preserved : ∀ state notes call next, Inv state notes → step state call = .ok next →
      Inv next (note notes state call))
    (state : σ) (notes : γ) (calls : List ι) (holds : Inv state notes) :
    Inv (run step state calls) (history step note notes state calls) :=
  have unguarded : Meets step (fun _ _ => True) state calls :=
    meets_of_forall state calls fun _ _ _ => trivial
  history_invariant_of_meets
    (fun state notes call next holds _ => preserved state notes call next holds)
    state notes calls unguarded holds

end History

end Transactional
