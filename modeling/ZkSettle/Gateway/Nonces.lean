import Mathlib.Algebra.GroupWithZero.Nat
import Mathlib.Data.List.Basic
import Mathlib.Data.List.Induction

/-!
# Login nonces

A nonce is kept with the time at which it was issued until it is consumed or evicted. The
cleanup task evicts what has expired from a copy of the map, made when the task was started,
so the map of the store is as large as the nonces that were issued and never consumed.
-/
namespace ZkSettle.Gateway

/-! ## NonceStore -/

/-- `Duration::from_secs(300)`, in nanoseconds. -/
def NONCE_TTL : Nat := 300 * 1000000000

/-- The nonces, each with a time of the monotonic clock. -/
structure NonceStore where
  pending : List (String × Nat)

def NonceStore.new : NonceStore where
  pending := []

/-- `created.elapsed() < NONCE_TTL` -/
def unexpired (now created : Nat) : Bool := now - created < NONCE_TTL

/-- `remove`: the time of the nonce, and the map without it. -/
def NonceStore.remove (store : NonceStore) (nonce : String) : Option Nat × NonceStore :=
  ((store.pending.find? fun entry => entry.1 == nonce).map Prod.snd,
    { pending := store.pending.filter fun entry => entry.1 != nonce })

/-- The nonce comes from the random number generator. -/
def NonceStore.issue (store : NonceStore) (nonce : String) (now : Nat) : NonceStore where
  pending := (nonce, now) :: (store.remove nonce).2.pending

def NonceStore.consume (store : NonceStore) (nonce : String) (now : Nat) :
    Bool × NonceStore :=
  match store.remove nonce with
  | (some created, rest) => (unexpired now created, rest)
  | (none, rest) => (false, rest)

def NonceStore.evictExpired (store : NonceStore) (now : Nat) : NonceStore where
  pending := store.pending.filter fun entry => unexpired now entry.2

theorem NonceStore.mem_remove {store : NonceStore} {nonce : String} {entry : String × Nat} :
    entry ∈ (store.remove nonce).2.pending ↔ entry ∈ store.pending ∧ entry.1 ≠ nonce := by
  simp [NonceStore.remove]

theorem NonceStore.mem_issue {store : NonceStore} {nonce : String} {now : Nat}
    {entry : String × Nat} : entry ∈ (store.issue nonce now).pending ↔
      entry = (nonce, now) ∨ entry ∈ store.pending ∧ entry.1 ≠ nonce := by
  rw [NonceStore.issue, List.mem_cons, NonceStore.mem_remove]

theorem NonceStore.mem_evictExpired {store : NonceStore} {now : Nat}
    {entry : String × Nat} : entry ∈ (store.evictExpired now).pending ↔
      entry ∈ store.pending ∧ now - entry.2 < NONCE_TTL := by
  simp [NonceStore.evictExpired, unexpired]

/-- What is removed was pending. -/
theorem NonceStore.mem_of_remove {store : NonceStore} {nonce : String} {created : Nat}
    (removed : (store.remove nonce).1 = some created) : (nonce, created) ∈ store.pending := by
  obtain ⟨entry, found, rfl⟩ := Option.map_eq_some_iff.mp removed
  have same : entry.1 = nonce := by simpa using List.find?_some found
  rw [← same]
  exact List.mem_of_find?_eq_some found

theorem NonceStore.consume_store (store : NonceStore) (nonce : String) (now : Nat) :
    (store.consume nonce now).2 = (store.remove nonce).2 := by
  rw [NonceStore.consume]
  split
  next removed => rw [removed]
  next removed => rw [removed]

/-! ## The cleanup task -/

/-- The store, the map that the task has cloned, and the time. -/
structure CleanupTask where
  store : NonceStore
  cloned : NonceStore
  clock : Nat

/-- `DashMap::clone` copies the entries. -/
def NonceStore.spawnCleanup (store : NonceStore) (now : Nat) : CleanupTask where
  store
  cloned := { pending := store.pending }
  clock := now

/-- A request to the store, a tick of the task, or time that passes. -/
inductive StoreCall where
  | issue (nonce : String)
  | consume (nonce : String)
  | tick
  | wait (nanos : Nat)

def CleanupTask.step (s : CleanupTask) : StoreCall → CleanupTask
  | .issue nonce => { s with store := s.store.issue nonce s.clock }
  | .consume nonce => { s with store := (s.store.consume nonce s.clock).2 }
  -- the task holds the clone, not the store
  | .tick => { s with cloned := s.cloned.evictExpired s.clock }
  | .wait nanos => { s with clock := s.clock + nanos }

def CleanupTask.run (s : CleanupTask) (calls : List StoreCall) : CleanupTask :=
  calls.foldl CleanupTask.step s

theorem CleanupTask.run_snoc (s : CleanupTask) (calls : List StoreCall) (call : StoreCall) :
    s.run (calls ++ [call]) = (s.run calls).step call := by
  rw [CleanupTask.run, List.foldl_append]
  rfl

/-- No nonce in the map that requests use is older than the time to live. -/
def CleanupTask.Bounded (s : CleanupTask) : Prop :=
  ∀ entry ∈ s.store.pending, s.clock - entry.2 ≤ NONCE_TTL

/-! ## What is in the store -/

def StoreCall.nanos : StoreCall → Nat
  | .wait nanos => nanos
  | .issue _ => 0
  | .consume _ => 0
  | .tick => 0

/-- The time that has passed. -/
def waited (calls : List StoreCall) : Nat := (calls.map StoreCall.nanos).sum

/-- The call is about the nonce. -/
def StoreCall.names (call : StoreCall) (nonce : String) : Prop :=
  call = .issue nonce ∨ call = .consume nonce

/-- A nonce that was issued at some time, in the calls or before them, and since then neither
consumed nor issued again. -/
def Outstanding (store : NonceStore) (now : Nat) (calls : List StoreCall) (nonce : String)
    (created : Nat) : Prop :=
  ((nonce, created) ∈ store.pending ∧ ∀ call ∈ calls, ¬ call.names nonce) ∨
    ∃ earlier later, calls = earlier ++ .issue nonce :: later ∧
      created = now + waited earlier ∧ ∀ call ∈ later, ¬ call.names nonce

theorem outstanding_snoc_issue {store : NonceStore} {now : Nat} {calls : List StoreCall}
    {nonce : String} {created : Nat} :
    Outstanding store now (calls ++ [.issue nonce]) nonce created ↔
      created = now + waited calls := by
  constructor
  · rintro (⟨-, untouched⟩ | ⟨earlier, later, split, rfl, untouched⟩)
    · exact absurd (Or.inl rfl) (untouched (.issue nonce) (by simp))
    · rcases List.eq_nil_or_concat later with rfl | ⟨before, last, rfl⟩
      · rw [List.append_inj_left' split rfl]
      · -- the last call would come after the issue
        rw [List.concat_eq_append, ← List.cons_append, ← List.append_assoc] at split
        have same : [StoreCall.issue nonce] = [last] := List.append_inj_right' split rfl
        have name : last.names nonce := Or.inl (List.singleton_injective same).symm
        exact absurd name (untouched last (by simp))
  · intro time
    exact Or.inr ⟨calls, [], rfl, time, by simp⟩

theorem outstanding_snoc {store : NonceStore} {now : Nat} {calls : List StoreCall}
    {nonce : String} {created : Nat} (call : StoreCall) (other : call ≠ .issue nonce) :
    Outstanding store now (calls ++ [call]) nonce created ↔
      Outstanding store now calls nonce created ∧ call ≠ .consume nonce := by
  have names : call.names nonce ↔ call = .consume nonce := or_iff_right other
  constructor
  · rintro (⟨pending, untouched⟩ | ⟨earlier, later, split, time, untouched⟩)
    · refine ⟨Or.inl ⟨pending, fun before member => untouched before (by simp [member])⟩, ?_⟩
      rw [Ne, ← names]
      exact untouched call (by simp)
    · rcases List.eq_nil_or_concat later with rfl | ⟨before, last, rfl⟩
      · exact absurd (List.singleton_injective (List.append_inj_right' split rfl)) other
      · rw [List.concat_eq_append, ← List.cons_append, ← List.append_assoc] at split
        have calls_eq := List.append_inj_left' split rfl
        have last_eq : call = last :=
          List.singleton_injective (List.append_inj_right' split rfl)
        refine ⟨Or.inr ⟨earlier, before, calls_eq, time, fun earlier member =>
          untouched earlier (by simp [member])⟩, ?_⟩
        rw [Ne, ← names, last_eq]
        exact untouched last (by simp)
  · rintro ⟨pending | ⟨earlier, later, rfl, time, untouched⟩, unconsumed⟩
    · refine Or.inl ⟨pending.1, fun before member => ?_⟩
      rcases List.mem_append.mp member with earlier | last
      · exact pending.2 before earlier
      · rw [List.mem_singleton.mp last, names]
        exact unconsumed
    · refine Or.inr ⟨earlier, later ++ [call], by simp, time, fun before member => ?_⟩
      rcases List.mem_append.mp member with between | last
      · exact untouched before between
      · rw [List.mem_singleton.mp last, names]
        exact unconsumed

theorem clock_run (store : NonceStore) (now : Nat) (calls : List StoreCall) :
    ((store.spawnCleanup now).run calls).clock = now + waited calls := by
  induction calls using List.reverseRecOn with
  | nil => rfl
  | append_singleton calls call ih =>
    rw [CleanupTask.run_snoc, waited, List.map_append, List.sum_append, ← waited]
    cases call with
    | wait nanos => simp [CleanupTask.step, ih, StoreCall.nanos, Nat.add_assoc]
    | _ => simp [CleanupTask.step, ih, StoreCall.nanos]

/-- The store holds what is outstanding, whatever the task does. -/
theorem mem_pending_iff (store : NonceStore) (now : Nat) (calls : List StoreCall)
    (nonce : String) (created : Nat) :
    (nonce, created) ∈ ((store.spawnCleanup now).run calls).store.pending ↔
      Outstanding store now calls nonce created := by
  induction calls using List.reverseRecOn with
  | nil => simp [CleanupTask.run, NonceStore.spawnCleanup, Outstanding]
  | append_singleton calls call ih =>
    rw [CleanupTask.run_snoc]
    cases call with
    | issue other =>
      rw [CleanupTask.step, NonceStore.mem_issue, clock_run]
      -- an issue of the same nonce starts its time anew
      by_cases same : nonce = other
      · subst same
        rw [outstanding_snoc_issue]
        simp
      · have different : StoreCall.issue other ≠ .issue nonce := by
          simpa using Ne.symm same
        rw [outstanding_snoc _ different, ih]
        simp [same]
    | consume other =>
      rw [CleanupTask.step, NonceStore.consume_store, NonceStore.mem_remove, ih,
        outstanding_snoc (.consume other) nofun]
      simp [eq_comm]
    | tick => rw [CleanupTask.step, ih, outstanding_snoc .tick nofun, and_iff_left nofun]
    | wait nanos =>
      rw [CleanupTask.step, ih, outstanding_snoc (.wait nanos) nofun, and_iff_left nofun]

/-! ## After a tick -/

/-- After every tick the map is bounded, exactly when no nonce that was issued longer than
its time to live before a tick is outstanding at the tick. -/
theorem bounded_iff_consumed (store : NonceStore) (now : Nat) (calls : List StoreCall) :
    (∀ before, before ++ [.tick] <+: calls →
      ((store.spawnCleanup now).run (before ++ [.tick])).Bounded) ↔
    ∀ before, before ++ [.tick] <+: calls → ∀ nonce created,
      now + waited before > created + NONCE_TTL →
        ¬ Outstanding store now before nonce created := by
  refine forall₂_congr fun before _ => ?_
  -- a tick changes the clone only
  have unchanged : ((store.spawnCleanup now).run (before ++ [.tick])).store =
      ((store.spawnCleanup now).run before).store := by
    rw [CleanupTask.run_snoc]
    rfl
  have time : ((store.spawnCleanup now).run (before ++ [.tick])).clock = now + waited before := by
    rw [CleanupTask.run_snoc]
    exact clock_run store now before
  rw [CleanupTask.Bounded, unchanged, time]
  constructor
  · intro bounded nonce created old outstanding
    have young : now + waited before - created ≤ NONCE_TTL :=
      bounded _ ((mem_pending_iff ..).mpr outstanding)
    omega
  · rintro consumed ⟨nonce, created⟩ member
    by_contra old
    have expired : now + waited before > created + NONCE_TTL :=
      Nat.add_comm created _ ▸ Nat.lt_sub_iff_add_lt.mp (Nat.lt_of_not_le old)
    exact consumed nonce created expired ((mem_pending_iff ..).mp member)

/-- A nonce that no login ever uses stays for good. -/
theorem not_bounded : ¬ ∀ (store : NonceStore) (now : Nat) (calls before : List StoreCall),
    before ++ [.tick] <+: calls →
      ((store.spawnCleanup now).run (before ++ [.tick])).Bounded := by
  intro always
  have bounded := always .new 0 [.issue "abcd1234efgh5678", .wait (301 * 1000000000), .tick]
    [.issue "abcd1234efgh5678", .wait (301 * 1000000000)] List.prefix_rfl
  have old := bounded ("abcd1234efgh5678", 0) List.mem_cons_self
  revert old
  decide

end ZkSettle.Gateway
