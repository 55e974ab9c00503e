import ZkSettle.Indexer.Webhook

/-!
# Runs of the dedup store

A cache that loses entries stands before the keys on disk, and a store that is opened again
warms its cache from the disk, up to its capacity. Whatever the cache loses and whenever the
store is opened, it contains what has been marked.
-/
namespace ZkSettle.Indexer

open Program

/-! ## Opening -/

/-- A key in the database that is no nullifier. -/
abbrev ForeignKey := { key : List UInt8 // key.length ≠ 32 }

/-- The keys in the order of the database. -/
def iterator (foreign : List ForeignKey) (db : List Bytes32) : List (List UInt8) :=
  (foreign.map Subtype.val ++ db.map Bytes32.bytes).eraseDups.mergeSort
    fun a b => decide (a ≤ b)

/-- The cache after the keys of the iterator, of which some have been warmed. -/
def warmUp (capacity : Nat) : Nat → List (List UInt8) → List Bytes32 → List Bytes32
  | _, [], cache => cache
  | warmed, key :: rest, cache =>
    if size : key.length = 32 then
      if capacity ≤ warmed + 1 then ⟨key, size⟩ :: cache
      else warmUp capacity (warmed + 1) rest (⟨key, size⟩ :: cache)
    -- keys of other sizes are skipped
    else warmUp capacity warmed rest cache

def NullifierStore.opened (foreign : List ForeignKey) (db : List Bytes32) (capacity : Nat) :
    NullifierStore where
  cache := warmUp capacity 0 (iterator foreign db) []
  db

theorem mem_iterator {foreign : List ForeignKey} {db : List Bytes32} {key : List UInt8} :
    key ∈ iterator foreign db ↔ (∃ f ∈ foreign, f.val = key) ∨ ∃ n ∈ db, n.bytes = key := by
  simp only [iterator, List.mem_mergeSort, List.mem_eraseDups, List.mem_append, List.mem_map]

/-- Only keys of the iterator are warmed. -/
theorem mem_warmUp {capacity warmed : Nat} {keys : List (List UInt8)} {cache : List Bytes32}
    {n : Bytes32} (member : n ∈ warmUp capacity warmed keys cache) :
    n ∈ cache ∨ n.bytes ∈ keys := by
  induction keys generalizing warmed cache with
  | nil => exact Or.inl member
  | cons key rest ih =>
    rw [warmUp] at member
    split at member
    next size =>
      have first : n ∈ Bytes32.mk key size :: cache → n ∈ cache ∨ n.bytes ∈ key :: rest := by
        intro here
        rcases List.mem_cons.mp here with rfl | cached
        · exact Or.inr List.mem_cons_self
        · exact Or.inl cached
      split at member
      · exact first member
      · rcases ih member with here | later
        · exact first here
        · exact Or.inr (List.mem_cons_of_mem key later)
    next =>
      rcases ih member with cached | later
      · exact Or.inl cached
      · exact Or.inr (List.mem_cons_of_mem key later)

theorem NullifierStore.Backed.opened (foreign : List ForeignKey) (db : List Bytes32)
    (capacity : Nat) : (NullifierStore.opened foreign db capacity).Backed := by
  intro n member
  rcases mem_warmUp member with empty | iterated
  · cases empty
  · rcases mem_iterator.mp iterated with ⟨f, -, same⟩ | ⟨m, stored, same⟩
    · -- a foreign key has another size
      exact absurd (same ▸ n.length_eq) f.property
    · exact Bytes32.ext same ▸ stored

/-! ## Runs -/

/-- What happens to a store. Entries leave the cache when it is full and when they expire. -/
inductive DedupEvent where
  | mark (nullifier : Bytes32)
  | contains (nullifier : Bytes32)
  | evict (kept : Bytes32 → Bool)
  | reopen (capacity : Nat)

def NullifierStore.apply (foreign : List ForeignKey) (store : NullifierStore) :
    DedupEvent → NullifierStore
  | .mark nullifier => store.markUploaded nullifier true
  | .contains nullifier => (store.contains nullifier true).2
  | .evict kept => { store with cache := store.cache.filter kept }
  | .reopen capacity => .opened foreign store.db capacity

/-- A store in a new directory, or in one with keys that are no nullifiers, after a sequence of
events. -/
def runDedup (foreign : List ForeignKey) (capacity : Nat) (events : List DedupEvent) :
    NullifierStore :=
  events.foldl (.apply foreign) (.opened foreign [] capacity)

theorem NullifierStore.Backed.apply {store : NullifierStore} (backed : store.Backed)
    (foreign : List ForeignKey) (event : DedupEvent) : (store.apply foreign event).Backed := by
  cases event with
  | mark nullifier => exact backed.markUploaded nullifier true
  | contains nullifier => exact backed.contains nullifier true
  | evict kept => exact fun n member => backed n (List.mem_of_mem_filter member)
  | reopen capacity => exact .opened foreign store.db capacity

/-- Only a mark changes the disk. -/
theorem NullifierStore.mem_apply_db (foreign : List ForeignKey) (store : NullifierStore)
    (event : DedupEvent) (n : Bytes32) :
    n ∈ (store.apply foreign event).db ↔ n ∈ store.db ∨ event = .mark n := by
  cases event with
  | mark nullifier =>
    rw [NullifierStore.apply, markUploaded, if_pos rfl, List.mem_cons, DedupEvent.mark.injEq,
      or_comm, eq_comm]
  | contains nullifier => simp [NullifierStore.apply, contains_db]
  | evict kept => simp [NullifierStore.apply]
  | reopen capacity => simp [NullifierStore.apply, NullifierStore.opened]

/-- A store that is backed contains the keys on disk. -/
theorem NullifierStore.Backed.contains_iff {store : NullifierStore} (backed : store.Backed)
    {n : Bytes32} : (store.contains n true).1 = true ↔ n ∈ store.db := by
  constructor
  · exact backed.of_contains
  · intro stored
    by_contra absent
    exact notMem_of_contains (Bool.eq_false_iff.mpr absent) stored

theorem runDedup_spec (foreign : List ForeignKey) (capacity : Nat) (events : List DedupEvent) :
    (runDedup foreign capacity events).Backed ∧
      ∀ n, n ∈ (runDedup foreign capacity events).db ↔ .mark n ∈ events := by
  induction events using List.reverseRecOn with
  | nil => exact ⟨.opened foreign [] capacity, fun n => by simp [runDedup, NullifierStore.opened]⟩
  | append_singleton events event ih =>
    obtain ⟨backed, marked⟩ := ih
    have last : runDedup foreign capacity (events ++ [event]) =
        (runDedup foreign capacity events).apply foreign event := List.foldl_append
    rw [last]
    refine ⟨backed.apply foreign event, fun n => ?_⟩
    rw [NullifierStore.mem_apply_db, marked, List.mem_append, List.mem_singleton, eq_comm]

/-- At every point of a run, the store contains what has been marked before. -/
theorem contains_iff_marked (foreign : List ForeignKey) (capacity : Nat)
    (earlier : List DedupEvent) (n : Bytes32) :
    ((runDedup foreign capacity earlier).contains n true).1 = true ↔ .mark n ∈ earlier := by
  obtain ⟨backed, marked⟩ := runDedup_spec foreign capacity earlier
  rw [backed.contains_iff, marked]

end ZkSettle.Indexer
