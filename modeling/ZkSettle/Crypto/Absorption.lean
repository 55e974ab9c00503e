import ZkSettle.Crypto.Proofs
import ZkSettle.Library.Absorption

/-!
# The sponge absorbs blocks

The sponge of the crate with its arrays: a cache that is never cleared, and that is added to
the state when one more element comes or the input ends. Behind the `cache_size` entries are
those of earlier blocks. The hash is that of the blocks of three elements, and so is the hash
of the circuit, for any permutation.
-/
namespace ZkSettle.Crypto

open Absorption

/-! ## Source -/

/-- `state[lane] += x` -/
def Lanes.addAt (state : Lanes) (x : Fr) : Nat → Lanes
  | 0 => { state with s0 := state.s0 + x }
  | 1 => { state with s1 := state.s1 + x }
  | 2 => { state with s2 := state.s2 + x }
  | _ => { state with s3 := state.s3 + x }

/-- The sponge as the crate keeps it; no access is behind the cache. -/
structure CachedSponge where
  cache : Fin RATE → Fr
  state : Lanes
  cacheSize : Nat
  fits : cacheSize ≤ RATE

def CachedSponge.new (iv : Fr) : CachedSponge where
  cache := fun _ => 0
  state := ⟨0, 0, 0, iv⟩
  cacheSize := 0
  fits := Nat.zero_le RATE

def CachedSponge.performDuplex (s : CachedSponge) : CachedSponge :=
  let added := (List.finRange RATE).foldl
    (fun state i => if i.val < s.cacheSize then state.addAt (s.cache i) i.val else state) s.state
  { s with state := permutation added }

theorem rate_positive : 0 < RATE := Nat.succ_pos 2

theorem CachedSponge.slot_lt (s : CachedSponge) (room : s.cacheSize ≠ RATE) :
    s.cacheSize < RATE := Nat.lt_of_le_of_ne s.fits room

def CachedSponge.absorb (s : CachedSponge) (input : Fr) : CachedSponge :=
  if full : s.cacheSize = RATE then
    let s := s.performDuplex
    { s with
      cache := Function.update s.cache ⟨0, rate_positive⟩ input
      cacheSize := 1
      fits := rate_positive }
  else
    { s with
      cache := Function.update s.cache ⟨s.cacheSize, s.slot_lt full⟩ input
      cacheSize := s.cacheSize + 1
      fits := s.slot_lt full }

def CachedSponge.squeeze (s : CachedSponge) : Fr := s.performDuplex.state.s0

/-- `sponge::hash` -/
def spongeHash (input : List Fr) : Fr :=
  let iv : Fr := input.length * TWO_POW_64
  (input.foldl CachedSponge.absorb (CachedSponge.new iv)).squeeze

/-! ## Blocks -/

/-- A block is added to the first three lanes. -/
def Lanes.addBlock (state : Lanes) (block : List Fr) : Lanes :=
  ⟨state.s0 + block.getD 0 0, state.s1 + block.getD 1 0, state.s2 + block.getD 2 0, state.s3⟩

/-- A block is added, and the permutation applied. -/
def absorbBlock (state : Lanes) (block : List Fr) : Lanes := permutation (state.addBlock block)

/-- The input in blocks of three, after its length. -/
def blockHash (input : List Fr) : Fr :=
  ((blocks RATE input).foldl absorbBlock ⟨0, 0, 0, input.length * TWO_POW_64⟩).s0

/-- The sponge has absorbed the same blocks, and its cache holds what is pending. -/
structure CachedSponge.Refines (s : CachedSponge) (t : Pending Fr Lanes) : Prop where
  holds : Holds s.cache s.cacheSize t.pending
  state : s.state = t.state

theorem Lanes.addAt_zero (state : Lanes) (lane : Nat) : state.addAt 0 lane = state := by
  unfold Lanes.addAt
  split <;> simp

/-- The loop adds what is pending, and nothing of what is left over. -/
theorem CachedSponge.Refines.performDuplex {s : CachedSponge} {t : Pending Fr Lanes}
    (refines : s.Refines t) : s.performDuplex.state = t.finish absorbBlock := by
  have step : ∀ (state : Lanes) (i : Fin RATE),
      (if i.val < s.cacheSize then state.addAt (s.cache i) i.val else state) =
        state.addAt (t.pending.getD i.val 0) i.val := by
    intro state i
    -- what is left over counts as zero
    rw [refines.holds.getD]
    split
    next => rfl
    next => rw [Lanes.addAt_zero]
  rw [CachedSponge.performDuplex, Pending.finish, absorbBlock, ← refines.state]
  simp only [step]
  rfl

theorem CachedSponge.Refines.absorb {s : CachedSponge} {t : Pending Fr Lanes}
    (refines : s.Refines t) (input : Fr) :
    (s.absorb input).Refines (t.take RATE absorbBlock input) := by
  rw [CachedSponge.absorb, Pending.take, refines.holds.length]
  split
  next full => exact ⟨holds_restart _ rfl input, refines.performDuplex⟩
  next room => exact ⟨refines.holds.push rfl input, refines.state⟩

/-- The hash of the crate is that of the blocks. -/
theorem spongeHash_eq (input : List Fr) : spongeHash input = blockHash input := by
  have start : (CachedSponge.new (input.length * TWO_POW_64)).Refines
      (.start ⟨0, 0, 0, input.length * TWO_POW_64⟩) := ⟨holds_nil _, rfl⟩
  have refines : (input.foldl CachedSponge.absorb (.new (input.length * TWO_POW_64))).Refines
      (input.foldl (Pending.take RATE absorbBlock) (.start ⟨0, 0, 0, input.length * TWO_POW_64⟩)) :=
    List.foldl_rel start fun x _ s t refines => refines.absorb x
  rw [spongeHash, CachedSponge.squeeze, refines.performDuplex,
    Pending.finish_start RATE absorbBlock rate_positive, blockHash]

theorem Lanes.addCache_eq (state : Lanes) (cache : List Fr) :
    state.addCache cache = state.addBlock cache := by
  rcases cache with _ | ⟨x, _ | ⟨y, _ | ⟨z, rest⟩⟩⟩ <;> simp [Lanes.addCache, Lanes.addBlock]

/-- The sponge that drops what is left over. -/
def Sponge.ofPending (t : Pending Fr Lanes) : Sponge where
  cache := t.pending
  state := t.state

theorem Sponge.performDuplex_ofPending (t : Pending Fr Lanes) :
    (ofPending t).performDuplex.state = t.finish absorbBlock := by
  rw [Sponge.performDuplex, Lanes.addCache_eq]
  rfl

theorem Sponge.absorb_ofPending (t : Pending Fr Lanes) (input : Fr) :
    (ofPending t).absorb input = ofPending (t.take RATE absorbBlock input) := by
  -- both wait for one more element before they absorb a block
  by_cases full : t.pending.length = RATE
  · have filled : (ofPending t).cache.length = RATE := full
    simp only [Sponge.absorb, Pending.take, if_pos full, if_pos filled, performDuplex_ofPending]
    rfl
  · have room : (ofPending t).cache.length ≠ RATE := full
    simp only [Sponge.absorb, Pending.take, if_neg full, if_neg room]
    rfl

/-- The hash on which the trees are built. -/
theorem poseidon2Hash_eq (input : List Fr) : poseidon2Hash input = blockHash input := by
  have start : Sponge.new (input.length * TWO_POW_64) =
      .ofPending (.start ⟨0, 0, 0, input.length * TWO_POW_64⟩) := rfl
  rw [poseidon2Hash, start, List.foldl_hom Sponge.ofPending Sponge.absorb_ofPending,
    Sponge.squeeze, Sponge.performDuplex_ofPending,
    Pending.finish_start RATE absorbBlock rate_positive, blockHash]

/-! ## The circuit -/

/-- A block is added to the lanes below the rate. -/
def addBlock (state : Fin 4 → Fr) (block : List Fr) (lane : Fin 4) : Fr :=
  if lane.val < RATE then state lane + block.getD lane.val 0 else state lane

def circuitAbsorbBlock (permutation : Circuit.Permutation) (state : Fin 4 → Fr)
    (block : List Fr) : Fin 4 → Fr := permutation (addBlock state block)

/-- The input in blocks of three, for any permutation. -/
def circuitBlockHash (permutation : Circuit.Permutation) (input : List Fr) : Fr :=
  Matrix.vecHead ((blocks RATE input).foldl (circuitAbsorbBlock permutation)
    ![0, 0, 0, input.length * TWO_POW_64])

/-- The sponge has absorbed the same blocks, and its cache holds what is pending. -/
structure CircuitRefines (s : Circuit.Sponge) (t : Pending Fr (Fin 4 → Fr)) : Prop where
  holds : Holds s.cache s.cacheSize t.pending
  state : s.state = t.state

theorem CircuitRefines.addCache {s : Circuit.Sponge} {t : Pending Fr (Fin 4 → Fr)}
    (refines : CircuitRefines s t) : s.addCache = addBlock t.state t.pending := by
  funext lane
  rw [Circuit.Sponge.addCache, addBlock, refines.state, RATE]
  split
  next below =>
    have entry := refines.holds.getD ⟨lane.val, below⟩ 0
    rw [entry]
    split
    next => rfl
    next => rw [add_zero]
  next => rfl

variable (noir : Circuit.Permutation)

theorem CircuitRefines.performDuplex {s : Circuit.Sponge} {t : Pending Fr (Fin 4 → Fr)}
    (refines : CircuitRefines s t) :
    (s.performDuplex noir).state = t.finish (circuitAbsorbBlock noir) := by
  rw [Circuit.Sponge.performDuplex, refines.addCache]
  rfl

theorem CircuitRefines.absorb {s : Circuit.Sponge} {t : Pending Fr (Fin 4 → Fr)}
    (refines : CircuitRefines s t) (input : Fr) :
    CircuitRefines (s.absorb noir input)
      (t.take RATE (circuitAbsorbBlock noir) input) := by
  rw [Circuit.Sponge.absorb, Pending.take, refines.holds.length, Circuit.RATE, RATE]
  split
  next full => exact ⟨holds_restart _ rfl input, refines.performDuplex noir⟩
  next room =>
    have below : s.cacheSize < 3 := Nat.lt_of_le_of_ne refines.holds.fits room
    have slot : (fun slot : Fin 3 => if slot.val = s.cacheSize then input else s.cache slot) =
        Function.update s.cache ⟨s.cacheSize, below⟩ input := by
      funext slot
      simp only [Function.update, Fin.ext_iff, eq_rec_constant, dite_eq_ite]
    simp only [slot]
    exact ⟨refines.holds.push rfl input, refines.state⟩

/-- The hash of the circuit is that of the blocks. -/
theorem circuitHash_eq (input : List Fr) :
    Circuit.poseidon2Hash noir input = circuitBlockHash noir input := by
  have start : CircuitRefines (.new (input.length * Circuit.TWO_POW_64))
      (.start ![0, 0, 0, input.length * TWO_POW_64]) := by
    refine ⟨holds_nil _, ?_⟩
    funext lane
    fin_cases lane <;> rfl
  have refines : CircuitRefines
      (input.foldl (Circuit.Sponge.absorb noir) (.new (input.length * Circuit.TWO_POW_64)))
      (input.foldl (Pending.take RATE (circuitAbsorbBlock noir))
        (.start ![0, 0, 0, input.length * TWO_POW_64])) :=
    List.foldl_rel start fun x _ s t refines => refines.absorb noir x
  rw [Circuit.poseidon2Hash, Circuit.Sponge.squeeze, refines.performDuplex,
    Pending.finish_start RATE _ rate_positive, circuitBlockHash, Matrix.vecHead]

/-- The blocks are added to the same lanes. -/
theorem addBlock_array (state : Lanes) (block : List Fr) :
    addBlock state.array block = (state.addBlock block).array := by
  funext lane
  fin_cases lane <;> rfl

/-- What the two sponges compute from an input. -/
structure AbsorbsBlocks (input : List Fr) : Prop where
  cut : ∀ parts, Consecutive RATE input parts ↔ parts = blocks RATE input
  crate : spongeHash input = blockHash input
  circuit : ∀ permutation : Circuit.Permutation,
    Circuit.poseidon2Hash permutation input = circuitBlockHash permutation input
  same : ∀ noir : Circuit.Permutation,
    (∀ state : Lanes, noir state.array = (permutation state).array) →
    Circuit.poseidon2Hash noir input = spongeHash input

theorem absorbsBlocks (input : List Fr) : AbsorbsBlocks input where
  cut parts := ⟨fun cut => cut.eq_blocks rate_positive,
    fun same => same ▸ blocks_consecutive rate_positive input⟩
  crate := spongeHash_eq input
  circuit permutation := circuitHash_eq permutation input
  same noir agrees := by
    have step : ∀ (state : Lanes) (block : List Fr),
        circuitAbsorbBlock noir state.array block = (absorbBlock state block).array := by
      intro state block
      rw [circuitAbsorbBlock, addBlock_array, agrees, absorbBlock]
    have run : (blocks RATE input).foldl (circuitAbsorbBlock noir)
        (Lanes.mk 0 0 0 (input.length * TWO_POW_64)).array =
          ((blocks RATE input).foldl absorbBlock ⟨0, 0, 0, input.length * TWO_POW_64⟩).array :=
      List.foldl_hom Lanes.array step
    rw [circuitHash_eq, spongeHash_eq, circuitBlockHash, blockHash]
    exact congrFun run 0

end ZkSettle.Crypto
