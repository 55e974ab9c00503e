import Mathlib.Data.Fin.VecNotation
import ZkSettle.Crypto.Trees
import ZkSettle.Library.Checks
import ZkSettle.Library.Merkle

/-!
# Membership and exclusion proofs

The paths that the trees give out, and the checks of them in this crate and in the
circuit. A path leads to the root of the block of leaves that its leaf stands in: within
the depth of the tree this is the root, beyond it the root is the one of the first block.
-/
namespace ZkSettle.Crypto

open Checks Matrix

/-! ## Paths -/

structure MerkleProof where
  path : Fin MERKLE_DEPTH → Fr
  pathIndices : Fin MERKLE_DEPTH → UInt8

def MerkleTree.proof (tree : MerkleTree) (index : Nat) : Except CryptoError MerkleProof :=
  if tree.leaves.length ≤ index then
    .error (.indexOutOfBounds index tree.leaves.length)
  else
    .ok
      { path := fun d => (nextLevel^[d.val] tree.leaves).getD ((index >>> d.val) ^^^ 1) 0
        pathIndices := fun d => .ofNat ((index >>> d.val) &&& 1) }

/-- Folds a path, with the current node on the left at index 0. -/
def foldProof (path : Fin MERKLE_DEPTH → Fr) (pathIndices : Fin MERKLE_DEPTH → UInt8) (leaf : Fr) :
    Fr :=
  (List.finRange MERKLE_DEPTH).foldl
    (fun cur i =>
      if pathIndices i = 0 then poseidon2Hash [cur, path i] else poseidon2Hash [path i, cur]) leaf

def verifyMerkleProof (leaf : Fr) (proof : MerkleProof) (root : Fr) : Bool :=
  foldProof proof.path proof.pathIndices leaf == root

structure SmtProof where
  path : Fin MERKLE_DEPTH → Fr
  pathIndices : Fin MERKLE_DEPTH → UInt8
  leafValue : Fr

/-- The siblings of a leaf: at each level the way down to its parent, then the other side. -/
def SparseMerkleTree.siblingPath (tree : SparseMerkleTree) (bits : List Bool)
    (i : Fin MERKLE_DEPTH) : Fr :=
  tree.subtreeHashAtLevel i ((bits.drop (i + 1)).reverse ++ [!bits.getD i false])

def SparseMerkleTree.exclusionProof (tree : SparseMerkleTree) (wallet : Fr) :
    Except CryptoError SmtProof :=
  let bits := keyBits (poseidon2Hash [wallet])
  if (tree.leaves.lookup bits).isSome then .error .walletIsSanctioned
  else
    .ok
      { path := tree.siblingPath bits
        pathIndices := fun i => (bits.getD i false).toUInt8
        leafValue := 0 }

def verifySmtExclusion (wallet : Fr) (proof : SmtProof) (root : Fr) : Except CryptoError Unit := do
  require (proof.leafValue = 0) CryptoError.walletIsSanctioned
  let expectedBits := keyBits (poseidon2Hash [wallet])
  require (∀ i, proof.pathIndices i = (expectedBits.getD i.val false).toUInt8)
    CryptoError.invalidSmtPathIndices
  require (foldProof proof.path proof.pathIndices proof.leafValue = root) CryptoError.rootMismatch

/-! ## The circuit's hash -/

/-- The four elements as the circuit's array. -/
def Lanes.array (state : Lanes) : Fin 4 → Fr := ![state.s0, state.s1, state.s2, state.s3]

/-- `poseidon2_permutation` of the circuit's library, which this crate implements again. The
library is not here: its permutation is taken to be Poseidon2 with the constants of the crate. -/
def noirPermutation : Circuit.Permutation := fun state =>
  let s1 := vecTail state
  let s2 := vecTail s1
  let s3 := vecTail s2
  (permutation ⟨vecHead state, vecHead s1, vecHead s2, vecHead s3⟩).array

@[simp] theorem noirPermutation_array (state : Lanes) :
    noirPermutation state.array = (permutation state).array := rfl

/-- The two sponges have taken in the same elements. -/
structure SameSponge (s : Circuit.Sponge) (t : Sponge) : Prop where
  size : s.cacheSize = t.cache.length
  room : t.cache.length ≤ 3
  cache : ∀ slot : Fin 3, slot.val < t.cache.length → t.cache[slot.val]? = some (s.cache slot)
  state : s.state = t.state.array

theorem sameSponge_new (iv : Fr) : SameSponge (.new iv) (.new iv) where
  size := rfl
  room := Nat.zero_le 3
  cache := fun slot filled => absurd filled (Nat.not_lt_zero slot)
  state := by
    funext lane
    fin_cases lane <;> rfl

theorem SameSponge.addCache {s : Circuit.Sponge} {t : Sponge} (same : SameSponge s t) :
    s.addCache = (t.state.addCache t.cache).array := by
  obtain ⟨size, room, cache, state⟩ := same
  obtain ⟨filled, lanes⟩ := t
  have first := cache 0
  have second := cache 1
  have third := cache 2
  -- a cache of each length: its elements are added to the lanes of their slots
  rcases filled with _ | ⟨x, _ | ⟨y, _ | ⟨z, _ | ⟨w, rest⟩⟩⟩⟩
  case cons.cons.cons.cons =>
    simp only [List.length_cons] at room
    omega
  all_goals
    funext lane
    fin_cases lane <;> simp_all [Circuit.Sponge.addCache, Lanes.addCache, Lanes.array]

@[simp] theorem performDuplex_cache (s : Sponge) : s.performDuplex.cache = s.cache := by
  rw [Sponge.performDuplex]

theorem SameSponge.performDuplex {s : Circuit.Sponge} {t : Sponge} (same : SameSponge s t) :
    SameSponge (s.performDuplex noirPermutation) t.performDuplex := by
  constructor
  case size => rw [performDuplex_cache, ← same.size, Circuit.Sponge.performDuplex]
  case room => rw [performDuplex_cache]; exact same.room
  case cache => rw [performDuplex_cache, Circuit.Sponge.performDuplex]; exact same.cache
  case state =>
    rw [Circuit.Sponge.performDuplex, Sponge.performDuplex, same.addCache, noirPermutation_array]

theorem SameSponge.absorb {s : Circuit.Sponge} {t : Sponge} (same : SameSponge s t) (input : Fr) :
    SameSponge (s.absorb noirPermutation input) (t.absorb input) := by
  obtain ⟨size, room, cache, state⟩ := same
  rw [Circuit.Sponge.absorb, Sponge.absorb, size, Circuit.RATE, RATE]
  by_cases full : t.cache.length = 3
  · -- both permute and start a new cache
    simp only [if_pos full]
    have duplexed := (SameSponge.mk size room cache state).performDuplex
    constructor
    case size => rfl
    case room => simp
    case cache =>
      intro slot filled
      have here : slot = 0 := Fin.ext (Nat.lt_one_iff.mp filled)
      subst here
      simp
    case state => exact duplexed.state
  · -- there is room, so the input goes behind the others
    simp only [if_neg full]
    constructor
    case size => simp
    case room => simp; omega
    case cache =>
      intro slot filled
      by_cases last : slot.val = t.cache.length
      · simp [last]
      · have earlier : slot.val < t.cache.length := by simp at filled; omega
        simp only [List.getElem?_append_left earlier, if_neg last]
        exact cache slot earlier
    case state => exact state

/-- The two hashes are one function. -/
theorem poseidon2Hash_noir (input : List Fr) :
    Circuit.poseidon2Hash noirPermutation input = poseidon2Hash input := by
  have absorbed : ∀ (input : List Fr) (s : Circuit.Sponge) (t : Sponge), SameSponge s t →
      SameSponge (input.foldl (Circuit.Sponge.absorb noirPermutation) s)
        (input.foldl Sponge.absorb t) := by
    intro input
    induction input with
    | nil => exact fun s t same => same
    | cons x rest ih => exact fun s t same => ih _ _ (same.absorb x)
  have same := (absorbed input _ _ (sameSponge_new (input.length * TWO_POW_64))).performDuplex
  rw [poseidon2Hash, Sponge.squeeze, Circuit.poseidon2Hash, Circuit.Sponge.squeeze]
  exact congrFun same.state 0

/-! ## Membership -/

/-- Two nodes as the hash of the node above them. -/
abbrev hashPair (left right : Fr) : Fr := poseidon2Hash [left, right]

theorem nextLevel_eq : nextLevel = Merkle.pairs hashPair 0 := by
  funext xs
  induction xs using nextLevel.induct with
  | case1 left right rest ih => rw [nextLevel, Merkle.pairs, ih]
  | case2 left => rfl
  | case3 => rfl

theorem foldProof_eq (path : Fin MERKLE_DEPTH → Fr) (pathIndices : Fin MERKLE_DEPTH → UInt8)
    (leaf : Fr) : foldProof path pathIndices leaf =
      Merkle.foldPath hashPair (fun i => decide (pathIndices i ≠ 0)) path leaf := by
  rw [foldProof, Merkle.foldPath]
  congr 1
  funext cur i
  by_cases left : pathIndices i = 0 <;> simp [Merkle.join, left]

/-- The index at a level is the bit that says on which side the node is. -/
theorem pathIndex_ne_zero (index level : Nat) :
    UInt8.ofNat ((index >>> level) &&& 1) ≠ 0 ↔ index / 2 ^ level % 2 = 1 := by
  rw [Nat.shiftRight_eq_div_pow, Nat.and_one_is_mod]
  rcases Nat.mod_two_eq_zero_or_one (index / 2 ^ level) with even | odd
  · simp [even]
  · simp [odd]

theorem MerkleTree.root_eq {tree : MerkleTree} (nonempty : tree.leaves ≠ []) :
    tree.root = ((Merkle.pairs hashPair 0)^[MERKLE_DEPTH] tree.leaves).headD 0 := by
  rw [MerkleTree.root, if_neg nonempty, nextLevel_eq]

/-- The tree over the leaves that share the upper part of their index with a leaf. -/
def MerkleTree.blockOf (tree : MerkleTree) (index : Nat) : MerkleTree :=
  ⟨Merkle.block MERKLE_DEPTH (index / 2 ^ MERKLE_DEPTH) tree.leaves⟩

theorem MerkleTree.blockOf_nonempty {tree : MerkleTree} {index : Nat}
    (inside : index < tree.leaves.length) : (tree.blockOf index).leaves ≠ [] := by
  have start : index / 2 ^ MERKLE_DEPTH * 2 ^ MERKLE_DEPTH < tree.leaves.length :=
    (Nat.div_mul_le_self index _).trans_lt inside
  rw [MerkleTree.blockOf, Merkle.block, ← List.length_pos_iff, List.length_take, List.length_drop]
  exact Nat.lt_min.mpr ⟨Nat.two_pow_pos _, by omega⟩

theorem MerkleTree.proof_bit {tree : MerkleTree} {index : Nat} {proof : MerkleProof}
    (given : tree.proof index = .ok proof) (level : Fin MERKLE_DEPTH) :
    proof.pathIndices level < 2 := by
  rw [MerkleTree.proof] at given
  split at given
  · cases given
  · cases given
    simp only [Nat.and_one_is_mod]
    rcases Nat.mod_two_eq_zero_or_one (index >>> level.val) with even | odd
    · rw [even]; decide
    · rw [odd]; decide

/-- A membership path leads from its leaf to the root of the block of the leaf. -/
theorem MerkleTree.proof_fold {tree : MerkleTree} {index : Nat}
    (inside : index < tree.leaves.length) :
    ∃ proof, tree.proof index = .ok proof ∧
      foldProof proof.path proof.pathIndices (tree.leaves.getD index 0) =
        (tree.blockOf index).root := by
  refine ⟨_, if_neg (Nat.not_le_of_lt inside), ?_⟩
  rw [foldProof_eq, MerkleTree.root_eq (MerkleTree.blockOf_nonempty inside), MerkleTree.blockOf,
    Merkle.headD_levels_block, ← Merkle.foldPath_levels inside]
  simp only [pathIndex_ne_zero, nextLevel_eq]
  simp only [Nat.shiftRight_eq_div_pow]

/-- The root of a tree is the root of its first block. -/
theorem MerkleTree.root_blockOf_zero {tree : MerkleTree} (nonempty : tree.leaves ≠ []) :
    (tree.blockOf 0).root = tree.root := by
  have inside := List.length_pos_iff.mpr nonempty
  rw [MerkleTree.root_eq nonempty, MerkleTree.root_eq (MerkleTree.blockOf_nonempty inside),
    MerkleTree.blockOf, Nat.zero_div, ← Merkle.headD_levels]

/-- Within the depth of the tree there is one block. -/
theorem MerkleTree.blockOf_of_lt {index : Nat} (below : index < 2 ^ MERKLE_DEPTH)
    (tree : MerkleTree) : tree.blockOf index = tree.blockOf 0 := by
  rw [MerkleTree.blockOf, MerkleTree.blockOf, Nat.div_eq_of_lt below, Nat.zero_div]

/-- A full tree of empty leaves has the root of an empty tree. -/
theorem MerkleTree.root_zeros :
    MerkleTree.root ⟨List.replicate (2 ^ MERKLE_DEPTH) 0⟩ = MerkleTree.new.root := by
  have nonempty : (MerkleTree.mk (List.replicate (2 ^ MERKLE_DEPTH) 0)).leaves ≠ [] := by
    rw [← List.length_pos_iff, List.length_replicate]
    exact Nat.two_pow_pos _
  rw [MerkleTree.root_eq nonempty, Merkle.levels_replicate, List.headD_cons, MerkleTree.root,
    if_pos (show MerkleTree.new.leaves = [] from rfl)]

/-! ## Exclusion -/

theorem keyBits_length (key : Fr) : (keyBits key).length = MERKLE_DEPTH := by
  simp [keyBits]

section Subtrees

variable {tree : SparseMerkleTree} {path : List Bool}

theorem hasLeavesUnder_iff : hasLeavesUnder tree path = true ↔
    ∃ bits ∈ tree.leaves.keys, ∀ i < path.length, bits[MERKLE_DEPTH - 1 - i]? = path[i]? := by
  simp [hasLeavesUnder]

theorem hasLeavesUnder_congr {other : SparseMerkleTree}
    (same : ∀ bits, tree.leaves.lookup bits = other.leaves.lookup bits) (path : List Bool) :
    hasLeavesUnder tree path = hasLeavesUnder other path := by
  have keys : ∀ bits, bits ∈ tree.leaves.keys ↔ bits ∈ other.leaves.keys := by
    intro bits
    rw [← AList.mem_keys, ← AList.mem_keys, ← AList.lookup_isSome, ← AList.lookup_isSome, same]
  rw [Bool.eq_iff_iff, hasLeavesUnder_iff, hasLeavesUnder_iff]
  simp only [keys]

/-- The hashes depend only on what the tree holds at each key. -/
theorem subtreeHash_congr {other : SparseMerkleTree}
    (same : ∀ bits, tree.leaves.lookup bits = other.leaves.lookup bits) (level : Nat)
    (path : List Bool) :
    tree.subtreeHashAtLevel level path = other.subtreeHashAtLevel level path := by
  induction level generalizing path with
  | zero => rw [SparseMerkleTree.subtreeHashAtLevel, SparseMerkleTree.subtreeHashAtLevel, same]
  | succ level ih =>
    rw [SparseMerkleTree.subtreeHashAtLevel, SparseMerkleTree.subtreeHashAtLevel,
      hasLeavesUnder_congr same, ih, ih]

/-- Leaves under a branch are leaves under its parent. -/
theorem hasLeavesUnder_parent {side : Bool}
    (under : hasLeavesUnder tree (path ++ [side]) = true) : hasLeavesUnder tree path = true := by
  obtain ⟨bits, member, agrees⟩ := hasLeavesUnder_iff.mp under
  refine hasLeavesUnder_iff.mpr ⟨bits, member, fun i inside => ?_⟩
  rw [agrees i (by simp; omega), List.getElem?_append_left inside]

/-- A leaf is under its own way down. -/
theorem hasLeavesUnder_leaf (full : path.length = MERKLE_DEPTH)
    (present : path.reverse ∈ tree.leaves.keys) : hasLeavesUnder tree path = true := by
  refine hasLeavesUnder_iff.mpr ⟨_, present, fun i inside => ?_⟩
  rw [List.getElem?_reverse (by omega)]
  congr 1
  omega

/-- A subtree without leaves has the hash of an empty one. -/
theorem subtreeHash_empty (unused : ¬ hasLeavesUnder tree path = true) {level : Nat}
    (height : path.length + level = MERKLE_DEPTH) :
    tree.subtreeHashAtLevel level path = emptySubtreeHashes level := by
  cases level with
  | zero =>
    have full : path.length = MERKLE_DEPTH := height
    have absent : path.reverse ∉ tree.leaves.keys :=
      fun present => unused (hasLeavesUnder_leaf full present)
    have lookup : tree.leaves.lookup path.reverse = none :=
      AList.lookup_eq_none.mpr (by rwa [AList.mem_keys])
    rw [SparseMerkleTree.subtreeHashAtLevel, full, Nat.sub_self, List.replicate_zero,
      List.nil_append, lookup]
    rfl
  | succ level => rw [SparseMerkleTree.subtreeHashAtLevel, if_neg unused]

/-- The hash of a subtree is the hash of its two branches, used or not. -/
theorem subtreeHash_branches {level : Nat} (height : path.length + (level + 1) = MERKLE_DEPTH) :
    tree.subtreeHashAtLevel (level + 1) path =
      hashPair (tree.subtreeHashAtLevel level (path ++ [false]))
        (tree.subtreeHashAtLevel level (path ++ [true])) := by
  by_cases used : hasLeavesUnder tree path = true
  · rw [SparseMerkleTree.subtreeHashAtLevel, if_pos used]
  · have unused : ∀ side, ¬ hasLeavesUnder tree (path ++ [side]) = true :=
      fun side under => used (hasLeavesUnder_parent under)
    have lower : ∀ side : Bool, (path ++ [side]).length + level = MERKLE_DEPTH := by
      intro side
      simp only [List.length_append, List.length_singleton]
      omega
    rw [subtreeHash_empty used height, subtreeHash_empty (unused false) (lower false),
      subtreeHash_empty (unused true) (lower true), emptySubtreeHashes,
      Function.iterate_succ_apply']
    rfl

end Subtrees

/-- A subtree by its way down from the root. -/
def SparseMerkleTree.node (tree : SparseMerkleTree) (path : List Bool) : Fr :=
  tree.subtreeHashAtLevel (MERKLE_DEPTH - path.length) path

theorem SparseMerkleTree.node_branches (tree : SparseMerkleTree) (path : List Bool)
    (inner : path.length < MERKLE_DEPTH) :
    tree.node path = hashPair (tree.node (path ++ [false])) (tree.node (path ++ [true])) := by
  have height : MERKLE_DEPTH - path.length = MERKLE_DEPTH - (path.length + 1) + 1 := by omega
  simp only [SparseMerkleTree.node, List.length_append, List.length_singleton]
  rw [height, subtreeHash_branches (by omega)]

/-- A whole way down ends at the leaf with its bits, or at zero. -/
theorem SparseMerkleTree.node_reverse (tree : SparseMerkleTree) {bits : List Bool}
    (length : bits.length = MERKLE_DEPTH) :
    tree.node bits.reverse = (tree.leaves.lookup bits).getD 0 := by
  rw [SparseMerkleTree.node, List.length_reverse, length, Nat.sub_self,
    SparseMerkleTree.subtreeHashAtLevel, List.length_reverse, length, Nat.sub_self,
    List.replicate_zero, List.nil_append, List.reverse_reverse]

theorem SparseMerkleTree.siblingPath_eq (tree : SparseMerkleTree) {bits : List Bool}
    (length : bits.length = MERKLE_DEPTH) (i : Fin MERKLE_DEPTH) :
    tree.siblingPath bits i =
      tree.node (Merkle.topDown bits (i + 1) ++ [!bits.getD i false]) := by
  have inside := i.isLt
  have depth : MERKLE_DEPTH - (Merkle.topDown bits (i + 1) ++ [!bits.getD i false]).length = i := by
    simp only [Merkle.topDown, List.length_append, List.length_reverse, List.length_drop, length,
      List.length_singleton]
    omega
  rw [SparseMerkleTree.node, depth, SparseMerkleTree.siblingPath, Merkle.topDown]

/-- An exclusion path leads from the empty leaf to the root. -/
theorem SparseMerkleTree.exclusionProof_fold {tree : SparseMerkleTree} {wallet : Fr}
    {proof : SmtProof} (excluded : tree.exclusionProof wallet = .ok proof) :
    proof.leafValue = 0 ∧
      (∀ i, proof.pathIndices i = ((keyBits (poseidon2Hash [wallet])).getD i false).toUInt8) ∧
      foldProof proof.path proof.pathIndices proof.leafValue = tree.root := by
  have length := keyBits_length (poseidon2Hash [wallet])
  rw [SparseMerkleTree.exclusionProof] at excluded
  by_cases present : (tree.leaves.lookup (keyBits (poseidon2Hash [wallet]))).isSome
  · rw [if_pos present] at excluded
    cases excluded
  · rw [if_neg present] at excluded
    cases excluded
    generalize keyBits (poseidon2Hash [wallet]) = bits at *
    refine ⟨rfl, fun _ => rfl, ?_⟩
    -- the leaf at the key is the empty one
    have leaf : tree.node bits.reverse = 0 := by
      have absent : tree.leaves.lookup bits = none := by simpa using present
      rw [tree.node_reverse length, absent, Option.getD_none]
    have side : ∀ bit : Bool, decide (bit.toUInt8 ≠ 0) = bit := by decide
    rw [foldProof_eq]
    simp only [side]
    rw [← leaf, funext (tree.siblingPath_eq length),
      Merkle.foldPath_topDown length tree.node_branches]
    rfl

theorem SparseMerkleTree.exclusionProof_bit {tree : SparseMerkleTree} {wallet : Fr}
    {proof : SmtProof} (excluded : tree.exclusionProof wallet = .ok proof)
    (level : Fin MERKLE_DEPTH) : proof.pathIndices level < 2 := by
  have bit : ∀ side : Bool, side.toUInt8 < 2 := by decide
  rw [(exclusionProof_fold excluded).2.1 level]
  exact bit _

theorem verifySmtExclusion_eq_ok {wallet : Fr} {proof : SmtProof} {root : Fr} {u : Unit} :
    verifySmtExclusion wallet proof root = .ok u ↔ proof.leafValue = 0 ∧
      (∀ i, proof.pathIndices i = ((keyBits (poseidon2Hash [wallet])).getD i.val false).toUInt8) ∧
      foldProof proof.path proof.pathIndices proof.leafValue = root := by
  simp [verifySmtExclusion, bind_eq_ok, require_eq_ok]

/-- Every exclusion proof that the tree gives out passes its own check. -/
theorem verifySmtExclusion_exclusionProof {tree : SparseMerkleTree} {wallet : Fr}
    {proof : SmtProof} (excluded : tree.exclusionProof wallet = .ok proof) :
    verifySmtExclusion wallet proof tree.root = .ok () :=
  verifySmtExclusion_eq_ok.mpr (SparseMerkleTree.exclusionProof_fold excluded)

/-! ## The circuit's checks -/

/-- The path as the circuit reads it. -/
def circuitPath (path : Fin MERKLE_DEPTH → Fr) (pathIndices : Fin MERKLE_DEPTH → UInt8) :
    Circuit.MerklePath where
  path := path
  pathIndices := fun level =>
    if pathIndices level = 0 then ⟨0, Nat.zero_lt_two⟩ else ⟨1, Nat.one_lt_two⟩

/-- The circuit folds a path as this crate does. -/
theorem circuitPath_root (path : Fin MERKLE_DEPTH → Fr) (pathIndices : Fin MERKLE_DEPTH → UInt8)
    (leaf : Fr) :
    (circuitPath path pathIndices).root noirPermutation leaf = foldProof path pathIndices leaf := by
  have step : (fun cur level => Circuit.poseidon2Hash noirPermutation
      ((circuitPath path pathIndices).node level cur)) = fun cur level =>
        if pathIndices level = 0 then poseidon2Hash [cur, path level]
        else poseidon2Hash [path level, cur] := by
    funext cur level
    by_cases left : pathIndices level = 0 <;>
      simp [Circuit.MerklePath.node, circuitPath, left, poseidon2Hash_noir]
  rw [Circuit.MerklePath.root, step]
  rfl

theorem verifyMerkleProof_iff {leaf root : Fr} {proof : MerkleProof} :
    verifyMerkleProof leaf proof root = true ↔
      Circuit.verifyMerklePath noirPermutation leaf (circuitPath proof.path proof.pathIndices)
        root := by
  rw [verifyMerkleProof, beq_iff_eq, Circuit.verifyMerklePath, circuitPath_root]

end ZkSettle.Crypto
