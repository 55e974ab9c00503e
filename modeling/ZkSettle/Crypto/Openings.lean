import ZkSettle.Crypto.Sparse

/-!
# Openings of the trees

What the paths of the two trees show to whoever checks them. A tree's own paths always
pass, here and in the circuit. A path that passes opens the leaf of the tree at its
position, unless the pairs hashed along it and the pairs hashed by the tree hold a
collision, or, where the membership tree fills up with zeros, a pair that hashes to zero.
-/
namespace ZkSettle.Crypto

/-! ## The pairs hashed -/

/-- The node that a fold has reached before a level. -/
def foldNode (path : Fin MERKLE_DEPTH → Fr) (pathIndices : Fin MERKLE_DEPTH → UInt8) (leaf : Fr)
    (level : Fin MERKLE_DEPTH) : Fr :=
  ((List.finRange MERKLE_DEPTH).take level).foldl
    (fun cur i =>
      if pathIndices i = 0 then poseidon2Hash [cur, path i] else poseidon2Hash [path i, cur]) leaf

/-- The pair that a fold hashes at a level. -/
def foldPair (path : Fin MERKLE_DEPTH → Fr) (pathIndices : Fin MERKLE_DEPTH → UInt8) (leaf : Fr)
    (level : Fin MERKLE_DEPTH) : Fr × Fr :=
  let cur := foldNode path pathIndices leaf level
  if pathIndices level = 0 then (cur, path level) else (path level, cur)

/-- The pair that the membership tree hashes for a node one level up, the last node alone
with zero. -/
def MerkleTree.nodePair (tree : MerkleTree) (level index : Nat) : Fr × Fr :=
  let nodes := nextLevel^[level] tree.leaves
  (nodes.getD (2 * index) 0, nodes.getD (2 * index + 1) 0)

/-- The pair of branches that the sparse tree hashes at a prefix. -/
def SparseMerkleTree.branchPair (tree : SparseMerkleTree) (path : List Bool) : Fr × Fr :=
  (tree.node (path ++ [false]), tree.node (path ++ [true]))

/-- Two different pairs with the same hash. -/
def Collision (p q : Fr × Fr) : Prop :=
  p ≠ q ∧ poseidon2Hash [p.1, p.2] = poseidon2Hash [q.1, q.2]

theorem foldNode_eq (path : Fin MERKLE_DEPTH → Fr) (pathIndices : Fin MERKLE_DEPTH → UInt8)
    (leaf : Fr) (level : Fin MERKLE_DEPTH) :
    foldNode path pathIndices leaf level =
      Merkle.climb hashPair (fun i => decide (pathIndices i ≠ 0)) path leaf level := by
  rw [foldNode, Merkle.climb]
  congr 1
  funext cur i
  by_cases left : pathIndices i = 0 <;> simp [Merkle.join, left]

theorem foldPair_eq (path : Fin MERKLE_DEPTH → Fr) (pathIndices : Fin MERKLE_DEPTH → UInt8)
    (leaf : Fr) (level : Fin MERKLE_DEPTH) :
    foldPair path pathIndices leaf level =
      Merkle.sides (decide (pathIndices level ≠ 0))
        (Merkle.climb hashPair (fun i => decide (pathIndices i ≠ 0)) path leaf level)
        (path level) := by
  rw [foldPair, foldNode_eq]
  by_cases left : pathIndices level = 0 <;> simp [Merkle.sides, left]

/-! ## Membership -/

theorem MerkleTree.verifyMerkleProof_of_proof {tree : MerkleTree} {index : Nat}
    (fits : tree.leaves.length ≤ 2 ^ MERKLE_DEPTH) (inside : index < tree.leaves.length)
    {proof : MerkleProof} (given : tree.proof index = .ok proof) :
    verifyMerkleProof tree.leaves[index] proof tree.root = true := by
  obtain ⟨proof', given', folds⟩ := MerkleTree.proof_fold inside
  obtain rfl : proof' = proof := Except.ok.inj (given'.symm.trans given)
  have nonempty : tree.leaves ≠ [] := List.ne_nil_of_length_pos (by omega)
  rw [List.getD_eq_getElem _ _ inside, MerkleTree.blockOf_of_lt (by omega),
    MerkleTree.root_blockOf_zero nonempty] at folds
  rw [verifyMerkleProof, folds, beq_self_eq_true]

/-- A path of the tree for any of its leaves passes. -/
theorem MerkleTree.verifyMerkleProof_proof {tree : MerkleTree} {index : Nat}
    (fits : tree.leaves.length ≤ 2 ^ MERKLE_DEPTH) (inside : index < tree.leaves.length) :
    ∃ proof, tree.proof index = .ok proof ∧
      verifyMerkleProof tree.leaves[index] proof tree.root = true := by
  obtain ⟨proof, given, -⟩ := MerkleTree.proof_fold inside
  exact ⟨proof, given, MerkleTree.verifyMerkleProof_of_proof fits inside given⟩

/-- The last of three leaves, which has a sibling on one level only. -/
theorem MerkleTree.verifyMerkleProof_proof_three :
    ∃ proof, (MerkleTree.mk [1, 2, 3]).proof 2 = .ok proof ∧
      verifyMerkleProof (MerkleTree.mk [1, 2, 3]).leaves[2] proof
        (MerkleTree.mk [1, 2, 3]).root = true :=
  MerkleTree.verifyMerkleProof_proof (by decide) (by decide)

/-- The index whose binary digits the indices of a path are. -/
def MerkleProof.index (proof : MerkleProof) : Nat :=
  Nat.ofBits fun level => decide (proof.pathIndices level ≠ 0)

/-- The pairs hashed along a path and by the tree: a pair with the hash zero, or a pair on
each side with the same hash. -/
def MerkleTree.Broken (tree : MerkleTree) (proof : MerkleProof) (leaf : Fr) : Prop :=
  ∃ level : Fin MERKLE_DEPTH,
    let pair := foldPair proof.path proof.pathIndices leaf level
    let above := proof.index / 2 ^ (level.val + 1)
    poseidon2Hash [pair.1, pair.2] = 0 ∨
      2 * above < (nextLevel^[level] tree.leaves).length ∧
        Collision pair (tree.nodePair level above)

/-- The tree's own path for a leaf spells the index of the leaf. -/
theorem MerkleProof.index_eq {tree : MerkleTree} {index : Nat} {proof : MerkleProof}
    (below : index < 2 ^ MERKLE_DEPTH) (given : tree.proof index = .ok proof) :
    proof.index = index := by
  rw [MerkleTree.proof] at given
  split at given
  · cases given
  · cases given
    simp only [MerkleProof.index, pathIndex_ne_zero]
    simp only [← Nat.testBit_eq_decide_div_mod_eq]
    rw [Nat.ofBits_testBit, Nat.mod_eq_of_lt below]

/-- A path that passes for a value other than zero opens the leaf at its index, so that
neither a position beyond the leaves nor a leaf that is zero can be opened. -/
theorem MerkleTree.verifyMerkleProof_sound {tree : MerkleTree} {leaf : Fr} {proof : MerkleProof}
    (nonempty : tree.leaves ≠ []) (nonzero : leaf ≠ 0)
    (accepted : verifyMerkleProof leaf proof tree.root = true) :
    ((∃ inside : proof.index < tree.leaves.length, tree.leaves[proof.index] = leaf) ∨
        tree.Broken proof leaf) ∧
      (tree.leaves.getD proof.index 0 = 0 → tree.Broken proof leaf) := by
  have folds := beq_iff_eq.mp accepted
  rw [foldProof_eq, MerkleTree.root_eq nonempty] at folds
  have opens : tree.leaves[proof.index]? = some leaf ∨ tree.Broken proof leaf := by
    rcases Merkle.opened_or_broken nonempty nonzero folds with opened | ⟨level, broken⟩
    · exact Or.inl opened
    · rw [Merkle.join_eq_sides, ← foldPair_eq, ← nextLevel_eq] at broken
      exact Or.inr ⟨level, broken⟩
  constructor
  · exact opens.imp_left List.getElem?_eq_some_iff.mp
  · intro zero
    rcases opens with opened | broken
    · rw [List.getD_eq_getElem?_getD, opened] at zero
      exact absurd zero nonzero
    · exact broken

/-- The last of three leaves opens along its own path. -/
theorem MerkleTree.verifyMerkleProof_sound_three : ∃ proof,
    (MerkleTree.mk [1, 2, 3]).proof 2 = .ok proof ∧ proof.index = 2 ∧
      ((∃ inside : proof.index < (MerkleTree.mk [1, 2, 3]).leaves.length,
            (MerkleTree.mk [1, 2, 3]).leaves[proof.index] = 3) ∨
          (MerkleTree.mk [1, 2, 3]).Broken proof 3) ∧
        ((MerkleTree.mk [1, 2, 3]).leaves.getD proof.index 0 = 0 →
          (MerkleTree.mk [1, 2, 3]).Broken proof 3) := by
  have inside : 2 < (MerkleTree.mk [1, 2, 3]).leaves.length := by decide
  obtain ⟨proof, given, -⟩ := MerkleTree.proof_fold inside
  have accepted := MerkleTree.verifyMerkleProof_of_proof (by decide) inside given
  have third : (MerkleTree.mk [1, 2, 3]).leaves[2] = 3 := rfl
  rw [third] at accepted
  exact ⟨proof, given, MerkleProof.index_eq (by decide) given,
    MerkleTree.verifyMerkleProof_sound (List.cons_ne_nil _ _) (by decide) accepted⟩

/-! ## Exclusion -/

/-- The bits of a wallet's key as the circuit takes them from the wallet leaf. -/
theorem walletKey_getD (wallet : Fr) (level : Fin MERKLE_DEPTH) :
    (walletKey wallet).getD level false = (poseidon2Hash [wallet]).val.testBit level := by
  have inside : level.val < (walletKey wallet).length := by
    rw [walletKey_length]
    exact level.isLt
  rw [List.getD_eq_getElem _ _ inside]
  simp [walletKey, keyBits]

/-- The circuit excludes a wallet along a path of bits as this crate does. -/
theorem sanctionsCheck_iff {wallet root : Fr} {proof : SmtProof}
    (bits : ∀ level, proof.pathIndices level < 2) :
    Circuit.SanctionsCheck noirPermutation wallet (circuitPath proof.path proof.pathIndices)
        proof.leafValue root ↔
      verifySmtExclusion wallet proof root = .ok () := by
  have side : ∀ (index : UInt8) (bit : Bool), index < 2 →
      ((if index = 0 then (⟨0, Nat.zero_lt_two⟩ : Fin 2) else ⟨1, Nat.one_lt_two⟩) =
          (if bit then 1 else 0) ↔ index = bit.toUInt8) := by
    intro index bit below
    have cases : index = 0 ∨ index = 1 := by grind
    rcases cases with rfl | rfl <;> cases bit <;> decide
  rw [verifySmtExclusion_eq_ok, ← walletKey]
  constructor
  · rintro ⟨indices, leaf, path⟩
    refine ⟨leaf, fun level => ?_, ?_⟩
    · rw [walletKey_getD]
      have index := indices level
      rw [Circuit.toLeBits, poseidon2Hash_noir] at index
      exact (side _ _ (bits level)).mp index
    · rw [← circuitPath_root]
      exact path
  · rintro ⟨leaf, indices, path⟩
    refine ⟨fun (level : Fin MERKLE_DEPTH) => ?_, leaf, ?_⟩
    · have index := indices level
      rw [walletKey_getD] at index
      rw [Circuit.toLeBits, poseidon2Hash_noir]
      exact (side _ _ (bits level)).mpr index
    · rw [← circuitPath_root] at path
      exact path

theorem SparseMerkleTree.exclusionProof_of_absent {tree : SparseMerkleTree} {wallet : Fr}
    (absent : tree.leaves.lookup (walletKey wallet) = none) :
    ∃ proof, tree.exclusionProof wallet = .ok proof := by
  rw [walletKey] at absent
  simp [SparseMerkleTree.exclusionProof, absent]

/-- A wallet whose key is absent has an exclusion path, which passes here and in the circuit. -/
theorem SparseMerkleTree.exclusionProof_complete {operations : List Operation} {wallet : Fr}
    (absent : (after operations).leaves.lookup (walletKey wallet) = none) :
    ∃ proof, (after operations).exclusionProof wallet = .ok proof ∧
      verifySmtExclusion wallet proof (after operations).root = .ok () ∧
      Circuit.SanctionsCheck noirPermutation wallet (circuitPath proof.path proof.pathIndices)
        proof.leafValue (after operations).root := by
  obtain ⟨proof, excluded⟩ := exclusionProof_of_absent absent
  have passes := verifySmtExclusion_exclusionProof excluded
  exact ⟨proof, excluded, passes, (sanctionsCheck_iff (exclusionProof_bit excluded)).mpr passes⟩

theorem absent_two :
    (SparseMerkleTree.after [.insert 1]).leaves.lookup (walletKey 2) = none := by
  have apart : walletKey 1 ≠ walletKey 2 := by decide +kernel
  rw [SparseMerkleTree.lookup_after]
  simp [lastInserted, Operation.wallet, apart]

/-- One wallet is in the tree, and another with another key is excluded. -/
theorem SparseMerkleTree.exclusionProof_complete_two :
    ∃ proof, (after [.insert 1]).exclusionProof 2 = .ok proof ∧
      verifySmtExclusion 2 proof (after [.insert 1]).root = .ok () ∧
      Circuit.SanctionsCheck noirPermutation 2 (circuitPath proof.path proof.pathIndices)
        proof.leafValue (after [.insert 1]).root :=
  SparseMerkleTree.exclusionProof_complete absent_two

/-- A path along the key of a wallet opens what the tree holds at the key, or holds a
collision. -/
theorem SparseMerkleTree.leaf_eq_or_collision {tree : SparseMerkleTree} {wallet : Fr}
    {proof : SmtProof} (accepted : verifySmtExclusion wallet proof tree.root = .ok ()) :
    (tree.leaves.lookup (walletKey wallet)).getD 0 = 0 ∨ ∃ level : Fin MERKLE_DEPTH,
      Collision (foldPair proof.path proof.pathIndices proof.leafValue level)
        (tree.branchPair (Merkle.topDown (walletKey wallet) (level + 1))) := by
  obtain ⟨zero, indices, folds⟩ := verifySmtExclusion_eq_ok.mp accepted
  rw [foldProof_eq] at folds
  have side : ∀ bit : Bool, decide (bit.toUInt8 ≠ 0) = bit := by decide
  have sides : ∀ level : Fin MERKLE_DEPTH,
      decide (proof.pathIndices level ≠ 0) = (walletKey wallet).getD level false := by
    intro level
    rw [indices, side, walletKey]
  rcases Merkle.leaf_eq_or_collide_topDown (walletKey_length wallet) tree.node_branches sides
    folds with leaf | ⟨level, collide⟩
  · rw [zero, tree.node_reverse (walletKey_length wallet)] at leaf
    exact Or.inl leaf.symm
  · rw [← foldPair_eq] at collide
    exact Or.inr ⟨level, collide⟩

/-- What is in the tree has the value one. -/
theorem SparseMerkleTree.absent_of_zero {operations : List Operation} {wallet : Fr}
    (zero : ((after operations).leaves.lookup (walletKey wallet)).getD 0 = 0) :
    (after operations).leaves.lookup (walletKey wallet) = none := by
  rw [lookup_after] at zero ⊢
  split at zero
  · exact absurd zero (by decide)
  · next absent => exact if_neg absent

/-- A proof that passes for a wallet whose key is present holds a collision. -/
theorem SparseMerkleTree.absent_or_collision {operations : List Operation} {wallet : Fr}
    {proof : SmtProof}
    (accepted : verifySmtExclusion wallet proof (after operations).root = .ok ()) :
    (after operations).leaves.lookup (walletKey wallet) = none ∨
      ∃ level : Fin MERKLE_DEPTH,
        Collision (foldPair proof.path proof.pathIndices proof.leafValue level)
          ((after operations).branchPair (Merkle.topDown (walletKey wallet) (level + 1))) :=
  (leaf_eq_or_collision accepted).imp_left absent_of_zero

/-- The proof for a wallet beside the one in the tree. -/
theorem SparseMerkleTree.absent_or_collision_two :
    ∃ proof, verifySmtExclusion 2 proof (after [.insert 1]).root = .ok () ∧
      ((after [.insert 1]).leaves.lookup (walletKey 2) = none ∨
        ∃ level : Fin MERKLE_DEPTH,
          Collision (foldPair proof.path proof.pathIndices proof.leafValue level)
            ((after [.insert 1]).branchPair (Merkle.topDown (walletKey 2) (level + 1)))) := by
  obtain ⟨proof, excluded⟩ := exclusionProof_of_absent absent_two
  have passes := verifySmtExclusion_exclusionProof excluded
  exact ⟨proof, passes, SparseMerkleTree.absent_or_collision passes⟩

/-- A path of the circuit as this crate's. -/
def pathProof (path : Circuit.MerklePath) : MerkleProof where
  path := path.path
  pathIndices := fun level => .ofNat (path.pathIndices level)

theorem circuitPath_pathProof (path : Circuit.MerklePath) :
    circuitPath (pathProof path).path (pathProof path).pathIndices = path := by
  have read : ∀ bit : Fin 2,
      (if UInt8.ofNat bit = 0 then (⟨0, Nat.zero_lt_two⟩ : Fin 2) else ⟨1, Nat.one_lt_two⟩) =
        bit := by decide
  obtain ⟨siblings, sides⟩ := path
  exact congrArg (Circuit.MerklePath.mk siblings) (funext fun level => read (sides level))

/-- The leaves under a root: an empty tree has the root of a tree full of zeros. -/
def MerkleTree.filled (tree : MerkleTree) : MerkleTree :=
  if tree.leaves = [] then ⟨List.replicate (2 ^ MERKLE_DEPTH) 0⟩ else tree

theorem MerkleTree.filled_root (tree : MerkleTree) : tree.filled.root = tree.root := by
  rw [MerkleTree.filled]
  split
  · next empty =>
    have new : tree = .new := MerkleTree.ext empty
    rw [MerkleTree.root_zeros, new]
  · rfl

theorem MerkleTree.filled_nonempty (tree : MerkleTree) : tree.filled.leaves ≠ [] := by
  rw [MerkleTree.filled]
  split
  · rw [← List.length_pos_iff, List.length_replicate]
    exact Nat.two_pow_pos _
  · next nonempty => exact nonempty

/-- What the filling adds are zeros. -/
theorem MerkleTree.getElem?_of_filled {tree : MerkleTree} {index : Nat} {leaf : Fr}
    (nonzero : leaf ≠ 0) (found : tree.filled.leaves[index]? = some leaf) :
    tree.leaves[index]? = some leaf := by
  rw [MerkleTree.filled] at found
  split at found
  · exact absurd (List.eq_of_mem_replicate (List.mem_of_getElem? found)) nonzero
  · exact found

/-- A path that the circuit accepts for a value other than zero opens the leaf at its index. -/
theorem MerkleTree.opened_or_broken {tree : MerkleTree} {leaf : Fr} {path : Circuit.MerklePath}
    (nonzero : leaf ≠ 0)
    (verified : Circuit.verifyMerklePath noirPermutation leaf path tree.root) :
    tree.leaves[(pathProof path).index]? = some leaf ∨
      tree.filled.Broken (pathProof path) leaf := by
  rw [← circuitPath_pathProof path, Circuit.verifyMerklePath, circuitPath_root, foldProof_eq,
    ← MerkleTree.filled_root, MerkleTree.root_eq tree.filled_nonempty] at verified
  rcases Merkle.opened_or_broken tree.filled_nonempty nonzero verified with
    opened | ⟨level, broken⟩
  · exact Or.inl (MerkleTree.getElem?_of_filled nonzero opened)
  · rw [Merkle.join_eq_sides, ← foldPair_eq, ← nextLevel_eq] at broken
    exact Or.inr ⟨level, broken⟩

end ZkSettle.Crypto
