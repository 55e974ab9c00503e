import ZkSettle.Crypto.Sanctions

/-!
# The sparse tree as a full tree

The recursion with cached empty subtrees against the full tree over all positions, in
which the position of a key has the bits of the key. The prefixes of the recursion are
top-down and the bits of a key bottom-up: a way down is the index of a node read from its
highest bit, and the index of the sibling differs in the lowest one.
-/
namespace ZkSettle.Crypto

/-- The position of a wallet: the low bits of its hash. -/
def walletPosition (wallet : Fr) : Nat := (poseidon2Hash [wallet]).val % 2 ^ MERKLE_DEPTH

/-- The leaves of the full tree: one where the last operation on a position was an
insertion. -/
def plainLeaf (operations : List Operation) (position : Nat) : Fr :=
  if lastInserted (fun wallet => walletPosition wallet == position) operations then 1 else 0

/-! ## Keys -/

theorem walletPosition_eq (wallet : Fr) :
    walletPosition wallet = Merkle.wayIndex (walletKey wallet).reverse := by
  apply Nat.eq_of_testBit_eq
  intro level
  rw [walletPosition, Nat.testBit_mod_two_pow, Merkle.testBit_wayIndex, walletKey, keyBits]
  by_cases inside : level < MERKLE_DEPTH
  · rw [List.getD_eq_getElem _ _ (by simpa using inside)]
    simp [inside]
  · rw [List.getD_eq_default _ _ (by simpa using inside)]
    simp [inside]

theorem walletKey_length (wallet : Fr) : (walletKey wallet).length = MERKLE_DEPTH :=
  keyBits_length _

/-- Keys of the right length are told apart by their positions. -/
theorem eq_of_wayIndex {bits others : List Bool} (length : bits.length = others.length)
    (same : Merkle.wayIndex bits.reverse = Merkle.wayIndex others.reverse) : bits = others := by
  apply List.ext_getElem length
  intro level inside outside
  have bit := congrArg (Nat.testBit · level) same
  simpa [Merkle.testBit_wayIndex, inside, outside] using bit

/-! ## Leaves -/

/-- A key is in the tree, with value one, when the last operation on it was an insertion. -/
theorem SparseMerkleTree.lookup_after (operations : List Operation) (bits : List Bool) :
    (after operations).leaves.lookup bits =
      if lastInserted (fun wallet => walletKey wallet == bits) operations then some 1
      else none := by
  induction operations using List.reverseRecOn with
  | nil => rfl
  | append_singleton operations op ih =>
    rw [after, List.foldl_append, List.foldl_cons, List.foldl_nil, ← after, lastInserted_append]
    cases op with
    | insert wallet =>
      rw [leaves_insert, Operation.wallet]
      by_cases same : walletKey wallet = bits
      · rw [if_pos (beq_iff_eq.mpr same), same, AList.lookup_insert]
        rfl
      · rw [if_neg (mt beq_iff_eq.mp same), AList.lookup_insert_ne (Ne.symm same), ih]
    | remove wallet =>
      rw [leaves_remove, Operation.wallet]
      by_cases same : walletKey wallet = bits
      · rw [if_pos (beq_iff_eq.mpr same), same, AList.lookup_erase]
        rfl
      · rw [if_neg (mt beq_iff_eq.mp same), AList.lookup_erase_ne (Ne.symm same), ih]

/-- The leaf at the end of a whole way down is the one at its position. -/
theorem SparseMerkleTree.node_leaf (operations : List Operation) {path : List Bool}
    (full : path.length = MERKLE_DEPTH) :
    (after operations).node path = plainLeaf operations (Merkle.wayIndex path) := by
  -- the key selects the same wallets as its position
  have selected : (fun wallet => walletKey wallet == path.reverse) =
      fun wallet => walletPosition wallet == Merkle.wayIndex path := by
    funext wallet
    rw [Bool.eq_iff_iff, beq_iff_eq, beq_iff_eq, walletPosition_eq]
    constructor
    · intro same
      rw [same, List.reverse_reverse]
    · intro same
      have length : (walletKey wallet).length = path.reverse.length := by
        rw [walletKey_length, List.length_reverse, full]
      exact eq_of_wayIndex length (by rw [List.reverse_reverse, same])
  have leaf := (after operations).node_reverse (List.length_reverse.trans full)
  rw [List.reverse_reverse, lookup_after, selected] at leaf
  rw [leaf, plainLeaf]
  split
  · rfl
  · rfl

/-! ## The full tree -/

/-- Every node of the recursion is the node of the full tree. -/
theorem SparseMerkleTree.node_eq (operations : List Operation) {height : Nat} {path : List Bool}
    (reach : path.length + height = MERKLE_DEPTH) :
    (after operations).node path =
      Merkle.fullNode hashPair (plainLeaf operations) height (Merkle.wayIndex path) :=
  Merkle.node_eq_fullNode (after operations).node_branches
    (fun _ full => node_leaf operations full) reach

theorem wayIndex_ofFn (bits : Fin MERKLE_DEPTH → Bool) :
    Merkle.wayIndex (List.ofFn bits).reverse = Nat.ofBits bits := by
  apply Nat.eq_of_testBit_eq
  intro level
  rw [Merkle.testBit_wayIndex, Nat.testBit_ofBits]
  by_cases inside : level < MERKLE_DEPTH
  · rw [List.getD_eq_getElem _ _ (by simpa using inside), dif_pos inside, List.getElem_ofFn]
  · rw [List.getD_eq_default _ _ (by simpa using inside), dif_neg inside]

/-- After any operations the root is the one of the full tree, and the path of every key
consists of the siblings in the full tree on the way from the position of the key. -/
theorem SparseMerkleTree.root_siblings_full (operations : List Operation) :
    (after operations).root =
        Merkle.fullNode hashPair (plainLeaf operations) MERKLE_DEPTH 0 ∧
      ∀ (bits : Fin MERKLE_DEPTH → Bool) (level : Fin MERKLE_DEPTH),
        (after operations).siblingPath (List.ofFn bits) level =
          Merkle.fullNode hashPair (plainLeaf operations) level
            (Nat.ofBits bits / 2 ^ level.val ^^^ 1) := by
  constructor
  · have reach : ([] : List Bool).length + MERKLE_DEPTH = MERKLE_DEPTH := Nat.zero_add _
    exact node_eq operations reach
  · intro bits level
    have length : (List.ofFn bits).length = MERKLE_DEPTH := List.length_ofFn
    have inside : level.val < (List.ofFn bits).length := by rw [length]; exact level.isLt
    have reach : (Merkle.topDown (List.ofFn bits) (level + 1) ++
        [!(List.ofFn bits).getD level false]).length + level = MERKLE_DEPTH := by
      rw [List.length_append, List.length_singleton, Merkle.topDown, List.length_reverse,
        List.length_drop]
      omega
    rw [siblingPath_eq _ length, node_eq operations reach, Merkle.wayIndex_sibling inside,
      Merkle.wayIndex_topDown, wayIndex_ofFn]

/-! ## The tree of one wallet -/

end ZkSettle.Crypto
