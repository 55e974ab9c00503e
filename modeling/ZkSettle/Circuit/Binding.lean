import Mathlib.Tactic.LinearCombination
import Mathlib.Tactic.Ring
import ZkSettle.Circuit.Main

/-!
# What the circuit binds

Two questions about pairs of satisfying assignments of one member: is the nullifier
of a transfer unique, and are the attributes of his credential fixed? The private
key and the expiry are free witnesses, so neither is.
-/
namespace ZkSettle.Circuit

variable {permutation : Permutation}

/-- The public inputs agree except for the nullifier. -/
structure SameContext (x x' : PublicInputs) : Prop where
  merkleRoot : x'.merkleRoot = x.merkleRoot
  transferContext : x'.transferContext = x.transferContext
  sanctionsRoot : x'.sanctionsRoot = x.sanctionsRoot
  jurisdictionRoot : x'.jurisdictionRoot = x.jurisdictionRoot
  timestamp : x'.timestamp = x.timestamp

/-- Every satisfying assignment of the same wallet in the same context has this
assignment's nullifier. -/
def NullifierUnique (permutation : Permutation) (x : PublicInputs) (w : PrivateInputs) : Prop :=
  ∀ x' w', Main permutation x' w' → w'.wallet = w.wallet → SameContext x x' →
    x'.nullifier = x.nullifier

/-! ## The private key is free -/

/-- Any key may take the place of the prover's: only the nullifier changes. -/
theorem main_of_privateKey {x : PublicInputs} {w : PrivateInputs} (satisfied : Main permutation x w)
    (key : Fr) : Main permutation
      { x with nullifier := poseidon2Hash permutation (key :: x.transferContext) }
      { w with privateKey := key } where
  membership := satisfied.membership
  nullifier := rfl
  sanctionsIndices := satisfied.sanctionsIndices
  sanctionsLeaf := satisfied.sanctionsLeaf
  sanctionsPath := satisfied.sanctionsPath
  jurisdiction := satisfied.jurisdiction
  expiry := satisfied.expiry

/-- The nullifier of a member and context is unique if and only if the hash does not
depend on the private key there. -/
theorem nullifier_unique_iff (permutation : Permutation) (x : PublicInputs) (w : PrivateInputs)
    (satisfied : Main permutation x w) : NullifierUnique permutation x w ↔
      ∀ key, poseidon2Hash permutation (key :: x.transferContext) =
        poseidon2Hash permutation (w.privateKey :: x.transferContext) := by
  constructor
  · intro unique key
    -- the same assignment with another key is in the same context
    have same := unique _ _ (main_of_privateKey satisfied key) rfl ⟨rfl, rfl, rfl, rfl, rfl⟩
    exact same.trans satisfied.nullifier.symm
  · intro constant x' w' satisfied' wallet context
    have derived := satisfied'.nullifier
    rw [context.transferContext, constant] at derived
    exact derived.symm.trans satisfied.nullifier

/-! ## A satisfying assignment without collisions -/

namespace Linear

theorem hash_one (x : Fr) : poseidon2Hash mixing [x] = x + TWO_POW_64 := by
  simp [poseidon2Hash, Sponge.absorb, Sponge.squeeze, Sponge.performDuplex, Sponge.addCache,
    Sponge.new, RATE, mixing]

theorem hash_pair (x y : Fr) : poseidon2Hash mixing [x, y] = x + 2 * TWO_POW_64 := by
  simp [poseidon2Hash, Sponge.absorb, Sponge.squeeze, Sponge.performDuplex, Sponge.addCache,
    Sponge.new, RATE, mixing]

theorem hash_transfer (key : Fr) (x : PublicInputs) :
    poseidon2Hash mixing (key :: x.transferContext) =
      key + x.epoch + x.amount + 21 * TWO_POW_64 := by
  simp [poseidon2Hash, Sponge.absorb, Sponge.squeeze, Sponge.performDuplex, Sponge.addCache,
    Sponge.new, RATE, PublicInputs.transferContext, mixing]
  ring

theorem path_node (level : Fin MERKLE_DEPTH) (cur : Fr) : path.node level cur = [cur, 0] := rfl

def publicInputs : PublicInputs where
  merkleRoot := path.root mixing 0
  nullifier := 21 * TWO_POW_64
  mintLo := 0
  mintHi := 0
  epoch := 0
  recipientLo := 0
  recipientHi := 0
  amount := 0
  sanctionsRoot := path.root mixing 0
  jurisdictionRoot := path.root mixing 0
  timestamp := 0

/-- The wallet and the jurisdiction are chosen to have the leaf zero. -/
def privateInputs : PrivateInputs where
  wallet := -TWO_POW_64
  membership := path
  privateKey := 0
  sanctions := path
  sanctionsLeafValue := 0
  jurisdiction := -TWO_POW_64
  jurisdictionMembership := path
  credentialExpiry := 0

theorem leaf_zero : poseidon2Hash mixing [-TWO_POW_64] = 0 := by
  rw [hash_one, neg_add_cancel]

theorem satisfied : Main mixing publicInputs privateInputs where
  membership := by
    simp only [privateInputs, publicInputs, verifyMerklePath, leaf_zero]
  nullifier := by
    rw [hash_transfer]
    simp [privateInputs, publicInputs]
  sanctionsIndices := by
    intro level
    simp only [privateInputs, leaf_zero]
    simp [path, toLeBits]
  sanctionsLeaf := rfl
  sanctionsPath := rfl
  jurisdiction := by
    simp only [privateInputs, publicInputs, verifyMerklePath, leaf_zero]
  expiry := le_rfl

/-- The hash depends on the key in every context. -/
theorem hash_not_constant (x : PublicInputs) : ∃ key key',
    poseidon2Hash mixing (key :: x.transferContext) ≠
      poseidon2Hash mixing (key' :: x.transferContext) := by
  refine ⟨0, 1, ?_⟩
  rw [hash_transfer, hash_transfer]
  intro same
  have zero : (0 : Fr) = 1 := by linear_combination same
  exact absurd zero (by decide)

/-! The hash inputs of the assignment are told apart by their hashes: a leaf hashes to
zero, the node at level `k` to an even multiple of the length word, the transfer to an
odd one. -/

/-- The multiple of the length word that an input hashes to. -/
inductive Hashes : List Fr → Nat → Prop where
  | leaf : Hashes [-TWO_POW_64] 0
  | node (level : Nat) (below : level < 20) :
      Hashes [((2 * level * 2 ^ 64 : Nat) : Fr), 0] (2 * level + 2)
  | transfer : Hashes (0 :: publicInputs.transferContext) 21

theorem twoPow64_cast : TWO_POW_64 = ((2 ^ 64 : Nat) : Fr) := by
  norm_num [TWO_POW_64]

theorem Hashes.hash {input : List Fr} {multiple : Nat} (hashes : Hashes input multiple) :
    poseidon2Hash mixing input = ((multiple * 2 ^ 64 : Nat) : Fr) := by
  cases hashes with
  | leaf => rw [leaf_zero]; simp
  | node level below =>
    rw [hash_pair, twoPow64_cast]
    push_cast
    ring
  | transfer =>
    rw [hash_transfer, twoPow64_cast]
    push_cast [publicInputs]
    ring

theorem Hashes.unique {a b : List Fr} {m n : Nat} (hashes : Hashes a m) (hashes' : Hashes b n)
    (same : m = n) : a = b := by
  cases hashes <;> cases hashes'
  case node.node => congr; omega
  all_goals first | rfl | omega

theorem Hashes.below {input : List Fr} {multiple : Nat} (hashes : Hashes input multiple) :
    multiple ≤ 40 := by
  cases hashes <;> omega

theorem node_hash (first : Fin MERKLE_DEPTH) {level : Nat} (below : level < 20) :
    poseidon2Hash mixing (path.node first ((2 * level * 2 ^ 64 : Nat) : Fr)) =
      ((2 * (level + 1) * 2 ^ 64 : Nat) : Fr) := by
  rw [path_node, (Hashes.node level below).hash]
  congr 1

/-- From a node at some level, everything hashed on the rest of the path is told apart. -/
theorem foldl_queries (levels : List (Fin MERKLE_DEPTH)) (level : Nat) (done : List (List Fr))
    (inside : level + levels.length ≤ 20)
    (hashes : ∀ input ∈ done, ∃ multiple, Hashes input multiple) :
    ∀ input ∈ (levels.foldl (fun (done : Fr × List (List Fr)) level =>
      (poseidon2Hash mixing (path.node level done.1), done.2 ++ [path.node level done.1]))
      (((2 * level * 2 ^ 64 : Nat) : Fr), done)).2, ∃ multiple, Hashes input multiple := by
  induction levels generalizing level done with
  | nil => exact hashes
  | cons first rest ih =>
    rw [List.length_cons] at inside
    have below : level < 20 := by omega
    rw [List.foldl_cons]
    simp only [node_hash first below]
    apply ih (level + 1) _ (by omega)
    intro input member
    rcases List.mem_append.mp member with earlier | last
    · exact hashes input earlier
    · rw [List.mem_singleton] at last
      exact ⟨_, by rw [last]; exact .node level below⟩

theorem path_queries (leaf : Fr) (start : leaf = 0) :
    ∀ input ∈ path.queries mixing leaf, ∃ multiple, Hashes input multiple := by
  subst start
  have queries := foldl_queries (List.finRange MERKLE_DEPTH) 0 [] (by simp [MERKLE_DEPTH])
    (by simp)
  simpa [MerklePath.queries] using queries

theorem hashQueries_hashes : ∀ input ∈ hashQueries mixing publicInputs privateInputs,
    ∃ multiple, Hashes input multiple := by
  intro input member
  simp only [hashQueries, List.cons_append, List.mem_cons, List.mem_append] at member
  rcases member with rfl | (path | transfer | path) | rfl | path
  · exact ⟨0, .leaf⟩
  · exact path_queries _ leaf_zero input path
  · exact ⟨21, transfer ▸ .transfer⟩
  · exact path_queries _ rfl input path
  · exact ⟨0, .leaf⟩
  · exact path_queries _ leaf_zero input path

theorem no_collision :
    ¬ HasCollision mixing (hashQueries mixing publicInputs privateInputs) := by
  rintro ⟨a, queried, b, queried', distinct, same⟩
  obtain ⟨m, hashes⟩ := hashQueries_hashes a queried
  obtain ⟨n, hashes'⟩ := hashQueries_hashes b queried'
  -- multiples of the length word up to 40 do not wrap around in the field
  have bound := hashes.below
  have bound' := hashes'.below
  rw [hashes.hash, hashes'.hash] at same
  have values := congrArg ZMod.val same
  rw [ZMod.val_natCast_of_lt, ZMod.val_natCast_of_lt] at values
  · exact distinct (hashes.unique hashes' (Nat.eq_of_mul_eq_mul_right (by decide) values))
  · exact lt_of_le_of_lt (Nat.mul_le_mul_right _ bound') (by decide)
  · exact lt_of_le_of_lt (Nat.mul_le_mul_right _ bound) (by decide)

end Linear

open Linear in
theorem nullifier_unique_linear : NullifierUnique mixing publicInputs privateInputs ↔
    ∀ key, poseidon2Hash mixing (key :: publicInputs.transferContext) =
      poseidon2Hash mixing (privateInputs.privateKey :: publicInputs.transferContext) :=
  nullifier_unique_iff mixing publicInputs privateInputs satisfied

open Linear in
/-- Two keys give one member two nullifiers for one transfer. -/
theorem not_nullifier_unique :
    ¬ ∀ permutation : Permutation, (∀ x : PublicInputs, ∃ key key',
        poseidon2Hash permutation (key :: x.transferContext) ≠
          poseidon2Hash permutation (key' :: x.transferContext)) →
      ∀ (x x' : PublicInputs) (w w' : PrivateInputs), Main permutation x w →
        Main permutation x' w' → w'.wallet = w.wallet → SameContext x x' →
          x'.nullifier = x.nullifier := by
  intro unique
  have same := unique mixing hash_not_constant publicInputs _ privateInputs _ satisfied
    (main_of_privateKey satisfied 1) rfl ⟨rfl, rfl, rfl, rfl, rfl⟩
  rw [hash_transfer] at same
  simp only [publicInputs] at same
  have one : (1 : Fr) = 0 := by linear_combination same
  exact absurd one (by decide)

/-! ## The expiry is free -/

/-- Every satisfying assignment of the same wallet and roots has this assignment's
jurisdiction and expiry, unless the two exhibit a collision of the hash. -/
def CredentialBound (permutation : Permutation) (x : PublicInputs) (w : PrivateInputs) : Prop :=
  ∀ x' w', Main permutation x' w' → w'.wallet = w.wallet → x'.merkleRoot = x.merkleRoot →
    x'.sanctionsRoot = x.sanctionsRoot → x'.jurisdictionRoot = x.jurisdictionRoot →
      w'.jurisdiction = w.jurisdiction ∧ w'.credentialExpiry = w.credentialExpiry ∨
        HasCollision permutation (hashQueries permutation x w ++ hashQueries permutation x' w')

/-- An expiry no smaller in its low 64 bits may take the place of the prover's. -/
theorem main_of_expiry {x : PublicInputs} {w : PrivateInputs} (satisfied : Main permutation x w)
    (timestamp expiry : Fr) (below : asU64 timestamp ≤ asU64 expiry) :
    Main permutation { x with timestamp } { w with credentialExpiry := expiry } where
  membership := satisfied.membership
  nullifier := satisfied.nullifier
  sanctionsIndices := satisfied.sanctionsIndices
  sanctionsLeaf := satisfied.sanctionsLeaf
  sanctionsPath := satisfied.sanctionsPath
  jurisdiction := satisfied.jurisdiction
  expiry := below

theorem asU64_natCast {n : Nat} (below : n < BN254_ORDER) : asU64 (n : Fr) = n % 2 ^ 64 := by
  rw [asU64, ZMod.val_natCast_of_lt below]

/-- Two expiries that no timestamp exceeds. -/
theorem exists_other_expiry (expiry : Fr) :
    ∃ other : Fr, other ≠ expiry ∧ ∀ timestamp, asU64 timestamp ≤ asU64 other := by
  have low : asU64 ((2 ^ 64 - 1 : Nat) : Fr) = 2 ^ 64 - 1 := by
    rw [asU64_natCast (by decide)]
    decide
  have high : asU64 ((2 ^ 65 - 1 : Nat) : Fr) = 2 ^ 64 - 1 := by
    rw [asU64_natCast (by decide)]
    decide
  have latest : ∀ timestamp : Fr, asU64 timestamp ≤ 2 ^ 64 - 1 :=
    fun timestamp => Nat.le_sub_one_of_lt (Nat.mod_lt _ (by decide))
  by_cases same : ((2 ^ 64 - 1 : Nat) : Fr) = expiry
  · refine ⟨((2 ^ 65 - 1 : Nat) : Fr), ?_, fun timestamp => high ▸ latest timestamp⟩
    intro equal
    -- the two candidates have different representatives
    have values := congrArg ZMod.val (same.trans equal.symm)
    rw [ZMod.val_natCast_of_lt (by decide), ZMod.val_natCast_of_lt (by decide)] at values
    exact absurd values (by decide)
  · exact ⟨_, same, fun timestamp => low ▸ latest timestamp⟩

/-- The attributes of a credential are bound only where the assignment's own hash
inputs already collide: any other assignment can change its expiry and nothing else. -/
theorem credential_bound_iff (permutation : Permutation) (x : PublicInputs) (w : PrivateInputs)
    (satisfied : Main permutation x w) :
    CredentialBound permutation x w ↔ HasCollision permutation (hashQueries permutation x w) := by
  constructor
  · intro bound
    -- only the expiry changes, so both assignments hash the same inputs
    obtain ⟨expiry, other, latest⟩ := exists_other_expiry w.credentialExpiry
    have changed := main_of_expiry satisfied x.timestamp expiry (latest x.timestamp)
    rcases bound _ _ changed rfl rfl rfl rfl with ⟨-, same⟩ | ⟨a, queried, b, queried', collision⟩
    · exact absurd same other
    · exact ⟨a, (List.mem_append.mp queried).elim id id, b,
        (List.mem_append.mp queried').elim id id, collision⟩
  · rintro ⟨a, queried, b, queried', collision⟩ x' w' - - - - -
    exact Or.inr ⟨a, List.mem_append_left _ queried, b, List.mem_append_left _ queried', collision⟩

/-- A member can prove at any time: no timestamp is past every expiry he may claim. -/
theorem main_of_timestamp {x : PublicInputs} {w : PrivateInputs} (satisfied : Main permutation x w)
    (timestamp : Fr) :
    Main permutation { x with timestamp } { w with credentialExpiry := timestamp } :=
  main_of_expiry satisfied timestamp timestamp le_rfl

open Linear in
theorem credential_bound_linear : CredentialBound mixing publicInputs privateInputs ↔
    HasCollision mixing (hashQueries mixing publicInputs privateInputs) :=
  credential_bound_iff mixing publicInputs privateInputs satisfied

open Linear in
/-- An assignment whose hash inputs do not collide, and which holds with another expiry. -/
theorem not_credential_bound :
    ¬ ∀ (permutation : Permutation) (x : PublicInputs) (w : PrivateInputs),
      Main permutation x w → CredentialBound permutation x w := by
  intro bound
  obtain ⟨expiry, other, latest⟩ := exists_other_expiry privateInputs.credentialExpiry
  have changed := main_of_expiry satisfied publicInputs.timestamp expiry (latest _)
  rcases bound mixing publicInputs privateInputs satisfied _ _ changed rfl rfl rfl rfl with
    ⟨-, same⟩ | ⟨a, queried, b, queried', collision⟩
  · exact other same
  · exact no_collision ⟨a, (List.mem_append.mp queried).elim id id, b,
      (List.mem_append.mp queried').elim id id, collision⟩

end ZkSettle.Circuit
