import ZkSettle.Crypto.Proofs

/-!
# Sanctioned wallets

What the sparse tree answers after any insertions and removals. The tree knows a wallet by
the low bits of its hash, so that it answers for the last operation on any wallet with the
same bits; this is the last operation on the wallet itself only as far as the two are of
one kind.
-/
namespace ZkSettle.Crypto

inductive Operation where
  | insert (wallet : Fr)
  | remove (wallet : Fr)
  deriving DecidableEq, Repr

def Operation.wallet : Operation → Fr
  | .insert wallet => wallet
  | .remove wallet => wallet

def Operation.inserts : Operation → Bool
  | .insert _ => true
  | .remove _ => false

def SparseMerkleTree.apply (tree : SparseMerkleTree) : Operation → SparseMerkleTree
  | .insert wallet => tree.insert wallet
  | .remove wallet => (tree.remove wallet).1

/-- A tree that has seen some operations. -/
def SparseMerkleTree.after (operations : List Operation) : SparseMerkleTree :=
  operations.foldl SparseMerkleTree.apply .new

/-- No proof is given that the wallet is not sanctioned. -/
def SparseMerkleTree.Refuses (tree : SparseMerkleTree) (wallet : Fr) : Prop :=
  ∃ e, tree.exclusionProof wallet = .error e

/-! ## Last operations -/

/-- The last operation on the selected wallets is an insertion. -/
def lastInserted (selected : Fr → Bool) (operations : List Operation) : Bool :=
  ((operations.filter fun op => selected op.wallet).getLast?.map Operation.inserts).getD false

theorem lastInserted_append (selected : Fr → Bool) (operations : List Operation) (op : Operation) :
    lastInserted selected (operations ++ [op]) =
      if selected op.wallet then op.inserts else lastInserted selected operations := by
  cases found : selected op.wallet <;> simp [lastInserted, List.filter_append, found]

/-! ## Keys -/

/-- The position of a wallet in the tree. -/
def walletKey (wallet : Fr) : List Bool := keyBits (poseidon2Hash [wallet])

def sameKey (wallet other : Fr) : Bool := walletKey other == walletKey wallet

theorem sameKey_eq_true {wallet other : Fr} :
    sameKey wallet other = true ↔ walletKey other = walletKey wallet := beq_iff_eq

theorem SparseMerkleTree.refuses_iff {tree : SparseMerkleTree} {wallet : Fr} :
    tree.Refuses wallet ↔ (tree.leaves.lookup (walletKey wallet)).isSome = true := by
  rw [SparseMerkleTree.Refuses, SparseMerkleTree.exclusionProof, ← walletKey]
  by_cases present : (tree.leaves.lookup (walletKey wallet)).isSome = true
  · simp [present]
  · simp [present]

theorem SparseMerkleTree.leaves_insert (tree : SparseMerkleTree) (wallet : Fr) :
    (tree.apply (.insert wallet)).leaves = tree.leaves.insert (walletKey wallet) 1 := rfl

theorem SparseMerkleTree.leaves_remove (tree : SparseMerkleTree) (wallet : Fr) :
    (tree.apply (.remove wallet)).leaves = tree.leaves.erase (walletKey wallet) := rfl

/-- One operation sets the answer for its key and keeps every other answer. -/
theorem SparseMerkleTree.lookup_apply (tree : SparseMerkleTree) (op : Operation) (wallet : Fr) :
    ((tree.apply op).leaves.lookup (walletKey wallet)).isSome =
      if sameKey wallet op.wallet then op.inserts
      else (tree.leaves.lookup (walletKey wallet)).isSome := by
  cases op with
  | insert other =>
    rw [leaves_insert, Operation.wallet]
    by_cases same : walletKey other = walletKey wallet
    · rw [if_pos (sameKey_eq_true.mpr same), same, AList.lookup_insert]
      rfl
    · rw [if_neg (mt sameKey_eq_true.mp same), AList.lookup_insert_ne (Ne.symm same)]
  | remove other =>
    rw [leaves_remove, Operation.wallet]
    by_cases same : walletKey other = walletKey wallet
    · rw [if_pos (sameKey_eq_true.mpr same), same, AList.lookup_erase]
      rfl
    · rw [if_neg (mt sameKey_eq_true.mp same), AList.lookup_erase_ne (Ne.symm same)]

/-- The tree answers for the last operation on the wallets with the key. -/
theorem SparseMerkleTree.refuses_after_iff (operations : List Operation) (wallet : Fr) :
    (after operations).Refuses wallet ↔ lastInserted (sameKey wallet) operations = true := by
  rw [refuses_iff, Bool.coe_iff_coe]
  induction operations using List.reverseRecOn with
  | nil => rfl
  | append_singleton operations op ih =>
    rw [after, List.foldl_append, List.foldl_cons, List.foldl_nil, ← after, lookup_apply, ih,
      lastInserted_append]

/-- The answer is the one for the wallet itself if and only if the last operations on the
wallet and on its key are of one kind; and an operation keeps the answer for a wallet if and
only if it has another key, or leaves the key as it was. -/
theorem SparseMerkleTree.refuses_perWallet_iff (operations : List Operation) (wallet : Fr) :
    (((after operations).Refuses wallet ↔ lastInserted (· == wallet) operations = true) ↔
        lastInserted (sameKey wallet) operations = lastInserted (· == wallet) operations) ∧
      ∀ op : Operation,
        (((after (operations ++ [op])).Refuses wallet ↔ (after operations).Refuses wallet) ↔
          walletKey op.wallet ≠ walletKey wallet ∨
            op.inserts = lastInserted (sameKey wallet) operations) := by
  constructor
  · rw [refuses_after_iff, Bool.coe_iff_coe]
  · intro op
    rw [refuses_after_iff, refuses_after_iff, Bool.coe_iff_coe, lastInserted_append]
    by_cases same : walletKey op.wallet = walletKey wallet
    · simp [sameKey_eq_true.mpr same, same]
    · simp [mt sameKey_eq_true.mp same, same]

/-- Two wallets with one key: the sanction of the one is lifted by removing the other. -/
theorem SparseMerkleTree.not_refuses_perWallet : ¬ ∀ (operations : List Operation) (wallet : Fr),
    ((after operations).Refuses wallet ↔ lastInserted (· == wallet) operations = true) ∧
      ∀ op : Operation, op.wallet ≠ wallet →
        ((after (operations ++ [op])).Refuses wallet ↔ (after operations).Refuses wallet) := by
  intro always
  have same : walletKey 1739 = walletKey 2566 := by decide +kernel
  have sanctioned : (after [.insert 2566]).Refuses 2566 := by
    rw [refuses_after_iff]
    simp [lastInserted, sameKey, Operation.wallet, Operation.inserts]
  have lifted : ¬ (after ([.insert 2566] ++ [.remove 1739])).Refuses 2566 := by
    rw [refuses_after_iff, lastInserted_append, Operation.wallet,
      if_pos (sameKey_eq_true.mpr same)]
    exact Bool.false_ne_true
  have kept := (always [.insert 2566] 2566).2 (.remove 1739) (by decide)
  exact lifted (kept.mpr sanctioned)

/-- Where the wallet has its key to itself, it is sanctioned by its own last operation. -/
theorem SparseMerkleTree.refuses_of_ownKey {operations : List Operation} {wallet : Fr}
    (own : ∀ op ∈ operations, walletKey op.wallet = walletKey wallet → op.wallet = wallet) :
    (after operations).Refuses wallet ↔ lastInserted (· == wallet) operations = true := by
  have selected : operations.filter (fun op => sameKey wallet op.wallet) =
      operations.filter (fun op => op.wallet == wallet) := by
    apply List.filter_congr
    intro op member
    rw [Bool.eq_iff_iff, sameKey_eq_true, beq_iff_eq]
    exact ⟨own op member, fun same => by rw [same]⟩
  rw [refuses_after_iff, lastInserted, lastInserted, selected]

end ZkSettle.Crypto
