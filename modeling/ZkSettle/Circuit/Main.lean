import Mathlib.Data.ZMod.Basic

/-!
# The compliance circuit

The constraints of the circuit's `main` over the BN254 scalar field, with the
sponge built on the permutation of the standard library, which is a parameter. An
`assert` is a proposition; arrays are functions from their indices.
-/
namespace ZkSettle.Circuit

/-- The order of the BN254 scalar field. -/
def BN254_ORDER : Nat :=
  21888242871839275222246405745257275088548364400416034343698204186575808495617

abbrev Fr := ZMod BN254_ORDER

instance : NeZero BN254_ORDER := ⟨by decide⟩

def MERKLE_DEPTH : Nat := 20

def RATE : Nat := 3

def TWO_POW_64 : Fr := 18446744073709551616

/-- `poseidon2_permutation` on a state of four field elements. -/
abbrev Permutation := (Fin 4 → Fr) → Fin 4 → Fr

structure Sponge where
  cache : Fin 3 → Fr
  state : Fin 4 → Fr
  cacheSize : Nat

def Sponge.new (iv : Fr) : Sponge where
  cache := fun _ => 0
  state := fun lane => if lane.val = RATE then iv else 0
  cacheSize := 0

/-- The lanes below the rate take up the filled part of the cache. -/
def Sponge.addCache (s : Sponge) (lane : Fin 4) : Fr :=
  if below : lane.val < 3 then
    if lane.val < s.cacheSize then s.state lane + s.cache ⟨lane, below⟩ else s.state lane
  else s.state lane

def Sponge.performDuplex (permutation : Permutation) (s : Sponge) : Sponge :=
  { s with state := permutation s.addCache }

def Sponge.absorb (permutation : Permutation) (s : Sponge) (input : Fr) : Sponge :=
  if s.cacheSize = RATE then
    -- the cache is full: permute, then start a new one
    let s := s.performDuplex permutation
    { s with cache := Function.update s.cache 0 input, cacheSize := 1 }
  else
    { s with
      cache := fun slot => if slot.val = s.cacheSize then input else s.cache slot
      cacheSize := s.cacheSize + 1 }

def Sponge.squeeze (permutation : Permutation) (s : Sponge) : Fr :=
  (s.performDuplex permutation).state 0

def poseidon2Hash (permutation : Permutation) (input : List Fr) : Fr :=
  let iv : Fr := input.length * TWO_POW_64
  (input.foldl (Sponge.absorb permutation) (Sponge.new iv)).squeeze permutation

/-- The siblings of a Merkle path and on which side each of them is. -/
structure MerklePath where
  path : Fin MERKLE_DEPTH → Fr
  pathIndices : Fin MERKLE_DEPTH → Fin 2

/-- The two inputs hashed at a level, where the current node is on the left at index 0. -/
def MerklePath.node (p : MerklePath) (level : Fin MERKLE_DEPTH) (cur : Fr) : List Fr :=
  if p.pathIndices level = 0 then [cur, p.path level] else [p.path level, cur]

def MerklePath.root (permutation : Permutation) (p : MerklePath) (leaf : Fr) : Fr :=
  (List.finRange MERKLE_DEPTH).foldl
    (fun cur level => poseidon2Hash permutation (p.node level cur)) leaf

def verifyMerklePath (permutation : Permutation) (leaf : Fr) (p : MerklePath) (root : Fr) : Prop :=
  p.root permutation leaf = root

/-- The bits of the canonical representative, least significant first. -/
def toLeBits (x : Fr) (bit : Nat) : Fin 2 := if x.val.testBit bit then 1 else 0

/-- `as u64` keeps the low 64 bits of the representative. -/
def asU64 (x : Fr) : Nat := x.val % 2 ^ 64

structure PublicInputs where
  merkleRoot : Fr
  nullifier : Fr
  mintLo : Fr
  mintHi : Fr
  epoch : Fr
  recipientLo : Fr
  recipientHi : Fr
  amount : Fr
  sanctionsRoot : Fr
  jurisdictionRoot : Fr
  timestamp : Fr

structure PrivateInputs where
  wallet : Fr
  membership : MerklePath
  privateKey : Fr
  sanctions : MerklePath
  sanctionsLeafValue : Fr
  jurisdiction : Fr
  jurisdictionMembership : MerklePath
  credentialExpiry : Fr

/-- The transfer that the nullifier is bound to. -/
def PublicInputs.transferContext (x : PublicInputs) : List Fr :=
  [x.mintLo, x.mintHi, x.epoch, x.recipientLo, x.recipientHi, x.amount]

/-- The assertions of `main`, check by check. -/
structure Main (permutation : Permutation) (x : PublicInputs) (w : PrivateInputs) : Prop where
  /-- Check 1: the wallet leaf is in the membership tree. -/
  membership : verifyMerklePath permutation (poseidon2Hash permutation [w.wallet]) w.membership
    x.merkleRoot
  /-- Check 2: the nullifier is derived from the private key and the transfer. -/
  nullifier : poseidon2Hash permutation (w.privateKey :: x.transferContext) = x.nullifier
  /-- Check 3: the sanctions path is the one of the wallet leaf and ends in zero. -/
  sanctionsIndices : ∀ level : Fin MERKLE_DEPTH,
    w.sanctions.pathIndices level = toLeBits (poseidon2Hash permutation [w.wallet]) level
  sanctionsLeaf : w.sanctionsLeafValue = 0
  sanctionsPath : verifyMerklePath permutation w.sanctionsLeafValue w.sanctions x.sanctionsRoot
  /-- Check 4: the jurisdiction is in the tree of allowed jurisdictions. -/
  jurisdiction : verifyMerklePath permutation (poseidon2Hash permutation [w.jurisdiction])
    w.jurisdictionMembership x.jurisdictionRoot
  /-- Check 5: the credential has not expired, the last second included. -/
  expiry : asU64 x.timestamp ≤ asU64 w.credentialExpiry

/-- Check 3 on its own. -/
structure SanctionsCheck (permutation : Permutation) (wallet : Fr) (sanctions : MerklePath)
    (leafValue root : Fr) : Prop where
  indices : ∀ level : Fin MERKLE_DEPTH,
    sanctions.pathIndices level = toLeBits (poseidon2Hash permutation [wallet]) level
  leaf : leafValue = 0
  path : verifyMerklePath permutation leafValue sanctions root

theorem Main.sanctions {permutation : Permutation} {x : PublicInputs} {w : PrivateInputs}
    (satisfied : Main permutation x w) :
    SanctionsCheck permutation w.wallet w.sanctions w.sanctionsLeafValue x.sanctionsRoot where
  indices := satisfied.sanctionsIndices
  leaf := satisfied.sanctionsLeaf
  path := satisfied.sanctionsPath

instance (permutation : Permutation) (leaf : Fr) (p : MerklePath) (root : Fr) :
    Decidable (verifyMerklePath permutation leaf p root) :=
  inferInstanceAs (Decidable (_ = _))

/-- The constraints can be evaluated. -/
instance (permutation : Permutation) (x : PublicInputs) (w : PrivateInputs) :
    Decidable (Main permutation x w) :=
  decidable_of_iff
    (verifyMerklePath permutation (poseidon2Hash permutation [w.wallet]) w.membership
        x.merkleRoot ∧
      poseidon2Hash permutation (w.privateKey :: x.transferContext) = x.nullifier ∧
      (∀ level : Fin MERKLE_DEPTH, w.sanctions.pathIndices level =
        toLeBits (poseidon2Hash permutation [w.wallet]) level) ∧
      w.sanctionsLeafValue = 0 ∧
      verifyMerklePath permutation w.sanctionsLeafValue w.sanctions x.sanctionsRoot ∧
      verifyMerklePath permutation (poseidon2Hash permutation [w.jurisdiction])
        w.jurisdictionMembership x.jurisdictionRoot ∧
      asU64 x.timestamp ≤ asU64 w.credentialExpiry)
    ⟨fun ⟨a, b, c, d, e, f, g⟩ => ⟨a, b, c, d, e, f, g⟩,
      fun ⟨a, b, c, d, e, f, g⟩ => ⟨a, b, c, d, e, f, g⟩⟩

/-! ## The hash inputs of an assignment -/

/-- What is hashed along a Merkle path, from the leaf to the root. -/
def MerklePath.queries (permutation : Permutation) (p : MerklePath) (leaf : Fr) : List (List Fr) :=
  ((List.finRange MERKLE_DEPTH).foldl (fun done level =>
    (poseidon2Hash permutation (p.node level done.1), done.2 ++ [p.node level done.1]))
    (leaf, [])).2

/-- Everything `main` hashes on an assignment, in its order. -/
def hashQueries (permutation : Permutation) (x : PublicInputs) (w : PrivateInputs) :
    List (List Fr) :=
  [w.wallet] :: w.membership.queries permutation (poseidon2Hash permutation [w.wallet]) ++
    (w.privateKey :: x.transferContext) ::
      w.sanctions.queries permutation w.sanctionsLeafValue ++
    [w.jurisdiction] ::
      w.jurisdictionMembership.queries permutation (poseidon2Hash permutation [w.jurisdiction])

/-- An explicit collision of the hash among some inputs. -/
def HasCollision (permutation : Permutation) (inputs : List (List Fr)) : Prop :=
  ∃ a ∈ inputs, ∃ b ∈ inputs,
    a ≠ b ∧ poseidon2Hash permutation a = poseidon2Hash permutation b

/-! ## A permutation to evaluate with -/

namespace Linear

/-- A permutation under which the hash adds up every third input and the length. -/
def mixing : Permutation :=
  fun state lane => if lane = 0 then state 0 + state 3 else state lane

/-- The path of zeros, always on the left. -/
def path : MerklePath where
  path := fun _ => 0
  pathIndices := fun _ => 0

end Linear

end ZkSettle.Circuit
