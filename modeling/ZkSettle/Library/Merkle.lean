import Mathlib.Data.List.Basic
import Mathlib.Data.Nat.Bitwise
import Mathlib.Logic.Function.Iterate

/-!
# Merkle trees

A tree hashed level by level from its leaves, neighbours in pairs and the last node alone
with a padding value, and a sparse tree given by the nodes at its prefixes. In both, the
siblings on the way from a leaf fold to the nodes above it. A list with more leaves than a
tree of some height holds is cut into blocks, and each node at that height is the root of
its own block.
-/
namespace Merkle

universe u

variable {α : Type u} (hash : α → α → α) (pad : α)

/-! ## Folding a path -/

/-- A node and its sibling hashed in their order; `right` when the node is the right one. -/
def join (right : Bool) (node sibling : α) : α :=
  if right then hash sibling node else hash node sibling

/-- The siblings joined one by one, from the leaf upward. -/
def foldPath {height : Nat} (right : Fin height → Bool) (path : Fin height → α) (leaf : α) : α :=
  (List.finRange height).foldl (fun node level => join hash (right level) node (path level)) leaf

variable {hash pad}

/-- A path whose every step leads to the node above leads to the last of the nodes. -/
theorem foldPath_of_steps {height : Nat} {right : Fin height → Bool} {path : Fin height → α}
    (node : Nat → α)
    (steps : ∀ level : Fin height,
      join hash (right level) (node level) (path level) = node (level + 1)) :
    foldPath hash right path (node 0) = node height := by
  induction height with
  | zero => rfl
  | succ height ih =>
    -- the path without its last sibling leads to the node below
    have below := ih fun level => steps level.castSucc
    rw [foldPath] at below
    rw [foldPath, List.finRange_succ_last, List.foldl_append, List.foldl_map, below]
    simpa using steps (Fin.last height)

/-! ## Levels -/

variable (hash pad)

/-- The level above some nodes. -/
def pairs : List α → List α
  | left :: right :: rest => hash left right :: pairs rest
  | [left] => [hash left pad]
  | [] => []

variable {hash pad}

theorem pairs_length (xs : List α) : (pairs hash pad xs).length = (xs.length + 1) / 2 := by
  induction xs using pairs.induct with
  | case1 left right rest ih =>
    rw [pairs, List.length_cons, ih]
    simp only [List.length_cons]
    omega
  | case2 left => simp [pairs]
  | case3 => simp [pairs]

/-- A node is the hash of the two nodes below it. -/
theorem pairs_getD {xs : List α} {index : Nat} (inside : 2 * index < xs.length) :
    (pairs hash pad xs).getD index pad =
      hash (xs.getD (2 * index) pad) (xs.getD (2 * index + 1) pad) := by
  induction xs using pairs.induct generalizing index with
  | case1 left right rest ih =>
    cases index with
    | zero => rfl
    | succ index =>
      have later : 2 * index < rest.length := by simp at inside; omega
      simpa [pairs, Nat.mul_succ] using ih later
  | case2 left =>
    have first : index = 0 := by simp at inside; omega
    subst first
    rfl
  | case3 => simp at inside

theorem levels_length {xs : List α} {index : Nat} (inside : index < xs.length) (height : Nat) :
    index / 2 ^ height < ((pairs hash pad)^[height] xs).length := by
  induction height with
  | zero => simpa using inside
  | succ height ih =>
    rw [Function.iterate_succ_apply', pairs_length, Nat.pow_succ, ← Nat.div_div_eq_div_mul]
    omega

/-- One step upward from a node: its sibling stands at the position that differs in the
lowest bit. -/
theorem join_pairs {xs : List α} {index : Nat} (inside : index < xs.length) :
    join hash (decide (index % 2 = 1)) (xs.getD index pad) (xs.getD (index ^^^ 1) pad) =
      (pairs hash pad xs).getD (index / 2) pad := by
  rw [pairs_getD (by omega)]
  rcases Nat.mod_two_eq_zero_or_one index with even | odd
  · have position : 2 * (index / 2) = index := by omega
    rw [Nat.xor_one_of_even (Nat.even_iff.mpr even), position]
    simp [join, even]
  · have position : 2 * (index / 2) = index - 1 := by omega
    have after : index - 1 + 1 = index := by omega
    rw [Nat.xor_one_of_odd (Nat.odd_iff.mpr odd), position, after]
    simp [join, odd]

/-- The siblings of a leaf fold to the node above it, at any height. -/
theorem foldPath_levels {xs : List α} {index : Nat} (inside : index < xs.length) (height : Nat) :
    foldPath hash (fun level : Fin height => decide (index / 2 ^ level.val % 2 = 1))
        (fun level => ((pairs hash pad)^[level] xs).getD (index / 2 ^ level.val ^^^ 1) pad)
        (xs.getD index pad) =
      ((pairs hash pad)^[height] xs).getD (index / 2 ^ height) pad := by
  have steps : ∀ level : Fin height,
      join hash (decide (index / 2 ^ level.val % 2 = 1))
          (((pairs hash pad)^[level] xs).getD (index / 2 ^ level.val) pad)
          (((pairs hash pad)^[level] xs).getD (index / 2 ^ level.val ^^^ 1) pad) =
        ((pairs hash pad)^[level + 1] xs).getD (index / 2 ^ (level.val + 1)) pad := by
    intro level
    rw [join_pairs (levels_length inside level), Function.iterate_succ_apply', Nat.pow_succ,
      Nat.div_div_eq_div_mul]
  simpa using foldPath_of_steps
    (fun level => ((pairs hash pad)^[level] xs).getD (index / 2 ^ level) pad) steps

theorem pairs_replicate (count : Nat) (x : α) :
    pairs hash pad (List.replicate (2 * count) x) = List.replicate count (hash x x) := by
  induction count with
  | zero => rfl
  | succ count ih => simp [Nat.mul_succ, List.replicate_succ, pairs, ih]

/-- A full tree of equal leaves has equal nodes on every level. -/
theorem levels_replicate (height : Nat) (x : α) :
    (pairs hash pad)^[height] (List.replicate (2 ^ height) x) =
      [(fun node => hash node node)^[height] x] := by
  induction height generalizing x with
  | zero => rfl
  | succ height ih =>
    rw [Function.iterate_succ_apply, Nat.pow_succ', pairs_replicate, ih,
      Function.iterate_succ_apply]

/-! ## Blocks -/

theorem pairs_drop (xs : List α) (count : Nat) :
    pairs hash pad (xs.drop (2 * count)) = (pairs hash pad xs).drop count := by
  induction xs using pairs.induct generalizing count with
  | case1 left right rest ih =>
    cases count with
    | zero => rfl
    | succ count => simpa [pairs, Nat.mul_succ] using ih count
  | case2 left => cases count <;> simp [pairs, Nat.mul_succ]
  | case3 => simp [pairs]

theorem pairs_take (xs : List α) (count : Nat) :
    pairs hash pad (xs.take (2 * count)) = (pairs hash pad xs).take count := by
  induction xs using pairs.induct generalizing count with
  | case1 left right rest ih =>
    cases count with
    | zero => rfl
    | succ count => simpa [pairs, Nat.mul_succ] using ih count
  | case2 left => cases count <;> simp [pairs, Nat.mul_succ]
  | case3 => simp [pairs]

/-- The leaves below the node with an index at some height. -/
def block (height index : Nat) (xs : List α) : List α :=
  (xs.drop (index * 2 ^ height)).take (2 ^ height)

theorem levels_block (xs : List α) (height index : Nat) :
    (pairs hash pad)^[height] (block height index xs) =
      (((pairs hash pad)^[height] xs).drop index).take 1 := by
  induction height generalizing xs with
  | zero => simp [block]
  | succ height ih =>
    -- a block of twice the leaves has the same block one level up
    have wider : pairs hash pad (block (height + 1) index xs) =
        block height index (pairs hash pad xs) := by
      rw [block, block, Nat.pow_succ', ← Nat.mul_assoc, Nat.mul_comm index, Nat.mul_assoc,
        pairs_take, pairs_drop]
    rw [Function.iterate_succ_apply, wider, ih, Function.iterate_succ_apply]

/-- A node at some height is the root over its block. -/
theorem headD_levels_block (xs : List α) (height index : Nat) :
    ((pairs hash pad)^[height] (block height index xs)).headD pad =
      ((pairs hash pad)^[height] xs).getD index pad := by
  rw [levels_block]
  simp [List.headD_eq_head?_getD, List.head?_take]

/-- The first of the nodes at some height is the root over the first block. -/
theorem headD_levels (xs : List α) (height : Nat) :
    ((pairs hash pad)^[height] xs).headD pad =
      ((pairs hash pad)^[height] (block height 0 xs)).headD pad := by
  rw [headD_levels_block, List.headD_eq_head?_getD, List.head?_eq_getElem?,
    List.getD_eq_getElem?_getD]

/-! ## Sparse trees -/

/-- The way from the root down to a level, for the bits of a leaf from the lowest up. -/
def topDown (bits : List Bool) (level : Nat) : List Bool := (bits.drop level).reverse

theorem topDown_succ {bits : List Bool} {level : Nat} (inside : level < bits.length) :
    topDown bits level = topDown bits (level + 1) ++ [bits.getD level false] := by
  rw [topDown, List.drop_eq_getElem_cons inside, List.reverse_cons, topDown,
    List.getD_eq_getElem bits false inside]

/-- In a tree given by the nodes at its prefixes, the siblings along the bits of a leaf lead
from each node to the one above. -/
theorem join_topDown {node : List Bool → α} {bits : List Bool}
    (branches : ∀ path, path.length < bits.length →
      node path = hash (node (path ++ [false])) (node (path ++ [true])))
    {level : Nat} (inside : level < bits.length) :
    join hash (bits.getD level false) (node (topDown bits level))
        (node (topDown bits (level + 1) ++ [!bits.getD level false])) =
      node (topDown bits (level + 1)) := by
  have above : (topDown bits (level + 1)).length < bits.length := by simp [topDown]; omega
  rw [branches _ above, topDown_succ inside]
  -- the bit says on which side of its parent the node is
  cases bits.getD level false <;> simp [join]

/-- The siblings along the bits of a leaf fold to the root. -/
theorem foldPath_topDown {node : List Bool → α} {bits : List Bool} {height : Nat}
    (length : bits.length = height)
    (branches : ∀ path, path.length < height →
      node path = hash (node (path ++ [false])) (node (path ++ [true]))) :
    foldPath hash (fun level : Fin height => bits.getD level false)
        (fun level => node (topDown bits (level + 1) ++ [!bits.getD level false]))
        (node bits.reverse) =
      node [] := by
  subst length
  simpa [topDown] using foldPath_of_steps (fun level => node (topDown bits level))
    fun level => join_topDown branches level.isLt

/-! ## Two ways to one root -/

variable (hash) in
/-- The node that a path leads to from a leaf, at each level. -/
def climb {height : Nat} (right : Fin height → Bool) (path : Fin height → α) (leaf : α)
    (level : Nat) : α :=
  ((List.finRange height).take level).foldl
    (fun node level => join hash (right level) node (path level)) leaf

/-- A node and its sibling in the order in which they are hashed. -/
def sides (right : Bool) (node sibling : α) : α × α :=
  if right then (sibling, node) else (node, sibling)

variable (hash) in
/-- Two different pairs with one hash. -/
def Collide (p q : α × α) : Prop := p ≠ q ∧ hash p.1 p.2 = hash q.1 q.2

section Climb

variable {height : Nat} {right : Fin height → Bool} {path : Fin height → α} {leaf : α}

@[simp] theorem climb_zero : climb hash right path leaf 0 = leaf := by simp [climb]

theorem climb_succ (level : Fin height) :
    climb hash right path leaf (level + 1) =
      join hash (right level) (climb hash right path leaf level) (path level) := by
  have inside : level.val < (List.finRange height).length := by simp
  rw [climb, List.take_add_one, List.getElem?_eq_getElem inside, List.getElem_finRange]
  simp [climb]

theorem climb_height : climb hash right path leaf height = foldPath hash right path leaf := by
  rw [climb, List.take_of_length_le (by simp), foldPath]

theorem join_eq_sides (side : Bool) (node sibling : α) :
    join hash side node sibling = hash (sides side node sibling).1 (sides side node sibling).2 := by
  cases side <;> simp [join, sides]

theorem eq_of_sides {side : Bool} {node sibling other aside : α}
    (same : sides side node sibling = sides side other aside) : node = other := by
  cases side <;> simp_all [sides]

/-- Two ways up along the same sides to one root start from one leaf, or two pairs on them
collide. -/
theorem leaf_eq_or_collide (other : Nat → α) {sibling : Fin height → α}
    (steps : ∀ level : Fin height,
      join hash (right level) (other level) (sibling level) = other (level + 1))
    (root : foldPath hash right path leaf = other height) :
    leaf = other 0 ∨ ∃ level : Fin height,
      Collide hash (sides (right level) (climb hash right path leaf level) (path level))
        (sides (right level) (other level) (sibling level)) := by
  refine or_iff_not_imp_right.mpr fun clean => ?_
  -- without a collision the two ways meet on every level, from the root down
  have meet : ∀ level ≤ height, climb hash right path leaf level = other level := by
    intro level reach
    induction reach using Nat.decreasingInduction with
    | self => rw [climb_height, root]
    | of_succ level inside ih =>
      have parent := ih
      rw [climb_succ ⟨level, inside⟩, ← steps ⟨level, inside⟩, join_eq_sides,
        join_eq_sides] at parent
      by_contra apart
      exact clean ⟨⟨level, inside⟩, fun same => apart (eq_of_sides same), parent⟩
  simpa using meet 0 (Nat.zero_le height)

/-- What opens to the root of a tree given by the nodes at its prefixes, along the bits of a
leaf, is that leaf, unless two pairs collide. -/
theorem leaf_eq_or_collide_topDown {node : List Bool → α} {bits : List Bool}
    (length : bits.length = height)
    (branches : ∀ path, path.length < height →
      node path = hash (node (path ++ [false])) (node (path ++ [true])))
    (sides_eq : ∀ level : Fin height, right level = bits.getD level false)
    (root : foldPath hash right path leaf = node []) :
    leaf = node bits.reverse ∨ ∃ level : Fin height,
      Collide hash (sides (right level) (climb hash right path leaf level) (path level))
        (node (topDown bits (level + 1) ++ [false]),
          node (topDown bits (level + 1) ++ [true])) := by
  subst length
  have branch : ∀ level : Fin bits.length,
      sides (right level) (node (topDown bits level))
          (node (topDown bits (level + 1) ++ [!bits.getD level false])) =
        (node (topDown bits (level + 1) ++ [false]),
          node (topDown bits (level + 1) ++ [true])) := by
    intro level
    rw [sides_eq, topDown_succ level.isLt]
    cases bits.getD level.val false <;> simp [sides]
  have steps : ∀ level : Fin bits.length,
      join hash (right level) (node (topDown bits level))
          (node (topDown bits (level + 1) ++ [!bits.getD level false])) =
        node (topDown bits (level + 1)) := by
    intro level
    rw [sides_eq, join_topDown branches level.isLt]
  have top : foldPath hash right path leaf = node (topDown bits bits.length) := by
    rw [root, topDown, List.drop_length, List.reverse_nil]
  rcases leaf_eq_or_collide (fun level => node (topDown bits level)) steps top with
    same | ⟨level, collide⟩
  · exact Or.inl same
  · rw [branch] at collide
    exact Or.inr ⟨level, collide⟩

/-- The two nodes below the one with an index. -/
def children (pad : α) (nodes : List α) (index : Nat) : α × α :=
  (nodes.getD (2 * index) pad, nodes.getD (2 * index + 1) pad)

/-- A node below its parent, as the sides of the parent place it. -/
theorem eq_child_of_sides {nodes : List α} {index : Nat} {node sibling : α}
    (same : sides (decide (index % 2 = 1)) node sibling = children pad nodes (index / 2)) :
    node = nodes.getD index pad := by
  rw [children] at same
  rcases Nat.mod_two_eq_zero_or_one index with even | odd
  · have position : 2 * (index / 2) = index := by omega
    rw [position] at same
    simp only [sides, even] at same
    exact (Prod.ext_iff.mp same).1
  · have position : 2 * (index / 2) + 1 = index := by omega
    rw [position] at same
    simp only [sides, odd] at same
    exact (Prod.ext_iff.mp same).2

/-- One level down: below a node of the list is a node of the list, unless it is the padding
or the two pairs collide. -/
theorem eq_node_of_parent {nodes : List α} {index : Nat} {node sibling : α} (solid : node ≠ pad)
    (inside : index / 2 < (pairs hash pad nodes).length)
    (parent : join hash (decide (index % 2 = 1)) node sibling =
      (pairs hash pad nodes).getD (index / 2) pad)
    (clean : ¬ Collide hash (sides (decide (index % 2 = 1)) node sibling)
      (children pad nodes (index / 2))) :
    index < nodes.length ∧ node = nodes.getD index pad := by
  have below : 2 * (index / 2) < nodes.length := by
    rw [pairs_length] at inside
    omega
  rw [pairs_getD below, join_eq_sides] at parent
  have same := not_not.mp fun apart => clean ⟨apart, parent⟩
  have here := eq_child_of_sides same
  refine ⟨?_, here⟩
  by_contra beyond
  rw [List.getD_eq_default _ _ (by omega)] at here
  exact solid here

/-- The side of a level is the bit of the index that the sides spell. -/
theorem side_eq_bit (right : Fin height → Bool) (level : Fin height) :
    right level = decide (Nat.ofBits right / 2 ^ level.val % 2 = 1) := by
  rw [← Nat.testBit_eq_decide_div_mod_eq, Nat.testBit_ofBits_lt _ _ level.isLt]

/-- What opens to a root of a list is the leaf of the list at the index that the sides spell,
unless it is the padding, or a pair hashes to the padding, or two pairs collide. -/
theorem opened_or_broken {xs : List α} (nonempty : xs ≠ []) (unpadded : leaf ≠ pad)
    (root : foldPath hash right path leaf = ((pairs hash pad)^[height] xs).headD pad) :
    xs[Nat.ofBits right]? = some leaf ∨ ∃ level : Fin height,
      join hash (right level) (climb hash right path leaf level) (path level) = pad ∨
      2 * (Nat.ofBits right / 2 ^ (level.val + 1)) < ((pairs hash pad)^[level] xs).length ∧
        Collide hash (sides (right level) (climb hash right path leaf level) (path level))
          (children pad ((pairs hash pad)^[level] xs)
            (Nat.ofBits right / 2 ^ (level.val + 1))) := by
  refine or_iff_not_imp_right.mpr fun clean => ?_
  push Not at clean
  -- no node on the way up is the padding
  have solid : ∀ level ≤ height, climb hash right path leaf level ≠ pad := by
    intro level reach
    cases level with
    | zero => simpa using unpadded
    | succ level =>
      rw [climb_succ ⟨level, reach⟩]
      exact (clean ⟨level, reach⟩).1
  -- from the root down the way meets a node of the list on every level
  have meet : ∀ level ≤ height,
      Nat.ofBits right / 2 ^ level < ((pairs hash pad)^[level] xs).length ∧
        climb hash right path leaf level =
          ((pairs hash pad)^[level] xs).getD (Nat.ofBits right / 2 ^ level) pad := by
    intro level reach
    induction reach using Nat.decreasingInduction with
    | self =>
      have first : Nat.ofBits right / 2 ^ height = 0 :=
        Nat.div_eq_of_lt (Nat.ofBits_lt_two_pow right)
      have inside : 0 / 2 ^ height < ((pairs hash pad)^[height] xs).length :=
        levels_length (List.length_pos_iff.mpr nonempty) height
      rw [Nat.zero_div] at inside
      rw [first, climb_height, root, List.headD_eq_head?_getD, List.head?_eq_getElem?,
        List.getD_eq_getElem?_getD]
      exact ⟨inside, rfl⟩
    | of_succ level reach ih =>
      obtain ⟨inside, parent⟩ := ih
      have half : Nat.ofBits right / 2 ^ (level + 1) = Nat.ofBits right / 2 ^ level / 2 := by
        rw [Nat.pow_succ, Nat.div_div_eq_div_mul]
      have apart := (clean ⟨level, reach⟩).2
      dsimp only at apart
      rw [climb_succ ⟨level, reach⟩, side_eq_bit right ⟨level, reach⟩, half,
        Function.iterate_succ_apply'] at parent
      rw [half, Function.iterate_succ_apply'] at inside
      rw [half, side_eq_bit right ⟨level, reach⟩] at apart
      have below := inside
      rw [pairs_length] at below
      exact eq_node_of_parent (solid level (by omega)) inside parent (apart (by omega))
  obtain ⟨inside, node⟩ := meet 0 (Nat.zero_le height)
  simp only [Nat.pow_zero, Nat.div_one, climb_zero, Function.iterate_zero, id_eq] at inside node
  rw [node, List.getElem?_eq_getElem inside, List.getD_eq_getElem _ _ inside]

end Climb

/-! ## Full trees -/

variable (hash) in
/-- The node with an index at some height of the full tree with a leaf at every position. -/
def fullNode (leaf : Nat → α) : Nat → Nat → α
  | 0, index => leaf index
  | height + 1, index =>
    hash (fullNode leaf height (2 * index)) (fullNode leaf height (2 * index + 1))

/-- The index of the node at the end of a way down, right branches being odd. -/
def wayIndex (path : List Bool) : Nat := path.foldl (fun index side => 2 * index + side.toNat) 0

theorem wayIndex_append (path : List Bool) (side : Bool) :
    wayIndex (path ++ [side]) = 2 * wayIndex path + side.toNat := by
  rw [wayIndex, List.foldl_append, List.foldl_cons, List.foldl_nil, ← wayIndex]

/-- A tree given by the nodes at its prefixes is the full tree with the same leaves. -/
theorem node_eq_fullNode {node : List Bool → α} {leaf : Nat → α} {depth : Nat}
    (branches : ∀ path, path.length < depth →
      node path = hash (node (path ++ [false])) (node (path ++ [true])))
    (leaves : ∀ path, path.length = depth → node path = leaf (wayIndex path))
    {height : Nat} {path : List Bool} (reach : path.length + height = depth) :
    node path = fullNode hash leaf height (wayIndex path) := by
  induction height generalizing path with
  | zero => exact leaves path reach
  | succ height ih =>
    have lower : ∀ side : Bool, (path ++ [side]).length + height = depth := by
      intro side
      rw [List.length_append, List.length_singleton]
      omega
    rw [branches path (by omega), ih (lower false), ih (lower true), wayIndex_append,
      wayIndex_append, fullNode]
    rfl

/-- The node above a leaf has the index of the leaf without the lowest bits. -/
theorem wayIndex_topDown (bits : List Bool) (level : Nat) :
    wayIndex (topDown bits level) = wayIndex bits.reverse / 2 ^ level := by
  induction level with
  | zero => simp [topDown]
  | succ level ih =>
    rw [Nat.pow_succ, ← Nat.div_div_eq_div_mul, ← ih]
    by_cases inside : level < bits.length
    · rw [topDown_succ inside, wayIndex_append]
      cases bits.getD level false with
      | false => simp
      | true => simp; omega
    · have above : ∀ k, level ≤ k → topDown bits k = [] := by
        intro k reach
        rw [topDown, List.drop_eq_nil_of_le (by omega), List.reverse_nil]
      rw [above level le_rfl, above (level + 1) (by omega)]
      rfl

theorem testBit_wayIndex (bits : List Bool) (level : Nat) :
    (wayIndex bits.reverse).testBit level = bits.getD level false := by
  rw [Nat.testBit_eq_decide_div_mod_eq, ← wayIndex_topDown]
  by_cases inside : level < bits.length
  · rw [topDown_succ inside, wayIndex_append]
    cases bits.getD level false <;> simp
  · rw [topDown, List.drop_eq_nil_of_le (by omega), List.getD_eq_default _ _ (by omega)]
    rfl

/-- The sibling of a node differs from it in the lowest bit of the index. -/
theorem wayIndex_sibling {bits : List Bool} {level : Nat} (inside : level < bits.length) :
    wayIndex (topDown bits (level + 1) ++ [!bits.getD level false]) =
      wayIndex (topDown bits level) ^^^ 1 := by
  rw [topDown_succ inside, wayIndex_append, wayIndex_append]
  cases bits.getD level false with
  | false =>
    rw [Nat.xor_one_of_even (by simp)]
    rfl
  | true =>
    rw [Nat.xor_one_of_odd (by simp)]
    rfl

end Merkle
