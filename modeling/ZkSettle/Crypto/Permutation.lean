import Mathlib.Tactic.NormNum.Prime
import Mathlib.Tactic.ReduceModChar
import ZkSettle.Crypto.Proofs
import ZkSettle.Library.Fields

/-!
# The permutation loses nothing

Every round adds constants, raises elements to the fifth power and applies a linear layer.
The external layer is undone along its chain of additions, and the internal one from the sum
of its images; the fifth power has an inverse because five is prime to the order of the
units. So the permutation has one, too.
-/
namespace ZkSettle.Crypto

open Circuit (BN254_ORDER)

/-! ## The order is prime -/

/-- `order - 1` is `2 ^ 28` times an odd number with nine prime factors, of which the three
largest need certificates of their own. -/
def orderCertificates : List Fields.Certificate :=
  [⟨405928799, 22, [2, 11, 3691, 4999]⟩,
    ⟨12048837557, 2, [2, 2, 7, 7, 661, 93001]⟩,
    ⟨5156902474397, 2, [12048837557, 2, 2, 107]⟩,
    ⟨1670836401704629, 2, [5156902474397, 2, 2, 3, 3, 3, 3]⟩,
    ⟨639533339, 2, [2, 229, 853, 1637]⟩,
    ⟨65865678001877903, 5, [639533339, 2, 83, 379, 1637]⟩,
    ⟨13818364434197438864469338081, 3,
      [65865678001877903, 2, 2, 2, 2, 2, 5, 823, 1593227]⟩,
    ⟨BN254_ORDER, 5, [13818364434197438864469338081, 1670836401704629, 405928799] ++
      [3, 3, 13, 29, 983, 11003, 237073] ++ List.replicate 28 2⟩]

/-- The primes the certificates start from. -/
def smallPrimes : List Nat :=
  [2, 3, 5, 7, 11, 13, 29, 83, 107, 229, 379, 661, 823, 853, 983, 1637, 3691, 4999, 11003, 93001,
    237073, 1593227]

theorem smallPrimes_prime : ∀ q ∈ smallPrimes, q.Prime := by
  rw [smallPrimes]
  norm_num

theorem prime_BN254_ORDER : BN254_ORDER.Prime := by
  have accepted : Fields.allAccepted smallPrimes orderCertificates = true := by decide +kernel
  exact Fields.primes_of_allAccepted smallPrimes_prime accepted _
    (List.mem_of_getLast? (l := orderCertificates) rfl)

/-! ## Layers -/

theorem sbox_eq_pow (x : Fr) : sbox x = x ^ 5 := by
  simp only [sbox]
  ring

theorem coprime_order : Nat.Coprime 5 (BN254_ORDER - 1) := by
  rw [BN254_ORDER]
  norm_num

theorem sbox_bijective : Function.Bijective sbox := by
  have : Fact BN254_ORDER.Prime := ⟨prime_BN254_ORDER⟩
  have powers : sbox = fun x => x ^ 5 := funext sbox_eq_pow
  rw [powers]
  refine Fields.pow_bijective ?_ (by decide)
  rw [ZMod.card]
  exact coprime_order

def half : Fr := ((BN254_ORDER + 1) / 2 : Nat)

theorem half_double : double half = 1 := by decide +kernel

def halve (x : Fr) : Fr := x * half

@[simp] theorem halve_double (x : Fr) : halve (double x) = x := by
  have one : half + half = 1 := half_double
  simp only [halve, double]
  linear_combination x * one

@[simp] theorem double_halve (x : Fr) : double (halve x) = x := by
  have one : half + half = 1 := half_double
  simp only [halve, double]
  linear_combination x * one

/-- The sums of the chain are recovered from the last to the first. -/
def matFull4Inverse (state : Lanes) : Lanes :=
  let t3 := state.s0 - state.s1
  let t2 := state.s2 - state.s3
  let t1 := halve (halve (state.s3 - t3))
  let t0 := halve (halve (state.s1 - t2))
  let s1 := halve (t2 - t1)
  let s3 := halve (t3 - t0)
  ⟨t0 - s1, s1, t1 - s3, s3⟩

theorem matFull4_bijective : Function.Bijective matFull4 := by
  refine Function.bijective_iff_has_inverse.mpr ⟨matFull4Inverse, fun state => ?_, fun state => ?_⟩
  · simp only [matFull4, matFull4Inverse, add_sub_cancel_right, halve_double]
  · simp only [matFull4, matFull4Inverse, sub_add_cancel, double_halve]

/-- The matrix of the external layer. -/
def externalMatrix : Matrix (Fin 4) (Fin 4) Fr :=
  !![5, 7, 1, 3; 4, 6, 1, 1; 1, 3, 5, 7; 1, 1, 4, 6]

theorem matFull4_array (state : Lanes) :
    (matFull4 state).array = externalMatrix.mulVec state.array := by
  funext lane
  fin_cases lane <;>
    simp [matFull4, double, Lanes.array, externalMatrix, Matrix.mulVec, dotProduct,
      Fin.sum_univ_four] <;> ring

theorem Lanes.array_bijective : Function.Bijective Lanes.array := by
  constructor
  · rintro ⟨s0, s1, s2, s3⟩ ⟨s0', s1', s2', s3'⟩ same
    simpa [Lanes.array] using same
  · intro lanes
    refine ⟨⟨lanes 0, lanes 1, lanes 2, lanes 3⟩, ?_⟩
    funext lane
    fin_cases lane <;> rfl

/-- The inverses of the elements of the diagonal. -/
def INTERNAL_INVERSE : Lanes :=
  ⟨0x1738a9619288d39a138c64d78fcedea47e574e3e8baf70153155c255574fcdb1,
    0x279bd8b816ef59d3fd844564a56d8039b339c09342e902c17344b65e49966811,
    0x0f2af83d82245e430d3bf2822db8b9f3c11081b53a68ae1d46fc1ade24225eac,
    0x0301e77bef2eb2bc57e2b57ee41d62607fb037ff3fc0b6113faccb4d7094a0e0⟩

/-- The inverse of one more than the sum of the inverses. -/
def INTERNAL_FACTOR : Fr := 0x1cf83124949a11cf2d011b7c5b150328bb97ef227a78af91e7f96ebfc0984e61

theorem internal_inverts : ∀ lane, INTERNAL_DIAG.array lane * INTERNAL_INVERSE.array lane = 1 := by
  decide +kernel

theorem internal_total : (1 + ∑ lane, INTERNAL_INVERSE.array lane) * INTERNAL_FACTOR = 1 := by
  rw [Fin.sum_univ_four]
  decide +kernel

/-- The internal layer is a diagonal with the sum of the lanes. -/
theorem internalMatMul_diagonal (state : Lanes) :
    (internalMatMul state).array = Fields.diagonalPlusSum INTERNAL_DIAG.array state.array := by
  funext lane
  rw [Fields.diagonalPlusSum, Fin.sum_univ_four]
  fin_cases lane <;> rfl

theorem internalMatMul_bijective : Function.Bijective internalMatMul := by
  -- the layer is the map of the library, seen through the array
  refine (Function.Bijective.of_comp_iff' Lanes.array_bijective _).mp ?_
  have conjugate : Lanes.array ∘ internalMatMul =
      Fields.diagonalPlusSum INTERNAL_DIAG.array ∘ Lanes.array :=
    funext internalMatMul_diagonal
  rw [conjugate]
  exact (Fields.diagonalPlusSum_bijective internal_inverts internal_total).comp
    Lanes.array_bijective

/-- The matrix of the internal layer. -/
def internalMatrix : Matrix (Fin 4) (Fin 4) Fr :=
  Matrix.diagonal INTERNAL_DIAG.array + Matrix.of fun _ _ => 1

theorem internalMatMul_array (state : Lanes) :
    (internalMatMul state).array = internalMatrix.mulVec state.array := by
  rw [internalMatMul_diagonal, Fields.diagonalPlusSum_eq_mulVec, internalMatrix]

/-- A layer that loses nothing has an invertible matrix. -/
theorem isUnit_of_layer {layer : Lanes → Lanes} {matrix : Matrix (Fin 4) (Fin 4) Fr}
    (computes : ∀ state, (layer state).array = matrix.mulVec state.array)
    (bijective : Function.Bijective layer) : IsUnit matrix := by
  have : Fact BN254_ORDER.Prime := ⟨prime_BN254_ORDER⟩
  -- over a field it is enough that no two vectors have one image
  refine Matrix.mulVec_injective_iff_isUnit.mp fun lanes lanes' same => ?_
  obtain ⟨state, rfl⟩ := Lanes.array_bijective.surjective lanes
  obtain ⟨state', rfl⟩ := Lanes.array_bijective.surjective lanes'
  rw [← computes, ← computes] at same
  rw [bijective.injective (Lanes.array_bijective.injective same)]

/-! ## Rounds -/

/-- Maps of the single lanes. -/
theorem Lanes.map_bijective {f0 f1 f2 f3 : Fr → Fr} (first : Function.Bijective f0)
    (second : Function.Bijective f1) (third : Function.Bijective f2)
    (last : Function.Bijective f3) :
    Function.Bijective fun state : Lanes =>
      (⟨f0 state.s0, f1 state.s1, f2 state.s2, f3 state.s3⟩ : Lanes) := by
  constructor
  · rintro ⟨s0, s1, s2, s3⟩ ⟨s0', s1', s2', s3'⟩ same
    rw [Lanes.mk.injEq] at same
    obtain ⟨same0, same1, same2, same3⟩ := same
    exact (Lanes.mk.injEq ..).mpr ⟨first.injective same0, second.injective same1,
      third.injective same2, last.injective same3⟩
  · rintro ⟨s0, s1, s2, s3⟩
    obtain ⟨x0, rfl⟩ := first.surjective s0
    obtain ⟨x1, rfl⟩ := second.surjective s1
    obtain ⟨x2, rfl⟩ := third.surjective s2
    obtain ⟨x3, rfl⟩ := last.surjective s3
    exact ⟨⟨x0, x1, x2, x3⟩, rfl⟩

theorem sbox_add_bijective (constant : Fr) : Function.Bijective fun x => sbox (x + constant) :=
  sbox_bijective.comp (Equiv.addRight constant).bijective

theorem externalRound_bijective (rc : Lanes) :
    Function.Bijective fun state => externalRound state rc :=
  matFull4_bijective.comp (Lanes.map_bijective (sbox_add_bijective rc.s0)
    (sbox_add_bijective rc.s1) (sbox_add_bijective rc.s2) (sbox_add_bijective rc.s3))

theorem internalRound_bijective (rc : Fr) :
    Function.Bijective fun state => internalRound state rc :=
  internalMatMul_bijective.comp (Lanes.map_bijective (sbox_add_bijective rc)
    Function.bijective_id Function.bijective_id Function.bijective_id)

/-- The rounds in their order. -/
def rounds : List (Lanes → Lanes) :=
  RC_FIRST.map (fun rc state => externalRound state rc) ++
    RC_INTERNAL.map (fun rc state => internalRound state rc) ++
    RC_LAST.map (fun rc state => externalRound state rc)

theorem permutation_eq_rounds (state : Lanes) :
    permutation state = rounds.foldl (fun state round => round state) (matFull4 state) := by
  simp only [permutation, rounds, List.foldl_append, List.foldl_map]

theorem rounds_length : rounds.length = 64 := by
  simp only [rounds, List.length_append, List.length_map]
  rfl

theorem round_bijective : ∀ round ∈ rounds, Function.Bijective round := by
  intro round member
  rcases List.mem_append.mp member with earlier | last
  · rcases List.mem_append.mp earlier with first | inner
    · obtain ⟨rc, -, rfl⟩ := List.mem_map.mp first
      exact externalRound_bijective rc
    · obtain ⟨rc, -, rfl⟩ := List.mem_map.mp inner
      exact internalRound_bijective rc
  · obtain ⟨rc, -, rfl⟩ := List.mem_map.mp last
    exact externalRound_bijective rc

theorem permutation_bijective : Function.Bijective permutation :=
  Fields.bijective_of_rounds matFull4_bijective round_bijective permutation_eq_rounds

/-- What the permutation is made of, none of which loses anything. -/
structure LosesNothing : Prop where
  prime : BN254_ORDER.Prime
  coprime : Nat.gcd 5 (BN254_ORDER - 1) = 1
  sboxPower : ∀ x, sbox x = x ^ 5
  sboxBijective : Function.Bijective sbox
  external : ∀ state, (matFull4 state).array = externalMatrix.mulVec state.array
  externalUnit : IsUnit externalMatrix
  internal : ∀ state, (internalMatMul state).array = internalMatrix.mulVec state.array
  internalUnit : IsUnit internalMatrix
  count : rounds.length = 64
  round : ∀ round ∈ rounds, Function.Bijective round
  composed : ∀ state,
    permutation state = rounds.foldl (fun state round => round state) (matFull4 state)
  injective : Function.Injective permutation
  surjective : Function.Surjective permutation

theorem permutation_losesNothing : LosesNothing :=
  ⟨prime_BN254_ORDER, coprime_order, sbox_eq_pow, sbox_bijective, matFull4_array,
    isUnit_of_layer matFull4_array matFull4_bijective, internalMatMul_array,
    isUnit_of_layer internalMatMul_array internalMatMul_bijective, rounds_length, round_bijective,
    permutation_eq_rounds, permutation_bijective.injective, permutation_bijective.surjective⟩

end ZkSettle.Crypto
