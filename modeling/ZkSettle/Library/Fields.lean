import Mathlib.FieldTheory.Finite.Basic
import Mathlib.LinearAlgebra.Matrix.NonsingularInverse
import Mathlib.NumberTheory.LucasPrimality
import Mathlib.Tactic.LinearCombination

/-!
# Maps on a finite field

What the rounds of a permutation over a prime field are made of: powers prime to the order of
the units, a diagonal with the sum of all elements added to each, and the composition of
rounds. Each loses nothing under a condition on its constants. A modulus is shown to be prime
by a generator of its units.
-/
namespace Fields

/-! ## Prime moduli -/

/-- The modulus is prime when an element has the order `p - 1`: no prime factor can be left out
of its exponent. -/
theorem prime_of_generator {p : Nat} (generator : ZMod p) (factors : List Nat)
    (primes : ∀ q ∈ factors, q.Prime) (product : factors.prod = p - 1)
    (order : generator ^ (p - 1) = 1)
    (proper : ∀ q ∈ factors, generator ^ ((p - 1) / q) ≠ 1) : p.Prime := by
  refine lucas_primality p generator order fun q prime divides => ?_
  rw [← product] at divides
  obtain ⟨factor, member, below⟩ := prime.prime.dvd_prod_iff.mp divides
  rw [(Nat.prime_dvd_prime_iff_eq prime (primes factor member)).mp below]
  exact proper factor member

/-- A power modulo `p`: one bit of the exponent at each level, from the lowest. -/
def powerMod (p : Nat) : Nat → Nat → Nat → Nat
  | 0, _, _ => 1
  | bits + 1, base, exponent =>
    base ^ (exponent % 2) * powerMod p bits (base * base % p) (exponent / 2) % p

theorem cast_powerMod (p : Nat) {bits exponent : Nat} (fits : exponent < 2 ^ bits) (base : Nat) :
    (powerMod p bits base exponent : ZMod p) = (base : ZMod p) ^ exponent := by
  induction bits generalizing base exponent with
  | zero =>
    have none : exponent = 0 := by simpa using fits
    simp [powerMod, none]
  | succ bits ih =>
    have fewer : exponent / 2 < 2 ^ bits := by
      rw [pow_succ] at fits
      omega
    -- the lowest bit is a factor, the others are the exponent of the square
    rw [powerMod, ZMod.natCast_mod, Nat.cast_mul, ih fewer, ZMod.natCast_mod, Nat.cast_pow,
      Nat.cast_mul, ← sq, ← pow_mul, ← pow_add, Nat.mod_add_div]

/-- A modulus, a generator of its units and the prime factors of their number. -/
structure Certificate where
  modulus : Nat
  generator : Nat
  factors : List Nat

/-- The power of the generator, reduced. -/
def Certificate.power (certificate : Certificate) (exponent : Nat) : Nat :=
  powerMod certificate.modulus (certificate.modulus.log2 + 1) certificate.generator exponent

/-- The factors are known, and no factor can be left out of the generator's order. -/
def Certificate.accepted (certificate : Certificate) (known : List Nat) : Bool :=
  certificate.factors.all (fun q => known.contains q) &&
    certificate.factors.prod == certificate.modulus - 1 &&
    1 < certificate.modulus &&
    certificate.power (certificate.modulus - 1) % certificate.modulus == 1 &&
    certificate.factors.all fun q =>
      certificate.power ((certificate.modulus - 1) / q) % certificate.modulus != 1

/-- Each certificate may use the moduli of those before it. -/
def allAccepted : List Nat → List Certificate → Bool
  | _, [] => true
  | known, certificate :: rest =>
    certificate.accepted known && allAccepted (certificate.modulus :: known) rest

theorem Certificate.power_eq_one_iff {certificate : Certificate} (proper : 1 < certificate.modulus)
    {exponent : Nat} (below : exponent < certificate.modulus) :
    certificate.power exponent % certificate.modulus = 1 ↔
      (certificate.generator : ZMod certificate.modulus) ^ exponent = 1 := by
  have fits : exponent < 2 ^ (certificate.modulus.log2 + 1) := below.trans Nat.lt_log2_self
  have one := ZMod.natCast_eq_natCast_iff' (certificate.power exponent) 1 certificate.modulus
  rw [Nat.mod_eq_of_lt proper, Nat.cast_one] at one
  rw [← one, Certificate.power, cast_powerMod _ fits]

theorem Certificate.prime {certificate : Certificate} {known : List Nat}
    (primes : ∀ q ∈ known, q.Prime) (accepted : certificate.accepted known = true) :
    certificate.modulus.Prime := by
  simp only [Certificate.accepted, Bool.and_eq_true, List.all_eq_true, List.contains_iff_mem,
    beq_iff_eq, bne_iff_ne, decide_eq_true_eq] at accepted
  obtain ⟨⟨⟨⟨factors, product⟩, proper⟩, order⟩, least⟩ := accepted
  have below (q : Nat) : (certificate.modulus - 1) / q < certificate.modulus :=
    (Nat.div_le_self _ q).trans_lt (by omega)
  refine prime_of_generator certificate.generator certificate.factors
    (fun q member => primes q (factors q member)) product ?_ fun q member => ?_
  · exact (Certificate.power_eq_one_iff proper (by omega)).mp order
  · exact (Certificate.power_eq_one_iff proper (below q)).not.mp (least q member)

theorem primes_of_allAccepted {certificates : List Certificate} {known : List Nat}
    (primes : ∀ q ∈ known, q.Prime) (accepted : allAccepted known certificates = true) :
    ∀ certificate ∈ certificates, certificate.modulus.Prime := by
  induction certificates generalizing known with
  | nil => simp
  | cons certificate rest ih =>
    obtain ⟨first, others⟩ := Bool.and_eq_true_iff.mp accepted
    have prime := Certificate.prime primes first
    -- those behind it may use its modulus
    exact List.forall_mem_cons.mpr ⟨prime, ih (List.forall_mem_cons.mpr ⟨prime, primes⟩) others⟩

/-! ## Powers -/

/-- A power is a bijection when it is prime to the number of units. -/
theorem pow_bijective {F : Type} [Field F] [Fintype F] {n : Nat}
    (coprime : n.Coprime (Fintype.card F - 1)) (positive : n ≠ 0) :
    Function.Bijective fun x : F => x ^ n := by
  refine Finite.injective_iff_bijective.mp fun x y same => ?_
  have powers : x ^ n = y ^ n := same
  rcases eq_or_ne x 0 with rfl | nonzero
  · rw [zero_pow positive] at powers
    exact (eq_zero_of_pow_eq_zero powers.symm).symm
  · have nonzero' : y ≠ 0 := by
      rintro rfl
      rw [zero_pow positive] at powers
      exact nonzero (eq_zero_of_pow_eq_zero powers)
    -- both are units, and the units form a group
    have units : Units.mk0 x nonzero ^ n = Units.mk0 y nonzero' ^ n := Units.ext powers
    have card : (Nat.card Fˣ).Coprime n := by
      rw [Nat.card_units, Nat.card_eq_fintype_card]
      exact coprime.symm
    exact congrArg Units.val ((powCoprime card).injective units)

/-! ## A diagonal and the sum -/

section Diagonal

variable {R ι : Type} [CommRing R] [Fintype ι]

/-- Each element times its own constant, plus the sum of all of them. -/
def diagonalPlusSum (diagonal x : ι → R) (i : ι) : R := x i * diagonal i + ∑ j, x j

/-- The sum is that of the images over the constants, up to a factor. -/
theorem sum_diagonalPlusSum {diagonal inverse : ι → R} (inverts : ∀ i, diagonal i * inverse i = 1)
    (x : ι → R) :
    ∑ i, diagonalPlusSum diagonal x i * inverse i = (∑ i, x i) * (1 + ∑ i, inverse i) := by
  have each : ∀ i, diagonalPlusSum diagonal x i * inverse i = x i + (∑ j, x j) * inverse i := by
    intro i
    rw [diagonalPlusSum, add_mul, mul_assoc, inverts i, mul_one]
  rw [Finset.sum_congr rfl fun i _ => each i, Finset.sum_add_distrib, ← Finset.mul_sum]
  ring

/-- The sum of the elements, from their images. -/
def sumOfImages (inverse : ι → R) (factor : R) (y : ι → R) : R := (∑ i, y i * inverse i) * factor

/-- The map is a bijection when the constants have inverses, and one more than their sum has. -/
theorem diagonalPlusSum_bijective {diagonal inverse : ι → R} {factor : R}
    (inverts : ∀ i, diagonal i * inverse i = 1) (total : (1 + ∑ i, inverse i) * factor = 1) :
    Function.Bijective (diagonalPlusSum diagonal) := by
  refine Function.bijective_iff_has_inverse.mpr
    ⟨fun y i => (y i - sumOfImages inverse factor y) * inverse i, fun x => ?_, fun y => ?_⟩
  · have known : sumOfImages inverse factor (diagonalPlusSum diagonal x) = ∑ j, x j := by
      rw [sumOfImages, sum_diagonalPlusSum inverts, mul_assoc, total, mul_one]
    funext i
    simp only [known]
    rw [diagonalPlusSum, add_sub_cancel_right, mul_assoc, inverts i, mul_one]
  · have known : ∑ j, (y j - sumOfImages inverse factor y) * inverse j =
        sumOfImages inverse factor y := by
      simp only [sub_mul]
      rw [Finset.sum_sub_distrib, ← Finset.mul_sum, sumOfImages]
      linear_combination (∑ i, y i * inverse i) * -total
    funext i
    rw [diagonalPlusSum, known, mul_assoc, mul_comm (inverse i), inverts i, mul_one,
      sub_add_cancel]

/-- The map as a matrix. -/
theorem diagonalPlusSum_eq_mulVec [DecidableEq ι] (diagonal x : ι → R) :
    diagonalPlusSum diagonal x =
      (Matrix.diagonal diagonal + Matrix.of fun _ _ => 1).mulVec x := by
  funext i
  rw [diagonalPlusSum, Matrix.add_mulVec, Pi.add_apply, Matrix.mulVec_diagonal, mul_comm]
  simp [Matrix.mulVec, dotProduct]

end Diagonal

/-! ## Rounds -/

/-- A run of rounds loses nothing when none of them does. -/
theorem foldl_bijective {State Constant : Type} {round : State → Constant → State}
    {constants : List Constant}
    (each : ∀ constant ∈ constants, Function.Bijective fun state => round state constant) :
    Function.Bijective fun state => constants.foldl round state := by
  induction constants with
  | nil => exact Function.bijective_id
  | cons constant rest ih =>
    have later := ih fun other member => each other (List.mem_cons_of_mem constant member)
    exact later.comp (each constant List.mem_cons_self)

/-- A layer and then rounds. -/
theorem bijective_of_rounds {State Constant : Type} {round : State → Constant → State}
    {constants : List Constant} {layer run : State → State} (first : Function.Bijective layer)
    (each : ∀ constant ∈ constants, Function.Bijective fun state => round state constant)
    (composed : ∀ state, run state = constants.foldl round (layer state)) :
    Function.Bijective run := by
  rw [funext composed]
  exact (foldl_bijective each).comp first

end Fields
