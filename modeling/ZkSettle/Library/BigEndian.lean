import Mathlib.Data.Nat.Digits.Defs
import Mathlib.Data.Nat.Digits.Lemmas

/-!
# Big-endian bytes

A byte string denotes a number, most significant byte first. Strings of one length
and the numbers below a power of 256 determine each other. Strings of blocks of one
width are read block by block.
-/
namespace BigEndian

/-- The number a byte string denotes. -/
def value (bytes : List UInt8) : Nat := Nat.ofDigits 256 (bytes.reverse.map UInt8.toNat)

/-- The low `width` bytes of a number. -/
def encode : Nat → Nat → List UInt8
  | 0, _ => []
  | width + 1, n => encode width (n / 256) ++ [UInt8.ofNat n]

@[simp] theorem encode_length (width n : Nat) : (encode width n).length = width := by
  induction width generalizing n with
  | zero => rfl
  | succ width ih => simp [encode, ih]

theorem value_append (high low : List UInt8) :
    value (high ++ low) = value high * 256 ^ low.length + value low := by
  simp only [value, List.reverse_append, List.map_append, Nat.ofDigits_append, List.length_map,
    List.length_reverse]
  rw [Nat.mul_comm, Nat.add_comm]

@[simp] theorem value_singleton (byte : UInt8) : value [byte] = byte.toNat := by
  simp [value]

theorem value_lt (bytes : List UInt8) : value bytes < 256 ^ bytes.length := by
  have digits : ∀ digit ∈ bytes.reverse.map UInt8.toNat, digit < 254 + 2 := by
    intro digit member
    obtain ⟨byte, -, rfl⟩ := List.mem_map.mp member
    exact byte.toNat_lt
  simpa [value] using Nat.ofDigits_lt_base_pow_length' digits

theorem value_encode {width n : Nat} (below : n < 256 ^ width) : value (encode width n) = n := by
  induction width generalizing n with
  | zero =>
    rw [Nat.pow_zero, Nat.lt_one_iff] at below
    rw [below]
    rfl
  | succ width ih =>
    -- the last byte is the remainder, the bytes before it encode the quotient
    have high : n / 256 < 256 ^ width := by
      rw [Nat.div_lt_iff_lt_mul (by decide)]
      exact below
    rw [encode, value_append, ih high, value_singleton, UInt8.toNat_ofNat']
    simp only [List.length_singleton, Nat.pow_one]
    omega

theorem value_injective {bytes bytes' : List UInt8} (length : bytes.length = bytes'.length)
    (same : value bytes = value bytes') : bytes = bytes' := by
  induction bytes using List.reverseRecOn generalizing bytes' with
  | nil => exact (List.length_eq_zero_iff.mp length.symm).symm
  | append_singleton high low ih =>
    rcases List.eq_nil_or_concat bytes' with rfl | ⟨high', low', rfl⟩
    · simp at length
    · rw [List.concat_eq_append] at length same ⊢
      rw [value_append, value_append, value_singleton, value_singleton] at same
      simp only [List.length_append, List.length_singleton, Nat.add_right_cancel_iff,
        Nat.pow_one] at length same
      -- the last bytes agree modulo 256, and so do the strings before them
      have bound := low.toNat_lt
      have bound' := low'.toNat_lt
      have lows : low.toNat = low'.toNat := by omega
      have highs : value high = value high' := by omega
      rw [ih length highs, UInt8.toNat_inj.mp lows]

theorem encode_value (bytes : List UInt8) : encode bytes.length (value bytes) = bytes := by
  apply value_injective (encode_length _ _)
  exact value_encode (value_lt bytes)

@[simp] theorem value_replicate_zero (count : Nat) : value (List.replicate count 0) = 0 := by
  induction count with
  | zero => rfl
  | succ count ih => rw [List.replicate_succ', value_append, ih]; simp

/-- A wider encoding puts zero bytes in front. -/
theorem encode_add {width n : Nat} (below : n < 256 ^ width) (zeros : Nat) :
    encode (zeros + width) n = List.replicate zeros 0 ++ encode width n := by
  have wide : n < 256 ^ (zeros + width) :=
    below.trans_le (Nat.pow_le_pow_right (by decide) (Nat.le_add_left width zeros))
  apply value_injective
  · simp
  · rw [value_encode wide, value_append, value_encode below, value_replicate_zero]
    simp

/-! ## Blocks of one width -/

variable {α : Type} {block : α → List UInt8} {width : Nat}

theorem flatMap_length (each : ∀ a, (block a).length = width) (blocks : List α) :
    (blocks.flatMap block).length = blocks.length * width := by
  induction blocks with
  | nil => simp
  | cons first rest ih =>
    rw [List.flatMap_cons, List.length_append, each first, ih, List.length_cons,
      Nat.succ_mul, Nat.add_comm]

/-- Blocks of one width are read back by their position. -/
theorem take_drop_flatMap (each : ∀ a, (block a).length = width) {blocks : List α} {index : Nat}
    (inside : index < blocks.length) :
    ((blocks.flatMap block).drop (index * width)).take width = block blocks[index] := by
  induction blocks generalizing index with
  | nil => cases inside
  | cons first rest ih =>
    rw [List.flatMap_cons]
    cases index with
    | zero =>
      rw [Nat.zero_mul, List.drop_zero]
      exact List.take_left' (each first)
    | succ index =>
      -- the position counts from the end of the first block
      have skip : (index + 1) * width = (block first).length + index * width := by
        rw [each first, Nat.succ_mul, Nat.add_comm]
      rw [skip, List.drop_length_add_append]
      exact ih (Nat.lt_of_succ_lt_succ inside)

end BigEndian
