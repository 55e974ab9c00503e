import Mathlib.Data.Nat.Digits.Lemmas

/-!
# Base58

Bytes as digits to the base 58, the most significant first. A leading zero byte has no
weight in the number, and is kept as a leading zero digit. The number of bytes is free, so
the text says all of it, and is read back.
-/
namespace Base58

/-! ## Change of base -/

/-- The number that digits denote. -/
def value (base : Nat) (digits : List Nat) : Nat := Nat.ofDigits base digits.reverse

/-- The digits of a number, without leading zeros. -/
def minimal (base n : Nat) : List Nat := (Nat.digits base n).reverse

def leadingZeros (digits : List Nat) : Nat := (digits.takeWhile (· == 0)).length

/-- The same number in another base, with as many leading zeros. -/
def convert (source target : Nat) (digits : List Nat) : List Nat :=
  List.replicate (leadingZeros digits) 0 ++ minimal target (value source digits)

theorem value_minimal (base n : Nat) : value base (minimal base n) = n := by
  rw [value, minimal, List.reverse_reverse, Nat.ofDigits_digits]

theorem value_leading (base zeros : Nat) (digits : List Nat) :
    value base (List.replicate zeros 0 ++ digits) = value base digits := by
  induction zeros with
  | zero => rfl
  | succ zeros ih =>
    rw [List.replicate_succ, List.cons_append, value, List.reverse_cons, Nat.ofDigits_append,
      Nat.ofDigits_singleton, Nat.mul_zero, Nat.add_zero]
    exact ih

theorem value_concat (base : Nat) (digits : List Nat) (digit : Nat) :
    value base (digits ++ [digit]) = value base digits * base + digit := by
  rw [value, List.reverse_append, List.reverse_singleton, List.singleton_append,
    Nat.ofDigits_cons, ← value, Nat.mul_comm, Nat.add_comm]

theorem head_minimal (base n : Nat) :
    ∀ digit ∈ (minimal base n).head?, digit ≠ 0 := by
  intro digit head
  rw [minimal, List.head?_reverse] at head
  have nonzero : n ≠ 0 := by
    rintro rfl
    rw [Nat.digits_zero] at head
    cases head
  have nonempty : Nat.digits base n ≠ [] := Nat.digits_ne_nil_iff_ne_zero.mpr nonzero
  rw [List.getLast?_eq_some_getLast nonempty] at head
  cases head
  exact Nat.getLast_digit_ne_zero base nonzero

theorem leadingZeros_append {digits : List Nat} (head : ∀ digit ∈ digits.head?, digit ≠ 0)
    (zeros : Nat) : leadingZeros (List.replicate zeros 0 ++ digits) = zeros := by
  induction zeros with
  | zero =>
    cases digits with
    | nil => rfl
    | cons digit rest =>
      have nonzero : digit ≠ 0 := head digit rfl
      simp [leadingZeros, nonzero]
  | succ zeros ih =>
    rw [List.replicate_succ, List.cons_append, leadingZeros, List.takeWhile_cons_of_pos (by simp),
      List.length_cons]
    exact congrArg Nat.succ ih

theorem replicate_leadingZeros (digits : List Nat) :
    List.replicate (leadingZeros digits) 0 ++ digits.dropWhile (· == 0) = digits := by
  induction digits with
  | nil => rfl
  | cons digit rest ih =>
    by_cases zero : digit = 0
    · subst zero
      rw [leadingZeros, List.takeWhile_cons_of_pos (by simp), List.dropWhile_cons_of_pos (by simp),
        List.length_cons, List.replicate_succ, List.cons_append]
      exact congrArg (0 :: ·) ih
    · simp [leadingZeros, zero]

theorem head_dropWhile (digits : List Nat) :
    ∀ digit ∈ (digits.dropWhile (· == 0)).head?, digit ≠ 0 := by
  intro digit head
  have stopped := List.head?_dropWhile_not (· == 0) digits
  rw [head] at stopped
  simpa using stopped

theorem minimal_value {base : Nat} (wide : 1 < base) {digits : List Nat}
    (below : ∀ digit ∈ digits, digit < base) (head : ∀ digit ∈ digits.head?, digit ≠ 0) :
    minimal base (value base digits) = digits := by
  have last : ∀ nonempty : digits.reverse ≠ [], digits.reverse.getLast nonempty ≠ 0 := by
    intro nonempty
    refine head _ ?_
    rw [← List.getLast?_reverse]
    exact List.getLast?_eq_some_getLast nonempty
  rw [minimal, value, Nat.digits_ofDigits base wide _ (by simpa using below) last,
    List.reverse_reverse]

/-- Digits are read back from the other base. -/
theorem convert_convert {source : Nat} (wide : 1 < source) (target : Nat) {digits : List Nat}
    (below : ∀ digit ∈ digits, digit < source) :
    convert target source (convert source target digits) = digits := by
  have rest : ∀ digit ∈ digits.dropWhile (· == 0), digit < source :=
    fun digit member => below digit ((List.dropWhile_sublist _).subset member)
  -- the leading zeros do not count in the number
  have number : value source digits = value source (digits.dropWhile (· == 0)) := by
    conv_lhs => rw [← replicate_leadingZeros digits]
    exact value_leading _ _ _
  rw [convert, convert, leadingZeros_append (head_minimal target _), value_leading,
    value_minimal, number, minimal_value wide rest (head_dropWhile digits)]
  exact replicate_leadingZeros digits

theorem convert_below {source target : Nat} (wide : 1 < target) (digits : List Nat) :
    ∀ digit ∈ convert source target digits, digit < target := by
  intro digit member
  rcases List.mem_append.mp member with zero | other
  · rw [List.eq_of_mem_replicate zero]
    omega
  · exact Nat.digits_lt_base wide (List.mem_reverse.mp other)

/-! ## Text -/

def alphabet : List Char :=
  "123456789ABCDEFGHJKLMNPQRSTUVWXYZabcdefghijkmnopqrstuvwxyz".toList

def digit (n : Nat) : Char := alphabet.getD n '1'

def digitValue (c : Char) : Option Nat := alphabet.idxOf? c

theorem digitValue_digit {n : Nat} (below : n < 58) : digitValue (digit n) = some n := by
  have each : ∀ n < 58, digitValue (digit n) = some n := by decide
  exact each n below

def encode (bytes : List UInt8) : String :=
  String.ofList ((convert 256 58 (bytes.map UInt8.toNat)).map digit)

def decode (text : String) : Option (List UInt8) :=
  (text.toList.mapM digitValue).map fun digits => (convert 58 256 digits).map UInt8.ofNat

theorem mapM_digitValue {digits : List Nat} (below : ∀ digit ∈ digits, digit < 58) :
    (digits.map digit).mapM digitValue = some digits := by
  induction digits with
  | nil => rfl
  | cons n rest ih =>
    have later := ih fun digit member => below digit (List.mem_cons_of_mem n member)
    rw [List.map_cons, List.mapM_cons, digitValue_digit (below n List.mem_cons_self), later]
    rfl

/-- Bytes are read back from their text. -/
theorem decode_encode (bytes : List UInt8) : decode (encode bytes) = some bytes := by
  have below : ∀ digit ∈ bytes.map UInt8.toNat, digit < 256 := by
    intro digit member
    obtain ⟨byte, -, rfl⟩ := List.mem_map.mp member
    exact byte.toNat_lt
  have back : (bytes.map UInt8.toNat).map UInt8.ofNat = bytes := by
    rw [List.map_map]
    exact List.map_id'' (fun byte => UInt8.ofNat_toNat) bytes
  rw [decode, encode, String.toList_ofList, mapM_digitValue (convert_below (by decide) _),
    Option.map_some, convert_convert (by decide) 58 below, back]

end Base58
