import Mathlib.Tactic.Common
import Mathlib.Tactic.Ring
import ZkSettle.Library.BigEndian

/-!
# Numerals

Numbers written in a base, with the digits `0` to `9` and letters in either case. A
number is read back from its numeral, and a byte string from its hexadecimal digits.
-/
namespace Numerals

def digitValue (c : Char) : Option Nat :=
  if '0' ≤ c ∧ c ≤ '9' then some (c.toNat - '0'.toNat)
  else if 'a' ≤ c ∧ c ≤ 'z' then some (c.toNat - 'a'.toNat + 10)
  else if 'A' ≤ c ∧ c ≤ 'Z' then some (c.toNat - 'A'.toNat + 10)
  else none

/-- Digits of a base, read from the left after a number already read. -/
def readDigits (base : Nat) : Nat → List Char → Option Nat
  | read, [] => some read
  | read, c :: rest => do
    let digit ← digitValue c
    if digit < base then readDigits base (read * base + digit) rest else none

/-- A numeral has at least one digit. -/
def parse (base : Nat) (numeral : List Char) : Option Nat :=
  if numeral = [] then none else readDigits base 0 numeral

theorem readDigits_append (base read : Nat) (high low : List Char) :
    readDigits base read (high ++ low) =
      (readDigits base read high).bind fun next => readDigits base next low := by
  induction high generalizing read with
  | nil => rfl
  | cons c rest ih =>
    simp only [List.cons_append, readDigits]
    cases digitValue c with
    | none => rfl
    | some digit =>
      by_cases valid : digit < base
      · simp only [Option.bind_eq_bind, Option.bind_some, if_pos valid]
        exact ih _
      · simp [valid]

theorem readDigits_cons_eq_some {base read n : Nat} {c : Char} {rest : List Char} :
    readDigits base read (c :: rest) = some n ↔ ∃ digit, digitValue c = some digit ∧
      digit < base ∧ readDigits base (read * base + digit) rest = some n := by
  rw [readDigits, Option.bind_eq_bind, Option.bind_eq_some_iff]
  refine exists_congr fun digit => and_congr_right fun _ => ?_
  by_cases below : digit < base
  · simp [below]
  · simp [below]

/-- The digits that are read decide a number below the next one of the same length. -/
theorem readDigits_bounds {base read n : Nat} {digits : List Char}
    (found : readDigits base read digits = some n) :
    read * base ^ digits.length ≤ n ∧ n < (read + 1) * base ^ digits.length := by
  induction digits generalizing read with
  | nil =>
    cases found
    simp
  | cons c rest ih =>
    obtain ⟨digit, -, below, later⟩ := readDigits_cons_eq_some.mp found
    obtain ⟨lower, upper⟩ := ih later
    have low : read * base * base ^ rest.length ≤ (read * base + digit) * base ^ rest.length :=
      Nat.mul_le_mul_right _ (Nat.le_add_right _ _)
    have high : (read * base + digit + 1) * base ^ rest.length ≤
        (read + 1) * base * base ^ rest.length := by
      apply Nat.mul_le_mul_right
      rw [Nat.add_mul, Nat.one_mul]
      omega
    rw [List.length_cons, Nat.pow_succ', ← Nat.mul_assoc, ← Nat.mul_assoc]
    exact ⟨low.trans lower, upper.trans_le high⟩

/-- A number added before the digits are read is added to what is read, shifted. -/
theorem readDigits_add {base start n : Nat} (read : Nat) {digits : List Char}
    (found : readDigits base start digits = some n) :
    readDigits base (read + start) digits = some (read * base ^ digits.length + n) := by
  induction digits generalizing read start with
  | nil =>
    cases found
    simp [readDigits]
  | cons c rest ih =>
    obtain ⟨digit, value, below, later⟩ := readDigits_cons_eq_some.mp found
    refine readDigits_cons_eq_some.mpr ⟨digit, value, below, ?_⟩
    have shifted := ih (read * base) later
    rwa [← Nat.add_assoc, ← Nat.add_mul, Nat.mul_assoc, ← Nat.pow_succ'] at shifted

/-- Digits read after a number are read on their own and added to it. -/
theorem readDigits_shift {base n : Nat} (read : Nat) {digits : List Char}
    (found : readDigits base 0 digits = some n) :
    readDigits base read digits = some (read * base ^ digits.length + n) :=
  readDigits_add read found

theorem digitValue_of_isDigit {c : Char} (digit : c.isDigit = true) :
    ∃ n < 10, digitValue c = some n := by
  have range : '0' ≤ c ∧ c ≤ '9' := by simpa [Char.isDigit, Char.le_def] using digit
  refine ⟨c.toNat - '0'.toNat, ?_, if_pos range⟩
  have last : c.toNat ≤ '9'.toNat := UInt32.le_iff_toNat_le.mp range.2
  have nine : '9'.toNat - '0'.toNat < 10 := by decide
  omega

/-- Decimal digits are a number. -/
theorem exists_readDigits (read : Nat) {digits : List Char}
    (each : ∀ c ∈ digits, c.isDigit = true) : ∃ n, readDigits 10 read digits = some n := by
  induction digits generalizing read with
  | nil => exact ⟨read, rfl⟩
  | cons c rest ih =>
    obtain ⟨digit, below, value⟩ := digitValue_of_isDigit (each c List.mem_cons_self)
    obtain ⟨n, later⟩ :=
      ih (read * 10 + digit) fun d member => each d (List.mem_cons_of_mem c member)
    exact ⟨n, readDigits_cons_eq_some.mpr ⟨digit, value, below, later⟩⟩

theorem digitValue_digitChar {digit : Nat} (below : digit < 16) :
    digitValue digit.digitChar = some digit := by
  -- letters start after nine, so the sixteen digits are checked one by one
  have each : ∀ digit < 16, digitValue digit.digitChar = some digit := by decide
  exact each digit below

theorem readDigits_digitChar {base digit : Nat} (small : base ≤ 16) (below : digit < base)
    (read : Nat) : readDigits base read [digit.digitChar] = some (read * base + digit) := by
  simp only [readDigits, digitValue_digitChar (below.trans_le small), Option.bind_eq_bind,
    Option.bind_some, if_pos below]

theorem readDigits_toDigits {base : Nat} (wide : 1 < base) (small : base ≤ 16) (n : Nat) :
    readDigits base 0 (Nat.toDigits base n) = some n := by
  induction n using Nat.strong_induction_on with
  | _ n ih =>
    by_cases below : n < base
    · rw [Nat.toDigits_of_lt_base below, readDigits_digitChar small below]
      simp
    · -- the numeral of the quotient, then the digit of the remainder
      have quotient : n / base < n := Nat.div_lt_self (by omega) wide
      have remainder : n % base < base := Nat.mod_lt n (by omega)
      rw [Nat.toDigits_of_base_le wide (by omega), readDigits_append, ih _ quotient,
        Option.bind_some, readDigits_digitChar small remainder, Nat.div_add_mod']

/-- A number is read back from its numeral. -/
theorem parse_toDigits {base : Nat} (wide : 1 < base) (small : base ≤ 16) (n : Nat) :
    parse base (Nat.toDigits base n) = some n := by
  rw [parse, if_neg Nat.toDigits_ne_nil, readDigits_toDigits wide small]

theorem toDigits_injective {base n m : Nat} (wide : 1 < base) (small : base ≤ 16)
    (same : Nat.toDigits base n = Nat.toDigits base m) : n = m := by
  have read := parse_toDigits wide small n
  rw [same, parse_toDigits wide small m, Option.some.injEq] at read
  exact read.symm

/-! ## Padding -/

/-- Pad on the left to a width. -/
def padStart (width : Nat) (c : Char) (text : List Char) : List Char :=
  List.replicate (width - text.length) c ++ text

/-- Zeros before a numeral do not count. -/
theorem readDigits_zeros {base : Nat} (positive : 0 < base) (zeros : Nat) (numeral : List Char) :
    readDigits base 0 (List.replicate zeros '0' ++ numeral) = readDigits base 0 numeral := by
  have zero : digitValue '0' = some 0 := by decide
  induction zeros with
  | zero => rfl
  | succ zeros ih =>
    rw [List.replicate_succ, List.cons_append, readDigits, zero, Option.bind_eq_bind,
      Option.bind_some, if_pos positive, Nat.zero_mul, Nat.zero_add, ih]

/-- Zeros behind a number shift it. -/
theorem readDigits_replicate_zero {base : Nat} (positive : 0 < base) (read zeros : Nat) :
    readDigits base read (List.replicate zeros '0') = some (read * base ^ zeros) := by
  have alone : readDigits base 0 (List.replicate zeros '0') = some 0 := by
    have zero := readDigits_zeros positive zeros []
    rwa [List.append_nil] at zero
  rw [readDigits_shift read alone, List.length_replicate, Nat.add_zero]

/-- A run of zeros at the front. -/
theorem exists_zeros (digits : List Char) :
    ∃ zeros, digits = List.replicate zeros '0' ++ digits.dropWhile (· == '0') := by
  refine ⟨(digits.takeWhile (· == '0')).length, ?_⟩
  have zero : ∀ c ∈ digits.takeWhile (· == '0'), c = '0' := fun c member =>
    beq_iff_eq.mp (List.all_eq_true.mp List.all_takeWhile c member)
  rw [← List.eq_replicate_of_mem zero, List.takeWhile_append_dropWhile]

/-- A number does not lose by the zeros at its front, where nothing is zero. -/
theorem parse_dropZeros {base n : Nat} (positive : 0 < base) {digits : List Char}
    (read : readDigits base 0 digits = some n) :
    parse base (if digits.dropWhile (· == '0') = [] then ['0']
      else digits.dropWhile (· == '0')) = some n := by
  obtain ⟨zeros, same⟩ := exists_zeros digits
  rw [same, readDigits_zeros positive] at read
  split
  next none =>
    rw [none] at read
    cases read
    rw [parse, if_neg (List.cons_ne_nil _ _)]
    exact readDigits_zeros positive 1 []
  next some => rw [parse, if_neg some, read]

theorem parse_padStart {base : Nat} (positive : 0 < base) (width : Nat) {numeral : List Char}
    (nonempty : numeral ≠ []) : parse base (padStart width '0' numeral) = parse base numeral := by
  have padded : padStart width '0' numeral ≠ [] := fun empty =>
    nonempty (List.append_eq_nil_iff.mp empty).2
  rw [parse, parse, if_neg padded, if_neg nonempty, padStart, readDigits_zeros positive]

/-! ## Decimal fields -/

/-- A number in at least this many decimal digits. -/
def decimalField (width n : Nat) : List Char := padStart width '0' (Nat.toDigits 10 n)

theorem parse_decimalField (width n : Nat) : parse 10 (decimalField width n) = some n := by
  rw [decimalField, parse_padStart (by decide) width Nat.toDigits_ne_nil,
    parse_toDigits (by decide) (by decide)]

theorem isDigit_of_mem_decimalField {width n : Nat} {c : Char} (member : c ∈ decimalField width n) :
    c.isDigit = true := by
  rcases List.mem_append.mp member with zero | digit
  · rw [List.eq_of_mem_replicate zero]
    decide
  · exact Nat.isDigit_of_mem_toDigits (by decide) (by decide) digit

theorem decimalField_ne_nil (width n : Nat) : decimalField width n ≠ [] := fun empty =>
  Nat.toDigits_ne_nil (List.append_eq_nil_iff.mp empty).2

/-! ## Hexadecimal bytes -/

/-- The two digits of a byte. -/
def hexByte (byte : UInt8) : List Char := padStart 2 '0' (Nat.toDigits 16 byte.toNat)

def hex (bytes : List UInt8) : List Char := bytes.flatMap hexByte

theorem hexByte_digits (byte : UInt8) :
    hexByte byte = [(byte.toNat / 16).digitChar, (byte.toNat % 16).digitChar] := by
  have each : ∀ n < 256, padStart 2 '0' (Nat.toDigits 16 n) =
      [(n / 16).digitChar, (n % 16).digitChar] := by decide +kernel
  exact each byte.toNat byte.toNat_lt

theorem x_notMem_hex (bytes : List UInt8) : 'x' ∉ hex bytes := by
  have digit : ∀ n < 16, 'x' ≠ n.digitChar := by decide
  rw [hex, List.mem_flatMap]
  rintro ⟨byte, -, letter⟩
  have bound := byte.toNat_lt
  rw [hexByte_digits, List.mem_pair] at letter
  rcases letter with high | low
  · exact digit _ (by omega) high
  · exact digit _ (by omega) low

theorem readDigits_hexByte (read : Nat) (byte : UInt8) :
    readDigits 16 read (hexByte byte) = some (read * 256 + byte.toNat) := by
  have bound := byte.toNat_lt
  rw [hexByte_digits]
  simp only [readDigits, digitValue_digitChar (show byte.toNat / 16 < 16 by omega),
    digitValue_digitChar (show byte.toNat % 16 < 16 by omega), Option.bind_eq_bind,
    Option.bind_some]
  rw [if_pos (by omega), if_pos (by omega), Option.some.injEq]
  omega

theorem readDigits_hex (read : Nat) (bytes : List UInt8) :
    readDigits 16 read (hex bytes) =
      some (read * 256 ^ bytes.length + BigEndian.value bytes) := by
  induction bytes generalizing read with
  | nil => simp [hex, readDigits, BigEndian.value]
  | cons byte rest ih =>
    -- two digits shift what was read by 256, which is the weight of the byte
    have split : byte :: rest = [byte] ++ rest := rfl
    rw [hex, List.flatMap_cons, readDigits_append, readDigits_hexByte, Option.bind_some]
    rw [← hex, ih, split, BigEndian.value_append, BigEndian.value_singleton, List.length_append,
      List.length_singleton, Option.some.injEq]
    ring

theorem hex_ne_nil {bytes : List UInt8} (nonempty : bytes ≠ []) : hex bytes ≠ [] := by
  cases bytes with
  | nil => exact absurd rfl nonempty
  | cons byte rest =>
    rw [hex, List.flatMap_cons, hexByte_digits]
    exact List.cons_ne_nil _ _

/-- A byte string is read back from its hexadecimal digits. -/
theorem parse_hex {bytes : List UInt8} (nonempty : bytes ≠ []) :
    parse 16 (hex bytes) = some (BigEndian.value bytes) := by
  rw [parse, if_neg (hex_ne_nil nonempty), readDigits_hex, Nat.zero_mul, Nat.zero_add]

theorem hex_injective {bytes bytes' : List UInt8} (length : bytes.length = bytes'.length)
    (same : hex bytes = hex bytes') : bytes = bytes' := by
  have read := readDigits_hex 0 bytes
  rw [same, readDigits_hex 0 bytes', Nat.zero_mul, Nat.zero_mul, Nat.zero_add, Nat.zero_add,
    Option.some.injEq] at read
  exact BigEndian.value_injective length read.symm

theorem padStart_toDigits_succ {base width : Nat} (wide : 1 < base) (positive : 0 < width)
    (n : Nat) : padStart (width + 1) '0' (Nat.toDigits base n) =
      padStart width '0' (Nat.toDigits base (n / base)) ++ [(n % base).digitChar] := by
  by_cases below : n < base
  · have zero : Nat.toDigits base 0 = ['0'] := Nat.toDigits_of_lt_base (by omega)
    obtain ⟨zeros, rfl⟩ := Nat.exists_eq_succ_of_ne_zero positive.ne'
    rw [Nat.toDigits_of_lt_base below, Nat.div_eq_of_lt below, Nat.mod_eq_of_lt below, zero]
    simp only [padStart, List.length_singleton, Nat.succ_eq_add_one, Nat.add_sub_cancel,
      List.replicate_succ', List.append_assoc]
  · rw [Nat.toDigits_of_base_le wide (by omega), padStart, padStart, List.length_append,
      List.length_singleton, Nat.add_sub_add_right, List.append_assoc]

/-- The digits of the bytes of a number are its own, padded. -/
theorem hex_encode {width n : Nat} (positive : 0 < width) (below : n < 256 ^ width) :
    hex (BigEndian.encode width n) = padStart (2 * width) '0' (Nat.toDigits 16 n) := by
  induction width, positive using Nat.le_induction generalizing n with
  | base =>
    have byte : (UInt8.ofNat n).toNat = n := by
      rw [UInt8.toNat_ofNat']
      omega
    simp [BigEndian.encode, hex, hexByte, byte]
  | succ width positive ih =>
    have quotient : n / 256 < 256 ^ width := by
      rw [Nat.div_lt_iff_lt_mul (by decide), ← Nat.pow_succ]
      exact below
    have split : hex (BigEndian.encode (width + 1) n) =
        hex (BigEndian.encode width (n / 256)) ++ hexByte (.ofNat n) := by
      simp [BigEndian.encode, hex]
    have high : n % 256 / 16 = n / 16 % 16 := by omega
    have low : n % 256 % 16 = n % 16 := by omega
    rw [split, ih quotient, hexByte_digits, UInt8.toNat_ofNat', Nat.mul_succ,
      padStart_toDigits_succ (by decide) (by omega), padStart_toDigits_succ (by decide) (by omega),
      Nat.div_div_eq_div_mul, List.append_assoc]
    simp [high, low]

end Numerals
