import Mathlib.Data.List.TakeWhile
import ZkSettle.Sdk.Nullifier

/-!
# Hexadecimal strings in the SDK

The SDK reads the bytes of a field element from pairs of digits, the first 64 characters of
the padded string. White space at the end of the string, which the range check passes over,
and digits beyond the 64th put the pairs out of step with the number.
-/
namespace ZkSettle.Sdk

open Checks Numerals
open ZkSettle.Circuit (BN254_ORDER)
open ZkSettle.Program (Bytes32)

/-! ## White space -/

/-- What is left without the white space at the end. -/
def trimEnd (text : Text) : Text := (text.reverse.dropWhile isSpace).reverse

/-- No digit is white space. -/
theorem isSpace_of_digit {c : Char} {digit : Nat} (value : digitValue c = some digit) :
    isSpace c = false := by
  have range : 48 ≤ c.toNat ∧ c.toNat ≤ 122 := by
    unfold digitValue at value
    simp only [Char.le_def, UInt32.le_iff_toNat_le] at value
    split at value
    next digit => exact ⟨digit.1, digit.2.trans (by decide)⟩
    next =>
      split at value
      next lower => exact ⟨le_trans (by decide) lower.1, lower.2⟩
      next =>
        split at value
        next upper => exact ⟨le_trans (by decide) upper.1, upper.2.trans (by decide)⟩
        next => cases value
  have each : ∀ n < 123, 48 ≤ n →
      (decide (n ∈ [0x09, 0x0A, 0x0B, 0x0C, 0x0D, 0x20, 0xA0, 0x1680, 0x2028, 0x2029, 0x202F,
        0x205F, 0x3000, 0xFEFF]) || (decide (0x2000 ≤ n) && decide (n ≤ 0x200A))) = false := by
    decide
  exact each c.toNat (by omega) range.1

/-- A text without white space is its own trimmed text. -/
theorem trim_eq_self {text : Text} (each : ∀ c ∈ text, isSpace c = false) : trim text = text := by
  have kept : ∀ {part : Text}, (∀ c ∈ part, isSpace c = false) → part.dropWhile isSpace = part := by
    intro part each
    cases part with
    | nil => rfl
    | cons c rest => exact List.dropWhile_cons_of_neg (by simp [each c List.mem_cons_self])
  rw [trim, kept each, kept fun c member => each c (List.mem_reverse.mp member),
    List.reverse_reverse]

/-- What comes before another character stays. -/
theorem trimEnd_append {c : Char} (other : isSpace c = false) (front rest : Text) :
    trimEnd (front ++ c :: rest) = front ++ c :: trimEnd rest := by
  have reversed : (front ++ c :: rest).reverse = rest.reverse ++ (c :: front.reverse) := by simp
  have kept : (c :: front.reverse).dropWhile isSpace = c :: front.reverse :=
    List.dropWhile_cons_of_neg (by simp [other])
  rw [trimEnd, trimEnd, reversed, List.dropWhile_append, kept]
  split
  next empty => simp [List.isEmpty_iff.mp empty]
  next => simp

theorem trim_prefixed (rest : Text) : trim ('0' :: 'x' :: rest) = '0' :: 'x' :: trimEnd rest := by
  rw [trim, List.dropWhile_cons_of_neg (by decide)]
  exact trimEnd_append (c := 'x') (by decide) ['0'] rest

theorem bigInt_prefixed (rest : Text) :
    bigInt ('0' :: 'x' :: rest) = integer 16 (trimEnd rest) := by
  unfold bigInt
  rw [trim_prefixed]
  rfl

theorem exists_spaces (text : Text) :
    ∃ spaces : Text, text = trimEnd text ++ spaces ∧ ∀ c ∈ spaces, isSpace c = true := by
  refine ⟨(text.reverse.takeWhile isSpace).reverse, ?_, ?_⟩
  · rw [trimEnd, ← List.reverse_append, List.takeWhile_append_dropWhile, List.reverse_reverse]
  · intro c member
    exact List.all_eq_true.mp (List.all_takeWhile) c (List.mem_reverse.mp member)

/-! ## Pairs of digits -/

def pairBytes : Nat → Text → List UInt8
  | 0, _ => []
  | count + 1, text => parseIntByte (text.take 2) :: pairBytes count (text.drop 2)

theorem ofFn_pairBytes (count : Nat) (text : Text) :
    (List.ofFn fun i : Fin count => parseIntByte ((text.drop (i.val * 2)).take 2)) =
      pairBytes count text := by
  induction count generalizing text with
  | zero => rfl
  | succ count ih =>
    rw [List.ofFn_succ, pairBytes, ← ih]
    simp only [Fin.val_zero, Nat.zero_mul, List.drop_zero, Fin.val_succ, Nat.succ_mul,
      List.drop_drop, Nat.add_comm]

theorem pairBytes_length (count : Nat) (text : Text) : (pairBytes count text).length = count := by
  induction count generalizing text with
  | zero => rfl
  | succ count ih => rw [pairBytes, List.length_cons, ih]

theorem pairBytes_add (first second : Nat) (text : Text) :
    pairBytes (first + second) text =
      pairBytes first text ++ pairBytes second (text.drop (2 * first)) := by
  induction first generalizing text with
  | zero => simp [pairBytes]
  | succ first ih =>
    rw [Nat.add_right_comm, pairBytes, pairBytes, ih, List.drop_drop, List.cons_append,
      Nat.mul_succ, Nat.add_comm (2 * first)]

theorem parse_digit {c : Char} {digit : Nat} (value : digitValue c = some digit)
    (below : digit < 16) : parse 16 [c] = some digit := by
  rw [parse, if_neg (List.cons_ne_nil c []), readDigits, value, Option.bind_eq_bind,
    Option.bind_some, if_pos below, readDigits, Nat.zero_mul, Nat.zero_add]

theorem parse_space {c : Char} (space : isSpace c = true) : parse 16 [c] = none := by
  have letter : digitValue c = none := by
    by_contra digit
    obtain ⟨n, value⟩ := Option.ne_none_iff_exists'.mp digit
    rw [isSpace_of_digit value] at space
    cases space
  rw [parse, if_neg (List.cons_ne_nil c []), readDigits, letter]
  rfl

/-- Digits end where white space starts. -/
theorem takeWhile_spaces {text : Text} (spaces : ∀ d ∈ text, isSpace d = true) :
    text.takeWhile (fun c => (parse 16 [c]).isSome) = [] := by
  cases text with
  | nil => rfl
  | cons d rest =>
    apply List.takeWhile_cons_of_neg
    rw [parse_space (spaces d List.mem_cons_self)]
    exact Bool.false_ne_true

theorem parseIntByte_digit {c : Char} {digit : Nat} (value : digitValue c = some digit)
    (below : digit < 16) {rest : Text} (spaces : ∀ d ∈ rest, isSpace d = true) :
    parseIntByte (c :: rest) = .ofNat digit := by
  have read := parse_digit value below
  rw [parseIntByte, List.dropWhile_cons_of_neg (by simp [isSpace_of_digit value]),
    List.takeWhile_cons_of_pos (by rw [read]; rfl), takeWhile_spaces spaces, read]
  rfl

theorem parseIntByte_pair {c d : Char} {high low : Nat} (first : digitValue c = some high)
    (highBelow : high < 16) (second : digitValue d = some low) (lowBelow : low < 16) :
    parseIntByte [c, d] = .ofNat (high * 16 + low) := by
  have read : parse 16 [c, d] = some (high * 16 + low) := by
    simp only [parse, readDigits, first, second, Option.bind_eq_bind, Option.bind_some,
      if_pos highBelow, if_pos lowBelow, Nat.zero_mul, Nat.zero_add]
    rfl
  rw [parseIntByte, List.dropWhile_cons_of_neg (by simp [isSpace_of_digit first]),
    List.takeWhile_cons_of_pos (by rw [parse_digit first highBelow]; rfl),
    List.takeWhile_cons_of_pos (by rw [parse_digit second lowBelow]; rfl), List.takeWhile_nil, read]
  rfl

theorem parseIntByte_spaces {text : Text} (spaces : ∀ d ∈ text, isSpace d = true) :
    parseIntByte text = 0 := by
  have empty : text.dropWhile isSpace = [] := List.dropWhile_eq_nil_iff.mpr spaces
  rw [parseIntByte, empty]
  rfl

/-- Pairs of digits are the bytes of the number. -/
theorem value_pairBytes {count read n : Nat} {text : Text} (width : text.length = 2 * count)
    (digits : readDigits 16 read text = some n) (rest : Text) :
    n = read * 256 ^ count + BigEndian.value (pairBytes count (text ++ rest)) := by
  induction count generalizing read text with
  | zero =>
    rw [List.length_eq_zero_iff.mp width] at digits
    cases digits
    simp [pairBytes, BigEndian.value]
  | succ count ih =>
    obtain ⟨c, d, text, rfl⟩ : ∃ c d tail, text = c :: d :: tail := by
      rcases text with - | ⟨c, - | ⟨d, tail⟩⟩
      · rw [List.length_nil] at width
        omega
      · rw [List.length_singleton] at width
        omega
      · exact ⟨c, d, tail, rfl⟩
    obtain ⟨high, first, highBelow, digits⟩ := readDigits_cons_eq_some.mp digits
    obtain ⟨low, second, lowBelow, digits⟩ := readDigits_cons_eq_some.mp digits
    have shorter : text.length = 2 * count := by
      rw [List.length_cons, List.length_cons] at width
      omega
    have later := ih shorter digits
    have byte : (UInt8.ofNat (high * 16 + low)).toNat = high * 16 + low := by
      rw [UInt8.toNat_ofNat']
      omega
    have bytes : pairBytes (count + 1) (c :: d :: text ++ rest) =
        [.ofNat (high * 16 + low)] ++ pairBytes count (text ++ rest) :=
      congrArg (· :: _) (parseIntByte_pair first highBelow second lowBelow)
    rw [bytes, BigEndian.value_append, BigEndian.value_singleton, byte, pairBytes_length, later]
    ring

theorem value_pairBytes_spaces (count : Nat) {text : Text}
    (spaces : ∀ d ∈ text, isSpace d = true) : BigEndian.value (pairBytes count text) = 0 := by
  have zeros : pairBytes count text = List.replicate count 0 := by
    induction count generalizing text with
    | zero => rfl
    | succ count ih =>
      rw [pairBytes, parseIntByte_spaces fun d member => spaces d (List.mem_of_mem_take member),
        ih fun d member => spaces d (List.mem_of_mem_drop member), List.replicate_succ]
  rw [zeros, BigEndian.value_replicate_zero]

/-- What the pairs make of a number that white space pushes to the left. -/
def misread (n spaces : Nat) : Nat :=
  if spaces % 2 = 0 then n * 16 ^ spaces else (n / 16 * 256 + n % 16) * 16 ^ (spaces - 1)

/-- The 64 characters are digits and then white space. -/
theorem value_pairBytes_window {digits spaces : Text} {n k : Nat}
    (read : readDigits 16 0 digits = some n) (width : digits.length + k = 64)
    (white : ∀ d ∈ spaces, isSpace d = true) :
    BigEndian.value (pairBytes 32 (digits ++ spaces)) = misread n k := by
  obtain ⟨half, even | odd⟩ := Nat.even_or_odd' k
  · have length : digits.length = 2 * (32 - half) := by omega
    have pairs : 32 = (32 - half) + half := by omega
    have value := value_pairBytes length read spaces
    rw [Nat.zero_mul, Nat.zero_add] at value
    rw [pairs, pairBytes_add, List.drop_left' length, BigEndian.value_append, pairBytes_length,
      ← value, value_pairBytes_spaces half white, misread, if_pos (by omega), even, Nat.pow_mul,
      Nat.add_zero]
  · -- the last digit is alone in its pair
    obtain rfl | ⟨front, c, rfl⟩ := List.eq_nil_or_concat digits
    · rw [List.length_nil] at width
      omega
    rw [List.concat_eq_append, List.length_append, List.length_singleton] at width
    rw [List.concat_eq_append, readDigits_append, Option.bind_eq_some_iff] at read
    obtain ⟨q, front_read, last⟩ := read
    obtain ⟨digit, value, below, same⟩ := readDigits_cons_eq_some.mp last
    cases same
    have length : front.length = 2 * (31 - half) := by omega
    have pairs : 32 = (31 - half) + (half + 1) := by omega
    have text : front.concat c ++ spaces = front ++ (c :: spaces) := by simp
    have byte : (UInt8.ofNat digit).toNat = digit := by
      rw [UInt8.toNat_ofNat']
      omega
    have high := value_pairBytes length front_read (c :: spaces)
    rw [Nat.zero_mul, Nat.zero_add] at high
    have lone : pairBytes (half + 1) (c :: spaces) = [.ofNat digit] ++
        pairBytes half (spaces.drop 1) :=
      congrArg (· :: _) (parseIntByte_digit value below
        fun d member => white d (List.mem_of_mem_take member))
    rw [text, pairs, pairBytes_add, List.drop_left' length, BigEndian.value_append,
      pairBytes_length, ← high, lone, BigEndian.value_append, BigEndian.value_singleton, byte,
      pairBytes_length, value_pairBytes_spaces half fun d member => white d
        (List.mem_of_mem_drop member), misread, if_neg (by omega)]
    have quotient : (q * 16 + digit) / 16 = q := by omega
    have remainder : (q * 16 + digit) % 16 = digit := by omega
    rw [quotient, remainder, odd, Nat.add_sub_cancel, Nat.pow_mul]
    ring

/-! ## Residues -/

/-- No shift by whole bytes moves a number by a few times the order of the field. -/
theorem order_not_shift : ∀ m < 33, m ≠ 0 → ∀ j < 6, j ≠ 0 →
    ¬ 256 ^ m - 1 ∣ j * BN254_ORDER := by
  decide +kernel

/-- Nor does one that leaves the last digit alone in its byte. -/
theorem order_not_gap : ∀ m < 32, ∀ digit < 16, ∀ j < 6, j ≠ 0 →
    ¬ (digit * (256 ^ m - 1) ≤ j * BN254_ORDER ∧
      256 ^ (m + 1) - 16 ∣ j * BN254_ORDER - digit * (256 ^ m - 1)) := by
  decide +kernel

theorem misread_even {n k half : Nat} (even : k = 2 * half) : misread n k = n * 256 ^ half := by
  rw [misread, if_pos (by omega), even, Nat.pow_mul]

theorem misread_odd {n k half : Nat} (odd : k = 2 * half + 1) :
    misread n k = (n / 16 * 256 + n % 16) * 256 ^ half := by
  rw [misread, if_neg (by omega), odd, Nat.add_sub_cancel, Nat.pow_mul]

theorem misread_lt {n k : Nat} (short : n < 16 ^ (64 - k)) (le : k ≤ 64) :
    misread n k < 6 * BN254_ORDER := by
  have order : 256 ^ 32 < 6 * BN254_ORDER := by decide
  refine lt_trans ?_ order
  obtain ⟨half, even | odd⟩ := Nat.even_or_odd' k
  · have places : 64 - k = 2 * (32 - half) := by omega
    rw [places, Nat.pow_mul] at short
    have all : 256 ^ 32 = 256 ^ (32 - half) * 256 ^ half := by
      rw [← Nat.pow_add]
      congr 1
      omega
    rw [misread_even even, all]
    exact Nat.mul_lt_mul_of_pos_right short (by positivity)
  · have places : 64 - k = 2 * (31 - half) + 1 := by omega
    rw [places, Nat.pow_succ, Nat.pow_mul] at short
    have all : 256 ^ 32 = 256 ^ (31 - half) * 256 * 256 ^ half := by
      rw [← Nat.pow_succ, ← Nat.pow_add]
      congr 1
      omega
    rw [misread_odd odd, all]
    apply Nat.mul_lt_mul_of_pos_right _ (by positivity)
    -- the last digit fills half of its byte
    change n < 256 ^ (31 - half) * 16 at short
    omega

/-- White space in whole bytes moves every number but zero. -/
theorem shift_residue {n half j : Nat} (few : j < 6) (short : half < 33)
    (total : j * BN254_ORDER + n = n * 256 ^ half) : n = 0 ∨ half = 0 := by
  by_cases whole : half = 0
  · exact Or.inr whole
  left
  have gap : n * (256 ^ half - 1) = j * BN254_ORDER := by
    rw [Nat.mul_sub_one]
    omega
  by_cases turn : j = 0
  · rw [turn, Nat.zero_mul] at gap
    have larger : 1 < 256 ^ half := Nat.one_lt_pow whole (by decide)
    rcases Nat.mul_eq_zero.mp gap with zero | none
    · exact zero
    · omega
  · exact absurd (Dvd.intro_left n gap) (order_not_shift half short whole j few turn)

/-- White space that leaves the last digit alone moves every number but zero, unless it is one
space behind a single digit. -/
theorem gap_residue {n half j : Nat} (few : j < 6) (short : half < 32)
    (total : j * BN254_ORDER + n = (n / 16 * 256 + n % 16) * 256 ^ half) :
    n = 0 ∨ half = 0 ∧ n < 16 := by
  have digits := Nat.div_add_mod n 16
  have digit : n % 16 < 16 := Nat.mod_lt n (by decide)
  generalize n / 16 = q at total digits
  generalize n % 16 = d at total digits digit
  obtain ⟨x, power⟩ : ∃ x, 256 ^ half = x + 1 := Nat.exists_eq_succ_of_ne_zero (by positivity)
  have wide : 256 ^ (half + 1) - 16 = 256 * x + 240 := by
    rw [Nat.pow_succ, power]
    omega
  have gap : (256 * x + 240) * q + d * x = j * BN254_ORDER := by
    have left : (256 * x + 240) * q = 256 * (q * x) + 240 * q := by ring
    have right : (q * 256 + d) * (x + 1) = 256 * (q * x) + 256 * q + d * x + d := by ring
    rw [power, right] at total
    omega
  by_cases turn : j = 0
  · rw [turn, Nat.zero_mul] at gap
    have high : q = 0 := by
      have zero := Nat.eq_zero_of_add_eq_zero_right gap
      rcases Nat.mul_eq_zero.mp zero with factor | zero
      · omega
      · exact zero
    rcases Nat.mul_eq_zero.mp (Nat.eq_zero_of_add_eq_zero_left gap) with low | none
    · exact Or.inl (by omega)
    · -- no more white space than one
      have one : half = 0 := by
        by_contra whole
        have larger : 1 < 256 ^ half := Nat.one_lt_pow whole (by decide)
        omega
      exact Or.inr ⟨one, by omega⟩
  · refine absurd ⟨?_, ?_⟩ (order_not_gap half short d digit j few turn)
    · rw [power, Nat.add_sub_cancel, ← gap]
      exact Nat.le_add_left _ _
    · rw [power, Nat.add_sub_cancel, ← gap, Nat.add_sub_cancel, wide]
      exact Nat.dvd_mul_right _ _

/-- A number is misread as itself, modulo the order of the field, only if there is no white
space behind it, or one space behind a single digit, or it is zero. -/
theorem misread_residue {n k : Nat} (below : n < BN254_ORDER) (short : n < 16 ^ (64 - k))
    (le : k ≤ 64) :
    misread n k % BN254_ORDER = n ↔ n = 0 ∨ k = 0 ∨ k = 1 ∧ n < 16 := by
  constructor
  · intro same
    -- a few times the order lie between the number and what is read
    have turns : misread n k / BN254_ORDER < 6 :=
      (Nat.div_lt_iff_lt_mul (by decide)).mpr (misread_lt short le)
    have total := Nat.div_add_mod' (misread n k) BN254_ORDER
    rw [same] at total
    generalize misread n k / BN254_ORDER = j at turns total
    obtain ⟨half, even | odd⟩ := Nat.even_or_odd' k
    · rw [misread_even even] at total
      rcases shift_residue turns (by omega) total with zero | none
      · exact Or.inl zero
      · exact Or.inr (Or.inl (by omega))
    · rw [misread_odd odd] at total
      rcases gap_residue turns (by omega) total with zero | ⟨one, digit⟩
      · exact Or.inl zero
      · exact Or.inr (Or.inr ⟨by omega, digit⟩)
  · rintro (zero | none | ⟨one, digit⟩)
    · rw [zero]
      simp [misread]
    · rw [none, misread_even (show 0 = 2 * 0 from rfl), Nat.pow_zero, Nat.mul_one,
        Nat.mod_eq_of_lt below]
    · have quotient : n / 16 = 0 := Nat.div_eq_of_lt digit
      rw [one, misread_odd (show 1 = 2 * 0 + 1 from rfl), quotient, Nat.mod_eq_of_lt digit,
        Nat.zero_mul, Nat.zero_add, Nat.pow_zero, Nat.mul_one, Nat.mod_eq_of_lt below]

/-! ## toField -/

/-- How much of the white space at the end stands among the first 64 characters. -/
def spacesRead (rest : Text) : Nat :=
  min (rest.length - (trimEnd rest).length) (64 - (trimEnd rest).length)

/-- The bytes are those of the number: the string has no prefix `0x`, or it is zero, or it has
at most 64 digits and no white space among the characters that are read, or one space behind
a single digit that is not zero. -/
def Aligned (text : Text) : Prop :=
  ∀ rest, text = '0' :: 'x' :: rest → ∀ n, parse 16 (trimEnd rest) = some n →
    n = 0 ∨ (trimEnd rest).length ≤ 64 ∧ (spacesRead rest = 0 ∨ spacesRead rest = 1 ∧ n < 16)

theorem aligned_prefixed {rest : Text} {n : Nat} (number : parse 16 (trimEnd rest) = some n) :
    Aligned ('0' :: 'x' :: rest) ↔ n = 0 ∨ (trimEnd rest).length ≤ 64 ∧
      (spacesRead rest = 0 ∨ spacesRead rest = 1 ∧ n < 16) := by
  constructor
  · exact fun aligned => aligned rest rfl n number
  · intro step other same m found
    cases same
    rw [number] at found
    cases found
    exact step

/-- The bytes of a string with the prefix, modulo the order of the field. -/
theorem pairBytes_residue {rest : Text} {n : Nat} (number : parse 16 (trimEnd rest) = some n)
    (below : n < BN254_ORDER) :
    BigEndian.value (pairBytes 32 (padStart 64 '0' rest)) % BN254_ORDER = n ↔
      Aligned ('0' :: 'x' :: rest) := by
  rw [aligned_prefixed number]
  obtain ⟨spaces, text, white⟩ := exists_spaces rest
  have length := congrArg List.length text
  rw [List.length_append] at length
  have read : readDigits 16 0 (trimEnd rest) = some n := by
    rw [parse] at number
    split at number
    · cases number
    · exact number
  by_cases short : (trimEnd rest).length ≤ 64
  · have digits : readDigits 16 0 (List.replicate (64 - rest.length) '0' ++ trimEnd rest) =
        some n := by
      rw [readDigits_zeros (by decide), read]
    have width : (List.replicate (64 - rest.length) '0' ++ trimEnd rest).length +
        spacesRead rest = 64 := by
      rw [List.length_append, List.length_replicate, spacesRead]
      omega
    have window : padStart 64 '0' rest =
        (List.replicate (64 - rest.length) '0' ++ trimEnd rest) ++ spaces := by
      rw [padStart, List.append_assoc, ← text]
    have places : n < 16 ^ (64 - spacesRead rest) := by
      have bound := (readDigits_bounds digits).2
      rw [Nat.zero_add, Nat.one_mul] at bound
      rwa [← width, Nat.add_sub_cancel]
    rw [window, value_pairBytes_window digits width white,
      misread_residue below places (by rw [spacesRead]; omega)]
    simp only [short, true_and]
  · -- the digits beyond the 64th are not among the pairs
    have unpadded : 64 - rest.length = 0 := by omega
    have cut := List.take_append_drop 64 (trimEnd rest)
    rw [← cut, readDigits_append, Option.bind_eq_some_iff] at read
    obtain ⟨v, front, back⟩ := read
    have width : ((trimEnd rest).take 64).length = 2 * 32 := by
      rw [List.length_take]
      omega
    have value := value_pairBytes width front ((trimEnd rest).drop 64 ++ spaces)
    rw [Nat.zero_mul, Nat.zero_add, ← List.append_assoc, cut, ← text] at value
    have lower := (readDigits_bounds back).1
    have beyond : 16 ≤ 16 ^ ((trimEnd rest).drop 64).length := by
      apply Nat.le_self_pow
      rw [List.length_drop]
      omega
    have sixteen : v * 16 ≤ n := (Nat.mul_le_mul_left v beyond).trans lower
    rw [padStart, unpadded, List.replicate_zero, List.nil_append, ← value,
      Nat.mod_eq_of_lt (by omega)]
    constructor
    · intro same
      exact Or.inl (by omega)
    · rintro (zero | ⟨within, -⟩)
      · omega
      · exact absurd within short

theorem toField_eq_ok {text : Text} {b : Bytes32} (read : toField text = .ok b) :
    (∃ rest, text = '0' :: 'x' :: rest ∧ b.bytes = pairBytes 32 (padStart 64 '0' rest)) ∨
      (∀ rest, text ≠ '0' :: 'x' :: rest) ∧ ∃ n : Nat, bigInt text = .ok n ∧ b = .ofNat n := by
  unfold toField at read
  split at read
  next rest =>
    obtain ⟨n, -, checked⟩ := bind_eq_ok.mp read
    obtain ⟨_, -, bytes⟩ := bind_eq_ok.mp checked
    rw [pure_eq_ok] at bytes
    cases bytes
    exact Or.inl ⟨rest, rfl, ofFn_pairBytes 32 _⟩
  next other =>
    obtain ⟨n, number, checked⟩ := bind_eq_ok.mp read
    obtain ⟨_, range, bytes⟩ := bind_eq_ok.mp checked
    rw [pure_eq_ok] at bytes
    rw [require_eq_ok] at range
    have nat : (n.toNat : Int) = n := Int.toNat_of_nonneg range.1
    exact Or.inr
      ⟨fun rest prefixed => other rest prefixed, n.toNat, by rw [nat, number], bytes.symm⟩

/-- The bytes denote the number of the string if and only if they are in step with it. -/
theorem toField_residue {text : Text} {b : Bytes32} {n : Nat} (read : toField text = .ok b)
    (number : bigInt text = .ok n) (below : n < BN254_ORDER) :
    b.toNat % BN254_ORDER = n ↔ Aligned text := by
  rcases toField_eq_ok read with ⟨rest, rfl, bytes⟩ | ⟨other, m, same, rfl⟩
  · rw [bigInt_prefixed, integer] at number
    split at number
    next m digits =>
      cases number
      rw [Bytes32.toNat, bytes, pairBytes_residue digits below]
    next => cases number
  · rw [number] at same
    cases same
    have small : n < 2 ^ 256 := below.trans (by decide)
    rw [Program.Bytes32.toNat_ofNat small, Nat.mod_eq_of_lt below]
    exact ⟨fun _ rest prefixed => absurd prefixed (other rest), fun _ => rfl⟩

end ZkSettle.Sdk
