import Mathlib.Algebra.Order.Field.Rat
import Mathlib.Data.List.TakeWhile
import Mathlib.Tactic.FieldSimp
import ZkSettle.Frontend.Flow
import ZkSettle.Library.Text
import ZkSettle.Sdk.Hexadecimal

/-!
# Token amounts

An amount in units is shown as a decimal number and read back from one. The big number that
is made of the digits read is an object of a library.
-/
namespace ZkSettle.Frontend

open Numerals
open ZkSettle.Sdk (trim)

/-! ## formatAmount and parseAmountToUnits -/

def trimTrailingZeros (input : List Char) : List Char :=
  (input.reverse.dropWhile (· == '0')).reverse

def formatAmount (raw : Int) (decimals : Nat) : List Char :=
  if decimals = 0 then numberToString raw
  else
    let divisor : Int := 10 ^ decimals
    let whole := raw.tdiv divisor
    let fraction := raw.tmod divisor
    if fraction = 0 then numberToString whole
    else
      let fractionStr := trimTrailingZeros (padStart decimals '0' (numberToString fraction))
      if 0 < fractionStr.length then numberToString whole ++ '.' :: fractionStr
      else numberToString whole

/-- `/^\d+(\.\d+)?$/` -/
def isAmount (text : List Char) : Bool :=
  match text.span Char.isDigit with
  | (whole, []) => !whole.isEmpty
  | (whole, '.' :: fraction) => !whole.isEmpty && !fraction.isEmpty && fraction.all Char.isDigit
  | _ => false

def padEnd (width : Nat) (c : Char) (text : List Char) : List Char :=
  text ++ List.replicate (width - text.length) c

section Parse

-- `new BN(text)`
variable (newBN : List Char → Nat)

def parseAmountToUnits (raw : List Char) (decimals : Nat) : Option Nat :=
  let trimmed := trim raw
  if trimmed = [] then none
  else if isAmount trimmed = false then none
  else
    let parts := trimmed.splitOn '.'
    let whole := parts.getD 0 []
    let fractionRaw := parts.getD 1 []
    if decimals < fractionRaw.length then none
    else
      let fraction := padEnd decimals '0' fractionRaw
      let combined := (whole ++ fraction).dropWhile (· == '0')
      some (newBN (if combined = [] then ['0'] else combined))

end Parse

/-! ## Texts of amounts -/

/-- A decimal number, with a point when there is a fraction. -/
def amountText (whole fraction : List Char) : List Char :=
  if fraction = [] then whole else whole ++ '.' :: fraction

/-- What a text is the text of: digits, and perhaps digits behind a point. -/
structure Amount where
  whole : List Char
  fraction : List Char
  nonempty : whole ≠ []
  wholeDigits : ∀ c ∈ whole, c.isDigit = true
  fractionDigits : ∀ c ∈ fraction, c.isDigit = true

def Amount.text (amount : Amount) : List Char := amountText amount.whole amount.fraction

theorem point_notMem {digits : List Char} (each : ∀ c ∈ digits, c.isDigit = true) :
    '.' ∉ digits := fun member => absurd (each '.' member) (by decide)

theorem isAmount_text (amount : Amount) : isAmount amount.text = true := by
  have front : amount.whole.takeWhile Char.isDigit = amount.whole :=
    List.takeWhile_eq_self_iff.mpr amount.wholeDigits
  have rest : amount.whole.dropWhile Char.isDigit = [] :=
    List.dropWhile_eq_nil_iff.mpr amount.wholeDigits
  rw [isAmount, List.span_eq_takeWhile_dropWhile, Amount.text, amountText]
  by_cases none : amount.fraction = []
  · rw [if_pos none, front, rest]
    simp [amount.nonempty]
  · rw [if_neg none, List.takeWhile_append_of_pos amount.wholeDigits,
      List.dropWhile_append_of_pos amount.wholeDigits, List.takeWhile_cons_of_neg (by decide),
      List.dropWhile_cons_of_neg (by decide), List.append_nil]
    simpa [amount.nonempty, none] using amount.fractionDigits

theorem exists_amount {text : List Char} (accepted : isAmount text = true) :
    ∃ amount : Amount, text = amount.text := by
  have digits : ∀ c ∈ text.takeWhile Char.isDigit, c.isDigit = true :=
    List.all_eq_true.mp List.all_takeWhile
  have parts : text.takeWhile Char.isDigit ++ text.dropWhile Char.isDigit = text :=
    List.takeWhile_append_dropWhile
  rw [isAmount, List.span_eq_takeWhile_dropWhile] at accepted
  generalize text.takeWhile Char.isDigit = whole at accepted digits parts
  generalize text.dropWhile Char.isDigit = rest at accepted parts
  split at accepted
  next same =>
    cases same
    refine ⟨⟨whole, [], by simpa using accepted, digits, by simp⟩, ?_⟩
    rw [← parts, List.append_nil]
    rfl
  next fraction same =>
    cases same
    simp only [Bool.and_eq_true, Bool.not_eq_true', List.isEmpty_eq_false_iff] at accepted
    refine ⟨⟨whole, fraction, accepted.1.1, digits, List.all_eq_true.mp accepted.2⟩, ?_⟩
    rw [← parts, Amount.text, amountText, if_neg accepted.1.2]
  next => cases accepted

/-- The parts of a text are those of its amount. -/
theorem Amount.splitOn_text (amount : Amount) :
    (amount.text.splitOn '.').getD 0 [] = amount.whole ∧
      (amount.text.splitOn '.').getD 1 [] = amount.fraction := by
  have whole := point_notMem amount.wholeDigits
  have fraction := point_notMem amount.fractionDigits
  rw [text, amountText]
  split
  next none =>
    rw [List.splitOn_eq_singleton whole, none]
    exact ⟨rfl, rfl⟩
  next =>
    rw [List.splitOn_append_cons_self_of_not_mem whole, List.splitOn_eq_singleton fraction]
    exact ⟨rfl, rfl⟩

/-- No character of an amount is white space. -/
theorem Amount.trim_text (amount : Amount) : trim amount.text = amount.text := by
  apply Sdk.trim_eq_self
  have digit : ∀ c : Char, c.isDigit = true → Sdk.isSpace c = false := by
    intro c digit
    obtain ⟨n, -, value⟩ := digitValue_of_isDigit digit
    exact Sdk.isSpace_of_digit value
  intro c member
  rw [text, amountText] at member
  split at member
  · exact digit c (amount.wholeDigits c member)
  · rcases List.mem_append.mp member with whole | rest
    · exact digit c (amount.wholeDigits c whole)
    · rcases List.mem_cons.mp rest with rfl | fraction
      · decide
      · exact digit c (amount.fractionDigits c fraction)

/-! ## Reading -/

/-- The number that a text writes. -/
def textNumber (text : List Char) : Option ℚ :=
  match Text.splitOnce ['.'] text with
  | none => (parse 10 text).map fun n => (n : ℚ)
  | some (whole, fraction) => do
    let a ← parse 10 whole
    let b ← parse 10 fraction
    some (a + b / 10 ^ fraction.length)

section Reads

variable {newBN : List Char → Nat}

/-- An amount is read as the number of its units. -/
theorem parseAmountToUnits_text (reads : ∀ digits n, parse 10 digits = some n → newBN digits = n)
    {raw : List Char} {amount : Amount} (text : trim raw = amount.text) {a b decimals : Nat}
    (whole : readDigits 10 0 amount.whole = some a)
    (fraction : readDigits 10 0 amount.fraction = some b) :
    parseAmountToUnits newBN raw decimals =
      if decimals < amount.fraction.length then none
      else some (a * 10 ^ decimals + b * 10 ^ (decimals - amount.fraction.length)) := by
  have accepted := isAmount_text amount
  have nonempty : amount.text ≠ [] := by
    intro empty
    rw [empty] at accepted
    cases accepted
  obtain ⟨wholePart, fractionPart⟩ := amount.splitOn_text
  simp only [parseAmountToUnits, text, nonempty, accepted, wholePart, fractionPart, if_false,
    Bool.true_eq_false]
  by_cases long : decimals < amount.fraction.length
  · rw [if_pos long, if_pos long]
  · rw [if_neg long, if_neg long]
    -- the digits are those of the whole number, then of the fraction, then zeros
    have combined : readDigits 10 0 (amount.whole ++ padEnd decimals '0' amount.fraction) =
        some ((a * 10 ^ amount.fraction.length + b) *
          10 ^ (decimals - amount.fraction.length)) := by
      rw [padEnd, readDigits_append, whole, Option.bind_some, readDigits_append,
        readDigits_shift a fraction, Option.bind_some, readDigits_replicate_zero (by decide)]
    have places : 10 ^ decimals =
        10 ^ amount.fraction.length * 10 ^ (decimals - amount.fraction.length) := by
      rw [← Nat.pow_add, Nat.add_sub_cancel' (not_lt.mp long)]
    rw [reads _ _ (parse_dropZeros (by decide) combined), places, Nat.add_mul, Nat.mul_assoc]

theorem Amount.exists_numbers (amount : Amount) : ∃ a b,
    readDigits 10 0 amount.whole = some a ∧ readDigits 10 0 amount.fraction = some b := by
  obtain ⟨a, whole⟩ := exists_readDigits 0 amount.wholeDigits
  obtain ⟨b, fraction⟩ := exists_readDigits 0 amount.fractionDigits
  exact ⟨a, b, whole, fraction⟩

theorem textNumber_text {amount : Amount} {a b : Nat}
    (whole : readDigits 10 0 amount.whole = some a)
    (fraction : readDigits 10 0 amount.fraction = some b) :
    textNumber amount.text = some ((a : ℚ) + b / 10 ^ amount.fraction.length) := by
  have wholeNumber : parse 10 amount.whole = some a := by
    rw [parse, if_neg amount.nonempty, whole]
  have point := point_notMem amount.wholeDigits
  rw [Amount.text, amountText]
  split
  next none =>
    rw [none] at fraction
    cases fraction
    simp [textNumber, Text.splitOnce_of_notMem point, wholeNumber]
  next some =>
    have fractionNumber : parse 10 amount.fraction = Option.some b := by
      rw [parse, if_neg some, fraction]
    simp [textNumber, Text.splitOnce_append point, wholeNumber, fractionNumber]

/-- What is read is the number that is written, in units. -/
theorem parseAmountToUnits_textNumber
    (reads : ∀ digits n, parse 10 digits = some n → newBN digits = n) {raw : List Char}
    {decimals n : Nat} (read : parseAmountToUnits newBN raw decimals = some n) :
    ∃ q, textNumber (trim raw) = some q ∧ (n : ℚ) = q * 10 ^ decimals := by
  have accepted : isAmount (trim raw) = true := by
    by_contra refused
    rw [Bool.not_eq_true] at refused
    simp [parseAmountToUnits, refused] at read
  obtain ⟨amount, text⟩ := exists_amount accepted
  obtain ⟨a, b, whole, fraction⟩ := amount.exists_numbers
  rw [parseAmountToUnits_text reads text whole fraction] at read
  split at read
  · cases read
  next short =>
    cases read
    refine ⟨_, by rw [text, textNumber_text whole fraction], ?_⟩
    have places : (10 : ℚ) ^ decimals =
        10 ^ amount.fraction.length * 10 ^ (decimals - amount.fraction.length) := by
      rw [← pow_add, Nat.add_sub_cancel' (not_lt.mp short)]
    push_cast
    rw [places]
    field_simp

end Reads

/-! ## Writing -/

/-- What is trimmed is a run of zeros. -/
theorem trimTrailingZeros_append (input : List Char) :
    ∃ zeros, input = trimTrailingZeros input ++ List.replicate zeros '0' := by
  obtain ⟨zeros, same⟩ := exists_zeros input.reverse
  refine ⟨zeros, ?_⟩
  have back := congrArg List.reverse same
  rwa [List.reverse_reverse, List.reverse_append, List.reverse_replicate] at back

/-- The digits of the fraction of an amount. -/
def fractionText (v decimals : Nat) : List Char :=
  trimTrailingZeros (padStart decimals '0' (Nat.toDigits 10 (v % 10 ^ decimals)))

theorem fractionText_of_zero {v decimals : Nat} (whole : v % 10 ^ decimals = 0) :
    fractionText v decimals = [] := by
  have digits : padStart decimals '0' ['0'] = List.replicate (decimals - 1 + 1) '0' := by
    rw [List.replicate_succ', padStart, List.length_singleton]
  rw [fractionText, whole, Nat.toDigits_zero, digits, trimTrailingZeros, List.reverse_replicate]
  simp

theorem formatAmount_eq (v decimals : Nat) : formatAmount v decimals =
    amountText (Nat.toDigits 10 (v / 10 ^ decimals)) (fractionText v decimals) := by
  have divisor : (10 : Int) ^ decimals = (10 ^ decimals : Nat) := by push_cast; rfl
  have whole : (v : Int).tdiv (10 ^ decimals) = (v / 10 ^ decimals : Nat) := by
    rw [divisor, Int.tdiv_eq_ediv_of_nonneg (Int.natCast_nonneg v), Int.natCast_ediv]
  have fraction : (v : Int).tmod (10 ^ decimals) = (v % 10 ^ decimals : Nat) := by
    rw [divisor, Int.tmod_eq_emod_of_nonneg (Int.natCast_nonneg v), Int.natCast_emod]
  have numeral : ∀ n : Nat, numberToString n = Nat.toDigits 10 n := fun _ => rfl
  have digits : trimTrailingZeros (padStart decimals '0' (Nat.toDigits 10 (v % 10 ^ decimals))) =
      fractionText v decimals := rfl
  rw [formatAmount]
  simp only [whole, fraction, numeral, digits]
  split
  next integral =>
    rw [integral, fractionText_of_zero (by rw [pow_zero, Nat.mod_one]), pow_zero, Nat.div_one]
    rfl
  next =>
    split
    next zero =>
      rw [fractionText_of_zero (Int.ofNat_eq_zero.mp zero)]
      rfl
    next =>
      rw [amountText]
      split
      next some => rw [if_neg (List.ne_nil_of_length_pos some)]
      next none => rw [if_pos (List.length_eq_zero_iff.mp (Nat.eq_zero_of_not_pos none))]

/-- A trimmed fraction has digits, no more than the decimals, and the zeros that were trimmed
do not change what it stands for. -/
theorem fractionText_spec (v decimals : Nat) :
    (∀ c ∈ fractionText v decimals, c.isDigit = true) ∧
      (fractionText v decimals).length ≤ decimals ∧
      ∃ b, readDigits 10 0 (fractionText v decimals) = some b ∧
        b * 10 ^ (decimals - (fractionText v decimals).length) = v % 10 ^ decimals := by
  obtain rfl | positive := Nat.eq_zero_or_pos decimals
  · have zero : v % 10 ^ 0 = 0 := by rw [pow_zero, Nat.mod_one]
    rw [fractionText_of_zero zero, zero]
    exact ⟨by simp, Nat.le_refl 0, 0, rfl, rfl⟩
  · have below : v % 10 ^ decimals < 10 ^ decimals := Nat.mod_lt v (by positivity)
    obtain ⟨zeros, digits⟩ :=
      trimTrailingZeros_append (decimalField decimals (v % 10 ^ decimals))
    have trimmed : trimTrailingZeros (decimalField decimals (v % 10 ^ decimals)) =
        fractionText v decimals := rfl
    rw [trimmed] at digits
    have length : (decimalField decimals (v % 10 ^ decimals)).length = decimals := by
      have short := (Nat.length_toDigits_le_iff (by decide) positive).mpr below
      rw [decimalField, padStart, List.length_append, List.length_replicate]
      omega
    have read : readDigits 10 0 (decimalField decimals (v % 10 ^ decimals)) =
        some (v % 10 ^ decimals) := by
      have number := parse_decimalField decimals (v % 10 ^ decimals)
      rwa [parse, if_neg (decimalField_ne_nil _ _)] at number
    have each : ∀ c ∈ fractionText v decimals, c.isDigit = true := fun c member =>
      isDigit_of_mem_decimalField (digits ▸ List.mem_append_left _ member)
    rw [digits, readDigits_append, Option.bind_eq_some_iff] at read
    obtain ⟨b, front, back⟩ := read
    rw [readDigits_replicate_zero (by decide), Option.some.injEq] at back
    rw [digits, List.length_append, List.length_replicate] at length
    have places : decimals - (fractionText v decimals).length = zeros := by omega
    exact ⟨each, by omega, b, front, by rw [places, back]⟩

/-! ## There and back -/

/-- Amounts survive being shown, and what is read is the number that is written. -/
theorem amounts_survive {newBN : List Char → Nat}
    (reads : ∀ digits n, parse 10 digits = some n → newBN digits = n) :
    (∀ v decimals : Nat,
      parseAmountToUnits newBN (formatAmount v decimals) decimals = some v) ∧
    ∀ raw decimals n, parseAmountToUnits newBN raw decimals = some n →
      ∃ q, textNumber (trim raw) = some q ∧ (n : ℚ) = q * 10 ^ decimals := by
  refine ⟨fun v decimals => ?_, fun raw decimals n => parseAmountToUnits_textNumber reads⟩
  obtain ⟨fractionDigits, short, b, fraction, units⟩ := fractionText_spec v decimals
  let amount : Amount :=
    { whole := Nat.toDigits 10 (v / 10 ^ decimals)
      fraction := fractionText v decimals
      nonempty := Nat.toDigits_ne_nil
      wholeDigits := fun _ member => Nat.isDigit_of_mem_toDigits (by decide) (by decide) member
      fractionDigits }
  have text : trim (formatAmount v decimals) = amount.text := by
    rw [formatAmount_eq]
    exact amount.trim_text
  have whole : readDigits 10 0 amount.whole = some (v / 10 ^ decimals) :=
    readDigits_toDigits (by decide) (by decide) _
  rw [parseAmountToUnits_text reads text whole fraction, if_neg (not_lt.mpr short), units,
    Nat.div_add_mod']

theorem amounts_survive_parse :
    (∀ v decimals : Nat, parseAmountToUnits (fun digits => (parse 10 digits).getD 0)
      (formatAmount v decimals) decimals = some v) ∧
    ∀ raw decimals n,
      parseAmountToUnits (fun digits => (parse 10 digits).getD 0) raw decimals = some n →
        ∃ q, textNumber (trim raw) = some q ∧ (n : ℚ) = q * 10 ^ decimals :=
  amounts_survive fun digits n number => by rw [number]; rfl

end ZkSettle.Frontend
