import Mathlib.Data.List.TakeWhile
import ZkSettle.Library.Numerals

/-!
# Pieces of text

The functions of Rust's `str` on lists of characters: lines, trimming, splitting at a
pattern, and numbers that may have a sign. A text that has been split is put together again
from its parts.
-/
namespace Text

/-- `White_Space` of Unicode -/
def isWhitespace (c : Char) : Bool :=
  let n := c.toNat
  (9 ≤ n && n ≤ 13) || n == 32 || n == 133 || n == 160 || n == 5760 || (8192 ≤ n && n ≤ 8202) ||
    n == 8232 || n == 8233 || n == 8239 || n == 8287 || n == 12288

theorem isWhitespace_of_isDigit {c : Char} (digit : c.isDigit = true) :
    isWhitespace c = false := by
  have range : 48 ≤ c.toNat ∧ c.toNat ≤ 57 := by
    simpa [Char.isDigit, UInt32.le_iff_toNat_le] using digit
  simp only [isWhitespace, Bool.or_eq_false_iff, Bool.and_eq_false_iff, decide_eq_false_iff_not,
    beq_eq_false_iff_ne]
  omega

def trim (text : List Char) : List Char :=
  ((text.dropWhile isWhitespace).reverse.dropWhile isWhitespace).reverse

/-- A text that neither starts nor ends with white space is its own trimmed text. -/
theorem trim_eq_self {text : List Char} (starts : ∀ c ∈ text.head?, isWhitespace c = false)
    (ends : ∀ c ∈ text.getLast?, isWhitespace c = false) : trim text = text := by
  have front : text.dropWhile isWhitespace = text := by
    cases text with
    | nil => rfl
    | cons c rest => exact List.dropWhile_cons_of_neg (by simp [starts c rfl])
  have back : text.reverse.dropWhile isWhitespace = text.reverse := by
    cases same : text.reverse with
    | nil => rfl
    | cons c rest =>
      have last : c ∈ text.getLast? := by
        rw [← List.head?_reverse, same]
        rfl
      exact List.dropWhile_cons_of_neg (by simp [ends c last])
  rw [trim, front, back, List.reverse_reverse]

def stripSuffix (suffix text : List Char) : Option (List Char) :=
  if suffix <:+ text then some (text.take (text.length - suffix.length)) else none

theorem stripSuffix_eq_some {suffix text before : List Char}
    (stripped : stripSuffix suffix text = some before) : text = before ++ suffix := by
  rw [stripSuffix] at stripped
  split at stripped
  next ends =>
    obtain ⟨start, rfl⟩ := ends
    simp only [List.length_append, Nat.add_sub_cancel, List.take_left, Option.some.injEq]
      at stripped
    rw [stripped]
  next => cases stripped

theorem stripSuffix_append (before suffix : List Char) :
    stripSuffix suffix (before ++ suffix) = some before := by
  rw [stripSuffix, if_pos (List.suffix_append before suffix), List.length_append,
    Nat.add_sub_cancel, List.take_left]

/-- A text that ends with another character does not lose this one. -/
theorem stripSuffix_of_getLast {text : List Char} {c : Char}
    (other : text.getLast? ≠ some c) : stripSuffix [c] text = none := by
  have unended : ¬ [c] <:+ text := by
    rintro ⟨before, rfl⟩
    exact other List.getLast?_concat
  rw [stripSuffix, if_neg unended]

/-- `split_once`: what is before and after the first occurrence of the pattern. -/
def splitOnce (pattern : List Char) : List Char → Option (List Char × List Char)
  | [] => if pattern = [] then some ([], []) else none
  | c :: rest =>
    if pattern <+: c :: rest then some ([], (c :: rest).drop pattern.length)
    else (splitOnce pattern rest).map fun parts => (c :: parts.1, parts.2)

theorem splitOnce_eq_some {pattern text before after : List Char}
    (split : splitOnce pattern text = some (before, after)) :
    text = before ++ (pattern ++ after) := by
  induction text generalizing before with
  | nil =>
    rw [splitOnce] at split
    split at split
    next empty =>
      cases split
      rw [empty]
      rfl
    next => cases split
  | cons c rest ih =>
    rw [splitOnce] at split
    split at split
    next starts =>
      obtain ⟨tail, same⟩ := starts
      cases split
      rw [← same, List.drop_left]
      rfl
    next =>
      obtain ⟨⟨front, back⟩, found, same⟩ := Option.map_eq_some_iff.mp split
      cases same
      rw [ih found]
      rfl

/-- The first occurrence of a character. -/
theorem splitOnce_append {c : Char} {before : List Char} (absent : c ∉ before)
    (after : List Char) : splitOnce [c] (before ++ c :: after) = some (before, after) := by
  induction before with
  | nil =>
    have starts : [c] <+: c :: after := List.prefix_append [c] after
    rw [List.nil_append, splitOnce, if_pos starts]
    rfl
  | cons d rest ih =>
    have other : ¬ [c] <+: d :: (rest ++ c :: after) := by
      intro starts
      exact absent (List.mem_cons.mpr (Or.inl (List.cons_prefix_cons.mp starts).1))
    rw [List.cons_append, splitOnce, if_neg other,
      ih fun member => absent (List.mem_cons_of_mem d member)]
    rfl

/-- What is before the first occurrence of a character, and what is after it, is known. -/
theorem append_cons_inj {c : Char} {before before' after after' : List Char}
    (absent : c ∉ before) (absent' : c ∉ before')
    (same : before ++ c :: after = before' ++ c :: after') : before = before' ∧ after = after' := by
  have split := splitOnce_append absent after
  rw [same, splitOnce_append absent' after', Option.some.injEq, Prod.mk.injEq] at split
  exact ⟨split.1.symm, split.2.symm⟩

theorem splitOnce_of_notMem {c : Char} {text : List Char} (absent : c ∉ text) :
    splitOnce [c] text = none := by
  cases found : splitOnce [c] text with
  | none => rfl
  | some parts =>
    have joined := splitOnce_eq_some found
    exact absurd (by simp [joined]) absent

def contains (pattern text : List Char) : Bool := (splitOnce pattern text).isSome

/-- What is before and after the last occurrence of a character. -/
def splitLast (c : Char) (text : List Char) : Option (List Char × List Char) :=
  match text.reverse.span (· != c) with
  | (_, []) => none
  | (after, _ :: before) => some (before.reverse, after.reverse)

theorem splitLast_append {c : Char} {after : List Char} (absent : c ∉ after)
    (before : List Char) : splitLast c (before ++ c :: after) = some (before, after) := by
  have others : ∀ d ∈ after.reverse, (d != c) = true := by
    intro d member
    exact bne_iff_ne.mpr fun same => absent (same ▸ List.mem_reverse.mp member)
  have reversed : (before ++ c :: after).reverse = after.reverse ++ c :: before.reverse := by simp
  rw [splitLast, reversed, List.span_eq_takeWhile_dropWhile,
    List.takeWhile_append_of_pos others, List.dropWhile_append_of_pos others]
  simp

theorem splitLast_of_notMem {c : Char} {text : List Char} (absent : c ∉ text) :
    splitLast c text = none := by
  have others : ∀ d ∈ text.reverse, (d != c) = true := by
    intro d member
    exact bne_iff_ne.mpr fun same => absent (same ▸ List.mem_reverse.mp member)
  have rest : text.reverse.dropWhile (· != c) = [] :=
    List.dropWhile_eq_nil_iff.mpr fun d member => by simpa using others d member
  rw [splitLast, List.span_eq_takeWhile_dropWhile, rest]

/-! ## Lines -/

/-- A line without the carriage return before its newline. -/
def stripReturn (line : List Char) : List Char := (stripSuffix ['\r'] line).getD line

/-- The lines of a text, when the characters of the first are already read, last one first. -/
def linesFrom (read : List Char) : List Char → List (List Char)
  | [] => if read = [] then [] else [read.reverse]
  | c :: rest =>
    if c = '\n' then stripReturn read.reverse :: linesFrom [] rest else linesFrom (c :: read) rest

/-- `lines`: a newline ends a line, and the last line may go without. -/
def lines (text : List Char) : List (List Char) := linesFrom [] text

theorem stripReturn_of_notMem {line : List Char} (plain : '\r' ∉ line) :
    stripReturn line = line := by
  have unended : ¬ ['\r'] <:+ line := fun ends => plain (ends.subset (List.mem_singleton_self _))
  rw [stripReturn, stripSuffix, if_neg unended]
  rfl

theorem linesFrom_append {line : List Char} (whole : '\n' ∉ line) (read rest : List Char) :
    linesFrom read (line ++ '\n' :: rest) = stripReturn (read.reverse ++ line) :: lines rest := by
  -- what has been read grows with each character, so it varies in the induction
  induction line generalizing read with
  | nil => simp [linesFrom, lines]
  | cons c tail ih =>
    have other : c ≠ '\n' := fun newline => whole (newline ▸ List.mem_cons_self)
    rw [List.cons_append, linesFrom, if_neg other,
      ih fun member => whole (List.mem_cons_of_mem c member)]
    simp

theorem linesFrom_last {line : List Char} (whole : '\n' ∉ line) (read : List Char)
    (nonempty : read ≠ [] ∨ line ≠ []) : linesFrom read line = [read.reverse ++ line] := by
  induction line generalizing read with
  | nil => simp_all [linesFrom]
  | cons c tail ih =>
    have other : c ≠ '\n' := fun newline => whole (newline ▸ List.mem_cons_self)
    rw [linesFrom, if_neg other,
      ih (fun member => whole (List.mem_cons_of_mem c member)) _ (Or.inl (List.cons_ne_nil _ _))]
    simp

/-- Lines that are joined are read back, when the last one is not empty. -/
theorem lines_intercalate (init : List (List Char)) {last : List Char} (nonempty : last ≠ [])
    (plain : ∀ line ∈ init, '\n' ∉ line ∧ '\r' ∉ line) (plainLast : '\n' ∉ last) :
    lines (List.intercalate ['\n'] (init ++ [last])) = init ++ [last] := by
  induction init with
  | nil =>
    rw [List.nil_append, List.intercalate_singleton, lines]
    exact linesFrom_last plainLast [] (Or.inr nonempty)
  | cons line rest ih =>
    obtain ⟨whole, unreturned⟩ := plain line List.mem_cons_self
    have split : List.intercalate ['\n'] (line :: rest ++ [last]) =
        line ++ '\n' :: List.intercalate ['\n'] (rest ++ [last]) := by
      rw [List.cons_append, List.intercalate_cons_of_ne_nil (by simp)]
      simp
    rw [split, lines, linesFrom_append whole, List.reverse_nil, List.nil_append,
      stripReturn_of_notMem unreturned,
      ih fun other member => plain other (List.mem_cons_of_mem line member)]
    rfl

/-! ## Numbers -/

/-- `parse` of an unsigned integer type with `bound` values. -/
def parseUnsigned (bound : Nat) (text : List Char) : Option Nat :=
  let digits :=
    match text with
    | '+' :: rest => rest
    | _ => text
  (Numerals.parse 10 digits).filter (· < bound)

theorem parseUnsigned_lt {bound n : Nat} {text : List Char}
    (read : parseUnsigned bound text = some n) : n < bound := by
  unfold parseUnsigned at read
  exact of_decide_eq_true (Option.filter_eq_some_iff.mp read).2

theorem parseUnsigned_decimalField {bound n : Nat} (width : Nat) (small : n < bound) :
    parseUnsigned bound (Numerals.decimalField width n) = some n := by
  have read := Numerals.parse_decimalField width n
  have digits : ∀ c ∈ Numerals.decimalField width n, c.isDigit = true := fun c member =>
    Numerals.isDigit_of_mem_decimalField member
  unfold parseUnsigned
  generalize Numerals.decimalField width n = numeral at read digits
  -- no digit is a sign
  cases numeral with
  | nil => cases read
  | cons c rest =>
    have unsigned : c ≠ '+' := by
      rintro rfl
      exact absurd (digits '+' List.mem_cons_self) (by decide)
    simp [unsigned, read, Option.filter, small]

/-- `parse` of a signed integer type with `2 * half` values. -/
def parseSigned (half : Nat) (text : List Char) : Option Int :=
  match text with
  | '-' :: digits => ((Numerals.parse 10 digits).filter (· ≤ half)).map fun n => -(n : Int)
  | _ => (parseUnsigned half text).map fun n => (n : Int)

theorem parseSigned_decimalField {half n : Nat} (width : Nat) (small : n < half) :
    parseSigned half (Numerals.decimalField width n) = some (n : Int) := by
  have read := parseUnsigned_decimalField width small
  have digits : ∀ c ∈ Numerals.decimalField width n, c.isDigit = true := fun c member =>
    Numerals.isDigit_of_mem_decimalField member
  unfold parseSigned
  generalize Numerals.decimalField width n = numeral at read digits
  cases numeral with
  | nil => simp [read]
  | cons c rest =>
    have unsigned : c ≠ '-' := by
      rintro rfl
      exact absurd (digits '-' List.mem_cons_self) (by decide)
    simp [unsigned, read]

end Text
