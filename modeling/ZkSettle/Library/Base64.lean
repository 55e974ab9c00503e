import Mathlib.Tactic.Common

/-!
# Base64

Three bytes as four digits of six bits, with a last group of one or two bytes that is
padded or left short. The bits that no byte fills must be zero, so that a byte string has
one text, and is read back from it.
-/
namespace Base64

/-- An encoding of byte strings as texts that is read back. -/
structure Engine where
  encode : List UInt8 → String
  decode : String → Option (List UInt8)
  decode_encode : ∀ bytes, decode (encode bytes) = some bytes

/-- Sixty-four digits, none of them the padding. -/
structure Alphabet where
  digit : Nat → Char
  value : Char → Option Nat
  value_digit : ∀ n < 64, value (digit n) = some n
  digit_ne_pad : ∀ n < 64, digit n ≠ '='

variable (alphabet : Alphabet) (padded : Bool)

/-! ## Encoding -/

def pad (count : Nat) : List Char := if padded then List.replicate count '=' else []

def encodeChars : List UInt8 → List Char
  | b₀ :: b₁ :: b₂ :: rest =>
    let n := b₀.toNat * 65536 + b₁.toNat * 256 + b₂.toNat
    alphabet.digit (n / 262144) :: alphabet.digit (n / 4096 % 64) ::
      alphabet.digit (n / 64 % 64) :: alphabet.digit (n % 64) :: encodeChars rest
  | [b₀, b₁] =>
    let n := (b₀.toNat * 256 + b₁.toNat) * 4
    [alphabet.digit (n / 4096), alphabet.digit (n / 64 % 64), alphabet.digit (n % 64)] ++
      pad padded 1
  | [b₀] =>
    let n := b₀.toNat * 16
    [alphabet.digit (n / 64), alphabet.digit (n % 64)] ++ pad padded 2
  | [] => []

/-! ## Decoding -/

def decodeFour (c₀ c₁ c₂ c₃ : Char) : Option (List UInt8) := do
  let v₀ ← alphabet.value c₀
  let v₁ ← alphabet.value c₁
  let v₂ ← alphabet.value c₂
  let v₃ ← alphabet.value c₃
  let n := v₀ * 262144 + v₁ * 4096 + v₂ * 64 + v₃
  some [.ofNat (n / 65536), .ofNat (n / 256), .ofNat n]

/-- Three digits for two bytes. -/
def decodeThree (c₀ c₁ c₂ : Char) : Option (List UInt8) := do
  let v₀ ← alphabet.value c₀
  let v₁ ← alphabet.value c₁
  let v₂ ← alphabet.value c₂
  let n := v₀ * 4096 + v₁ * 64 + v₂
  if n % 4 = 0 then some [.ofNat (n / 1024), .ofNat (n / 4)] else none

/-- Two digits for one byte. -/
def decodeTwo (c₀ c₁ : Char) : Option (List UInt8) := do
  let v₀ ← alphabet.value c₀
  let v₁ ← alphabet.value c₁
  let n := v₀ * 64 + v₁
  if n % 16 = 0 then some [.ofNat (n / 16)] else none

def decodeChars : List Char → Option (List UInt8)
  | [] => some []
  | c₀ :: c₁ :: c₂ :: c₃ :: rest =>
    -- padding stands only at the very end
    if padded = true ∧ rest = [] ∧ c₃ = '=' then
      if c₂ = '=' then decodeTwo alphabet c₀ c₁ else decodeThree alphabet c₀ c₁ c₂
    else do
      let bytes ← decodeFour alphabet c₀ c₁ c₂ c₃
      let others ← decodeChars rest
      some (bytes ++ others)
  | [c₀, c₁, c₂] => if padded then none else decodeThree alphabet c₀ c₁ c₂
  | [c₀, c₁] => if padded then none else decodeTwo alphabet c₀ c₁
  | [_] => none

/-! ## Reading back -/

variable {alphabet}

theorem ofNat_toNat_of_mod {b : UInt8} {n : Nat} (same : n % 256 = b.toNat) :
    UInt8.ofNat n = b := by
  apply UInt8.toNat_inj.mp
  rw [UInt8.toNat_ofNat', same]

theorem decodeFour_digits (b₀ b₁ b₂ : UInt8) :
    let n := b₀.toNat * 65536 + b₁.toNat * 256 + b₂.toNat
    decodeFour alphabet (alphabet.digit (n / 262144)) (alphabet.digit (n / 4096 % 64))
      (alphabet.digit (n / 64 % 64)) (alphabet.digit (n % 64)) = some [b₀, b₁, b₂] := by
  intro n
  have bound₀ := b₀.toNat_lt
  have bound₁ := b₁.toNat_lt
  have bound₂ := b₂.toNat_lt
  have small : n / 262144 < 64 := by omega
  simp only [decodeFour, alphabet.value_digit _ small,
    alphabet.value_digit _ (Nat.mod_lt _ (by decide : 0 < 64)), Option.bind_eq_bind,
    Option.bind_some, Option.some.injEq, List.cons.injEq, and_true]
  exact ⟨ofNat_toNat_of_mod (by omega), ofNat_toNat_of_mod (by omega),
    ofNat_toNat_of_mod (by omega)⟩

theorem decodeThree_digits (b₀ b₁ : UInt8) :
    let n := (b₀.toNat * 256 + b₁.toNat) * 4
    decodeThree alphabet (alphabet.digit (n / 4096)) (alphabet.digit (n / 64 % 64))
      (alphabet.digit (n % 64)) = some [b₀, b₁] := by
  intro n
  have bound₀ := b₀.toNat_lt
  have bound₁ := b₁.toNat_lt
  have small : n / 4096 < 64 := by omega
  simp only [decodeThree, alphabet.value_digit _ small,
    alphabet.value_digit _ (Nat.mod_lt _ (by decide : 0 < 64)), Option.bind_eq_bind,
    Option.bind_some]
  rw [if_pos (by omega), Option.some.injEq, List.cons.injEq, List.cons.injEq]
  exact ⟨ofNat_toNat_of_mod (by omega), ofNat_toNat_of_mod (by omega), rfl⟩

theorem decodeTwo_digits (b₀ : UInt8) :
    let n := b₀.toNat * 16
    decodeTwo alphabet (alphabet.digit (n / 64)) (alphabet.digit (n % 64)) = some [b₀] := by
  intro n
  have bound₀ := b₀.toNat_lt
  have small : n / 64 < 64 := by omega
  simp only [decodeTwo, alphabet.value_digit _ small,
    alphabet.value_digit _ (Nat.mod_lt _ (by decide : 0 < 64)), Option.bind_eq_bind,
    Option.bind_some]
  rw [if_pos (by omega), Option.some.injEq, List.cons.injEq]
  exact ⟨ofNat_toNat_of_mod (by omega), rfl⟩

/-- A byte string is read back from its text. -/
theorem decodeChars_encodeChars (bytes : List UInt8) :
    decodeChars alphabet padded (encodeChars alphabet padded bytes) = some bytes := by
  induction bytes using encodeChars.induct with
  | case1 b₀ b₁ b₂ rest ih =>
    have digit := alphabet.digit_ne_pad
      ((b₀.toNat * 65536 + b₁.toNat * 256 + b₂.toNat) % 64) (Nat.mod_lt _ (by decide))
    rw [encodeChars, decodeChars, if_neg (fun last => digit last.2.2), decodeFour_digits, ih]
    rfl
  | case2 b₀ b₁ =>
    have digit := alphabet.digit_ne_pad ((b₀.toNat * 256 + b₁.toNat) * 4 % 64)
      (Nat.mod_lt _ (by decide))
    cases padded with
    | true =>
      simp only [encodeChars, pad, List.cons_append, List.nil_append, if_true,
        List.replicate_one, decodeChars, and_self]
      rw [if_neg digit, decodeThree_digits]
    | false =>
      simp only [encodeChars, pad, List.append_nil, decodeChars, Bool.false_eq_true, if_false]
      rw [decodeThree_digits]
  | case3 b₀ =>
    cases padded with
    | true =>
      simp only [encodeChars, pad, List.cons_append, List.nil_append, if_true,
        List.replicate_succ, List.replicate_zero, decodeChars, and_self]
      rw [decodeTwo_digits]
    | false =>
      simp only [encodeChars, pad, List.append_nil, decodeChars, Bool.false_eq_true, if_false]
      rw [decodeTwo_digits]
  | case4 => rfl

/-! ## Engines -/

variable (alphabet)

def engine : Engine where
  encode := fun bytes => String.ofList (encodeChars alphabet padded bytes)
  decode := fun text => decodeChars alphabet padded text.toList
  decode_encode := fun bytes => by rw [String.toList_ofList, decodeChars_encodeChars]

/-- Letters and digits, and two more characters. -/
def digitOf (c₆₂ c₆₃ : Char) (n : Nat) : Char :=
  if n < 26 then .ofNat (65 + n)
  else if n < 52 then .ofNat (71 + n)
  else if n < 62 then .ofNat (n - 4)
  else if n = 62 then c₆₂ else c₆₃

def valueOf (c₆₂ c₆₃ : Char) (c : Char) : Option Nat :=
  if c = c₆₂ then some 62
  else if c = c₆₃ then some 63
  else if 'A' ≤ c ∧ c ≤ 'Z' then some (c.toNat - 65)
  else if 'a' ≤ c ∧ c ≤ 'z' then some (c.toNat - 71)
  else if '0' ≤ c ∧ c ≤ '9' then some (c.toNat + 4)
  else none

def standardAlphabet : Alphabet where
  digit := digitOf '+' '/'
  value := valueOf '+' '/'
  value_digit := by decide
  digit_ne_pad := by decide

def urlSafeAlphabet : Alphabet where
  digit := digitOf '-' '_'
  value := valueOf '-' '_'
  value_digit := by decide
  digit_ne_pad := by decide

/-- `STANDARD` -/
def standard : Engine := engine standardAlphabet true

/-- `URL_SAFE_NO_PAD` -/
def urlSafeNoPad : Engine := engine urlSafeAlphabet false

example : standard.encode [77, 97] = "TWE=" := by decide

/-! ## Lenient decoding -/

/-- The digits of either alphabet. -/
def lenientValue (c : Char) : Option Nat := (valueOf '+' '/' c).or (valueOf '-' '_' c)

/-- The bytes of digits; the bits that fill no byte are dropped. -/
def bytesOf : List Nat → List UInt8
  | v₀ :: v₁ :: v₂ :: v₃ :: rest =>
    let n := v₀ * 262144 + v₁ * 4096 + v₂ * 64 + v₃
    .ofNat (n / 65536) :: .ofNat (n / 256) :: .ofNat n :: bytesOf rest
  | [v₀, v₁, v₂] =>
    let n := v₀ * 4096 + v₁ * 64 + v₂
    [.ofNat (n / 1024), .ofNat (n / 4)]
  | [v₀, v₁] => [.ofNat ((v₀ * 64 + v₁) / 16)]
  | _ => []

/-- `Buffer.from(text, "base64")`: what is no digit is passed over, and padding ends the text. -/
def decodeLenient (text : String) : List UInt8 :=
  bytesOf ((text.toList.takeWhile (· != '=')).filterMap lenientValue)

theorem lenientValue_digit {n : Nat} (small : n < 64) :
    lenientValue (standardAlphabet.digit n) = some n := by
  have value : valueOf '+' '/' (standardAlphabet.digit n) = some n :=
    standardAlphabet.value_digit n small
  rw [lenientValue, value]
  rfl

theorem lenient_cons {n : Nat} (small : n < 64) (rest : List Char) :
    ((standardAlphabet.digit n :: rest).takeWhile (· != '=')).filterMap lenientValue =
      n :: (rest.takeWhile (· != '=')).filterMap lenientValue := by
  have digit : (standardAlphabet.digit n != '=') = true :=
    bne_iff_ne.mpr (standardAlphabet.digit_ne_pad n small)
  simp only [List.takeWhile_cons, digit, if_true, List.filterMap_cons, lenientValue_digit small]

/-- A standard text is read back. -/
theorem decodeLenient_encode (bytes : List UInt8) :
    decodeLenient (standard.encode bytes) = bytes := by
  have remainder : ∀ n, n % 64 < 64 := fun n => Nat.mod_lt n (by decide)
  rw [decodeLenient, standard, engine, String.toList_ofList]
  induction bytes using encodeChars.induct with
  | case1 b₀ b₁ b₂ rest ih =>
    have bound₀ := b₀.toNat_lt
    have bound₁ := b₁.toNat_lt
    have bound₂ := b₂.toNat_lt
    have small : (b₀.toNat * 65536 + b₁.toNat * 256 + b₂.toNat) / 262144 < 64 := by omega
    rw [encodeChars, lenient_cons small, lenient_cons (remainder _), lenient_cons (remainder _),
      lenient_cons (remainder _), bytesOf, ih]
    simp only [List.cons.injEq, and_true]
    exact ⟨ofNat_toNat_of_mod (by omega), ofNat_toNat_of_mod (by omega),
      ofNat_toNat_of_mod (by omega)⟩
  | case2 b₀ b₁ =>
    have bound₀ := b₀.toNat_lt
    have bound₁ := b₁.toNat_lt
    have small : (b₀.toNat * 256 + b₁.toNat) * 4 / 4096 < 64 := by omega
    rw [encodeChars, List.cons_append, List.cons_append, List.cons_append, lenient_cons small,
      lenient_cons (remainder _), lenient_cons (remainder _)]
    simp only [pad, if_true, List.replicate_one, List.nil_append]
    rw [List.takeWhile_cons_of_neg (by decide), List.filterMap_nil, bytesOf]
    simp only [List.cons.injEq, and_true]
    exact ⟨ofNat_toNat_of_mod (by omega), ofNat_toNat_of_mod (by omega)⟩
  | case3 b₀ =>
    have bound₀ := b₀.toNat_lt
    have small : b₀.toNat * 16 / 64 < 64 := by omega
    rw [encodeChars, List.cons_append, List.cons_append, lenient_cons small,
      lenient_cons (remainder _)]
    simp only [pad, if_true, List.replicate_succ, List.nil_append]
    rw [List.takeWhile_cons_of_neg (by decide), List.filterMap_nil, bytesOf]
    simp only [List.cons.injEq, and_true]
    exact ofNat_toNat_of_mod (by omega)
  | case4 => rfl

end Base64
