import ZkSettle.Circuit.Main
import ZkSettle.Library.Checks
import ZkSettle.Library.Numerals
import ZkSettle.Program.Accounts

/-!
# Nullifiers in the SDK

The SDK passes field elements as strings, decimal or with the prefix `0x`, and hashes
them with the sponge of its backend, which is a parameter. A string is a list of
characters; `throw` is an error.
-/
namespace ZkSettle.Sdk

open Checks Numerals
open ZkSettle.Circuit (BN254_ORDER)
open ZkSettle.Program (Bytes32)

abbrev Text := List Char

inductive JsError where
  | syntaxError
  | rangeError
  deriving DecidableEq, Repr

/-- White space and line terminators of the language. -/
def isSpace (c : Char) : Bool :=
  c.toNat ∈ [0x09, 0x0A, 0x0B, 0x0C, 0x0D, 0x20, 0xA0, 0x1680, 0x2028, 0x2029, 0x202F, 0x205F,
    0x3000, 0xFEFF] || (0x2000 ≤ c.toNat && c.toNat ≤ 0x200A)

def trim (text : Text) : Text :=
  ((text.dropWhile isSpace).reverse.dropWhile isSpace).reverse

/-- The digits of the string as an integer in a base. -/
def integer (base : Nat) (digits : Text) : Except JsError Int :=
  match parse base digits with
  | some n => .ok n
  | none => .error .syntaxError

/-- `BigInt(text)` -/
def bigInt (text : Text) : Except JsError Int :=
  match trim text with
  | [] => .ok 0
  | '0' :: 'x' :: digits => integer 16 digits
  | '0' :: 'X' :: digits => integer 16 digits
  | '0' :: 'o' :: digits => integer 8 digits
  | '0' :: 'O' :: digits => integer 8 digits
  | '0' :: 'b' :: digits => integer 2 digits
  | '0' :: 'B' :: digits => integer 2 digits
  | '+' :: digits => integer 10 digits
  | '-' :: digits => return -(← integer 10 digits)
  | digits => integer 10 digits

/-- `Number.parseInt(text, 16)` stored in a byte: the digits up to the first other
character, or zero when there are none. A sign is not read here: where `BigInt` takes the string
as well, it has none. -/
def parseIntByte (text : Text) : UInt8 :=
  let digits := (text.dropWhile isSpace).takeWhile fun c => (parse 16 [c]).isSome
  .ofNat ((parse 16 digits).getD 0)

/-- The 32 bytes of a field element; the range is checked at the end. -/
def toField (value : Text) : Except JsError Bytes32 :=
  match value with
  | '0' :: 'x' :: rest => do
    let hex := padStart 64 '0' rest
    -- the digits are read twice: all of them for the range, two at a time for the bytes
    let n ← bigInt ('0' :: 'x' :: hex)
    let buf := List.ofFn fun i : Fin 32 => parseIntByte ((hex.drop (i.val * 2)).take 2)
    require (0 ≤ n ∧ n < BN254_ORDER) JsError.rangeError
    pure ⟨buf, List.length_ofFn⟩
  | _ => do
    let n ← bigInt value
    require (0 ≤ n ∧ n < BN254_ORDER) JsError.rangeError
    pure (.ofNat n.toNat)

structure NullifierInputs where
  privateKey : Text
  mintLo : Text
  mintHi : Text
  epoch : Text
  recipientLo : Text
  recipientHi : Text
  amount : Text
  deriving DecidableEq, Repr

/-- `"0x"` and the hexadecimal digits of the bytes. -/
def toHex (bytes : List UInt8) : Text := '0' :: 'x' :: hex bytes

/-- `toString()` of a number without a fraction. -/
def decimal (n : Nat) : Text := Nat.toDigits 10 n

def computeNullifier (poseidon2Hash : List Bytes32 → Bytes32) (inputs : NullifierInputs) :
    Except JsError Text := do
  let fields ← [inputs.privateKey, inputs.mintLo, inputs.mintHi, inputs.epoch,
    inputs.recipientLo, inputs.recipientHi, inputs.amount].mapM toField
  pure (toHex (poseidon2Hash fields).bytes)

/-! ## Strings as circuit inputs -/

/-- A circuit input is a decimal or hexadecimal number below the order of the field. A leading `+`
and underscores between digits, which no client writes, are not read here. -/
def fieldBytes (text : Text) : Option Bytes32 := do
  let n ← match text with
    | '0' :: 'x' :: digits => parse 16 digits
    | digits => parse 10 digits
  if n < BN254_ORDER then some (.ofNat n) else none

theorem fieldBytes_toHex {bytes : List UInt8} (nonempty : bytes ≠ [])
    (below : BigEndian.value bytes < BN254_ORDER) :
    fieldBytes (toHex bytes) = some (.ofNat (BigEndian.value bytes)) := by
  simp only [fieldBytes, toHex, parse_hex nonempty, Option.bind_eq_bind, Option.bind_some,
    if_pos below]

theorem fieldBytes_decimal (n : Nat) :
    fieldBytes (decimal n) = if n < BN254_ORDER then some (.ofNat n) else none := by
  have read : parse 10 (Nat.toDigits 10 n) = some n := parse_toDigits (by decide) (by decide) n
  unfold fieldBytes
  split
  · -- a decimal numeral has no letter
    rename_i digits prefixed
    have letter : 'x' ∈ Nat.toDigits 10 n := by
      rw [← decimal, prefixed]
      simp
    have digit := Nat.isDigit_of_mem_toDigits (by decide) (by decide) letter
    exact absurd digit (by decide)
  · rw [decimal, read]
    rfl

theorem toHex_bytes_injective {a b : Bytes32} (same : toHex a.bytes = toHex b.bytes) : a = b := by
  have digits : hex a.bytes = hex b.bytes := (List.cons.inj (List.cons.inj same).2).2
  have values := congrArg (readDigits 16 0) digits
  rw [readDigits_hex, readDigits_hex, Option.some.injEq, Nat.zero_mul, Nat.zero_mul, Nat.zero_add,
    Nat.zero_add] at values
  exact Bytes32.toNat_injective values

/-- The bytes of a field element survive the way through its string. -/
theorem fieldBytes_toHex_bytes (b : Bytes32) (below : b.toNat < BN254_ORDER) :
    fieldBytes (toHex b.bytes) = some b := by
  have nonempty : b.bytes ≠ [] := by
    intro empty
    have length := b.length_eq
    rw [empty] at length
    cases length
  rw [fieldBytes_toHex nonempty below, Option.some.injEq]
  apply Bytes32.toNat_injective
  exact Bytes32.toNat_ofNat b.toNat_lt

end ZkSettle.Sdk
