/-!
# Numerals

Written forms of natural numbers, as lists of characters: decimal, and hexadecimal with capital
letters. The readers accept either case and any number of leading zeros.
-/

namespace Utf8Text.Numeral

/-! ## Writing -/

/-- Decimal digits without leading zeros; zero is the single digit `0`. -/
def decimal (n : Nat) : List Char :=
  Nat.toDigits 10 n

/-- Hexadecimal digits with capital letters and without leading zeros. -/
def hex (n : Nat) : List Char :=
  (Nat.toDigits 16 n).map Char.toUpper

/-- Hexadecimal digits, filled up with zeros on the left to at least `width` places. -/
def hexPadded (width n : Nat) : List Char :=
  (hex n).leftpad width '0'

/-- The two hexadecimal digits of a byte. -/
def hexByte (b : UInt8) : List Char :=
  hexPadded 2 b.toNat

/-! ## Reading -/

/-- The value of a digit: `0` to `9`, then the letters of either case from ten on. -/
def digitValue? (c : Char) : Option Nat :=
  if '0' ≤ c ∧ c ≤ '9' then some (c.toNat - '0'.toNat)
  else if 'a' ≤ c ∧ c ≤ 'z' then some (c.toNat - 'a'.toNat + 10)
  else if 'A' ≤ c ∧ c ≤ 'Z' then some (c.toNat - 'A'.toNat + 10)
  else none

/-- A digit of the given radix. -/
def digit? (radix : Nat) (c : Char) : Option Nat :=
  (digitValue? c).filter (· < radix)

/-- The value of a non-empty run of digits. -/
def magnitude? (radix : Nat) : List Char → Option Nat
  | [] => none
  | cs => cs.foldlM (fun value c => (digit? radix c).map (value * radix + ·)) 0

/-- A run of digits with an optional plus sign in front. -/
def unsigned? (radix : Nat) : List Char → Option Nat
  | '+' :: cs => magnitude? radix cs
  | cs => magnitude? radix cs

/-- An unsigned numeral whose value fits into 32 bits. -/
def word? (radix : Nat) (cs : List Char) : Option Nat :=
  (unsigned? radix cs).filter (· < UInt32.size)

end Utf8Text.Numeral
