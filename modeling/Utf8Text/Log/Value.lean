import Utf8Text.Log.Pattern

/-!
# Values in directives

A directive can ask for the value of a detail, by a number or by a pattern.
-/

namespace Utf8Text.Log.Value

/-- A text without a sign in front of it. -/
def unsigned : List Char → List Char
  | '+' :: rest | '-' :: rest => rest
  | text => text

/-- Whether a text is one or more decimal digits. -/
def isDigits (text : List Char) : Bool :=
  text ≠ [] && text.all Char.isDigit

/-- Whether a text is a decimal number in small letters: digits, among which there may be a point,
and an exponent. -/
def isDecimal (text : List Char) : Bool :=
  let digits := (text.takeWhile (· != 'e')).filter (· != '.')
  let points := (text.takeWhile (· != 'e')).count '.'
  isDigits digits && points ≤ 1
    && match text.dropWhile (· != 'e') with
      | [] => true
      | _ :: exponent => isDigits (unsigned exponent)

/-- Whether a text is a number, in letters of either case: with or without a sign a decimal number,
the infinite one, or none at all. -/
def isNumber (text : List Char) : Bool :=
  let body := (unsigned text).map Char.toLower
  isDecimal body || ["inf", "infinity", "nan"].contains (String.ofList body)

/-- Whether a value can be asked for. -/
def isValue (text : List Char) : Bool :=
  isNumber text || Pattern.isPattern text

end Utf8Text.Log.Value
