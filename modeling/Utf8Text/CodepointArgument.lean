import Utf8Text.Display.Blank
import Utf8Text.Numeral

/-!
# Codepoints as arguments

A codepoint is given as a hexadecimal numeral behind `U+` or `0x`, as a decimal numeral, or as a
single character. White space around it does not count. A lone decimal digit is a numeral.
-/

namespace Utf8Text

/-- Why an argument is no codepoint. The argument is kept as it was given. -/
inductive CodepointArgumentError where
  /-- What follows the mark of a hexadecimal numeral is none of at most 32 bits. -/
  | badHex (argument : List Char)
  /-- No form fits. -/
  | noForm (argument : List Char)
deriving DecidableEq

/-- The wording of a refusal. -/
def CodepointArgumentError.message : CodepointArgumentError → List Char
  | .badHex argument => "Invalid hex codepoint: '".toList ++ argument ++ "'".toList
  | .noForm argument =>
    "Invalid codepoint: '".toList ++ argument
      ++ "'. Use a form like 'U+20AC', '0x20AC', '8364' or a single character".toList

namespace CodepointArgument

/-- What follows the mark of a hexadecimal numeral. -/
def afterHexMark? : List Char → Option (List Char)
  | 'U' :: '+' :: digits => some digits
  | 'u' :: '+' :: digits => some digits
  | '0' :: 'x' :: digits => some digits
  | '0' :: 'X' :: digits => some digits
  | _ => none

/-- The only character of a text. -/
def single? : List Char → Option Char
  | [c] => some c
  | _ => none

/-- The codepoint that an argument stands for. -/
def read (argument : List Char) : Except CodepointArgumentError Nat :=
  let text := Display.trim argument
  match afterHexMark? text with
  | some digits =>
    match Numeral.word? 16 digits with
    | some n => .ok n
    | none => .error (.badHex argument)
  | none =>
    match Numeral.word? 10 text, single? text with
    | some n, _ => .ok n
    | none, some c => .ok c.toNat
    | none, none => .error (.noForm argument)

end CodepointArgument

end Utf8Text
