import Utf8Text.Codec

/-!
# JSON objects

An object is a list of members, each a name with a value. It is written without blanks, in pieces
that are handed to a writer one after the other.
-/

namespace Utf8Text.Json

/-- A value of a member. -/
inductive Value where
  | number (n : Nat)
  | string (text : List Char)
deriving DecidableEq

/-- A name with the value it stands for. -/
abbrev Member := List Char × Value

/-- A way to write objects: the bytes that are asked to be written, request by request. -/
abbrev Serializer := List Member → List Bytes

/-! ## The compact form -/

/-- The two lower-case hexadecimal digits of a control character. -/
def lowerHexPair (n : Nat) : List Char :=
  (Nat.toDigits 16 n).leftpad 2 '0'

/-- The written form of a character in a string. -/
def charText (c : Char) : List Char :=
  if c = '"' ∨ c = '\\' then ['\\', c]
  else if c = '\x08' then ['\\', 'b']
  else if c = '\t' then ['\\', 't']
  else if c = '\n' then ['\\', 'n']
  else if c = '\x0c' then ['\\', 'f']
  else if c = '\r' then ['\\', 'r']
  else if c.toNat < 0x20 then "\\u00".toList ++ lowerHexPair c.toNat
  else [c]

/-- The pieces of a string. -/
def stringPieces (text : List Char) : List (List Char) :=
  [['"'], text.flatMap charText, ['"']]

/-- The pieces of a value. -/
def valuePieces : Value → List (List Char)
  | .number n => [Numeral.decimal n]
  | .string text => stringPieces text

/-- The pieces of a member. -/
def memberPieces (member : Member) : List (List Char) :=
  stringPieces member.1 ++ [':'] :: valuePieces member.2

/-- The pieces of members, with commas between them, and of the brace behind them. -/
def membersPieces : List Member → List (List Char)
  | [] => [['\x7d']]
  | [member] => memberPieces member ++ [['\x7d']]
  | member :: members => memberPieces member ++ [','] :: membersPieces members

/-- The text of an object. -/
def objectText (members : List Member) : List Char :=
  '\x7b' :: (membersPieces members).flatten

/-- Writes objects in the compact form. -/
def compact : Serializer :=
  fun members => utf8 ['\x7b'] :: (membersPieces members).map utf8

end Utf8Text.Json
