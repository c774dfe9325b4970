import Utf8Text.Codec

/-!
# Bytes in messages

A byte is shown by its two hexadecimal digits, and, if it is printable ASCII, also as the character
it stands for.
-/

namespace Utf8Text.Display

/-- Space and the graphic characters of ASCII. -/
def isPrintableAscii (b : UInt8) : Bool :=
  0x20 ≤ b && b ≤ 0x7E

/-- A character between single quotes; the quote and the backslash are escaped. -/
def quotedChar (c : Char) : List Char :=
  if c = '\x27' ∨ c = '\\' then ['\x27', '\\', c, '\x27'] else ['\x27', c, '\x27']

/-- A byte for people to read. -/
def byte (b : UInt8) : List Char :=
  "0x".toList ++ Numeral.hexByte b ++
    if isPrintableAscii b then " (".toList ++ quotedChar (.ofNat b.toNat) ++ ")".toList else []

end Utf8Text.Display
