import Utf8Text.Display.Lossy
import Utf8Text.Display.Printable

/-!
# Quoted bytes

Bytes between double quotes, on one line and in printable characters. Well-formed sequences stand
for their characters; double quotes and the backslash are escaped, and what has no printed form of
its own is given by its code point. Bytes that are no character are given one by one.
-/

namespace Utf8Text.Display

/-! ## What bytes are made of -/

/-- A part of a byte string: a character, or bytes that start like one but are none. -/
inductive Piece where
  | character (c : Char)
  | broken (bytes : Bytes)
deriving DecidableEq

/-- A sequence that has begun, with the bytes it has so far. -/
abbrev Held := Pending × Bytes

/-- What a byte at the start of a sequence makes at once, and what it leaves unfinished. -/
def beginPiece (b : UInt8) : List Piece × Option Held :=
  if b < 0x80 then ([.character (.ofNat b.toNat)], none)
  else
    match Pending.ofLead? b with
    | some p => ([], some (p, [b]))
    | none => ([.broken [b]], none)

/-- The pieces of bytes behind an unfinished sequence. -/
def piecesAfter : Option Held → Bytes → List Piece
  | none, [] => []
  | some (_, held), [] => [.broken held]
  | none, b :: bytes => (beginPiece b).1 ++ piecesAfter (beginPiece b).2 bytes
  | some (p, held), b :: bytes =>
    if p.accepts b then
      if p.missing = 1 then
        .character (Char.ofNat (p.extend b).value) :: piecesAfter none bytes
      else piecesAfter (some (p.extend b, held ++ [b])) bytes
    else .broken held :: ((beginPiece b).1 ++ piecesAfter (beginPiece b).2 bytes)

/-- The pieces of bytes. -/
def pieces (bytes : Bytes) : List Piece :=
  piecesAfter none bytes

/-! ## Quotes -/

/-- The written form of a character between quotes. -/
def escapeChar (c : Char) : List Char :=
  if c = '\x00' then ['\\', '0']
  else if c = '\t' then ['\\', 't']
  else if c = '\r' then ['\\', 'r']
  else if c = '\n' then ['\\', 'n']
  else if c = '"' ∨ c = '\\' then ['\\', c]
  else if standsAlone c then [c]
  else "\\u\x7b".toList ++ Nat.toDigits 16 c.toNat ++ "\x7d".toList

/-- The written form of a piece between quotes. -/
def Piece.escape : Piece → List Char
  | .character c => escapeChar c
  | .broken bytes => bytes.flatMap fun b => "\\x".toList ++ Numeral.hexByte b

/-- Bytes between quotes. -/
def quoted (bytes : Bytes) : List Char :=
  '"' :: (pieces bytes).flatMap Piece.escape ++ ['"']

end Utf8Text.Display
