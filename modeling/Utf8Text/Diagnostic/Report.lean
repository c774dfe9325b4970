import Utf8Text.Decoding
import Utf8Text.Diagnostic.Snippet
import Utf8Text.Display.Byte

/-!
# Reports of decode errors

A report names the error and its place, quotes the line with a caret under the bad byte, and closes
with a hint and an empty line. Colours are escape codes around its parts and change nothing else.
-/

namespace Utf8Text.Diagnostic

/-- The codes that switch colours on, and the one that switches them off. -/
structure Palette where
  error : List Char
  location : List Char
  lineNumber : List Char
  caret : List Char
  message : List Char
  reset : List Char

/-- No colours. -/
def Palette.plain : Palette :=
  ⟨[], [], [], [], [], []⟩

/-- The colours of a terminal: bold red, bold blue, blue, bold green and yellow. -/
def Palette.ansi : Palette where
  error := "\x1b[1;31m".toList
  location := "\x1b[1;34m".toList
  lineNumber := "\x1b[0;34m".toList
  caret := "\x1b[1;32m".toList
  message := "\x1b[0;33m".toList
  reset := "\x1b[0m".toList

/-- Colours if they are wanted. -/
def Palette.ofChoice (colored : Bool) : Palette :=
  if colored then .ansi else .plain

/-- What a fault means for the input. -/
def hint : DecodeFault → List Char
  | .invalidLeadByte => "bytes 0x80-0xBF and 0xF8-0xFF cannot start a sequence".toList
  | .truncatedSequence => "sequence runs past the end of the input".toList

/-- The number of columns that the line number takes. -/
def gutterWidth (line : Nat) : Nat :=
  max (Numeral.decimal line).length 3

/-- A text in a colour. -/
def Palette.paint (p : Palette) (color text : List Char) : List Char :=
  color ++ text ++ p.reset

/-- What the error is. -/
def headline (p : Palette) (e : DecodeError) : List Char :=
  p.paint p.error "error".toList ++ ": ".toList ++ e.fault.message ++ " (byte ".toList
    ++ Display.byte e.lead ++ ")".toList

/-- Where the error is. -/
def location (p : Palette) (name : List Char) (place : Position) : List Char :=
  "  ".toList ++ p.paint p.location ("--> ".toList ++ name ++ ":".toList
    ++ Numeral.decimal place.line ++ ":".toList ++ Numeral.decimal place.column)

/-- The bar between gutter and text, in a line without a number. -/
def blankGutter (p : Palette) (line : Nat) : List Char :=
  List.replicate (gutterWidth line + 2) ' ' ++ p.paint p.lineNumber "|".toList

/-- The bar between gutter and text, behind the line number. -/
def numberedGutter (p : Palette) (line : Nat) : List Char :=
  " ".toList ++ p.paint p.lineNumber ((Numeral.decimal line).leftpad (gutterWidth line) ' ')
    ++ " ".toList ++ p.paint p.lineNumber "|".toList

/-- The lines of a report. -/
def reportLines (p : Palette) (e : DecodeError) (text : Bytes) (name : List Char) :
    List (List Char) :=
  let place := Position.ofOffset text e.offset
  let snippet := Snippet.ofOffset text e.offset
  [headline p e,
    location p name place,
    blankGutter p place.line,
    numberedGutter p place.line ++ " ".toList ++ snippet.content,
    blankGutter p place.line ++ " ".toList ++ List.replicate snippet.caret ' '
      ++ p.paint p.caret "^".toList ++ " ".toList ++ p.paint p.message (hint e.fault),
    []]

/-- The report of an error in a text of the given name. -/
def report (p : Palette) (e : DecodeError) (text : Bytes) (name : List Char) : List Char :=
  (reportLines p e text name).flatMap (· ++ ['\n'])

end Utf8Text.Diagnostic
