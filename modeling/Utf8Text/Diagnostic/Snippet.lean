import Utf8Text.Diagnostic.Position
import Utf8Text.Display.Lossy

/-!
# The line of an error

A diagnostic quotes the line that an offset lies in and points at the character there. Of a line
that is too wide only a window is shown: its start if the character is near the start, its end if
the character is near the end, and otherwise as much on either side of the character.
-/

namespace Utf8Text.Diagnostic

/-- The greatest number of characters of a line that are shown. -/
def maxWidth : Nat := 80

/-- The bytes of the line of an offset, before the offset and from it on. -/
def lineAround (text : Bytes) (offset : Nat) : Bytes × Bytes :=
  (lastLine (text.take offset), (text.drop offset).takeWhile (· ≠ lineFeed))

/-- A line as it is displayed, with the place of the character pointed at. The bytes on either side
of that place are displayed independently. -/
structure DisplayedLine where
  characters : List Char
  column : Nat

/-- The displayed line of an offset. -/
def DisplayedLine.ofOffset (text : Bytes) (offset : Nat) : DisplayedLine :=
  let (left, right) := lineAround text offset
  let shown := Display.lossy left
  ⟨shown ++ Display.lossy right, shown.length⟩

/-- Whether a line is too wide to be shown whole. -/
def DisplayedLine.isWide (line : DisplayedLine) : Bool :=
  line.characters.length > maxWidth

/-- The part of a line that is shown, and the sides on which an ellipsis stands. -/
structure Window where
  start : Nat
  stop : Nat
  ellipsisBefore : Bool
  ellipsisAfter : Bool

/-- The window on a line of `total` characters around a column. -/
def Window.around (total column : Nat) : Window :=
  if total ≤ maxWidth then ⟨0, total, false, false⟩
  else if column < maxWidth / 2 then ⟨0, maxWidth, false, true⟩
  else if column ≥ total - maxWidth / 2 then ⟨total - maxWidth, total, true, false⟩
  else
    let start := column - maxWidth / 2
    ⟨start, min (start + maxWidth) total, true, true⟩

/-- Marks a side on which something was left out. -/
def ellipsis : List Char := "...".toList

/-- A line as it stands in a diagnostic, with the number of characters before the caret. -/
structure Snippet where
  content : List Char
  caret : Nat

/-- What is shown of a line. -/
def DisplayedLine.snippet (line : DisplayedLine) : Snippet :=
  let window := Window.around line.characters.length line.column
  let before := if window.ellipsisBefore then ellipsis else []
  let after := if window.ellipsisAfter then ellipsis else []
  ⟨before ++ (line.characters.drop window.start).take (window.stop - window.start) ++ after,
    line.column - window.start + before.length⟩

/-- What is shown of the line of an offset. -/
def Snippet.ofOffset (text : Bytes) (offset : Nat) : Snippet :=
  (DisplayedLine.ofOffset text offset).snippet

end Utf8Text.Diagnostic
