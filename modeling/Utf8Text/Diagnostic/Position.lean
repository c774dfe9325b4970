import Utf8Text.Codec

/-!
# Places in a text

A place is given by the number of its line and by a column that counts bytes, both from one on.
Lines end with a line feed.
-/

namespace Utf8Text.Diagnostic

/-- A line number and a column in bytes. -/
structure Position where
  line : Nat
  column : Nat
deriving DecidableEq

/-- The part of the last line of `before`: what comes after its last line feed. -/
def lastLine (before : Bytes) : Bytes :=
  (before.reverse.takeWhile (· ≠ lineFeed)).reverse

/-- The place of an offset. An offset beyond the end lies in the last line, in a column that goes on
counting there. -/
def Position.ofOffset (text : Bytes) (offset : Nat) : Position :=
  let before := text.take offset
  let lineStart := before.length - (lastLine before).length
  ⟨1 + before.count lineFeed, offset - lineStart + 1⟩

end Utf8Text.Diagnostic
