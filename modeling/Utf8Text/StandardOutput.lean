import Utf8Text.Buffer
import Utf8Text.Sink
import Utf8Text.Writer.LineBuffered

/-!
# Writing to the standard output

A codepoint, or a text as a line, brought to the standard output at once. Either is written through
a sink of its own and sent on, so that nothing is held back behind a success.
-/

namespace Utf8Text.StandardOutput

/-- Writes a codepoint. -/
def printCodepoint (w : LineBuffered) (cp : Nat) : Except SinkError Unit × LineBuffered :=
  match (Sink.onto w).writeCodepoint cp with
  | (.error e, s) => (.error e, s.writer)
  | (.ok _, s) =>
    match s.flush with
    | (.error e, s) => (.error e, s.writer)
    | (.ok (), s) => (.ok (), s.writer)

/-- Writes a text and a line feed, and returns the number of its codepoints. -/
def printLine (w : LineBuffered) (text : Buffer) : Except SinkError Nat × LineBuffered :=
  match (Sink.onto w).writeLine text.bytes with
  | (.error e, s) => (.error e, s.writer)
  | (.ok count, s) =>
    match s.flush with
    | (.error e, s) => (.error e, s.writer)
    | (.ok (), s) => (.ok count, s.writer)

end Utf8Text.StandardOutput
