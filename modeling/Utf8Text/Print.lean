import Utf8Text.Outcome

/-!
# Printing a text

The text is decoded and encoded again, codepoint by codepoint. A decode error ends the line that has
begun and is then reported.
-/

namespace Utf8Text.Print

/-- Ends the line that a decode error broke off. -/
def endLine (w : LineBuffered) : Written LineBuffered :=
  (w.writeAll [lineFeed]).andThen LineBuffered.drain

/-- Prints an input. -/
def printInput (o : PrintOptions) (input : Input) (c : Console) : Outcome :=
  let sink := Sink.onto (LineBuffered.onto c.device)
  let text := input.text.bytes
  match if o.noNewline then sink.writeText text else sink.writeLine text with
  | (.ok count, sink) =>
    match sink.flush with
    | (.error e, sink) => ⟨.error (.sink e), sink.writer.finish, [], []⟩
    | (.ok (), sink) =>
      ⟨.ok .success, sink.writer.finish, [],
        Log.raise c.writes
          ⟨.print, .info, "printed".toList,
            [("input", input.name), ("codepoints", Numeral.decimal count)]⟩⟩
  | (.error (.decode e), sink) =>
    match endLine sink.writer with
    | (.error failure, w) => ⟨.error (.output failure), w.finish, [], []⟩
    | (.ok (), w) =>
      let (stderr, events) := reportError o.report input c e
      ⟨.ok .invalid, w.finish, stderr, events⟩
  | (.error e, sink) => ⟨.error (.sink e), sink.writer.finish, [], []⟩

end Utf8Text.Print
