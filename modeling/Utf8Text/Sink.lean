import Utf8Text.Decoding
import Utf8Text.Writer

/-!
# Sinks

A sink encodes codepoints into a writer, one at a time, and counts the bytes of those that were
written whole. Writing a text decodes it on the way, so what comes out is the shortest form of every
sequence.
-/

namespace Utf8Text

/-- A writer that is fed with codepoints. -/
structure Sink (ω : Type) where
  writer : ω
  /-- The number of bytes of the codepoints written whole. -/
  written : Nat

/-- Why a sink failed. -/
inductive SinkError where
  /-- The text could not be decoded. -/
  | decode (e : DecodeError)
  /-- A codepoint could not be encoded. -/
  | encode (e : EncodeError)
  /-- The writer failed. -/
  | write (e : WriteError)
deriving DecidableEq

/-- The wording of what lies behind a failure. -/
def SinkError.cause : SinkError → List Char
  | .decode e => e.message
  | .encode e => e.message
  | .write e => e.message

/-- The wording of a failure. -/
def SinkError.message : SinkError → List Char
  | .write e => "write failed: ".toList ++ e.message
  | e => e.cause

namespace Sink

variable {ω : Type}

/-- A sink that has written nothing. -/
def onto (writer : ω) : Sink ω := ⟨writer, 0⟩

variable [Writer ω]

/-- Writes one codepoint and returns the number of its bytes. -/
def writeCodepoint (s : Sink ω) (cp : Nat) : Except SinkError Nat × Sink ω :=
  match encode cp with
  | .error e => (.error (.encode e), s)
  | .ok bytes =>
    match Writer.writeAll s.writer bytes with
    | (.error e, w) => (.error (.write e), { s with writer := w })
    | (.ok (), w) => (.ok bytes.length, ⟨w, s.written + bytes.length⟩)

/-- Writes items up to the first failure and returns the number of codepoints, `count` of which
were written before. -/
def writeItems (s : Sink ω) (count : Nat) : List Item → Except SinkError Nat × Sink ω
  | [] => (.ok count, s)
  | .error e :: _ => (.error (.decode e), s)
  | .codepoint cp :: items =>
    match s.writeCodepoint cp with
    | (.error e, s) => (.error e, s)
    | (.ok _, s) => s.writeItems (count + 1) items

/-- Decodes a text, writes its codepoints, and returns their number. -/
def writeText (s : Sink ω) (text : Bytes) : Except SinkError Nat × Sink ω :=
  s.writeItems 0 (items text)

/-- Writes a text and a line feed, which is not counted. -/
def writeLine (s : Sink ω) (text : Bytes) : Except SinkError Nat × Sink ω :=
  match s.writeText text with
  | (.error e, s) => (.error e, s)
  | (.ok count, s) =>
    match s.writeCodepoint lineFeed.toNat with
    | (.error e, s) => (.error e, s)
    | (.ok _, s) => (.ok count, s)

/-- Flushes the writer. -/
def flush (s : Sink ω) : Except SinkError Unit × Sink ω :=
  match Writer.flush s.writer with
  | (.error e, w) => (.error (.write e), { s with writer := w })
  | (.ok (), w) => (.ok (), { s with writer := w })

end Sink

end Utf8Text
