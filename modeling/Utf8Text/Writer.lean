import Utf8Text.Codec

/-!
# Writers

A writer takes bytes and may fail. What it has taken before a failure stays taken, so every
operation returns the writer as it is afterwards, beside the outcome.
-/

namespace Utf8Text

/-- Why a writer failed. -/
inductive WriteError where
  /-- The writer took nothing of a non-empty request. -/
  | writeZero
  /-- The writer takes no more bytes. -/
  | closed
  /-- The writer does not flush. -/
  | flushRefused
  /-- The device behind the writer is full. -/
  | noSpace
deriving DecidableEq

/-- The wording of a failure. -/
def WriteError.message : WriteError → List Char
  | .writeZero => "failed to write whole buffer".toList
  | .closed => "closed".toList
  | .flushRefused => "flush refused".toList
  | .noSpace => "No space left on device (os error 28)".toList

/-- What an operation on a writer comes to, and the writer after it. -/
abbrev Written (ω : Type) := Except WriteError Unit × ω

/-- Goes on with a second operation if the first one succeeded. -/
def Written.andThen {ω : Type} (first : Written ω) (second : ω → Written ω) : Written ω :=
  match first with
  | (.ok (), w) => second w
  | (.error e, w) => (.error e, w)

/-- Something that takes bytes. -/
class Writer (ω : Type) where
  /-- Takes all the bytes, or fails after some of them. -/
  writeAll : ω → Bytes → Written ω
  /-- Passes on whatever is held back. -/
  flush : ω → Written ω

end Utf8Text
