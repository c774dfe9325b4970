import Utf8Text.Sink

/-!
# Scripts over a sink

Any sequence of writes and flushes on one sink. A step that fails does not end the script; the
steps after it go on with the sink as the failure left it.
-/

namespace Utf8Text.Sink

variable {ω : Type} [Writer ω]

/-- One step of a script. -/
inductive Step where
  | codepoint (cp : Nat)
  | text (bytes : Bytes)
  | line (bytes : Bytes)
  | flush

/-- What a step reports: a number where there is one to report, or the failure, and the count of
bytes written so far. -/
structure Answer where
  result : Except SinkError (Option Nat)
  written : Nat

/-- Performs one step. -/
def step (s : Sink ω) : Step → Except SinkError (Option Nat) × Sink ω
  | .codepoint cp =>
    let (result, s) := s.writeCodepoint cp
    (result.map some, s)
  | .text bytes =>
    let (result, s) := s.writeText bytes
    (result.map some, s)
  | .line bytes =>
    let (result, s) := s.writeLine bytes
    (result.map some, s)
  | .flush =>
    let (result, s) := s.flush
    (result.map fun _ => none, s)

/-- Performs the steps in order and collects their answers. -/
def run : Sink ω → List Step → List Answer × Sink ω
  | s, [] => ([], s)
  | s, one :: steps =>
    let (result, s) := s.step one
    let (answers, last) := s.run steps
    (⟨result, s.written⟩ :: answers, last)

end Utf8Text.Sink
