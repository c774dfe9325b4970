import Utf8Text.Command
import Utf8Text.Diagnostic.Report
import Utf8Text.Sink
import Utf8Text.Source
import Utf8Text.Writer.LineBuffered

/-!
# What a command comes to

A command either runs to its end, with an exit code, or fails. In both cases it may have written to
the standard output and to the standard error stream, and left events in the log.
-/

namespace Utf8Text

/-- How a command that ran to its end exits. -/
inductive ExitCode where
  | success
  /-- The input could not be decoded, or a codepoint not be encoded. -/
  | invalid
  /-- Reading or writing failed. -/
  | ioFailure
deriving DecidableEq

/-- The number that the system sees. -/
def ExitCode.number : ExitCode → Nat
  | .success => 0
  | .invalid => 1
  | .ioFailure => 2

/-- What a command writes to. -/
structure Console where
  /-- Where the standard output goes. -/
  device : Device
  /-- Whether the standard error stream is a terminal. -/
  terminal : Bool
  /-- Which events are written to the log. -/
  writes : Log.Event → Bool

/-! ## Failures -/

/-- What lies behind a failure: an error of a certain kind, or words put around one. -/
inductive Cause where
  | context (text : List Char)
  /-- The system refused to read. -/
  | read (e : ReadError)
  /-- The system refused to write. -/
  | write (e : WriteError)
  | sink (e : SinkError)
  | decode (e : DecodeError)
  | encode (e : EncodeError)
  /-- An object could not be written. The error that stopped it is no cause of its own. -/
  | json (e : WriteError)
deriving DecidableEq

namespace Cause

/-- The wording of a cause. -/
def message : Cause → List Char
  | .context text => text
  | .read e => e.message
  | .write e => e.message
  | .sink e => e.message
  | .decode e => e.message
  | .encode e => e.message
  | .json e => e.message

/-- Whether a cause is an error of reading or writing. -/
def isIo : Cause → Bool
  | .read _ => true
  | .write _ => true
  | _ => false

/-- What lies behind the failure of a sink. -/
def ofSink : SinkError → Cause
  | .decode e => .decode e
  | .encode e => .encode e
  | .write e => .write e

end Cause

/-- Why a command did not run to its end. -/
inductive Failure where
  /-- A source could not be read. -/
  | read (source : Source) (e : ReadError)
  /-- A codepoint could not be brought to the standard output. -/
  | sink (e : SinkError)
  /-- A codepoint could not be encoded for a listing. -/
  | encoding (e : EncodeError)
  /-- The standard output failed while a line of encodings was written. -/
  | listing (e : WriteError)
  /-- The standard output failed while the object of a record was written. -/
  | json (e : WriteError)
  /-- The standard output failed otherwise. -/
  | output (e : WriteError)
deriving DecidableEq

namespace Failure

/-- A failure and what lies behind it, the outermost first. -/
def chain : Failure → List Cause
  | .read source e => [.context source.readFailure, .read e]
  | .sink e => [.sink e, .ofSink e]
  | .encoding e => [.encode e]
  | .listing e => [.context "failed to write to stdout".toList, .write e]
  | .json e => [.json e]
  | .output e => [.write e]

/-- Whether there is an error of reading or writing behind a failure. -/
def isIo (f : Failure) : Bool :=
  f.chain.any Cause.isIo

/-- The wording of a failure with all its causes, on one line. -/
def message (f : Failure) : List Char :=
  ": ".toList.intercalate (f.chain.map Cause.message)

/-- The wording of a failure, with what lies behind it on further lines. -/
def account (f : Failure) : List Char :=
  match f.chain.map Cause.message with
  | [] => []
  | [outermost] => outermost
  | outermost :: behind =>
    outermost ++ "\n\nCaused by:".toList ++ behind.flatMap ("\n    ".toList ++ ·)

end Failure

/-! ## Outcomes -/

/-- What a command comes to. -/
structure Outcome where
  result : Except Failure ExitCode
  /-- The bytes that reach the device behind the standard output. -/
  stdout : Bytes
  stderr : List Char
  events : List Log.Event

namespace Outcome

/-- A command that fails before it writes anything. -/
def failed (f : Failure) : Outcome :=
  ⟨.error f, [], [], []⟩

/-- The same with earlier events in front. -/
def after (events : List Log.Event) (o : Outcome) : Outcome :=
  { o with events := events ++ o.events }

end Outcome

/-! ## Reporting a decode error -/

/-- The event of quoting a line that is too wide to be shown whole. -/
def wideLineEvents (writes : Log.Event → Bool) (text : Bytes) (offset : Nat) : List Log.Event :=
  let line := Diagnostic.DisplayedLine.ofOffset text offset
  if line.isWide then
    Log.raise writes
      ⟨.diagnostic, .trace, "truncating long line".toList,
        [("column", Numeral.decimal (Diagnostic.Position.ofOffset text offset).column),
          ("chars", Numeral.decimal line.characters.length)]⟩
  else []

/-- The report of a decode error in an input, unless none is wanted, and its events. -/
def reportError (o : ReportOptions) (input : Input) (c : Console) (e : DecodeError) :
    List Char × List Log.Event :=
  if o.quiet then ([], [])
  else
    (Diagnostic.report (.ofChoice (o.colored c.terminal)) e input.text.bytes input.name,
      wideLineEvents c.writes input.text.bytes e.offset)

end Utf8Text
