import Utf8Text.Command.Run
import Utf8Text.Log.Subscriber

/-!
# The program

An invocation is a command with a wish for more or less log. Its run is the run of the command; the
program adds the wording of a failure and turns the result into an exit code. What the program takes
from elsewhere, the writing of objects and the choice of events, is a parameter of its runs.
-/

namespace Utf8Text

/-- What is asked of the program. -/
structure Invocation where
  /-- How often it was asked to say more. -/
  verbosity : Nat
  command : Command

/-- What the system sees of a run. -/
structure ProgramResult where
  exitCode : Nat
  stdout : Bytes
  /-- The standard error stream without the log. -/
  stderr : List Char
  log : List Log.Event

/-- What the program does not do itself. -/
structure Libraries where
  json : Json.Serializer
  log : Log.Subscriber

/-- The libraries that the program runs with. -/
def Libraries.standard : Libraries :=
  ⟨Json.compact, Log.Subscriber.standard⟩

namespace Invocation

/-- The event with which the log of a run begins. -/
def startEvent (i : Invocation) : Log.Event :=
  ⟨.program, .debug, "starting".toList, [("command", i.command.debugText)]⟩

/-- The exit code of a result, and what is added to the standard error stream. -/
def conclude : Except Failure ExitCode → ExitCode × List Char
  | .ok code => (code, [])
  | .error f =>
    if f.isIo then (.ioFailure, "error: ".toList ++ f.message ++ ['\n'])
    else (.invalid, "Error: ".toList ++ f.account ++ ['\n'])

/-- What happens in a run before its result is turned into an exit code. -/
def outcome (i : Invocation) (json : Json.Serializer) (writes : Log.Event → Bool)
    (s : Surroundings) : Outcome :=
  (i.command.run json writes s).after (Log.raise writes i.startEvent)

/-- Everything that happens in a run with some libraries: all events are written. -/
abbrev traceWith (libraries : Libraries) (i : Invocation) (s : Surroundings) : Outcome :=
  i.outcome libraries.json (fun _ => true) s

/-- Everything that happens in a run. -/
abbrev trace (i : Invocation) (s : Surroundings) : Outcome :=
  i.traceWith .standard s

/-- Runs the program with some libraries. `setting?` is the setting of the log in the
environment. -/
def runWith (libraries : Libraries) (i : Invocation) (setting? : Option String)
    (s : Surroundings) : ProgramResult :=
  let outcome := i.outcome libraries.json (libraries.log.inForce setting? i.verbosity) s
  let (code, added) := conclude outcome.result
  { exitCode := code.number
    stdout := outcome.stdout
    stderr := outcome.stderr ++ added
    log := outcome.events }

/-- Runs the program. -/
abbrev run (i : Invocation) (setting? : Option String) (s : Surroundings) : ProgramResult :=
  i.runWith .standard setting? s

end Invocation

end Utf8Text
