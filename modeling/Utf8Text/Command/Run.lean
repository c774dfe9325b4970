import Utf8Text.Encoding
import Utf8Text.Print

/-!
# Running a command

A command that reads a text gets it from its source. What the log has to say of the source comes
before what it has to say of the command.
-/

namespace Utf8Text

/-- What a run finds around it. -/
structure Surroundings where
  /-- The bytes of a source, if it can be read. -/
  contents : Source → Except ReadError Bytes
  /-- Where the standard output goes. -/
  device : Device
  /-- Whether the standard error stream is a terminal. -/
  terminal : Bool

/-- What a command of a run writes to. -/
def Surroundings.console (s : Surroundings) (writes : Log.Event → Bool) : Console :=
  ⟨s.device, s.terminal, writes⟩

namespace Command

/-- The source that a command reads. -/
def source? : Command → Option Source
  | .print o => some (.ofPath? o.file?)
  | .list o => some (.ofPath? o.file?)
  | .encode _ => none

/-- Reads a source and goes on with the input. -/
def withInput (s : Surroundings) (source : Source) (c : Console) (use : Input → Console → Outcome) :
    Outcome :=
  match s.contents source with
  | .error e => Outcome.failed (.read source e)
  | .ok raw =>
    let input := Input.ofBytes source raw
    (use input c).after (input.events c.writes)

/-- Carries a command out, with a way to write objects and a choice of the events to write. -/
def run (json : Json.Serializer) (writes : Log.Event → Bool) (s : Surroundings) :
    Command → Outcome
  | .print o => withInput s (.ofPath? o.file?) (s.console writes) (Print.printInput o)
  | .list o => withInput s (.ofPath? o.file?) (s.console writes) (Listing.listInput json o)
  | .encode o => Encoding.encodeAll o (s.console writes)

end Command

end Utf8Text
