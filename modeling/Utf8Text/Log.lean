import Utf8Text.Display.Blank
import Utf8Text.Split

/-!
# Log events

Events are recorded as data in the order in which they happen, each with the part of the program it
comes from. Where one happens it is decided whether it is written.
-/

namespace Utf8Text.Log

/-- How much an event matters, the most severe first. -/
inductive Level where
  | error
  | warn
  | info
  | debug
  | trace
deriving DecidableEq

/-- The place of a level in the order of severity. -/
def Level.rank : Level → Nat
  | .error => 0
  | .warn => 1
  | .info => 2
  | .debug => 3
  | .trace => 4

/-- The name of a level in front of a line. -/
def Level.label : Level → List Char
  | .error => "ERROR".toList
  | .warn => "WARN".toList
  | .info => "INFO".toList
  | .debug => "DEBUG".toList
  | .trace => "TRACE".toList

/-- A part of the program that events come from. -/
inductive Part where
  | program
  | input
  | print
  | listing
  | encoding
  | diagnostic
deriving DecidableEq

/-- The name by which a setting of the log refers to a part. -/
def Part.name : Part → List Char
  | .program => "hailtext".toList
  | .input => "hailtext::input".toList
  | .print => "hailtext::text_print".toList
  | .listing => "hailtext::text_codepoints".toList
  | .encoding => "hailtext::text_encode".toList
  | .diagnostic => "hailtext::diagnostic".toList

/-- Something that happened, with named details. -/
structure Event where
  origin : Part
  level : Level
  message : List Char
  details : List (String × List Char)

namespace Event

/-- Whether an event has a detail. The message counts as one. -/
def hasDetail (e : Event) (name : List Char) : Bool :=
  name = "message".toList || e.details.any fun detail => detail.1.toList = name

/-- What is written of an event: level, message, and the details as `name=value`. -/
def text (e : Event) : List Char :=
  e.level.label ++ ' ' :: e.message
    ++ e.details.flatMap fun detail => ' ' :: detail.1.toList ++ '=' :: detail.2

/-- The lines of an event: one, unless a detail has line breaks of its own. -/
def lines (e : Event) : List (List Char) :=
  splitOn '\n' e.text

/-- The line with the level, without blanks around it. -/
def heading (e : Event) : List Char :=
  Display.trim (e.lines.headD [])

/-- The further lines, each with its end. -/
def continuation (e : Event) : List Char :=
  e.lines.tail.flatMap (· ++ ['\n'])

end Event

/-- What is written of an event that happens, where `writes` says which events are. -/
def raise (writes : Event → Bool) (e : Event) : List Event :=
  if writes e then [e] else []

end Utf8Text.Log
