import Utf8Text.Log.Filter

/-!
# What is written of the log

A subscriber reads settings and tells for each event whether it is written. The program asks it for
the setting in its environment, and otherwise for a level by the number of requests to say more.
-/

namespace Utf8Text.Log

/-- Something that chooses the events to write. -/
structure Subscriber where
  /-- The choice of a setting, if the setting makes sense. -/
  read? : String → Option (Event → Bool)
  /-- The choice of a setting, without what makes no sense in it. -/
  ofPieces : String → Event → Bool

namespace Subscriber

/-- The level for a number of requests to say more. -/
def defaultLevel : Nat → String
  | 0 => "warn"
  | 1 => "info"
  | 2 => "debug"
  | _ => "trace"

/-- The choice in force: that of the setting if there is one that makes sense, else that of the
requests to say more. -/
def inForce (subscriber : Subscriber) (setting? : Option String) (verbosity : Nat) : Event → Bool :=
  (setting?.bind subscriber.read?).getD (subscriber.ofPieces (defaultLevel verbosity))

/-- The subscriber that reads settings as directives. -/
def standard : Subscriber where
  read? setting := (Filter.ofSetting? setting.toList).map Filter.passes
  ofPieces setting := (Filter.ofPieces setting.toList).passes

end Subscriber

end Utf8Text.Log
