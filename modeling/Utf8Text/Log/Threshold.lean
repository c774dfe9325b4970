import Utf8Text.Log
import Utf8Text.Numeral

/-!
# Thresholds

How severe an event has to be in order to be written.
-/

namespace Utf8Text.Log

/-- The least severe level that is written; without one, nothing is. -/
structure Threshold where
  least? : Option Level
deriving DecidableEq

namespace Threshold

/-- Lets nothing through. -/
def off : Threshold := ⟨none⟩

/-- Lets a level and all that is more severe through. -/
def upTo (level : Level) : Threshold := ⟨some level⟩

/-- Whether events of a level are written. -/
def admits (t : Threshold) (level : Level) : Bool :=
  t.least?.any fun least => level.rank ≤ least.rank

/-- The thresholds with their names, from the narrowest to the widest. -/
def all : List (String × Threshold) :=
  [("off", off), ("error", upTo .error), ("warn", upTo .warn), ("info", upTo .info),
    ("debug", upTo .debug), ("trace", upTo .trace)]

/-- The threshold of a name, in letters of either case, or of its place among all of them. -/
def read? (text : List Char) : Option Threshold :=
  match Numeral.unsigned? 10 text with
  | some place => all[place]?.map (·.2)
  | none => all.lookup (String.ofList (text.map Char.toLower))

end Threshold

end Utf8Text.Log
