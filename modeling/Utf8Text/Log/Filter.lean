import Utf8Text.Log.Directive

/-!
# Filters

A filter is a list of directives. About an event decides the most specific directive that is about
it, and the last one of several that are equally specific; an event without one is not written.
-/

namespace Utf8Text.Log

/-- What is written of the log. -/
structure Filter where
  directives : List Directive

namespace Filter

/-- Of a directive chosen so far and a further one, the more specific; of equals the further one. -/
def choose (chosen? : Option Directive) (d : Directive) : Option Directive :=
  match chosen? with
  | some chosen => if d.specificity < chosen.specificity then some chosen else some d
  | none => some d

/-- The directives about an event. -/
def about (f : Filter) (e : Event) : List Directive :=
  f.directives.filter (·.concerns e)

/-- The directive that decides about an event. -/
def decisive? (f : Filter) (e : Event) : Option Directive :=
  (f.about e).foldl choose none

/-- Whether an event is written. -/
def passes (f : Filter) (e : Event) : Bool :=
  (f.decisive? e).any (·.threshold.admits e.level)

/-! ## Where filters come from -/

/-- One threshold for all events. -/
def upTo (level : Level) : Filter := ⟨[.forAll (.upTo level)]⟩

/-- The filter of directives. Without any, errors are let through. -/
def ofDirectives : List Directive → Filter
  | [] => upTo .error
  | directives => ⟨directives⟩

/-- The pieces of a setting: what stands between its commas, if anything does. -/
def pieces (setting : List Char) : List (List Char) :=
  (splitOn ',' setting).filter (· ≠ [])

/-- The filter of a setting all of whose pieces make sense. -/
def ofSetting? (setting : List Char) : Option Filter :=
  ((pieces setting).mapM Directive.read?).map ofDirectives

/-- The filter of a setting, without the pieces that make no sense. -/
def ofPieces (setting : List Char) : Filter :=
  ofDirectives ((pieces setting).filterMap Directive.read?)

end Filter

end Utf8Text.Log
