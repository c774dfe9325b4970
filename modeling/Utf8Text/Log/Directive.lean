import Utf8Text.Log.Threshold
import Utf8Text.Log.Value

/-!
# Directives

A directive gives a threshold to some events: to those whose origin has a name that begins with the
target, and that have what the directive asks for in brackets. It is written

    target[span{detail=value}]=threshold

where the target, the brackets with all that is in them, the value and the threshold can be left
out. A word alone is a threshold for all events if it can be read as one, and otherwise a target.
Without a threshold everything is let through.
-/

namespace Utf8Text.Log

/-- What a directive asks of an event besides its origin. -/
inductive Requirement where
  | nothing
  /-- A detail of that name. -/
  | detail (name : List Char)
  /-- A span around the event, or a value of a detail of such a span. Events stand alone here, so
  none meets it. -/
  | span
deriving DecidableEq

/-- A threshold for some events. -/
structure Directive where
  /-- The beginning of the names of the origins. -/
  target : List Char
  requirement : Requirement
  threshold : Threshold
deriving DecidableEq

/-! ## Meaning -/

/-- Whether an event meets a requirement. -/
def Requirement.isMetBy (r : Requirement) (e : Event) : Bool :=
  match r with
  | .nothing => true
  | .detail name => e.hasDetail name
  | .span => false

namespace Directive

/-- Whether a directive is about an event. -/
def concerns (d : Directive) (e : Event) : Bool :=
  d.target.isPrefixOf e.origin.name && d.requirement.isMetBy e

/-- How specific a directive is, in lexicographic order: a longer target comes before anything else,
then a detail that is asked for, whose name breaks ties. -/
def specificity (d : Directive) : List Nat :=
  d.target.length ::
    match d.requirement with
    | .detail name => name.map Char.toNat
    | _ => []

/-- The directive that gives a threshold to all events. -/
def forAll (t : Threshold) : Directive := ⟨[], .nothing, t⟩

/-! ## Reading -/

/-- The characters that a target can begin with. -/
def beginsTarget (c : Char) : Bool :=
  c = '-' || c = ':' || c = '_' || Display.isAlphanumeric c

/-- A text along its bytes: each character at its first byte, and nothing at the further ones. -/
def layOut (text : List Char) : List (Option Char) :=
  text.flatMap fun c => some c :: List.replicate (c.utf8Size - 1) none

/-- A byte of a directive: the character that tells what part of it stands there, and the character
that is taken for this part. The two are the same, unless there are blanks in front. -/
abbrev Place := Option Char × Option Char

/-- The characters that are taken for a part. -/
def taken (part : List Place) : List Char :=
  part.filterMap (·.2)

/-- What is asked for in the brackets of a span, by the name of the span and a detail: the first `=`
in the detail ends its name, and what is between it and the next one is a value. -/
def ofDetail? (name detail : List Char) : Option Requirement :=
  match splitOn '=' detail with
  | _ :: value :: _ => if Value.isValue value then some .span else none
  | _ => some (if name = [] then .detail detail else .span)

/-- Reads what is asked for in brackets, if there are any, and gives it with the rest. -/
def readRequirement? : List Place → Option (Requirement × List Place)
  | (some '[', _) :: places =>
    let (name, rest) := places.span fun p => p.1 != some ']' && p.1 != some '\x7b'
    match rest with
    | (some ']', _) :: rest => some (.span, rest)
    | _ :: rest =>
      let (detail, rest) := rest.span (·.1 != some '\x7d')
      match rest with
      | (some '\x7d', _) :: (some ']', _) :: rest =>
        if detail = [] then none else (ofDetail? (taken name) (taken detail)).map (·, rest)
      | _ => none
    | [] => none
  | places => some (.nothing, places)

/-- Reads a threshold behind `=`. -/
def readThreshold? (name : List Char) : Option Threshold :=
  if name = [] then some (.upTo .trace) else Threshold.read? name

/-- Reads a word that stands alone. -/
def ofWord (word : List Char) : Directive :=
  match Threshold.read? word with
  | some t => forAll t
  | none => ⟨word, .nothing, .upTo .trace⟩

/-- Reads a directive. Blanks around it do not tell where its parts are, but they count: the parts
are taken from the text with the blanks at the places that they have in the text without, so that
blanks in front shift all of them. The threshold goes on to the end of the text. -/
def read? (text : List Char) : Option Directive :=
  let body := layOut (Display.trim text)
  let places := body.zip (layOut text)
  match Display.trim text with
  | [] => none
  | c :: _ =>
    if c ≠ '[' && !beginsTarget c then none
    else
      match places.span fun p => p.1 != some '=' && p.1 != some '[' with
      | (_, []) => some (ofWord text)
      | (target, rest) =>
        match readRequirement? rest with
        | some (requirement, []) => some ⟨taken target, requirement, .upTo .trace⟩
        | some (requirement, (some '=', _) :: name) =>
          let behind := (layOut text).drop body.length
          (readThreshold? (taken name ++ behind.filterMap id)).map (⟨taken target, requirement, ·⟩)
        | _ => none

end Directive

end Utf8Text.Log
