import Utf8Text.Numeral
import Utf8Text.Path

/-!
# Commands and their options

What a run is asked to do: print a text, list its codepoints, or encode codepoints.
-/

namespace Utf8Text

/-- How decode errors are reported. -/
structure ReportOptions where
  /-- No report at all. -/
  quiet : Bool
  color : Bool
  /-- Wins over `color`. -/
  noColor : Bool
deriving DecidableEq

/-- Whether reports are coloured. Without a wish they are on a terminal. -/
def ReportOptions.colored (o : ReportOptions) (terminal : Bool) : Bool :=
  if o.noColor then false
  else if o.color then true
  else terminal

/-- Options for printing a text. -/
structure PrintOptions where
  file? : Option Path
  noNewline : Bool
  report : ReportOptions
deriving DecidableEq

/-- How codepoints are listed. -/
inductive ListingFormat where
  /-- One aligned line per codepoint. -/
  | text
  /-- One JSON object per line. -/
  | json
deriving DecidableEq

/-- Options for listing the codepoints of a text. -/
structure ListOptions where
  file? : Option Path
  format : ListingFormat
  report : ReportOptions
deriving DecidableEq

/-- Options for encoding codepoints. -/
structure EncodeOptions where
  codepoints : List Nat
  /-- Write the bytes themselves instead of a listing. -/
  raw : Bool
deriving DecidableEq

/-- What a run does. -/
inductive Command where
  | print (options : PrintOptions)
  | list (options : ListOptions)
  | encode (options : EncodeOptions)
deriving DecidableEq

/-! ## Commands in the log -/

namespace Command

/-- The written form of a truth value. -/
def boolText (b : Bool) : List Char :=
  if b then "true".toList else "false".toList

/-- The written form of a record: its name, and its fields in braces. -/
def recordText (name : String) (fields : List (String × List Char)) : List Char :=
  name.toList ++ " \x7b ".toList
    ++ ", ".toList.intercalate (fields.map fun field => field.1.toList ++ ": ".toList ++ field.2)
    ++ " \x7d".toList

/-- The written form of an optional path. -/
def pathText : Option Path → List Char
  | none => "None".toList
  | some path => "Some(".toList ++ path.debugText ++ ")".toList

/-- The written form of the report options. -/
def reportFields (o : ReportOptions) : List (String × List Char) :=
  [("quiet", boolText o.quiet), ("color", boolText o.color), ("no_color", boolText o.noColor)]

/-- The written form of a listing format. -/
def formatText : ListingFormat → List Char
  | .text => "Text".toList
  | .json => "Json".toList

/-- The written form of a list of numbers. -/
def numbersText (ns : List Nat) : List Char :=
  '[' :: ", ".toList.intercalate (ns.map Numeral.decimal) ++ [']']

/-- The written form of a command. -/
def debugText : Command → List Char
  | .print o =>
    "Print(".toList
      ++ recordText "PrintArgs"
        ([("file", pathText o.file?), ("no_newline", boolText o.noNewline)]
          ++ reportFields o.report)
      ++ ")".toList
  | .list o =>
    "Codepoints(".toList
      ++ recordText "CodepointsArgs"
        ([("file", pathText o.file?), ("format", formatText o.format)] ++ reportFields o.report)
      ++ ")".toList
  | .encode o =>
    "Encode(".toList
      ++ recordText "EncodeArgs"
        [("codepoints", numbersText o.codepoints), ("raw", boolText o.raw)]
      ++ ")".toList

end Command

end Utf8Text
