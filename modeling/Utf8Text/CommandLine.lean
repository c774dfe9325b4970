import Utf8Text.CodepointArgument
import Utf8Text.Program

/-!
# The command line

A command line is: requests to say more, the name of a command, and the arguments of that command.
An argument that starts with a hyphen is a flag unless it is the hyphen alone or comes after `--`.
Short flags can be joined. Every flag may stand once, save the request to say more. Whatever does
not fit makes the whole command line wrong.
-/

namespace Utf8Text.CommandLine

/-! ## Flags -/

/-- The names of the commands. -/
inductive CommandName where
  | print
  | codepoints
  | encode
deriving DecidableEq

/-- The flags that stand by themselves. -/
inductive Flag where
  | verbose
  | noNewline
  | quiet
  | color
  | noColor
  | raw
deriving DecidableEq

/-- The letter of a flag. -/
def Flag.short? : Flag → Option Char
  | .verbose => some 'v'
  | .noNewline => some 'n'
  | .quiet => some 'q'
  | .color => some 'C'
  | .noColor => some 'M'
  | .raw => none

/-- The long name of a flag. -/
def Flag.long : Flag → List Char
  | .verbose => "verbose".toList
  | .noNewline => "no-newline".toList
  | .quiet => "quiet".toList
  | .color => "color".toList
  | .noColor => "no-color".toList
  | .raw => "raw".toList

/-- The command of a name. -/
def CommandName.ofText? : String → Option CommandName
  | "print" => some .print
  | "codepoints" => some .codepoints
  | "encode" => some .encode
  | _ => none

/-- The flags that a command knows. -/
def CommandName.flags : CommandName → List Flag
  | .print => [.verbose, .noNewline, .quiet, .color, .noColor]
  | .codepoints => [.verbose, .quiet, .color, .noColor]
  | .encode => [.verbose, .raw]

/-- Whether a command takes a format. -/
def CommandName.takesFormat (name : CommandName) : Bool :=
  name = .codepoints

/-- The flag of a letter. -/
def CommandName.shortFlag? (name : CommandName) (letter : Char) : Option Flag :=
  name.flags.find? (·.short? = some letter)

/-- The flag of a long name. -/
def CommandName.longFlag? (name : CommandName) (long : List Char) : Option Flag :=
  name.flags.find? (·.long = long)

/-- The format of a name. -/
def format? (name : List Char) : Option ListingFormat :=
  if name = "text".toList then some .text
  else if name = "json".toList then some .json
  else none

/-! ## Tokens -/

/-- What an argument says. -/
inductive Token where
  | flag (f : Flag)
  | format (f : ListingFormat)
  | positional (argument : String)
deriving DecidableEq

/-- What is read off an argument: its tokens, and whether the next argument is a format. -/
structure Reading where
  tokens : List Token
  awaitsFormat : Bool

/-- A reading with one more flag in front. -/
def Reading.push (f : Flag) (r : Reading) : Reading :=
  { r with tokens := .flag f :: r.tokens }

/-- Reads joined short flags. The format takes the rest of them, behind an optional equals sign. -/
def readShort (name : CommandName) : List Char → Option Reading
  | [] => some ⟨[], false⟩
  | letter :: rest =>
    if letter = 'f' ∧ name.takesFormat then
      match rest with
      | [] => some ⟨[], true⟩
      | '=' :: value => (format? value).map fun f => ⟨[.format f], false⟩
      | value => (format? value).map fun f => ⟨[.format f], false⟩
    else
      match name.shortFlag? letter with
      | some flag => (readShort name rest).map (·.push flag)
      | none => none

/-- Reads a long flag. Only the format has a value. -/
def readLong (name : CommandName) (chars : List Char) : Option Reading :=
  let long := chars.takeWhile (· ≠ '=')
  if long = "format".toList ∧ name.takesFormat then
    match chars.dropWhile (· ≠ '=') with
    | [] => some ⟨[], true⟩
    | _ :: value => (format? value).map fun f => ⟨[.format f], false⟩
  else (name.longFlag? chars).map fun flag => ⟨[.flag flag], false⟩

/-- Reads one argument. -/
def readArgument (name : CommandName) (argument : String) : Option Reading :=
  match argument.toList with
  | '-' :: '-' :: long => readLong name long
  | '-' :: letter :: letters => readShort name (letter :: letters)
  | _ => some ⟨[.positional argument], false⟩

/-- Reads the arguments of a command. `awaitsFormat` says whether the first one is a format. -/
def readArguments (name : CommandName) : (awaitsFormat : Bool) → List String → Option (List Token)
  | true, [] => none
  | true, value :: rest =>
    match format? value.toList, readArguments name false rest with
    | some f, some tokens => some (.format f :: tokens)
    | _, _ => none
  | false, [] => some []
  | false, argument :: rest =>
    if argument = "--" then some (rest.map .positional)
    else
      match readArgument name argument with
      | none => none
      | some reading =>
        (readArguments name reading.awaitsFormat rest).map (reading.tokens ++ ·)

/-! ## Commands -/

/-- How often a flag is given. -/
def countFlag (f : Flag) (tokens : List Token) : Nat :=
  tokens.count (.flag f)

/-- The formats given. -/
def formats (tokens : List Token) : List ListingFormat :=
  tokens.filterMap fun
    | .format f => some f
    | _ => none

/-- The arguments that are no flags. -/
def positionals (tokens : List Token) : List String :=
  tokens.filterMap fun
    | .positional argument => some argument
    | _ => none

/-- Whether nothing is given more often than it may be. -/
def noRepeats (name : CommandName) (tokens : List Token) : Bool :=
  name.flags.all (fun f => f = .verbose || countFlag f tokens ≤ 1) && (formats tokens).length ≤ 1

/-- Whether a flag is given. -/
def isGiven (f : Flag) (tokens : List Token) : Bool :=
  countFlag f tokens > 0

/-- The report options given. -/
def reportOptions (tokens : List Token) : ReportOptions :=
  ⟨isGiven .quiet tokens, isGiven .color tokens, isGiven .noColor tokens⟩

/-- At most one file, with a name. -/
def file? (tokens : List Token) : Option (Option Path) :=
  match positionals tokens with
  | [] => some none
  | [path] => if path = "" then none else some (some (path : Path))
  | _ => none

/-- All arguments as codepoints. -/
def codepoints? : List String → Option (List Nat)
  | [] => some []
  | argument :: rest =>
    match CodepointArgument.read argument.toList, codepoints? rest with
    | .ok cp, some cps => some (cp :: cps)
    | _, _ => none

/-- The command that tokens ask for. -/
def command? (name : CommandName) (tokens : List Token) : Option Command :=
  match name with
  | .print =>
    (file? tokens).map fun file? =>
      .print ⟨file?, isGiven .noNewline tokens, reportOptions tokens⟩
  | .codepoints =>
    (file? tokens).map fun file? =>
      .list ⟨file?, (formats tokens).headD .text, reportOptions tokens⟩
  | .encode =>
    match positionals tokens with
    | [] => none
    | arguments =>
      (codepoints? arguments).map fun cps => .encode ⟨cps, isGiven .raw tokens⟩

/-! ## Command lines -/

/-- How often an argument in front of the command asks to say more; none if it asks for something
else. -/
def verboseCount? (argument : String) : Option Nat :=
  match argument.toList with
  | '-' :: 'v' :: letters => if letters.all (· = 'v') then some (letters.length + 1) else none
  | '-' :: '-' :: long => if long = Flag.verbose.long then some 1 else none
  | _ => none

/-- Reads a command line, where `verbosity` requests to say more stand in front. Such requests
behind the name of the command, if there are any, count instead of those in front. -/
def parseAfter (verbosity : Nat) : List String → Option Invocation
  | [] => none
  | argument :: rest =>
    match verboseCount? argument with
    | some n => parseAfter (verbosity + n) rest
    | none =>
      match CommandName.ofText? argument with
      | none => none
      | some name =>
        match readArguments name false rest with
        | none => none
        | some tokens =>
          if noRepeats name tokens then
            let later := countFlag .verbose tokens
            (command? name tokens).map fun command =>
              ⟨if later = 0 then verbosity else later, command⟩
          else none

/-- What a command line that is accepted starts with: a request to say more, or the name
of a command with arguments that it takes. -/
theorem parseAfter_cons_eq_some_iff {verbosity : Nat} {argument : String} {rest : List String}
    {i : Invocation} :
    parseAfter verbosity (argument :: rest) = some i
      ↔ (∃ n, verboseCount? argument = some n ∧ parseAfter (verbosity + n) rest = some i)
        ∨ verboseCount? argument = none
          ∧ ∃ name tokens command, CommandName.ofText? argument = some name
            ∧ readArguments name false rest = some tokens ∧ noRepeats name tokens = true
            ∧ command? name tokens = some command
            ∧ i = ⟨if countFlag .verbose tokens = 0 then verbosity
                else countFlag .verbose tokens, command⟩ := by
  rw [parseAfter]
  constructor
  · intro h
    split at h
    · exact .inl ⟨_, ‹_›, h⟩
    · split at h
      · cases h
      · split at h
        · cases h
        · split at h
          · obtain ⟨command, hcommand, rfl⟩ := Option.map_eq_some_iff.mp h
            exact .inr ⟨‹_›, _, _, command, ‹_›, ‹_›, ‹_›, hcommand, rfl⟩
          · cases h
  · rintro (⟨n, hcount, h⟩ | ⟨hcount, name, tokens, command, hname, htokens, hrepeats, hcommand,
      rfl⟩)
    · simp only [hcount, h]
    · simp only [hcount, hname, htokens, hrepeats, hcommand, if_true, Option.map_some]

/-- Reads a command line; none if it is wrong. -/
def parse (arguments : List String) : Option Invocation :=
  parseAfter 0 arguments

end Utf8Text.CommandLine
