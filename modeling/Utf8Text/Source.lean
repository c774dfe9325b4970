import Utf8Text.Buffer
import Utf8Text.Log
import Utf8Text.Numeral
import Utf8Text.Path

/-!
# Where text comes from

A source is the standard input or a file. The bytes read from it make a text that ends before the
first NUL; what comes after that is only reported to the log.
-/

namespace Utf8Text

/-- Why a source could not be read. -/
inductive ReadError where
  | notFound
  | isDirectory
  | notDirectory
  /-- The path, or a name in it, is longer than the system allows. -/
  | nameTooLong
  /-- A path with a NUL in it cannot be handed to the system. -/
  | nulInName
  /-- A failure of another kind, in the words of the system. -/
  | other (description : String)
deriving DecidableEq

/-- The wording of a failure. -/
def ReadError.message : ReadError → List Char
  | .notFound => "No such file or directory (os error 2)".toList
  | .isDirectory => "Is a directory (os error 21)".toList
  | .notDirectory => "Not a directory (os error 20)".toList
  | .nameTooLong => "File name too long (os error 36)".toList
  | .nulInName => "file name contained an unexpected NUL byte".toList
  | .other description => description.toList

/-- Something that text is read from. -/
inductive Source where
  | standardInput
  | file (path : Path)
deriving DecidableEq

namespace Source

/-- The source of a command: standard input unless a file is named. -/
def ofPath? : Option Path → Source
  | none => .standardInput
  | some path => if path.isHyphen then .standardInput else .file path

/-- The name of a source in messages. -/
def name : Source → List Char
  | .standardInput => "<stdin>".toList
  | .file path => path.text

/-- The wording of what was tried when a source could not be read. -/
def readFailure : Source → List Char
  | .standardInput => "failed to read from stdin".toList
  | .file path => "failed to read ".toList ++ path.text

end Source

/-- A text read for a command. -/
structure Input where
  source : Source
  /-- The number of bytes read, those behind a NUL included. -/
  rawSize : Nat
  text : Buffer

namespace Input

/-- The text in some bytes read. -/
def ofBytes (source : Source) (raw : Bytes) : Input :=
  ⟨source, raw.length, .ownBeforeNul raw⟩

/-- The name of an input in messages. -/
def name (input : Input) : List Char :=
  input.source.name

/-- What the log says of an input: that it was read, and what of it is ignored. -/
def events (writes : Log.Event → Bool) (input : Input) : List Log.Event :=
  Log.raise writes
      ⟨.input, .debug, "loaded input".toList,
        [("input", input.name), ("bytes", Numeral.decimal input.rawSize)]⟩
    ++ if input.text.size < input.rawSize then
        Log.raise writes
          ⟨.input, .warn, "input contains a NUL byte; ignoring the rest".toList,
            [("input", input.name),
              ("offset", Numeral.decimal input.text.size),
              ("ignored", Numeral.decimal (input.rawSize - input.text.size))]⟩
      else []

end Input

end Utf8Text
