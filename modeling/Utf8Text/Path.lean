import Utf8Text.Display.Lossy
import Utf8Text.Display.Quoted
import Utf8Text.Split

/-!
# Paths

A path is what the system takes for one: bytes, which need not be UTF-8. Only a message makes text
of it.
-/

namespace Utf8Text

/-- The name of a file, with the names of directories in front. -/
structure Path where
  bytes : Bytes
deriving DecidableEq

namespace Path

/-- The path of a text. -/
instance : Coe String Path := ⟨fun text => ⟨utf8 text.toList⟩⟩

/-- A path for people to read. -/
def text (path : Path) : List Char :=
  Display.lossy path.bytes

/-- The written form of a path between quotes. -/
def debugText (path : Path) : List Char :=
  Display.quoted path.bytes

/-- Whether a path names the standard input: a hyphen, perhaps with slashes and dots behind it that
do not lead anywhere. -/
def isHyphen (path : Path) : Bool :=
  match splitOn 0x2F path.bytes with
  | [0x2D] :: segments => segments.all fun segment => segment = [] || segment = [0x2E]
  | _ => false

end Path

end Utf8Text
