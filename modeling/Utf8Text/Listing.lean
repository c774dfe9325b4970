import Utf8Text.Json
import Utf8Text.Outcome

/-!
# Listing the codepoints of a text

Every sequence of a text has one line: its offset, its length and its codepoint, with the character
where there is one to show. How objects are written is given by a serializer.
-/

namespace Utf8Text.Listing

/-- The character of a codepoint, if it is a Unicode scalar value. -/
def scalar? (cp : Nat) : Option Char :=
  if cp.isValidChar then some (.ofNat cp) else none

/-- The control characters: U+0000 to U+001F and U+007F to U+009F. -/
def isControl (c : Char) : Bool :=
  c.toNat ≤ 0x1F || (0x7F ≤ c.toNat && c.toNat ≤ 0x9F)

/-- What is listed of a sequence. -/
structure Record where
  offset : Nat
  length : Nat
  codepoint : Nat
  char? : Option Char

/-- The record of a sequence. -/
def Record.ofSequence (s : Sequence) : Record :=
  ⟨s.offset, s.length, s.codepoint, scalar? s.codepoint⟩

/-! ## Aligned lines -/

/-- How the character of a record is shown at the end of a line: as it is, or as a hyphen. -/
def Record.shown (r : Record) : List Char :=
  match r.char? with
  | some c => if isControl c then ['-'] else [c]
  | none => ['-']

/-- The name of a codepoint: `U+` and at least four hexadecimal digits. -/
def codepointName (cp : Nat) : List Char :=
  "U+".toList ++ Numeral.hexPadded 4 cp

/-- The line of a record in aligned columns. -/
def Record.text (r : Record) : List Char :=
  (Numeral.decimal r.offset).leftpad 8 ' ' ++ "  ".toList ++ Numeral.decimal r.length
    ++ "  ".toList ++ codepointName r.codepoint ++ "  ".toList ++ r.shown

/-! ## Objects -/

/-- The members of the object of a record. Without a character there is none for it. -/
def Record.members (r : Record) : List Json.Member :=
  [("offset".toList, .number r.offset), ("len".toList, .number r.length),
    ("codepoint".toList, .number r.codepoint)]
    ++ r.char?.toList.map fun c => ("char".toList, .string [c])

/-- Makes the requests of an object up to the first failure. -/
def writePieces (w : LineBuffered) : List Bytes → Written LineBuffered
  | [] => (.ok (), w)
  | piece :: pieces => (w.writeAll piece).andThen fun w => writePieces w pieces

/-! ## The command -/

/-- Writes the line of a record. -/
def writeRecord (json : Json.Serializer) (format : ListingFormat) (w : LineBuffered) (r : Record) :
    Except Failure Unit × LineBuffered :=
  match format with
  | .text =>
    match w.writeAll (utf8 (r.text ++ ['\n'])) with
    | (.error e, w) => (.error (.output e), w)
    | (.ok (), w) => (.ok (), w)
  | .json =>
    match writePieces w (json r.members) with
    | (.error e, w) => (.error (.json e), w)
    | (.ok (), w) =>
      match w.writeAll [lineFeed] with
      | (.error e, w) => (.error (.output e), w)
      | (.ok (), w) => (.ok (), w)

/-- Writes the lines of records up to the first failure. -/
def writeRecords (json : Json.Serializer) (format : ListingFormat) (w : LineBuffered) :
    List Record → Except Failure Unit × LineBuffered
  | [] => (.ok (), w)
  | r :: records =>
    match writeRecord json format w r with
    | (.error f, w) => (.error f, w)
    | (.ok (), w) => writeRecords json format w records

/-- Lists the codepoints of an input. -/
def listInput (json : Json.Serializer) (o : ListOptions) (input : Input) (c : Console) : Outcome :=
  let decoding := Decoding.ofBytes input.text.bytes
  let records := decoding.sequences.map Record.ofSequence
  match writeRecords json o.format (LineBuffered.onto c.device) records with
  | (.error f, w) => ⟨.error f, w.finish, [], []⟩
  | (.ok (), w) =>
    match w.drain with
    | (.error e, w) => ⟨.error (.output e), w.finish, [], []⟩
    | (.ok (), w) =>
      let listed := Log.raise c.writes
        ⟨.listing, .info, "listed codepoints".toList,
          [("input", input.name), ("bytes", Numeral.decimal input.rawSize),
            ("codepoints", Numeral.decimal records.length)]⟩
      match decoding.error? with
      | none => ⟨.ok .success, w.finish, [], listed⟩
      | some e =>
        let (stderr, events) := reportError o.report input c e
        ⟨.ok .invalid, w.finish, stderr, listed ++ events⟩

end Utf8Text.Listing
