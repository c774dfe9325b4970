import Utf8Text.Listing

/-!
# Encoding codepoints

All codepoints are checked before anything is written. Then come either their bytes, or a listing
with one line for each codepoint.
-/

namespace Utf8Text.Encoding

/-- The first codepoint that cannot be encoded. -/
def firstRefused? : List Nat → Option EncodeError
  | [] => none
  | cp :: cps =>
    match encode cp with
    | .error e => some e
    | .ok _ => firstRefused? cps

/-- The line of a codepoint: its name, and its bytes in hexadecimal. -/
def line (cp : Nat) : Except EncodeError (List Char) :=
  (encode cp).map fun bytes =>
    Listing.codepointName cp ++ "  ".toList
      ++ [' '].intercalate (bytes.map Numeral.hexByte)

/-- Writes the lines of codepoints up to the first failure. -/
def writeLines (w : LineBuffered) : List Nat → Except Failure Unit × LineBuffered
  | [] => (.ok (), w)
  | cp :: cps =>
    match line cp with
    | .error e => (.error (.encoding e), w)
    | .ok chars =>
      match w.writeAll (utf8 (chars ++ ['\n'])) with
      | (.error e, w) => (.error (.listing e), w)
      | (.ok (), w) => writeLines w cps

/-- Writes codepoints into a sink up to the first failure. -/
def writeCodepoints (s : Sink LineBuffered) : List Nat → Except SinkError Unit × Sink LineBuffered
  | [] => (.ok (), s)
  | cp :: cps =>
    match s.writeCodepoint cp with
    | (.error e, s) => (.error e, s)
    | (.ok _, s) => writeCodepoints s cps

/-- Writes the bytes of codepoints. -/
def encodeRaw (cps : List Nat) (c : Console) : Outcome :=
  match writeCodepoints (Sink.onto (LineBuffered.onto c.device)) cps with
  | (.error e, s) => ⟨.error (.sink e), s.writer.finish, [], []⟩
  | (.ok (), s) =>
    match s.flush with
    | (.error e, s) => ⟨.error (.sink e), s.writer.finish, [], []⟩
    | (.ok (), s) =>
      ⟨.ok .success, s.writer.finish, [],
        Log.raise c.writes
          ⟨.encoding, .debug, "wrote raw UTF-8".toList,
            [("bytes", Numeral.decimal s.written)]⟩⟩

/-- Writes a listing of codepoints. -/
def encodeListing (cps : List Nat) (c : Console) : Outcome :=
  match writeLines (LineBuffered.onto c.device) cps with
  | (.error f, w) => ⟨.error f, w.finish, [], []⟩
  | (.ok (), w) =>
    match w.drain with
    | (.error e, w) => ⟨.error (.output e), w.finish, [], []⟩
    | (.ok (), w) => ⟨.ok .success, w.finish, [], []⟩

/-- Encodes codepoints, if all of them can be. -/
def encodeAll (o : EncodeOptions) (c : Console) : Outcome :=
  match firstRefused? o.codepoints with
  | some e => ⟨.ok .invalid, [], "error: ".toList ++ e.message ++ ['\n'], []⟩
  | none => if o.raw then encodeRaw o.codepoints c else encodeListing o.codepoints c

end Utf8Text.Encoding
