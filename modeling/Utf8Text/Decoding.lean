import Utf8Text.Codec

/-!
# Decoding a whole byte string

Sequences are read one after the other from the front. The first place where none can be read ends
the decoding with an error, so a byte string decodes to a list of sequences and at most one error
behind them.
-/

namespace Utf8Text

/-- A fault with the place where it arose and the byte found there. -/
structure DecodeError where
  fault : DecodeFault
  offset : Nat
  lead : UInt8
deriving DecidableEq

/-- The wording of an error: fault, byte and offset. -/
def DecodeError.message (e : DecodeError) : List Char :=
  e.fault.message ++ " (byte 0x".toList ++ Numeral.hexByte e.lead
    ++ ") at byte ".toList ++ Numeral.decimal e.offset

/-- A sequence that was read: where it starts, how many bytes it takes, and its codepoint. -/
structure Sequence where
  offset : Nat
  length : Nat
  codepoint : Nat
deriving DecidableEq

/-- What a decoder hands out at a step. -/
inductive Item where
  | codepoint (cp : Nat)
  /-- The error that ends the decoding. -/
  | error (e : DecodeError)
deriving DecidableEq

/-- A byte string read to its end or to the first error. -/
structure Decoding where
  sequences : List Sequence
  error? : Option DecodeError
deriving DecidableEq

namespace Decoding

/-- The decoding that has one more sequence in front. -/
def push (s : Sequence) (d : Decoding) : Decoding :=
  { d with sequences := s :: d.sequences }

/-- Reads the rest of a byte string from `offset` on, where the first `skip` bytes still belong to
the sequence before. -/
def scan : (offset skip : Nat) → Bytes → Decoding
  | _, _, [] => ⟨[], none⟩
  | offset, skip + 1, _ :: bytes => scan (offset + 1) skip bytes
  | offset, 0, lead :: bytes =>
    match decode (lead :: bytes) with
    | .error fault => ⟨[], some ⟨fault, offset, lead⟩⟩
    | .ok (codepoint, length) =>
      (scan (offset + 1) (length - 1) bytes).push ⟨offset, length, codepoint⟩

/-- Reads a byte string from its start. -/
def ofBytes (bytes : Bytes) : Decoding :=
  scan 0 0 bytes

/-- The codepoints, without the places they were read from. -/
def codepoints (d : Decoding) : List Nat :=
  d.sequences.map Sequence.codepoint

/-- The codepoints in order, and the error behind them if there is one. -/
def items (d : Decoding) : List Item :=
  d.codepoints.map .codepoint ++ d.error?.toList.map .error

end Decoding

/-- Everything that decoding a byte string hands out. -/
def items (bytes : Bytes) : List Item :=
  (Decoding.ofBytes bytes).items

end Utf8Text
