import Utf8Text.Numeral

/-!
# One codepoint at a time

The UTF-8 bit layouts for a single codepoint, in both directions:

| bytes | first byte | following bytes | value bits |
|-------|------------|-----------------|------------|
| 1     | `0xxxxxxx` |                 | 7          |
| 2     | `110xxxxx` | `10xxxxxx`      | 11         |
| 3     | `1110xxxx` | `10xxxxxx` × 2  | 16         |
| 4     | `11110xxx` | `10xxxxxx` × 3  | 21         |

The decoder is lenient. The lead byte alone fixes the length, the bytes after it count with their
low six bits whatever their upper two are, and overlong forms, surrogates and values above U+10FFFF
stand for what their bits say. The encoder takes every value of up to 21 bits.
-/

namespace Utf8Text

/-- A byte string. -/
abbrev Bytes := List UInt8

/-- The byte that ends a line. -/
def lineFeed : UInt8 := 0x0A

/-- The standard UTF-8 bytes of a text. -/
def utf8 (text : List Char) : Bytes :=
  text.flatMap String.utf8EncodeChar

/-! ## Decoding -/

/-- Why no codepoint can be read at a place. -/
inductive DecodeFault where
  /-- The byte cannot start a sequence: 0x80 to 0xBF and 0xF8 to 0xFF. -/
  | invalidLeadByte
  /-- The lead byte announces more bytes than there are. -/
  | truncatedSequence
deriving DecidableEq

/-- The wording of a fault. -/
def DecodeFault.message : DecodeFault → List Char
  | .invalidLeadByte => "invalid UTF-8 lead byte".toList
  | .truncatedSequence => "truncated UTF-8 sequence".toList

/-- The number of bytes a lead byte announces, itself included; `0` if it cannot lead. -/
def sequenceLength (lead : UInt8) : Nat :=
  if lead < 0x80 then 1
  else if lead < 0xC0 then 0
  else if lead < 0xE0 then 2
  else if lead < 0xF0 then 3
  else if lead < 0xF8 then 4
  else 0

/-- The bits of a lead byte that carry value, by the length it announces. -/
def leadMask : Nat → Nat
  | 1 => 0x7F
  | 2 => 0x1F
  | 3 => 0x0F
  | _ => 0x07

/-- The six value bits of a byte after the first. -/
def payload (b : UInt8) : Nat :=
  b.toNat &&& 0x3F

/-- The value of a sequence of `length` bytes: the bits of the lead, then six from each other
byte. -/
def assemble (length : Nat) (lead : UInt8) (following : Bytes) : Nat :=
  following.foldl (fun value b => value <<< 6 ||| payload b) (lead.toNat &&& leadMask length)

/-- The codepoint at the front of a byte string, with the number of bytes it takes. -/
def decode : Bytes → Except DecodeFault (Nat × Nat)
  | [] => .error .truncatedSequence
  | lead :: rest =>
    let length := sequenceLength lead
    let following := rest.take (length - 1)
    if length = 0 then .error .invalidLeadByte
    else if following.length < length - 1 then .error .truncatedSequence
    else .ok (assemble length lead following, length)

/-! ## Encoding -/

/-- The largest value that four bytes can carry: 21 bits. -/
def maxEncodable : Nat := 0x1FFFFF

/-- A codepoint above `maxEncodable`. -/
structure EncodeError where
  codepoint : Nat
deriving DecidableEq

/-- The wording of the refusal. -/
def EncodeError.message (e : EncodeError) : List Char :=
  "code point 0x".toList ++ Numeral.hex e.codepoint
    ++ " exceeds the UTF-8 range (maximum 0x".toList ++ Numeral.hex maxEncodable ++ ")".toList

/-- The least number of bytes whose value bits hold a codepoint. -/
def encodedLength? (cp : Nat) : Option Nat :=
  if cp ≤ 0x7F then some 1
  else if cp ≤ 0x7FF then some 2
  else if cp ≤ 0xFFFF then some 3
  else if cp ≤ maxEncodable then some 4
  else none

/-- The byte after the first that carries the six bits of `cp` from bit `shift` on. -/
def continuation (cp shift : Nat) : UInt8 :=
  .ofNat (0x80 ||| (cp >>> shift &&& 0x3F))

/-- The shortest sequence for a codepoint. -/
def encode (cp : Nat) : Except EncodeError Bytes :=
  match encodedLength? cp with
  | none => .error ⟨cp⟩
  | some 1 => .ok [.ofNat cp]
  | some 2 => .ok [.ofNat (0xC0 ||| cp >>> 6), continuation cp 0]
  | some 3 => .ok [.ofNat (0xE0 ||| cp >>> 12), continuation cp 6, continuation cp 0]
  | some _ =>
    .ok [.ofNat (0xF0 ||| cp >>> 18), continuation cp 12, continuation cp 6, continuation cp 0]

/-- The bytes of an encoding as they are shown for debugging: decimal, in brackets. -/
def debugEncoding (bytes : Bytes) : List Char :=
  "EncodedCodepoint([".toList
    ++ ", ".toList.intercalate (bytes.map fun b => Numeral.decimal b.toNat) ++ "])".toList

end Utf8Text
