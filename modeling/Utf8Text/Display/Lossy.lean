import Utf8Text.Codec

/-!
# Showing bytes as text

Standard UTF-8, read for display: well-formed sequences become their characters, and every maximal
part that starts like a well-formed sequence but is none becomes one replacement character. A byte
that cannot start a sequence is such a part by itself.

The bytes are fed one by one to a state that holds the unfinished sequence, with the range its next
byte must lie in. Only the second byte has a range narrower than 0x80 to 0xBF; that excludes
overlong forms, surrogates and values above U+10FFFF.
-/

namespace Utf8Text.Display

/-- U+FFFD, which stands for what cannot be shown. -/
def replacement : Char := '\uFFFD'

/-- A sequence that has begun and is well-formed so far. -/
structure Pending where
  /-- The value bits read. -/
  value : Nat
  /-- How many bytes are still to come. -/
  missing : Nat
  /-- The least byte that may follow. -/
  low : UInt8
  /-- The greatest byte that may follow. -/
  high : UInt8

/-- What a lead byte above ASCII begins, if it begins anything. -/
def Pending.ofLead? (b : UInt8) : Option Pending :=
  if 0xC2 ≤ b ∧ b ≤ 0xDF then some ⟨b.toNat &&& 0x1F, 1, 0x80, 0xBF⟩
  else if b = 0xE0 then some ⟨b.toNat &&& 0x0F, 2, 0xA0, 0xBF⟩
  else if b = 0xED then some ⟨b.toNat &&& 0x0F, 2, 0x80, 0x9F⟩
  else if 0xE1 ≤ b ∧ b ≤ 0xEF then some ⟨b.toNat &&& 0x0F, 2, 0x80, 0xBF⟩
  else if b = 0xF0 then some ⟨b.toNat &&& 0x07, 3, 0x90, 0xBF⟩
  else if b = 0xF4 then some ⟨b.toNat &&& 0x07, 3, 0x80, 0x8F⟩
  else if 0xF1 ≤ b ∧ b ≤ 0xF3 then some ⟨b.toNat &&& 0x07, 3, 0x80, 0xBF⟩
  else none

/-- Whether a byte goes on with a sequence. -/
def Pending.accepts (p : Pending) (b : UInt8) : Bool :=
  p.low ≤ b && b ≤ p.high

/-- The sequence with one more byte. -/
def Pending.extend (p : Pending) (b : UInt8) : Pending :=
  ⟨p.value <<< 6 ||| payload b, p.missing - 1, 0x80, 0xBF⟩

/-- What a byte at the start of a sequence shows at once, and what it leaves unfinished. -/
def begin (b : UInt8) : List Char × Option Pending :=
  if b < 0x80 then ([.ofNat b.toNat], none)
  else
    match Pending.ofLead? b with
    | some p => ([], some p)
    | none => ([replacement], none)

/-- Shows bytes behind an unfinished sequence. -/
def lossyAfter : Option Pending → Bytes → List Char
  | none, [] => []
  | some _, [] => [replacement]
  | none, b :: bytes => (begin b).1 ++ lossyAfter (begin b).2 bytes
  | some p, b :: bytes =>
    if p.accepts b then
      if p.missing = 1 then Char.ofNat (p.extend b).value :: lossyAfter none bytes
      else lossyAfter (some (p.extend b)) bytes
    else replacement :: ((begin b).1 ++ lossyAfter (begin b).2 bytes)

/-- Shows bytes as text. -/
def lossy (bytes : Bytes) : List Char :=
  lossyAfter none bytes

end Utf8Text.Display
