import Utf8Text.Buffer
import Utf8Text.Decoding

/-!
# Readers

A reader walks over a buffer and hands out one item per step. It moves past every codepoint it
hands out. An error is handed out once: the reader stays on the offending byte and has nothing more
to give. Readers are values, so a copy of one is an independent reader over the same buffer.
-/

namespace Utf8Text

/-- A place in a buffer that is being decoded. -/
structure Reader where
  /-- The buffer being read. -/
  source : Buffer
  /-- The offset of the next sequence. -/
  position : Nat
  /-- The bytes of the buffer from `position` on. -/
  remaining : Bytes
  /-- Whether an error has been handed out. -/
  failed : Bool

namespace Reader

/-- A reader at the start of a buffer. -/
def ofBuffer (b : Buffer) : Reader :=
  ⟨b, 0, b.bytes, false⟩

/-- The next item, with the reader behind it; none at the end and after an error. -/
def next? (r : Reader) : Option (Item × Reader) :=
  match r.failed, r.remaining with
  | true, _ => none
  | false, [] => none
  | false, lead :: rest =>
    match decode (lead :: rest) with
    | .error fault => some (.error ⟨fault, r.position, lead⟩, { r with failed := true })
    | .ok (codepoint, length) =>
      some (.codepoint codepoint,
        { r with position := r.position + length, remaining := r.remaining.drop length })

/-- Drops `n` items and hands out the one after them. -/
def nth (r : Reader) : Nat → Option Item × Reader
  | 0 =>
    match r.next? with
    | none => (none, r)
    | some (item, r) => (some item, r)
  | n + 1 =>
    match r.next? with
    | none => (none, r)
    | some (_, r) => r.nth n

/-- Hands out the next `n` items, or as many as there are. -/
def take (r : Reader) : Nat → List Item × Reader
  | 0 => ([], r)
  | n + 1 =>
    match r.next? with
    | none => ([], r)
    | some (item, r) =>
      let (items, r) := r.take n
      (item :: items, r)

/-- Hands out all items that are left. Each of them starts at an undecoded byte of its own, so
there are no more items than bytes. -/
def rest (r : Reader) : List Item × Reader :=
  r.take r.remaining.length

/-- Hands out all items that are left, and tells only their number. -/
def count (r : Reader) : Nat × Reader :=
  let (items, r) := r.rest
  (items.length, r)

/-- Hands out all items that are left, and tells only the last of them. -/
def last? (r : Reader) : Option Item × Reader :=
  let (items, r) := r.rest
  (items.getLast?, r)

/-- An estimate of the number of items that are left, from the number of undecoded bytes: a sequence
takes one to four. -/
def countEstimate (r : Reader) : Nat × Nat :=
  if r.failed then (0, 0) else ((r.remaining.length + 3) / 4, r.remaining.length)

/-- The first undecoded byte. -/
def nextByte? (r : Reader) : Option UInt8 :=
  r.remaining.head?

end Reader

end Utf8Text
