import Utf8Text.Writer

/-!
# A line-buffered writer

Complete lines go to the device as soon as they are written. An incomplete line is held back until
it is completed, flushed, or no longer fits into the buffer.
-/

namespace Utf8Text

/-- Where a line-buffered writer passes its bytes on to. -/
inductive Device where
  /-- Takes everything. -/
  | accepting
  /-- Has no room for a single byte. -/
  | full
deriving DecidableEq

/-- A writer that passes its bytes on by lines. -/
structure LineBuffered where
  device : Device
  /-- The bytes held back. -/
  pending : Bytes
  /-- The bytes the device has taken, the latest first. -/
  reversed : Bytes

namespace LineBuffered

/-- How many bytes can be held back. -/
def capacity : Nat := 1024

/-- A writer before a device, with nothing written. -/
def onto (device : Device) : LineBuffered :=
  ⟨device, [], []⟩

/-- The bytes the device has taken. -/
def output (w : LineBuffered) : Bytes :=
  w.reversed.reverse

/-- Hands bytes to the device. -/
def passOn (w : LineBuffered) (bytes : Bytes) : Written LineBuffered :=
  match w.device, bytes with
  | _, [] => (.ok (), w)
  | .accepting, bytes => (.ok (), { w with reversed := bytes.reverse ++ w.reversed })
  | .full, _ => (.error .noSpace, w)

/-- Hands what is held back to the device. -/
def drain (w : LineBuffered) : Written LineBuffered :=
  (w.passOn w.pending).andThen fun w => (.ok (), { w with pending := [] })

/-- What the device has taken in the end: what is still held back goes out at last. -/
def finish (w : LineBuffered) : Bytes :=
  w.drain.2.output

/-- Holds bytes back, after making room for them. Bytes that would fill the whole buffer are not
held back at all. -/
def hold (w : LineBuffered) (bytes : Bytes) : Written LineBuffered :=
  let made : Written LineBuffered :=
    if w.pending.length + bytes.length > capacity then w.drain else (.ok (), w)
  made.andThen fun w =>
    if bytes.length ≥ capacity then w.passOn bytes
    else (.ok (), { w with pending := w.pending ++ bytes })

/-- The bytes up to the last line feed, and those behind it. -/
def splitAfterLastLine (bytes : Bytes) : Bytes × Bytes :=
  let tail := (bytes.reverse.takeWhile (· ≠ lineFeed)).reverse
  (bytes.take (bytes.length - tail.length), tail)

/-- Passes the complete lines on, behind what was held back, and holds the rest back. -/
def writeAll (w : LineBuffered) (bytes : Bytes) : Written LineBuffered :=
  match splitAfterLastLine bytes with
  | ([], tail) => w.hold tail
  | (lines, tail) =>
    let passed : Written LineBuffered :=
      if w.pending = [] then w.passOn lines else (w.hold lines).andThen drain
    passed.andThen fun w => w.hold tail

/-- Writing by lines. -/
instance : Writer LineBuffered where
  writeAll := writeAll
  flush := drain

end LineBuffered

end Utf8Text
