import Utf8Text.Writer

/-!
# A writer with limits

A writer that takes at most so many bytes in one call and so many in total. Beyond the total it
fails, or takes nothing without failing. Writing a longer request repeats calls until everything is
taken or a call does not get on.
-/

namespace Utf8Text

/-- A writer into memory. A limit that is absent does not limit. -/
structure LimitedWriter where
  /-- The most bytes that one call takes. -/
  chunk? : Option Nat
  /-- The number of bytes it will still take. -/
  room? : Option Nat
  /-- Whether a call that can take nothing reports zero bytes instead of failing. -/
  stalls : Bool
  /-- Whether flushing fails. -/
  refusesFlush : Bool
  /-- The bytes taken, the latest first. -/
  reversed : Bytes
  /-- How often a flush was asked for. -/
  flushes : Nat

namespace LimitedWriter

/-- A writer that has taken nothing. -/
def fresh (chunk? limit? : Option Nat) (stalls refusesFlush : Bool) : LimitedWriter :=
  ⟨chunk?, limit?, stalls, refusesFlush, [], 0⟩

/-- A writer without limits. -/
def unlimited : LimitedWriter :=
  fresh none none false false

/-- The bytes taken, in order. -/
def output (w : LimitedWriter) : Bytes :=
  w.reversed.reverse

/-- Bounds a number by a limit, if there is one. -/
def capped (limit? : Option Nat) (n : Nat) : Nat :=
  limit?.elim n (min n)

/-- How many bytes of a request one call takes. -/
def accepts (w : LimitedWriter) (bytes : Bytes) : Nat :=
  capped w.room? (capped w.chunk? bytes.length)

/-- Takes the first `n` bytes of a request. -/
def push (w : LimitedWriter) (bytes : Bytes) (n : Nat) : LimitedWriter :=
  { w with
    room? := w.room?.map (· - n)
    reversed := (bytes.take n).reverse ++ w.reversed }

/-- One call: the number of bytes taken, or a failure. -/
def write (w : LimitedWriter) (bytes : Bytes) : Except WriteError Nat × LimitedWriter :=
  let n := w.accepts bytes
  if n = 0 ∧ bytes ≠ [] ∧ ¬ w.stalls then (.error .closed, w)
  else (.ok n, w.push bytes n)

/-- Repeats calls until the request is taken; every call but the last takes at least one byte, so
`calls` need not exceed the length of the request. -/
def writeRepeatedly : (calls : Nat) → LimitedWriter → Bytes → Written LimitedWriter
  | _, w, [] => (.ok (), w)
  | 0, w, _ :: _ => (.error .writeZero, w)
  | calls + 1, w, b :: bytes =>
    match w.write (b :: bytes) with
    | (.error e, w) => (.error e, w)
    | (.ok 0, w) => (.error .writeZero, w)
    | (.ok (n + 1), w) => writeRepeatedly calls w (bytes.drop n)

/-- Counts the request, then refuses it or has nothing to do. -/
def flush (w : LimitedWriter) : Written LimitedWriter :=
  (if w.refusesFlush then .error .flushRefused else .ok (), { w with flushes := w.flushes + 1 })

/-- Writing to memory within the limits. -/
instance : Writer LimitedWriter where
  writeAll w bytes := writeRepeatedly bytes.length w bytes
  flush := flush

end LimitedWriter

end Utf8Text
