import Utf8Text.Buffer
import Utf8Text.Decoding
import Utf8Text.Named

/-!
# Programs over named buffers

A register machine whose registers hold buffers. Every step answers; a step that fails leaves all
registers as they were, and no step but a write to a register changes what that register holds.
-/

namespace Utf8Text

/-- The ways to make a buffer from bytes. -/
inductive Construction where
  | own
  | ownBeforeNul
  | borrow
  | borrowBeforeNul
deriving DecidableEq

/-- The buffer that a construction makes of some bytes. -/
def Construction.make : Construction → Bytes → Buffer
  | .own => Buffer.own
  | .ownBeforeNul => Buffer.ownBeforeNul
  | .borrow => Buffer.borrow
  | .borrowBeforeNul => Buffer.borrowBeforeNul

/-- The buffers in use, by the names of their registers. -/
abbrev Registers := Named Buffer

namespace Registers

/-- One step of a program. -/
inductive Step where
  | make (construction : Construction) (bytes : Bytes) (target : String)
  | slice (source : String) (start stop : Nat) (target : String)
  | view (source : String)
  | toOwned (register : String)
  | release (register : String)
  | compare (left right : String)
  | decode (source : String)

/-- What a step reports. -/
inductive Answer where
  | buffer (b : Buffer)
  | refused (e : BufferError)
  | freed (count : Nat)
  | compared (equal sameHash : Bool)
  | decoded (items : List Item)
  /-- The step names a register that holds nothing. -/
  | emptyRegister

/-- Performs one step. -/
def step (r : Registers) : Step → Answer × Registers
  | .make construction bytes target =>
    let b := construction.make bytes
    (.buffer b, r.set target b)
  | .slice source start stop target =>
    match r.get? source with
    | none => (.emptyRegister, r)
    | some b =>
      match b.slice start stop with
      | .error e => (.refused e, r)
      | .ok part => (.buffer part, r.set target part)
  | .view source =>
    match r.get? source with
    | none => (.emptyRegister, r)
    | some b => (.buffer b, r)
  | .toOwned register =>
    match r.get? register with
    | none => (.emptyRegister, r)
    | some b => (.buffer b.toOwned, r.set register b.toOwned)
  | .release register =>
    match r.get? register with
    | none => (.emptyRegister, r)
    | some b => (.freed b.release, r.erase register)
  | .compare left right =>
    match r.get? left, r.get? right with
    | some a, some b => (.compared (a == b) (hash a == hash b), r)
    | _, _ => (.emptyRegister, r)
  | .decode source =>
    match r.get? source with
    | none => (.emptyRegister, r)
    | some b => (.decoded (items b.bytes), r)

/-- Performs the steps in order and collects their answers. -/
def run : Registers → List Step → List Answer × Registers
  | r, [] => ([], r)
  | r, s :: steps =>
    let (answer, r) := step r s
    let (answers, r) := run r steps
    (answer :: answers, r)

end Registers

end Utf8Text
