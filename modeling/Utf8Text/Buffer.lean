import Utf8Text.Codec

/-!
# Text buffers

A buffer holds the bytes of a text. It either owns its storage, which releasing it frees, or views
storage that something else owns. Ownership decides only how much a release frees: comparing and
hashing look at the bytes alone.
-/

namespace Utf8Text

/-- Who frees the storage of a buffer. -/
inductive Ownership where
  | owned
  | borrowed
deriving DecidableEq

/-- The bytes of a text and who owns them. -/
structure Buffer where
  bytes : Bytes
  ownership : Ownership

/-- Why a buffer could not be made. -/
inductive BufferError where
  /-- A slice that ends before it starts, or beyond the `size` bytes there are. -/
  | sliceOutOfBounds (start stop size : Nat)
  /-- There is no room for a copy of that many bytes. -/
  | allocationFailed (requested : Nat)
deriving DecidableEq

/-- The wording of an error. -/
def BufferError.message : BufferError → List Char
  | .sliceOutOfBounds start stop size =>
    "slice ".toList ++ Numeral.decimal start ++ "..".toList ++ Numeral.decimal stop
      ++ " out of bounds for text of ".toList ++ Numeral.decimal size ++ " bytes".toList
  | .allocationFailed requested =>
    "failed to allocate ".toList ++ Numeral.decimal requested ++ " bytes for text".toList

/-- The bytes before the first NUL, or all of them if there is none. -/
def beforeNul (bytes : Bytes) : Bytes :=
  bytes.takeWhile (· ≠ 0)

namespace Buffer

/-! ## Construction -/

/-- Owns the bytes as they are, NULs included. -/
def own (bytes : Bytes) : Buffer := ⟨bytes, .owned⟩

/-- Owns the bytes before the first NUL. -/
def ownBeforeNul (bytes : Bytes) : Buffer := own (beforeNul bytes)

/-- Views the bytes as they are, NULs included. -/
def borrow (bytes : Bytes) : Buffer := ⟨bytes, .borrowed⟩

/-- Views the bytes before the first NUL. -/
def borrowBeforeNul (bytes : Bytes) : Buffer := borrow (beforeNul bytes)

/-- Views the standard UTF-8 bytes of a string. -/
def ofString (text : String) : Buffer := borrow (utf8 text.toList)

/-! ## Queries -/

/-- The number of bytes. -/
def size (b : Buffer) : Nat := b.bytes.length

/-- A buffer without bytes. -/
def isEmpty (b : Buffer) : Bool := b.bytes.isEmpty

/-- A buffer whose release frees its storage. -/
def isOwned (b : Buffer) : Bool := b.ownership = .owned

/-- Buffers are compared by their bytes. -/
instance : BEq Buffer where
  beq a b := a.bytes == b.bytes

/-- Buffers are hashed by their bytes. -/
instance : Hashable Buffer where
  hash b := hash b.bytes

/-! ## Operations -/

/-- Views the bytes from `start` up to `stop`. The bounds need not lie between sequences. -/
def slice (b : Buffer) (start stop : Nat) : Except BufferError Buffer :=
  if start ≤ stop ∧ stop ≤ b.size then
    .ok (borrow ((b.bytes.drop start).take (stop - start)))
  else
    .error (.sliceOutOfBounds start stop b.size)

/-- The same bytes in storage of their own. -/
def toOwned (b : Buffer) : Buffer := own b.bytes

/-- The number of bytes that giving a buffer up frees. -/
def release (b : Buffer) : Nat :=
  match b.ownership with
  | .owned => b.size
  | .borrowed => 0

end Buffer

end Utf8Text
