import Utf8Text.Log.Pattern.Mode
import Utf8Text.Numeral

/-!
# Atoms of a pattern

The smallest parts of a pattern, and which of them are at hand in a mode. No tables of letters are:
matching by characters knows neither cases nor words. Matching by bytes must not match a part of a
character.
-/

namespace Utf8Text.Log.Pattern

/-- A part of a pattern that matches one character or byte, or a place in a text. -/
inductive Atom where
  /-- A character that stands for itself. -/
  | character (c : Char)
  /-- A character or byte that is given by two hexadecimal digits. -/
  | byte (value : Nat)
  /-- Anything, written as a dot. -/
  | any
  /-- The digits, the blanks or the characters of words, or all but these. -/
  | named (negated : Bool)
  /-- The beginning or the end of a word. -/
  | wordEdge
  /-- The beginning or the end of the text. -/
  | textEdge

/-- Whether a code can stand in a bracket or as a byte. -/
def Mode.allowsCode (m : Mode) (code : Nat) : Bool :=
  if m.bytewise then code < 0x80 else !m.ignoreCase

/-- Whether digits, blanks or the characters of words can be named. -/
def Mode.allowsNamed (m : Mode) (negated : Bool) : Bool :=
  m.bytewise && !negated

namespace Atom

/-- Whether an atom is at hand in a mode. -/
def isAllowed (m : Mode) : Atom → Bool
  | character _ => m.bytewise || !m.ignoreCase
  | byte value => m.allowsCode value
  | any => !m.bytewise
  | named negated => m.allowsNamed negated
  | wordEdge => m.bytewise
  | textEdge => true

/-- The code of the character that an atom stands for. -/
def code? : Atom → Option Nat
  | character c => some c.toNat
  | byte value => some value
  | _ => none

end Atom

/-! ## Escapes -/

/-- Reads hexadecimal digits, as many as asked for, behind a value. -/
def readHex? (m : Mode) : (count value : Nat) → List Char → Option (Nat × List Char)
  | 0, value, text => some (value, text)
  | count + 1, value, text =>
    match m.skip text with
    | [] => none
    | c :: rest =>
      match Numeral.digit? 16 c with
      | some digit => readHex? m count (16 * value + digit) rest
      | none => none

/-- How many hexadecimal digits follow a letter behind a backslash. -/
def hexWidth? : Char → Option Nat
  | 'x' => some 2
  | 'u' => some 4
  | 'U' => some 8
  | _ => none

/-- What a single character behind a backslash means. -/
def escaped? (c : Char) : Option Atom :=
  match c with
  | 'd' | 's' | 'w' => some (.named false)
  | 'D' | 'S' | 'W' => some (.named true)
  | 'b' | 'B' | '<' | '>' => some .wordEdge
  | 'A' | 'z' => some .textEdge
  | 'a' => some (.character '\x07')
  | 'f' => some (.character '\x0c')
  | 'n' => some (.character '\n')
  | 'r' => some (.character '\r')
  | 't' => some (.character '\t')
  | 'v' => some (.character '\x0b')
  | _ => if c.toNat < 0x80 && !c.isAlphanum then some (.character c) else none

/-- Reads an escape behind its backslash. -/
def readEscape? (m : Mode) : List Char → Option (Atom × List Char)
  | [] => none
  | c :: rest =>
    match hexWidth? c with
    | none => (escaped? c).map (·, rest)
    | some width =>
      match readHex? m width 0 rest with
      | none => none
      | some (value, rest) =>
        if width = 2 then some (.byte value, rest)
        else if Nat.isValidChar value then some (.character (Char.ofNat value), rest)
        else none

/-- Reads an escape or a character that stands for itself. -/
def readCharacter? (m : Mode) : List Char → Option (Atom × List Char)
  | [] => none
  | '\\' :: rest => readEscape? m rest
  | c :: rest => some (.character c, rest)

/-- Reads an atom. -/
def readAtom? (m : Mode) : List Char → Option (Atom × List Char)
  | '.' :: rest => some (.any, rest)
  | '^' :: rest => some (.textEdge, rest)
  | '$' :: rest => some (.textEdge, rest)
  | text => readCharacter? m text

/-! ## What is left of a text -/

private theorem length_of_readHex? {m : Mode} {count value number : Nat} {text rest : List Char}
    (h : readHex? m count value text = some (number, rest)) : rest.length ≤ text.length := by
  induction count generalizing value text with
  | zero =>
    cases h
    exact Nat.le_refl _
  | succ count ih =>
    simp only [readHex?] at h
    split at h
    · cases h
    · rename_i hskip
      split at h
      · exact Nat.le_trans (ih h) (Nat.le_of_lt (Mode.length_lt_of_skip hskip))
      · cases h

private theorem length_of_readEscape? {m : Mode} {a : Atom} {text rest : List Char}
    (h : readEscape? m text = some (a, rest)) : rest.length < text.length := by
  unfold readEscape? at h
  split at h
  · cases h
  · split at h
    · obtain ⟨atom, _, hrest⟩ := Option.map_eq_some_iff.1 h
      cases hrest
      exact Nat.lt_succ_self _
    · split at h
      · cases h
      · rename_i hhex
        have hle := length_of_readHex? hhex
        split at h
        · cases h
          exact Nat.lt_succ_of_le hle
        · split at h
          · cases h
            exact Nat.lt_succ_of_le hle
          · cases h

theorem length_of_readCharacter? {m : Mode} {a : Atom} {text rest : List Char}
    (h : readCharacter? m text = some (a, rest)) : rest.length < text.length := by
  unfold readCharacter? at h
  split at h
  · cases h
  · exact Nat.lt_succ_of_lt (length_of_readEscape? h)
  · cases h
    exact Nat.lt_succ_self _

theorem length_of_readAtom? {m : Mode} {a : Atom} {text rest : List Char}
    (h : readAtom? m text = some (a, rest)) : rest.length < text.length := by
  unfold readAtom? at h
  split at h
  iterate 3
    cases h
    exact Nat.lt_succ_self _
  exact length_of_readCharacter? h

end Utf8Text.Log.Pattern
