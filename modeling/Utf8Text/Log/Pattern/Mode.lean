import Utf8Text.Display.Blank

/-!
# Modes of a pattern

Flags in a pattern change how the parts behind them are meant. Three of them matter for what a
pattern may contain: whether letters of either case are alike, whether bytes are matched instead of
characters, and whether the parts are spaced out by blanks and comments.
-/

namespace Utf8Text.Log.Pattern

/-- How the parts of a pattern are meant. -/
structure Mode where
  ignoreCase : Bool
  bytewise : Bool
  spaced : Bool

namespace Mode

/-- The mode at the beginning of a pattern. -/
def initial : Mode := ⟨false, false, false⟩

/-- Switches a flag on or off. The flags for lines, greed and dots change nothing here. -/
def switch? (m : Mode) (on : Bool) : Char → Option Mode
  | 'i' => some { m with ignoreCase := on }
  | 'u' => some { m with bytewise := !on }
  | 'x' => some { m with spaced := on }
  | 'm' | 's' | 'U' | 'R' => some m
  | _ => none

/-- Reads flags up to a colon or a closing parenthesis. Those behind a hyphen are switched off; no
flag is named twice, and a hyphen is not the last. Gives the flags that were read, too. -/
def readFlags? (m : Mode) (flags : List Char) : List Char → Option (Mode × List Char × List Char)
  | [] => none
  | c :: rest =>
    if c = ':' || c = ')' then
      if flags.head? = some '-' then none else some (m, flags, c :: rest)
    else if flags.contains c then none
    else if c = '-' then m.readFlags? (c :: flags) rest
    else
      match m.switch? (!flags.contains '-') c with
      | some m => m.readFlags? (c :: flags) rest
      | none => none

/-! ## Blanks and comments -/

/-- What follows blanks and comments. A comment goes from `#` to the end of the line. -/
def skipBlanks (inComment : Bool) : List Char → List Char
  | [] => []
  | c :: rest =>
    if inComment then skipBlanks (c ≠ '\n') rest
    else if Display.isBlank c then skipBlanks false rest
    else if c = '#' then skipBlanks true rest
    else c :: rest

/-- The next part of a pattern. -/
def skip (m : Mode) (text : List Char) : List Char :=
  if m.spaced then skipBlanks false text else text

/-! ## What is left of a text -/

private theorem length_skipBlanks_le (inComment : Bool) (text : List Char) :
    (skipBlanks inComment text).length ≤ text.length := by
  induction text generalizing inComment with
  | nil => exact Nat.le_refl _
  | cons c rest ih =>
    simp only [skipBlanks]
    split
    · exact Nat.le_succ_of_le (ih _)
    · split
      · exact Nat.le_succ_of_le (ih _)
      · split
        · exact Nat.le_succ_of_le (ih _)
        · exact Nat.le_refl _

theorem length_skip_le (m : Mode) (text : List Char) : (m.skip text).length ≤ text.length := by
  unfold skip
  split
  · exact length_skipBlanks_le false text
  · exact Nat.le_refl _

/-- What is left behind the next character is shorter. -/
theorem length_lt_of_skip {m : Mode} {c : Char} {text rest : List Char}
    (h : m.skip text = c :: rest) : rest.length < text.length := by
  have := m.length_skip_le text
  rw [h] at this
  exact this

theorem length_of_readFlags? {m n : Mode} {flags named text rest : List Char}
    (h : m.readFlags? flags text = some (n, named, rest)) : rest.length ≤ text.length := by
  induction text generalizing m flags with
  | nil => cases h
  | cons c left ih =>
    simp only [readFlags?] at h
    split at h
    · split at h
      · cases h
      · cases h
        exact Nat.le_refl _
    · split at h
      · cases h
      · split at h
        · exact Nat.le_succ_of_le (ih h)
        · split at h
          · exact Nat.le_succ_of_le (ih h)
          · cases h

end Mode

end Utf8Text.Log.Pattern
