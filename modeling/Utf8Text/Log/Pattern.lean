import Utf8Text.Display.Alphanumeric
import Utf8Text.Log.Pattern.Bracket

/-!
# Patterns

A pattern describes texts: branches between bars, which are sequences of atoms, brackets and groups,
each of which can be repeated. What a pattern matches does not matter here, only whether a text is a
pattern. It also has to be possible without tables of letters, without matching parts of
characters, and without nesting too deeply.
-/

namespace Utf8Text.Log.Pattern

/-! ## Groups -/

/-- What a parenthesis begins. -/
inductive Opening where
  /-- A group, perhaps with a name, and the mode inside of it. -/
  | group (name? : Option (List Char)) (mode : Mode)
  /-- Nothing but a change of the mode for the rest of the group it stands in. -/
  | change (mode : Mode)

/-- The characters that the name of a group can begin with. -/
def beginsName (c : Char) : Bool :=
  c = '_' || Display.isAlphabetic c

/-- The characters that the name of a group can have. -/
def continuesName (c : Char) : Bool :=
  c = '_' || c = '.' || c = '[' || c = ']' || Display.isAlphanumeric c

/-- Reads the name of a group up to its closing angle bracket. -/
def readName? (text : List Char) : Option (List Char × List Char) :=
  match text.takeWhile (· != '>'), text.dropWhile (· != '>') with
  | first :: others, _ :: rest =>
    if beginsName first && others.all continuesName then some (first :: others, rest) else none
  | _, _ => none

/-- Reads what stands between a parenthesis and the inside of its group. -/
def readOpening? (m : Mode) (text : List Char) : Option (Opening × List Char) :=
  match m.skip text with
  | '?' :: 'P' :: '<' :: rest | '?' :: '<' :: rest =>
    (readName? rest).map fun (name, rest) => (.group (some name) m, rest)
  | '?' :: rest =>
    match m.readFlags? [] rest with
    | some (mode, _, ':' :: rest) => some (.group none mode, rest)
    | some (mode, _ :: _, _ :: rest) => some (.change mode, rest)
    | _ => none
  | rest => some (.group none m, rest)

/-- A group that is still open, or the whole pattern. -/
structure Group where
  /-- The mode outside of the group. -/
  outside : Mode
  /-- The depths of the branches that have ended. -/
  branches : List Nat
  /-- The parts of the last branch, backwards: the depths of those that can be repeated. -/
  parts : List (Option Nat)

namespace Group

/-- A group without parts. -/
def opened (outside : Mode) : Group := ⟨outside, [], []⟩

/-- A group with one more part. -/
def add (g : Group) (depth : Nat) : Group := { g with parts := some depth :: g.parts }

/-- A group with a change of the mode, which is a part that cannot be repeated. -/
def addChange (g : Group) : Group := { g with parts := none :: g.parts }

/-- A group whose last part is repeated. -/
def repeatLast? (g : Group) : Option Group :=
  match g.parts with
  | some depth :: parts => some { g with parts := some (depth + 1) :: parts }
  | _ => none

/-- A group whose last branch has ended. -/
def endBranch (g : Group) : Group :=
  { g with branches := together (g.parts.map (·.getD 0)) :: g.branches, parts := [] }

/-- The depth of what is in a group. -/
def content (g : Group) : Nat := together g.endBranch.branches

end Group

/-! ## Reading -/

/-- The greatest depth of a pattern. -/
def depthLimit : Nat := 250

/-- A pattern as far as it has been read. -/
structure Reading where
  mode : Mode
  /-- The names of groups. -/
  names : List (List Char)
  inner : Group
  outer : List Group
  text : List Char

namespace Reading

/-- Opens a group or changes the mode. No two groups have the same name. -/
def open? (s : Reading) (opening : Opening) (rest : List Char) : Option Reading :=
  match opening with
  | .change mode => some { s with mode, inner := s.inner.addChange, text := rest }
  | .group name? mode =>
    if name?.any s.names.contains then none
    else
      some ⟨mode, name?.toList ++ s.names, .opened s.mode, s.inner :: s.outer, rest⟩

/-- Closes the innermost group. -/
def close? (s : Reading) (rest : List Char) : Option Reading :=
  match s.outer with
  | [] => none
  | next :: outer =>
    some ⟨s.inner.outside, s.names, next.add (s.inner.content + 1), outer, rest⟩

/-- Reads the next part of a pattern. -/
def step? (s : Reading) : Option Reading :=
  match s.mode.skip s.text with
  | [] => none
  | c :: rest =>
    match c with
    | '(' => (readOpening? s.mode rest).bind fun (opening, rest) => s.open? opening rest
    | ')' => s.close? rest
    | '|' => some { s with inner := s.inner.endBranch, text := rest }
    | '[' =>
      (Bracket.read? s.mode rest).map fun (depth, rest) =>
        { s with inner := s.inner.add depth, text := rest }
    | '?' | '*' | '+' =>
      s.inner.repeatLast?.map fun inner =>
        { s with inner, text := if rest.head? = some '?' then rest.tail else rest }
    | '\x7b' => none
    | _ =>
      match readAtom? s.mode (c :: rest) with
      | some (atom, rest) =>
        if atom.isAllowed s.mode then some { s with inner := s.inner.add 0, text := rest } else none
      | none => none

/-! ## What is left of a text -/

private theorem length_of_readName? {text name rest : List Char}
    (h : readName? text = some (name, rest)) : rest.length < text.length := by
  unfold readName? at h
  split at h
  · rename_i hdrop
    have hle := (List.dropWhile_sublist (l := text) (· != '>')).length_le
    rw [hdrop] at hle
    split at h
    · cases h
      exact hle
    · cases h
  · cases h

private theorem length_of_readOpening? {m : Mode} {opening : Opening} {text rest : List Char}
    (h : readOpening? m text = some (opening, rest)) : rest.length ≤ text.length := by
  unfold readOpening? at h
  split at h
  iterate 2
    rename_i hskip
    have hlt := Mode.length_lt_of_skip hskip
    simp only [List.length_cons] at hlt
    obtain ⟨⟨name, left⟩, hname, hrest⟩ := Option.map_eq_some_iff.1 h
    cases hrest
    have hleft := length_of_readName? hname
    omega
  · rename_i hskip
    have hlt := Mode.length_lt_of_skip hskip
    split at h
    iterate 2
      rename_i hflags
      have hle := Mode.length_of_readFlags? hflags
      simp only [List.length_cons] at hle
      cases h
      omega
    · cases h
  · cases h
    exact m.length_skip_le text

private theorem text_of_open? {s t : Reading} {opening : Opening} {rest : List Char}
    (h : s.open? opening rest = some t) : t.text = rest := by
  cases opening with
  | change mode =>
    cases h
    rfl
  | group name? mode =>
    simp only [open?] at h
    split at h
    · cases h
    · cases h
      rfl

private theorem text_of_close? {s t : Reading} {rest : List Char} (h : s.close? rest = some t) :
    t.text = rest := by
  unfold close? at h
  split at h
  · cases h
  · cases h
    rfl

private theorem length_of_step? {s t : Reading} (h : s.step? = some t) :
    t.text.length < s.text.length := by
  unfold step? at h
  split at h
  · cases h
  · rename_i c rest hskip
    have hlt := Mode.length_lt_of_skip hskip
    split at h
    · obtain ⟨⟨opening, left⟩, hopening, hopen⟩ := Option.bind_eq_some_iff.1 h
      rw [text_of_open? hopen]
      exact Nat.lt_of_le_of_lt (length_of_readOpening? hopening) hlt
    · rw [text_of_close? h]
      exact hlt
    · cases h
      exact hlt
    · obtain ⟨⟨depth, left⟩, hbracket, ht⟩ := Option.map_eq_some_iff.1 h
      cases ht
      exact Nat.lt_trans (Bracket.length_of_read? hbracket) hlt
    iterate 3
      obtain ⟨inner, _, ht⟩ := Option.map_eq_some_iff.1 h
      cases ht
      simp only
      split
      · have htail : rest.tail.length ≤ rest.length := by simp
        exact Nat.lt_of_le_of_lt htail hlt
      · exact hlt
    · cases h
    · split at h
      · rename_i hatom
        split at h
        · cases h
          exact Nat.lt_of_lt_of_le (length_of_readAtom? hatom)
            (hskip ▸ s.mode.length_skip_le s.text)
        · cases h
      · cases h

/-! ## Patterns -/

/-- Whether a pattern can end where it has been read to. -/
def isComplete (s : Reading) : Bool :=
  s.outer.isEmpty && s.inner.content ≤ depthLimit

/-- Whether the rest of a pattern can be read. -/
def accepts (s : Reading) : Bool :=
  match _h : s.step? with
  | some next => next.accepts
  | none => s.mode.skip s.text = [] && s.isComplete
termination_by s.text.length
decreasing_by exact length_of_step? _h

end Reading

/-- Whether a text is a pattern. -/
def isPattern (text : List Char) : Bool :=
  Reading.accepts ⟨.initial, [], .opened .initial, [], text⟩

end Utf8Text.Log.Pattern
