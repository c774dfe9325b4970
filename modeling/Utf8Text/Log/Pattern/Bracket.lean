import Utf8Text.Log.Pattern.Atom

/-!
# Brackets of a pattern

A bracket holds one of some characters: those of its items, which are single characters, ranges,
named classes and further brackets. Between groups of items can stand operators, which are applied
from left to right. Reading a bracket gives the depth to which it is nested.
-/

namespace Utf8Text.Log.Pattern

/-- The depth of parts that stand together: of several, one more than the greatest of theirs. -/
def together : List Nat → Nat
  | [] => 0
  | [depth] => depth
  | depths => depths.foldl max 0 + 1

/-! ## Items -/

/-- The names of the classes between `[:` and `:]`. -/
def classNames : List String :=
  ["alnum", "alpha", "ascii", "blank", "cntrl", "digit", "graph", "lower", "print", "punct",
    "space", "upper", "word", "xdigit"]

/-- Reads the name of a class with its end. -/
def readClassName? (text : List Char) : Option (List Char) :=
  match text.dropWhile (· != ':') with
  | ':' :: ']' :: rest =>
    if classNames.contains (String.ofList (text.takeWhile (· != ':'))) then some rest else none
  | _ => none

/-- Reads a named class behind its first bracket, and gives whether it is negated. -/
def readClass? : List Char → Option (Bool × List Char)
  | ':' :: '^' :: text => (readClassName? text).map (true, ·)
  | ':' :: text => (readClassName? text).map (false, ·)
  | _ => none

/-- Whether a named class is at hand in a mode. -/
def Mode.allowsClass (m : Mode) (negated : Bool) : Bool :=
  if m.bytewise then !negated else !m.ignoreCase

/-- Whether an atom can be an item. -/
def Atom.isItem (m : Mode) (a : Atom) : Bool :=
  match a with
  | .named negated => m.allowsNamed negated
  | _ => a.code?.any m.allowsCode

/-- Whether two atoms can be the ends of a range. -/
def Atom.isRange (m : Mode) (first last : Atom) : Bool :=
  match first.code?, last.code? with
  | some low, some high => m.allowsCode low && m.allowsCode high && low ≤ high
  | _, _ => false

/-- The character that is looked at behind a hyphen, to tell whether the hyphen makes a range. In a
spaced pattern blanks are passed over, but of a comment only its beginning. -/
def Mode.glimpse (m : Mode) (text : List Char) : Option Char :=
  if m.spaced then
    match text.dropWhile Display.isBlank with
    | '#' :: rest => (rest.dropWhile Display.isBlank).head? <|> text.head?
    | rest => rest.head? <|> text.head?
  else text.head?

/-- Reads a single character or a range, and gives what is left. A hyphen in front of a closing
bracket or of another hyphen makes no range. -/
def readItem? (m : Mode) (text : List Char) : Option (List Char) :=
  match readCharacter? m text with
  | none => none
  | some (first, rest) =>
    match m.skip rest with
    | '-' :: behind =>
      if m.glimpse behind = some ']' || m.glimpse behind = some '-' then
        if first.isItem m then some ('-' :: behind) else none
      else
        match readCharacter? m (m.skip behind) with
        | some (last, rest) => if first.isRange m last then some rest else none
        | none => none
    | rest => if first.isItem m then some rest else none

/-! ## Brackets -/

/-- A bracket that is still open. -/
structure Bracket where
  /-- The depth of all in front of the last operator, if there is one. -/
  left? : Option Nat
  /-- The depths of the items behind it. -/
  items : List Nat
  /-- Whether only hyphens have been read so far. These stand for themselves, and so does a closing
  bracket in the first place. -/
  fresh : Bool

namespace Bracket

/-- A bracket without items. -/
def opened : Bracket := ⟨none, [], true⟩

/-- A bracket with one more item. -/
def add (b : Bracket) (depth : Nat) : Bracket :=
  { b with items := depth :: b.items, fresh := false }

/-- A bracket with a character that stands for itself although it could mean something else. -/
def addFresh (b : Bracket) (c : Char) : Bracket :=
  { b with items := 0 :: b.items, fresh := c = '-' }

/-- The depth of what has been read. -/
def content (b : Bracket) : Nat :=
  match b.left? with
  | some left => max left (together b.items) + 1
  | none => together b.items

/-- A bracket with one more operator. -/
def operate (b : Bracket) : Bracket := ⟨some b.content, [], false⟩

/-- The depth of the whole bracket. -/
def depth (b : Bracket) : Nat := b.content + 1

/-- Reads the sign of a negated bracket, if it is there. -/
def readSign? (m : Mode) (text : List Char) : Option (List Char) :=
  match m.skip text with
  | '^' :: rest => if m.bytewise then none else some rest
  | rest => some rest

/-- Brackets within brackets, as far as they have been read. -/
structure Reading where
  inner : Bracket
  outer : List Bracket
  text : List Char

/-- Reads the next part of the innermost bracket. In the end gives the depth of the outermost one
with what is left. -/
def step? (m : Mode) (s : Reading) : Option (Reading ⊕ Nat × List Char) :=
  match m.skip s.text with
  | [] => none
  | '[' :: rest =>
    match readClass? rest with
    | some (negated, rest) =>
      if m.allowsClass negated then some (.inl ⟨s.inner.add 0, s.outer, rest⟩) else none
    | none => (readSign? m rest).map fun rest => .inl ⟨opened, s.inner :: s.outer, rest⟩
  | c :: rest =>
    if s.inner.fresh && (c = '-' || c = ']' && s.inner.items = []) then
      if m.allowsCode c.toNat then some (.inl ⟨s.inner.addFresh c, s.outer, rest⟩) else none
    else if c = ']' then
      match s.outer with
      | [] => some (.inr (s.inner.depth, rest))
      | next :: outer => some (.inl ⟨next.add s.inner.depth, outer, rest⟩)
    else if (c = '&' || c = '-' || c = '~') && rest.head? = some c then
      some (.inl ⟨s.inner.operate, s.outer, rest.tail⟩)
    else (readItem? m (c :: rest)).map fun rest => .inl ⟨s.inner.add 0, s.outer, rest⟩

/-! ## What is left of a text -/

private theorem length_of_readClassName? {text rest : List Char}
    (h : readClassName? text = some rest) : rest.length < text.length := by
  unfold readClassName? at h
  split at h
  · rename_i hdrop
    have hle := (List.dropWhile_sublist (l := text) (· != ':')).length_le
    rw [hdrop] at hle
    simp only [List.length_cons] at hle
    split at h
    · cases h
      omega
    · cases h
  · cases h

private theorem length_of_readClass? {negated : Bool} {text rest : List Char}
    (h : readClass? text = some (negated, rest)) : rest.length < text.length := by
  unfold readClass? at h
  split at h
  · obtain ⟨left, hname, hrest⟩ := Option.map_eq_some_iff.1 h
    cases hrest
    exact Nat.lt_succ_of_lt (Nat.lt_succ_of_lt (length_of_readClassName? hname))
  · obtain ⟨left, hname, hrest⟩ := Option.map_eq_some_iff.1 h
    cases hrest
    exact Nat.lt_succ_of_lt (length_of_readClassName? hname)
  · cases h

private theorem length_of_readItem? {m : Mode} {text rest : List Char}
    (h : readItem? m text = some rest) : rest.length < text.length := by
  unfold readItem? at h
  split at h
  · cases h
  · rename_i first left hfirst
    have hlt := length_of_readCharacter? hfirst
    split at h
    · rename_i behind hhyphen
      have hbehind := Mode.length_lt_of_skip hhyphen
      split at h
      · split at h
        · cases h
          simp only [List.length_cons]
          omega
        · cases h
      · split at h
        · rename_i last final hlast
          have hfinal := length_of_readCharacter? hlast
          have hskip := m.length_skip_le behind
          split at h
          · cases h
            omega
          · cases h
        · cases h
    · have hskip := m.length_skip_le left
      split at h
      · cases h
        omega
      · cases h

private theorem length_of_readSign? {m : Mode} {text rest : List Char}
    (h : readSign? m text = some rest) : rest.length ≤ text.length := by
  unfold readSign? at h
  split at h
  · rename_i hskip
    split at h
    · cases h
    · cases h
      exact Nat.le_of_lt (Mode.length_lt_of_skip hskip)
  · cases h
    exact m.length_skip_le text

private theorem length_of_step?_inl {m : Mode} {s t : Reading} (h : step? m s = some (.inl t)) :
    t.text.length < s.text.length := by
  unfold step? at h
  split at h
  · cases h
  · rename_i hskip
    have hlt := Mode.length_lt_of_skip hskip
    split at h
    · rename_i hclass
      have hrest := length_of_readClass? hclass
      split at h
      · cases h
        exact Nat.lt_trans hrest hlt
      · cases h
    · obtain ⟨rest, hsign, ht⟩ := Option.map_eq_some_iff.1 h
      cases ht
      exact Nat.lt_of_le_of_lt (length_of_readSign? hsign) hlt
  · rename_i c rest _ hskip
    have hlt := Mode.length_lt_of_skip hskip
    split at h
    · split at h
      · cases h
        exact hlt
      · cases h
    · split at h
      · split at h
        · cases h
        · cases h
          exact hlt
      · split at h
        · cases h
          have htail : rest.tail.length ≤ rest.length := by simp
          exact Nat.lt_of_le_of_lt htail hlt
        · obtain ⟨left, hitem, ht⟩ := Option.map_eq_some_iff.1 h
          cases ht
          exact Nat.lt_of_lt_of_le (length_of_readItem? hitem) (hskip ▸ m.length_skip_le s.text)

private theorem length_of_step?_inr {m : Mode} {s : Reading} {depth : Nat} {rest : List Char}
    (h : step? m s = some (.inr (depth, rest))) : rest.length < s.text.length := by
  unfold step? at h
  split at h
  · cases h
  · split at h
    · split at h <;> cases h
    · obtain ⟨rest, _, ht⟩ := Option.map_eq_some_iff.1 h
      cases ht
  · rename_i hskip
    split at h
    · split at h <;> cases h
    · split at h
      · split at h
        · cases h
          exact Mode.length_lt_of_skip hskip
        · cases h
      · split at h
        · cases h
        · obtain ⟨left, _, ht⟩ := Option.map_eq_some_iff.1 h
          cases ht

/-- Reads on to the end of the outermost bracket. -/
def finish? (m : Mode) (s : Reading) : Option (Nat × List Char) :=
  match _h : step? m s with
  | none => none
  | some (.inl next) => finish? m next
  | some (.inr result) => some result
termination_by s.text.length
decreasing_by exact length_of_step?_inl _h

private theorem length_of_finish? {m : Mode} {s : Reading} {depth : Nat} {rest : List Char}
    (h : finish? m s = some (depth, rest)) : rest.length < s.text.length := by
  fun_induction finish? m s with
  | case1 => simp at h
  | case2 s next hstep ih => exact Nat.lt_trans (ih h) (length_of_step?_inl hstep)
  | case3 s result hstep => exact length_of_step?_inr (Option.some.inj h ▸ hstep)

/-- Reads a bracket behind its opening, and gives its depth. -/
def read? (m : Mode) (text : List Char) : Option (Nat × List Char) :=
  (readSign? m text).bind fun rest => finish? m ⟨opened, [], rest⟩

theorem length_of_read? {m : Mode} {depth : Nat} {text rest : List Char}
    (h : read? m text = some (depth, rest)) : rest.length < text.length := by
  obtain ⟨inside, hsign, hfinish⟩ := Option.bind_eq_some_iff.1 h
  exact Nat.lt_of_lt_of_le (length_of_finish? hfinish) (length_of_readSign? hsign)

end Bracket

end Utf8Text.Log.Pattern
