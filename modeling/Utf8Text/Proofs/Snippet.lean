import Utf8Text.Proofs.Lines
import Utf8Text.Proofs.Window

/-!
# Snippets in places

What a diagnostic shows of a line is here computed a second time, by places in the
text and in the line, with every difference and every part checked: `Snippet.ofOffset?`
has no value if a smaller number is taken from or a part is cut out that is not
there. It always has one, the snippet (`Snippet.ofOffset?_eq`).

The window on a line holds the column pointed at, as far as the line has one there
(`Window.around_shows`), and the caret moves with the window, so it keeps its
distance from the start of what is shown (`snippet_shows_window`).
-/

namespace Utf8Text

/-! ## Checked differences and parts -/

/-- The difference of two numbers, if there is one. -/
def difference? (a b : Nat) : Option Nat :=
  if b ≤ a then some (a - b) else none

theorem difference?_of_le {a b : Nat} (h : b ≤ a) : difference? a b = some (a - b) :=
  if_pos h

section
variable {α : Type}

/-- The part of a list between two places, if it has these places in this order. -/
def slice? (l : List α) (start stop : Nat) : Option (List α) :=
  if start ≤ stop ∧ stop ≤ l.length then some ((l.drop start).take (stop - start)) else none

theorem slice?_of_le {l : List α} {start stop : Nat} (hstart : start ≤ stop)
    (hstop : stop ≤ l.length) : slice? l start stop = some ((l.drop start).take (stop - start)) :=
  if_pos ⟨hstart, hstop⟩

theorem slice?_append (front part behind : List α) :
    slice? (front ++ part ++ behind) front.length (front.length + part.length) = some part := by
  rw [slice?_of_le (Nat.le_add_right _ _) (by simp), List.append_assoc, List.drop_left,
    Nat.add_sub_cancel_left, List.take_left]

/-- The place of the last element with a property. -/
def lastIndex? (p : α → Bool) : List α → Option Nat
  | [] => none
  | a :: rest =>
    match lastIndex? p rest with
    | some i => some (i + 1)
    | none => if p a then some 0 else none

theorem lastIndex?_eq_none {p : α → Bool} {l : List α} (h : ∀ a ∈ l, p a = false) :
    lastIndex? p l = none := by
  induction l with
  | nil => rfl
  | cons a rest ih =>
    have ha : p a = false := h a List.mem_cons_self
    rw [lastIndex?, ih fun b hb => h b (List.mem_cons_of_mem a hb)]
    simp [ha]

theorem lastIndex?_append_cons {p : α → Bool} (front : List α) {a : α} {tail : List α}
    (ha : p a = true) (htail : ∀ b ∈ tail, p b = false) :
    lastIndex? p (front ++ a :: tail) = some front.length := by
  induction front with
  | nil =>
    rw [List.nil_append, lastIndex?, lastIndex?_eq_none htail]
    exact if_pos ha
  | cons b front ih =>
    rw [List.cons_append, lastIndex?, ih]
    rfl

end

namespace Diagnostic

/-! ## The line, by places in the text -/

/-- The bytes of the line of an offset, before the offset and from it on: the text is
searched for a line feed from the offset backwards and forwards. -/
def lineAround? (text : Bytes) (offset : Nat) : Option (Bytes × Bytes) := do
  let place := min offset text.length
  let before ← slice? text 0 place
  let behind ← slice? text place text.length
  let start := (lastIndex? (· = lineFeed) before).elim 0 (· + 1)
  let stop := (behind.findIdx? (· = lineFeed)).elim text.length (place + ·)
  let left ← slice? text start place
  let right ← slice? text place stop
  return (left, right)

/-- Searching backwards finds what stands before the last line. -/
theorem exists_append_lastLine (before : Bytes) :
    ∃ front, before = front ++ lastLine before
      ∧ (lastIndex? (· = lineFeed) before).elim 0 (· + 1) = front.length := by
  have hfalse (line : Bytes) (hline : lineFeed ∉ line) (b : UInt8) (hb : b ∈ line) :
      decide (b = lineFeed) = false :=
    decide_eq_false (ne_of_mem_of_not_mem hb hline)
  rcases lastLine_cases before with ⟨hnot, hlast⟩ | ⟨front, hbefore, hnot⟩
  · refine ⟨[], hlast.symm, ?_⟩
    rw [lastIndex?_eq_none (hfalse before hnot)]
    rfl
  · generalize lastLine before = tail at hbefore hnot
    subst hbefore
    refine ⟨front ++ [lineFeed], by simp, ?_⟩
    rw [lastIndex?_append_cons front (decide_eq_true rfl) (hfalse tail hnot), List.length_append]
    rfl

theorem slice?_lastLine (before behind : Bytes) :
    slice? (before ++ behind) ((lastIndex? (· = lineFeed) before).elim 0 (· + 1)) before.length
      = some (lastLine before) := by
  obtain ⟨front, hbefore, hstart⟩ := exists_append_lastLine before
  have hslice := slice?_append front (lastLine before) behind
  rw [← List.length_append, ← hbefore] at hslice
  rwa [hstart]

/-- Searching forwards finds the end of the first line. -/
theorem slice?_takeWhile (before behind : Bytes) :
    slice? (before ++ behind) before.length
        ((behind.findIdx? (· = lineFeed)).elim (before ++ behind).length (before.length + ·))
      = some (behind.takeWhile (· ≠ lineFeed)) := by
  have hwhole (line : Bytes) (hline : lineFeed ∉ line) :
      ∀ b ∈ line, decide (b ≠ lineFeed) = true := by
    intro b hb
    exact decide_eq_true (ne_of_mem_of_not_mem hb hline)
  have hnone (line : Bytes) (hline : lineFeed ∉ line) :
      line.findIdx? (· = lineFeed) = none := by
    rw [List.findIdx?_eq_none_iff]
    intro b hb
    exact decide_eq_false (ne_of_mem_of_not_mem hb hline)
  by_cases hmem : lineFeed ∈ behind
  · obtain ⟨line, rest, rfl, hline⟩ := List.eq_append_cons_of_mem hmem
    have hindex : (line ++ lineFeed :: rest).findIdx? (· = lineFeed) = some line.length := by
      rw [List.findIdx?_append, hnone line hline, Option.none_or, List.findIdx?_cons]
      simp
    rw [hindex, List.takeWhile_append_of_pos (hwhole line hline),
      List.takeWhile_cons_of_neg (by simp), List.append_nil]
    have hslice := slice?_append before line (lineFeed :: rest)
    rwa [List.append_assoc] at hslice
  · rw [hnone behind hmem, List.takeWhile_eq_self_iff.mpr (hwhole behind hmem)]
    have hslice := slice?_append before behind []
    rw [List.append_nil, ← List.length_append] at hslice
    exact hslice

theorem lineAround?_eq (text : Bytes) (offset : Nat) :
    lineAround? text offset = some (lineAround text offset) := by
  have hplace : (text.take offset).length = min offset text.length := List.length_take
  have hleft := slice?_lastLine (text.take offset) (text.drop offset)
  have hright := slice?_takeWhile (text.take offset) (text.drop offset)
  have hbefore := slice?_append [] (text.take offset) (text.drop offset)
  have hbehind := slice?_append (text.take offset) (text.drop offset) []
  rw [← List.length_append, List.append_nil, List.take_append_drop, hplace] at hbehind
  rw [List.nil_append, List.length_nil, Nat.zero_add, List.take_append_drop, hplace] at hbefore
  rw [List.take_append_drop, hplace] at hleft hright
  simp only [lineAround?, lineAround, hbefore, hbehind, hleft, hright, Option.bind_eq_bind,
    Option.bind_some]
  rfl

/-! ## The window and the caret -/

/-- A window on a line of `total` characters is as wide as it can be and shows a
column of it, or ends behind its last one. -/
structure Window.Shows (w : Window) (total column : Nat) : Prop where
  width : w.stop - w.start = min maxWidth total
  start_le : w.start ≤ column
  le_stop : column ≤ w.stop
  stop_le : w.stop ≤ total
  lt_stop_or : column < w.stop ∨ column = total

theorem Window.around_shows {total column : Nat} (h : column ≤ total) :
    (Window.around total column).Shows total column := by
  have hwidth : maxWidth = 80 := rfl
  rcases around_cases total column with
    ⟨hnarrow, hw⟩ | ⟨hwide, hnear, hw⟩ | ⟨hwide, hfar, hend, hw⟩ | ⟨hfar, hend, hw⟩ <;>
    rw [hw] <;> constructor <;> dsimp only <;> omega

namespace DisplayedLine

variable {line : DisplayedLine}

/-- What is shown of a line, window by window: the part of the line, and the distance
of the caret from the start of that part. -/
def snippet? (line : DisplayedLine) : Option Snippet :=
  let total := line.characters.length
  if total ≤ maxWidth then some ⟨line.characters, line.column⟩
  else if line.column < maxWidth / 2 then do
    let shown ← slice? line.characters 0 maxWidth
    return ⟨shown ++ ellipsis, line.column⟩
  else do
    let edge ← difference? total (maxWidth / 2)
    if line.column ≥ edge then
      let start ← difference? total maxWidth
      let shown ← slice? line.characters start total
      let distance ← difference? line.column start
      return ⟨ellipsis ++ shown, distance + ellipsis.length⟩
    else
      let start ← difference? line.column (maxWidth / 2)
      let shown ← slice? line.characters start (min (start + maxWidth) total)
      let distance ← difference? line.column start
      return ⟨ellipsis ++ shown ++ ellipsis, distance + ellipsis.length⟩

theorem snippet?_eq (h : line.column ≤ line.characters.length) :
    line.snippet? = some line.snippet := by
  have hwidth : maxWidth = 80 := rfl
  rcases Window.around_cases line.characters.length line.column with
    ⟨hnarrow, -⟩ | ⟨hwide, hnear, hwindow⟩ | ⟨hwide, hfar, hend, hwindow⟩ | ⟨hfar, hend, hwindow⟩
  · rw [snippet?, if_pos hnarrow, snippet_of_narrow hnarrow]
  · rw [snippet?, if_neg (by omega), if_pos hnear, slice?_of_le (Nat.zero_le _) hwide.le]
    simp [snippet, hwindow]
  · have hedge : line.column ≥ line.characters.length - maxWidth / 2 := by omega
    rw [snippet?, if_neg (by omega), if_neg (by omega), difference?_of_le (by omega)]
    simp only [Option.bind_eq_bind, Option.bind_some]
    rw [if_pos hedge, difference?_of_le (by omega)]
    simp only [Option.bind_some]
    rw [slice?_of_le (by omega) (Nat.le_refl _), difference?_of_le (by omega)]
    simp [snippet, hwindow]
  · have hedge : ¬ line.column ≥ line.characters.length - maxWidth / 2 := by omega
    have hstop : min (line.column - maxWidth / 2 + maxWidth) line.characters.length
        = line.column + maxWidth / 2 := by omega
    rw [snippet?, if_neg (by omega), if_neg (by omega), difference?_of_le (by omega)]
    simp only [Option.bind_eq_bind, Option.bind_some]
    rw [if_neg hedge, difference?_of_le hfar]
    simp only [Option.bind_some]
    rw [hstop, slice?_of_le (by omega) (by omega), difference?_of_le (by omega)]
    simp [snippet, hwindow]

/-- **The caret** stands below the character pointed at, however much of the
line is left out. -/
theorem snippet_getElem?_caret (h : line.column < line.characters.length) :
    line.snippet.content[line.snippet.caret]? = line.characters[line.column]? := by
  have hshows := Window.around_shows h.le
  simp only [snippet]
  generalize Window.around line.characters.length line.column = window at hshows
  obtain ⟨-, hstart, -, htotal, hinside⟩ := hshows
  have hinside : line.column - window.start
      < ((line.characters.drop window.start).take (window.stop - window.start)).length := by
    rw [List.length_take, List.length_drop]
    omega
  rw [List.append_assoc, List.getElem?_append_right (Nat.le_add_left _ _), Nat.add_sub_cancel,
    List.getElem?_append_left hinside, List.getElem?_take_of_lt (by omega), List.getElem?_drop,
    Nat.add_sub_cancel' hstart]

/-- Behind the last character of a line the caret stands behind all that is shown. -/
theorem length_shown_of_column_eq (h : line.column = line.characters.length) :
    let window := Window.around line.characters.length line.column
    ((if window.ellipsisBefore then ellipsis else [])
        ++ (line.characters.drop window.start).take (window.stop - window.start)).length
      = line.snippet.caret := by
  intro window
  obtain ⟨-, hstart, hstop, htotal, -⟩ : window.Shows _ _ := Window.around_shows h.le
  show _ = line.column - window.start + (if window.ellipsisBefore then ellipsis else []).length
  rw [List.length_append, List.length_take, List.length_drop]
  omega

end DisplayedLine

/-- What is shown of the line of an offset, by places in the text and in the line. -/
def Snippet.ofOffset? (text : Bytes) (offset : Nat) : Option Snippet := do
  let (left, right) ← lineAround? text offset
  let shown := Display.lossy left
  DisplayedLine.snippet? ⟨shown ++ Display.lossy right, shown.length⟩

theorem DisplayedLine.column_ofOffset_le (text : Bytes) (offset : Nat) :
    (ofOffset text offset).column ≤ (ofOffset text offset).characters.length := by
  show (Display.lossy _).length ≤ (Display.lossy _ ++ _).length
  rw [List.length_append]
  exact Nat.le_add_right _ _

theorem Snippet.ofOffset?_eq (text : Bytes) (offset : Nat) :
    ofOffset? text offset = some (ofOffset text offset) := by
  rw [ofOffset?, lineAround?_eq]
  exact DisplayedLine.snippet?_eq (DisplayedLine.column_ofOffset_le text offset)

/-- **The snippet of any offset**, past the end of the text as well, has a value when
every difference and every part is checked. What is shown are as many characters of
the line as there are, up to the greatest width, in one part that the column lies in
or ends; the caret is below the character of the column, or behind what is shown if
there is none. -/
theorem snippet_shows_window (text : Bytes) (offset : Nat) :
    let place := min offset text.length
    let left := Display.lossy (lastLine (text.take place))
    let right := Display.lossy ((text.drop place).takeWhile (· ≠ lineFeed))
    let chars := left ++ right
    let window := Window.around chars.length left.length
    let before := if window.ellipsisBefore then ellipsis else []
    let shown := (chars.drop window.start).take (window.stop - window.start)
    let after := if window.ellipsisAfter then ellipsis else []
    let snippet := Snippet.ofOffset text offset
    Snippet.ofOffset? text offset = some snippet
      ∧ snippet.content = before ++ shown ++ after
      ∧ window.stop - window.start = min 80 chars.length
      ∧ window.start ≤ left.length ∧ left.length ≤ window.stop ∧ window.stop ≤ chars.length
      ∧ (left.length < window.stop ∨ left.length = chars.length)
      ∧ (left.length < chars.length → snippet.content[snippet.caret]? = chars[left.length]?)
      ∧ (left.length = chars.length → (before ++ shown).length = snippet.caret) := by
  intro place left right chars window before shown after snippet
  have htake : text.take place = text.take offset := List.take_eq_take_min.symm
  have hdrop : text.drop place = text.drop offset := List.drop_eq_drop_min.symm
  have hline : DisplayedLine.ofOffset text offset = ⟨chars, left.length⟩ := by
    simp only [chars, left, right, htake, hdrop]
    rfl
  have hsnippet : snippet = DisplayedLine.snippet ⟨chars, left.length⟩ := by
    show Snippet.ofOffset text offset = _
    rw [Snippet.ofOffset, hline]
  have hcolumn : left.length ≤ chars.length := by simp [chars]
  obtain ⟨hwidth, hstart, hstop, htotal, hinside⟩ : window.Shows chars.length left.length :=
    Window.around_shows hcolumn
  refine ⟨Snippet.ofOffset?_eq text offset, ?_, hwidth, hstart, hstop, htotal, hinside, ?_, ?_⟩
  · rw [hsnippet]
    rfl
  · intro hbefore
    rw [hsnippet]
    exact @DisplayedLine.snippet_getElem?_caret ⟨chars, left.length⟩ hbefore
  · intro hend
    rw [hsnippet]
    exact @DisplayedLine.length_shown_of_column_eq ⟨chars, left.length⟩ hend

/-- A line of a hundred letters, the one in the middle another letter: the caret is
below that, and behind the last one for an offset far past the end. -/
theorem snippet_of_wide_line :
    let text : Bytes := List.replicate 50 0x61 ++ 0x62 :: List.replicate 49 0x61
    let middle := Snippet.ofOffset text 50
    let behind := Snippet.ofOffset text (2 ^ 64 - 1)
    middle.content[middle.caret]? = some 'b'
      ∧ Snippet.ofOffset? text (2 ^ 64 - 1) = some behind
      ∧ behind.caret = 83 := by
  intro text middle behind
  obtain ⟨-, -, -, -, -, -, -, hmiddle, -⟩ := snippet_shows_window text 50
  obtain ⟨hvalue, -, -, -, -, -, -, -, hbehind⟩ := snippet_shows_window text (2 ^ 64 - 1)
  refine ⟨?_, hvalue, ?_⟩
  · rw [hmiddle (by decide +kernel)]
    decide +kernel
  · rw [← hbehind (by decide +kernel)]
    decide +kernel

end Diagnostic

end Utf8Text
