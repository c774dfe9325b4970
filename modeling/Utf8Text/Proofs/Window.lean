import Utf8Text.Diagnostic.Snippet

/-!
# Windows on wide lines

Of a line that is too wide only a window is shown, and an ellipsis marks a side
on which something was left out. On the right the mark always tells the truth.
On the left it does but for a single column of a wide line: half the width into
the line, where the window begins at the start of the line and the mark stands in
front of it all the same (`ellipsis_iff_cut`).
-/

namespace Utf8Text.Diagnostic

namespace Window

/-- The four windows: a line as a whole, the start of a wide one, its end, and as
much on either side of the column. -/
theorem around_cases (total column : Nat) :
    (total ≤ maxWidth ∧ around total column = ⟨0, total, false, false⟩)
      ∨ (maxWidth < total ∧ column < maxWidth / 2
        ∧ around total column = ⟨0, maxWidth, false, true⟩)
      ∨ (maxWidth < total ∧ maxWidth / 2 ≤ column ∧ total ≤ column + maxWidth / 2
        ∧ around total column = ⟨total - maxWidth, total, true, false⟩)
      ∨ (maxWidth / 2 ≤ column ∧ column + maxWidth / 2 < total
        ∧ around total column
          = ⟨column - maxWidth / 2, column + maxWidth / 2, true, true⟩) := by
  have hwidth : maxWidth = 80 := rfl
  by_cases hnarrow : total ≤ maxWidth
  · exact .inl ⟨hnarrow, if_pos hnarrow⟩
  by_cases hleft : column < maxWidth / 2
  · refine .inr (.inl ⟨by omega, hleft, ?_⟩)
    rw [around, if_neg hnarrow, if_pos hleft]
  by_cases hright : column ≥ total - maxWidth / 2
  · refine .inr (.inr (.inl ⟨by omega, by omega, by omega, ?_⟩))
    rw [around, if_neg hnarrow, if_neg hleft, if_pos hright]
  · -- the column is far enough from the end that the window does not reach it
    have hstop : min (column - maxWidth / 2 + maxWidth) total = column + maxWidth / 2 := by
      omega
    refine .inr (.inr (.inr ⟨by omega, by omega, ?_⟩))
    rw [around, if_neg hnarrow, if_neg hleft, if_neg hright]
    dsimp only
    rw [hstop]

theorem around_bounds (total column : Nat) :
    (around total column).start ≤ (around total column).stop
      ∧ (around total column).stop ≤ total := by
  have hwidth : maxWidth = 80 := rfl
  rcases around_cases total column with
    ⟨-, h⟩ | ⟨hwide, -, h⟩ | ⟨-, -, -, h⟩ | ⟨-, hfar, h⟩ <;>
    rw [h] <;> constructor <;> dsimp only <;> omega

theorem ellipsisAfter_iff (total column : Nat) :
    (around total column).ellipsisAfter = true ↔ (around total column).stop < total := by
  rcases around_cases total column with
    ⟨-, h⟩ | ⟨hwide, -, h⟩ | ⟨-, -, -, h⟩ | ⟨-, hfar, h⟩ <;> rw [h]
  · exact iff_of_false Bool.false_ne_true (Nat.lt_irrefl total)
  · exact iff_of_true rfl hwide
  · exact iff_of_false Bool.false_ne_true (Nat.lt_irrefl total)
  · exact iff_of_true rfl hfar

/-- An ellipsis stands in front of a window that begins behind the start of its
line, and of the one that has just come away from being the start. -/
theorem ellipsisBefore_iff (total column : Nat) :
    (around total column).ellipsisBefore = true
      ↔ 0 < (around total column).start ∨ maxWidth < total ∧ column = maxWidth / 2 := by
  have hwidth : maxWidth = 80 := rfl
  rcases around_cases total column with
    ⟨hnarrow, h⟩ | ⟨-, hnear, h⟩ | ⟨hwide, -, -, h⟩ | ⟨hcolumn, hfar, h⟩ <;> rw [h]
  · exact iff_of_false Bool.false_ne_true (by dsimp only; omega)
  · exact iff_of_false Bool.false_ne_true (by dsimp only; omega)
  · exact iff_of_true rfl (.inl (Nat.sub_pos_of_lt hwide))
  · -- the window starts half the width in front of the column, so at zero only for one column
    refine iff_of_true rfl ?_
    dsimp only
    omega

/-- That window does begin at the start of its line. -/
theorem start_around_half (total : Nat) : (around total (maxWidth / 2)).start = 0 := by
  have hwidth : maxWidth = 80 := rfl
  rcases around_cases total (maxWidth / 2) with
    ⟨-, h⟩ | ⟨-, -, h⟩ | ⟨hwide, -, hend, -⟩ | ⟨-, -, h⟩
  · rw [h]
  · rw [h]
  · omega
  · rw [h]
    exact Nat.sub_self _

end Window

/-- A line that is not too wide is shown whole. -/
theorem DisplayedLine.snippet_of_narrow {line : DisplayedLine}
    (h : line.characters.length ≤ maxWidth) : line.snippet = ⟨line.characters, line.column⟩ := by
  have hwindow : Window.around line.characters.length line.column
      = ⟨0, line.characters.length, false, false⟩ := if_pos h
  simp [snippet, hwindow]

/-- **Ellipses**, in the quoted line of any offset. What is shown are the
characters of the line, those before the offset and those from it on, from the
start of the window up to its stop. An ellipsis behind them says exactly that
the line goes on there. An ellipsis in front of them says exactly that something
was left out there, unless the line is wide and half the width lies before the
offset. -/
theorem ellipsis_iff_cut (text : Bytes) (offset : Nat) :
    let left := Display.lossy (lastLine (text.take offset))
    let right := Display.lossy ((text.drop offset).takeWhile (· ≠ lineFeed))
    let line := left ++ right
    let window := Window.around line.length left.length
    window.start ≤ window.stop ∧ window.stop ≤ line.length
      ∧ (Snippet.ofOffset text offset).content
        = (if window.ellipsisBefore then ellipsis else [])
          ++ (line.drop window.start).take (window.stop - window.start)
          ++ (if window.ellipsisAfter then ellipsis else [])
      ∧ (window.ellipsisAfter = true ↔ window.stop < line.length)
      ∧ ((window.ellipsisBefore = true ↔ 0 < window.start)
        ↔ ¬ (maxWidth < line.length ∧ left.length = maxWidth / 2)) := by
  intro left right line window
  obtain ⟨hstart, hstop⟩ := Window.around_bounds line.length left.length
  refine ⟨hstart, hstop, rfl, Window.ellipsisAfter_iff _ _, ?_⟩
  rw [Window.ellipsisBefore_iff]
  by_cases hhalf : maxWidth < line.length ∧ left.length = maxWidth / 2
  · have hzero : window.start = 0 := by
      show (Window.around line.length left.length).start = 0
      rw [hhalf.2]
      exact Window.start_around_half _
    rw [hzero]
    exact iff_of_false (fun h => Nat.lt_irrefl 0 (h.mp (.inr hhalf))) (not_not_intro hhalf)
  · exact iff_of_true (or_iff_left hhalf) hhalf

/-- Forty letters in front of a bad byte and sixty behind it: the line is shown from
its first letter on, with an ellipsis in front of that. -/
theorem ellipsis_in_front_of_whole_start :
    let text : Bytes := List.replicate 40 0x61 ++ 0x80 :: List.replicate 60 0x61
    let line := DisplayedLine.ofOffset text 40
    let window := Window.around line.characters.length line.column
    (Snippet.ofOffset text 40).content
        = ellipsis ++ line.characters.take 80 ++ ellipsis
      ∧ window.start = 0
      ∧ ¬ (window.ellipsisBefore = true ↔ 0 < window.start) := by
  decide +kernel

end Utf8Text.Diagnostic
