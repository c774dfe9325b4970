import Utf8Text.Proofs.Lines
import Utf8Text.Proofs.Window

/-!
# Places and offsets

The place of an offset says where in the lines of the text the offset is, so the
offset can be computed from it (`Position.offsetIn_ofOffset`) and no two offsets of a
text have the same place. The line that a diagnostic quotes is the line of the
place, cut at its column (`ofOffset_inverted_by_lines`).
-/

namespace Utf8Text.Diagnostic

namespace Position

/-- The offset of a place in a text of the given lines: the lines before its own, a
line feed for each of them, and what stands before it in its own line. -/
def offsetIn (lines : List Bytes) (place : Position) : Nat :=
  ((lines.take (place.line - 1)).map List.length).sum + (place.line - 1) + (place.column - 1)

section
variable {text : Bytes} {offset : Nat} (h : offset ≤ text.length)
include h

theorem ofOffset_eq :
    ofOffset text offset
      = ⟨(text.take offset).count lineFeed + 1, (lastLine (text.take offset)).length + 1⟩ := by
  have hbefore : (text.take offset).length = offset := List.length_take_of_le h
  have hlast := length_lastLine_le (text.take offset)
  simp only [ofOffset, mk.injEq]
  omega

theorem offsetIn_ofOffset : (ofOffset text offset).offsetIn (splitOn lineFeed text) = offset := by
  have hbefore : (text.take offset).length = offset := List.length_take_of_le h
  have hsum := sum_length_take_splitOn (text.take offset) (text.drop offset)
  rw [List.take_append_drop, hbefore] at hsum
  rw [ofOffset_eq h]
  exact hsum

end

/-- **Places are distinct.** -/
theorem ofOffset_inj {text : Bytes} {offset other : Nat} (h : offset ≤ text.length)
    (hother : other ≤ text.length) (heq : ofOffset text other = ofOffset text offset) :
    other = offset := by
  calc other = (ofOffset text other).offsetIn (splitOn lineFeed text) :=
        (offsetIn_ofOffset hother).symm
    _ = (ofOffset text offset).offsetIn (splitOn lineFeed text) := by rw [heq]
    _ = offset := offsetIn_ofOffset h

end Position

/-- **Splitting into lines inverts places.** The place of an offset is a column of a
line of the text, or the one behind its end, both counted from one on; and it gives
the offset back, so no other offset has it. What a diagnostic shows is made of that
line, with the bytes on either side of the column displayed by themselves; if it is not
too wide it is shown whole, and the caret is between the two sides. -/
theorem ofOffset_inverted_by_lines {text : Bytes} {offset : Nat} (h : offset ≤ text.length) :
    let place := Position.ofOffset text offset
    let lines := splitOn lineFeed text
    1 ≤ place.line ∧ place.line ≤ lines.length ∧ 1 ≤ place.column
      ∧ place.offsetIn lines = offset
      ∧ (∀ other ≤ text.length, Position.ofOffset text other = place → other = offset)
      ∧ ∃ line, lines[place.line - 1]? = some line ∧ place.column ≤ line.length + 1
        ∧ let left := Display.lossy (line.take (place.column - 1))
          let right := Display.lossy (line.drop (place.column - 1))
          let shown : DisplayedLine := ⟨left ++ right, left.length⟩
          DisplayedLine.ofOffset text offset = shown
            ∧ Snippet.ofOffset text offset = shown.snippet
            ∧ ((left ++ right).length ≤ maxWidth →
              Snippet.ofOffset text offset = ⟨left ++ right, left.length⟩) := by
  intro place lines
  have hplace : place = ⟨(text.take offset).count lineFeed + 1,
      (lastLine (text.take offset)).length + 1⟩ := Position.ofOffset_eq h
  have hline := splitOn_getElem?_count (text.take offset) (text.drop offset)
  rw [List.take_append_drop] at hline
  refine ⟨?_, ?_, ?_, Position.offsetIn_ofOffset h, ?_,
    lastLine (text.take offset) ++ (text.drop offset).takeWhile (· ≠ lineFeed), ?_, ?_, ?_⟩
  · rw [hplace]
    exact Nat.le_add_left 1 _
  · rw [hplace]
    exact (List.getElem?_eq_some_iff.mp hline).choose
  · rw [hplace]
    exact Nat.le_add_left 1 _
  · intro other hother heq
    exact Position.ofOffset_inj h hother heq
  · rw [hplace]
    exact hline
  · rw [hplace, List.length_append]
    show (lastLine (text.take offset)).length + 1 ≤ _
    omega
  · -- the column separates what stands before the offset in the line from the rest
    have hshown : DisplayedLine.ofOffset text offset
        = ⟨Display.lossy (lastLine (text.take offset))
            ++ Display.lossy ((text.drop offset).takeWhile (· ≠ lineFeed)),
          (Display.lossy (lastLine (text.take offset))).length⟩ := rfl
    rw [hplace]
    dsimp only
    rw [Nat.add_sub_cancel, List.take_left, List.drop_left]
    refine ⟨hshown, ?_, ?_⟩
    · rw [Snippet.ofOffset, hshown]
    · intro hnarrow
      rw [Snippet.ofOffset, hshown]
      exact DisplayedLine.snippet_of_narrow hnarrow

/-- The place of a line feed is behind the end of the line that it ends, not in the
line behind it. -/
theorem ofOffset_inverted_at_line_feed :
    let text : Bytes := [0x61, 0xC3, 0xA9, 0x0A, 0x0A, 0x62]
    3 ≤ text.length ∧ Position.ofOffset text 3 = ⟨1, 4⟩
      ∧ (Position.mk 1 4).offsetIn (splitOn lineFeed text) = 3
      ∧ (∀ other ≤ 6, Position.ofOffset text other = ⟨1, 4⟩ → other = 3)
      ∧ Snippet.ofOffset text 3 = ⟨"a\xe9".toList, 2⟩ := by
  intro text
  have hlength : 3 ≤ text.length := by decide
  have hplace : Position.ofOffset text 3 = ⟨1, 4⟩ := by decide
  obtain ⟨-, -, -, hoffset, hinj, line, hline, -, -, -, hsnippet⟩ :=
    ofOffset_inverted_by_lines hlength
  rw [hplace] at hoffset hinj hline hsnippet
  have hlines : splitOn lineFeed text = [[0x61, 0xC3, 0xA9], [], [0x62]] := by decide
  rw [hlines] at hline
  obtain rfl : [0x61, 0xC3, 0xA9] = line := Option.some.inj hline
  exact ⟨hlength, hplace, hoffset, hinj, hsnippet (by decide)⟩

end Utf8Text.Diagnostic
