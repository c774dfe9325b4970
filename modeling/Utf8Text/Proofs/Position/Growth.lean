import Mathlib.Data.Prod.Lex
import Utf8Text.Proofs.Position
import Utf8Text.Proofs.Snippet

/-!
# Places grow with offsets

One byte more goes on in the line or, behind a line feed, starts the next one
(`ofOffset_succ`); behind the end of the text it always goes on in the last line. So
places are ordered as their offsets are, also past the end, and a column is behind its
offset by the length of the lines before (`ofOffset_over_all_offsets`).
-/

namespace Utf8Text.Diagnostic

namespace Position

/-! ## One byte more -/

@[simp] theorem ofOffset_zero (text : Bytes) : ofOffset text 0 = ⟨1, 1⟩ := rfl

/-- **One byte more**: a line feed starts a line, and anything else, the end of the text
too, goes on in the line. -/
theorem ofOffset_succ (text : Bytes) (offset : Nat) :
    ofOffset text (offset + 1)
      = if text[offset]? = some lineFeed then ⟨(ofOffset text offset).line + 1, 1⟩
        else ⟨(ofOffset text offset).line, (ofOffset text offset).column + 1⟩ := by
  cases hbyte : text[offset]? with
  | none =>
    have hend : text.length ≤ offset := List.getElem?_eq_none_iff.mp hbyte
    have hend' : text.length ≤ offset + 1 := hend.trans (Nat.le_succ offset)
    rw [if_neg (by simp)]
    simp only [ofOffset, List.take_of_length_le hend, List.take_of_length_le hend', mk.injEq,
      true_and]
    omega
  | some b =>
    obtain ⟨hlt, -⟩ := List.getElem?_eq_some_iff.mp hbyte
    have htake : text.take (offset + 1) = text.take offset ++ [b] := by
      rw [List.take_add_one, hbyte]
      rfl
    rw [ofOffset_eq hlt, ofOffset_eq hlt.le, htake, List.count_append]
    by_cases hb : b = lineFeed
    · subst hb
      rw [if_pos rfl, lastLine_append_lineFeed _ List.not_mem_nil]
      rfl
    · have hnot : lineFeed ∉ [b] := by simpa [eq_comm] using hb
      rw [if_neg (by simpa using hb), lastLine_append_of_not_mem _ hnot,
        List.count_eq_zero.mpr hnot, List.length_append]
      rfl

theorem one_le_line (text : Bytes) (offset : Nat) : 1 ≤ (ofOffset text offset).line :=
  Nat.le_add_right 1 _

theorem one_le_column (text : Bytes) (offset : Nat) : 1 ≤ (ofOffset text offset).column :=
  Nat.le_add_left 1 _

/-! ## All offsets -/

/-- **Places are ordered as their offsets are**, by lines and then by columns. -/
theorem strictMono_ofOffset (text : Bytes) :
    StrictMono fun offset =>
      toLex ((ofOffset text offset).line, (ofOffset text offset).column) := by
  apply strictMono_nat_of_lt_succ
  intro offset
  rw [Prod.Lex.toLex_lt_toLex, ofOffset_succ]
  split
  · exact .inl (Nat.lt_succ_self _)
  · exact .inr ⟨rfl, Nat.lt_succ_self _⟩

/-- Past the end of a text the column goes on counting. -/
theorem ofOffset_length_add (text : Bytes) (beyond : Nat) :
    ofOffset text (text.length + beyond)
      = ⟨(ofOffset text text.length).line, (ofOffset text text.length).column + beyond⟩ := by
  induction beyond with
  | zero => rfl
  | succ beyond ih =>
    have hnone : text[text.length + beyond]? = none :=
      List.getElem?_eq_none_iff.mpr (Nat.le_add_right _ _)
    rw [← Nat.add_assoc, ofOffset_succ, ih, hnone, if_neg (by simp)]
    rfl

/-- A column is at most one more than its offset, and that only in the first line. -/
theorem column_le_and_eq_iff (text : Bytes) (offset : Nat) :
    (ofOffset text offset).column ≤ offset + 1
      ∧ ((ofOffset text offset).column = offset + 1 ↔ lineFeed ∉ text.take offset) := by
  induction offset with
  | zero => simp
  | succ offset ih =>
    obtain ⟨hle, hiff⟩ := ih
    have hmem : lineFeed ∈ text.take (offset + 1)
        ↔ lineFeed ∈ text.take offset ∨ text[offset]? = some lineFeed := by
      rw [List.take_add_one, List.mem_append, Option.mem_toList]
    rw [ofOffset_succ, hmem, not_or]
    split
    · rename_i hfeed
      simp [hfeed]
    · rename_i hbyte
      simp [hbyte, hle, hiff]

/-! ## The start of a line -/

/-- Where the line of an offset starts: the text is searched for a line feed from the
offset backwards. -/
def lineStart (text : Bytes) (offset : Nat) : Nat :=
  (lastIndex? (· = lineFeed) (text.take offset)).elim 0 (· + 1)

theorem lineStart_add_length_lastLine (text : Bytes) (offset : Nat) :
    lineStart text offset + (lastLine (text.take offset)).length
      = (text.take offset).length := by
  obtain ⟨front, hbefore, hstart⟩ := exists_append_lastLine (text.take offset)
  rw [lineStart, hstart, ← List.length_append, ← hbefore]

/-- The column of an offset is its distance from the start of the line, which is never
behind it. -/
theorem difference?_lineStart (text : Bytes) (offset : Nat) :
    difference? offset (lineStart text offset) = some ((ofOffset text offset).column - 1) := by
  have hstart := lineStart_add_length_lastLine text offset
  have hlength : (text.take offset).length ≤ offset := List.length_take_le _ _
  rw [difference?_of_le (by omega), Option.some.injEq, ofOffset]
  dsimp only
  omega

end Position

open Position

/-- **The place of any offset**, past the end of the text as well. Places are ordered as
their offsets are; lines and columns count from one on, and the start of the line is
never behind the offset; past the end the line is the last one and the column grows with
the offset. With the size of the text and the offset in 64 bits the column of only one
offset is too great for them, the last one, and only if the text is a single line. -/
theorem ofOffset_over_all_offsets (text : Bytes) :
    StrictMono (fun offset =>
        toLex ((ofOffset text offset).line, (ofOffset text offset).column))
      ∧ (∀ offset, 1 ≤ (ofOffset text offset).line ∧ 1 ≤ (ofOffset text offset).column
        ∧ ∃ distance, difference? offset (lineStart text offset) = some distance
          ∧ (ofOffset text offset).column = distance + 1)
      ∧ (∀ beyond, ofOffset text (text.length + beyond)
        = ⟨(ofOffset text text.length).line, (ofOffset text text.length).column + beyond⟩)
      ∧ (text.length < UInt64.size → ∀ offset < UInt64.size,
        (UInt64.size ≤ (ofOffset text offset).column
          ↔ offset = UInt64.size - 1 ∧ lineFeed ∉ text)) := by
  refine ⟨strictMono_ofOffset text, ?_, ofOffset_length_add text, ?_⟩
  · intro offset
    have hcolumn := one_le_column text offset
    exact ⟨one_le_line text offset, hcolumn, _, difference?_lineStart text offset,
      (Nat.sub_add_cancel hcolumn).symm⟩
  · intro hsize offset hoffset
    obtain ⟨hle, hiff⟩ := column_le_and_eq_iff text offset
    constructor
    · intro hlarge
      have hlast : offset = UInt64.size - 1 := by omega
      -- the last offset is not before the end of any text
      have hwhole : text.take offset = text := List.take_of_length_le (by omega)
      rw [hwhole] at hiff
      exact ⟨hlast, hiff.mp (by omega)⟩
    · rintro ⟨hlast, hnot⟩
      have hcolumn := hiff.mpr fun hmem => hnot (List.mem_of_mem_take hmem)
      omega

/-- With a single line the last offset of 64 bits has a column that is no longer one;
with a line feed anywhere it has one, but is still behind the end in order. -/
theorem ofOffset_over_all_offsets_at_last :
    let single : Bytes := [0x61, 0x62]
    let broken : Bytes := [0x61, 0x0A, 0x62]
    let last := 2 ^ 64 - 1
    single.length < UInt64.size ∧ broken.length < UInt64.size
      ∧ 2 ^ 64 ≤ (ofOffset single last).column
      ∧ (ofOffset broken last).line = 2 ∧ (ofOffset broken last).column < 2 ^ 64
      ∧ toLex ((ofOffset broken 3).line, (ofOffset broken 3).column)
        < toLex ((ofOffset broken last).line, (ofOffset broken last).column) := by
  intro single broken last
  have hsingle : single.length < UInt64.size := by decide
  have hbroken : broken.length < UInt64.size := by decide
  have hlast : last < UInt64.size := by decide
  obtain ⟨-, -, -, hlarge⟩ := ofOffset_over_all_offsets single
  obtain ⟨hordered, -, hpast, hlarge'⟩ := ofOffset_over_all_offsets broken
  refine ⟨hsingle, hbroken, ?_, ?_, ?_, hordered (by decide)⟩
  · exact (hlarge hsingle last hlast).mpr ⟨rfl, by decide⟩
  · have hplace := hpast (last - 3)
    rw [show broken.length + (last - 3) = last by decide] at hplace
    rw [hplace]
    decide
  · have hmem : lineFeed ∈ broken := by decide
    exact Nat.lt_of_not_le fun hle => ((hlarge' hbroken last hlast).mp hle).2 hmem

end Utf8Text.Diagnostic
