import Mathlib.Data.List.Induction
import Utf8Text.Proofs.Quoted
import Utf8Text.Proofs.Snippet

/-!
# The caret in clean text

Two decoders meet in a diagnostic: the error is found by the lenient one, and the line
is displayed by the other. Standard bytes are displayed as the text they stand for
(`Display.lossy_utf8`), and a line feed is a byte of nothing but itself, so the last line
of such bytes is that of the text (`lastLine_utf8`). Where the bytes before an error are
standard, the caret therefore counts the codepoints that were read since the last line
feed (`caret_counts_codepoints`).
-/

namespace Utf8Text

open Decoding

namespace Diagnostic

/-! ## The last line of a text -/

/-- The last line of standard bytes is what the text has behind its last line feed. -/
theorem lastLine_utf8 (text : List Char) :
    lastLine (utf8 text) = utf8 (text.reverse.takeWhile (· ≠ '\n')).reverse := by
  induction text using List.reverseRecOn with
  | nil => rfl
  | append_singleton text c ih =>
    have hbytes : utf8 (text ++ [c]) = utf8 text ++ String.utf8EncodeChar c := by
      simp [utf8]
    rw [hbytes, List.reverse_append, List.reverse_singleton, List.singleton_append]
    by_cases hc : c = '\n'
    · subst hc
      rw [List.takeWhile_cons_of_neg (by simp)]
      exact lastLine_append_lineFeed (utf8 text) List.not_mem_nil
    · rw [lastLine_append_of_not_mem _ fun h => hc (eq_newline_of_lineFeed_mem h), ih,
        List.takeWhile_cons_of_pos (by simpa using hc), List.reverse_cons]
      simp [utf8]

end Diagnostic

/-! ## Clean text before an error -/

namespace Decoding

/-- Where the bytes before an error are standard, the codepoints read are those of
their text. -/
theorem codepoints_of_take_eq_utf8 {text : Bytes} {e : DecodeError} {front : List Char}
    (herror : (ofBytes text).error? = some e) (hfront : text.take e.offset = utf8 front) :
    (ofBytes text).codepoints = front.map Char.toNat := by
  obtain ⟨hcodepoints, hnone⟩ := ofBytes_utf8 front
  have hoffset := (decode_drop_error herror).1
  have hlength : (utf8 front).length = e.offset := by
    rw [← hfront, List.length_take_of_le]
    exact hoffset.trans_le (stop_le_length text)
  have hread := ofBytes_append hnone (text.drop e.offset)
  rw [← hfront, List.take_append_drop, hfront, hlength] at hread
  -- the sequences in front reach up to the error, so there are none behind them
  have hstop : (ofBytes text).stop
      = (ofBytes (utf8 front)).stop + (ofBytes (text.drop e.offset)).stop := by
    rw [← stop_shift e.offset (ofBytes (text.drop e.offset)), hread, stop, List.map_append,
      List.sum_append]
    rfl
  rw [stop_eq_length hnone, hlength, ← hoffset] at hstop
  have hnil : (ofBytes (text.drop e.offset)).sequences = [] := by
    have hcount := length_le_sum_length (text.drop e.offset) 0
    rw [List.drop_zero] at hcount
    rw [← List.length_eq_zero_iff]
    simp only [stop] at hstop
    omega
  rw [← hcodepoints, hread, codepoints, shift, hnil]
  simp [codepoints]

end Decoding

namespace Diagnostic

/-- Near the start of its line, and in a line that is shown as a whole, the caret
stands as far to the right as there are characters in front. -/
theorem DisplayedLine.snippet_caret {line : DisplayedLine}
    (h : line.characters.length ≤ maxWidth ∨ line.column < maxWidth / 2) :
    line.snippet.caret = line.column := by
  have hwidth : maxWidth = 80 := rfl
  rcases Window.around_cases line.characters.length line.column with
    ⟨-, hwindow⟩ | ⟨-, -, hwindow⟩ | ⟨hwide, hfar, -, -⟩ | ⟨hfar, hend, -⟩
  · rw [snippet, hwindow]
    rfl
  · rw [snippet, hwindow]
    rfl
  · omega
  · omega

/-- **The caret counts codepoints** where the bytes before the error are well-formed
standard UTF-8: in front of it the line shows the codepoints that were read since the last
line feed, or from the start on if there was none. -/
theorem caret_counts_codepoints {b : Buffer} {cps : List Nat} {e : DecodeError}
    {front : List Char}
    (hread : (Reader.ofBuffer b).rest.1 = cps.map .codepoint ++ [.error e])
    (hclean : b.bytes.take e.offset = utf8 front) :
    let line := DisplayedLine.ofOffset b.bytes e.offset
    let since := (cps.reverse.takeWhile (· ≠ 0x0A)).reverse
    line.column = since.length
      ∧ (line.characters.take line.column).map Char.toNat = since
      ∧ (line.characters.length ≤ 80 ∨ since.length < 40 →
        (Snippet.ofOffset b.bytes e.offset).caret = since.length) := by
  intro line since
  rw [Reader.rest_ofBuffer] at hread
  obtain ⟨hcodepoints, herror⟩ := of_items_eq hread
  have hcps : cps = front.map Char.toNat := by
    rw [← hcodepoints]
    exact codepoints_of_take_eq_utf8 herror hclean
  have hleft : Display.lossy (lastLine (b.bytes.take e.offset))
      = (front.reverse.takeWhile (· ≠ '\n')).reverse := by
    rw [hclean, lastLine_utf8, Display.lossy_utf8]
  have hsince : (front.reverse.takeWhile (· ≠ '\n')).reverse.map Char.toNat = since := by
    have hpred : (fun cp => decide (cp ≠ 0x0A)) ∘ Char.toNat = fun c => decide (c ≠ '\n') := by
      funext c
      exact decide_eq_decide.mpr (not_congr (@Char.toNat_inj c '\n'))
    show _ = (cps.reverse.takeWhile _).reverse
    rw [hcps, ← List.map_reverse, List.takeWhile_map, hpred, List.map_reverse]
  have hcolumn : line.column = since.length := by
    show (Display.lossy _).length = _
    rw [hleft, ← hsince, List.length_map]
  have hbefore : line.characters.take line.column
      = Display.lossy (lastLine (b.bytes.take e.offset)) := List.take_left
  refine ⟨hcolumn, ?_, ?_⟩
  · rw [hbefore, hleft, hsince]
  · intro hnear
    rw [← hcolumn] at hnear ⊢
    exact DisplayedLine.snippet_caret hnear

/-- Behind a line feed two characters of three bytes each, and then a sequence that
breaks off: the caret is two places to the right. -/
theorem caret_counts_codepoints_of_two_ideographs :
    let b := Buffer.own (utf8 "a\n日本".toList ++ [0xC3])
    let cps := [0x61, 0x0A, 0x65E5, 0x672C]
    let e : DecodeError := ⟨.truncatedSequence, 8, 0xC3⟩
    (Reader.ofBuffer b).rest.1 = cps.map .codepoint ++ [.error e]
      ∧ b.bytes.take e.offset = utf8 "a\n日本".toList
      ∧ (DisplayedLine.ofOffset b.bytes e.offset).column = 2
      ∧ (Snippet.ofOffset b.bytes e.offset).caret = 2 := by
  intro b cps e
  have hread : (Reader.ofBuffer b).rest.1 = cps.map .codepoint ++ [.error e] := by decide
  have hclean : b.bytes.take e.offset = utf8 "a\n日本".toList := by decide
  obtain ⟨hcolumn, -, hcaret⟩ := caret_counts_codepoints hread hclean
  exact ⟨hread, hclean, hcolumn, hcaret (.inr (by decide))⟩

end Diagnostic

end Utf8Text
