import Utf8Text.Diagnostic.Report
import Utf8Text.Proofs.Lossy
import Utf8Text.Proofs.Numeral
import Utf8Text.Proofs.Position
import Utf8Text.Proofs.Reader
import Utf8Text.Proofs.Snippet

/-!
# Reports point at the bad byte

A report of a decode error names the line and the column of the byte where
decoding stopped, and quotes that line with a caret below the character that
stands for the byte (`report_points_at_lead`). The caret and the quoted line meet
because

* the window on a wide line shows the column pointed at, and the caret moves with
  the window (`DisplayedLine.snippet_getElem?_caret`);
* the bytes from the error on are displayed from a replacement character on
  (`DisplayedLine.ofOffset_getElem?_column`);
* both gutters take the same number of columns, whatever the line number.
-/

namespace Utf8Text.Diagnostic

open Decoding

/-! ## The quoted line -/

theorem ne_lineFeed_of_decode_error {lead : UInt8} {rest : Bytes} {fault : DecodeFault}
    (h : decode (lead :: rest) = .error fault) : lead ≠ lineFeed := by
  rintro rfl
  have hone : sequenceLength lineFeed = 1 := rfl
  rw [decode_eq_error_iff, hone] at h
  omega

/-- The line of an error shows a replacement character where the error is. -/
theorem DisplayedLine.ofOffset_getElem?_column {text : Bytes} {e : DecodeError}
    (h : (ofBytes text).error? = some e) :
    (DisplayedLine.ofOffset text e.offset).characters[
        (DisplayedLine.ofOffset text e.offset).column]? = some Display.replacement := by
  obtain ⟨-, rest, hdrop, hdecode⟩ := decode_drop_error h
  have hlead := ne_lineFeed_of_decode_error hdecode
  -- the line may end before the bytes that the lead byte announces
  have hshort : (rest.takeWhile (· ≠ lineFeed)).length ≤ rest.length :=
    (List.takeWhile_prefix _).length_le
  obtain ⟨shown, hshown⟩ := Display.lossy_of_decode_error hdecode hshort
  have hright : (text.drop e.offset).takeWhile (· ≠ lineFeed)
      = e.lead :: rest.takeWhile (· ≠ lineFeed) := by
    rw [hdrop, List.takeWhile_cons_of_pos (by simpa using hlead)]
  simp only [ofOffset, lineAround, hright, hshown]
  rw [List.getElem?_append_right (Nat.le_refl _), Nat.sub_self, List.getElem?_cons_zero]

theorem lineFeed_not_mem_characters (text : Bytes) (offset : Nat) :
    '\n' ∉ (DisplayedLine.ofOffset text offset).characters := by
  have hright : lineFeed ∉ (text.drop offset).takeWhile (· ≠ lineFeed) := by
    intro hmem
    have hne := List.mem_takeWhile_imp hmem
    simp at hne
  simp only [DisplayedLine.ofOffset, lineAround, List.mem_append, not_or]
  exact ⟨Display.lineFeed_not_mem_lossy (lineFeed_not_mem_lastLine _),
    Display.lineFeed_not_mem_lossy hright⟩

theorem lineFeed_not_mem_content (text : Bytes) (offset : Nat) :
    '\n' ∉ (Snippet.ofOffset text offset).content := by
  have hcharacters := lineFeed_not_mem_characters text offset
  have hellipsis (shown : Bool) : '\n' ∉ if shown then ellipsis else [] := by
    cases shown <;> decide
  simp only [Snippet.ofOffset, DisplayedLine.snippet, List.mem_append, not_or]
  refine ⟨⟨hellipsis _, ?_⟩, hellipsis _⟩
  intro hmem
  exact hcharacters (List.mem_of_mem_drop (List.mem_of_mem_take hmem))

/-! ## The place -/

/-- The place of a byte that does not end a line, counted from zero, is where it
stands in the lines of the text. -/
theorem getElem?_place {text : Bytes} {offset : Nat} {b : UInt8} (h : text[offset]? = some b)
    (hb : b ≠ lineFeed) :
    ∃ line column, Position.ofOffset text offset = ⟨line + 1, column + 1⟩
      ∧ (splitOn lineFeed text)[line]?.bind (·[column]?) = some b := by
  obtain ⟨hoffset, hget⟩ := List.getElem?_eq_some_iff.mp h
  refine ⟨(text.take offset).count lineFeed, (lastLine (text.take offset)).length,
    Position.ofOffset_eq hoffset.le, ?_⟩
  have hline := splitOn_getElem?_count (text.take offset) (text.drop offset)
  rw [List.take_append_drop, List.drop_eq_getElem_cons hoffset, hget,
    List.takeWhile_cons_of_pos (by simpa using hb)] at hline
  rw [hline, Option.bind_some, List.getElem?_append_right (Nat.le_refl _), Nat.sub_self,
    List.getElem?_cons_zero]

/-- What a report begins with: a line that names the error and the byte it is at, and one
with the place of that byte in the text behind the name. -/
def Names (p : Palette) (e : DecodeError) (text : Bytes) (name shown : List Char) : Prop :=
  ∃ line column behind,
    shown = (p.paint p.error "error".toList ++ ": ".toList ++ e.fault.message ++ " (byte ".toList
          ++ Display.byte e.lead ++ ")".toList)
        ++ '\n' :: ("  ".toList ++ p.paint p.location ("--> ".toList ++ name ++ ":".toList
          ++ Numeral.decimal (line + 1) ++ ":".toList ++ Numeral.decimal (column + 1)))
        ++ '\n' :: behind
      ∧ (splitOn lineFeed text)[line]?.bind (·[column]?) = some e.lead

theorem names_report {text : Bytes} {e : DecodeError} (h : (ofBytes text).error? = some e)
    (p : Palette) (name : List Char) : Names p e text name (report p e text name) := by
  obtain ⟨-, rest, -, hdecode⟩ := decode_drop_error h
  obtain ⟨line, column, hplace, hlead⟩ := getElem?_place (error_describes h).lead
    (ne_lineFeed_of_decode_error hdecode)
  have hlines : reportLines p e text name
      = headline p e :: location p name ⟨line + 1, column + 1⟩
        :: (reportLines p e text name).drop 2 := by
    rw [← hplace]
    rfl
  refine ⟨line, column, ((reportLines p e text name).drop 2).flatMap (· ++ ['\n']), ?_, hlead⟩
  show report p e text name = headline p e ++ '\n' :: location p name ⟨line + 1, column + 1⟩ ++ _
  rw [report, hlines, List.flatMap_cons, List.flatMap_cons]
  simp only [List.append_assoc, List.cons_append, List.nil_append, List.drop_succ_cons,
    List.drop_zero]

/-! ## No control characters -/

theorem blank_le_ofNat_of_isPrintableAscii {b : UInt8}
    (h : Display.isPrintableAscii b = true) : ' ' ≤ Char.ofNat b.toNat := by
  rw [Display.isPrintableAscii, Bool.and_eq_true, decide_eq_true_eq] at h
  have hvalid : b.toNat.isValidChar := .inl (b.toNat_lt.trans (by decide))
  have hofNat : Char.ofNat b.toNat = Char.ofNatAux b.toNat hvalid := dif_pos hvalid
  rw [hofNat]
  exact UInt8.le_iff_toNat_le.mp h.1

section
variable {c : Char} (hc : c < ' ')
include hc

theorem control_not_mem {text : List Char} (htext : text.all (' ' ≤ ·) = true) : c ∉ text := by
  intro hmem
  exact Char.not_lt.mpr (decide_eq_true_iff.mp (List.all_eq_true.mp htext c hmem)) hc

theorem digitValue?_control : Numeral.digitValue? c = none := by
  have hnot {x : Char} (hx : ' ' ≤ x) : ¬ x ≤ c := fun hle =>
    Char.not_lt.mpr (Char.le_trans hx hle) hc
  have hzero : ¬ '0' ≤ c := hnot (by decide)
  have hlower : ¬ 'a' ≤ c := hnot (by decide)
  have hupper : ¬ 'A' ≤ c := hnot (by decide)
  simp only [Numeral.digitValue?, hzero, hlower, hupper, false_and, if_false]

theorem control_not_mem_decimal (n : Nat) : c ∉ Numeral.decimal n :=
  Numeral.not_mem_decimal (digitValue?_control hc) n

theorem control_not_mem_byte (b : UInt8) : c ∉ Display.byte b := by
  have hdigits : c ∉ Numeral.hexByte b :=
    Numeral.not_mem_hexPadded (digitValue?_control hc) 2 b.toNat
  rw [Display.byte, List.mem_append, List.mem_append, not_or, not_or]
  refine ⟨⟨control_not_mem hc (by decide), hdigits⟩, ?_⟩
  split
  · rename_i hprint
    have hshown := blank_le_ofNat_of_isPrintableAscii hprint
    have hquoted : (Display.quotedChar (.ofNat b.toNat)).all (' ' ≤ ·) = true := by
      rw [Display.quotedChar]
      split <;> simp [hshown]
    rw [List.mem_append, List.mem_append, not_or, not_or]
    exact ⟨⟨control_not_mem hc (by decide), control_not_mem hc hquoted⟩,
      control_not_mem hc (by decide)⟩
  · exact List.not_mem_nil

end

/-! ## The lines of a report -/

@[simp] theorem paint_plain (text : List Char) : Palette.plain.paint [] text = text :=
  List.append_nil text

@[simp] theorem headline_plain (e : DecodeError) :
    headline .plain e
      = "error: ".toList ++ e.fault.message ++ " (byte ".toList ++ Display.byte e.lead
          ++ ")".toList := rfl

@[simp] theorem location_plain (name : List Char) (place : Position) :
    location .plain name place
      = "  --> ".toList ++ name ++ ":".toList ++ Numeral.decimal place.line ++ ":".toList
          ++ Numeral.decimal place.column := by
  show "  ".toList ++ Palette.plain.paint [] _ = _
  rw [paint_plain]
  rfl

@[simp] theorem blankGutter_plain (line : Nat) :
    blankGutter .plain line = List.replicate (gutterWidth line + 2) ' ' ++ ['|'] := rfl

@[simp] theorem numberedGutter_plain (line : Nat) :
    numberedGutter .plain line
      = [' '] ++ (Numeral.decimal line).leftpad (gutterWidth line) ' ' ++ [' ', '|'] := by
  show [' '] ++ Palette.plain.paint [] _ ++ [' '] ++ ['|'] = _
  rw [paint_plain, List.append_assoc]
  rfl

/-- Both gutters take the same number of columns: the line number fits into its own. -/
theorem length_numberedGutter (line : Nat) :
    (numberedGutter .plain line).length = (blankGutter .plain line).length := by
  have hfits : (Numeral.decimal line).length ≤ gutterWidth line := Nat.le_max_left _ _
  simp only [numberedGutter_plain, blankGutter_plain, List.length_append, List.length_leftpad,
    List.length_replicate, List.length_cons, List.length_nil]
  omega

/-- The line of the caret, where `caret` columns are left of it. -/
def pointer (line caret : Nat) (fault : DecodeFault) : List Char :=
  blankGutter .plain line ++ [' '] ++ List.replicate caret ' ' ++ '^' :: ' ' :: hint fault

theorem reportLines_plain (e : DecodeError) (text : Bytes) (name : List Char) :
    reportLines .plain e text name
      = [headline .plain e, location .plain name (.ofOffset text e.offset),
          blankGutter .plain (Position.ofOffset text e.offset).line,
          numberedGutter .plain (Position.ofOffset text e.offset).line ++ [' ']
            ++ (Snippet.ofOffset text e.offset).content,
          pointer (Position.ofOffset text e.offset).line (Snippet.ofOffset text e.offset).caret
            e.fault,
          []] := by
  have hpointer (before : List Char) :
      before ++ Palette.plain.paint [] ['^'] ++ [' '] ++ Palette.plain.paint [] (hint e.fault)
        = before ++ '^' :: ' ' :: hint e.fault := by
    simp only [paint_plain, List.append_assoc, List.cons_append, List.nil_append]
  rw [pointer, ← hpointer]
  rfl

theorem lineFeed_not_mem_reportLines (e : DecodeError) (text : Bytes) {name : List Char}
    (hname : '\n' ∉ name) : ∀ l ∈ reportLines .plain e text name, '\n' ∉ l := by
  have hmessage : '\n' ∉ e.fault.message := by cases e.fault <;> decide
  have hhint : '\n' ∉ hint e.fault := by cases e.fault <;> decide
  simp [reportLines_plain, pointer, List.leftpad, hname, hmessage, hhint,
    control_not_mem_byte (c := '\n') (by decide), control_not_mem_decimal (c := '\n') (by decide),
    lineFeed_not_mem_content]

/-! ## The caret -/

section
variable (line caret : Nat) (fault : DecodeFault)

theorem caret_not_mem_before :
    '^' ∉ blankGutter .plain line ++ [' '] ++ List.replicate caret ' ' := by
  simp

theorem count_pointer : (pointer line caret fault).count '^' = 1 := by
  have hbefore := List.count_eq_zero.mpr (caret_not_mem_before line caret)
  have hhint : (hint fault).count '^' = 0 := by cases fault <;> decide
  rw [pointer, List.count_append, hbefore, List.count_cons_self,
    List.count_cons_of_ne (by decide), hhint]

theorem idxOf_pointer :
    (pointer line caret fault).idxOf '^' = (blankGutter .plain line).length + 1 + caret := by
  rw [pointer, List.idxOf_append_of_notMem (caret_not_mem_before line caret),
    List.idxOf_cons_self, Nat.add_zero, List.length_append, List.length_append,
    List.length_replicate, List.length_singleton]

end

/-- The quoted line has below its gutter and a blank what the caret line has. -/
theorem getElem?_quoted (line caret : Nat) (fault : DecodeFault) (content : List Char) :
    (numberedGutter .plain line ++ [' '] ++ content)[(pointer line caret fault).idxOf '^']?
      = content[caret]? := by
  have hlength : (numberedGutter .plain line ++ [' ']).length
      = (blankGutter .plain line).length + 1 := by
    rw [List.length_append, length_numberedGutter]
    rfl
  rw [idxOf_pointer, ← hlength, List.getElem?_append_right (Nat.le_add_right _ _),
    Nat.add_sub_cancel_left]

/-- **Reports point at the bad byte.** A report is six lines, the last of them
empty. The line and the column behind the name are those of the lead byte of the
error; the caret is the only one in its line, and the line above has a
replacement character there. -/
theorem report_points_at_lead {text : Bytes} {e : DecodeError}
    (h : .error e ∈ (Reader.ofBuffer (.borrow text)).rest.1) {name : List Char}
    (hname : '\n' ∉ name) :
    ∃ (headline place bar quoted pointer : List Char) (line column : Nat),
      splitOn '\n' (report .plain e text name)
          = [headline, place, bar, quoted, pointer, [], []]
        ∧ place = "  --> ".toList ++ name ++ ":".toList ++ Numeral.decimal (line + 1)
            ++ ":".toList ++ Numeral.decimal (column + 1)
        ∧ (splitOn lineFeed text)[line]?.bind (·[column]?) = some e.lead
        ∧ pointer.count '^' = 1
        ∧ quoted[pointer.idxOf '^']? = some '\uFFFD' := by
  have herror : (ofBytes text).error? = some e := by
    rw [Reader.rest_ofBuffer] at h
    exact error_mem_items_iff.mp h
  obtain ⟨-, rest, hdrop, hdecode⟩ := decode_drop_error herror
  obtain ⟨line, column, hplace, hlead⟩ := getElem?_place (error_describes herror).lead
    (ne_lineFeed_of_decode_error hdecode)
  have hshown := DisplayedLine.ofOffset_getElem?_column herror
  have hcaret := DisplayedLine.snippet_getElem?_caret
    (List.getElem?_eq_some_iff.mp hshown).choose
  have hlines := splitOn_flatMap_append_separator (lineFeed_not_mem_reportLines e text hname)
  rw [← report, reportLines_plain, hplace] at hlines
  refine ⟨_, _, _, _, _, line, column, hlines, location_plain .., hlead, count_pointer .., ?_⟩
  rw [getElem?_quoted]
  exact hcaret.trans hshown

/-- A euro sign that lacks its last byte: it seems to take in the line feed
behind it, but the quoted line ends before that. -/
theorem report_points_at_broken_euro :
    let text : Bytes := [0x6F, 0x6B, 0x0A, 0x61, 0xE2, 0x0A]
    let e : DecodeError := ⟨.truncatedSequence, 4, 0xE2⟩
    .error e ∈ (Reader.ofBuffer (.borrow text)).rest.1
      ∧ ∃ (headline place bar quoted pointer : List Char) (line column : Nat),
        splitOn '\n' (report .plain e text "note.txt".toList)
            = [headline, place, bar, quoted, pointer, [], []]
          ∧ place = "  --> ".toList ++ "note.txt".toList ++ ":".toList
              ++ Numeral.decimal (line + 1) ++ ":".toList ++ Numeral.decimal (column + 1)
          ∧ (splitOn lineFeed text)[line]?.bind (·[column]?) = some 0xE2
          ∧ pointer.count '^' = 1
          ∧ quoted[pointer.idxOf '^']? = some '\uFFFD' := by
  intro text e
  have hitem : .error e ∈ (Reader.ofBuffer (.borrow text)).rest.1 := by decide
  have hname : '\n' ∉ "note.txt".toList := by decide
  exact ⟨hitem, report_points_at_lead hitem hname⟩

example :
    reportLines .plain ⟨.truncatedSequence, 4, 0xE2⟩ [0x6F, 0x6B, 0x0A, 0x61, 0xE2, 0x0A]
        "note.txt".toList
      = ["error: truncated UTF-8 sequence (byte 0xE2)".toList,
          "  --> note.txt:2:2".toList,
          "     |".toList,
          "   2 | a\uFFFD".toList,
          "     |  ^ sequence runs past the end of the input".toList,
          []] := by
  decide +kernel

end Utf8Text.Diagnostic
