import Utf8Text.Path
import Utf8Text.Proofs.Report
import Utf8Text.Proofs.Standard

/-!
# What bytes are made of

Bytes are displayed and quoted piece by piece, and the pieces are the same
(`map_shown_pieces`). Those of standard bytes are the characters of the text that they
stand for (`pieces_utf8`), so a path that was given as a text is shown as that text, and
quoted by its characters (`Path.text_coe`, `Path.debugText_coe`). Whatever the bytes are,
nothing between the quotes moves the line (`control_not_mem_quoted`).
-/

namespace Utf8Text

namespace Display

/-! ## Pieces -/

/-- How a piece is displayed. -/
def Piece.shown : Piece → Char
  | .character c => c
  | .broken _ => replacement

theorem map_shown_beginPiece (b : UInt8) :
    (beginPiece b).1.map Piece.shown = (begin b).1
      ∧ (beginPiece b).2.map Prod.fst = (begin b).2 := by
  rw [beginPiece, begin]
  split
  · exact ⟨rfl, rfl⟩
  · cases Pending.ofLead? b <;> exact ⟨rfl, rfl⟩

theorem map_shown_piecesAfter (held : Option Held) (bytes : Bytes) :
    (piecesAfter held bytes).map Piece.shown = lossyAfter (held.map Prod.fst) bytes := by
  induction bytes generalizing held with
  | nil => cases held <;> rfl
  | cons b bytes ih =>
    obtain ⟨hshown, hheld⟩ := map_shown_beginPiece b
    have hbegin : ((beginPiece b).1 ++ piecesAfter (beginPiece b).2 bytes).map Piece.shown
        = (begin b).1 ++ lossyAfter (begin b).2 bytes := by
      rw [List.map_append, hshown, ih, hheld]
    cases held with
    | none => exact hbegin
    | some held =>
      rw [piecesAfter, Option.map_some, lossyAfter]
      split
      · split
        · rw [List.map_cons, ih]
          rfl
        · exact ih _
      · rw [List.map_cons, hbegin]
        rfl

/-- **Displaying** bytes shows their pieces. -/
theorem map_shown_pieces (bytes : Bytes) : (pieces bytes).map Piece.shown = lossy bytes :=
  map_shown_piecesAfter none bytes

/-! ## Well-formed sequences -/

theorem Pending.accepts_of_isContinuation {p : Pending} {b : UInt8} (hlow : p.low = 0x80)
    (hhigh : p.high = 0xBF) (hb : IsContinuation b) : p.accepts b = true := by
  rw [accepts, hlow, hhigh, decide_eq_true hb.1, decide_eq_true hb.2, Bool.and_self]

/-- A sequence that is as long as it should be is one character. Only its first byte
after the lead may be refused although it is marked. -/
theorem piecesAfter_of_accepts {p : Pending} (held : Bytes) {first : UInt8} {others : Bytes}
    (hmissing : p.missing = others.length + 1) (hfirst : p.accepts first = true)
    (hothers : ∀ b ∈ others, IsContinuation b) (rest : Bytes) :
    piecesAfter (some (p, held)) (first :: others ++ rest)
      = .character
          (.ofNat ((first :: others).foldl (fun value b => value <<< 6 ||| payload b) p.value))
        :: pieces rest := by
  induction others generalizing p held first with
  | nil =>
    have hlast : p.missing = 1 := hmissing
    rw [List.cons_append, piecesAfter, if_pos hfirst, if_pos hlast]
    rfl
  | cons second others ih =>
    have hmore : p.missing ≠ 1 := by
      rw [hmissing, List.length_cons]
      omega
    have hsecond : (p.extend first).accepts second = true :=
      Pending.accepts_of_isContinuation rfl rfl (hothers second List.mem_cons_self)
    have hleft : (p.extend first).missing = others.length + 1 := by
      rw [Pending.missing_extend, hmissing, List.length_cons, Nat.add_sub_cancel]
    rw [List.cons_append, piecesAfter, if_pos hfirst, if_neg hmore]
    exact ih _ hleft hsecond fun b hb => hothers b (List.mem_cons_of_mem second hb)

/-- **What a lead byte begins** accepts the byte after it, if the sequence is marked, not
overlong, and stands for a scalar value. -/
theorem Pending.exists_ofLead?_eq {lead first : UInt8} {others : Bytes} {cp : Nat}
    (h : Layout lead (first :: others) cp) (hfirst : IsContinuation first)
    (hleast : leastOfLength (others.length + 2) ≤ cp) (hscalar : cp.isValidChar) :
    ∃ p, ofLead? lead = some p ∧ p.value = lead.toNat &&& leadMask (others.length + 2)
      ∧ p.missing = others.length + 1 ∧ p.accepts first = true := by
  have hmark := isContinuation_iff.mp hfirst
  simp only [Nat.isValidChar] at hscalar
  simp only [ofLead?, accepts, Bool.and_eq_true, decide_eq_true_iff, UInt8.le_iff_toNat_le,
    ← UInt8.toNat_inj, UInt8.reduceToNat]
  -- E0 and F0 may begin overlong forms, ED surrogates, and F4 values beyond all scalar values
  cases h with
  | two lo hi =>
    simp only [leastOfLength, List.length_nil] at hleast
    rw [if_pos (by omega)]
    refine ⟨_, rfl, rfl, rfl, ?_⟩
    simp only [UInt8.reduceToNat]
    omega
  | three lo hi | four lo hi =>
    simp only [leastOfLength, List.length_cons, List.length_nil] at hleast
    split_ifs
    all_goals try omega
    all_goals
      refine ⟨_, rfl, rfl, rfl, ?_⟩
      simp only [UInt8.reduceToNat]
      omega

/-- **A well-formed sequence** is its character. -/
theorem pieces_of_layout {lead : UInt8} {following : Bytes} {cp : Nat}
    (h : Layout lead following cp) (hmarked : ∀ b ∈ following, IsContinuation b)
    (hleast : leastOfLength (following.length + 1) ≤ cp) (hscalar : cp.isValidChar)
    (rest : Bytes) :
    pieces (lead :: following ++ rest) = .character (.ofNat cp) :: pieces rest := by
  rw [List.cons_append, pieces, piecesAfter, beginPiece]
  cases following with
  | nil =>
    cases h with
    | one hi =>
      have hascii : lead < 0x80 := UInt8.lt_iff_toNat_lt.mpr hi
      rw [if_pos hascii]
      rfl
  | cons first others =>
    have hbeyond : ¬ lead < 0x80 := by
      simp only [UInt8.lt_iff_toNat_lt, UInt8.reduceToNat]
      cases h <;> omega
    obtain ⟨p, hbegun, hvalue, hmissing, hfirst⟩ := Pending.exists_ofLead?_eq h
      (hmarked first List.mem_cons_self) hleast hscalar
    have hshown := piecesAfter_of_accepts [lead] hmissing hfirst
      (fun b hb => hmarked b (List.mem_cons_of_mem first hb)) rest
    have hassemble : (first :: others).foldl (fun value b => value <<< 6 ||| payload b) p.value
        = cp := by
      rw [hvalue]
      exact h.assemble_eq
    rw [if_neg hbeyond, hbegun, ← hassemble]
    exact hshown

/-- **Standard bytes** are made of the characters of the text that they stand for. -/
theorem pieces_utf8 (text : List Char) : pieces (utf8 text) = text.map .character := by
  induction text with
  | nil => rfl
  | cons c text ih =>
    obtain ⟨lead, following, hstandard, hlayout, hmarked, hleast⟩ := exists_utf8EncodeChar_eq c
    rw [utf8, List.flatMap_cons, hstandard, pieces_of_layout hlayout hmarked hleast c.valid,
      Char.ofNat_toNat, List.map_cons, ← ih]
    rfl

/-- Standard bytes are displayed as the text. -/
theorem lossy_utf8 (text : List Char) : lossy (utf8 text) = text := by
  rw [← map_shown_pieces, pieces_utf8, List.map_map]
  exact List.map_id text

/-! ## Quotes -/

theorem quoted_utf8 (text : List Char) :
    quoted (utf8 text) = '"' :: text.flatMap escapeChar ++ ['"'] := by
  rw [quoted, pieces_utf8, List.flatMap_map]
  rfl

theorem blank_le_of_standsAlone {c : Char} (h : standsAlone c = true) : ' ' ≤ c := by
  rw [standsAlone, Bool.and_eq_true, Bool.not_eq_true', Bool.not_eq_true'] at h
  by_contra hcontrol
  have hcode : c.toNat < 0x20 := Char.not_le.mp hcontrol
  have hrange : (0x0, 0x1F) ∈ unprintableRanges := .head _
  have hin : inRanges unprintableRanges c.toNat = true :=
    List.any_eq_true.mpr ⟨_, hrange, by simp; omega⟩
  rw [hin] at h
  cases h.2

section
open Diagnostic (control_not_mem digitValue?_control)

variable {c : Char} (hc : c < ' ')
include hc

theorem control_not_mem_escapeChar (x : Char) : c ∉ escapeChar x := by
  unfold escapeChar
  split_ifs with hnul htab hreturn hnewline hquote hprint
  · exact control_not_mem hc (by decide)
  · exact control_not_mem hc (by decide)
  · exact control_not_mem hc (by decide)
  · exact control_not_mem hc (by decide)
  · rcases hquote with rfl | rfl <;> exact control_not_mem hc (by decide)
  · exact control_not_mem hc (by simpa using blank_le_of_standsAlone hprint)
  · have hdigits := Numeral.not_mem_lowerHex (digitValue?_control hc) x.toNat
    rw [List.mem_append, List.mem_append, not_or, not_or]
    exact ⟨⟨control_not_mem hc (by decide), hdigits⟩, control_not_mem hc (by decide)⟩

/-- **Quoted bytes** have no control character in them, whatever they are. -/
theorem control_not_mem_quoted (bytes : Bytes) : c ∉ quoted bytes := by
  have hbyte (b : UInt8) : c ∉ "\\x".toList ++ Numeral.hexByte b := by
    have hdigits : c ∉ Numeral.hexByte b :=
      Numeral.not_mem_hexPadded (digitValue?_control hc) 2 b.toNat
    rw [List.mem_append, not_or]
    exact ⟨control_not_mem hc (by decide), hdigits⟩
  have hpiece (piece : Piece) : c ∉ piece.escape := by
    cases piece with
    | character x => exact control_not_mem_escapeChar hc x
    | broken held =>
      rw [Piece.escape, List.mem_flatMap]
      rintro ⟨b, -, hb⟩
      exact hbyte b hb
  have hquote : c ∉ ['"'] := control_not_mem hc (by decide)
  have hinner : c ∉ (pieces bytes).flatMap Piece.escape := by
    rw [List.mem_flatMap]
    rintro ⟨piece, -, hmem⟩
    exact hpiece piece hmem
  rw [quoted, List.mem_append, List.mem_cons, not_or, not_or]
  exact ⟨⟨fun h => hquote (h ▸ List.mem_singleton_self _), hinner⟩, hquote⟩

end

end Display

/-! ## Paths -/

namespace Path

/-- The path of a text is shown as the text. -/
@[simp] theorem text_coe (text : String) : (text : Path).text = text.toList :=
  Display.lossy_utf8 text.toList

theorem debugText_coe (text : String) :
    (text : Path).debugText = '"' :: text.toList.flatMap Display.escapeChar ++ ['"'] :=
  Display.quoted_utf8 text.toList

end Path

end Utf8Text
