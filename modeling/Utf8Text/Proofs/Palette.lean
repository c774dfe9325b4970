import Utf8Text.Proofs.Report

/-!
# Colours add only codes

A report in colours is the plain report with codes in it: deleting them gives the plain
report, line by line (`color_adds_only_codes`). Every part of a report shows as the
plain part whatever is behind it (`ShowsAs`), because

* a code is deleted whole, as no code is the beginning of another;
* outside of the codes there is no escape character, and codes begin with one.
-/

namespace Utf8Text.Diagnostic

/-! ## Deleting codes -/

/-- Deletes codes wherever they stand, from the front on; the first `skip` characters
still belong to a code. -/
def deleteFrom (codes : List (List Char)) : (skip : Nat) → List Char → List Char
  | _, [] => []
  | skip + 1, _ :: rest => deleteFrom codes skip rest
  | 0, c :: rest =>
    match codes.find? fun code => code ≠ [] && code.isPrefixOf (c :: rest) with
    | some code => deleteFrom codes (code.length - 1) rest
    | none => c :: deleteFrom codes 0 rest

/-- A text without the codes in it. -/
def withoutCodes (codes : List (List Char)) (text : List Char) : List Char :=
  deleteFrom codes 0 text

theorem deleteFrom_eq_drop (codes : List (List Char)) (skip : Nat) (text : List Char) :
    deleteFrom codes skip text = withoutCodes codes (text.drop skip) := by
  induction text generalizing skip with
  | nil => simp [withoutCodes, deleteFrom]
  | cons c rest ih =>
    cases skip with
    | zero => rfl
    | succ skip =>
      rw [deleteFrom, List.drop_succ_cons]
      exact ih skip

/-- Codes that begin with a mark and of which none is the beginning of another. -/
structure AreCodes (mark : Char) (codes : List (List Char)) : Prop where
  head : ∀ code ∈ codes, code.head? = some mark
  eq_of_isPrefix : ∀ code ∈ codes, ∀ other ∈ codes, code <+: other → code = other

section
variable {mark : Char} {codes : List (List Char)} (hcodes : AreCodes mark codes)
include hcodes

theorem withoutCodes_cons_of_ne {c : Char} (hc : c ≠ mark) (rest : List Char) :
    withoutCodes codes (c :: rest) = c :: withoutCodes codes rest := by
  have hnone : (codes.find? fun code => code ≠ [] && code.isPrefixOf (c :: rest)) = none := by
    rw [List.find?_eq_none]
    intro code hcode
    obtain ⟨tail, rfl⟩ := List.head?_eq_some_iff.mp (hcodes.head code hcode)
    simp [Ne.symm hc]
  rw [withoutCodes, deleteFrom, hnone]
  rfl

theorem withoutCodes_append_of_not_mem {text : List Char} (h : mark ∉ text) (rest : List Char) :
    withoutCodes codes (text ++ rest) = text ++ withoutCodes codes rest := by
  induction text with
  | nil => rfl
  | cons c text ih =>
    rw [List.mem_cons, not_or] at h
    rw [List.cons_append, withoutCodes_cons_of_ne hcodes (Ne.symm h.1), ih h.2, List.cons_append]

/-- What is found in front of a text that begins with a code is that code: another one
would be the beginning of it, or it of the other. -/
theorem find?_isPrefixOf_append {code : List Char} (hcode : code ∈ codes) (rest : List Char) :
    (codes.find? fun other => other ≠ [] && other.isPrefixOf (code ++ rest)) = some code := by
  obtain ⟨other, hfind⟩ : ∃ other,
      (codes.find? fun other => other ≠ [] && other.isPrefixOf (code ++ rest)) = some other := by
    obtain ⟨tail, rfl⟩ := List.head?_eq_some_iff.mp (hcodes.head code hcode)
    rw [← Option.isSome_iff_exists, List.find?_isSome]
    exact ⟨_, hcode, by simp⟩
  have hother := List.mem_of_find?_eq_some hfind
  have hholds := List.find?_some hfind
  rw [Bool.and_eq_true, List.isPrefixOf_iff_prefix] at hholds
  rw [hfind]
  rcases List.prefix_or_prefix_of_prefix hholds.2 (List.prefix_append code rest) with hle | hle
  · rw [hcodes.eq_of_isPrefix _ hother _ hcode hle]
  · rw [hcodes.eq_of_isPrefix _ hcode _ hother hle]

/-- A code is deleted whole. -/
theorem withoutCodes_code_append {code : List Char} (hcode : code ∈ codes) (rest : List Char) :
    withoutCodes codes (code ++ rest) = withoutCodes codes rest := by
  have hfind := find?_isPrefixOf_append hcodes hcode rest
  obtain ⟨tail, rfl⟩ := List.head?_eq_some_iff.mp (hcodes.head code hcode)
  rw [List.cons_append] at hfind
  rw [withoutCodes, List.cons_append, deleteFrom, hfind]
  show deleteFrom codes tail.length (tail ++ rest) = _
  rw [deleteFrom_eq_drop, List.drop_left]

end

/-! ## The codes of a palette -/

/-- The character that codes begin with. -/
def escape : Char := '\x1b'

/-- The codes of a palette. -/
def Palette.codes (p : Palette) : List (List Char) :=
  [p.error, p.location, p.lineNumber, p.caret, p.message, p.reset]

theorem areCodes_ansi : AreCodes escape Palette.ansi.codes where
  head := by decide
  eq_of_isPrefix := by decide

/-- A text in which only codes stand beside another text: without them it is that text,
whatever is behind it. -/
def ShowsAs (painted shown : List Char) : Prop :=
  ∀ rest, withoutCodes Palette.ansi.codes (painted ++ rest)
    = shown ++ withoutCodes Palette.ansi.codes rest

namespace ShowsAs

theorem self {text : List Char} (h : escape ∉ text) : ShowsAs text text :=
  withoutCodes_append_of_not_mem areCodes_ansi h

theorem append {a b x y : List Char} (hx : ShowsAs a x) (hy : ShowsAs b y) :
    ShowsAs (a ++ b) (x ++ y) := by
  intro rest
  rw [List.append_assoc, hx, hy, List.append_assoc]

theorem append_self {a x text : List Char} (hx : ShowsAs a x) (h : escape ∉ text) :
    ShowsAs (a ++ text) (x ++ text) :=
  hx.append (.self h)

/-- Without the codes a painted text is what it shows. -/
theorem withoutCodes_eq {painted shown : List Char} (h : ShowsAs painted shown) :
    withoutCodes Palette.ansi.codes painted = shown := by
  have hnil := h []
  rwa [List.append_nil, show withoutCodes Palette.ansi.codes [] = [] from rfl,
    List.append_nil] at hnil

end ShowsAs

/-- The codes of a palette show as nothing. -/
def Palette.IsInvisible (p : Palette) : Prop :=
  ∀ code ∈ p.codes, ShowsAs code []

theorem isInvisible_ofChoice (colored : Bool) : (Palette.ofChoice colored).IsInvisible := by
  intro code hcode
  cases colored with
  | false =>
    have hnil : code = [] := by
      revert code
      decide
    rw [hnil]
    exact ShowsAs.self List.not_mem_nil
  | true =>
    intro rest
    exact withoutCodes_code_append areCodes_ansi hcode rest

/-! ## The parts of a report -/

theorem escape_not_mem_message (fault : DecodeFault) : escape ∉ fault.message := by
  cases fault <;> decide

theorem escape_not_mem_hint (fault : DecodeFault) : escape ∉ hint fault := by
  cases fault <;> decide

theorem escape_not_mem_decimal (n : Nat) : escape ∉ Numeral.decimal n :=
  control_not_mem_decimal (by decide) n

theorem escape_not_mem_byte (b : UInt8) : escape ∉ Display.byte b :=
  control_not_mem_byte (by decide) b

theorem escape_not_mem_blank : escape ∉ " ".toList := by decide

theorem escape_not_mem_blanks (n : Nat) : escape ∉ List.replicate n ' ' := by
  rw [List.mem_replicate]
  rintro ⟨-, hblank⟩
  exact absurd hblank (by decide)

section
variable {p : Palette} (hp : p.IsInvisible)
include hp

theorem showsAs_paint {color text : List Char} (hcolor : color ∈ p.codes)
    (htext : escape ∉ text) : ShowsAs (p.paint color text) (Palette.plain.paint [] text) := by
  have hreset : p.reset ∈ p.codes := by simp [Palette.codes]
  have hpainted := ((hp color hcolor).append (.self htext)).append (hp p.reset hreset)
  rw [List.nil_append, List.append_nil] at hpainted
  rw [paint_plain]
  exact hpainted

theorem showsAs_headline (e : DecodeError) : ShowsAs (headline p e) (headline .plain e) := by
  have herror : p.error ∈ p.codes := by simp [Palette.codes]
  have hword : escape ∉ "error".toList := by decide
  have hcolon : escape ∉ ": ".toList := by decide
  have hopen : escape ∉ " (byte ".toList := by decide
  have hclose : escape ∉ ")".toList := by decide
  have hfault := ((showsAs_paint hp herror hword).append_self hcolon).append_self
    (escape_not_mem_message e.fault)
  exact ((hfault.append_self hopen).append_self (escape_not_mem_byte e.lead)).append_self hclose

theorem showsAs_location {name : List Char} (hname : escape ∉ name) (place : Position) :
    ShowsAs (location p name place) (location .plain name place) := by
  have hlocation : p.location ∈ p.codes := by simp [Palette.codes]
  have harrow : escape ∉ "--> ".toList := by decide
  have hcolon : escape ∉ ":".toList := by decide
  have htext : escape ∉ "--> ".toList ++ name ++ ":".toList ++ Numeral.decimal place.line
      ++ ":".toList ++ Numeral.decimal place.column := by
    simp only [List.mem_append, not_or]
    exact ⟨⟨⟨⟨⟨harrow, hname⟩, hcolon⟩, escape_not_mem_decimal _⟩, hcolon⟩,
      escape_not_mem_decimal _⟩
  exact (ShowsAs.self (by decide)).append (showsAs_paint hp hlocation htext)

theorem showsAs_bar :
    ShowsAs (p.paint p.lineNumber "|".toList) (Palette.plain.paint [] "|".toList) := by
  have hcolor : p.lineNumber ∈ p.codes := by simp [Palette.codes]
  exact showsAs_paint hp hcolor (by decide)

theorem showsAs_blankGutter (line : Nat) :
    ShowsAs (blankGutter p line) (blankGutter .plain line) :=
  (ShowsAs.self (escape_not_mem_blanks _)).append (showsAs_bar hp)

/-- The line number is filled up before it is painted, so it takes as many columns. -/
theorem showsAs_numberedGutter (line : Nat) :
    ShowsAs (numberedGutter p line) (numberedGutter .plain line) := by
  have hcolor : p.lineNumber ∈ p.codes := by simp [Palette.codes]
  have hnumber : escape ∉ (Numeral.decimal line).leftpad (gutterWidth line) ' ' := by
    rw [List.leftpad, List.mem_append, not_or]
    exact ⟨escape_not_mem_blanks _, escape_not_mem_decimal line⟩
  have hpainted := (ShowsAs.self escape_not_mem_blank).append (showsAs_paint hp hcolor hnumber)
  exact (hpainted.append_self escape_not_mem_blank).append (showsAs_bar hp)

theorem showsAs_pointer (line caret : Nat) (fault : DecodeFault) :
    ShowsAs (blankGutter p line ++ " ".toList ++ List.replicate caret ' '
        ++ p.paint p.caret "^".toList ++ " ".toList ++ p.paint p.message (hint fault))
      (blankGutter .plain line ++ " ".toList ++ List.replicate caret ' '
        ++ Palette.plain.paint [] "^".toList ++ " ".toList
        ++ Palette.plain.paint [] (hint fault)) := by
  have hcolor : p.caret ∈ p.codes := by simp [Palette.codes]
  have hmessage : p.message ∈ p.codes := by simp [Palette.codes]
  have hcaret : escape ∉ "^".toList := by decide
  have hleft := ((showsAs_blankGutter hp line).append_self escape_not_mem_blank).append_self
    (escape_not_mem_blanks caret)
  have hpointed := hleft.append (showsAs_paint hp hcolor hcaret)
  exact (hpointed.append_self escape_not_mem_blank).append
    (showsAs_paint hp hmessage (escape_not_mem_hint fault))

/-- **Every line** of a report shows as the plain one. -/
theorem showsAs_reportLines (e : DecodeError) {text : Bytes} {name : List Char}
    (hname : escape ∉ name) (hline : escape ∉ (Snippet.ofOffset text e.offset).content) :
    List.Forall₂ ShowsAs (reportLines p e text name) (reportLines .plain e text name) := by
  have hgutter := showsAs_numberedGutter hp (Position.ofOffset text e.offset).line
  have hquoted := (hgutter.append_self escape_not_mem_blank).append_self hline
  exact .cons (showsAs_headline hp e) <| .cons (showsAs_location hp hname _) <|
    .cons (showsAs_blankGutter hp _) <| .cons hquoted <| .cons (showsAs_pointer hp _ _ _) <|
    .cons (.self List.not_mem_nil) .nil

end

/-- What shows as lines shows as the lines put together. -/
theorem ShowsAs.flatMap {painted shown : List (List Char)}
    (h : List.Forall₂ ShowsAs painted shown) :
    ShowsAs (painted.flatMap (· ++ ['\n'])) (shown.flatMap (· ++ ['\n'])) := by
  induction h with
  | nil => exact ShowsAs.self List.not_mem_nil
  | cons hline _ ih =>
    rw [List.flatMap_cons, List.flatMap_cons]
    exact (hline.append_self (by decide)).append ih

theorem ShowsAs.map_withoutCodes {painted shown : List (List Char)}
    (h : List.Forall₂ ShowsAs painted shown) :
    painted.map (withoutCodes Palette.ansi.codes) = shown := by
  induction h with
  | nil => rfl
  | cons hline _ ih => rw [List.map_cons, hline.withoutCodes_eq, ih]

/-- **Colours add nothing but codes**, whatever error is reported of whatever text. If
neither the name nor the quoted line has an escape character in it, deleting the codes
from the report gives the plain report, whether it is in colours or not. So it does for
each line by itself: the quoted part, the place of the caret and the columns of the
line number are those of the plain report. -/
theorem color_adds_only_codes (e : DecodeError) {text : Bytes} {name : List Char}
    (hname : escape ∉ name) (hline : escape ∉ (Snippet.ofOffset text e.offset).content)
    (colored : Bool) :
    let codes := Palette.ansi.codes
    withoutCodes codes (report (.ofChoice colored) e text name) = report .plain e text name
      ∧ (reportLines (.ofChoice colored) e text name).map (withoutCodes codes)
        = reportLines .plain e text name := by
  intro codes
  have hlines := showsAs_reportLines (isInvisible_ofChoice colored) e hname hline
  exact ⟨(ShowsAs.flatMap hlines).withoutCodes_eq, ShowsAs.map_withoutCodes hlines⟩

/-- A bad byte in the second line, with the bracket of a code in the name and in the
line. -/
theorem color_adds_only_codes_to_bracket :
    let text : Bytes := [0x61, 0x0A, 0x5B, 0x30, 0x6D, 0xFF]
    let e : DecodeError := ⟨.invalidLeadByte, 5, 0xFF⟩
    let name := "[0m".toList
    let painted := report (.ofChoice true) e text name
    escape ∉ name ∧ escape ∉ (Snippet.ofOffset text e.offset).content
      ∧ escape ∈ painted
      ∧ withoutCodes Palette.ansi.codes painted
        = ("error: invalid UTF-8 lead byte (byte 0xFF)\n  --> [0m:2:4\n     |\n"
            ++ "   2 | [0m\uFFFD\n"
            ++ "     |    ^ bytes 0x80-0xBF and 0xF8-0xFF cannot start a sequence\n\n").toList := by
  intro text e name painted
  have hname : escape ∉ name := by decide
  have hline : escape ∉ (Snippet.ofOffset text e.offset).content := by decide
  refine ⟨hname, hline, by decide +kernel, ?_⟩
  rw [(color_adds_only_codes e hname hline true).1]
  decide +kernel

end Utf8Text.Diagnostic
