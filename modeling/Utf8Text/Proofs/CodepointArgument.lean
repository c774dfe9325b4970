import Mathlib.Data.List.DropRight
import Utf8Text.CodepointArgument
import Utf8Text.Proofs.Numeral

/-!
# What counts as a codepoint

The arguments that are read as codepoints are those of a grammar (`Denotes`), after
white space has been taken off both ends: a hexadecimal word behind one of four
marks, or without a mark a decimal word, or else a single character. A mark decides
alone, so what stands behind it is never tried as anything else, and a digit by
itself is a number (`answer_eq_ok_iff_denotes`).
-/

namespace Utf8Text

/-! ## White space at the ends -/

namespace Display

/-- A text is what is left of another one without the white space around it. -/
def IsTrimmed (whole text : List Char) : Prop :=
  ∃ before behind, whole = before ++ text ++ behind
    ∧ (∀ c ∈ before, isBlank c = true) ∧ (∀ c ∈ behind, isBlank c = true)
    ∧ (∀ c ∈ text.head?, isBlank c = false) ∧ ∀ c ∈ text.getLast?, isBlank c = false

theorem dropWhile_isBlank_append {before rest : List Char}
    (hbefore : ∀ c ∈ before, isBlank c = true) (hrest : ∀ c ∈ rest.head?, isBlank c = false) :
    (before ++ rest).dropWhile isBlank = rest := by
  rw [List.dropWhile_append_of_pos hbefore]
  cases rest with
  | nil => rfl
  | cons c rest =>
    have hc : isBlank c = false := hrest c rfl
    exact List.dropWhile_cons_of_neg (by simp [hc])

theorem trim_append {before text behind : List Char} (hbefore : ∀ c ∈ before, isBlank c = true)
    (hbehind : ∀ c ∈ behind, isBlank c = true) (hhead : ∀ c ∈ text.head?, isBlank c = false)
    (hlast : ∀ c ∈ text.getLast?, isBlank c = false) :
    trim (before ++ text ++ behind) = text := by
  have hbehind' : ∀ c ∈ behind.reverse, isBlank c = true :=
    fun c hc => hbehind c (List.mem_reverse.mp hc)
  cases text with
  | nil =>
    -- nothing but white space
    have hblank : ∀ c ∈ before ++ [] ++ behind, isBlank c = true := by
      intro c hc
      rw [List.append_nil] at hc
      rcases List.mem_append.mp hc with hc | hc
      · exact hbefore c hc
      · exact hbehind c hc
    rw [trim, List.dropWhile_eq_nil_iff.mpr hblank]
    rfl
  | cons c text =>
    have hfront : (before ++ (c :: text) ++ behind).dropWhile isBlank = c :: text ++ behind := by
      rw [List.append_assoc]
      exact dropWhile_isBlank_append hbefore hhead
    rw [trim, hfront, List.reverse_append, dropWhile_isBlank_append hbehind',
      List.reverse_reverse]
    rwa [List.head?_reverse]

theorem isTrimmed_trim (whole : List Char) : IsTrimmed whole (trim whole) := by
  have htrim : trim whole = (whole.dropWhile isBlank).rdropWhile isBlank := rfl
  have hrest : trim whole ++ (whole.dropWhile isBlank).rtakeWhile isBlank
      = whole.dropWhile isBlank := by
    rw [htrim]
    exact List.rdropWhile_append_rtakeWhile
  refine ⟨whole.takeWhile isBlank, (whole.dropWhile isBlank).rtakeWhile isBlank, ?_, ?_, ?_,
    ?_, ?_⟩
  · rw [List.append_assoc, hrest, List.takeWhile_append_dropWhile]
  · exact fun c hc => List.mem_takeWhile_imp hc
  · exact fun c hc => List.mem_rtakeWhile_imp hc
  · intro c hc
    obtain ⟨rest, hcons⟩ := List.head?_eq_some_iff.mp hc
    have hhead := List.head?_dropWhile_not isBlank whole
    rw [← hrest, hcons] at hhead
    exact hhead
  · intro c hc
    have hne : trim whole ≠ [] := by
      rintro hnil
      rw [hnil] at hc
      cases hc
    have hlast := List.rdropWhile_last_not isBlank (whole.dropWhile isBlank) hne
    obtain rfl : (trim whole).getLast hne = c := List.getLast_of_mem_getLast? hc
    exact Bool.eq_false_iff.mpr hlast

/-- What is left is determined. -/
theorem isTrimmed_iff {whole text : List Char} : IsTrimmed whole text ↔ text = trim whole := by
  constructor
  · rintro ⟨before, behind, rfl, hbefore, hbehind, hhead, hlast⟩
    exact (trim_append hbefore hbehind hhead hlast).symm
  · rintro rfl
    exact isTrimmed_trim whole

end Display

namespace CodepointArgument

open Numeral (IsWord word?_eq_some_iff word?_eq_none_iff)

/-! ## The grammar -/

/-- The marks of a hexadecimal numeral. -/
def hexMarks : List (List Char) :=
  ["U+".toList, "u+".toList, "0x".toList, "0X".toList]

/-- A text that begins with such a mark. -/
def IsMarked (text : List Char) : Prop :=
  ∃ mark ∈ hexMarks, mark <+: text

/-- The codepoint that a text stands for. -/
inductive Denotes (text : List Char) : Nat → Prop
  /-- A word in hexadecimal behind a mark. -/
  | hex {mark digits : List Char} {n : Nat} (hmark : mark ∈ hexMarks)
    (htext : text = mark ++ digits) (hdigits : IsWord 16 digits n) : Denotes text n
  /-- A word in decimal. -/
  | decimal {n : Nat} (hmark : ¬ IsMarked text) (htext : IsWord 10 text n) : Denotes text n
  /-- A single character that is no word. -/
  | character {c : Char} (hmark : ¬ IsMarked text) (hword : ¬ ∃ n, IsWord 10 text n)
    (htext : text = [c]) : Denotes text c.toNat

theorem afterHexMark?_eq_some_iff {text digits : List Char} :
    afterHexMark? text = some digits ↔ ∃ mark ∈ hexMarks, text = mark ++ digits := by
  constructor
  · intro h
    rw [afterHexMark?.eq_def] at h
    split at h
    · cases h
      exact ⟨"U+".toList, by decide, rfl⟩
    · cases h
      exact ⟨"u+".toList, by decide, rfl⟩
    · cases h
      exact ⟨"0x".toList, by decide, rfl⟩
    · cases h
      exact ⟨"0X".toList, by decide, rfl⟩
    · cases h
  · rintro ⟨mark, hmark, rfl⟩
    simp only [hexMarks, List.mem_cons, List.not_mem_nil, or_false] at hmark
    rcases hmark with rfl | rfl | rfl | rfl <;> rfl

theorem afterHexMark?_eq_none_iff {text : List Char} :
    afterHexMark? text = none ↔ ¬ IsMarked text := by
  constructor
  · rintro hnone ⟨mark, hmark, digits, rfl⟩
    rw [afterHexMark?_eq_some_iff.mpr ⟨mark, hmark, rfl⟩] at hnone
    cases hnone
  · intro hmarked
    rw [Option.eq_none_iff_forall_ne_some]
    intro digits hdigits
    obtain ⟨mark, hmark, rfl⟩ := afterHexMark?_eq_some_iff.mp hdigits
    exact hmarked ⟨mark, hmark, List.prefix_append _ _⟩

theorem single?_eq_some_iff {text : List Char} {c : Char} :
    single? text = some c ↔ text = [c] := by
  constructor
  · intro h
    rw [single?.eq_def] at h
    split at h
    · cases h
      rfl
    · cases h
  · rintro rfl
    rfl

/-! ## Reading an argument -/

instance (text : List Char) : Decidable (IsMarked text) :=
  inferInstanceAs (Decidable (∃ mark ∈ hexMarks, mark <+: text))

/-- Why an argument that stands for nothing is refused. -/
def refusal (argument : List Char) : CodepointArgumentError :=
  if IsMarked (Display.trim argument) then .badHex argument else .noForm argument

section
variable {argument : List Char}

theorem read_of_denotes {n : Nat} (h : Denotes (Display.trim argument) n) :
    read argument = .ok n := by
  cases h with
  | hex hmark htext hdigits =>
    have hafter := afterHexMark?_eq_some_iff.mpr ⟨_, hmark, htext⟩
    have hword := (word?_eq_some_iff (by decide)).mpr hdigits
    simp only [read, hafter, hword]
  | decimal hmark htext =>
    have hafter := afterHexMark?_eq_none_iff.mpr hmark
    have hword := (word?_eq_some_iff (by decide)).mpr htext
    simp only [read, hafter, hword]
  | character hmark hword htext =>
    have hafter := afterHexMark?_eq_none_iff.mpr hmark
    have hnone := (word?_eq_none_iff (by decide)).mpr hword
    have hsingle := single?_eq_some_iff.mpr htext
    simp only [read, hafter, hnone, hsingle]

theorem read_of_not_denotes (h : ¬ ∃ n, Denotes (Display.trim argument) n) :
    read argument = .error (refusal argument) := by
  rw [refusal]
  by_cases hmark : IsMarked (Display.trim argument)
  · -- what stands behind the mark is no word
    obtain ⟨mark, hmem, digits, htext⟩ := hmark
    have hafter := afterHexMark?_eq_some_iff.mpr ⟨mark, hmem, htext.symm⟩
    have hword : ¬ ∃ n, IsWord 16 digits n := by
      rintro ⟨n, hn⟩
      exact h ⟨n, .hex hmem htext.symm hn⟩
    have hnone := (word?_eq_none_iff (by decide)).mpr hword
    rw [if_pos ⟨mark, hmem, digits, htext⟩]
    simp only [read, hafter, hnone]
  · have hafter := afterHexMark?_eq_none_iff.mpr hmark
    have hword : ¬ ∃ n, IsWord 10 (Display.trim argument) n := by
      rintro ⟨n, hn⟩
      exact h ⟨n, .decimal hmark hn⟩
    have hnone := (word?_eq_none_iff (by decide)).mpr hword
    have hsingle : single? (Display.trim argument) = none := by
      rw [Option.eq_none_iff_forall_ne_some]
      intro c hc
      exact h ⟨c.toNat, .character hmark hword (single?_eq_some_iff.mp hc)⟩
    rw [if_neg hmark]
    simp only [read, hafter, hnone, hsingle]

theorem read_eq_ok_iff {n : Nat} :
    read argument = .ok n ↔ Denotes (Display.trim argument) n := by
  constructor
  · intro hread
    by_cases h : ∃ m, Denotes (Display.trim argument) m
    · obtain ⟨m, hm⟩ := h
      rw [read_of_denotes hm, Except.ok.injEq] at hread
      exact hread ▸ hm
    · rw [read_of_not_denotes h] at hread
      cases hread
  · exact read_of_denotes

theorem read_eq_error_iff {e : CodepointArgumentError} :
    read argument = .error e
      ↔ (¬ ∃ n, Denotes (Display.trim argument) n) ∧ e = refusal argument := by
  constructor
  · intro hread
    have hnone : ¬ ∃ n, Denotes (Display.trim argument) n := by
      rintro ⟨n, hn⟩
      rw [read_of_denotes hn] at hread
      cases hread
    rw [read_of_not_denotes hnone, Except.error.injEq] at hread
    exact ⟨hnone, hread.symm⟩
  · rintro ⟨hnone, rfl⟩
    exact read_of_not_denotes hnone

end

/-- What is told of an argument: the codepoint, or in words why there is none. -/
def answer (argument : List Char) : Except (List Char) Nat :=
  (read argument).mapError CodepointArgumentError.message

theorem answer_eq_ok_iff {argument : List Char} {n : Nat} :
    answer argument = .ok n ↔ read argument = .ok n := by
  rw [answer]
  cases read argument with
  | ok m => simp [Except.mapError]
  | error e => simp [Except.mapError]

theorem answer_eq_error_iff {argument message : List Char} :
    answer argument = .error message
      ↔ ∃ e, read argument = .error e ∧ message = e.message := by
  rw [answer]
  cases read argument with
  | ok n => simp [Except.mapError]
  | error e => simp [Except.mapError, eq_comm]

/-- **Codepoints as arguments.** White space at the ends of an argument does not
count, and what is left of it is determined. It is read as a codepoint if and only if
it stands for that codepoint; any other argument is refused, in words that quote it
as it was given. -/
theorem answer_eq_ok_iff_denotes (argument : List Char) :
    ∃ text, (∀ t, Display.IsTrimmed argument t ↔ t = text)
      ∧ (∀ n, answer argument = .ok n ↔ Denotes text n)
      ∧ ∀ message, answer argument = .error message
        ↔ (¬ ∃ n, Denotes text n)
          ∧ message = if IsMarked text
            then "Invalid hex codepoint: '".toList ++ argument ++ "'".toList
            else "Invalid codepoint: '".toList ++ argument
              ++ "'. Use a form like 'U+20AC', '0x20AC', '8364' or a single character".toList := by
  refine ⟨Display.trim argument, fun t => Display.isTrimmed_iff, ?_, ?_⟩
  · intro n
    rw [answer_eq_ok_iff, read_eq_ok_iff]
  · intro message
    rw [answer_eq_error_iff]
    simp only [read_eq_error_iff, and_assoc, exists_and_left, exists_eq_left]
    refine and_congr_right ?_
    intro hnone
    rw [refusal]
    split
    · exact Iff.rfl
    · exact Iff.rfl

/-- A plus sign belongs to a numeral in either radix, and is a character only alone. -/
example :
    answer " U++41\n".toList = .ok 0x41 ∧ answer "+7".toList = .ok 7
      ∧ answer "+".toList = .ok 0x2B
      ∧ answer "0x ".toList = .error "Invalid hex codepoint: '0x '".toList := by
  decide

end CodepointArgument

end Utf8Text
