import Mathlib.Data.List.Basic
import Mathlib.Data.List.Forall2
import Mathlib.Data.Nat.Digits.Defs
import Utf8Text.Numeral

/-!
# Reading numerals

The written form of a number is read as that number, in decimal and in
hexadecimal, with or without zeros in front. The induction follows the
way the digits are made, the last one from the remainder and those before it
from the quotient.

What is read at all is told by a grammar: a plus sign or none, then digits of
which each counts by its place (`word?_eq_some_iff`). Here the induction is on the
characters, with the value of those in front arbitrary.
-/

namespace Utf8Text.Numeral

theorem magnitude?_of_ne_nil {cs : List Char} (h : cs ≠ []) (radix : Nat) :
    magnitude? radix cs
      = cs.foldlM (fun value c => (digit? radix c).map (value * radix + ·)) 0 := by
  cases cs with
  | nil => exact absurd rfl h
  | cons c cs => rfl

/-! ## Runs of digits -/

section
variable {radix : Nat} {f : Char → Char}

/-- The characters that `f` makes of digits are read as these digits. -/
def ReadsDigits (radix : Nat) (f : Char → Char) : Prop :=
  ∀ d < radix, digit? radix (f d.digitChar) = some d

theorem readsDigits_decimal : ReadsDigits 10 id := by
  intro d hd
  revert d
  decide

theorem readsDigits_hex : ReadsDigits 16 Char.toUpper := by
  intro d hd
  revert d
  decide

theorem readsDigits_lowerHex : ReadsDigits 16 id := by
  intro d hd
  revert d
  decide

theorem foldlM_toDigits (hradix : 1 < radix) (hf : ReadsDigits radix f) (n : Nat) :
    ((Nat.toDigits radix n).map f).foldlM
      (fun value c => (digit? radix c).map (value * radix + ·)) 0 = some n := by
  induction n using Nat.strongRecOn with
  | ind n ih =>
    rcases Nat.lt_or_ge n radix with hlt | hge
    · rw [Nat.toDigits_of_lt_base hlt]
      simp [hf n hlt]
    · have hquotient := ih (n / radix) (Nat.div_lt_self (by omega) hradix)
      have hdigit := hf (n % radix) (Nat.mod_lt n (by omega))
      rw [Nat.toDigits_of_base_le hradix hge, List.map_append, List.foldlM_append, hquotient]
      simp [hdigit, Nat.div_add_mod']

/-- Zeros in front do not count. -/
theorem foldlM_replicate_zero (hradix : 0 < radix) (width : Nat) :
    (List.replicate width '0').foldlM
      (fun value c => (digit? radix c).map (value * radix + ·)) 0 = some 0 := by
  have hzero : digit? radix '0' = some 0 := by
    have hvalue : digitValue? '0' = some 0 := by decide
    simp [digit?, hvalue, hradix]
  induction width with
  | zero => rfl
  | succ width ih =>
    rw [List.replicate_succ, List.foldlM_cons, hzero]
    simpa using ih

/-- **Reading back**: the digits of a number, with zeros in front up to some
width, are read as the number. -/
theorem magnitude?_leftpad_toDigits (hradix : 1 < radix) (hf : ReadsDigits radix f)
    (width n : Nat) :
    magnitude? radix (((Nat.toDigits radix n).map f).leftpad width '0') = some n := by
  have hne : ((Nat.toDigits radix n).map f).leftpad width '0' ≠ [] := by
    simp [List.leftpad, Nat.toDigits_ne_nil]
  rw [magnitude?_of_ne_nil hne, List.leftpad, List.foldlM_append,
    foldlM_replicate_zero (by omega)]
  exact foldlM_toDigits hradix hf n

end

theorem magnitude?_decimal (n : Nat) : magnitude? 10 (decimal n) = some n := by
  simpa [decimal] using magnitude?_leftpad_toDigits (by decide) readsDigits_decimal 0 n

theorem magnitude?_hexPadded (width n : Nat) : magnitude? 16 (hexPadded width n) = some n :=
  magnitude?_leftpad_toDigits (by decide) readsDigits_hex width n

/-! ## The characters of a numeral -/

/-- A numeral that can be read is made of digits. -/
theorem digit?_ne_none_of_foldlM {radix value n : Nat} {cs : List Char}
    (h : cs.foldlM (fun value c => (digit? radix c).map (value * radix + ·)) value = some n)
    {c : Char} (hc : c ∈ cs) : digit? radix c ≠ none := by
  induction cs generalizing value with
  | nil => cases hc
  | cons first cs ih =>
    rw [List.foldlM_cons, Option.bind_eq_bind, Option.bind_eq_some_iff] at h
    obtain ⟨next, hnext, hrest⟩ := h
    rcases List.mem_cons.mp hc with rfl | hc
    · intro hnone
      rw [hnone] at hnext
      cases hnext
    · exact ih hrest hc

theorem digit?_ne_none_of_magnitude? {radix n : Nat} {cs : List Char}
    (h : magnitude? radix cs = some n) {c : Char} (hc : c ∈ cs) : digit? radix c ≠ none := by
  have hne : cs ≠ [] := by
    rintro rfl
    cases h
  rw [magnitude?_of_ne_nil hne] at h
  exact digit?_ne_none_of_foldlM h hc

theorem not_mem_of_magnitude? {radix n : Nat} {cs : List Char}
    (h : magnitude? radix cs = some n) {c : Char} (hc : digitValue? c = none) : c ∉ cs := by
  intro hmem
  exact digit?_ne_none_of_magnitude? h hmem (by simp [digit?, hc])

theorem ne_nil_of_magnitude? {radix n : Nat} {cs : List Char}
    (h : magnitude? radix cs = some n) : cs ≠ [] := by
  rintro rfl
  cases h

section
variable {c : Char} (hc : digitValue? c = none)
include hc

theorem not_mem_decimal (n : Nat) : c ∉ decimal n :=
  not_mem_of_magnitude? (magnitude?_decimal n) hc

theorem not_mem_hexPadded (width n : Nat) : c ∉ hexPadded width n :=
  not_mem_of_magnitude? (magnitude?_hexPadded width n) hc

theorem not_mem_lowerHex (n : Nat) : c ∉ Nat.toDigits 16 n := by
  have hread := magnitude?_leftpad_toDigits (by decide) readsDigits_lowerHex 0 n
  simpa [List.leftpad] using not_mem_of_magnitude? hread hc

end

/-! ## What is a numeral -/

/-- A digit of a radix up to sixteen, in either case. -/
def IsDigit (radix : Nat) (c : Char) (d : Nat) : Prop :=
  d < radix ∧ (c = d.digitChar ∨ c = d.digitChar.toUpper)

/-- One or more digits, of which each counts by its place: the last one for itself,
and every place in front of it for the radix times as much. -/
def IsMagnitude (radix : Nat) (cs : List Char) (n : Nat) : Prop :=
  ∃ ds, ds ≠ [] ∧ List.Forall₂ (IsDigit radix) cs ds ∧ n = Nat.ofDigits radix ds.reverse

/-- Digits with a plus sign in front or without. -/
def IsUnsigned (radix : Nat) (cs : List Char) (n : Nat) : Prop :=
  ∃ sign digits, (sign = [] ∨ sign = ['+']) ∧ cs = sign ++ digits ∧ IsMagnitude radix digits n

/-- An unsigned numeral below 2³². -/
def IsWord (radix : Nat) (cs : List Char) (n : Nat) : Prop :=
  IsUnsigned radix cs n ∧ n < 2 ^ 32

theorem digitValue?_digitChar {d : Nat} (hd : d < 16) :
    digitValue? d.digitChar = some d ∧ digitValue? d.digitChar.toUpper = some d := by
  revert d
  decide

/-- The codes of the digits: `0` to `9` from 48 on, and the letters behind 97 and 65. -/
theorem toNat_digitChar {d : Nat} (hd : d < 16) :
    (d < 10 → d.digitChar.toNat = 48 + d)
      ∧ (10 ≤ d → d.digitChar.toNat = 87 + d ∧ d.digitChar.toUpper.toNat = 55 + d) := by
  revert d
  decide

theorem digitValue?_eq_some_iff {c : Char} {d : Nat} (hd : d < 16) :
    digitValue? c = some d ↔ c = d.digitChar ∨ c = d.digitChar.toUpper := by
  constructor
  · intro h
    obtain ⟨hdecimal, hletter⟩ := toNat_digitChar hd
    rw [digitValue?] at h
    split_ifs at h with hrange hlower hupper
    · have hlow : 48 ≤ c.toNat := hrange.1
      have hhigh : c.toNat ≤ 57 := hrange.2
      have hvalue : c.toNat - 48 = d := Option.some.inj h
      left
      apply Char.toNat_inj.mp
      rw [hdecimal (by omega)]
      omega
    · have hlow : 97 ≤ c.toNat := hlower.1
      have hvalue : c.toNat - 97 + 10 = d := Option.some.inj h
      left
      apply Char.toNat_inj.mp
      rw [(hletter (by omega)).1]
      omega
    · have hlow : 65 ≤ c.toNat := hupper.1
      have hvalue : c.toNat - 65 + 10 = d := Option.some.inj h
      right
      apply Char.toNat_inj.mp
      rw [(hletter (by omega)).2]
      omega
  · rintro (rfl | rfl)
    · exact (digitValue?_digitChar hd).1
    · exact (digitValue?_digitChar hd).2

section
variable {radix : Nat} (hradix : radix ≤ 16)
include hradix

theorem digit?_eq_some_iff {c : Char} {d : Nat} :
    digit? radix c = some d ↔ IsDigit radix c d := by
  rw [digit?, Option.filter_eq_some_iff, decide_eq_true_iff, IsDigit, and_comm]
  refine and_congr_right ?_
  intro hd
  exact digitValue?_eq_some_iff (by omega)

theorem foldlM_eq_some_iff {cs : List Char} {value n : Nat} :
    cs.foldlM (fun value c => (digit? radix c).map (value * radix + ·)) value = some n
      ↔ ∃ ds, List.Forall₂ (IsDigit radix) cs ds
        ∧ n = ds.foldl (fun value d => value * radix + d) value := by
  induction cs generalizing value with
  | nil =>
    simp only [List.foldlM_nil, List.forall₂_nil_left_iff, exists_eq_left, List.foldl_nil]
    exact ⟨fun h => (Option.some.inj h).symm, fun h => congrArg some h.symm⟩
  | cons c cs ih =>
    rw [List.foldlM_cons, Option.bind_eq_bind, Option.bind_eq_some_iff]
    constructor
    · rintro ⟨next, hnext, hrest⟩
      obtain ⟨d, hd, rfl⟩ := Option.map_eq_some_iff.mp hnext
      obtain ⟨ds, hds, hn⟩ := ih.mp hrest
      exact ⟨d :: ds, .cons ((digit?_eq_some_iff hradix).mp hd) hds, hn⟩
    · rintro ⟨ds, hds, hn⟩
      cases hds with
      | cons hd hds =>
        rw [(digit?_eq_some_iff hradix).mpr hd]
        exact ⟨_, rfl, ih.mpr ⟨_, hds, hn⟩⟩

theorem magnitude?_eq_some_iff {cs : List Char} {n : Nat} :
    magnitude? radix cs = some n ↔ IsMagnitude radix cs n := by
  -- the place value of the digits, taken from the first one on
  have hvalue (ds : List Nat) : Nat.ofDigits radix ds.reverse
      = ds.foldl (fun value d => value * radix + d) 0 := by
    rw [Nat.ofDigits_eq_foldr, List.foldr_reverse]
    simp only [Nat.cast_id, Nat.add_comm, Nat.mul_comm]
  cases cs with
  | nil =>
    refine iff_of_false (by rintro ⟨⟩) ?_
    rintro ⟨ds, hne, hds, -⟩
    exact hne (List.forall₂_nil_left_iff.mp hds)
  | cons c cs =>
    rw [magnitude?_of_ne_nil (by simp), foldlM_eq_some_iff hradix]
    constructor
    · rintro ⟨ds, hds, hn⟩
      refine ⟨ds, ?_, hds, hn.trans (hvalue ds).symm⟩
      rintro rfl
      cases hds
    · rintro ⟨ds, -, hds, hn⟩
      exact ⟨ds, hds, hn.trans (hvalue ds)⟩

theorem isMagnitude_leftpad_toDigits (hlarge : 1 < radix) {f : Char → Char}
    (hf : ReadsDigits radix f) (width n : Nat) :
    IsMagnitude radix (((Nat.toDigits radix n).map f).leftpad width '0') n :=
  (magnitude?_eq_some_iff hradix).mp (magnitude?_leftpad_toDigits hlarge hf width n)

/-- **Unsigned numerals** are read if and only if they are in the grammar. -/
theorem unsigned?_eq_some_iff {cs : List Char} {n : Nat} :
    unsigned? radix cs = some n ↔ IsUnsigned radix cs n := by
  by_cases hplus : ∃ rest, cs = '+' :: rest
  · obtain ⟨rest, rfl⟩ := hplus
    show magnitude? radix rest = some n ↔ _
    rw [magnitude?_eq_some_iff hradix]
    constructor
    · intro hrest
      exact ⟨['+'], rest, .inr rfl, rfl, hrest⟩
    · rintro ⟨sign, digits, rfl | rfl, hcs, hdigits⟩
      · -- a plus sign is no digit
        rw [List.nil_append] at hcs
        rw [← hcs, ← magnitude?_eq_some_iff hradix] at hdigits
        exact absurd (List.mem_cons_self) (not_mem_of_magnitude? hdigits (by decide))
      · obtain rfl : rest = digits := (List.cons.inj hcs).2
        exact hdigits
  · have hread : unsigned? radix cs = magnitude? radix cs := by
      rw [unsigned?]
      intro rest hcs
      exact hplus ⟨rest, hcs⟩
    rw [hread, magnitude?_eq_some_iff hradix]
    constructor
    · intro hcs
      exact ⟨[], cs, .inl rfl, rfl, hcs⟩
    · rintro ⟨sign, digits, rfl | rfl, rfl, hdigits⟩
      · exact hdigits
      · exact absurd ⟨digits, rfl⟩ hplus

theorem word?_eq_some_iff {cs : List Char} {n : Nat} :
    word? radix cs = some n ↔ IsWord radix cs n := by
  rw [word?, Option.filter_eq_some_iff, decide_eq_true_iff, unsigned?_eq_some_iff hradix]
  rfl

theorem word?_eq_none_iff {cs : List Char} :
    word? radix cs = none ↔ ¬ ∃ n, IsWord radix cs n := by
  simp only [Option.eq_none_iff_forall_ne_some, ne_eq, word?_eq_some_iff hradix, not_exists]

end

/-! ## Written forms are numerals -/

theorem isMagnitude_decimal (n : Nat) : IsMagnitude 10 (decimal n) n := by
  simpa [decimal] using isMagnitude_leftpad_toDigits (by decide) (by decide) readsDigits_decimal 0 n

theorem isMagnitude_hexPadded (width n : Nat) : IsMagnitude 16 (hexPadded width n) n :=
  isMagnitude_leftpad_toDigits (by decide) (by decide) readsDigits_hex width n

/-- Small letters count as well. -/
theorem isMagnitude_lowerHex (width n : Nat) :
    IsMagnitude 16 ((Nat.toDigits 16 n).leftpad width '0') n := by
  simpa using isMagnitude_leftpad_toDigits (by decide) (by decide) readsDigits_lowerHex width n

theorem length_decimal_le {n digits : Nat} (hdigits : 0 < digits) (h : n < 10 ^ digits) :
    (decimal n).length ≤ digits :=
  (Nat.length_toDigits_le_iff (by decide) hdigits).mpr h

end Utf8Text.Numeral
