import Utf8Text.Proofs.CodepointArgument
import Utf8Text.Proofs.Encoding

/-!
# Reading the listing of encodings back

The line that encoding lists for a codepoint has two fields, and each of them tells
which codepoint it is: the name is a spelling that counts as an argument, and the bytes
are the encoding that is decoded. The spellings that count are all numerals below 2³² in
hexadecimal behind a mark, or in decimal, with any white space around them
(`read_of_denotes_of_blank`). The fields are found again because no digit is a blank, so
the first two blanks in a row are those between the fields (`Listing.fields?_append`).
-/

namespace Utf8Text

/-! ## Spellings of a codepoint -/

theorem Display.digitValue?_eq_none_of_isBlank {c : Char} (h : isBlank c = true) :
    Numeral.digitValue? c = none := by
  simp only [isBlank, inRanges, blankRanges, List.any_cons, List.any_nil, Bool.or_false,
    Bool.or_eq_true, Bool.and_eq_true, decide_eq_true_iff] at h
  have hlower (low : Char) : low ≤ c ↔ low.toNat ≤ c.toNat := Iff.rfl
  have hupper (high : Char) : c ≤ high ↔ c.toNat ≤ high.toNat := Iff.rfl
  simp only [Numeral.digitValue?, hlower, hupper, Char.reduceToNat]
  rw [if_neg (by omega), if_neg (by omega), if_neg (by omega)]

namespace CodepointArgument

open Numeral (IsMagnitude magnitude?_eq_some_iff)

/-- White space around a spelling does not count. -/
theorem read_of_denotes_of_blank {before text behind : List Char} {n : Nat}
    (hbefore : ∀ c ∈ before, Display.isBlank c = true)
    (hbehind : ∀ c ∈ behind, Display.isBlank c = true)
    (htext : ∀ c ∈ text, Display.isBlank c = false) (h : Denotes text n) :
    read (before ++ text ++ behind) = .ok n := by
  have htrim : Display.trim (before ++ text ++ behind) = text :=
    Display.trim_append hbefore hbehind (fun c hc => htext c (List.mem_of_mem_head? hc))
      fun c hc => htext c (List.mem_of_mem_getLast? hc)
  apply read_of_denotes
  rwa [htrim]

section
variable {radix : Nat} {digits : List Char} {v : Nat}

theorem isBlank_eq_false_of_isMagnitude (hradix : radix ≤ 16) (h : IsMagnitude radix digits v)
    {c : Char} (hc : c ∈ digits) : Display.isBlank c = false := by
  rw [Bool.eq_false_iff]
  intro hblank
  exact Numeral.not_mem_of_magnitude? ((magnitude?_eq_some_iff hradix).mpr h)
    (Display.digitValue?_eq_none_of_isBlank hblank) hc

theorem isWord_of_isMagnitude (h : IsMagnitude radix digits v) (hv : v < 2 ^ 32) :
    Numeral.IsWord radix digits v :=
  ⟨⟨[], digits, .inl rfl, rfl, h⟩, hv⟩

/-- Decimal digits do not begin with a mark, as each mark has a character that is no
decimal digit. -/
theorem not_isMarked_of_isMagnitude (h : IsMagnitude 10 digits v) : ¬ IsMarked digits := by
  rintro ⟨mark, hmark, hstart⟩
  have hforeign : ∀ mark ∈ hexMarks, mark.any (fun c => Numeral.digit? 10 c == none) = true := by
    decide
  obtain ⟨c, hc, hnone⟩ := List.any_eq_true.mp (hforeign mark hmark)
  have hread := (magnitude?_eq_some_iff (by decide)).mpr h
  exact Numeral.digit?_ne_none_of_magnitude? hread (hstart.subset hc) (beq_iff_eq.mp hnone)

end

section
variable {before behind digits : List Char} {v : Nat}
  (hbefore : ∀ c ∈ before, Display.isBlank c = true)
  (hbehind : ∀ c ∈ behind, Display.isBlank c = true) (hv : v < 2 ^ 32)
include hbefore hbehind hv

theorem read_hex {mark : List Char} (hmark : mark ∈ hexMarks) (h : IsMagnitude 16 digits v) :
    read (before ++ (mark ++ digits) ++ behind) = .ok v := by
  refine read_of_denotes_of_blank hbefore hbehind ?_ (.hex hmark rfl (isWord_of_isMagnitude h hv))
  intro c hc
  rcases List.mem_append.mp hc with hc | hc
  · have hmarks : ∀ mark ∈ hexMarks, mark.any Display.isBlank = false := by decide
    exact Bool.eq_false_iff.mpr (List.any_eq_false.mp (hmarks mark hmark) c hc)
  · exact isBlank_eq_false_of_isMagnitude (by decide) h hc

theorem read_decimal (h : IsMagnitude 10 digits v) :
    read (before ++ digits ++ behind) = .ok v :=
  read_of_denotes_of_blank hbefore hbehind
    (fun _ hc => isBlank_eq_false_of_isMagnitude (by decide) h hc)
    (.decimal (not_isMarked_of_isMagnitude h) (isWord_of_isMagnitude h hv))

end

end CodepointArgument

/-! ## The fields of a line -/

namespace Encoding

/-- Reads the two hexadecimal digits of a byte. -/
def readByte? (text : List Char) : Option UInt8 :=
  if text.length = 2 then (Numeral.magnitude? 16 text).map UInt8.ofNat else none

/-- Reads bytes with a blank between two of them. -/
def readBytes? (text : List Char) : Option Bytes :=
  (splitOn ' ' text).mapM readByte?

theorem readByte?_hexByte (b : UInt8) : readByte? (Numeral.hexByte b) = some b := by
  have hdigits : (Nat.toDigits 16 b.toNat).length ≤ 2 :=
    (Nat.length_toDigits_le_iff (by decide) (by decide)).mpr b.toNat_lt
  have hlength : (Numeral.hexByte b).length = 2 := by
    rw [Numeral.hexByte, Numeral.hexPadded, List.length_leftpad, Numeral.hex, List.length_map]
    omega
  have hread : Numeral.magnitude? 16 (Numeral.hexByte b) = some b.toNat :=
    Numeral.magnitude?_hexPadded 2 b.toNat
  rw [readByte?, if_pos hlength, hread, Option.map_some, UInt8.ofNat_toNat]

theorem mapM_readByte?_map_hexByte (bytes : Bytes) :
    (bytes.map Numeral.hexByte).mapM readByte? = some bytes := by
  induction bytes with
  | nil => rfl
  | cons b bytes ih =>
    rw [List.map_cons, List.mapM_cons, readByte?_hexByte, ih]
    rfl

theorem blank_not_mem_hexByte (b : UInt8) : ' ' ∉ Numeral.hexByte b :=
  Numeral.not_mem_hexPadded (by decide) 2 b.toNat

theorem readBytes?_intercalate {bytes : Bytes} (h : bytes ≠ []) :
    readBytes? ([' '].intercalate (bytes.map Numeral.hexByte)) = some bytes := by
  have hparts : bytes.map Numeral.hexByte ≠ [] := by
    intro hnil
    exact h (List.map_eq_nil_iff.mp hnil)
  have hblank : ∀ part ∈ bytes.map Numeral.hexByte, ' ' ∉ part := by
    intro part hpart
    obtain ⟨b, -, rfl⟩ := List.mem_map.mp hpart
    exact blank_not_mem_hexByte b
  rw [readBytes?, splitOn_intercalate hparts hblank]
  exact mapM_readByte?_map_hexByte bytes

/-- What the line of a codepoint tells: its name is read as the codepoint, and the bytes
behind the name are decoded to the codepoint, all of them. -/
def Tells (line : List Char) (cp : Nat) : Prop :=
  ∃ name shown bytes, Listing.fields? line = some (name, shown)
    ∧ CodepointArgument.answer name = .ok cp
    ∧ readBytes? shown = some bytes ∧ decode bytes = .ok (cp, bytes.length)

theorem answer_codepointName {cp : Nat} (h : cp ≤ maxEncodable) :
    CodepointArgument.answer (Listing.codepointName cp) = .ok cp := by
  have hcp : cp < 2 ^ 32 := Nat.lt_of_le_of_lt h (by decide)
  have hread : CodepointArgument.read ([] ++ Listing.codepointName cp ++ []) = .ok cp :=
    CodepointArgument.read_hex (List.forall_mem_nil _) (List.forall_mem_nil _) hcp
      List.mem_cons_self (Numeral.isMagnitude_hexPadded 4 cp)
  rw [List.nil_append, List.append_nil] at hread
  exact CodepointArgument.answer_eq_ok_iff.mpr hread

/-- **The line of a codepoint** tells which codepoint it is, in both of its fields. -/
theorem tells_lineOf {cp : Nat} (h : cp ≤ maxEncodable) : Tells (lineOf cp) cp := by
  have hname : ' ' ∉ Listing.codepointName cp :=
    Listing.not_mem_codepointName (by decide) (by decide) cp
  have hne : encoding cp ≠ [] := List.ne_nil_of_length_pos (length_encoding_pos h)
  have hdecode := decode_encoding_append h []
  rw [List.append_nil] at hdecode
  exact ⟨_, _, encoding cp, Listing.fields?_append hname _, answer_codepointName h,
    readBytes?_intercalate hne, hdecode⟩

end Encoding

/-- **The listing of encodings is read back.** On a standard output that takes everything
it has one line for each codepoint, in order, and each of them tells its codepoint twice:
by its name, which is read as an argument is, and by its bytes, which are decoded. Besides,
every number below 2³² is read in each of its spellings, with white space around it or not:
behind each of the marks in hexadecimal, and in decimal. Among these are the spellings in
which numbers are written, with zeros in front up to any width. -/
theorem encoding_listing_reads_back :
    (∀ cps : List Nat, (∀ cp ∈ cps, cp ≤ maxEncodable) →
      ∀ s : Surroundings, s.device = .accepting → ∀ (verbosity : Nat) (setting? : Option String),
      let encoded := (Invocation.mk verbosity (.encode ⟨cps, false⟩)).run setting? s
      ∃ lines, (∀ lines', Listing.HasLines encoded.stdout lines' ↔ lines' = lines)
        ∧ List.Forall₂ Encoding.Tells lines cps)
      ∧ ∀ v < 2 ^ 32, ∀ before behind : List Char, (∀ c ∈ before, Display.isBlank c = true) →
        (∀ c ∈ behind, Display.isBlank c = true) →
        (∀ mark ∈ CodepointArgument.hexMarks, ∀ digits, Numeral.IsMagnitude 16 digits v →
          CodepointArgument.answer (before ++ (mark ++ digits) ++ behind) = .ok v)
        ∧ (∀ digits, Numeral.IsMagnitude 10 digits v →
          CodepointArgument.answer (before ++ digits ++ behind) = .ok v)
        ∧ (∀ width, Numeral.IsMagnitude 16 (Numeral.hexPadded width v) v
          ∧ Numeral.IsMagnitude 16 ((Nat.toDigits 16 v).leftpad width '0') v)
        ∧ Numeral.IsMagnitude 10 (Numeral.decimal v) v := by
  refine ⟨?_, ?_⟩
  · intro cps hcps s hdevice verbosity setting? encoded
    obtain ⟨-, hout, -⟩ := run_encode_of_ok .standard
      (fun c hc => Encoding.encodeAll_of_accepting (o := ⟨cps, false⟩) hcps (hc.trans hdevice))
      verbosity setting?
    rw [if_neg Bool.false_ne_true] at hout
    have hlines : Listing.HasLines encoded.stdout (cps.map Encoding.lineOf) := by
      show Listing.HasLines (Invocation.run _ setting? s).stdout _
      rw [hout]
      exact Listing.hasLines_map Encoding.newline_not_mem_lineOf cps
    refine ⟨cps.map Encoding.lineOf, ?_, ?_⟩
    · intro lines'
      constructor
      · exact hlines.unique
      · rintro rfl
        exact hlines
    · rw [List.forall₂_map_left_iff, List.forall₂_same]
      intro cp hcp
      exact Encoding.tells_lineOf (hcps cp hcp)
  · intro v hv before behind hbefore hbehind
    refine ⟨?_, ?_, ?_, Numeral.isMagnitude_decimal v⟩
    · intro mark hmark digits hdigits
      rw [CodepointArgument.answer_eq_ok_iff]
      exact CodepointArgument.read_hex hbefore hbehind hv hmark hdigits
    · intro digits hdigits
      rw [CodepointArgument.answer_eq_ok_iff]
      exact CodepointArgument.read_decimal hbefore hbehind hv hdigits
    · intro width
      exact ⟨Numeral.isMagnitude_hexPadded width v, Numeral.isMagnitude_lowerHex width v⟩

/-- The two codepoints at the ends of the range, and the greatest number that counts as
an argument, in small letters between an ideographic space and a line feed. -/
theorem encoding_listing_reads_back_at_bounds :
    let s : Surroundings := ⟨fun _ => .error .notFound, .accepting, false⟩
    let encoded := (Invocation.mk 0 (.encode ⟨[0, 0x1FFFFF], false⟩)).run none s
    (∀ cp ∈ [0, 0x1FFFFF], cp ≤ maxEncodable) ∧ s.device = .accepting
      ∧ Listing.HasLines encoded.stdout ["U+0000  00".toList, "U+1FFFFF  F7 BF BF BF".toList]
      ∧ List.Forall₂ Encoding.Tells ["U+0000  00".toList, "U+1FFFFF  F7 BF BF BF".toList]
        [0, 0x1FFFFF]
      ∧ (∀ c ∈ ['\u3000'], Display.isBlank c = true) ∧ (∀ c ∈ ['\n'], Display.isBlank c = true)
      ∧ "u+".toList ∈ CodepointArgument.hexMarks
      ∧ Numeral.IsMagnitude 16 "ffffffff".toList (2 ^ 32 - 1)
      ∧ CodepointArgument.answer "\u3000u+ffffffff\n".toList = .ok (2 ^ 32 - 1)
      ∧ CodepointArgument.answer "\u30004294967295\n".toList = .ok (2 ^ 32 - 1) := by
  intro s encoded
  have hcps : ∀ cp ∈ [0, 0x1FFFFF], cp ≤ maxEncodable := by decide
  have hbefore : ∀ c ∈ ['\u3000'], Display.isBlank c = true := List.forall_mem_singleton.mpr rfl
  have hbehind : ∀ c ∈ ['\n'], Display.isBlank c = true := List.forall_mem_singleton.mpr rfl
  obtain ⟨hlisting, hspellings⟩ := encoding_listing_reads_back
  obtain ⟨lines, hlines, htells⟩ := hlisting [0, 0x1FFFFF] hcps s rfl 0 none
  obtain ⟨hhex, hdecimal, hwritten, hlast⟩ :=
    hspellings (2 ^ 32 - 1) (by decide) _ _ hbefore hbehind
  have hshown : Listing.HasLines encoded.stdout
      ["U+0000  00".toList, "U+1FFFFF  F7 BF BF BF".toList] := by
    show splitOn lineFeed encoded.stdout = _
    decide
  have hdigits : Numeral.IsMagnitude 16 "ffffffff".toList (2 ^ 32 - 1) := (hwritten 0).2
  obtain rfl := (hlines _).mp hshown
  exact ⟨hcps, rfl, hshown, htells, hbefore, hbehind, by decide, hdigits,
    hhex "u+".toList (by decide) _ hdigits, hdecimal _ hlast⟩

end Utf8Text
