import Utf8Text.Proofs.Sink

/-!
# Agreement with standard UTF-8

The standard encoding of a Unicode scalar value is one of the layouts of the
codec, with marked bytes after the first and not overlong. The codec has a
single sequence of this kind for a codepoint, so the two agree
(`encode_toNat`), and what holds of encodings holds of the standard bytes of a
text.
-/

namespace Utf8Text

open Decoding Reader

theorem toNat_lt_of_char (c : Char) : c.toNat < 0x110000 := by
  rcases c.valid with hlow | ⟨-, hhigh⟩
  · exact Nat.lt_trans hlow (by decide)
  · exact hhigh

theorem toNat_le_maxEncodable (c : Char) : c.toNat ≤ maxEncodable :=
  Nat.le_of_lt ((toNat_lt_of_char c).trans (by decide))

/-! ## One scalar value -/

private theorem toNat_tail (value : Nat) :
    (UInt8.ofNat (value % 64 + 128)).toNat = 0x80 + value % 64 := by
  rw [UInt8.toNat_ofNat']
  omega

private theorem isContinuation_tail (value : Nat) :
    IsContinuation (.ofNat (value % 64 + 128)) := by
  rw [isContinuation_iff, toNat_tail]
  omega

/-- **The standard encoding** of a scalar value is a layout of it, marked and as
short as it can be. -/
theorem exists_utf8EncodeChar_eq (c : Char) :
    ∃ lead following, String.utf8EncodeChar c = lead :: following
      ∧ Layout lead following c.toNat ∧ (∀ b ∈ following, IsContinuation b)
      ∧ leastOfLength (following.length + 1) ≤ c.toNat := by
  have hmax : c.val.toNat < 0x110000 := toNat_lt_of_char c
  have htail := toNat_tail
  have hmarked := isContinuation_tail
  show ∃ lead following, _ ∧ Layout lead following c.val.toNat ∧ _ ∧ _ ≤ c.val.toNat
  simp only [String.utf8EncodeChar]
  generalize c.val.toNat = value at hmax
  -- the lengths of the standard: the digits of the value in base 64 behind the lead byte
  split_ifs with hone htwo hthree
  · have hlead : (UInt8.ofNat value).toNat = value := by
      rw [UInt8.toNat_ofNat']
      omega
    exact ⟨_, _, rfl, Layout.of_value_eq (.one (by omega)) hlead, nofun, Nat.zero_le value⟩
  · have hlead : (UInt8.ofNat (value / 64 % 32 + 192)).toNat = 0xC0 + value / 64 := by
      rw [UInt8.toNat_ofNat']
      omega
    refine ⟨_, _, rfl, Layout.of_value_eq (.two (by omega) (by omega)) ?_, ?_, ?_⟩
    · rw [hlead, htail]
      omega
    · simp only [List.forall_mem_cons, hmarked, List.not_mem_nil, IsEmpty.forall_iff,
        implies_true, and_self]
    · show 0x80 ≤ value
      omega
  · have hlead : (UInt8.ofNat (value / 4096 % 16 + 224)).toNat = 0xE0 + value / 4096 := by
      rw [UInt8.toNat_ofNat']
      omega
    refine ⟨_, _, rfl, Layout.of_value_eq (.three (by omega) (by omega)) ?_, ?_, ?_⟩
    · rw [hlead, htail, htail]
      omega
    · simp only [List.forall_mem_cons, hmarked, List.not_mem_nil, IsEmpty.forall_iff,
        implies_true, and_self]
    · show 0x800 ≤ value
      omega
  · have hlead : (UInt8.ofNat (value / 262144 % 8 + 240)).toNat = 0xF0 + value / 262144 := by
      rw [UInt8.toNat_ofNat']
      omega
    refine ⟨_, _, rfl, Layout.of_value_eq (.four (by omega) (by omega)) ?_, ?_, ?_⟩
    · rw [hlead, htail, htail, htail]
      omega
    · simp only [List.forall_mem_cons, hmarked, List.not_mem_nil, IsEmpty.forall_iff,
        implies_true, and_self]
    · show 0x10000 ≤ value
      omega

theorem encoding_toNat (c : Char) : encoding c.toNat = String.utf8EncodeChar c := by
  obtain ⟨lead, following, hstandard, hlayout, hmarked, hleast⟩ := exists_utf8EncodeChar_eq c
  rw [hstandard]
  exact hlayout.encoding_eq_iff.mpr ⟨hmarked, hleast⟩

theorem encode_toNat (c : Char) : encode c.toNat = .ok (String.utf8EncodeChar c) := by
  rw [encode_eq_ok (toNat_le_maxEncodable c), encoding_toNat]

/-- A byte below `0x80` stands for itself and occurs in no other encoding. -/
theorem toNat_eq_of_mem_utf8EncodeChar {c : Char} {b : UInt8}
    (hb : b ∈ String.utf8EncodeChar c) (hlow : b.toNat < 0x80) : c.toNat = b.toNat := by
  obtain ⟨lead, following, hstandard, hlayout, hmarked, -⟩ := exists_utf8EncodeChar_eq c
  generalize c.toNat = value at hlayout
  rw [hstandard, List.mem_cons] at hb
  rcases hb with rfl | hfollowing
  · cases hlayout with
    | one hi => rfl
    | two lo hi => omega
    | three lo hi => omega
    | four lo hi => omega
  · have hhigh := isContinuation_iff.mp (hmarked b hfollowing)
    omega

theorem eq_newline_of_lineFeed_mem {c : Char} (h : lineFeed ∈ String.utf8EncodeChar c) :
    c = '\n' :=
  Char.toNat_inj.mp (toNat_eq_of_mem_utf8EncodeChar h (by decide))

/-! ## Texts -/

theorem length_utf8_le (text : List Char) : (utf8 text).length ≤ 4 * text.length := by
  induction text with
  | nil => exact Nat.le_refl 0
  | cons c text ih =>
    have hc : (String.utf8EncodeChar c).length ≤ 4 := by
      rw [String.length_utf8EncodeChar]
      exact Char.utf8Size_le_four c
    rw [utf8, List.flatMap_cons, List.length_append, List.length_cons]
    rw [utf8] at ih
    omega

theorem newline_mem_of_lineFeed_mem_utf8 {text : List Char} (h : lineFeed ∈ utf8 text) :
    '\n' ∈ text := by
  obtain ⟨c, hc, hmem⟩ := List.mem_flatMap.mp h
  rwa [← eq_newline_of_lineFeed_mem hmem]

/-- The standard bytes of a text are those that a string of it is stored in. -/
theorem toUTF8_ofList (text : List Char) :
    (String.ofList text).toUTF8.data.toList = utf8 text :=
  List.toList_data_toByteArray

theorem utf8_eq_encodings (text : List Char) : utf8 text = encodings (text.map Char.toNat) := by
  rw [utf8, encodings, List.flatMap_map]
  exact List.flatMap_congr fun c _ => (encoding_toNat c).symm

theorem le_maxEncodable_of_mem_map_toNat {text : List Char} :
    ∀ cp ∈ text.map Char.toNat, cp ≤ maxEncodable := by
  intro cp hcp
  obtain ⟨c, -, rfl⟩ := List.mem_map.mp hcp
  exact toNat_le_maxEncodable c

theorem ofBytes_utf8 (text : List Char) :
    (ofBytes (utf8 text)).codepoints = text.map Char.toNat
      ∧ (ofBytes (utf8 text)).error? = none := by
  obtain ⟨hcodepoints, -, herror⟩ := ofBytes_encodings (@le_maxEncodable_of_mem_map_toNat text)
  rw [utf8_eq_encodings]
  exact ⟨hcodepoints, herror⟩

/-- A text is known from its standard bytes. -/
theorem utf8_injective : Function.Injective utf8 := by
  intro text text' h
  have hcodepoints := (ofBytes_utf8 text).1
  rw [h, (ofBytes_utf8 text').1] at hcodepoints
  exact (List.map_injective_iff.mpr (fun _ _ => Char.toNat_inj.mp) hcodepoints).symm

theorem items_utf8 (text : List Char) :
    items (utf8 text) = text.map fun c => .codepoint c.toNat := by
  rw [utf8_eq_encodings, items_encodings le_maxEncodable_of_mem_map_toNat, List.map_map]
  rfl

/-- **Agreement with the standard.** A reader over the standard bytes of a text
hands out its scalar values and no error, each of them is encoded as the
standard has it, and a sink that writes these bytes, as a text or as a line,
returns their number and writes the same bytes again, on any writer that takes
everything. -/
theorem agrees_with_standard (text : List Char) :
    (String.ofList text).toUTF8.data.toList = utf8 text
      ∧ (∀ b : Buffer, b.bytes = utf8 text →
        (ofBuffer b).rest.1 = text.map fun c => .codepoint c.toNat)
      ∧ (∀ c ∈ text, encode c.toNat = .ok (String.utf8EncodeChar c))
      ∧ ∀ {ω : Type} [Writer ω] {Ready : ω → Prop} {output : ω → Bytes},
        Writer.TakesAll Ready output → ∀ w, Ready w →
          (∃ sink, (Sink.onto w).writeText (utf8 text) = (.ok text.length, sink)
            ∧ output sink.writer = output w ++ utf8 text)
          ∧ ∃ sink, (Sink.onto w).writeLine (utf8 text) = (.ok text.length, sink)
            ∧ output sink.writer = output w ++ utf8 text ++ [lineFeed] := by
  obtain ⟨hcodepoints, herror⟩ := ofBytes_utf8 text
  have hencodings : encodings (ofBytes (utf8 text)).codepoints = utf8 text := by
    rw [hcodepoints, ← utf8_eq_encodings]
  have hlength : (ofBytes (utf8 text)).codepoints.length = text.length := by
    rw [hcodepoints, List.length_map]
  refine ⟨toUTF8_ofList text, ?_, fun c _ => encode_toNat c, ?_⟩
  · intro b hb
    rw [rest_ofBuffer, hb, items_utf8]
  · intro ω _ Ready output hω w hw
    obtain ⟨w', hwrite, -, houtput⟩ := Sink.writeText_of_takesAll hω (s := .onto w) hw (utf8 text)
    obtain ⟨s', hline, -, houtput'⟩ := Sink.writeLine_of_takesAll hω (s := .onto w) hw (utf8 text)
    rw [herror, hlength] at hwrite hline
    rw [hencodings] at houtput
    rw [hencodings, herror, if_pos rfl] at houtput'
    exact ⟨⟨_, hwrite, houtput⟩, s', hline, houtput'⟩

/-- A text with scalar values of all four lengths, on a writer without limits. -/
theorem agrees_with_standard_on_all_lengths :
    (Buffer.ofString "Aé€😊").bytes = utf8 ['A', 'é', '€', '😊']
      ∧ Writer.TakesAll LimitedWriter.Unlimited LimitedWriter.output
      ∧ LimitedWriter.unlimited.Unlimited ∧ '€' ∈ ['A', 'é', '€', '😊']
      ∧ (ofBuffer (.ofString "Aé€😊")).rest.1
        = [.codepoint 0x41, .codepoint 0xE9, .codepoint 0x20AC, .codepoint 0x1F60A]
      ∧ encode 0x20AC = .ok [0xE2, 0x82, 0xAC]
      ∧ ∃ sink, (Sink.onto LimitedWriter.unlimited).writeLine (utf8 ['A', 'é', '€', '😊'])
          = (.ok 4, sink)
        ∧ sink.writer.output = utf8 ['A', 'é', '€', '😊'] ++ [lineFeed] := by
  have hready : LimitedWriter.unlimited.Unlimited :=
    LimitedWriter.unlimited_fresh (by decide) false false
  have hbytes : (Buffer.ofString "Aé€😊").bytes = utf8 ['A', 'é', '€', '😊'] := rfl
  have hmem : '€' ∈ ['A', 'é', '€', '😊'] := by decide
  obtain ⟨-, hread, hencode, hwrite⟩ := agrees_with_standard ['A', 'é', '€', '😊']
  obtain ⟨-, sink, hline, houtput⟩ := hwrite LimitedWriter.takesAll _ hready
  refine ⟨hbytes, LimitedWriter.takesAll, hready, hmem, hread _ hbytes, hencode '€' hmem, sink,
    hline, ?_⟩
  have hempty : LimitedWriter.unlimited.output = [] := rfl
  rw [houtput, hempty, List.nil_append]

end Utf8Text
