import Mathlib.Data.Nat.Bitwise
import Utf8Text.Codec

/-!
# The codec in arithmetic

The bit layouts of the codec, restated with quotients and remainders, and the
two directions of the codec held against each other:

* `decode_encoding_append` — the decoder reads an encoding back, whatever
  follows it, so neighbouring encodings never bleed into each other;
* `Layout.encoding_eq_iff` — encoding what a sequence decodes to gives the
  sequence back exactly when its following bytes are marked and it is not
  overlong.
-/

namespace Utf8Text

/-! ## Bits as quotients and remainders -/

theorem payload_eq_mod (b : UInt8) : payload b = b.toNat % 64 :=
  Nat.and_two_pow_sub_one_eq_mod b.toNat 6

theorem payload_lt (b : UInt8) : payload b < 64 := by
  rw [payload_eq_mod]
  omega

theorem shift_or_payload (value : Nat) (b : UInt8) :
    value <<< 6 ||| payload b = value * 64 + b.toNat % 64 := by
  rw [← Nat.shiftLeft_add_eq_or_of_lt (payload_lt b), Nat.shiftLeft_eq,
    payload_eq_mod]

/-- The number of value bits of a lead byte, by the length it announces. -/
def leadBits : Nat → Nat
  | 1 => 7
  | 2 => 5
  | 3 => 4
  | _ => 3

theorem and_leadMask (value length : Nat) :
    value &&& leadMask length = value % 2 ^ leadBits length := by
  rw [← Nat.and_two_pow_sub_one_eq_mod]
  congr 1
  match length with
  | 0 | 1 | 2 | 3 | _ + 4 => rfl

/-- A sequence is a number in base 64, its lead byte giving the first digit. -/
theorem assemble_eq (length : Nat) (lead : UInt8) (following : Bytes) :
    assemble length lead following
      = following.foldl (fun value b => value * 64 + b.toNat % 64)
          (lead.toNat % 2 ^ leadBits length) := by
  simp only [assemble, and_leadMask, shift_or_payload]

/-! ## Lead bytes -/

/-- The ranges of lead bytes, with what each of them announces. -/
theorem sequenceLength_cases (lead : UInt8) :
    lead.toNat < 0x80 ∧ sequenceLength lead = 1
      ∨ 0x80 ≤ lead.toNat ∧ lead.toNat < 0xC0 ∧ sequenceLength lead = 0
      ∨ 0xC0 ≤ lead.toNat ∧ lead.toNat < 0xE0 ∧ sequenceLength lead = 2
      ∨ 0xE0 ≤ lead.toNat ∧ lead.toNat < 0xF0 ∧ sequenceLength lead = 3
      ∨ 0xF0 ≤ lead.toNat ∧ lead.toNat < 0xF8 ∧ sequenceLength lead = 4
      ∨ 0xF8 ≤ lead.toNat ∧ sequenceLength lead = 0 := by
  simp only [sequenceLength, UInt8.lt_iff_toNat_lt, UInt8.reduceToNat]
  split_ifs <;> simp <;> omega

theorem sequenceLength_le_four (lead : UInt8) : sequenceLength lead ≤ 4 := by
  have := sequenceLength_cases lead
  omega

/-! ## What the decoder answers -/

/-- The decoder takes the bytes that the lead byte announces and looks at no
byte behind them. -/
theorem decode_append {lead : UInt8} {following : Bytes}
    (h : sequenceLength lead = following.length + 1) (rest : Bytes) :
    decode (lead :: following ++ rest)
      = .ok (assemble (following.length + 1) lead following, following.length + 1) := by
  simp [decode, h]

theorem decode_eq_error_iff {lead : UInt8} {rest : Bytes} {fault : DecodeFault} :
    decode (lead :: rest) = .error fault
      ↔ fault = .invalidLeadByte ∧ sequenceLength lead = 0
        ∨ fault = .truncatedSequence ∧ rest.length + 1 < sequenceLength lead := by
  simp only [decode, List.length_take]
  split_ifs with hzero hshort
  · simp [hzero, eq_comm]
  · have hlt : rest.length + 1 < sequenceLength lead := by omega
    simp [hzero, hlt, eq_comm]
  · have hle : ¬ rest.length + 1 < sequenceLength lead := by omega
    simp [hzero, hle]

/-- **What it is to decode**: the bytes start with a sequence whose lead byte
announces its length, and the answer is the value of that sequence. -/
theorem decode_eq_ok_iff {bytes : Bytes} {cp n : Nat} :
    decode bytes = .ok (cp, n)
      ↔ ∃ lead following rest, bytes = lead :: following ++ rest
          ∧ sequenceLength lead = following.length + 1
          ∧ n = following.length + 1 ∧ cp = assemble n lead following := by
  constructor
  · intro h
    cases bytes with
    | nil => simp [decode] at h
    | cons lead rest =>
      simp only [decode, List.length_take] at h
      split_ifs at h with hzero hshort
      simp only [Except.ok.injEq, Prod.mk.injEq] at h
      obtain ⟨rfl, rfl⟩ := h
      -- enough bytes are there, so as many as announced are taken
      have hlength : (rest.take (sequenceLength lead - 1)).length + 1
          = sequenceLength lead := by
        rw [List.length_take]
        omega
      refine ⟨lead, rest.take (sequenceLength lead - 1),
        rest.drop (sequenceLength lead - 1), ?_, hlength.symm, hlength.symm, rfl⟩
      rw [List.cons_append, List.take_append_drop]
  · rintro ⟨lead, following, rest, rfl, hlead, rfl, rfl⟩
    exact decode_append hlead rest

theorem decode_append_of_ok {bytes : Bytes} {cp n : Nat} (h : decode bytes = .ok (cp, n))
    (rest : Bytes) : decode (bytes ++ rest) = .ok (cp, n) := by
  obtain ⟨lead, following, behind, rfl, hlead, hn, hcp⟩ := decode_eq_ok_iff.mp h
  rw [decode_eq_ok_iff]
  exact ⟨lead, following, behind ++ rest, by simp, hlead, hn, hcp⟩

theorem decode_length_pos {bytes : Bytes} {cp n : Nat}
    (h : decode bytes = .ok (cp, n)) : 0 < n := by
  obtain ⟨lead, following, rest, -, -, rfl, -⟩ := decode_eq_ok_iff.mp h
  omega

theorem decode_length_le {bytes : Bytes} {cp n : Nat}
    (h : decode bytes = .ok (cp, n)) : n ≤ bytes.length := by
  obtain ⟨lead, following, rest, rfl, -, rfl, -⟩ := decode_eq_ok_iff.mp h
  simp only [List.cons_append, List.length_cons, List.length_append]
  omega

theorem decode_length_le_four {bytes : Bytes} {cp n : Nat}
    (h : decode bytes = .ok (cp, n)) : n ≤ 4 := by
  obtain ⟨lead, following, rest, -, hlead, rfl, -⟩ := decode_eq_ok_iff.mp h
  rw [← hlead]
  exact sequenceLength_le_four lead

/-! ## The four layouts -/

/-- A lead byte, the bytes after it, and the value that they stand for. -/
inductive Layout : UInt8 → Bytes → Nat → Prop where
  | one {lead : UInt8} (hi : lead.toNat < 0x80) :
      Layout lead [] lead.toNat
  | two {lead a : UInt8} (lo : 0xC0 ≤ lead.toNat) (hi : lead.toNat < 0xE0) :
      Layout lead [a] (lead.toNat % 32 * 64 + a.toNat % 64)
  | three {lead a b : UInt8} (lo : 0xE0 ≤ lead.toNat) (hi : lead.toNat < 0xF0) :
      Layout lead [a, b] ((lead.toNat % 16 * 64 + a.toNat % 64) * 64 + b.toNat % 64)
  | four {lead a b c : UInt8} (lo : 0xF0 ≤ lead.toNat) (hi : lead.toNat < 0xF8) :
      Layout lead [a, b, c]
        (((lead.toNat % 8 * 64 + a.toNat % 64) * 64 + b.toNat % 64) * 64 + c.toNat % 64)

theorem Layout.sequenceLength_eq {lead : UInt8} {following : Bytes} {cp : Nat}
    (h : Layout lead following cp) : sequenceLength lead = following.length + 1 := by
  have hlead := sequenceLength_cases lead
  cases h <;> simp only [List.length_cons, List.length_nil] <;> omega

theorem Layout.assemble_eq {lead : UInt8} {following : Bytes} {cp : Nat}
    (h : Layout lead following cp) :
    assemble (following.length + 1) lead following = cp := by
  rw [Utf8Text.assemble_eq]
  cases h with
  | one hi => exact Nat.mod_eq_of_lt hi
  | two | three | four => rfl

theorem exists_layout_of_sequenceLength {lead : UInt8} {following : Bytes}
    (h : sequenceLength lead = following.length + 1) :
    ∃ cp, Layout lead following cp := by
  have hlead := sequenceLength_cases lead
  match following, h with
  | [], (h : sequenceLength lead = 1) => exact ⟨_, .one (by omega)⟩
  | [_], (h : sequenceLength lead = 2) => exact ⟨_, .two (by omega) (by omega)⟩
  | [_, _], (h : sequenceLength lead = 3) => exact ⟨_, .three (by omega) (by omega)⟩
  | [_, _, _], (h : sequenceLength lead = 4) => exact ⟨_, .four (by omega) (by omega)⟩
  | _ :: _ :: _ :: _ :: rest, (h : sequenceLength lead = rest.length + 5) => omega

/-- The layouts are the sequences whose lead byte announces their length, with
the value that the decoder gives them. -/
theorem layout_iff {lead : UInt8} {following : Bytes} {cp : Nat} :
    Layout lead following cp
      ↔ sequenceLength lead = following.length + 1
        ∧ cp = assemble (following.length + 1) lead following := by
  constructor
  · intro h
    exact ⟨h.sequenceLength_eq, h.assemble_eq.symm⟩
  · rintro ⟨hlength, rfl⟩
    obtain ⟨cp, h⟩ := exists_layout_of_sequenceLength hlength
    rwa [h.assemble_eq]

/-- In two layouts of one length and one value, the lead bytes are the same and
the bytes after them carry the same bits. -/
theorem Layout.unique {lead lead' : UInt8} {following following' : Bytes} {cp : Nat}
    (h : Layout lead following cp) (h' : Layout lead' following' cp)
    (hlength : following.length = following'.length) :
    lead = lead' ∧ following.map payload = following'.map payload := by
  rw [← UInt8.toNat_inj]
  generalize hcp : cp = cp' at h'
  -- only the four pairs of one layout each have equal lengths
  cases h <;> cases h' <;> simp only [List.length_cons, List.length_nil] at hlength <;>
    simp only [List.map_cons, List.map_nil, payload_eq_mod, List.cons.injEq, and_true] <;>
    omega

/-! ## Lengths of encodings -/

theorem encodedLength?_cases (cp : Nat) :
    cp < 0x80 ∧ encodedLength? cp = some 1
      ∨ 0x80 ≤ cp ∧ cp < 0x800 ∧ encodedLength? cp = some 2
      ∨ 0x800 ≤ cp ∧ cp < 0x10000 ∧ encodedLength? cp = some 3
      ∨ 0x10000 ≤ cp ∧ cp < 0x200000 ∧ encodedLength? cp = some 4
      ∨ 0x200000 ≤ cp ∧ encodedLength? cp = none := by
  unfold encodedLength? maxEncodable
  split_ifs <;> simp <;> omega

/-- The least codepoint whose encoding takes `length` bytes. -/
def leastOfLength : Nat → Nat
  | 1 => 0
  | 2 => 0x80
  | 3 => 0x800
  | _ => 0x10000

theorem isLeast_leastOfLength {length : Nat} (hlo : 1 ≤ length) (hhi : length ≤ 4) :
    encodedLength? (leastOfLength length) = some length
      ∧ ∀ cp, encodedLength? cp = some length → leastOfLength length ≤ cp := by
  constructor
  · match length, hlo, hhi with
    | 1, _, _ | 2, _, _ | 3, _, _ | 4, _, _ => rfl
  · intro cp h
    rcases encodedLength?_cases cp with
      ⟨-, hc⟩ | ⟨hle, -, hc⟩ | ⟨hle, -, hc⟩ | ⟨hle, -, hc⟩ | ⟨-, hc⟩ <;>
      rw [h] at hc <;> cases hc
    · exact Nat.zero_le cp
    all_goals exact hle

/-- The value of a sequence fits into as many bytes, and needs all of them
exactly when it is not below the least value of that length. -/
theorem Layout.encodedLength? {lead : UInt8} {following : Bytes} {cp : Nat}
    (h : Layout lead following cp) :
    ∃ length, encodedLength? cp = some length ∧ length ≤ following.length + 1
      ∧ (length = following.length + 1 ↔ leastOfLength (following.length + 1) ≤ cp) := by
  rcases encodedLength?_cases cp with
    ⟨hlt, hc⟩ | ⟨hle, hlt, hc⟩ | ⟨hle, hlt, hc⟩ | ⟨hle, hlt, hc⟩ | ⟨hle, hc⟩
  case inr.inr.inr.inr =>
    -- no layout holds a value out of range
    cases h <;> omega
  all_goals
    refine ⟨_, hc, ?_⟩
    cases h <;> simp [leastOfLength] <;> omega

/-! ## What the encoder answers -/

/-- The encoding of a codepoint; no bytes for one that is refused. -/
def encoding (cp : Nat) : Bytes :=
  match encode cp with
  | .ok bytes => bytes
  | .error _ => []

/-- A byte that carries the marker `10` of the bytes after the first. -/
def IsContinuation (b : UInt8) : Prop :=
  0x80 ≤ b ∧ b ≤ 0xBF

instance : DecidablePred IsContinuation :=
  fun b => inferInstanceAs (Decidable (0x80 ≤ b ∧ b ≤ 0xBF))

theorem isContinuation_iff {b : UInt8} :
    IsContinuation b ↔ b.toNat = 0x80 + b.toNat % 64 := by
  simp only [IsContinuation, UInt8.le_iff_toNat_le, UInt8.reduceToNat]
  omega

theorem IsContinuation.sequenceLength_eq_zero {b : UInt8} (h : IsContinuation b) :
    sequenceLength b = 0 := by
  have hb := isContinuation_iff.mp h
  have hlead := sequenceLength_cases b
  omega

/-- Marked bytes are known from the bits they carry. -/
theorem eq_of_map_payload_eq {as bs : Bytes} (ha : ∀ a ∈ as, IsContinuation a)
    (hb : ∀ b ∈ bs, IsContinuation b) (h : as.map payload = bs.map payload) :
    as = bs := by
  induction as generalizing bs with
  | nil => simpa [eq_comm] using h
  | cons a as ih =>
    cases bs with
    | nil => simp at h
    | cons b bs =>
      simp only [List.map_cons, List.cons.injEq, payload_eq_mod] at h
      have hab : a = b := by
        have hamark := isContinuation_iff.mp (ha a (by simp))
        have hbmark := isContinuation_iff.mp (hb b (by simp))
        rw [← UInt8.toNat_inj]
        omega
      have hrest : as = bs :=
        ih (fun x hx => ha x (by simp [hx])) (fun x hx => hb x (by simp [hx])) h.2
      rw [hab, hrest]

/-- Marker bits above `width` value bits are added to them. -/
private theorem toNat_marked (width marker : Nat) {value : Nat} (h : value < 2 ^ width)
    (hfits : 2 ^ width * marker + 2 ^ width ≤ 256) :
    (UInt8.ofNat (2 ^ width * marker ||| value)).toNat = 2 ^ width * marker + value := by
  rw [UInt8.toNat_ofNat', ← Nat.two_pow_add_eq_or_of_lt h marker]
  omega

theorem toNat_continuation (cp shift : Nat) :
    (continuation cp shift).toNat = 0x80 + cp / 2 ^ shift % 64 := by
  have hlow : cp >>> shift &&& 0x3F = cp / 2 ^ shift % 64 := by
    rw [Nat.shiftRight_eq_div_pow]
    exact Nat.and_two_pow_sub_one_eq_mod _ 6
  rw [continuation, hlow]
  exact toNat_marked 6 2 (by omega) (by decide)

theorem isContinuation_continuation (cp shift : Nat) :
    IsContinuation (continuation cp shift) := by
  rw [isContinuation_iff, toNat_continuation]
  omega

theorem Layout.of_value_eq {lead : UInt8} {following : Bytes} {value cp : Nat}
    (h : Layout lead following value) (hvalue : value = cp) :
    Layout lead following cp :=
  hvalue ▸ h

/-- **What it is to encode**: every codepoint in range has an encoding, which
is a sequence of its value with marked bytes after the first. -/
theorem exists_encode_eq {cp : Nat} (h : cp ≤ maxEncodable) :
    ∃ lead following, encode cp = .ok (lead :: following) ∧ Layout lead following cp
      ∧ encodedLength? cp = some (following.length + 1)
      ∧ ∀ b ∈ following, IsContinuation b := by
  have hcont := toNat_continuation cp
  -- the digits of the value in base 64, the lead byte taking what is left in front
  rcases encodedLength?_cases cp with
    ⟨hlt, hc⟩ | ⟨hle, hlt, hc⟩ | ⟨hle, hlt, hc⟩ | ⟨hle, hlt, hc⟩ | ⟨hle, hc⟩
  · have hlead : (UInt8.ofNat cp).toNat = cp := by
      rw [UInt8.toNat_ofNat']
      omega
    refine ⟨.ofNat cp, [], by simp [encode, hc], ?_, hc, by simp⟩
    exact Layout.of_value_eq (.one (by omega)) hlead
  · have hlead : (UInt8.ofNat (0xC0 ||| cp >>> 6)).toNat = 0xC0 + cp / 2 ^ 6 := by
      rw [Nat.shiftRight_eq_div_pow]
      exact toNat_marked 5 6 (by omega) (by decide)
    refine ⟨.ofNat (0xC0 ||| cp >>> 6), [continuation cp 0],
      by simp only [encode, hc], ?_, hc, ?_⟩
    · refine Layout.of_value_eq (.two (by omega) (by omega)) ?_
      rw [hlead, hcont]
      omega
    · simp [isContinuation_continuation]
  · have hlead : (UInt8.ofNat (0xE0 ||| cp >>> 12)).toNat = 0xE0 + cp / 2 ^ 12 := by
      rw [Nat.shiftRight_eq_div_pow]
      exact toNat_marked 4 14 (by omega) (by decide)
    refine ⟨.ofNat (0xE0 ||| cp >>> 12), [continuation cp 6, continuation cp 0],
      by simp only [encode, hc], ?_, hc, ?_⟩
    · refine Layout.of_value_eq (.three (by omega) (by omega)) ?_
      rw [hlead, hcont, hcont]
      omega
    · simp [isContinuation_continuation]
  · have hlead : (UInt8.ofNat (0xF0 ||| cp >>> 18)).toNat = 0xF0 + cp / 2 ^ 18 := by
      rw [Nat.shiftRight_eq_div_pow]
      exact toNat_marked 3 30 (by omega) (by decide)
    refine ⟨.ofNat (0xF0 ||| cp >>> 18),
      [continuation cp 12, continuation cp 6, continuation cp 0],
      by simp only [encode, hc], ?_, hc, ?_⟩
    · refine Layout.of_value_eq (.four (by omega) (by omega)) ?_
      rw [hlead, hcont, hcont, hcont]
      omega
    · simp [isContinuation_continuation]
  · exact absurd h (by simp only [maxEncodable]; omega)

theorem encode_eq_error {cp : Nat} (h : maxEncodable < cp) :
    encode cp = .error ⟨cp⟩ ∧ encodedLength? cp = none := by
  simp only [maxEncodable] at h
  rcases encodedLength?_cases cp with
    ⟨hlt, -⟩ | ⟨-, hlt, -⟩ | ⟨-, hlt, -⟩ | ⟨-, hlt, -⟩ | ⟨-, hc⟩
  case inr.inr.inr.inr => exact ⟨by simp [encode, hc], hc⟩
  all_goals omega

theorem encode_eq_ok {cp : Nat} (h : cp ≤ maxEncodable) : encode cp = .ok (encoding cp) := by
  obtain ⟨lead, following, hencode, -⟩ := exists_encode_eq h
  simp [encoding, hencode]

theorem encodedLength?_eq {cp : Nat} (h : cp ≤ maxEncodable) :
    encodedLength? cp = some (encoding cp).length := by
  obtain ⟨lead, following, hencode, -, hlength, -⟩ := exists_encode_eq h
  simp [encoding, hencode, hlength]

/-- An encoding is a sequence of its codepoint, with marked bytes after the first. -/
theorem exists_encoding_eq {cp : Nat} (h : cp ≤ maxEncodable) :
    ∃ lead following, encoding cp = lead :: following ∧ Layout lead following cp
      ∧ ∀ b ∈ following, IsContinuation b := by
  obtain ⟨lead, following, hencode, hlayout, -, hmarked⟩ := exists_encode_eq h
  exact ⟨lead, following, by simp [encoding, hencode], hlayout, hmarked⟩

theorem length_encoding_pos {cp : Nat} (h : cp ≤ maxEncodable) :
    0 < (encoding cp).length := by
  obtain ⟨lead, following, hencoding, -⟩ := exists_encoding_eq h
  rw [hencoding]
  exact Nat.succ_pos _

theorem length_encoding_le_four (cp : Nat) : (encoding cp).length ≤ 4 := by
  rcases Nat.lt_or_ge maxEncodable cp with hgt | hle
  · simp [encoding, (encode_eq_error hgt).1]
  · have hlength := encodedLength?_eq hle
    rcases encodedLength?_cases cp with
      ⟨-, hc⟩ | ⟨-, -, hc⟩ | ⟨-, -, hc⟩ | ⟨-, -, hc⟩ | ⟨-, hc⟩ <;>
      rw [hlength] at hc <;> injection hc <;> omega

/-! ## The two directions against each other -/

/-- The decoder reads an encoding back, whatever follows it. -/
theorem decode_encoding_append {cp : Nat} (h : cp ≤ maxEncodable) (rest : Bytes) :
    decode (encoding cp ++ rest) = .ok (cp, (encoding cp).length) := by
  obtain ⟨lead, following, hencoding, hlayout, -⟩ := exists_encoding_eq h
  obtain ⟨hlead, hcp⟩ := layout_iff.mp hlayout
  simp only [hencoding, decode_append hlead, ← hcp, List.length_cons]

theorem Layout.le_maxEncodable {lead : UInt8} {following : Bytes} {cp : Nat}
    (h : Layout lead following cp) : cp ≤ maxEncodable := by
  simp only [maxEncodable]
  cases h <;> omega

theorem Layout.length_encoding_le {lead : UInt8} {following : Bytes} {cp : Nat}
    (h : Layout lead following cp) :
    (encoding cp).length ≤ following.length + 1
      ∧ ((encoding cp).length = following.length + 1
        ↔ leastOfLength (following.length + 1) ≤ cp) := by
  obtain ⟨length, hlength, hle, hiff⟩ := h.encodedLength?
  rw [encodedLength?_eq h.le_maxEncodable, Option.some.injEq] at hlength
  exact hlength ▸ ⟨hle, hiff⟩

/-- **Encoding undoes decoding** on a sequence exactly when its following bytes
are marked and it is not overlong. -/
theorem Layout.encoding_eq_iff {lead : UInt8} {following : Bytes} {cp : Nat}
    (h : Layout lead following cp) :
    encoding cp = lead :: following
      ↔ (∀ b ∈ following, IsContinuation b)
        ∧ leastOfLength (following.length + 1) ≤ cp := by
  obtain ⟨first, others, hencoding, hlayout, hmarked⟩ := exists_encoding_eq h.le_maxEncodable
  constructor
  · intro heq
    have hsame : others = following := (List.cons.inj (hencoding.symm.trans heq)).2
    exact ⟨hsame ▸ hmarked, h.length_encoding_le.2.mp (by simp [heq])⟩
  · rintro ⟨hfollowing, hleast⟩
    have hlength : (first :: others).length = following.length + 1 :=
      hencoding ▸ h.length_encoding_le.2.mpr hleast
    obtain ⟨hlead, hbits⟩ := hlayout.unique h (by simpa using hlength)
    rw [hencoding, hlead, eq_of_map_payload_eq hmarked hfollowing hbits]

end Utf8Text
