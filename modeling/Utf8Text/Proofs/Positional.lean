import Mathlib.Tactic.Ring
import Utf8Text.Proofs.Codec

/-!
# Sequences as numerals

A sequence is a numeral in base 64 with one digit to a byte: the value bits of the lead
byte, then the low six bits of every byte after it, whatever its upper two are
(`assemble_eq_placeValue`). What the decoder answers is said by this alone
(`decode_is_positional`): the values of a length are all that fit into its value bits,
and two sequences of one value and length have the same digits.
-/

namespace Utf8Text

/-! ## Digits and places -/

/-- The digit that the byte at place `i` of a sequence stands for. -/
def digit (length i : Nat) (b : UInt8) : Nat :=
  if i = 0 then b.toNat % 2 ^ leadBits length else b.toNat % 64

/-- The value of a sequence by its places: the last digit counts once, and each digit
64 times as much as the one behind it. -/
def placeValue (sequence : Bytes) : Nat :=
  (sequence.mapIdx fun i b =>
    digit sequence.length i b * 64 ^ (sequence.length - 1 - i)).sum

/-- The number of value bits of a sequence, by its length. -/
def valueBits : Nat → Nat
  | 1 => 7
  | 2 => 11
  | 3 => 16
  | _ => 21

/-- Reading digits one by one gives each its weight; the value read before them moves
up by as many places. -/
theorem foldl_digits (value : Nat) (following : Bytes) :
    following.foldl (fun value b => value * 64 + b.toNat % 64) value
      = value * 64 ^ following.length
        + (following.mapIdx fun i b =>
            b.toNat % 64 * 64 ^ (following.length - 1 - i)).sum := by
  induction following generalizing value with
  | nil => simp
  | cons b rest ih =>
    have hweight (i : Nat) : rest.length - 1 - i = rest.length - (i + 1) := by omega
    rw [List.foldl_cons, ih, List.mapIdx_cons, List.sum_cons, List.length_cons]
    simp only [Nat.add_sub_cancel, Nat.sub_zero, hweight]
    ring

theorem assemble_eq_placeValue (lead : UInt8) (following : Bytes) :
    assemble (following.length + 1) lead following = placeValue (lead :: following) := by
  have hweight (i : Nat) : following.length - 1 - i = following.length - (i + 1) := by omega
  rw [assemble_eq, foldl_digits, placeValue, List.mapIdx_cons, List.sum_cons, List.length_cons]
  simp [digit, hweight]

/-- Only the payloads of the bytes after the first count. -/
theorem assemble_congr {following following' : Bytes}
    (h : following.map payload = following'.map payload) (length : Nat) (lead : UInt8) :
    assemble length lead following = assemble length lead following' := by
  have hpayloads (bytes : Bytes) : assemble length lead bytes
      = (bytes.map payload).foldl (fun value p => value <<< 6 ||| p)
          (lead.toNat &&& leadMask length) := by
    rw [List.foldl_map, assemble]
  rw [hpayloads, hpayloads, h]

/-! ## The values of a length -/

theorem Layout.lt_two_pow_valueBits {lead : UInt8} {following : Bytes} {cp : Nat}
    (h : Layout lead following cp) : cp < 2 ^ valueBits (following.length + 1) := by
  cases h <;> simp only [List.length_cons, List.length_nil, valueBits] <;> omega

/-- A value that fits into the value bits of a length has a sequence of that length,
overlong or not. -/
theorem exists_layout_of_lt {n cp : Nat} (hlo : 1 ≤ n) (hhi : n ≤ 4)
    (h : cp < 2 ^ valueBits n) :
    ∃ lead following, following.length + 1 = n ∧ Layout lead following cp := by
  have hcont := toNat_continuation cp
  have hlead (marker : Nat) (hfits : marker < 256) :
      (UInt8.ofNat marker).toNat = marker := by
    rw [UInt8.toNat_ofNat']
    omega
  match n, hlo, hhi, h with
  | 1, _, _, (h : cp < 2 ^ 7) =>
    have hvalue := hlead cp (by omega)
    exact ⟨.ofNat cp, [], rfl, Layout.of_value_eq (.one (by omega)) hvalue⟩
  | 2, _, _, (h : cp < 2 ^ 11) =>
    have hvalue := hlead (0xC0 + cp / 2 ^ 6) (by omega)
    refine ⟨.ofNat (0xC0 + cp / 2 ^ 6), [continuation cp 0], rfl,
      Layout.of_value_eq (.two (by omega) (by omega)) ?_⟩
    rw [hvalue, hcont]
    omega
  | 3, _, _, (h : cp < 2 ^ 16) =>
    have hvalue := hlead (0xE0 + cp / 2 ^ 12) (by omega)
    refine ⟨.ofNat (0xE0 + cp / 2 ^ 12), [continuation cp 6, continuation cp 0], rfl,
      Layout.of_value_eq (.three (by omega) (by omega)) ?_⟩
    rw [hvalue, hcont, hcont]
    omega
  | 4, _, _, (h : cp < 2 ^ 21) =>
    have hvalue := hlead (0xF0 + cp / 2 ^ 18) (by omega)
    refine ⟨.ofNat (0xF0 + cp / 2 ^ 18),
      [continuation cp 12, continuation cp 6, continuation cp 0], rfl,
      Layout.of_value_eq (.four (by omega) (by omega)) ?_⟩
    rw [hvalue, hcont, hcont, hcont]
    omega

/-- **Fibres**: what two sequences have in common if they have one value and length. -/
theorem Layout.eq_and_length_eq_iff {lead lead' : UInt8} {following following' : Bytes}
    {cp cp' : Nat} (h : Layout lead following cp) (h' : Layout lead' following' cp') :
    (cp = cp' ∧ following.length = following'.length)
      ↔ lead = lead' ∧ following.map payload = following'.map payload := by
  constructor
  · rintro ⟨rfl, hlength⟩
    exact h.unique h' hlength
  · rintro ⟨rfl, hpayloads⟩
    have hlength : following.length = following'.length := by
      simpa using congrArg List.length hpayloads
    refine ⟨?_, hlength⟩
    rw [← h.assemble_eq, ← h'.assemble_eq, hlength, assemble_congr hpayloads]

/-! ## What the decoder answers -/

theorem decode_eq_ok_iff_layout {bytes : Bytes} {cp n : Nat} :
    decode bytes = .ok (cp, n)
      ↔ ∃ lead following rest, bytes = lead :: following ++ rest
          ∧ n = following.length + 1 ∧ Layout lead following cp := by
  rw [decode_eq_ok_iff]
  constructor
  · rintro ⟨lead, following, rest, rfl, hlead, rfl, hcp⟩
    exact ⟨lead, following, rest, rfl, rfl, layout_iff.mpr ⟨hlead, hcp⟩⟩
  · rintro ⟨lead, following, rest, rfl, rfl, hlayout⟩
    obtain ⟨hlead, hcp⟩ := layout_iff.mp hlayout
    exact ⟨lead, following, rest, rfl, hlead, rfl, hcp⟩

theorem decode_eq_ok_iff_placeValue {bytes : Bytes} {cp n : Nat} :
    decode bytes = .ok (cp, n)
      ↔ ∃ lead, bytes.head? = some lead ∧ n = sequenceLength lead ∧ n ≠ 0
          ∧ n ≤ bytes.length ∧ cp = placeValue (bytes.take n) := by
  rw [decode_eq_ok_iff]
  constructor
  · rintro ⟨lead, following, rest, rfl, hlead, rfl, rfl⟩
    refine ⟨lead, rfl, hlead.symm, Nat.succ_ne_zero _, by simp, ?_⟩
    rw [assemble_eq_placeValue, ← List.length_cons, List.take_left]
  · rintro ⟨lead, hhead, hn, hpos, hle, hcp⟩
    obtain ⟨tail, rfl⟩ := List.head?_eq_some_iff.mp hhead
    obtain ⟨k, rfl⟩ := Nat.exists_eq_succ_of_ne_zero hpos
    have hk : (tail.take k).length = k := by
      rw [List.length_take_of_le]
      exact Nat.le_of_succ_le_succ hle
    refine ⟨lead, tail.take k, tail.drop k, ?_, ?_, ?_, ?_⟩
    · rw [List.cons_append, List.take_append_drop]
    · rw [hk, ← hn]
    · rw [hk]
    · have hvalue := assemble_eq_placeValue lead (tail.take k)
      rw [hk] at hvalue
      rw [hcp, hvalue, List.take_succ_cons]

theorem decode_eq_invalidLeadByte_iff {bytes : Bytes} :
    decode bytes = .error .invalidLeadByte
      ↔ ∃ lead, bytes.head? = some lead ∧ sequenceLength lead = 0 := by
  cases bytes with
  | nil => simp [decode]
  | cons lead rest => simp [decode_eq_error_iff]

theorem decode_eq_truncatedSequence_iff {bytes : Bytes} :
    decode bytes = .error .truncatedSequence
      ↔ ∀ lead, bytes.head? = some lead → bytes.length < sequenceLength lead := by
  cases bytes with
  | nil => simp [decode]
  | cons lead rest => simp [decode_eq_error_iff]

/-- The decoder gives every value of a length. -/
theorem exists_decode_eq_ok {n cp : Nat} (hlo : 1 ≤ n) (hhi : n ≤ 4)
    (h : cp < 2 ^ valueBits n) : ∃ bytes, decode bytes = .ok (cp, n) := by
  obtain ⟨lead, following, hlength, hlayout⟩ := exists_layout_of_lt hlo hhi h
  refine ⟨lead :: following, decode_eq_ok_iff_layout.mpr ⟨lead, following, [], ?_, ?_, hlayout⟩⟩
  · rw [List.append_nil]
  · exact hlength.symm

section
variable {bytes : Bytes} {cp n : Nat} (h : decode bytes = .ok (cp, n))
include h

theorem decode_lt_two_pow_valueBits : cp < 2 ^ valueBits n := by
  obtain ⟨lead, following, rest, rfl, rfl, hlayout⟩ := decode_eq_ok_iff_layout.mp h
  exact hlayout.lt_two_pow_valueBits

theorem encodedLength?_of_decode : ∃ m ≤ n, encodedLength? cp = some m := by
  obtain ⟨lead, following, rest, rfl, rfl, hlayout⟩ := decode_eq_ok_iff_layout.mp h
  obtain ⟨m, hm, hle, -⟩ := hlayout.encodedLength?
  exact ⟨m, hle, hm⟩

/-- Two texts start with sequences of one value and length if their first bytes are the
same and the low six bits of the bytes after them are. -/
theorem decode_eq_decode_iff {other : Bytes} {cp' n' : Nat} (h' : decode other = .ok (cp', n')) :
    (cp, n) = (cp', n')
      ↔ bytes.head? = other.head?
        ∧ ((bytes.drop 1).take (n - 1)).map (·.toNat % 64)
          = ((other.drop 1).take (n - 1)).map (·.toNat % 64) := by
  obtain ⟨lead, following, rest, rfl, rfl, hlayout⟩ := decode_eq_ok_iff_layout.mp h
  obtain ⟨lead', following', rest', rfl, rfl, hlayout'⟩ := decode_eq_ok_iff_layout.mp h'
  have hpayload : (fun b : UInt8 => b.toNat % 64) = payload :=
    funext fun b => (payload_eq_mod b).symm
  have hfibre := hlayout.eq_and_length_eq_iff hlayout'
  simp only [hpayload, List.cons_append, List.head?_cons, List.drop_succ_cons, List.drop_zero,
    Nat.add_sub_cancel, List.take_left, Prod.mk.injEq, Nat.add_right_cancel_iff, Option.some.injEq]
  constructor
  · intro heq
    rw [heq.2, List.take_left]
    exact hfibre.mp heq
  · rintro ⟨rfl, hpayloads⟩
    -- one lead byte announces one length
    have hlength : following.length = following'.length := by
      have hlead := hlayout.sequenceLength_eq
      have hlead' := hlayout'.sequenceLength_eq
      omega
    rw [hlength, List.take_left] at hpayloads
    exact hfibre.mpr ⟨rfl, hpayloads⟩

end

/-- **Decoding is positional.** The decoder gives a value exactly if the first byte
announces a length and the bytes are as many; the value is that of the numeral they
make. Otherwise the first byte is at fault if it announces nothing, and else bytes are
missing. So the values of a length are exactly those that fit into its value bits, none
of them needs more bytes than that, and sequences of one value differ at most in the
upper two bits of the bytes after the first. -/
theorem decode_is_positional :
    (∀ bytes cp n, decode bytes = .ok (cp, n)
        ↔ ∃ lead, bytes.head? = some lead ∧ n = sequenceLength lead ∧ n ≠ 0
          ∧ n ≤ bytes.length ∧ cp = placeValue (bytes.take n))
      ∧ (∀ bytes, decode bytes = .error .invalidLeadByte
        ↔ ∃ lead, bytes.head? = some lead ∧ sequenceLength lead = 0)
      ∧ (∀ bytes, decode bytes = .error .truncatedSequence
        ↔ ∀ lead, bytes.head? = some lead → bytes.length < sequenceLength lead)
      ∧ (∀ bytes cp n, decode bytes = .ok (cp, n) →
        cp < 2 ^ valueBits n ∧ ∃ m ≤ n, encodedLength? cp = some m)
      ∧ (∀ n cp, 1 ≤ n → n ≤ 4 → cp < 2 ^ valueBits n → ∃ bytes, decode bytes = .ok (cp, n))
      ∧ ∀ bytes cp n other cp' n', decode bytes = .ok (cp, n) → decode other = .ok (cp', n') →
        ((cp, n) = (cp', n')
          ↔ bytes.head? = other.head?
            ∧ ((bytes.drop 1).take (n - 1)).map (·.toNat % 64)
              = ((other.drop 1).take (n - 1)).map (·.toNat % 64)) := by
  refine ⟨?_, ?_, ?_, ?_, ?_, ?_⟩
  · intro bytes cp n
    exact decode_eq_ok_iff_placeValue
  · intro bytes
    exact decode_eq_invalidLeadByte_iff
  · intro bytes
    exact decode_eq_truncatedSequence_iff
  · intro bytes cp n h
    exact ⟨decode_lt_two_pow_valueBits h, encodedLength?_of_decode h⟩
  · intro n cp hlo hhi h
    exact exists_decode_eq_ok hlo hhi h
  · intro bytes cp n other cp' n' h h'
    exact decode_eq_decode_iff h h'

/-- The euro sign, and the same bits with the marks of the bytes after the first left
out and a letter behind them. -/
theorem decode_is_positional_at_unmarked_euro :
    let euro : Bytes := [0xE2, 0x82, 0xAC]
    let unmarked : Bytes := [0xE2, 0x02, 0x6C, 0x41]
    decode euro = .ok (0x20AC, 3) ∧ decode unmarked = .ok (0x20AC, 3)
      ∧ 0x20AC = 2 * 64 ^ 2 + 2 * 64 + 44
      ∧ ((euro.drop 1).take 2).map (·.toNat % 64) = ((unmarked.drop 1).take 2).map (·.toNat % 64)
      ∧ (∃ bytes, decode bytes = .ok (0x41, 4)) := by
  intro euro unmarked
  obtain ⟨hvalue, -, -, -, hreached, hfibre⟩ := decode_is_positional
  have heuro : decode euro = .ok (0x20AC, 3) :=
    (hvalue euro 0x20AC 3).mpr ⟨0xE2, rfl, by decide, by decide, by decide, by decide⟩
  have hunmarked : decode unmarked = .ok (0x20AC, 3) :=
    (hvalue unmarked 0x20AC 3).mpr ⟨0xE2, rfl, by decide, by decide, by decide, by decide⟩
  exact ⟨heuro, hunmarked, by decide, ((hfibre _ _ _ _ _ _ heuro hunmarked).mp rfl).2,
    hreached 4 0x41 (by decide) (by decide) (by decide)⟩

end Utf8Text
