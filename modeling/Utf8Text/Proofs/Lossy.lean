import Utf8Text.Display.Lossy
import Utf8Text.Proofs.Codec

/-!
# Bytes shown as text

Two facts about showing bytes for people to read. A sequence that the decoder
refuses for its lead byte, or for its length, is shown with a replacement
character in front, however much of it is shown
(`lossy_of_decode_error`); and a line feed is shown only for a line feed
(`lineFeed_not_mem_lossy`).
-/

namespace Utf8Text.Display

/-! ## Sequences that break off -/

@[simp] theorem Pending.missing_extend (p : Pending) (b : UInt8) :
    (p.extend b).missing = p.missing - 1 := rfl

@[simp] theorem Pending.low_extend (p : Pending) (b : UInt8) : (p.extend b).low = 0x80 := rfl

@[simp] theorem Pending.high_extend (p : Pending) (b : UInt8) : (p.extend b).high = 0xBF := rfl

/-- What a lead byte begins has as many bytes to come as the lead announces. -/
theorem Pending.sequenceLength_of_ofLead? {b : UInt8} {p : Pending} (h : ofLead? b = some p) :
    sequenceLength b = p.missing + 1 := by
  have hlength := sequenceLength_cases b
  simp only [ofLead?, UInt8.le_iff_toNat_le, ← UInt8.toNat_inj, UInt8.reduceToNat] at h
  split_ifs at h <;> cases h <;> dsimp only <;> omega

/-- A sequence that breaks off is a maximal part, or has one in front. -/
theorem lossyAfter_of_length_lt {p : Pending} {bytes : Bytes} (h : bytes.length < p.missing) :
    ∃ shown, lossyAfter (some p) bytes = replacement :: shown := by
  induction bytes generalizing p with
  | nil => exact ⟨[], rfl⟩
  | cons b bytes ih =>
    rw [List.length_cons] at h
    rw [lossyAfter]
    split
    · have hmore : p.missing ≠ 1 := by omega
      rw [if_neg hmore]
      refine ih ?_
      rw [Pending.missing_extend]
      omega
    · exact ⟨_, rfl⟩

/-- **A refused sequence** is shown with a replacement character in front, also
when only a part of the bytes behind its lead is shown. -/
theorem lossy_of_decode_error {lead : UInt8} {rest : Bytes} {fault : DecodeFault}
    (h : decode (lead :: rest) = .error fault) {bytes : Bytes}
    (hbytes : bytes.length ≤ rest.length) :
    ∃ shown, lossy (lead :: bytes) = replacement :: shown := by
  have hlead : ¬ lead < 0x80 := by
    intro hascii
    have hone : sequenceLength lead = 1 := by rw [sequenceLength, if_pos hascii]
    rw [decode_eq_error_iff, hone] at h
    omega
  rw [lossy, lossyAfter, begin, if_neg hlead]
  cases hpending : Pending.ofLead? lead with
  | none => exact ⟨_, rfl⟩
  | some p =>
    have hlength := Pending.sequenceLength_of_ofLead? hpending
    refine lossyAfter_of_length_lt ?_
    rw [decode_eq_error_iff, hlength] at h
    omega

/-! ## Line feeds -/

/-- Whatever an unfinished sequence ends in, it stands for no ASCII character. -/
structure Pending.BeyondAscii (p : Pending) : Prop where
  missing : 1 ≤ p.missing
  low : 0x80 ≤ p.low.toNat
  high : p.high.toNat ≤ 0xBF
  least : 0x80 ≤ (p.value * 64 + (p.low.toNat - 0x80)) * 64 ^ (p.missing - 1)

theorem Pending.beyondAscii_of_ofLead? {b : UInt8} {p : Pending} (h : ofLead? b = some p) :
    p.BeyondAscii := by
  have hfive : b.toNat &&& 0x1F = b.toNat % 32 := Nat.and_two_pow_sub_one_eq_mod b.toNat 5
  have hfour : b.toNat &&& 0x0F = b.toNat % 16 := Nat.and_two_pow_sub_one_eq_mod b.toNat 4
  have hthree : b.toNat &&& 0x07 = b.toNat % 8 := Nat.and_two_pow_sub_one_eq_mod b.toNat 3
  simp only [ofLead?, UInt8.le_iff_toNat_le, ← UInt8.toNat_inj, UInt8.reduceToNat, hfive, hfour,
    hthree] at h
  -- E0 and F0 carry no value bits; there the least second byte does
  split_ifs at h <;> cases h <;> constructor <;> simp only [UInt8.reduceToNat] <;> omega

section
variable {p : Pending} {b : UInt8} (hp : p.BeyondAscii) (hb : p.accepts b = true)
include hp hb

theorem Pending.BeyondAscii.le_value_extend :
    p.value * 64 + (p.low.toNat - 0x80) ≤ (p.extend b).value := by
  rw [Pending.accepts, Bool.and_eq_true, decide_eq_true_iff, decide_eq_true_iff,
    UInt8.le_iff_toNat_le, UInt8.le_iff_toNat_le] at hb
  have hlow := hp.low
  have hhigh := hp.high
  show p.value * 64 + (p.low.toNat - 0x80) ≤ p.value <<< 6 ||| payload b
  rw [shift_or_payload]
  omega

theorem Pending.BeyondAscii.extend (hmore : p.missing ≠ 1) : (p.extend b).BeyondAscii := by
  have hvalue := hp.le_value_extend hb
  have hmissing := hp.missing
  have hleast := hp.least
  obtain ⟨left, hleft⟩ : ∃ left, p.missing - 1 = left + 1 := ⟨p.missing - 2, by omega⟩
  rw [hleft] at hleast
  constructor
  · rw [missing_extend, hleft]
    exact Nat.le_add_left 1 left
  · rw [low_extend]
    decide
  · rw [high_extend]
    decide
  · calc 0x80 ≤ (p.value * 64 + (p.low.toNat - 0x80)) * 64 ^ (left + 1) := hleast
      _ ≤ (p.extend b).value * 64 ^ (left + 1) := Nat.mul_le_mul_right _ hvalue
      _ = ((p.extend b).value * 64 + (0x80 - 0x80)) * 64 ^ left := by
          rw [Nat.pow_succ', Nat.sub_self, Nat.add_zero, Nat.mul_assoc]
      _ = _ := by rw [missing_extend, hleft, low_extend]; rfl

theorem Pending.BeyondAscii.ascii_le_value (hlast : p.missing = 1) :
    0x80 ≤ (p.extend b).value := by
  have hleast := hp.least
  rw [hlast, Nat.sub_self, Nat.pow_zero, Nat.mul_one] at hleast
  exact hleast.trans (hp.le_value_extend hb)

end

theorem ofNat_ne_lineFeed {n : Nat} (h : n ≠ 0x0A) : Char.ofNat n ≠ '\n' := by
  intro heq
  by_cases hvalid : n.isValidChar
  · have hofNat : Char.ofNat n = Char.ofNatAux n hvalid := dif_pos hvalid
    exact h (congrArg Char.toNat (hofNat.symm.trans heq))
  · -- what is no character is made into another one that is not a line feed
    have hofNat : Char.ofNat n = '\x00' := dif_neg hvalid
    exact absurd (hofNat.symm.trans heq) (by decide)

theorem begin_of_ne_lineFeed {b : UInt8} (h : b ≠ lineFeed) :
    '\n' ∉ (begin b).1 ∧ ∀ p ∈ (begin b).2, p.BeyondAscii := by
  rw [begin]
  split
  · have hb : b.toNat ≠ 0x0A := fun hb => h (UInt8.toNat_inj.mp hb)
    refine ⟨?_, fun p hp => by cases hp⟩
    rw [List.mem_singleton]
    exact (ofNat_ne_lineFeed hb).symm
  · cases hpending : Pending.ofLead? b with
    | none => exact ⟨by decide, fun p hp => by cases hp⟩
    | some p =>
      refine ⟨List.not_mem_nil, ?_⟩
      rintro q hq
      cases hq
      exact Pending.beyondAscii_of_ofLead? hpending

theorem lineFeed_not_mem_lossyAfter {pending : Option Pending} {bytes : Bytes}
    (hpending : ∀ p ∈ pending, p.BeyondAscii) (h : lineFeed ∉ bytes) :
    '\n' ∉ lossyAfter pending bytes := by
  induction bytes generalizing pending with
  | nil =>
    cases pending with
    | none => exact List.not_mem_nil
    | some p =>
      rw [lossyAfter]
      decide
  | cons b bytes ih =>
    rw [List.mem_cons, not_or] at h
    obtain ⟨hshown, hbegun⟩ := begin_of_ne_lineFeed (Ne.symm h.1)
    have hrest := ih hbegun h.2
    cases pending with
    | none =>
      rw [lossyAfter, List.mem_append, not_or]
      exact ⟨hshown, hrest⟩
    | some p =>
      have hp := hpending p rfl
      rw [lossyAfter]
      split
      · rename_i haccepts
        split
        · rename_i hlast
          have hvalue := hp.ascii_le_value haccepts hlast
          rw [List.mem_cons, not_or]
          refine ⟨(ofNat_ne_lineFeed ?_).symm, ih (fun _ hq => by cases hq) h.2⟩
          omega
        · rename_i hmore
          refine ih ?_ h.2
          rintro q hq
          cases hq
          exact hp.extend haccepts hmore
      · rw [List.mem_cons, List.mem_append, not_or, not_or]
        exact ⟨by decide, hshown, hrest⟩

/-- **Line feeds** are shown only where there are any. -/
theorem lineFeed_not_mem_lossy {bytes : Bytes} (h : lineFeed ∉ bytes) : '\n' ∉ lossy bytes :=
  lineFeed_not_mem_lossyAfter (fun _ hp => by cases hp) h

end Utf8Text.Display
