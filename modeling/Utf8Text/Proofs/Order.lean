import Utf8Text.Proofs.RoundTrip

/-!
# The order of encodings

Encodings, one after the other, are ordered byte by byte as the codepoints they were
made from. A longer encoding has a greater lead byte. Two encodings of one length are
numerals in base 64 with one digit to a byte, and such numerals are ordered as their
values are (`lt_or_of_foldl_lt`). Either way it is a byte of the first encodings that
differ which decides, so nothing behind them counts (`encoding_append_lt`), and
`encode_preserves_order` follows by induction on the lists.
-/

namespace Utf8Text

/-! ## Lead bytes -/

/-- A lead byte that announces more is greater. -/
theorem lt_of_sequenceLength_lt {lead lead' : UInt8} (hpos : 0 < sequenceLength lead)
    (h : sequenceLength lead < sequenceLength lead') : lead < lead' := by
  have hlead := sequenceLength_cases lead
  have hlead' := sequenceLength_cases lead'
  rw [UInt8.lt_iff_toNat_lt]
  omega

/-- Lead bytes that announce the same are ordered by their value bits. -/
theorem lt_of_sequenceLength_eq {lead lead' : UInt8} {n : Nat} (hpos : 0 < n)
    (h : sequenceLength lead = n) (h' : sequenceLength lead' = n) :
    (lead.toNat % 2 ^ leadBits n < lead'.toNat % 2 ^ leadBits n → lead < lead')
      ∧ (lead.toNat % 2 ^ leadBits n = lead'.toNat % 2 ^ leadBits n → lead = lead') := by
  have hlead := sequenceLength_cases lead
  have hlead' := sequenceLength_cases lead'
  rw [UInt8.lt_iff_toNat_lt, ← UInt8.toNat_inj]
  have hn : n = 1 ∨ n = 2 ∨ n = 3 ∨ n = 4 := by omega
  rcases hn with rfl | rfl | rfl | rfl <;> simp only [leadBits, Nat.reducePow] <;> omega

/-! ## Digits in base 64 -/

/-- Marked bytes are ordered as the digits that they carry. -/
theorem IsContinuation.lt_iff {a b : UInt8} (ha : IsContinuation a) (hb : IsContinuation b) :
    a < b ↔ a.toNat % 64 < b.toNat % 64 := by
  have hamark := isContinuation_iff.mp ha
  have hbmark := isContinuation_iff.mp hb
  rw [UInt8.lt_iff_toNat_lt]
  omega

/-- **Numerals in base 64** of as many digits: the greater value has the greater number
in front of its digits, or the first digit that differs is greater. -/
theorem lt_or_of_foldl_lt {as bs : Bytes} (hlength : as.length = bs.length)
    (ha : ∀ a ∈ as, IsContinuation a) (hb : ∀ b ∈ bs, IsContinuation b) {v w : Nat}
    (h : as.foldl (fun value b => value * 64 + b.toNat % 64) v
      < bs.foldl (fun value b => value * 64 + b.toNat % 64) w) :
    v < w ∨ v = w ∧ ∀ s t : Bytes, as ++ s < bs ++ t := by
  induction as generalizing bs v w with
  | nil =>
    obtain rfl : bs = [] := List.length_eq_zero_iff.mp hlength.symm
    exact .inl h
  | cons a as ih =>
    cases bs with
    | nil => cases hlength
    | cons b bs =>
      have hlt := (ha a List.mem_cons_self).lt_iff (hb b List.mem_cons_self)
      have hdigits : v * 64 + a.toNat % 64 < w * 64 + b.toNat % 64
          ∨ v * 64 + a.toNat % 64 = w * 64 + b.toNat % 64
            ∧ ∀ s t : Bytes, as ++ s < bs ++ t :=
        ih (Nat.succ.inj hlength) (fun x hx => ha x (List.mem_cons_of_mem a hx))
          (fun x hx => hb x (List.mem_cons_of_mem b hx)) h
      rcases hdigits with hless | ⟨hsame, hrest⟩
      · rcases Nat.lt_or_ge v w with hvw | hwv
        · exact .inl hvw
        · -- the numbers in front are the same, so this digit decides
          have hvalue : v = w := by omega
          have hab : a < b := hlt.mpr (by omega)
          exact .inr ⟨hvalue, fun s t => List.cons_lt_cons_iff.mpr (.inl hab)⟩
      · have hvalue : v = w := by omega
        have hab : a = b := by
          have hamark := isContinuation_iff.mp (ha a List.mem_cons_self)
          have hbmark := isContinuation_iff.mp (hb b List.mem_cons_self)
          rw [← UInt8.toNat_inj]
          omega
        exact .inr ⟨hvalue, fun s t => List.cons_lt_cons_iff.mpr (.inr ⟨hab, hrest s t⟩)⟩

/-! ## Encodings -/

theorem length_encoding_le_of_le {cp cp' : Nat} (h : cp ≤ cp') (hcp' : cp' ≤ maxEncodable) :
    (encoding cp).length ≤ (encoding cp').length := by
  have hlength := encodedLength?_eq (h.trans hcp')
  have hlength' := encodedLength?_eq hcp'
  have hcases := encodedLength?_cases cp
  have hcases' := encodedLength?_cases cp'
  rw [hlength] at hcases
  rw [hlength'] at hcases'
  simp only [Option.some.injEq, reduceCtorEq, and_false, or_false] at hcases hcases'
  omega

/-- **One encoding against another**: the encoding of a smaller codepoint is smaller,
whatever follows the two. -/
theorem encoding_append_lt {cp cp' : Nat} (h : cp < cp') (hcp' : cp' ≤ maxEncodable)
    (s t : Bytes) : encoding cp ++ s < encoding cp' ++ t := by
  obtain ⟨lead, following, hencoding, hlayout, hmarked⟩ := exists_encoding_eq (h.le.trans hcp')
  obtain ⟨lead', following', hencoding', hlayout', hmarked'⟩ := exists_encoding_eq hcp'
  have hle := length_encoding_le_of_le h.le hcp'
  rw [hencoding, hencoding', List.length_cons, List.length_cons] at hle
  obtain ⟨hlead, hvalue⟩ := layout_iff.mp hlayout
  obtain ⟨hlead', hvalue'⟩ := layout_iff.mp hlayout'
  rw [hencoding, hencoding', List.cons_append, List.cons_append, List.cons_lt_cons_iff]
  rcases Nat.lt_or_eq_of_le hle with hshorter | hsame
  · exact .inl (lt_of_sequenceLength_lt (by omega) (by omega))
  · rw [assemble_eq] at hvalue hvalue'
    rw [← hsame] at hlead' hvalue'
    rw [hvalue, hvalue'] at h
    obtain ⟨hless, heq⟩ := lt_of_sequenceLength_eq (Nat.succ_pos _) hlead hlead'
    rcases lt_or_of_foldl_lt (Nat.succ.inj hsame) hmarked hmarked' h with hbits | ⟨hbits, hrest⟩
    · exact .inl (hless hbits)
    · exact .inr ⟨heq hbits, hrest s t⟩

theorem encodings_lt_encodings {xs ys : List Nat} (hxs : ∀ cp ∈ xs, cp ≤ maxEncodable)
    (hys : ∀ cp ∈ ys, cp ≤ maxEncodable) (h : xs < ys) : encodings xs < encodings ys := by
  induction h with
  | @nil cp ys =>
    obtain ⟨lead, following, hencoding, -⟩ := exists_encoding_eq (hys cp List.mem_cons_self)
    rw [encodings_nil, encodings_cons, hencoding]
    exact List.nil_lt_cons _ _
  | rel hlt => exact encoding_append_lt hlt (hys _ List.mem_cons_self) _ _
  | cons _ ih =>
    exact List.append_left_lt (ih (fun x hx => hxs x (List.mem_cons_of_mem _ hx))
      fun y hy => hys y (List.mem_cons_of_mem _ hy))

theorem encodings_lt_encodings_iff {xs ys : List Nat} (hxs : ∀ cp ∈ xs, cp ≤ maxEncodable)
    (hys : ∀ cp ∈ ys, cp ≤ maxEncodable) : encodings xs < encodings ys ↔ xs < ys := by
  constructor
  · intro h
    by_contra hnot
    rcases List.le_iff_lt_or_eq.mp (List.not_lt.mp hnot) with hgt | heq
    · exact List.lt_asymm h (encodings_lt_encodings hys hxs hgt)
    · rw [heq] at h
      exact List.lt_irrefl _ h
  · exact encodings_lt_encodings hxs hys

/-- **Prefix-freeness.** -/
theorem eq_of_encoding_prefix {cp cp' : Nat} (hcp : cp ≤ maxEncodable)
    (hcp' : cp' ≤ maxEncodable) (h : encoding cp <+: encoding cp') : cp = cp' := by
  obtain ⟨rest, hrest⟩ := h
  have hread := decode_encoding_append hcp rest
  have hread' := decode_encoding_append hcp' []
  rw [List.append_nil, ← hrest, hread, Except.ok.injEq, Prod.mk.injEq] at hread'
  exact hread'.1

/-- **Encoding preserves order.** Lists of codepoints that can be encoded are in the
same lexicographic order as the bytes of their encodings, one after the other; and no
codepoint has an encoding that another one's begins with. -/
theorem encode_preserves_order :
    (∀ xs ys : List Nat, (∀ cp ∈ xs, cp ≤ maxEncodable) → (∀ cp ∈ ys, cp ≤ maxEncodable) →
      ∃ us vs, xs.mapM encode = .ok us ∧ ys.mapM encode = .ok vs
        ∧ (xs < ys ↔ us.flatten < vs.flatten))
      ∧ ∀ cp cp' : Nat, cp ≤ maxEncodable → cp' ≤ maxEncodable →
        ∃ u v, encode cp = .ok u ∧ encode cp' = .ok v ∧ (u <+: v → cp = cp') := by
  refine ⟨?_, ?_⟩
  · intro xs ys hxs hys
    refine ⟨_, _, mapM_encode hxs, mapM_encode hys, ?_⟩
    rw [← List.flatMap_def, ← List.flatMap_def]
    exact (encodings_lt_encodings_iff hxs hys).symm
  · intro cp cp' hcp hcp'
    exact ⟨_, _, encode_eq_ok hcp, encode_eq_ok hcp', eq_of_encoding_prefix hcp hcp'⟩

/-- The last surrogate and the first codepoint of four bytes, behind the same letter. -/
theorem encode_preserves_order_of_surrogate :
    let xs := [0x61, 0xDFFF]
    let ys := [0x61, 0x10000, 0]
    (∀ cp ∈ xs, cp ≤ maxEncodable) ∧ (∀ cp ∈ ys, cp ≤ maxEncodable)
      ∧ ([0x61, 0xED, 0xBF, 0xBF] : Bytes) < [0x61, 0xF0, 0x90, 0x80, 0x80, 0x00]
      ∧ ∃ u v, encode 0xDFFF = .ok u ∧ encode 0x10000 = .ok v ∧ ¬ u <+: v := by
  intro xs ys
  have hxs : ∀ cp ∈ xs, cp ≤ maxEncodable := by decide
  have hys : ∀ cp ∈ ys, cp ≤ maxEncodable := by decide
  obtain ⟨horder, hprefix⟩ := encode_preserves_order
  obtain ⟨us, vs, hus, hvs, hlt⟩ := horder xs ys hxs hys
  obtain ⟨u, v, hu, hv, heq⟩ := hprefix 0xDFFF 0x10000 (by decide) (by decide)
  obtain rfl : [[0x61], [0xED, 0xBF, 0xBF]] = us := Except.ok.inj (by rw [← hus]; rfl)
  obtain rfl : [[0x61], [0xF0, 0x90, 0x80, 0x80], [0x00]] = vs :=
    Except.ok.inj (by rw [← hvs]; rfl)
  refine ⟨hxs, hys, hlt.mp (by decide), u, v, hu, hv, ?_⟩
  intro h
  exact absurd (heq h) (by decide)

end Utf8Text
