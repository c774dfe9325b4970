import Utf8Text.Proofs.RoundTrip

/-!
# Boundaries between encodings

Encodings put one after the other, each at the place where it comes to lie. An
offset is a boundary if no encoding reaches across it. An offset that is none
lies inside a single encoding (`cut_cases`), and the byte there is marked as one
that cannot lead (`encoding_drop`): this is what lets a reader notice that it
was put into the middle of a sequence.
-/

namespace Utf8Text

/-! ## Places -/

/-- The offset behind a sequence. -/
def Sequence.stop (s : Sequence) : Nat :=
  s.offset + s.length

/-- The encodings of codepoints as they lie one after the other, from `offset`
on. -/
def placedFrom (offset : Nat) : List Nat → List Sequence
  | [] => []
  | cp :: cps =>
    ⟨offset, (encoding cp).length, cp⟩ :: placedFrom (offset + (encoding cp).length) cps

/-- The start of the first encoding, or the end of one of them. -/
def IsBoundary (cps : List Nat) (offset : Nat) : Prop :=
  offset = 0 ∨ ∃ s ∈ placedFrom 0 cps, offset = s.stop

/-- The codepoints whose encodings lie wholly between two offsets. -/
def codepointsWithin (cps : List Nat) (start stop : Nat) : List Nat :=
  ((placedFrom 0 cps).filter fun s => start ≤ s.offset ∧ s.stop ≤ stop).map
    Sequence.codepoint

theorem placedFrom_append (offset : Nat) (xs ys : List Nat) :
    placedFrom offset (xs ++ ys)
      = placedFrom offset xs ++ placedFrom (offset + (encodings xs).length) ys := by
  induction xs generalizing offset with
  | nil => rfl
  | cons cp xs ih =>
    simp only [List.cons_append, placedFrom, ih, encodings_cons, List.length_append,
      Nat.add_assoc]

@[simp] theorem map_codepoint_placedFrom (offset : Nat) (cps : List Nat) :
    (placedFrom offset cps).map Sequence.codepoint = cps := by
  induction cps generalizing offset with
  | nil => rfl
  | cons cp cps ih => rw [placedFrom, List.map_cons, ih]

theorem mem_of_mem_codepointsWithin {cps : List Nat} {start stop cp : Nat}
    (h : cp ∈ codepointsWithin cps start stop) : cp ∈ cps := by
  obtain ⟨s, hs, rfl⟩ := List.mem_map.mp h
  rw [← map_codepoint_placedFrom 0 cps]
  exact List.mem_map.mpr ⟨s, (List.mem_filter.mp hs).1, rfl⟩

theorem bounds_of_mem_placedFrom {offset : Nat} {cps : List Nat} {s : Sequence}
    (h : s ∈ placedFrom offset cps) :
    offset ≤ s.offset ∧ s.stop ≤ offset + (encodings cps).length := by
  induction cps generalizing offset with
  | nil => cases h
  | cons cp cps ih =>
    rw [encodings_cons, List.length_append]
    rcases List.mem_cons.mp h with rfl | h
    · exact ⟨Nat.le_refl _, by simp only [Sequence.stop]; omega⟩
    · obtain ⟨hlo, hhi⟩ := ih h
      constructor <;> omega

theorem length_pos_of_mem_placedFrom {offset : Nat} {cps : List Nat}
    (hcps : ∀ cp ∈ cps, cp ≤ maxEncodable) {s : Sequence} (h : s ∈ placedFrom offset cps) :
    0 < s.length := by
  induction cps generalizing offset with
  | nil => cases h
  | cons cp cps ih =>
    rcases List.mem_cons.mp h with rfl | h
    · exact length_encoding_pos (hcps cp (by simp))
    · exact ih (fun x hx => hcps x (by simp [hx])) h

/-! ## Boundaries -/

theorem isBoundary_length {left : List Nat} (right : List Nat) :
    IsBoundary (left ++ right) (encodings left).length := by
  rcases List.eq_nil_or_concat left with rfl | ⟨front, cp, rfl⟩
  · exact .inl rfl
  · refine .inr ⟨⟨(encodings front).length, (encoding cp).length, cp⟩, ?_, ?_⟩
    · simp [placedFrom_append, placedFrom]
    · simp [Sequence.stop]

/-- An offset inside an encoding is no boundary: the encodings before it end too
early, the others too late. -/
theorem not_isBoundary_of_inside {left right : List Nat} {cp offset : Nat}
    (hlo : (encodings left).length < offset)
    (hhi : offset < (encodings left).length + (encoding cp).length) :
    ¬ IsBoundary (left ++ cp :: right) offset := by
  rintro (rfl | ⟨s, hs, rfl⟩)
  · omega
  · rw [placedFrom_append, List.mem_append, placedFrom, List.mem_cons] at hs
    rcases hs with hs | rfl | hs
    · have := (bounds_of_mem_placedFrom hs).2
      omega
    · simp only [Sequence.stop] at hhi
      omega
    · have := (bounds_of_mem_placedFrom hs).1
      simp only [Sequence.stop] at hhi
      omega

/-- **Cutting**: an offset lies between two encodings or inside one. -/
theorem cut_cases {cps : List Nat} {offset : Nat} (h : offset ≤ (encodings cps).length) :
    (∃ left right, cps = left ++ right ∧ offset = (encodings left).length)
      ∨ ∃ left cp right, cps = left ++ cp :: right ∧ (encodings left).length < offset
        ∧ offset < (encodings left).length + (encoding cp).length := by
  induction cps generalizing offset with
  | nil => exact .inl ⟨[], [], rfl, Nat.le_zero.mp h⟩
  | cons cp cps ih =>
    rw [encodings_cons, List.length_append] at h
    rcases Nat.eq_zero_or_pos offset with rfl | hpos
    · exact .inl ⟨[], cp :: cps, rfl, rfl⟩
    · rcases Nat.lt_or_ge offset (encoding cp).length with hlt | hge
      · exact .inr ⟨[], cp, cps, rfl, hpos, by simpa using hlt⟩
      · obtain ⟨n, rfl⟩ := Nat.exists_eq_add_of_le hge
        have hn : n ≤ (encodings cps).length := by omega
        rcases ih hn with
          ⟨left, right, rfl, rfl⟩ | ⟨left, other, right, rfl, hlo, hhi⟩
        · exact .inl ⟨cp :: left, right, rfl, by simp⟩
        · refine .inr ⟨cp :: left, other, right, rfl, ?_, ?_⟩ <;>
            rw [encodings_cons, List.length_append] <;> omega

section
variable {left right : List Nat} {n : Nat} (h : n ≤ (encodings right).length)
include h

theorem isBoundary_add_iff :
    IsBoundary (left ++ right) ((encodings left).length + n)
      ↔ ∃ mid rest, right = mid ++ rest ∧ n = (encodings mid).length := by
  constructor
  · intro hboundary
    rcases cut_cases h with hcut | ⟨mid, cp, rest, rfl, hlo, hhi⟩
    · exact hcut
    · refine absurd hboundary ?_
      rw [← List.append_assoc]
      apply not_isBoundary_of_inside <;> rw [length_encodings_append] <;> omega
  · rintro ⟨mid, rest, rfl, rfl⟩
    rw [← List.append_assoc, ← length_encodings_append]
    exact isBoundary_length rest

theorem exists_inside_of_not_isBoundary
    (hnot : ¬ IsBoundary (left ++ right) ((encodings left).length + n)) :
    ∃ mid cp rest, right = mid ++ cp :: rest ∧ (encodings mid).length < n
      ∧ n < (encodings mid).length + (encoding cp).length := by
  rcases cut_cases h with hcut | hinside
  · exact absurd ((isBoundary_add_iff h).mpr hcut) hnot
  · exact hinside

end

theorem isBoundary_iff {cps : List Nat} {offset : Nat} (h : offset ≤ (encodings cps).length) :
    IsBoundary cps offset
      ↔ ∃ left right, cps = left ++ right ∧ offset = (encodings left).length := by
  have hadd := @isBoundary_add_iff [] cps offset h
  rwa [encodings_nil, List.length_nil, Nat.zero_add, List.nil_append] at hadd

/-! ## Inside an encoding -/

/-- What follows the lead byte of an encoding cannot lead. -/
theorem encoding_drop {cp n : Nat} (hcp : cp ≤ maxEncodable) (hpos : 0 < n)
    (hlt : n < (encoding cp).length) :
    ∃ lead rest, (encoding cp).drop n = lead :: rest ∧ sequenceLength lead = 0 := by
  obtain ⟨first, following, hencoding, -, hmarked⟩ := exists_encoding_eq hcp
  obtain ⟨m, rfl⟩ : ∃ m, n = m + 1 := ⟨n - 1, by omega⟩
  rw [hencoding, List.length_cons] at hlt
  rw [hencoding, List.drop_succ_cons, List.drop_eq_getElem_cons (by omega)]
  exact ⟨_, _, rfl, (hmarked _ (List.getElem_mem _)).sequenceLength_eq_zero⟩

/-- The front of an encoding announces more bytes than there are. -/
theorem encoding_take {cp n : Nat} (hcp : cp ≤ maxEncodable) (hpos : 0 < n)
    (hlt : n < (encoding cp).length) :
    ∃ lead rest others, (encoding cp).take n = lead :: rest
      ∧ encoding cp = lead :: others
      ∧ decode (lead :: rest) = .error .truncatedSequence := by
  obtain ⟨first, following, hencoding, hlayout, -⟩ := exists_encoding_eq hcp
  have hlead := hlayout.sequenceLength_eq
  obtain ⟨m, rfl⟩ : ∃ m, n = m + 1 := ⟨n - 1, by omega⟩
  rw [hencoding, List.length_cons] at hlt
  refine ⟨first, following.take m, following, ?_, hencoding, ?_⟩
  · rw [hencoding, List.take_succ_cons]
  · rw [decode_eq_error_iff, List.length_take]
    exact .inr ⟨rfl, by omega⟩

end Utf8Text
