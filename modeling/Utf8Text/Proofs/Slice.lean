import Utf8Text.Proofs.Boundary

/-!
# Slices of encodings

A slice of encodings may begin and end anywhere. Three lemmas, one for each way
of cutting, say what it decodes to: between boundaries it is itself made of
encodings; an end inside an encoding leaves a truncated sequence behind them;
and a start inside an encoding is noticed at the first byte. No slice decodes to
a codepoint that was not encoded (`slice_of_encodings`).
-/

namespace Utf8Text

open Decoding Reader

/-! ## What lies within a slice -/

/-- Within a slice that starts at a boundary lie the codepoints up to the first
one that ends too late. -/
theorem codepointsWithin_append {left mid right : List Nat} {stop : Nat}
    (hcps : ∀ cp ∈ left, cp ≤ maxEncodable)
    (hmid : (encodings left).length + (encodings mid).length ≤ stop)
    (hright : ∀ s ∈ placedFrom ((encodings left).length + (encodings mid).length) right,
      stop < s.stop) :
    codepointsWithin (left ++ (mid ++ right)) (encodings left).length stop = mid := by
  have hbefore : ∀ s ∈ placedFrom 0 left,
      ¬ ((encodings left).length ≤ s.offset ∧ s.stop ≤ stop) := by
    intro s hs
    have hstop := (bounds_of_mem_placedFrom hs).2
    have hpos := length_pos_of_mem_placedFrom hcps hs
    simp only [Sequence.stop] at hstop
    omega
  have hinside : ∀ s ∈ placedFrom (encodings left).length mid,
      (encodings left).length ≤ s.offset ∧ s.stop ≤ stop := by
    intro s hs
    have hbounds := bounds_of_mem_placedFrom hs
    omega
  have hbehind : ∀ s ∈ placedFrom ((encodings left).length + (encodings mid).length) right,
      ¬ ((encodings left).length ≤ s.offset ∧ s.stop ≤ stop) := by
    intro s hs
    have := hright s hs
    omega
  rw [codepointsWithin, placedFrom_append, placedFrom_append, Nat.zero_add,
    List.filter_append, List.filter_append,
    List.filter_eq_nil_iff.mpr (by simpa using hbefore),
    List.filter_eq_self.mpr (by simpa using hinside),
    List.filter_eq_nil_iff.mpr (by simpa using hbehind),
    List.nil_append, List.append_nil, map_codepoint_placedFrom]

/-- Encodings in front of bytes that begin with a fault. -/
theorem items_encodings_append {cps : List Nat} (hcps : ∀ cp ∈ cps, cp ≤ maxEncodable)
    {lead : UInt8} {rest : Bytes} {fault : DecodeFault}
    (h : decode (lead :: rest) = .error fault) :
    items (encodings cps ++ lead :: rest)
      = cps.map .codepoint ++ [.error ⟨fault, (encodings cps).length, lead⟩] := by
  obtain ⟨hcodepoints, -, herror⟩ := ofBytes_encodings hcps
  have hread : items (encodings cps ++ lead :: rest)
      = (ofBytes (encodings cps)).codepoints.map .codepoint
        ++ [.error ⟨fault, (encodings cps).length, lead⟩] := by
    rw [items, ofBytes_append herror, ofBytes_of_decode_error h]
    simp [Decoding.items, codepoints, shift, DecodeError.shift]
  rw [hread, hcodepoints]

/-! ## The three ways of cutting -/

section
variable {cps : List Nat} (hcps : ∀ cp ∈ cps, cp ≤ maxEncodable) {start stop : Nat}
  (hle : start ≤ stop) (hstop : stop ≤ (encodings cps).length)
include hcps hle hstop

/-- Between two boundaries. -/
theorem slice_between_boundaries (hstart : IsBoundary cps start) (hend : IsBoundary cps stop) :
    items (((encodings cps).drop start).take (stop - start))
      = (codepointsWithin cps start stop).map .codepoint := by
  obtain ⟨left, right, rfl, rfl⟩ := (isBoundary_iff (hle.trans hstop)).mp hstart
  obtain ⟨n, rfl⟩ := Nat.exists_eq_add_of_le hle
  rw [length_encodings_append] at hstop
  obtain ⟨mid, rest, rfl, rfl⟩ :=
    (isBoundary_add_iff (Nat.le_of_add_le_add_left hstop)).mp hend
  have hrest : ∀ x ∈ rest, x ≤ maxEncodable := fun x hx => hcps x (by simp [hx])
  have hwithin : codepointsWithin (left ++ (mid ++ rest)) (encodings left).length
      ((encodings left).length + (encodings mid).length) = mid := by
    refine codepointsWithin_append (fun x hx => hcps x (by simp [hx])) (Nat.le_refl _) ?_
    intro s hs
    have hstart := (bounds_of_mem_placedFrom hs).1
    have hpos := length_pos_of_mem_placedFrom hrest hs
    simp only [Sequence.stop]
    omega
  rw [hwithin, Nat.add_sub_cancel_left, encodings_append, List.drop_left, encodings_append,
    List.take_left, items_encodings fun x hx => hcps x (by simp [hx])]

/-- From a boundary into an encoding. -/
theorem slice_into_encoding (hstart : IsBoundary cps start) (hend : ¬ IsBoundary cps stop) :
    ∃ s ∈ placedFrom 0 cps, start ≤ s.offset ∧ s.offset < stop ∧ stop < s.stop
      ∧ ∃ lead, (encodings cps)[s.offset]? = some lead
        ∧ items (((encodings cps).drop start).take (stop - start))
          = (codepointsWithin cps start stop).map .codepoint
            ++ [.error ⟨.truncatedSequence, s.offset - start, lead⟩] := by
  obtain ⟨left, right, rfl, rfl⟩ := (isBoundary_iff (hle.trans hstop)).mp hstart
  obtain ⟨m, rfl⟩ := Nat.exists_eq_add_of_le hle
  rw [length_encodings_append] at hstop
  obtain ⟨mid, cp, rest, rfl, hlo, hhi⟩ :=
    exists_inside_of_not_isBoundary (Nat.le_of_add_le_add_left hstop) hend
  obtain ⟨n, rfl⟩ := Nat.exists_eq_add_of_le hlo.le
  have hcp : cp ≤ maxEncodable := hcps cp (by simp)
  obtain ⟨lead, shown, others, htake, hencoding, hread⟩ :=
    encoding_take hcp (by omega : 0 < n) (by omega)
  have hwithin : codepointsWithin (left ++ (mid ++ cp :: rest)) (encodings left).length
      ((encodings left).length + ((encodings mid).length + n)) = mid := by
    refine codepointsWithin_append (fun x hx => hcps x (by simp [hx])) (by omega) ?_
    intro s hs
    rcases List.mem_cons.mp hs with rfl | hs
    · simp only [Sequence.stop]
      omega
    · have hstart := (bounds_of_mem_placedFrom hs).1
      simp only [Sequence.stop]
      omega
  have hbytes : ((encodings (left ++ (mid ++ cp :: rest))).drop (encodings left).length).take
      ((encodings mid).length + n) = encodings mid ++ lead :: shown := by
    rw [encodings_append, List.drop_left, encodings_append, encodings_cons,
      List.take_length_add_append, List.take_append_of_le_length (by omega), htake]
  have hlead : (encodings (left ++ (mid ++ cp :: rest)))[
      (encodings left).length + (encodings mid).length]? = some lead := by
    rw [← List.append_assoc, encodings_append (left ++ mid), ← length_encodings_append,
      List.getElem?_append_right (Nat.le_refl _), Nat.sub_self, encodings_cons, hencoding]
    rfl
  refine ⟨⟨(encodings left).length + (encodings mid).length, (encoding cp).length, cp⟩, ?_, ?_,
    ?_, ?_, lead, hlead, ?_⟩
  · simp [placedFrom_append, placedFrom]
  · exact Nat.le_add_right _ _
  · show (encodings left).length + (encodings mid).length < _
    omega
  · show _ < (encodings left).length + (encodings mid).length + (encoding cp).length
    omega
  · rw [Nat.add_sub_cancel_left, Nat.add_sub_cancel_left, hwithin, hbytes,
      items_encodings_append (fun x hx => hcps x (by simp [hx])) hread]

/-- From inside an encoding on. -/
theorem slice_from_encoding (hstart : ¬ IsBoundary cps start) (hlt : start < stop) :
    ∃ lead, (encodings cps)[start]? = some lead
      ∧ items (((encodings cps).drop start).take (stop - start))
        = [.error ⟨.invalidLeadByte, 0, lead⟩] := by
  have hinside : ¬ IsBoundary ([] ++ cps) ((encodings []).length + start) := by
    rwa [encodings_nil, List.length_nil, Nat.zero_add, List.nil_append]
  obtain ⟨left, cp, right, rfl, hlo, hhi⟩ :=
    exists_inside_of_not_isBoundary (hle.trans hstop) hinside
  obtain ⟨n, rfl⟩ := Nat.exists_eq_add_of_le hlo.le
  have hcp : cp ≤ maxEncodable := hcps cp (by simp)
  obtain ⟨lead, rest, hdrop, hlead⟩ := encoding_drop hcp (by omega : 0 < n) (by omega)
  have hbytes : (encodings (left ++ cp :: right)).drop ((encodings left).length + n)
      = lead :: (rest ++ encodings right) := by
    rw [encodings_append, List.drop_length_add_append, encodings_cons,
      List.drop_append_of_le_length (by omega), hdrop]
    rfl
  obtain ⟨m, hm⟩ : ∃ m, stop - ((encodings left).length + n) = m + 1 :=
    ⟨stop - ((encodings left).length + n) - 1, by omega⟩
  have hread : decode (lead :: (rest ++ encodings right).take m) = .error .invalidLeadByte :=
    decode_eq_error_iff.mpr (.inl ⟨rfl, hlead⟩)
  refine ⟨lead, ?_, ?_⟩
  · rw [← Nat.add_zero ((encodings left).length + n), ← List.getElem?_drop, hbytes]
    rfl
  · rw [hbytes, hm, List.take_succ_cons]
    exact @items_encodings_append [] (fun _ hx => by cases hx) _ _ _ hread

end

/-! ## Any slice -/

/-- **A slice reports where it was cut.** Of encodings put one after the other,
an empty slice decodes to nothing. One that starts at a boundary decodes to the
codepoints that lie within it, and, exactly if it does not end at a boundary, to
an error behind them at the lead byte of the sequence that was cut. One that
starts elsewhere decodes to an error at its first byte and nothing else. -/
theorem slice_of_encodings {cps : List Nat} (hcps : ∀ cp ∈ cps, cp ≤ maxEncodable)
    {text : Buffer} (htext : text.bytes = encodings cps) {start stop : Nat}
    (hle : start ≤ stop) (hstop : stop ≤ text.size) :
    ∃ piece, text.slice start stop = .ok piece ∧
      let read := (ofBuffer piece).rest.1
      let within := (codepointsWithin cps start stop).map Item.codepoint
      (start = stop → read = [])
        ∧ (IsBoundary cps start → IsBoundary cps stop → read = within)
        ∧ (IsBoundary cps start → ¬ IsBoundary cps stop →
          ∃ s ∈ placedFrom 0 cps, start ≤ s.offset ∧ s.offset < stop ∧ stop < s.stop
            ∧ ∃ lead, text.bytes[s.offset]? = some lead
              ∧ read = within ++ [.error ⟨.truncatedSequence, s.offset - start, lead⟩])
        ∧ (¬ IsBoundary cps start → start < stop →
          ∃ lead, text.bytes[start]? = some lead
            ∧ read = [.error ⟨.invalidLeadByte, 0, lead⟩])
        ∧ ∀ cp, Item.codepoint cp ∈ read → cp ∈ cps := by
  rw [Buffer.size, htext] at hstop
  refine ⟨.borrow ((text.bytes.drop start).take (stop - start)), ?_, ?_⟩
  · rw [Buffer.slice, Buffer.size, htext, if_pos ⟨hle, hstop⟩]
  simp only [rest_ofBuffer, Buffer.borrow, htext]
  have hempty : start = stop →
      items (((encodings cps).drop start).take (stop - start)) = [] := by
    rintro rfl
    rw [Nat.sub_self, List.take_zero]
    rfl
  have hwithin : ∀ cp, Item.codepoint cp
      ∈ (codepointsWithin cps start stop).map Item.codepoint → cp ∈ cps := by
    intro cp hcp
    obtain ⟨x, hx, hsame⟩ := List.mem_map.mp hcp
    cases hsame
    exact mem_of_mem_codepointsWithin hx
  have hboundaries := slice_between_boundaries hcps hle hstop
  have hinto := slice_into_encoding hcps hle hstop
  have hfrom := slice_from_encoding hcps hle hstop
  refine ⟨hempty, hboundaries, hinto, hfrom, ?_⟩
  -- in each of the cases an item is a codepoint within the slice, or an error
  intro cp hcp
  by_cases hstart : IsBoundary cps start
  · by_cases hend : IsBoundary cps stop
    · rw [hboundaries hstart hend] at hcp
      exact hwithin cp hcp
    · obtain ⟨s, -, -, -, -, lead, -, hread⟩ := hinto hstart hend
      rw [hread, List.mem_append, List.mem_singleton] at hcp
      rcases hcp with hcp | hcp
      · exact hwithin cp hcp
      · cases hcp
  · rcases Nat.eq_or_lt_of_le hle with heq | hlt
    · rw [hempty heq] at hcp
      cases hcp
    · obtain ⟨lead, -, hread⟩ := hfrom hstart hlt
      rw [hread, List.mem_singleton] at hcp
      cases hcp

/-- The euro sign between a letter and a smiling face, which is cut in the
middle. -/
theorem slice_of_letter_euro_face :
    (∀ cp ∈ [0x41, 0x20AC, 0x1F60A], cp ≤ maxEncodable)
      ∧ 1 ≤ 6 ∧ 6 ≤ (Buffer.own (encodings [0x41, 0x20AC, 0x1F60A])).size
      ∧ ∃ piece, (Buffer.own (encodings [0x41, 0x20AC, 0x1F60A])).slice 1 6 = .ok piece
        ∧ (ofBuffer piece).rest.1
          = [.codepoint 0x20AC, .error ⟨.truncatedSequence, 3, 0xF0⟩] := by
  have hcps : ∀ cp ∈ [0x41, 0x20AC, 0x1F60A], cp ≤ maxEncodable := by decide
  have hsize : 6 ≤ (Buffer.own (encodings [0x41, 0x20AC, 0x1F60A])).size := by decide
  obtain ⟨piece, hslice, -, -, hcut, -⟩ := slice_of_encodings hcps rfl (by decide : 1 ≤ 6) hsize
  have hstart : IsBoundary [0x41, 0x20AC, 0x1F60A] 1 :=
    @isBoundary_length [0x41] [0x20AC, 0x1F60A]
  have hstop : ¬ IsBoundary [0x41, 0x20AC, 0x1F60A] 6 :=
    @not_isBoundary_of_inside [0x41, 0x20AC] [] _ _ (by decide) (by decide)
  obtain ⟨s, hs, -, hlo, hhi, lead, hlead, hread⟩ := hcut hstart hstop
  refine ⟨hcps, by decide, hsize, piece, hslice, ?_⟩
  have hplaced : placedFrom 0 [0x41, 0x20AC, 0x1F60A]
      = [⟨0, 1, 0x41⟩, ⟨1, 3, 0x20AC⟩, ⟨4, 4, 0x1F60A⟩] := by decide
  rw [hplaced] at hs
  simp only [List.mem_cons, List.not_mem_nil, or_false] at hs
  rcases hs with rfl | rfl | rfl
  · exact absurd hhi (by decide)
  · exact absurd hhi (by decide)
  · obtain rfl : lead = 0xF0 := (Option.some.inj hlead).symm
    exact hread

end Utf8Text
