import Mathlib.Algebra.BigOperators.Group.List.Basic
import Utf8Text.Decoding
import Utf8Text.Proofs.Codec

/-!
# Decodings

What a decoding says about the bytes it was read from. A byte string is read
greedily: its decoding is its first sequence in front of the decoding of the
bytes behind it (`ofBytes_of_decode_ok`), and `decode_induction` is the
induction that follows this reading.

From it come the facts that the other modules consume: the sequences tile the
bytes up to the place where decoding stops, each of them is what the decoder
reads at its offset, and an error is true of the byte it points at.
-/

namespace Utf8Text

/-! ## Moving a decoding -/

/-- The sequence in a byte string with `n` more bytes in front. -/
def Sequence.shift (n : Nat) (s : Sequence) : Sequence :=
  { s with offset := n + s.offset }

/-- The error in a byte string with `n` more bytes in front. -/
def DecodeError.shift (n : Nat) (e : DecodeError) : DecodeError :=
  { e with offset := n + e.offset }

@[simp] theorem Sequence.shift_zero : Sequence.shift 0 = id := by
  funext s
  simp [Sequence.shift]

@[simp] theorem DecodeError.shift_zero : DecodeError.shift 0 = id := by
  funext e
  simp [DecodeError.shift]

theorem Sequence.shift_shift (m n : Nat) (s : Sequence) :
    (s.shift m).shift n = s.shift (n + m) := by
  simp [Sequence.shift, Nat.add_assoc]

theorem DecodeError.shift_shift (m n : Nat) (e : DecodeError) :
    (e.shift m).shift n = e.shift (n + m) := by
  simp [DecodeError.shift, Nat.add_assoc]

namespace Decoding

/-- The decoding with `n` more bytes in front. -/
def shift (n : Nat) (d : Decoding) : Decoding :=
  ⟨d.sequences.map (.shift n), d.error?.map (.shift n)⟩

theorem shift_shift (m n : Nat) (d : Decoding) :
    (d.shift m).shift n = d.shift (n + m) := by
  simp [shift, Function.comp_def, Sequence.shift_shift, DecodeError.shift_shift]

theorem shift_push (n : Nat) (s : Sequence) (d : Decoding) :
    (d.push s).shift n = (d.shift n).push (s.shift n) := rfl

/-- Bytes that belong to the sequence before are passed over. -/
theorem scan_skip (offset skip : Nat) (bytes : Bytes) :
    scan offset skip bytes = scan (offset + skip) 0 (bytes.drop skip) := by
  induction bytes generalizing offset skip with
  | nil => cases skip <;> simp [scan]
  | cons b bytes ih =>
    cases skip with
    | zero => rfl
    | succ skip =>
      rw [scan, ih, List.drop_succ_cons, Nat.add_assoc, Nat.add_comm 1]

/-- Decoding does not depend on where the bytes lie. -/
theorem scan_eq_shift (offset skip : Nat) (bytes : Bytes) :
    scan offset skip bytes = (scan 0 skip bytes).shift offset := by
  induction bytes generalizing offset skip with
  | nil => simp [scan, shift]
  | cons b bytes ih =>
    cases skip with
    | succ skip => rw [scan, scan, ih (offset + 1), ih (0 + 1), shift_shift, Nat.zero_add]
    | zero =>
      simp only [scan]
      cases decode (b :: bytes) with
      | error fault => simp [shift, DecodeError.shift]
      | ok answer =>
        simp only [ih (offset + 1), ih (0 + 1), shift_push, shift_shift, Nat.zero_add]
        simp [Sequence.shift]

/-! ## Greedy reading -/

@[simp] theorem ofBytes_nil : ofBytes [] = ⟨[], none⟩ := rfl

theorem ofBytes_of_decode_error {lead : UInt8} {rest : Bytes} {fault : DecodeFault}
    (h : decode (lead :: rest) = .error fault) :
    ofBytes (lead :: rest) = ⟨[], some ⟨fault, 0, lead⟩⟩ := by
  simp only [ofBytes, scan, h]

/-- **Greedy reading**: the first sequence, then the bytes behind it. -/
theorem ofBytes_of_decode_ok {bytes : Bytes} {cp n : Nat} (h : decode bytes = .ok (cp, n)) :
    ofBytes bytes = ((ofBytes (bytes.drop n)).shift n).push ⟨0, n, cp⟩ := by
  have hpos := decode_length_pos h
  cases bytes with
  | nil => simp [decode] at h
  | cons lead rest =>
    obtain ⟨m, rfl⟩ : ∃ m, n = m + 1 := ⟨n - 1, by omega⟩
    simp only [ofBytes, scan, h, Nat.add_sub_cancel, List.drop_succ_cons]
    -- the scan passes over what is left of the sequence, and then starts anew
    rw [scan_skip, scan_eq_shift, Nat.zero_add, Nat.add_comm 1]

/-- Induction along the sequences of a byte string. -/
@[elab_as_elim]
theorem decode_induction {motive : Bytes → Prop} (nil : motive [])
    (fault : ∀ lead rest fault, decode (lead :: rest) = .error fault → motive (lead :: rest))
    (sequence : ∀ bytes cp n, decode bytes = .ok (cp, n) → motive (bytes.drop n) →
      motive bytes)
    (bytes : Bytes) : motive bytes := by
  induction hlength : bytes.length using Nat.strongRecOn generalizing bytes with
  | ind length ih =>
    cases bytes with
    | nil => exact nil
    | cons lead rest =>
      cases hdecode : decode (lead :: rest) with
      | error f => exact fault lead rest f hdecode
      | ok answer =>
        obtain ⟨cp, n⟩ := answer
        -- a sequence takes at least one byte, so fewer are left
        have hpos := decode_length_pos hdecode
        refine sequence _ cp n hdecode (ih _ ?_ _ rfl)
        rw [List.length_drop, hlength]
        simp only [List.length_cons] at hlength
        omega

/-- **Concatenation**: bytes that are read to their end do not reach into what
follows them. -/
theorem ofBytes_append {front : Bytes} (h : (ofBytes front).error? = none) (rest : Bytes) :
    ofBytes (front ++ rest)
      = ⟨(ofBytes front).sequences ++ ((ofBytes rest).shift front.length).sequences,
          ((ofBytes rest).shift front.length).error?⟩ := by
  induction front using decode_induction with
  | nil => simp [shift]
  | fault lead bytes fault hfault => simp [ofBytes_of_decode_error hfault] at h
  | sequence bytes cp n hdecode ih =>
    have hle := decode_length_le hdecode
    have hnone : (ofBytes (bytes.drop n)).error? = none := by
      rw [ofBytes_of_decode_ok hdecode] at h
      exact Option.map_eq_none_iff.mp h
    have hlength : n + (bytes.drop n).length = bytes.length := by
      rw [List.length_drop]
      omega
    rw [ofBytes_of_decode_ok (decode_append_of_ok hdecode rest),
      List.drop_append_of_le_length hle, ih hnone, ofBytes_of_decode_ok hdecode, ← hlength]
    simp [push, shift, Function.comp_def, Sequence.shift_shift, DecodeError.shift_shift]

/-! ## Where the items start -/

/-- The offset at which the `k`-th item starts: behind the sequences before. -/
def offsetOf (d : Decoding) (k : Nat) : Nat :=
  ((d.sequences.take k).map Sequence.length).sum

/-- The offset at which decoding stops: the end, or the place of the error. -/
def stop (d : Decoding) : Nat :=
  (d.sequences.map Sequence.length).sum

@[simp] theorem offsetOf_zero (d : Decoding) : d.offsetOf 0 = 0 := rfl

@[simp] theorem offsetOf_push (s : Sequence) (d : Decoding) (k : Nat) :
    (d.push s).offsetOf (k + 1) = s.length + d.offsetOf k := by
  simp [offsetOf, push]

@[simp] theorem offsetOf_shift (n : Nat) (d : Decoding) (k : Nat) :
    (d.shift n).offsetOf k = d.offsetOf k := by
  simp [offsetOf, shift, ← List.map_take, Function.comp_def, Sequence.shift]

@[simp] theorem stop_push (s : Sequence) (d : Decoding) :
    (d.push s).stop = s.length + d.stop := by
  simp [stop, push]

@[simp] theorem stop_shift (n : Nat) (d : Decoding) : (d.shift n).stop = d.stop := by
  simp [stop, shift, Function.comp_def, Sequence.shift]

theorem offsetOf_eq_stop {d : Decoding} {k : Nat} (h : d.sequences.length ≤ k) :
    d.offsetOf k = d.stop := by
  rw [offsetOf, List.take_of_length_le h, stop]

theorem offsetOf_succ {d : Decoding} {k : Nat} {s : Sequence}
    (h : d.sequences[k]? = some s) : d.offsetOf (k + 1) = d.offsetOf k + s.length := by
  simp [offsetOf, List.take_add_one, h]

theorem stop_eq_offsetOf_add (d : Decoding) (k : Nat) :
    d.stop = d.offsetOf k + ((d.sequences.drop k).map Sequence.length).sum := by
  rw [offsetOf, ← List.sum_append, ← List.map_append, List.take_append_drop, stop]

theorem offsetOf_le_stop (d : Decoding) (k : Nat) : d.offsetOf k ≤ d.stop := by
  rw [stop_eq_offsetOf_add d k]
  exact Nat.le_add_right _ _

/-! ## What a decoding says about its bytes -/

/-- Each sequence lies where those before it end, and is what the decoder
reads there. -/
theorem decode_drop_offset {bytes : Bytes} {k : Nat} {s : Sequence}
    (h : (ofBytes bytes).sequences[k]? = some s) :
    s.offset = (ofBytes bytes).offsetOf k
      ∧ decode (bytes.drop s.offset) = .ok (s.codepoint, s.length) := by
  induction bytes using decode_induction generalizing k s with
  | nil => simp at h
  | fault lead rest fault hfault => simp [ofBytes_of_decode_error hfault] at h
  | sequence bytes cp n hdecode ih =>
    rw [ofBytes_of_decode_ok hdecode] at h ⊢
    cases k with
    | zero =>
      simp only [push, List.getElem?_cons_zero, Option.some.injEq] at h
      subst h
      exact ⟨rfl, by simpa using hdecode⟩
    | succ k =>
      simp only [push, shift, List.getElem?_cons_succ, List.getElem?_map,
        Option.map_eq_some_iff] at h
      obtain ⟨t, ht, rfl⟩ := h
      obtain ⟨hoffset, hread⟩ := ih ht
      rw [offsetOf_push, offsetOf_shift, ← hoffset]
      exact ⟨rfl, by simpa [Sequence.shift, List.drop_drop] using hread⟩

/-- An error lies where the sequences end, and is what the decoder answers
there. -/
theorem decode_drop_error {bytes : Bytes} {e : DecodeError}
    (h : (ofBytes bytes).error? = some e) :
    e.offset = (ofBytes bytes).stop
      ∧ ∃ rest, bytes.drop e.offset = e.lead :: rest
        ∧ decode (e.lead :: rest) = .error e.fault := by
  induction bytes using decode_induction generalizing e with
  | nil => simp at h
  | fault lead rest fault hfault =>
    simp only [ofBytes_of_decode_error hfault, Option.some.injEq] at h ⊢
    subst h
    exact ⟨rfl, rest, rfl, hfault⟩
  | sequence bytes cp n hdecode ih =>
    simp only [ofBytes_of_decode_ok hdecode, push, shift, Option.map_eq_some_iff] at h
    obtain ⟨f, hf, rfl⟩ := h
    obtain ⟨hoffset, rest, hdrop, hread⟩ := ih hf
    refine ⟨?_, rest, ?_, hread⟩
    · rw [ofBytes_of_decode_ok hdecode, stop_push, stop_shift, ← hoffset]
      rfl
    · simpa [DecodeError.shift, List.drop_drop] using hdrop

theorem stop_eq_length {bytes : Bytes} (h : (ofBytes bytes).error? = none) :
    (ofBytes bytes).stop = bytes.length := by
  induction bytes using decode_induction with
  | nil => rfl
  | fault lead rest fault hfault => simp [ofBytes_of_decode_error hfault] at h
  | sequence bytes cp n hdecode ih =>
    have hle := decode_length_le hdecode
    rw [ofBytes_of_decode_ok hdecode] at h ⊢
    simp only [push, shift, Option.map_eq_none_iff] at h
    rw [stop_push, stop_shift, ih h, List.length_drop]
    exact Nat.add_sub_cancel' hle

theorem stop_lt_length {bytes : Bytes} {e : DecodeError}
    (h : (ofBytes bytes).error? = some e) : (ofBytes bytes).stop < bytes.length := by
  obtain ⟨hoffset, rest, hdrop, -⟩ := decode_drop_error h
  have hlength := congrArg List.length hdrop
  simp only [List.length_drop, List.length_cons] at hlength
  omega

theorem stop_le_length (bytes : Bytes) : (ofBytes bytes).stop ≤ bytes.length := by
  cases h : (ofBytes bytes).error? with
  | none => exact (stop_eq_length h).le
  | some e => exact (stop_lt_length h).le

theorem length_bounds {bytes : Bytes} {s : Sequence} (h : s ∈ (ofBytes bytes).sequences) :
    1 ≤ s.length ∧ s.length ≤ 4 := by
  obtain ⟨k, hk⟩ := List.mem_iff_getElem?.mp h
  have hread := (decode_drop_offset hk).2
  exact ⟨decode_length_pos hread, decode_length_le_four hread⟩

/-- There are no more sequences than bytes in them. -/
theorem length_le_sum_length (bytes : Bytes) (k : Nat) :
    (ofBytes bytes).sequences.length - k
      ≤ (((ofBytes bytes).sequences.drop k).map Sequence.length).sum := by
  rw [← List.length_drop, ← List.length_map Sequence.length]
  refine List.length_le_sum_of_one_le _ ?_
  simp only [List.mem_map, forall_exists_index, and_imp, forall_apply_eq_imp_iff₂]
  intro s hs
  exact (length_bounds (List.mem_of_mem_drop hs)).1

theorem stop_eq_elim (bytes : Bytes) :
    (ofBytes bytes).stop
      = (ofBytes bytes).error?.elim bytes.length DecodeError.offset := by
  cases h : (ofBytes bytes).error? with
  | none => exact stop_eq_length h
  | some e => exact (decode_drop_error h).1.symm

end Decoding

/-- What makes an error true of a byte string: the byte at its offset is its
lead, and its fault is the reason why no sequence starts there. -/
structure DecodeError.Describes (e : DecodeError) (bytes : Bytes) : Prop where
  lead : bytes[e.offset]? = some e.lead
  invalid_iff : e.fault = .invalidLeadByte ↔ sequenceLength e.lead = 0
  truncated_iff : e.fault = .truncatedSequence
    ↔ bytes.length < e.offset + sequenceLength e.lead

theorem Decoding.error_describes {bytes : Bytes} {e : DecodeError}
    (h : (ofBytes bytes).error? = some e) : e.Describes bytes := by
  obtain ⟨-, rest, hdrop, hread⟩ := decode_drop_error h
  have hlength := congrArg List.length hdrop
  simp only [List.length_drop, List.length_cons] at hlength
  have hlead : bytes[e.offset]? = some e.lead := by
    rw [← Nat.add_zero e.offset, ← List.getElem?_drop, hdrop, List.getElem?_cons_zero]
  rw [decode_eq_error_iff] at hread
  obtain ⟨hfault, hzero⟩ | ⟨hfault, hshort⟩ := hread
  · exact ⟨hlead, by simp [hfault, hzero], by simp [hfault, hzero]; omega⟩
  · exact ⟨hlead, by simp [hfault]; omega, by simp [hfault]; omega⟩

/-! ## The items of a decoding -/

namespace Decoding

theorem length_items (d : Decoding) :
    d.items.length = d.sequences.length + d.error?.toList.length := by
  simp [items, codepoints]

theorem length_items_of_none {d : Decoding} (h : d.error? = none) :
    d.items.length = d.sequences.length := by
  simp [length_items, h]

theorem length_items_of_some {d : Decoding} {e : DecodeError} (h : d.error? = some e) :
    d.items.length = d.sequences.length + 1 := by
  simp [length_items, h]

theorem length_items_le (d : Decoding) : d.items.length ≤ d.sequences.length + 1 := by
  cases h : d.error? with
  | none => exact (length_items_of_none h).le.trans (Nat.le_succ _)
  | some e => exact (length_items_of_some h).le

theorem items_getElem?_of_sequence {d : Decoding} {k : Nat} {s : Sequence}
    (h : d.sequences[k]? = some s) : d.items[k]? = some (.codepoint s.codepoint) := by
  obtain ⟨hk, rfl⟩ := List.getElem?_eq_some_iff.mp h
  rw [items, List.getElem?_append_left (by simpa [codepoints] using hk)]
  simp [codepoints, hk]

theorem items_getElem?_length (d : Decoding) :
    d.items[d.sequences.length]? = d.error?.map .error := by
  rw [items, List.getElem?_append_right (by simp [codepoints])]
  cases d.error? <;> simp [codepoints]

/-- Codepoints and an error behind them are all that a decoding hands out. -/
theorem of_items_eq {d : Decoding} {cps : List Nat} {e : DecodeError}
    (h : d.items = cps.map .codepoint ++ [.error e]) :
    d.codepoints = cps ∧ d.error? = some e := by
  have hinj : Function.Injective Item.codepoint := fun _ _ hcp => Item.codepoint.inj hcp
  rw [items] at h
  cases herror : d.error? with
  | none =>
    have hmem : Item.error e ∈ d.codepoints.map .codepoint := by
      rw [herror, Option.toList_none, List.map_nil, List.append_nil] at h
      rw [h]
      exact List.mem_append_right _ List.mem_cons_self
    obtain ⟨cp, -, hcp⟩ := List.mem_map.mp hmem
    cases hcp
  | some e' =>
    rw [herror] at h
    obtain ⟨hcps, he⟩ := List.append_inj' h rfl
    obtain rfl : e' = e := Item.error.inj (List.cons.inj he).1
    exact ⟨List.map_injective_iff.mpr hinj hcps, rfl⟩

/-- Behind the last item there is no other place than behind all of them. -/
theorem offsetOf_min_length_items (d : Decoding) (k : Nat) :
    d.offsetOf (min k d.items.length) = d.offsetOf k := by
  have hlength := d.length_items
  rcases Nat.le_total k d.items.length with hle | hle
  · rw [Nat.min_eq_left hle]
  · rw [Nat.min_eq_right hle, offsetOf_eq_stop (by omega), offsetOf_eq_stop (by omega)]

end Decoding

theorem error_mem_items_iff {text : Bytes} {e : DecodeError} :
    Item.error e ∈ items text ↔ (Decoding.ofBytes text).error? = some e := by
  simp [items, Decoding.items]

theorem exists_items_eq_codepoint_cons_iff {text : Bytes} :
    (∃ cp rest, items text = .codepoint cp :: rest) ↔ (Decoding.ofBytes text).sequences ≠ [] := by
  rw [items, Decoding.items, Decoding.codepoints]
  cases (Decoding.ofBytes text).sequences with
  | nil => cases (Decoding.ofBytes text).error? <;> simp
  | cons s sequences => simp

/-! ## The bytes of a sequence -/

/-- The bytes of a sequence in the byte string it was read from. -/
def Sequence.bytes (text : Bytes) (s : Sequence) : Bytes :=
  (text.drop s.offset).take s.length

namespace Decoding

/-- **Tiling**: the sequences are the bytes up to the place where decoding
stops, cut into pieces. -/
theorem flatMap_bytes (text : Bytes) :
    (ofBytes text).sequences.flatMap (Sequence.bytes text)
      = text.take (ofBytes text).stop := by
  induction text using decode_induction with
  | nil => rfl
  | fault lead rest fault hfault => simp [ofBytes_of_decode_error hfault, stop]
  | sequence text cp n hdecode ih =>
    have hshift (s : Sequence) : (s.shift n).bytes text = s.bytes (text.drop n) := by
      simp [Sequence.bytes, Sequence.shift, List.drop_drop]
    have hfirst : Sequence.bytes text ⟨0, n, cp⟩ = text.take n := by
      simp [Sequence.bytes]
    rw [ofBytes_of_decode_ok hdecode, stop_push, stop_shift, List.take_add, ← ih]
    simp only [push, shift, List.flatMap_cons, List.flatMap_map, hshift, hfirst]

theorem exists_layout {text : Bytes} {s : Sequence} (h : s ∈ (ofBytes text).sequences) :
    ∃ lead following, s.bytes text = lead :: following ∧ s.length = following.length + 1
      ∧ Layout lead following s.codepoint := by
  obtain ⟨k, hk⟩ := List.mem_iff_getElem?.mp h
  obtain ⟨lead, following, rest, hdrop, hlead, hlength, hcp⟩ :=
    decode_eq_ok_iff.mp (decode_drop_offset hk).2
  refine ⟨lead, following, ?_, hlength, layout_iff.mpr ⟨hlead, hlength ▸ hcp⟩⟩
  rw [Sequence.bytes, hdrop, hlength, ← List.length_cons (a := lead), List.take_left]

end Decoding

end Utf8Text
