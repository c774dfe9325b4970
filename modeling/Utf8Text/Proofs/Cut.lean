import Mathlib.Data.List.TakeWhile
import Utf8Text.Proofs.Boundary

/-!
# Joining and cutting byte strings

What decoding makes of two byte strings that are put together, and of one that
is cut. The bytes after a lead byte may be any, line feeds, NULs and further
lead bytes among them, so a cut may fall into what looks like several
characters. It still changes one item only: the sequences that end at the cut or
before it stay, and where the next item starts before the cut, an error takes
its place (`ofBytes_take`). The induction is along the sequences, the cut moving
towards the front by the length of each.
-/

namespace Utf8Text

open Decoding Reader

/-- The item in a byte string with `n` more bytes in front. -/
def Item.shift (n : Nat) : Item → Item
  | .codepoint cp => .codepoint cp
  | .error e => .error (e.shift n)

/-- The fault at an item that a cut falls into: a byte that cannot lead is one
still, and everything else breaks off. -/
def Item.faultWhenCut : Item → DecodeFault
  | .codepoint _ => .truncatedSequence
  | .error e => e.fault

@[simp] theorem Item.faultWhenCut_shift (n : Nat) (item : Item) :
    (item.shift n).faultWhenCut = item.faultWhenCut := by
  cases item <;> rfl

@[simp] theorem Sequence.stop_shift (n : Nat) (s : Sequence) :
    (s.shift n).stop = n + s.stop := by
  simp only [stop, shift, Nat.add_assoc]

namespace Decoding

@[simp] theorem items_push (s : Sequence) (d : Decoding) :
    (d.push s).items = .codepoint s.codepoint :: d.items := rfl

@[simp] theorem items_shift (n : Nat) (d : Decoding) :
    (d.shift n).items = d.items.map (.shift n) := by
  cases herror : d.error? <;>
    simp [items, codepoints, shift, herror, Sequence.shift, Item.shift]

/-! ## The sequences before a cut -/

/-- The sequences that end at an offset or before it. -/
def upTo (d : Decoding) (k : Nat) : List Sequence :=
  d.sequences.filter (·.stop ≤ k)

theorem upTo_shift (d : Decoding) (n k : Nat) :
    (d.shift n).upTo (n + k) = (d.upTo k).map (.shift n) := by
  simp [upTo, shift, List.filter_map, Function.comp_def]

theorem upTo_push_of_le {s : Sequence} {k : Nat} (h : s.stop ≤ k) (d : Decoding) :
    (d.push s).upTo k = s :: d.upTo k :=
  List.filter_cons_of_pos (by simpa using h)

/-- Each sequence ends behind the one before, so none ends at a place before the
first one does. -/
theorem upTo_push_shift_of_lt {s : Sequence} {k n : Nat} (h : k < s.stop) (hn : k < n)
    (d : Decoding) : ((d.shift n).push s).upTo k = [] := by
  rw [upTo, List.filter_eq_nil_iff]
  intro t ht
  rw [decide_eq_true_eq, Nat.not_le]
  rcases List.mem_cons.mp ht with rfl | ht
  · exact h
  · obtain ⟨u, -, rfl⟩ := List.mem_map.mp ht
    rw [Sequence.stop_shift]
    omega

/-! ## The item at a cut -/

/-- The error that a cut at `k` leaves where the item behind the first `n` ones
starts. -/
structure BreaksOff (d : Decoding) (text : Bytes) (n k : Nat) (e : DecodeError) : Prop where
  offset : e.offset = d.offsetOf n
  lt : e.offset < k
  lead : text[e.offset]? = some e.lead
  fault : ∃ item, d.items[n]? = some item ∧ e.fault = item.faultWhenCut

theorem not_breaksOff_zero {d : Decoding} {text : Bytes} {n : Nat} {e : DecodeError} :
    ¬ d.BreaksOff text n 0 e :=
  fun h => Nat.not_lt_zero _ h.lt

/-- Behind the first sequence of a text everything is as in the bytes that
follow it. -/
theorem breaksOff_push_shift {d : Decoding} {text : Bytes} {s : Sequence} {n k : Nat}
    {e : DecodeError} :
    ((d.shift s.length).push s).BreaksOff text (n + 1) (s.length + k) e
      ↔ ∃ f : DecodeError, f.shift s.length = e
        ∧ d.BreaksOff (text.drop s.length) n k f := by
  constructor
  · rintro ⟨hoffset, hlt, hlead, item, hitem, hfault⟩
    rw [offsetOf_push, offsetOf_shift] at hoffset
    rw [items_push, List.getElem?_cons_succ, items_shift, List.getElem?_map,
      Option.map_eq_some_iff] at hitem
    obtain ⟨before, hbefore, rfl⟩ := hitem
    refine ⟨⟨e.fault, d.offsetOf n, e.lead⟩, ?_, rfl, ?_, ?_, before, hbefore, ?_⟩
    · rw [DecodeError.shift, ← hoffset]
    · show d.offsetOf n < k
      omega
    · rw [List.getElem?_drop, ← hoffset]
      exact hlead
    · rw [hfault, Item.faultWhenCut_shift]
  · rintro ⟨f, rfl, hoffset, hlt, hlead, item, hitem, hfault⟩
    refine ⟨?_, Nat.add_lt_add_left hlt _, ?_, item.shift s.length, ?_, ?_⟩
    · rw [offsetOf_push, offsetOf_shift, ← hoffset]
      rfl
    · rw [List.getElem?_drop] at hlead
      exact hlead
    · rw [items_push, List.getElem?_cons_succ, items_shift, List.getElem?_map, hitem]
      rfl
    · rw [Item.faultWhenCut_shift]
      exact hfault

/-- The error at an item that the cut falls into, when it is the first one. -/
theorem breaksOff_zero_iff {d : Decoding} {lead : UInt8} {rest : Bytes} {k : Nat} {item : Item}
    (hitem : d.items[0]? = some item) {e : DecodeError} :
    d.BreaksOff (lead :: rest) 0 (k + 1) e ↔ ⟨item.faultWhenCut, 0, lead⟩ = e := by
  constructor
  · rintro ⟨hoffset, -, hlead, found, hfound, hfault⟩
    rw [hitem, Option.some.injEq] at hfound
    subst hfound
    rw [offsetOf_zero] at hoffset
    rw [hoffset, List.getElem?_cons_zero, Option.some.injEq] at hlead
    rw [← hfault, ← hoffset, hlead]
  · rintro rfl
    exact ⟨rfl, Nat.succ_pos k, rfl, item, hitem, rfl⟩

/-! ## Cutting -/

/-- A lead byte that is cut off from what it announces, or announces nothing,
is read as a fault. -/
theorem decode_cons_take_of_error {lead : UInt8} {rest : Bytes} {fault : DecodeFault}
    (h : decode (lead :: rest) = .error fault) (k : Nat) :
    decode (lead :: rest.take k) = .error fault := by
  have hle : (rest.take k).length ≤ rest.length := List.length_take_le' k rest
  rw [decode_eq_error_iff] at h ⊢
  obtain ⟨hfault, hzero⟩ | ⟨hfault, hshort⟩ := h
  · exact .inl ⟨hfault, hzero⟩
  · exact .inr ⟨hfault, by omega⟩

theorem decode_cons_take_of_lt {lead : UInt8} {rest : Bytes} {cp n k : Nat}
    (h : decode (lead :: rest) = .ok (cp, n)) (hlt : k + 1 < n) :
    decode (lead :: rest.take k) = .error .truncatedSequence := by
  obtain ⟨first, following, behind, hbytes, hlead, hn, -⟩ := decode_eq_ok_iff.mp h
  obtain ⟨rfl, -⟩ := List.cons.inj hbytes
  rw [decode_eq_error_iff, List.length_take]
  exact .inr ⟨rfl, by omega⟩

theorem decode_take_of_le {bytes : Bytes} {cp n k : Nat} (h : decode bytes = .ok (cp, n))
    (hle : n ≤ k) : decode (bytes.take k) = .ok (cp, n) := by
  obtain ⟨lead, following, rest, rfl, hlead, hn, hcp⟩ := decode_eq_ok_iff.mp h
  have htake : (lead :: following ++ rest).take k
      = lead :: following ++ rest.take (k - n) := by
    rw [List.take_append, List.take_of_length_le (by simp only [List.length_cons]; omega),
      List.length_cons, hn]
  rw [htake]
  exact decode_eq_ok_iff.mpr ⟨lead, following, _, rfl, hlead, hn, hcp⟩

/-- **Cutting**: of the sequences those stay that end at the cut or before it,
and the error behind them is at the next item, if that starts before the cut. -/
theorem ofBytes_take (text : Bytes) (k : Nat) :
    (ofBytes (text.take k)).sequences = (ofBytes text).upTo k
      ∧ ∀ e, (ofBytes (text.take k)).error? = some e
        ↔ (ofBytes text).BreaksOff text ((ofBytes text).upTo k).length k e := by
  induction text using decode_induction generalizing k with
  | nil =>
    rw [List.take_nil, ofBytes_nil]
    refine ⟨rfl, fun e => ?_⟩
    exact iff_of_false (fun h => by cases h) fun h => by cases h.lead
  | fault lead rest fault hfault =>
    have hdecoding := ofBytes_of_decode_error hfault
    have hnone (k : Nat) : (ofBytes (lead :: rest)).upTo k = [] := by
      rw [hdecoding]
      rfl
    have hitem : (ofBytes (lead :: rest)).items[0]? = some (.error ⟨fault, 0, lead⟩) := by
      rw [hdecoding]
      rfl
    rw [hnone]
    cases k with
    | zero => exact ⟨rfl, fun e => iff_of_false (fun h => by cases h) not_breaksOff_zero⟩
    | succ k =>
      rw [List.take_succ_cons, ofBytes_of_decode_error (decode_cons_take_of_error hfault k)]
      refine ⟨rfl, fun e => ?_⟩
      rw [List.length_nil, breaksOff_zero_iff hitem, Option.some.injEq]
      rfl
  | sequence text cp n hdecode ih =>
    have hdecoding := ofBytes_of_decode_ok hdecode
    rcases Nat.lt_or_ge k n with hlt | hge
    · -- the cut falls into the first sequence
      have hnone : (ofBytes text).upTo k = [] := by
        rw [hdecoding]
        exact upTo_push_shift_of_lt (by simpa [Sequence.stop] using hlt) hlt _
      have hitem : (ofBytes text).items[0]? = some (.codepoint cp) := by
        rw [hdecoding]
        rfl
      rw [hnone]
      cases k with
      | zero => exact ⟨rfl, fun e => iff_of_false (fun h => by cases h) not_breaksOff_zero⟩
      | succ k =>
        cases text with
        | nil => cases hdecode
        | cons lead rest =>
          rw [List.take_succ_cons, ofBytes_of_decode_error (decode_cons_take_of_lt hdecode hlt)]
          refine ⟨rfl, fun e => ?_⟩
          rw [List.length_nil, breaksOff_zero_iff hitem, Option.some.injEq]
          rfl
    · -- the first sequence stays, and the cut is one of the bytes behind it
      obtain ⟨m, rfl⟩ := Nat.exists_eq_add_of_le hge
      obtain ⟨hsequences, herror⟩ := ih m
      have hdrop : (text.take (n + m)).drop n = (text.drop n).take m := by
        rw [List.drop_take, Nat.add_sub_cancel_left]
      have hupTo : (ofBytes text).upTo (n + m)
          = ⟨0, n, cp⟩ :: ((ofBytes (text.drop n)).upTo m).map (.shift n) := by
        rw [hdecoding, upTo_push_of_le (by simp [Sequence.stop]), upTo_shift]
      rw [ofBytes_of_decode_ok (decode_take_of_le hdecode hge), hdrop, hupTo]
      refine ⟨?_, fun e => ?_⟩
      · simp only [push, shift, hsequences]
      · rw [List.length_cons, List.length_map, hdecoding, breaksOff_push_shift]
        simp only [push, shift, Option.map_eq_some_iff, herror]
        exact exists_congr fun f => and_comm

end Decoding

/-! ## The NUL that ends a text -/

theorem beforeNul_eq_take (raw : Bytes) : beforeNul raw = raw.take (raw.idxOf 0) := by
  rw [beforeNul, List.takeWhile_eq_take_findIdx_not, List.idxOf]
  congr 2
  funext b
  by_cases hb : b = 0 <;> simp [hb]

/-! ## Items -/

/-- What is read of a text that is cut at `k`: the codepoints of the sequences
that end there or before, and the error at the item that the cut falls into. -/
def ReadsAsCut (text : Bytes) (k : Nat) (read : List Item) : Prop :=
  let whole := (ofBytes text).upTo k
  ∃ error? : Option DecodeError,
    read = whole.map (fun s => .codepoint s.codepoint) ++ error?.toList.map .error
      ∧ ∀ e, error? = some e ↔ (ofBytes text).BreaksOff text whole.length k e

theorem readsAsCut_take (text : Bytes) (k : Nat) : ReadsAsCut text k (items (text.take k)) := by
  obtain ⟨hsequences, herror⟩ := ofBytes_take text k
  refine ⟨(ofBytes (text.take k)).error?, ?_, herror⟩
  rw [items, Decoding.items, codepoints, hsequences, List.map_map]
  rfl

/-- **Decoding and cutting.** A reader hands out the items of its bytes. Those
of bytes that are read to their end come first when more bytes follow, and the
items of these come next, their offsets moved along. A cut leaves the codepoints
of the sequences that end there or before, and an error at the next item if that
starts before the cut; so does the cut at the first NUL, wherever the NUL
stands. -/
theorem items_append_and_take :
    (∀ b : Buffer, (ofBuffer b).rest.1 = items b.bytes)
      ∧ (∀ front rest : Bytes, (∀ e, .error e ∉ items front) →
        items (front ++ rest) = items front ++ (items rest).map (.shift front.length))
      ∧ (∀ (text : Bytes) (k : Nat), ReadsAsCut text k (items (text.take k)))
      ∧ ∀ raw : Bytes,
        ReadsAsCut raw (raw.idxOf 0) (items (Buffer.ownBeforeNul raw).bytes)
          ∧ ReadsAsCut raw (raw.idxOf 0) (items (Buffer.borrowBeforeNul raw).bytes) := by
  refine ⟨fun b => by rw [rest_ofBuffer], ?_, readsAsCut_take, ?_⟩
  · intro front rest hfront
    have hnone : (ofBytes front).error? = none := by
      rw [Option.eq_none_iff_forall_ne_some]
      intro e he
      exact hfront e (error_mem_items_iff.mpr he)
    rw [items, ofBytes_append hnone, items, items, ← items_shift]
    simp [Decoding.items, codepoints, hnone]
  · intro raw
    have hread : ReadsAsCut raw (raw.idxOf 0) (items (beforeNul raw)) := by
      rw [beforeNul_eq_take]
      exact readsAsCut_take raw (raw.idxOf 0)
    exact ⟨hread, hread⟩

/-- A NUL that is read as the second byte of a sequence: what follows the text
does not matter, and at the NUL the sequence is cut. -/
theorem items_around_swallowed_nul :
    (∀ e, .error e ∉ items [0x41, 0xC3, 0, 0x42])
      ∧ items ([0x41, 0xC3, 0, 0x42] ++ [0x80])
        = [.codepoint 0x41, .codepoint 0xC0, .codepoint 0x42, .error ⟨.invalidLeadByte, 4, 0x80⟩]
      ∧ items (Buffer.ownBeforeNul [0x41, 0xC3, 0, 0x42]).bytes
        = [.codepoint 0x41, .error ⟨.truncatedSequence, 1, 0xC3⟩] := by
  obtain ⟨-, happend, -, hnul⟩ := items_append_and_take
  have hread : ∀ e, .error e ∉ items [0x41, 0xC3, 0, 0x42] := by
    have hitems : items [0x41, 0xC3, 0, 0x42]
        = [.codepoint 0x41, .codepoint 0xC0, .codepoint 0x42] := by decide
    simp [hitems]
  refine ⟨hread, ?_, ?_⟩
  · rw [happend _ _ hread]
    decide
  · obtain ⟨error?, hitems, herror⟩ := (hnul [0x41, 0xC3, 0, 0x42]).1
    have hcut : error? = some ⟨.truncatedSequence, 1, 0xC3⟩ :=
      (herror _).mpr ⟨by decide, by decide, rfl, .codepoint 0xC0, by decide, rfl⟩
    rw [hitems, hcut]
    decide

end Utf8Text
