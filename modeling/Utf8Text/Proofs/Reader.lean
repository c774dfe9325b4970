import Utf8Text.Proofs.Decoding
import Utf8Text.Reader

/-!
# Readers as indices

A reader that was started on a buffer is determined by the number of items it
has handed out: `behind b k` is the reader over `b` behind its first `k` items,
and every operation on it answers from the list of items and moves to another
such reader. The failed state needs no separate account: it is the index behind
the error.
-/

namespace Utf8Text.Reader

open Decoding

/-- The reader over a buffer behind the first `k` of its items. -/
def behind (b : Buffer) (k : Nat) : Reader :=
  let d := ofBytes b.bytes
  { source := b
    position := d.offsetOf k
    remaining := b.bytes.drop (d.offsetOf k)
    failed := d.sequences.length < k }

theorem behind_zero (b : Buffer) : behind b 0 = ofBuffer b := by
  simp [behind, ofBuffer]

/-! ## One step -/

theorem next?_of_decode_ok {r : Reader} {cp n : Nat} (hfailed : r.failed = false)
    (h : decode r.remaining = .ok (cp, n)) :
    r.next? = some (.codepoint cp,
      { r with position := r.position + n, remaining := r.remaining.drop n }) := by
  cases hremaining : r.remaining with
  | nil => simp [hremaining, decode] at h
  | cons lead rest =>
    rw [hremaining] at h
    simp only [next?, hfailed, hremaining, h]

theorem next?_of_decode_error {r : Reader} {lead : UInt8} {rest : Bytes}
    {fault : DecodeFault} (hfailed : r.failed = false)
    (hremaining : r.remaining = lead :: rest)
    (h : decode (lead :: rest) = .error fault) :
    r.next? = some (.error ⟨fault, r.position, lead⟩, { r with failed := true }) := by
  simp only [next?, hfailed, hremaining, h]

theorem next?_of_remaining_nil {r : Reader} (h : r.remaining = []) : r.next? = none := by
  cases hfailed : r.failed <;> simp only [next?, hfailed, h]

theorem next?_of_failed {r : Reader} (h : r.failed = true) : r.next? = none := by
  simp only [next?, h]

/-- **One step**: the reader behind `k` items hands out the next one, if there
is one, and is then behind it too. -/
theorem next?_behind {b : Buffer} {k : Nat} (hk : k ≤ (items b.bytes).length) :
    (behind b k).next? = (items b.bytes)[k]?.map fun item => (item, behind b (k + 1)) := by
  rcases Nat.lt_trichotomy k (ofBytes b.bytes).sequences.length with hlt | rfl | hgt
  · -- a sequence starts here
    obtain ⟨s, hs⟩ : ∃ s, (ofBytes b.bytes).sequences[k]? = some s :=
      ⟨_, List.getElem?_eq_getElem hlt⟩
    obtain ⟨hoffset, hread⟩ := decode_drop_offset hs
    rw [hoffset] at hread
    have hfailed : (behind b k).failed = false := by
      simp only [behind, decide_eq_false_iff_not]
      omega
    rw [items, items_getElem?_of_sequence hs, next?_of_decode_ok hfailed hread]
    simp [behind, offsetOf_succ hs, List.drop_drop]
    omega
  · cases herror : (ofBytes b.bytes).error? with
    | some e =>
      -- the error is still to come
      obtain ⟨hoffset, rest, hdrop, hread⟩ := decode_drop_error herror
      have hstop := offsetOf_eq_stop (Nat.le_refl (ofBytes b.bytes).sequences.length)
      have hstop' := offsetOf_eq_stop (Nat.le_succ (ofBytes b.bytes).sequences.length)
      have hremaining : (behind b (ofBytes b.bytes).sequences.length).remaining
          = e.lead :: rest := by
        simp only [behind, hstop, ← hoffset, hdrop]
      rw [items, items_getElem?_length, herror,
        next?_of_decode_error (by simp [behind]) hremaining hread]
      simp [behind, hstop, hstop', ← hoffset]
    | none =>
      rw [items, items_getElem?_length, herror, next?_of_remaining_nil]
      · rfl
      · rw [behind, offsetOf_eq_stop (Nat.le_refl _), stop_eq_length herror]
        exact List.drop_length
  · -- the error has been handed out
    have hnone : (items b.bytes)[k]? = none :=
      List.getElem?_eq_none_iff.mpr ((ofBytes b.bytes).length_items_le.trans hgt)
    rw [hnone, next?_of_failed (by simpa [behind] using hgt)]
    rfl

/-- The reader after `n` calls of `next?`; a call that hands out nothing leaves
it where it is. -/
def advance (r : Reader) : Nat → Reader
  | 0 => r
  | n + 1 =>
    match r.next? with
    | none => r
    | some (_, r) => r.advance n

/-! ## Runs of steps

In each of these the induction is on the number of steps. A step either finds
an item at the index and moves on, or the index is already the number of all
items and stays so. -/

section Runs

variable {b : Buffer} {k : Nat} (hk : k ≤ (items b.bytes).length)
include hk

theorem next?_behind_cases :
    (∃ item, (items b.bytes)[k]? = some item ∧ k + 1 ≤ (items b.bytes).length
        ∧ (behind b k).next? = some (item, behind b (k + 1)))
      ∨ (items b.bytes)[k]? = none ∧ (items b.bytes).length = k
        ∧ (behind b k).next? = none := by
  rw [next?_behind hk]
  cases hitem : (items b.bytes)[k]? with
  | some item => exact .inl ⟨item, rfl, (List.getElem?_eq_some_iff.mp hitem).1, rfl⟩
  | none => exact .inr ⟨rfl, Nat.le_antisymm (List.getElem?_eq_none_iff.mp hitem) hk, rfl⟩

theorem advance_behind (n : Nat) :
    (behind b k).advance n = behind b (min (k + n) (items b.bytes).length) := by
  induction n generalizing k with
  | zero => rw [advance, Nat.add_zero, Nat.min_eq_left hk]
  | succ n ih =>
    rw [advance]
    obtain ⟨item, -, hlt, hnext⟩ | ⟨-, hlength, hnext⟩ := next?_behind_cases hk
    · simp only [hnext]
      rw [ih hlt, Nat.add_assoc, Nat.add_comm 1]
    · rw [hnext, hlength, Nat.min_eq_right (Nat.le_add_right k _)]

theorem nth_behind (n : Nat) :
    (behind b k).nth n
      = ((items b.bytes)[k + n]?, behind b (min (k + n + 1) (items b.bytes).length)) := by
  induction n generalizing k with
  | zero =>
    rw [nth, Nat.add_zero]
    obtain ⟨item, hitem, hlt, hnext⟩ | ⟨hitem, hlength, hnext⟩ := next?_behind_cases hk
    · rw [hnext, hitem, Nat.min_eq_left hlt]
    · rw [hnext, hitem, hlength, Nat.min_eq_right (Nat.le_succ k)]
  | succ n ih =>
    rw [nth]
    obtain ⟨item, -, hlt, hnext⟩ | ⟨-, hlength, hnext⟩ := next?_behind_cases hk
    · simp only [hnext]
      rw [ih hlt, show k + 1 + n = k + (n + 1) by omega]
    · have hbeyond : (items b.bytes)[k + (n + 1)]? = none :=
        List.getElem?_eq_none_iff.mpr (by omega)
      rw [hnext, hbeyond, hlength, Nat.min_eq_right (by omega)]

theorem take_behind (n : Nat) :
    (behind b k).take n
      = (((items b.bytes).drop k).take n,
          behind b (min (k + n) (items b.bytes).length)) := by
  induction n generalizing k with
  | zero => rw [take, List.take_zero, Nat.add_zero, Nat.min_eq_left hk]
  | succ n ih =>
    rw [take]
    obtain ⟨item, hitem, hlt, hnext⟩ | ⟨-, hlength, hnext⟩ := next?_behind_cases hk
    · obtain ⟨_, rfl⟩ := List.getElem?_eq_some_iff.mp hitem
      simp only [hnext, ih hlt]
      rw [List.drop_eq_getElem_cons hlt, List.take_succ_cons, Nat.add_assoc,
        Nat.add_comm 1]
    · rw [hnext, ← hlength, List.drop_length, List.take_nil,
        Nat.min_eq_right (Nat.le_add_right _ _)]

end Runs

/-! ## Readers started on a buffer -/

section
variable (b : Buffer) (n : Nat)

theorem advance_ofBuffer :
    (ofBuffer b).advance n = behind b (min n (items b.bytes).length) := by
  rw [← behind_zero, advance_behind (Nat.zero_le _), Nat.zero_add]

theorem position_advance :
    ((ofBuffer b).advance n).position = (ofBytes b.bytes).offsetOf n := by
  rw [advance_ofBuffer, behind, items, offsetOf_min_length_items]

theorem next?_advance :
    ((ofBuffer b).advance n).next?.map Prod.fst = (items b.bytes)[n]? := by
  rw [advance_ofBuffer, next?_behind (Nat.min_le_right _ _), Option.map_map]
  rcases Nat.lt_or_ge n (items b.bytes).length with hlt | hge
  · rw [Nat.min_eq_left hlt.le]
    exact Option.map_id'
  · rw [Nat.min_eq_right hge, List.getElem?_eq_none (Nat.le_refl _),
      List.getElem?_eq_none hge]
    rfl

end

/-! ## Running to the end -/

/-- Each item that is left starts at an undecoded byte of its own. -/
theorem length_items_sub_le (b : Buffer) (k : Nat) :
    (items b.bytes).length - k ≤ (behind b k).remaining.length := by
  have hleft := length_le_sum_length b.bytes k
  have hstop := stop_eq_offsetOf_add (ofBytes b.bytes) k
  simp only [behind, List.length_drop, items]
  cases herror : (ofBytes b.bytes).error? with
  | none =>
    have hend := stop_eq_length herror
    have hitems := length_items_of_none herror
    omega
  | some e =>
    -- the byte that the error points at stands for it
    have hend := stop_lt_length herror
    have hitems := length_items_of_some herror
    omega

section End

variable {b : Buffer} {k : Nat} (hk : k ≤ (items b.bytes).length)
include hk

theorem rest_behind :
    (behind b k).rest = ((items b.bytes).drop k, behind b (items b.bytes).length) := by
  have hle := length_items_sub_le b k
  rw [rest, take_behind hk, List.take_of_length_le (by simpa using hle),
    Nat.min_eq_right (by omega)]

theorem count_behind :
    (behind b k).count
      = ((items b.bytes).length - k, behind b (items b.bytes).length) := by
  simp only [count, rest_behind hk, List.length_drop]

theorem last?_behind :
    (behind b k).last?
      = (((items b.bytes).drop k).getLast?, behind b (items b.bytes).length) := by
  simp only [last?, rest_behind hk]

end End

theorem rest_ofBuffer (b : Buffer) :
    (ofBuffer b).rest = (items b.bytes, behind b (items b.bytes).length) := by
  rw [← behind_zero, rest_behind (Nat.zero_le _), List.drop_zero]

/-! ## The estimate of the count -/

/-- By how many bytes sequences fall short of four bytes each. -/
def spare (sequences : List Sequence) : Nat :=
  (sequences.map fun s => 4 - s.length).sum

theorem sum_length_add_spare (sequences : List Sequence)
    (h : ∀ s ∈ sequences, s.length ≤ 4) :
    (sequences.map Sequence.length).sum + spare sequences = 4 * sequences.length := by
  induction sequences with
  | nil => rfl
  | cons s sequences ih =>
    have hs := h s (by simp)
    have hrest := ih fun t ht => h t (by simp [ht])
    simp only [spare, List.map_cons, List.sum_cons, List.length_cons] at hrest ⊢
    omega

/-- The undecoded bytes are those of the sequences that are left, and those from
the place on where decoding stops. -/
theorem length_remaining_add_spare (b : Buffer) (k : Nat) :
    (behind b k).remaining.length + spare ((ofBytes b.bytes).sequences.drop k)
      = 4 * ((ofBytes b.bytes).sequences.length - k)
        + (b.size - (ofBytes b.bytes).stop) := by
  have hspare := sum_length_add_spare ((ofBytes b.bytes).sequences.drop k)
    fun s hs => (length_bounds (List.mem_of_mem_drop hs)).2
  have hstop := stop_eq_offsetOf_add (ofBytes b.bytes) k
  have hend := stop_le_length b.bytes
  rw [List.length_drop] at hspare
  simp only [behind, List.length_drop, Buffer.size]
  omega

theorem eq_length_of_failed {b : Buffer} {k : Nat} (hk : k ≤ (items b.bytes).length)
    (h : (behind b k).failed = true) : k = (items b.bytes).length := by
  have hbeyond : (ofBytes b.bytes).sequences.length < k := of_decide_eq_true h
  have hitems := (ofBytes b.bytes).length_items_le
  rw [items] at hk ⊢
  omega

theorem count_le_countEstimate (b : Buffer) {k : Nat} (hk : k ≤ (items b.bytes).length) :
    (behind b k).count.1 ≤ (behind b k).countEstimate.2 := by
  rw [count_behind hk, countEstimate]
  cases hfailed : (behind b k).failed with
  | false => exact length_items_sub_le b k
  | true =>
    have hlength := eq_length_of_failed hk hfailed
    show (items b.bytes).length - k ≤ 0
    omega

/-- The lower estimate is right unless the bytes run into one that cannot lead,
with more bytes from there on than the count can stand for. -/
theorem countEstimate_le_count_iff (b : Buffer) {k : Nat}
    (hk : k ≤ (items b.bytes).length) :
    (behind b k).countEstimate.1 ≤ (behind b k).count.1
      ↔ (behind b k).failed = true
        ∨ ∀ e, (ofBytes b.bytes).error? = some e → e.fault = .invalidLeadByte →
          b.size - e.offset ≤ 4 + spare ((ofBytes b.bytes).sequences.drop k) := by
  rw [count_behind hk, countEstimate]
  cases hfailed : (behind b k).failed with
  | true => simp
  | false =>
    have hle : k ≤ (ofBytes b.bytes).sequences.length :=
      Nat.not_lt.mp (of_decide_eq_false hfailed)
    have hremaining := length_remaining_add_spare b k
    simp only [Bool.false_eq_true, false_or, ite_false, items]
    cases herror : (ofBytes b.bytes).error? with
    | none =>
      have hend : (ofBytes b.bytes).stop = b.size := stop_eq_length herror
      rw [length_items_of_none herror]
      simp only [reduceCtorEq, IsEmpty.forall_iff, implies_true, iff_true]
      omega
    | some e =>
      have hoffset := (decode_drop_error herror).1
      rw [length_items_of_some herror]
      simp only [Option.some.injEq, forall_eq']
      cases hfault : e.fault with
      | invalidLeadByte =>
        simp only [forall_const]
        omega
      | truncatedSequence =>
        -- a cut sequence leaves at most three bytes
        have hcut : b.size < e.offset + sequenceLength e.lead :=
          (error_describes herror).truncated_iff.mp hfault
        have hlead := sequenceLength_le_four e.lead
        simp only [reduceCtorEq, IsEmpty.forall_iff, iff_true]
        omega

/-- **When the estimate is right.** The count is never above the upper estimate,
for any reader that any number of steps leads to. It is not below the lower one
exactly if the reader has failed, or the bytes do not run into one that cannot
lead, or those from there on number at most four more than what the sequences
that are left fall short of four bytes each. -/
theorem countEstimate_bounds_iff (b : Buffer) (n : Nat) :
    let r := (ofBuffer b).advance n
    r.count.1 = ((items b.bytes).drop n).length
      ∧ r.count.1 ≤ r.countEstimate.2
      ∧ (r.countEstimate.1 ≤ r.count.1
        ↔ r.failed = true
          ∨ ∀ e, (ofBytes b.bytes).error? = some e → e.fault = .invalidLeadByte →
            b.size - e.offset ≤ 4 + spare ((ofBytes b.bytes).sequences.drop n)) := by
  intro r
  have hr : r = behind b (min n (items b.bytes).length) := advance_ofBuffer b n
  have hk := Nat.min_le_right n (items b.bytes).length
  -- behind the last item no sequence is left, however many more steps are taken
  have hsequences : (ofBytes b.bytes).sequences.drop (min n (items b.bytes).length)
      = (ofBytes b.bytes).sequences.drop n := by
    have hitems : (ofBytes b.bytes).sequences.length ≤ (items b.bytes).length :=
      (ofBytes b.bytes).length_items.symm ▸ Nat.le_add_right _ _
    rcases Nat.le_total n (items b.bytes).length with hle | hle
    · rw [Nat.min_eq_left hle]
    · rw [Nat.min_eq_right hle, List.drop_eq_nil_of_le hitems,
        List.drop_eq_nil_of_le (hitems.trans hle)]
  refine ⟨?_, hr ▸ count_le_countEstimate b hk, ?_⟩
  · rw [hr, count_behind hk, List.length_drop]
    omega
  · rw [hr, countEstimate_le_count_iff b hk, hsequences]

/-- One bad byte with four more behind it: a single item is left, and the lower
estimate is two. -/
theorem count_lt_countEstimate :
    (ofBuffer (.borrow [0x80, 0, 0, 0, 0])).countEstimate = (2, 5)
      ∧ (ofBuffer (.borrow [0x80, 0, 0, 0, 0])).count.1 = 1 := by
  decide

end Utf8Text.Reader
