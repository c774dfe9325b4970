import Mathlib.Algebra.Ring.Nat
import Mathlib.Data.List.TakeWhile
import Utf8Text.Diagnostic.Snippet
import Utf8Text.Split

/-!
# The line of an offset

A text has as many line feeds before an offset as there are lines before the one
the offset lies in, and that line is made of what comes after the last of them
and what comes before the next one (`splitOn_getElem?_count`). The lines before it,
with their line feeds, and the part of it before the offset are all that stands
before the offset (`sum_length_take_splitOn`).
-/

namespace Utf8Text.Diagnostic

/-! ## The last line -/

/-- Bytes without a line feed go on with the last line. -/
theorem lastLine_append_of_not_mem (front : Bytes) {tail : Bytes} (h : lineFeed ∉ tail) :
    lastLine (front ++ tail) = lastLine front ++ tail := by
  have hall : ∀ b ∈ tail.reverse, decide (b ≠ lineFeed) = true := by
    intro b hb
    exact decide_eq_true (ne_of_mem_of_not_mem (List.mem_reverse.mp hb) h)
  rw [lastLine, List.reverse_append, List.takeWhile_append_of_pos hall, List.reverse_append,
    List.reverse_reverse]
  rfl

theorem lastLine_of_not_mem {bytes : Bytes} (h : lineFeed ∉ bytes) : lastLine bytes = bytes :=
  lastLine_append_of_not_mem [] h

theorem lastLine_append_lineFeed (front : Bytes) {tail : Bytes} (h : lineFeed ∉ tail) :
    lastLine (front ++ lineFeed :: tail) = tail := by
  have hended : lastLine (front ++ [lineFeed]) = [] := by simp [lastLine]
  rw [← List.singleton_append, ← List.append_assoc, lastLine_append_of_not_mem _ h, hended,
    List.nil_append]

/-- A byte string ends in its last line, with a line feed before it if there is
anything before it. -/
theorem lastLine_cases (bytes : Bytes) :
    (lineFeed ∉ bytes ∧ lastLine bytes = bytes)
      ∨ ∃ front, bytes = front ++ lineFeed :: lastLine bytes ∧ lineFeed ∉ lastLine bytes := by
  by_cases hmem : lineFeed ∈ bytes
  · obtain ⟨tail, front, hsplit, hnot⟩ :=
      List.eq_append_cons_of_mem (List.mem_reverse.mpr hmem)
    have hbytes : bytes = front.reverse ++ lineFeed :: tail.reverse := by
      rw [← List.reverse_reverse bytes, hsplit]
      simp
    have htail : lineFeed ∉ tail.reverse := fun h => hnot (List.mem_reverse.mp h)
    have hlast : lastLine bytes = tail.reverse := by
      rw [hbytes]
      exact lastLine_append_lineFeed _ htail
    refine .inr ⟨front.reverse, ?_, ?_⟩
    · rw [hlast]
      exact hbytes
    · rw [hlast]
      exact htail
  · exact .inl ⟨hmem, lastLine_of_not_mem hmem⟩

theorem length_lastLine_le (bytes : Bytes) : (lastLine bytes).length ≤ bytes.length := by
  rw [lastLine, List.length_reverse]
  exact (List.takeWhile_prefix _).length_le.trans List.length_reverse.le

theorem lineFeed_not_mem_lastLine (bytes : Bytes) : lineFeed ∉ lastLine bytes := by
  rcases lastLine_cases bytes with ⟨hnot, hlast⟩ | ⟨front, -, hnot⟩
  · rwa [hlast]
  · exact hnot

theorem lastLine_cons_of_mem {b : UInt8} {rest : Bytes} (h : lineFeed ∈ rest) :
    lastLine (b :: rest) = lastLine rest := by
  rcases lastLine_cases rest with ⟨hnot, -⟩ | ⟨front, hrest, hnot⟩
  · exact absurd h hnot
  · generalize lastLine rest = tail at hrest hnot
    rw [hrest, ← List.cons_append]
    exact lastLine_append_lineFeed _ hnot

theorem lastLine_cons_of_not_mem {b : UInt8} {rest : Bytes} (hb : b ≠ lineFeed)
    (h : lineFeed ∉ rest) : lastLine (b :: rest) = b :: rest := by
  apply lastLine_of_not_mem
  intro hmem
  rcases List.mem_cons.mp hmem with hfirst | hrest
  · exact hb hfirst.symm
  · exact h hrest

theorem lastLine_cons_self (rest : Bytes) : lastLine (lineFeed :: rest) = lastLine rest := by
  by_cases hmem : lineFeed ∈ rest
  · exact lastLine_cons_of_mem hmem
  · rw [lastLine_of_not_mem hmem]
    exact lastLine_append_lineFeed [] hmem

/-! ## Lines by number -/

theorem head?_splitOn (bytes : Bytes) :
    (splitOn lineFeed bytes)[0]? = some (bytes.takeWhile (· ≠ lineFeed)) := by
  induction bytes with
  | nil => rfl
  | cons b rest ih =>
    by_cases hb : b = lineFeed
    · subst hb
      rw [splitOn_cons_self]
      simp
    · obtain ⟨piece, pieces, hrest, hcons⟩ := splitOn_cons_of_ne hb rest
      rw [hrest] at ih
      obtain rfl : piece = rest.takeWhile (· ≠ lineFeed) := Option.some.inj ih
      rw [hcons]
      simp [hb]

/-- **The line of an offset**: its number is the number of line feeds before,
and it is put together from both sides. -/
theorem splitOn_getElem?_count (before behind : Bytes) :
    (splitOn lineFeed (before ++ behind))[before.count lineFeed]?
      = some (lastLine before ++ behind.takeWhile (· ≠ lineFeed)) := by
  induction before with
  | nil => exact head?_splitOn behind
  | cons b rest ih =>
    by_cases hb : b = lineFeed
    · subst hb
      rw [List.cons_append, splitOn_cons_self, List.count_cons_self, List.getElem?_cons_succ,
        ih, lastLine_cons_self]
    · obtain ⟨piece, pieces, hrest, hcons⟩ := splitOn_cons_of_ne hb (rest ++ behind)
      rw [hrest] at ih
      rw [List.cons_append, hcons, List.count_cons_of_ne hb]
      by_cases hmem : lineFeed ∈ rest
      · -- the line begins behind the first piece
        obtain ⟨n, hn⟩ := Nat.exists_eq_add_of_lt (List.count_pos_iff.mpr hmem)
        rw [hn, Nat.zero_add, List.getElem?_cons_succ] at ih ⊢
        rw [ih, lastLine_cons_of_mem hmem]
      · have hcount : rest.count lineFeed = 0 := List.count_eq_zero.mpr hmem
        rw [hcount, List.getElem?_cons_zero, Option.some.injEq, lastLine_of_not_mem hmem] at ih
        rw [hcount, List.getElem?_cons_zero, ih, lastLine_cons_of_not_mem hb hmem,
          List.cons_append]

/-- **What stands before an offset**: the lines before its own, a line feed for each
of them, and the start of its line. -/
theorem sum_length_take_splitOn (before behind : Bytes) :
    (((splitOn lineFeed (before ++ behind)).take (before.count lineFeed)).map List.length).sum
      + before.count lineFeed + (lastLine before).length = before.length := by
  induction before with
  | nil => simp [lastLine]
  | cons b rest ih =>
    by_cases hb : b = lineFeed
    · subst hb
      rw [List.cons_append, splitOn_cons_self, List.count_cons_self, List.take_succ_cons,
        List.map_cons, List.sum_cons, lastLine_cons_self, List.length_cons, List.length_nil]
      omega
    · obtain ⟨piece, pieces, hrest, hcons⟩ := splitOn_cons_of_ne hb (rest ++ behind)
      rw [hrest] at ih
      rw [List.cons_append, hcons, List.count_cons_of_ne hb, List.length_cons]
      by_cases hmem : lineFeed ∈ rest
      · -- the first line has one byte more than without `b`
        obtain ⟨n, hn⟩ := Nat.exists_eq_add_of_lt (List.count_pos_iff.mpr hmem)
        rw [hn, Nat.zero_add, List.take_succ_cons, List.map_cons, List.sum_cons] at ih ⊢
        rw [lastLine_cons_of_mem hmem, List.length_cons]
        omega
      · rw [List.count_eq_zero.mpr hmem, lastLine_cons_of_not_mem hb hmem, List.take_zero]
        simp

end Utf8Text.Diagnostic
