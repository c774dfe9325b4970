/-!
# Splitting at a separator

A list cut at every occurrence of a separator. Pieces without a separator inside are found again
when they were ended or joined by one.
-/

namespace Utf8Text

/-- The pieces of a list between its separators. -/
def splitOn {α : Type} [DecidableEq α] (separator : α) : List α → List (List α)
  | [] => [[]]
  | a :: rest =>
    if a = separator then [] :: splitOn separator rest
    else
      match splitOn separator rest with
      | [] => [[a]]
      | piece :: pieces => (a :: piece) :: pieces

section
variable {α : Type} [DecidableEq α]

@[simp] theorem splitOn_nil (separator : α) : splitOn separator [] = [[]] := rfl

@[simp] theorem splitOn_cons_self (separator : α) (rest : List α) :
    splitOn separator (separator :: rest) = [] :: splitOn separator rest := by
  simp [splitOn]

theorem splitOn_ne_nil (separator : α) (l : List α) : splitOn separator l ≠ [] := by
  cases l with
  | nil => simp
  | cons a rest =>
    simp only [splitOn]
    split
    · simp
    · split <;> simp

/-- An element that is no separator goes to the first piece. -/
theorem splitOn_cons_of_ne {separator a : α} (h : a ≠ separator) (rest : List α) :
    ∃ piece pieces, splitOn separator rest = piece :: pieces
      ∧ splitOn separator (a :: rest) = (a :: piece) :: pieces := by
  cases hs : splitOn separator rest with
  | nil => exact absurd hs (splitOn_ne_nil separator rest)
  | cons piece pieces => exact ⟨piece, pieces, rfl, by simp [splitOn, h, hs]⟩

/-- What stands before the first separator is the first piece. -/
theorem splitOn_append_cons {separator : α} {piece : List α} (h : separator ∉ piece)
    (rest : List α) :
    splitOn separator (piece ++ separator :: rest) = piece :: splitOn separator rest := by
  induction piece with
  | nil => exact splitOn_cons_self separator rest
  | cons a piece ih =>
    rw [List.mem_cons, not_or] at h
    obtain ⟨first, pieces, hs, hc⟩ := splitOn_cons_of_ne (Ne.symm h.1) (piece ++ separator :: rest)
    rw [ih h.2, List.cons.injEq] at hs
    rw [List.cons_append, hc, hs.1, hs.2]

/-- Without a separator there is one piece. -/
theorem splitOn_of_not_mem {separator : α} {l : List α} (h : separator ∉ l) :
    splitOn separator l = [l] := by
  induction l with
  | nil => rfl
  | cons a rest ih =>
    rw [List.mem_cons, not_or] at h
    rw [splitOn, if_neg (Ne.symm h.1), ih h.2]

/-- Pieces that are each ended by a separator are found again, with an empty one behind them. -/
theorem splitOn_flatMap_append_separator {separator : α} {pieces : List (List α)}
    (h : ∀ piece ∈ pieces, separator ∉ piece) :
    splitOn separator (pieces.flatMap (· ++ [separator])) = pieces ++ [[]] := by
  induction pieces with
  | nil => rfl
  | cons piece pieces ih =>
    rw [List.forall_mem_cons] at h
    rw [List.flatMap_cons, List.append_assoc, List.singleton_append, splitOn_append_cons h.1,
      ih h.2, List.cons_append]

/-- Pieces without a separator inside are found again, if there are any. -/
theorem splitOn_intercalate {separator : α} {pieces : List (List α)} (hne : pieces ≠ [])
    (h : ∀ piece ∈ pieces, separator ∉ piece) :
    splitOn separator ([separator].intercalate pieces) = pieces := by
  induction pieces with
  | nil => exact absurd rfl hne
  | cons piece pieces ih =>
    rw [List.forall_mem_cons] at h
    cases pieces with
    | nil => rw [List.intercalate_singleton, splitOn_of_not_mem h.1]
    | cons next pieces =>
      rw [List.intercalate_cons_cons, List.append_assoc, List.singleton_append,
        splitOn_append_cons h.1, ih (List.cons_ne_nil _ _) h.2]

end

end Utf8Text
