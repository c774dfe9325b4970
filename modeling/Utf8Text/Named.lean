/-!
# Values under names

A store that keeps one value for each name in use. A write or an erasure touches only the name it is
meant for.
-/

namespace Utf8Text

/-- A value for each name in use; the first entry of a name counts. -/
structure Named (α : Type) where
  entries : List (String × α)

namespace Named

variable {α : Type}

/-- No name is in use. -/
def empty : Named α := ⟨[]⟩

/-- The value of a name. -/
def get? (s : Named α) (name : String) : Option α :=
  s.entries.lookup name

/-- Takes a name out of use. -/
def erase (s : Named α) (name : String) : Named α :=
  ⟨s.entries.filter (·.1 ≠ name)⟩

/-- Gives a name a value, whatever it had before. -/
def set (s : Named α) (name : String) (a : α) : Named α :=
  ⟨(name, a) :: (s.erase name).entries⟩

@[simp] theorem get?_empty (name : String) : (empty : Named α).get? name = none := rfl

@[simp] theorem get?_erase_self (s : Named α) (name : String) :
    (s.erase name).get? name = none := by
  simp only [get?, erase, List.lookup_eq_none_iff]
  intro entry he
  have hne := (List.mem_filter.mp he).2
  simp only [decide_eq_true_eq] at hne
  simpa using Ne.symm hne

theorem get?_erase_of_ne (s : Named α) {name other : String} (h : other ≠ name) :
    (s.erase name).get? other = s.get? other := by
  simp only [get?, erase]
  induction s.entries with
  | nil => rfl
  | cons entry rest ih =>
    obtain ⟨key, a⟩ := entry
    by_cases hk : key = name
    · subst hk
      have ho : (other == key) = false := by simpa using h
      simpa [List.lookup_cons, ho] using ih
    · by_cases ho : other = key
      · simp [hk, ho]
      · have hb : (other == key) = false := by simpa using ho
        simpa [List.lookup_cons, hk, hb] using ih

@[simp] theorem get?_set_self (s : Named α) (name : String) (a : α) :
    (s.set name a).get? name = some a := by
  simp [get?, set]

theorem get?_set_of_ne (s : Named α) {name other : String} (h : other ≠ name) (a : α) :
    (s.set name a).get? other = s.get? other := by
  have hb : (other == name) = false := by simpa using h
  simp only [get?, set, List.lookup_cons, hb]
  exact get?_erase_of_ne s h

end Named

end Utf8Text
