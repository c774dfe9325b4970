import Mathlib.Tactic.SplitIfs
import Mathlib.Tactic.Tauto
import Utf8Text.Listing
import Utf8Text.Proofs.Numeral
import Utf8Text.Proofs.Standard

/-!
# Reading JSON objects

A reader for objects without blanks between their tokens, whose members are
natural numbers and strings. In a string every character may stand as an escape;
control characters, quotes and backslashes may stand in no other way. So nothing
that is read has a line feed in it (`newline_not_mem_of_readObject?`).

Of whatever writes objects it is only asked that this reader reads the members
again (`Serializer.Lawful`). The compact form is written that way
(`compact_lawful`).
-/

namespace Utf8Text

theorem Listing.scalar?_eq_some_iff {cp : Nat} {c : Char} :
    Listing.scalar? cp = some c ↔ c.toNat = cp := by
  unfold Listing.scalar?
  constructor
  · intro h
    split_ifs at h with hvalid
    rw [← Option.some.inj h, Char.ofNat, dif_pos hvalid]
    rfl
  · rintro rfl
    rw [if_pos (show c.toNat.isValidChar from c.valid), Char.ofNat_toNat]

namespace Json

/-! ## What reading leaves -/

/-- A text without what has been read of it: something, and no line feed. -/
def Leaves (cs rest : List Char) : Prop :=
  ∃ front, cs = front ++ rest ∧ front ≠ [] ∧ '\n' ∉ front

namespace Leaves

variable {cs rest behind : List Char}

theorem cons {c : Char} (hc : c ≠ '\n') (rest : List Char) : Leaves (c :: rest) rest :=
  ⟨[c], rfl, List.cons_ne_nil c [], by simpa using hc.symm⟩

theorem trans (h : Leaves cs rest) (hrest : Leaves rest behind) : Leaves cs behind := by
  obtain ⟨front, rfl, hne, hfront⟩ := h
  obtain ⟨next, rfl, -, hnext⟩ := hrest
  refine ⟨front ++ next, by rw [List.append_assoc], by simp [hne], ?_⟩
  rw [List.mem_append, not_or]
  exact ⟨hfront, hnext⟩

theorem length_lt (h : Leaves cs rest) : rest.length < cs.length := by
  obtain ⟨front, rfl, hne, -⟩ := h
  have hpos := List.length_pos_of_ne_nil hne
  rw [List.length_append]
  omega

theorem newline_not_mem (h : Leaves cs rest) (hrest : '\n' ∉ rest) : '\n' ∉ cs := by
  obtain ⟨front, rfl, -, hfront⟩ := h
  rw [List.mem_append, not_or]
  exact ⟨hfront, hrest⟩

end Leaves

/-! ## Strings -/

/-- The character that a letter behind a backslash stands for. -/
def escaped? : Char → Option Char
  | '"' => some '"'
  | '\\' => some '\\'
  | '/' => some '/'
  | 'b' => some '\x08'
  | 'f' => some '\x0c'
  | 'n' => some '\n'
  | 'r' => some '\r'
  | 't' => some '\t'
  | _ => none

/-- Reads an escape behind its backslash. Four hexadecimal digits name a scalar
value. -/
def readEscape? : List Char → Option (Char × List Char)
  | 'u' :: a :: b :: c :: d :: rest =>
    ((Numeral.magnitude? 16 [a, b, c, d]).bind Listing.scalar?).map (·, rest)
  | letter :: rest => (escaped? letter).map (·, rest)
  | [] => none

/-- Reads a character of a string. -/
def readChar? : List Char → Option (Char × List Char)
  | [] => none
  | c :: rest =>
    if c = '\\' then readEscape? rest
    else if c = '"' ∨ c.toNat < 0x20 then none
    else some (c, rest)

theorem leaves_of_readEscape? {cs rest : List Char} {c : Char}
    (h : readEscape? cs = some (c, rest)) : Leaves cs rest := by
  unfold readEscape? at h
  split at h
  · rename_i a b c' d behind
    obtain ⟨_, hvalue, hrest⟩ := Option.map_eq_some_iff.mp h
    obtain ⟨-, rfl⟩ := Prod.mk.inj hrest
    obtain ⟨_, hdigits, -⟩ := Option.bind_eq_some_iff.mp hvalue
    have hnewline := Numeral.not_mem_of_magnitude? hdigits (c := '\n') (by decide)
    exact ⟨['u', a, b, c', d], rfl, List.cons_ne_nil _ _, by simpa using hnewline⟩
  · rename_i letter behind _
    obtain ⟨_, hletter, hrest⟩ := Option.map_eq_some_iff.mp h
    obtain ⟨-, rfl⟩ := Prod.mk.inj hrest
    apply Leaves.cons
    rintro rfl
    cases hletter
  · cases h

theorem leaves_of_readChar? {cs rest : List Char} {c : Char}
    (h : readChar? cs = some (c, rest)) : Leaves cs rest := by
  cases cs with
  | nil => cases h
  | cons first cs =>
    rw [readChar?] at h
    split_ifs at h with hescape hcontrol
    · exact (Leaves.cons (by rw [hescape]; decide) cs).trans (leaves_of_readEscape? h)
    · obtain ⟨-, rfl⟩ := Prod.mk.inj (Option.some.inj h)
      apply Leaves.cons
      rintro rfl
      exact hcontrol (.inr (by decide))

/-- Reads a string behind its opening quote, up to its closing one. -/
def readString? (cs : List Char) : Option (List Char × List Char) :=
  if cs.head? = some '"' then some ([], cs.tail)
  else
    match _ : readChar? cs with
    | none => none
    | some (c, rest) => (readString? rest).map fun (text, rest) => (c :: text, rest)
termination_by cs.length
decreasing_by exact (leaves_of_readChar? ‹_›).length_lt

@[simp] theorem readString?_quote (rest : List Char) :
    readString? ('"' :: rest) = some ([], rest) := by
  rw [readString?]
  rfl

theorem readString?_of_readChar? {cs rest : List Char} {c : Char}
    (h : readChar? cs = some (c, rest)) :
    readString? cs = (readString? rest).map fun (text, rest) => (c :: text, rest) := by
  have hquote : cs.head? ≠ some '"' := by
    intro hhead
    obtain ⟨tail, rfl⟩ := List.head?_eq_some_iff.mp hhead
    cases h
  rw [readString?, if_neg hquote]
  split
  · rename_i hnone
    rw [h] at hnone
    cases hnone
  · rename_i hsome
    rw [h, Option.some.injEq] at hsome
    cases hsome
    rfl

theorem leaves_of_readString? {cs text rest : List Char}
    (h : readString? cs = some (text, rest)) : Leaves cs rest := by
  induction hlength : cs.length using Nat.strongRecOn generalizing cs text with
  | ind length ih =>
    rw [readString?] at h
    split_ifs at h with hhead
    · obtain ⟨tail, rfl⟩ := List.head?_eq_some_iff.mp hhead
      obtain ⟨-, rfl⟩ := Prod.mk.inj (Option.some.inj h)
      exact Leaves.cons (by decide) tail
    · split at h
      · cases h
      · rename_i c behind hchar
        obtain ⟨⟨text', rest'⟩, hrest, hresult⟩ := Option.map_eq_some_iff.mp h
        obtain ⟨-, rfl⟩ := Prod.mk.inj hresult
        have hleaves := leaves_of_readChar? hchar
        exact hleaves.trans (ih _ (hlength ▸ hleaves.length_lt) hrest rfl)

/-! ## Values -/

/-- Reads a run of decimal digits. -/
def readNumber? (cs : List Char) : Option (Nat × List Char) :=
  (Numeral.magnitude? 10 (cs.takeWhile Char.isDigit)).map (·, cs.dropWhile Char.isDigit)

/-- Reads a string with its quotes. -/
def readQuoted? : List Char → Option (List Char × List Char)
  | '"' :: cs => readString? cs
  | _ => none

/-- Reads a number or a string. -/
def readValue? (cs : List Char) : Option (Value × List Char) :=
  match readNumber? cs with
  | some (n, rest) => some (.number n, rest)
  | none => (readQuoted? cs).map fun (text, rest) => (.string text, rest)

theorem leaves_of_readNumber? {cs rest : List Char} {n : Nat}
    (h : readNumber? cs = some (n, rest)) : Leaves cs rest := by
  obtain ⟨_, hdigits, hresult⟩ := Option.map_eq_some_iff.mp h
  obtain ⟨-, rfl⟩ := Prod.mk.inj hresult
  exact ⟨cs.takeWhile Char.isDigit, List.takeWhile_append_dropWhile.symm,
    Numeral.ne_nil_of_magnitude? hdigits, Numeral.not_mem_of_magnitude? hdigits (by decide)⟩

theorem leaves_of_readQuoted? {cs text rest : List Char}
    (h : readQuoted? cs = some (text, rest)) : Leaves cs rest := by
  unfold readQuoted? at h
  split at h
  · exact (Leaves.cons (by decide) _).trans (leaves_of_readString? h)
  · cases h

theorem leaves_of_readValue? {cs rest : List Char} {value : Value}
    (h : readValue? cs = some (value, rest)) : Leaves cs rest := by
  rw [readValue?] at h
  split at h
  · rename_i n behind hnumber
    obtain ⟨-, rfl⟩ := Prod.mk.inj (Option.some.inj h)
    exact leaves_of_readNumber? hnumber
  · obtain ⟨⟨text, behind⟩, hquoted, hresult⟩ := Option.map_eq_some_iff.mp h
    obtain ⟨-, rfl⟩ := Prod.mk.inj hresult
    exact leaves_of_readQuoted? hquoted

/-! ## Members -/

/-- Reads a name and, behind a colon, its value. -/
def readMember? (cs : List Char) : Option (Member × List Char) :=
  match readQuoted? cs with
  | some (name, ':' :: rest) => (readValue? rest).map fun (value, rest) => ((name, value), rest)
  | _ => none

theorem leaves_of_readMember? {cs rest : List Char} {member : Member}
    (h : readMember? cs = some (member, rest)) : Leaves cs rest := by
  unfold readMember? at h
  split at h
  · rename_i name behind hname
    obtain ⟨⟨value, behind'⟩, hvalue, hresult⟩ := Option.map_eq_some_iff.mp h
    obtain ⟨-, rfl⟩ := Prod.mk.inj hresult
    exact ((leaves_of_readQuoted? hname).trans (Leaves.cons (by decide) behind)).trans
      (leaves_of_readValue? hvalue)
  · cases h

/-- Reads members with commas between them, up to the brace that closes the
object. -/
def readMembers? (cs : List Char) : Option (List Member) :=
  match _ : readMember? cs with
  | some (member, ',' :: rest) => (readMembers? rest).map (member :: ·)
  | some (member, ['\x7d']) => some [member]
  | _ => none
termination_by cs.length
decreasing_by
  have hbehind := (leaves_of_readMember? ‹_›).length_lt
  exact Nat.lt_of_succ_lt hbehind

/-- Reads an object. -/
def readObject? : List Char → Option (List Member)
  | ['\x7b', '\x7d'] => some []
  | '\x7b' :: cs => readMembers? cs
  | _ => none

theorem readMembers?_cons {cs rest : List Char} {member : Member}
    (h : readMember? cs = some (member, ',' :: rest)) :
    readMembers? cs = (readMembers? rest).map (member :: ·) := by
  rw [readMembers?]
  split
  · rename_i hread
    rw [h] at hread
    cases hread
    rfl
  · rename_i hread
    rw [h] at hread
    cases hread
  · rename_i hnot _
    exact absurd h (hnot _ _)

theorem readMembers?_last {cs : List Char} {member : Member}
    (h : readMember? cs = some (member, ['\x7d'])) : readMembers? cs = some [member] := by
  rw [readMembers?]
  split
  · rename_i hread
    rw [h] at hread
    cases hread
  · rename_i hread
    rw [h] at hread
    cases hread
    rfl
  · rename_i hnot
    exact absurd h (hnot _)

theorem newline_not_mem_of_readMembers? {cs : List Char} {members : List Member}
    (h : readMembers? cs = some members) : '\n' ∉ cs := by
  induction hlength : cs.length using Nat.strongRecOn generalizing cs members with
  | ind length ih =>
    rw [readMembers?] at h
    split at h
    · rename_i member rest hmember
      obtain ⟨others, hothers, -⟩ := Option.map_eq_some_iff.mp h
      have hleaves := (leaves_of_readMember? hmember).trans (Leaves.cons (by decide) rest)
      exact hleaves.newline_not_mem (ih _ (hlength ▸ hleaves.length_lt) hothers rfl)
    · rename_i member hmember
      exact (leaves_of_readMember? hmember).newline_not_mem (by decide)
    · cases h

/-- **Objects stand on one line**: nothing that is read as one has a line feed in it. -/
theorem newline_not_mem_of_readObject? {text : List Char} {members : List Member}
    (h : readObject? text = some members) : '\n' ∉ text := by
  unfold readObject? at h
  split at h
  · decide
  · exact (Leaves.cons (by decide) _).newline_not_mem (newline_not_mem_of_readMembers? h)
  · cases h

/-! ## Serializers -/

/-- What is asked of a serializer: the requests for an object make up its text in
UTF-8, and from the text its members are read again. -/
structure Serializer.Lawful (json : Serializer) : Prop where
  reads : ∀ members, ∃ text, (json members).flatten = utf8 text ∧ readObject? text = some members

/-- What is written of an object ends no line. -/
theorem Serializer.Lawful.lineFeed_not_mem {json : Serializer} (h : json.Lawful)
    (members : List Member) : lineFeed ∉ (json members).flatten := by
  obtain ⟨text, htext, hread⟩ := h.reads members
  rw [htext]
  exact mt newline_mem_of_lineFeed_mem_utf8 (newline_not_mem_of_readObject? hread)

/-- The escape of a control character has four digits, two of them zeros. -/
theorem exists_lowerHexPair_eq {n : Nat} (h : n < 0x20) :
    ∃ a b, lowerHexPair n = [a, b] ∧ Numeral.magnitude? 16 ['0', '0', a, b] = some n := by
  have hlength : ∀ n < 0x20, (lowerHexPair n).length = 2 := by decide
  have hread : ∀ n < 0x20, Numeral.magnitude? 16 ('0' :: '0' :: lowerHexPair n) = some n := by
    decide
  obtain ⟨a, b, hpair⟩ := List.length_eq_two.mp (hlength n h)
  exact ⟨a, b, hpair, hpair ▸ hread n h⟩

/-- What is written for a character is read as that character. -/
theorem readChar?_charText (c : Char) (rest : List Char) :
    readChar? (charText c ++ rest) = some (c, rest) := by
  unfold charText
  split_ifs with hquote hb ht hn hf hr hcontrol
  · rcases hquote with rfl | rfl <;> rfl
  · rw [hb]
    rfl
  · rw [ht]
    rfl
  · rw [hn]
    rfl
  · rw [hf]
    rfl
  · rw [hr]
    rfl
  · obtain ⟨a, b, hpair, hread⟩ := exists_lowerHexPair_eq hcontrol
    rw [hpair]
    show ((Numeral.magnitude? 16 ['0', '0', a, b]).bind Listing.scalar?).map (·, rest) = _
    rw [hread, Option.bind_some, Listing.scalar?_eq_some_iff.mpr rfl]
    rfl
  · rw [not_or] at hquote
    rw [List.singleton_append, readChar?, if_neg hquote.2, if_neg (by tauto)]

theorem readQuoted?_stringPieces (text rest : List Char) :
    readQuoted? ((stringPieces text).flatten ++ rest) = some (text, rest) := by
  have hstring : (stringPieces text).flatten ++ rest
      = '"' :: (text.flatMap charText ++ '"' :: rest) := by simp [stringPieces]
  rw [hstring, readQuoted?]
  induction text with
  | nil => exact readString?_quote rest
  | cons c text ih =>
    rw [List.flatMap_cons, List.append_assoc, readString?_of_readChar? (readChar?_charText c _),
      ih (by simp [stringPieces])]
    rfl

section
variable {c : Char} (hc : c.isDigit = false) (rest : List Char)
include hc

theorem readNumber?_decimal (n : Nat) :
    readNumber? (Numeral.decimal n ++ c :: rest) = some (n, c :: rest) := by
  have hdigits : ∀ d ∈ Numeral.decimal n, d.isDigit = true :=
    fun d hd => Nat.isDigit_of_mem_toDigits (by decide) (by decide) hd
  rw [readNumber?, List.takeWhile_append_of_pos hdigits, List.dropWhile_append_of_pos hdigits,
    List.takeWhile_cons_of_neg (by simp [hc]), List.dropWhile_cons_of_neg (by simp [hc]),
    List.append_nil, Numeral.magnitude?_decimal]
  rfl

theorem readValue?_valuePieces (value : Value) :
    readValue? ((valuePieces value).flatten ++ c :: rest) = some (value, c :: rest) := by
  cases value with
  | number n =>
    show readValue? (Numeral.decimal n ++ [] ++ c :: rest) = _
    rw [List.append_nil, readValue?, readNumber?_decimal hc rest n]
  | string text =>
    -- a quote is no digit
    have hnumber : readNumber? ((stringPieces text).flatten ++ c :: rest) = none := rfl
    rw [valuePieces, readValue?, hnumber]
    show (readQuoted? _).map _ = _
    rw [readQuoted?_stringPieces]
    rfl

theorem readMember?_memberPieces (member : Member) :
    readMember? ((memberPieces member).flatten ++ c :: rest) = some (member, c :: rest) := by
  have hpieces : (memberPieces member).flatten ++ c :: rest
      = (stringPieces member.1).flatten
        ++ ':' :: ((valuePieces member.2).flatten ++ c :: rest) := by simp [memberPieces]
  rw [hpieces, readMember?, readQuoted?_stringPieces]
  show (readValue? _).map _ = _
  rw [readValue?_valuePieces hc rest]
  rfl

end

/-- What is written of members, if there are any, is read as them. -/
theorem readMembers?_membersPieces {members : List Member} (hne : members ≠ []) :
    readMembers? (membersPieces members).flatten = some members := by
  induction members with
  | nil => exact absurd rfl hne
  | cons member members ih =>
    cases members with
    | nil =>
      have hlast : (membersPieces [member]).flatten
          = (memberPieces member).flatten ++ ['\x7d'] := by
        simp [membersPieces]
      rw [hlast, readMembers?_last (readMember?_memberPieces (by decide) [] member)]
    | cons next members =>
      have hmore : (membersPieces (member :: next :: members)).flatten
          = (memberPieces member).flatten ++ ',' :: (membersPieces (next :: members)).flatten := by
        simp [membersPieces]
      rw [hmore, readMembers?_cons (readMember?_memberPieces (by decide) _ member),
        ih (List.cons_ne_nil next members)]
      rfl

theorem readObject?_objectText (members : List Member) :
    readObject? (objectText members) = some members := by
  cases members with
  | nil => rfl
  | cons member members =>
    -- what stands behind the first brace is no brace, but the name of a member
    have hread := readMembers?_membersPieces (List.cons_ne_nil member members)
    have hquote : ∃ rest, (membersPieces (member :: members)).flatten = '"' :: rest := by
      cases members <;> exact ⟨_, rfl⟩
    obtain ⟨rest, hrest⟩ := hquote
    rw [objectText, hrest]
    rw [hrest] at hread
    exact hread

theorem utf8_flatten (pieces : List (List Char)) :
    utf8 pieces.flatten = (pieces.map utf8).flatten := by
  induction pieces with
  | nil => rfl
  | cons piece pieces ih =>
    rw [List.flatten_cons, List.map_cons, List.flatten_cons, ← ih]
    exact List.flatMap_append

theorem flatten_compact (members : List Member) :
    (compact members).flatten = utf8 (objectText members) :=
  (utf8_flatten (['\x7b'] :: membersPieces members)).symm

/-- **The compact form** is read again. -/
theorem compact_lawful : Serializer.Lawful compact where
  reads members := ⟨objectText members, flatten_compact members, readObject?_objectText members⟩

/-! ## Lengths -/

theorem length_charText_le (c : Char) : (charText c).length ≤ 6 := by
  unfold charText
  split_ifs with hquote hb ht hn hf hr hcontrol
  · exact Nat.le_of_ble_eq_true rfl
  · exact Nat.le_of_ble_eq_true rfl
  · exact Nat.le_of_ble_eq_true rfl
  · exact Nat.le_of_ble_eq_true rfl
  · exact Nat.le_of_ble_eq_true rfl
  · exact Nat.le_of_ble_eq_true rfl
  · obtain ⟨a, b, hpair, -⟩ := exists_lowerHexPair_eq hcontrol
    rw [hpair]
    exact Nat.le_refl 6
  · exact Nat.le_of_ble_eq_true rfl

theorem length_stringPieces_le (text : List Char) :
    (stringPieces text).flatten.length ≤ 6 * text.length + 2 := by
  have hchars : (text.flatMap charText).length ≤ 6 * text.length := by
    induction text with
    | nil => exact Nat.le_refl 0
    | cons c text ih =>
      have hc := length_charText_le c
      rw [List.flatMap_cons, List.length_append, List.length_cons]
      omega
  have hpieces : (stringPieces text).flatten.length = (text.flatMap charText).length + 2 := by
    simp [stringPieces]
  omega

theorem length_memberPieces_le (member : Member) :
    (memberPieces member).flatten.length
      ≤ 6 * member.1.length + 3 + (valuePieces member.2).flatten.length := by
  have hname := length_stringPieces_le member.1
  rw [memberPieces, List.flatten_append, List.length_append, List.flatten_cons, List.length_append,
    List.length_singleton]
  omega

theorem length_memberPieces_number_le (name : List Char) {n digits : Nat} (hdigits : 0 < digits)
    (h : n < 10 ^ digits) :
    (memberPieces (name, .number n)).flatten.length ≤ 6 * name.length + 3 + digits := by
  have hmember := length_memberPieces_le (name, .number n)
  rw [valuePieces, List.flatten_singleton] at hmember
  exact hmember.trans (Nat.add_le_add_left (Numeral.length_decimal_le hdigits h) _)

/-- An object is as long as its members with a comma or a brace each, and a brace. -/
theorem length_objectText_le (members : List Member) :
    (objectText members).length
      ≤ (members.map fun member => (memberPieces member).flatten.length + 1).sum + 2 := by
  rw [objectText, List.length_cons]
  refine Nat.succ_le_succ ?_
  induction members with
  | nil => exact Nat.le_refl 1
  | cons member members ih =>
    cases members with
    | nil => simp [membersPieces]
    | cons next members =>
      have hpieces : (membersPieces (member :: next :: members)).flatten
          = (memberPieces member).flatten ++ ',' :: (membersPieces (next :: members)).flatten := by
        simp [membersPieces]
      rw [hpieces, List.length_append, List.length_cons, List.map_cons, List.sum_cons]
      omega

end Json

end Utf8Text
