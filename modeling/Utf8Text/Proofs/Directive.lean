import Mathlib.Data.List.TakeDrop
import Mathlib.Data.List.TakeWhile
import Utf8Text.Log.Filter
import Utf8Text.Proofs.CodepointArgument

/-!
# Reading directives

A directive made of words is read as it is meant: `target=threshold` gives a threshold
to the events from the target (`read?_of_target`), and `target[{detail=value}]=threshold`
asks for the value of a detail, which no event has (`read?_of_value`). What decides
whether a value can be asked for are patterns, and every word is one
(`Pattern.isPattern_of_isAlphanum`). So a setting that asks for a value keeps
everything from the log (`Filter.passes_of_value`).
-/

namespace Utf8Text

/-! ## Letters and digits of ASCII -/

section
variable {c : Char} (hc : c.isAlphanum = true)
include hc

theorem toNat_of_isAlphanum :
    48 ≤ c.toNat ∧ c.toNat ≤ 57 ∨ 65 ≤ c.toNat ∧ c.toNat ≤ 90 ∨ 97 ≤ c.toNat ∧ c.toNat ≤ 122 := by
  have hupper : c.isUpper = decide (c.val ≥ 65 ∧ c.val ≤ 90) := rfl
  have hlower : c.isLower = (decide (c.val ≥ 97) && decide (c.val ≤ 122)) := rfl
  have hdigit : c.isDigit = (decide (c.val ≥ 48) && decide (c.val ≤ 57)) := rfl
  have hranges : (c.isUpper || c.isLower || c.isDigit) = true := hc
  simp only [hupper, hlower, hdigit, Bool.or_eq_true, Bool.and_eq_true, decide_eq_true_eq,
    ge_iff_le, UInt32.le_iff_toNat_le] at hranges
  have hcode : c.val.toNat = c.toNat := rfl
  simp only [hcode] at hranges
  tauto

theorem utf8Size_of_isAlphanum : c.utf8Size = 1 := by
  have hcode := toNat_of_isAlphanum hc
  rw [Char.utf8Size, if_pos]
  rw [UInt32.le_iff_toNat_le]
  show c.toNat ≤ 127
  omega

theorem Display.isBlank_of_isAlphanum : isBlank c = false := by
  have hcode := toNat_of_isAlphanum hc
  simp only [isBlank, inRanges, blankRanges, List.any_cons, List.any_nil, Bool.or_false,
    Bool.or_eq_false_iff, Bool.and_eq_false_iff, decide_eq_false_iff_not]
  omega

/-- Letters and digits of ASCII are letters and digits. -/
theorem Display.isAlphanumeric_of_isAlphanum : isAlphanumeric c = true := by
  have hdigits : (0x30, 0x39) ∈ alphanumericRanges := .head _
  have hcapitals : (0x41, 0x5A) ∈ alphanumericRanges := .tail _ (.head _)
  have hsmall : (0x61, 0x7A) ∈ alphanumericRanges := .tail _ (.tail _ (.head _))
  rw [isAlphanumeric, inRanges, List.any_eq_true]
  rcases toNat_of_isAlphanum hc with hcode | hcode | hcode
  · exact ⟨_, hdigits, by simpa using hcode⟩
  · exact ⟨_, hcapitals, by simpa using hcode⟩
  · exact ⟨_, hsmall, by simpa using hcode⟩

end

namespace Log

/-! ## Patterns -/

namespace Pattern

theorem readAtom?_of_isAlphanum {c : Char} (hc : c.isAlphanum = true) (m : Mode)
    (rest : List Char) : readAtom? m (c :: rest) = some (.character c, rest) := by
  unfold readAtom?
  split
  iterate 3
    rename_i heq
    obtain ⟨rfl, -⟩ := List.cons.inj heq
    exact absurd hc (by decide)
  unfold readCharacter?
  split
  · rename_i heq
    cases heq
  · rename_i heq
    obtain ⟨rfl, -⟩ := List.cons.inj heq
    exact absurd hc (by decide)
  · rename_i heq
    obtain ⟨rfl, rfl⟩ := List.cons.inj heq
    rfl

namespace Reading

/-- A letter or a digit is a part that stands for itself. -/
theorem step?_of_isAlphanum {s : Reading} {c : Char} {rest : List Char} (hmode : s.mode = .initial)
    (htext : s.text = c :: rest) (hc : c.isAlphanum = true) :
    s.step? = some { s with inner := s.inner.add 0, text := rest } := by
  have hskip : s.mode.skip s.text = c :: rest := by
    rw [hmode, htext]
    rfl
  have hatom : (Atom.character c).isAllowed s.mode = true := by
    rw [hmode]
    rfl
  have hread := readAtom?_of_isAlphanum hc s.mode rest
  rw [step?, hskip]
  dsimp only
  split
  iterate 8 exact absurd hc (by decide)
  rw [hread]
  dsimp only
  rw [if_pos hatom]

theorem together_replicate_le (n : Nat) : together (List.replicate n 0) ≤ 1 := by
  have hmax : (List.replicate n 0).foldl max 0 = 0 := by
    induction n with
    | zero => rfl
    | succ n ih => exact ih
  unfold together
  split
  · exact Nat.zero_le 1
  · rename_i depth heq
    have hmem : depth ∈ List.replicate n 0 := heq ▸ List.mem_singleton_self depth
    rw [List.eq_of_mem_replicate hmem]
    exact Nat.zero_le 1
  · rw [hmax]

/-- Letters and digits can be read on to the end. -/
theorem accepts_of_isAlphanum {text : List Char} (htext : ∀ c ∈ text, c.isAlphanum = true)
    (names : List (List Char)) (outside : Mode) (n : Nat) :
    accepts ⟨.initial, names, ⟨outside, [], List.replicate n (some 0)⟩, [], text⟩ = true := by
  induction text generalizing n with
  | nil =>
    have hdepth := together_replicate_le n
    have hcomplete : isComplete ⟨.initial, names, ⟨outside, [], List.replicate n (some 0)⟩, [], []⟩
        = true := by
      simp only [isComplete, Group.content, Group.endBranch, List.map_replicate, Option.getD_some,
        List.isEmpty_nil, Bool.true_and, decide_eq_true_eq]
      exact Nat.le_trans hdepth (by decide)
    rw [accepts]
    split
    · rename_i heq
      cases heq
    · rw [hcomplete]
      rfl
  | cons c text ih =>
    have hstep := step?_of_isAlphanum
      (s := ⟨.initial, names, ⟨outside, [], List.replicate n (some 0)⟩, [], c :: text⟩) rfl rfl
      (htext c List.mem_cons_self)
    rw [accepts]
    split
    · rename_i heq
      rw [hstep, Option.some.injEq] at heq
      rw [← heq]
      exact ih (fun x hx => htext x (List.mem_cons_of_mem c hx)) (n + 1)
    · rename_i heq
      rw [hstep] at heq
      cases heq

end Reading

/-- **Words are patterns.** -/
theorem isPattern_of_isAlphanum {text : List Char} (h : ∀ c ∈ text, c.isAlphanum = true) :
    isPattern text = true :=
  Reading.accepts_of_isAlphanum h [] .initial 0

end Pattern

/-! ## Places -/

/-- A text of letters and digits. -/
def IsWord (text : List Char) : Prop :=
  ∀ c ∈ text, c.isAlphanum = true

instance (text : List Char) : Decidable (IsWord text) :=
  decidable_of_iff (text.all Char.isAlphanum) List.all_eq_true

theorem IsWord.not_mem {text : List Char} (h : IsWord text) {c : Char}
    (hc : c.isAlphanum = false) : c ∉ text := by
  intro hmem
  rw [h c hmem] at hc
  cases hc

namespace Directive

/-- A text of single bytes, none of them blank. -/
def IsPlain (text : List Char) : Prop :=
  ∀ c ∈ text, c.utf8Size = 1 ∧ Display.isBlank c = false

instance (text : List Char) : Decidable (IsPlain text) :=
  decidable_of_iff (text.all fun c => c.utf8Size = 1 && !Display.isBlank c) (by simp [IsPlain])

theorem IsPlain.append {a b : List Char} (ha : IsPlain a) (hb : IsPlain b) : IsPlain (a ++ b) :=
  fun c hc => (List.mem_append.mp hc).elim (ha c) (hb c)

theorem IsPlain.cons {c : Char} (hc : c.utf8Size = 1 ∧ Display.isBlank c = false)
    {text : List Char} (h : IsPlain text) : IsPlain (c :: text) :=
  List.forall_mem_cons.mpr ⟨hc, h⟩

theorem isPlain_of_isWord {text : List Char} (h : IsWord text) : IsPlain text :=
  fun c hc => ⟨utf8Size_of_isAlphanum (h c hc), Display.isBlank_of_isAlphanum (h c hc)⟩

/-- The places of a text whose parts are taken from where they stand. -/
def places (text : List Char) : List Place :=
  text.map fun c => (some c, some c)

@[simp] theorem taken_places (text : List Char) : taken (places text) = text := by
  rw [taken, places, List.filterMap_map]
  exact List.filterMap_some

theorem layOut_of_isPlain {text : List Char} (h : IsPlain text) : layOut text = text.map some := by
  induction text with
  | nil => rfl
  | cons c text ih =>
    obtain ⟨hc, htext⟩ := List.forall_mem_cons.mp h
    have hrest : layOut text = text.map some := ih htext
    rw [layOut] at hrest ⊢
    rw [List.flatMap_cons, hrest, hc.1]
    rfl

theorem trim_of_isPlain {text : List Char} (h : IsPlain text) : Display.trim text = text := by
  have hnil : ∀ c ∈ ([] : List Char), Display.isBlank c = true := List.forall_mem_nil _
  have htrim := Display.trim_append hnil hnil (fun c hc => (h c (List.mem_of_mem_head? hc)).2)
    fun c hc => (h c (List.mem_of_mem_getLast? hc)).2
  rwa [List.nil_append, List.append_nil] at htrim

/-- What stands in front of a character ends where the character does. -/
theorem span_places {front : List Char} (rest : List Char) {c : Char} {p : Place → Bool}
    (hfront : ∀ x ∈ front, p (some x, some x) = true) (hc : p (some c, some c) = false) :
    (places (front ++ c :: rest)).span p = (places front, places (c :: rest)) := by
  have hall : ∀ x ∈ places front, p x = true := by
    intro x hx
    obtain ⟨y, hy, rfl⟩ := List.mem_map.mp hx
    exact hfront y hy
  have hplaces : places (front ++ c :: rest) = places front ++ places (c :: rest) :=
    List.map_append
  have hstop : ¬ p (some c, some c) = true := Bool.eq_false_iff.mp hc
  rw [List.span_eq_takeWhile_dropWhile, hplaces, List.takeWhile_append_of_pos hall,
    List.dropWhile_append_of_pos hall]
  show (places front ++ List.takeWhile p ((some c, some c) :: places rest),
    List.dropWhile p ((some c, some c) :: places rest)) = _
  rw [List.takeWhile_cons_of_neg hstop, List.dropWhile_cons_of_neg hstop, List.append_nil]
  rfl

/-! ## Directives of words -/

section
variable {target level : List Char} {t : Threshold} (htarget : IsWord target) (hne : target ≠ [])
  (hlevel : IsWord level) (ht : Threshold.read? level = some t)
include htarget hne hlevel ht

/-- A target, something asked for, and a threshold. What is asked for is read by itself. -/
theorem read?_of_requirement {asked : List Char} {r : Requirement} (hasked : IsPlain asked)
    (hstart : ∀ c ∈ asked.head?, c = '[')
    (hread : readRequirement? (places (asked ++ '=' :: level)) = some (r, places ('=' :: level))) :
    read? (target ++ (asked ++ '=' :: level)) = some ⟨target, r, t⟩ := by
  have hplain : IsPlain (target ++ (asked ++ '=' :: level)) :=
    (isPlain_of_isWord htarget).append
      (hasked.append ((isPlain_of_isWord hlevel).cons (by decide)))
  have hplaces : (layOut (target ++ (asked ++ '=' :: level))).zip
      (layOut (target ++ (asked ++ '=' :: level)))
        = places (target ++ (asked ++ '=' :: level)) := by
    rw [layOut_of_isPlain hplain, List.zip_map']
    rfl
  have hspan : (places (target ++ (asked ++ '=' :: level))).span
      (fun p => p.1 != some '=' && p.1 != some '[')
        = (places target, places (asked ++ '=' :: level)) := by
    have hfront : ∀ x ∈ target, (some x != some '=' && some x != some '[') = true := by
      intro x hx
      have hequals : x ≠ '=' := fun h => htarget.not_mem (c := '=') (by decide) (h ▸ hx)
      have hbracket : x ≠ '[' := fun h => htarget.not_mem (c := '[') (by decide) (h ▸ hx)
      simp [hequals, hbracket]
    cases asked with
    | nil => exact span_places _ hfront (by decide)
    | cons c asked =>
      obtain rfl : c = '[' := hstart c rfl
      exact span_places _ hfront (by decide)
  obtain ⟨first, others, rfl⟩ := List.exists_cons_of_ne_nil hne
  have hbegins : beginsTarget first = true := by
    have hfirst := Display.isAlphanumeric_of_isAlphanum (htarget first List.mem_cons_self)
    rw [beginsTarget, hfirst, Bool.or_true]
  have hthreshold : readThreshold? level = some t := by
    rw [readThreshold?, if_neg, ht]
    rintro rfl
    cases ht
  have hrest : ∃ place others, places (asked ++ '=' :: level) = place :: others := by
    cases asked <;> exact ⟨_, _, rfl⟩
  obtain ⟨place, behind, hcons⟩ := hrest
  have hend : ((layOut (first :: others ++ (asked ++ '=' :: level))).drop
      (layOut (first :: others ++ (asked ++ '=' :: level))).length).filterMap id = [] := by
    rw [List.drop_length]
    rfl
  have htaken : taken (places level) = level := taken_places level
  rw [hcons] at hspan hread
  rw [List.cons_append] at hplain hplaces hspan hend ⊢
  simp only [read?, trim_of_isPlain hplain, hplaces, hspan, hbegins, Bool.not_true, Bool.and_false,
    Bool.false_eq_true, if_false, hread]
  show (readThreshold? (taken (places level) ++ _)).map _ = _
  rw [htaken, hend, List.append_nil, hthreshold, Option.map_some, taken_places]

/-- **A threshold for a target.** -/
theorem read?_of_target : read? (target ++ '=' :: level) = some ⟨target, .nothing, t⟩ := by
  have hasked : IsPlain [] := List.forall_mem_nil _
  exact read?_of_requirement htarget hne hlevel ht hasked (by simp) rfl

/-- **A value that is asked for.** -/
theorem read?_of_value {name value : List Char} (hname : IsWord name) (hvalue : IsWord value) :
    read? (target ++ ("[\x7b".toList ++ name ++ '=' :: value ++ "\x7d]".toList ++ '=' :: level))
      = some ⟨target, .span, t⟩ := by
  have hasked : IsPlain ("[\x7b".toList ++ name ++ '=' :: value ++ "\x7d]".toList) :=
    ((IsPlain.append (by decide) (isPlain_of_isWord hname)).append
      ((isPlain_of_isWord hvalue).cons (by decide))).append (by decide)
  refine read?_of_requirement htarget hne hlevel ht hasked (by simp) ?_
  have htext : "[\x7b".toList ++ name ++ '=' :: value ++ "\x7d]".toList ++ '=' :: level
      = '[' :: ([] ++ '\x7b' :: (name ++ '=' :: value ++ '\x7d' :: ']' :: '=' :: level)) := by
    simp
  rw [htext]
  -- no name of a span stands in front of the brace
  have hnone : ∀ x ∈ ([] : List Char), (some x != some ']' && some x != some '\x7b') = true :=
    List.forall_mem_nil _
  have hname' := span_places (name ++ '=' :: value ++ '\x7d' :: ']' :: '=' :: level) (c := '\x7b')
    (p := fun p => p.1 != some ']' && p.1 != some '\x7b') hnone (by decide)
  have hinner : ∀ x ∈ name ++ '=' :: value, (some x != some '\x7d') = true := by
    intro x hx
    have hbrace : x ≠ '\x7d' := by
      rintro rfl
      have hnot := hname.not_mem (c := '\x7d') (by decide)
      have hnot' := hvalue.not_mem (c := '\x7d') (by decide)
      simp [hnot, hnot'] at hx
    simp [hbrace]
  have hdetail := span_places (']' :: '=' :: level) (c := '\x7d')
    (p := fun p => p.1 != some '\x7d') hinner (by decide)
  have hof : ofDetail? [] (name ++ '=' :: value) = some .span := by
    have hpieces : splitOn '=' (name ++ '=' :: value) = [name, value] := by
      rw [splitOn_append_cons (hname.not_mem (by decide)),
        splitOn_of_not_mem (hvalue.not_mem (by decide))]
    rw [ofDetail?, hpieces]
    dsimp only
    rw [Value.isValue, Pattern.isPattern_of_isAlphanum hvalue, Bool.or_true, if_pos rfl]
  have hsome : places (name ++ '=' :: value) ≠ [] := by
    rw [places, Ne, List.map_eq_nil_iff]
    simp
  have hcons (c : Char) (text : List Char) : places (c :: text) = (some c, some c) :: places text :=
    rfl
  simp only [hcons '[', readRequirement?, hname', hcons '\x7b']
  split
  · rename_i heq
    simp at heq
  · rename_i heq
    obtain ⟨-, rfl⟩ := List.cons.inj heq
    simp only [hdetail, hcons '\x7d', hcons ']', if_neg hsome, taken_places, hof]
    rfl
  · rename_i heq
    cases heq

end

end Directive

/-! ## Filters of one directive -/

namespace Filter

/-- One directive decides about the events that it is about, and keeps all others from
the log. -/
theorem passes_singleton (d : Directive) (e : Event) :
    (Filter.mk [d]).passes e = (d.concerns e && d.threshold.admits e.level) := by
  cases hconcerns : d.concerns e with
  | true =>
    have habout : (Filter.mk [d]).about e = [d] := List.filter_cons_of_pos hconcerns
    rw [passes, decisive?, habout]
    rfl
  | false =>
    have habout : (Filter.mk [d]).about e = [] :=
      List.filter_cons_of_neg (Bool.eq_false_iff.mp hconcerns)
    rw [passes, decisive?, habout]
    rfl

theorem pieces_of_not_mem {setting : List Char} (hcomma : ',' ∉ setting) (hne : setting ≠ []) :
    pieces setting = [setting] := by
  rw [pieces, splitOn_of_not_mem hcomma]
  exact List.filter_cons_of_pos (by simpa using hne)

section
variable {setting : List Char} {d : Directive} (hcomma : ',' ∉ setting) (hne : setting ≠ [])
  (h : Directive.read? setting = some d)
include hcomma hne h

/-- A setting without a comma is one directive. -/
theorem ofSetting?_of_read? : ofSetting? setting = some ⟨[d]⟩ := by
  rw [ofSetting?, pieces_of_not_mem hcomma hne]
  simp [h, ofDirectives]

theorem ofPieces_of_read? : ofPieces setting = ⟨[d]⟩ := by
  rw [ofPieces, pieces_of_not_mem hcomma hne, List.filterMap_cons_some h]
  rfl

end

/-- **A setting that asks for a value** makes sense, and keeps everything from the log. -/
theorem passes_of_value {target name value level : List Char} {t : Threshold}
    (htarget : IsWord target) (hne : target ≠ []) (hname : IsWord name) (hvalue : IsWord value)
    (hlevel : IsWord level) (ht : Threshold.read? level = some t) :
    ∃ f, ofSetting? (target
        ++ ("[\x7b".toList ++ name ++ '=' :: value ++ "\x7d]".toList ++ '=' :: level)) = some f
      ∧ ∀ e, f.passes e = false := by
  have hread := Directive.read?_of_value htarget hne hlevel ht hname hvalue
  have hcomma : ',' ∉ target
      ++ ("[\x7b".toList ++ name ++ '=' :: value ++ "\x7d]".toList ++ '=' :: level) := by
    have hword {text : List Char} (h : IsWord text) : ',' ∉ text := h.not_mem (by decide)
    simp [hword htarget, hword hname, hword hvalue, hword hlevel]
  refine ⟨_, ofSetting?_of_read? hcomma (by simp [hne]) hread, ?_⟩
  intro e
  rw [passes_singleton, Directive.concerns, Requirement.isMetBy, Bool.and_false, Bool.false_and]

end Filter

end Log

end Utf8Text
