import Mathlib.Tactic.Choose
import Utf8Text.Proofs.Json
import Utf8Text.Proofs.Runs

/-!
# Reading a listing back

Readers for the two forms of a line, each written without regard to how lines are
made: columns with two blanks between them for the one, the first of them filled up
with blanks in front, and an object with members for the other. A line of either
form is read as the sequence it was made of, and it has no line feed in it whatever
its codepoint is (`exists_isLine`). So the lines of a listing are found again, and
with them all that decoding has said of the text (`listing_is_faithful`). Of the
writing of objects only the law is used that they are read again.
-/

namespace Utf8Text

open Decoding

namespace Listing

/-! ## Aligned lines -/

/-- A line cut at its first two blanks in a row. -/
def fields? : List Char → Option (List Char × List Char)
  | [] => none
  | c :: rest =>
    if c = ' ' ∧ rest.head? = some ' ' then some ([], rest.tail)
    else (fields? rest).map (Prod.map (c :: ·) id)

theorem fields?_append {name : List Char} (h : ' ' ∉ name) (shown : List Char) :
    fields? (name ++ "  ".toList ++ shown) = some (name, shown) := by
  induction name with
  | nil => rfl
  | cons c name ih =>
    rw [List.mem_cons, not_or] at h
    have hc : ¬ (c = ' ' ∧ (name ++ "  ".toList ++ shown).head? = some ' ') := by
      rintro ⟨hblank, -⟩
      exact h.1 hblank.symm
    rw [List.cons_append, List.cons_append, fields?, if_neg hc, ih h.2]
    rfl

/-- Reads the name of a codepoint. -/
def readName? : List Char → Option Nat
  | 'U' :: '+' :: digits => if 4 ≤ digits.length then Numeral.magnitude? 16 digits else none
  | _ => none

/-- Reads an aligned line. The offset ends in the eighth column, or behind it with
nothing in front, and a single character comes last. -/
def readTextLine? (line : List Char) : Option Sequence := do
  let front := line.takeWhile (· = ' ')
  let (offset, line) ← fields? (line.dropWhile (· = ' '))
  let (length, line) ← fields? line
  let (name, shown) ← fields? line
  if front.length = 8 - offset.length ∧ shown.length = 1 then
    return ⟨← Numeral.magnitude? 10 offset, ← Numeral.magnitude? 10 length, ← readName? name⟩
  else none

theorem readName?_codepointName (cp : Nat) : readName? (codepointName cp) = some cp := by
  have hlength : 4 ≤ (Numeral.hexPadded 4 cp).length := by
    rw [Numeral.hexPadded, List.length_leftpad]
    exact Nat.le_max_left _ _
  show (if 4 ≤ (Numeral.hexPadded 4 cp).length then
    Numeral.magnitude? 16 (Numeral.hexPadded 4 cp) else none) = some cp
  rw [if_pos hlength, Numeral.magnitude?_hexPadded]

theorem not_mem_codepointName {c : Char} (hc : Numeral.digitValue? c = none) (hplus : c ≠ '+')
    (cp : Nat) : c ∉ codepointName cp := by
  have hdigits := Numeral.not_mem_hexPadded hc 4 cp
  have hletter : c ≠ 'U' := by
    rintro rfl
    exact absurd hc (by decide)
  show c ∉ 'U' :: '+' :: Numeral.hexPadded 4 cp
  simp [hdigits, hletter, hplus]

/-- The blanks in front of a text that does not begin with one. -/
theorem takeWhile_blanks {text : List Char} (h : text.head? ≠ some ' ') (n : Nat) :
    (List.replicate n ' ' ++ text).takeWhile (· = ' ') = List.replicate n ' '
      ∧ (List.replicate n ' ' ++ text).dropWhile (· = ' ') = text := by
  have hblanks : ∀ c ∈ List.replicate n ' ', decide (c = ' ') = true :=
    fun c hc => decide_eq_true (List.eq_of_mem_replicate hc)
  rw [List.takeWhile_append_of_pos hblanks, List.dropWhile_append_of_pos hblanks]
  cases text with
  | nil => simp
  | cons c text =>
    have hc : c ≠ ' ' := fun hblank => h (congrArg some hblank)
    rw [List.takeWhile_cons_of_neg (by simpa using hc),
      List.dropWhile_cons_of_neg (by simpa using hc), List.append_nil]
    exact ⟨rfl, rfl⟩

section
variable (r : Record)

theorem text_eq :
    r.text = List.replicate (8 - (Numeral.decimal r.offset).length) ' '
      ++ (Numeral.decimal r.offset ++ "  ".toList
        ++ (Numeral.decimal r.length ++ "  ".toList
          ++ (codepointName r.codepoint ++ "  ".toList ++ r.shown))) := by
  simp [Record.text, List.leftpad]

theorem length_shown : r.shown.length = 1 := by
  unfold Record.shown
  split
  · split <;> rfl
  · rfl

/-- An aligned line is read as what it was made of. -/
theorem readTextLine?_text : readTextLine? r.text = some ⟨r.offset, r.length, r.codepoint⟩ := by
  have hblank (n : Nat) : ' ' ∉ Numeral.decimal n := Numeral.not_mem_decimal (by decide) n
  have hname : ' ' ∉ codepointName r.codepoint :=
    not_mem_codepointName (by decide) (by decide) r.codepoint
  have hfirst (rest : List Char) :
      (Numeral.decimal r.offset ++ "  ".toList ++ rest).head? ≠ some ' ' := by
    have hne := Numeral.ne_nil_of_magnitude? (Numeral.magnitude?_decimal r.offset)
    obtain ⟨d, digits, hdigits⟩ := List.exists_cons_of_ne_nil hne
    have hd := hblank r.offset
    rw [hdigits] at hd ⊢
    intro h
    exact hd (Option.some.inj h ▸ List.mem_cons_self)
  obtain ⟨hfront, hrest⟩ := takeWhile_blanks (hfirst _) (8 - (Numeral.decimal r.offset).length)
  rw [text_eq, readTextLine?, hfront, hrest, fields?_append (hblank r.offset)]
  simp only [Option.bind_eq_bind, Option.bind_some, fields?_append (hblank r.length),
    fields?_append hname]
  simp [length_shown, Numeral.magnitude?_decimal, readName?_codepointName]

theorem newline_not_mem_shown : '\n' ∉ r.shown := by
  unfold Record.shown
  split
  · rename_i c _
    split
    · decide
    · rename_i hcontrol
      intro hmem
      obtain rfl : '\n' = c := List.mem_singleton.mp hmem
      exact hcontrol (by decide)
  · decide

theorem newline_not_mem_text : '\n' ∉ r.text := by
  have hnumber := Numeral.not_mem_decimal (c := '\n') (by decide)
  have hname := not_mem_codepointName (c := '\n') (by decide) (by decide) r.codepoint
  have hshown := newline_not_mem_shown r
  simp [Record.text, List.leftpad, hnumber, hname, hshown]

end

/-! ## Objects -/

/-- The number that a name stands for. -/
def number? (members : List Json.Member) (name : String) : Option Nat :=
  match members.lookup name.toList with
  | some (.number n) => some n
  | _ => none

/-- Reads a line with an object. -/
def readJsonLine? (line : List Char) : Option Sequence := do
  let members ← Json.readObject? line
  return ⟨← number? members "offset", ← number? members "len", ← number? members "codepoint"⟩

/-- What a line with an object says of the character of a codepoint: it has one member
for it if the codepoint is a scalar value, with that character and no other as its
text, and else none. -/
def ShowsCharacter (line : List Char) (cp : Nat) : Prop :=
  ∃ members, Json.readObject? line = some members ∧ (members.map Prod.fst).Nodup
    ∧ (members.lookup "char".toList ≠ none ↔ cp.isValidChar)
    ∧ ∀ c : Char, c.toNat = cp → members.lookup "char".toList = some (.string [c])

section
variable {line : List Char} {s : Sequence}
  (h : Json.readObject? line = some (Record.ofSequence s).members)
include h

theorem readJsonLine?_of_members : readJsonLine? line = some s := by
  rw [readJsonLine?, h]
  simp [number?, Record.members, Record.ofSequence, List.lookup_cons]

theorem showsCharacter_of_members : ShowsCharacter line s.codepoint := by
  have hlookup : (Record.ofSequence s).members.lookup "char".toList
      = (scalar? s.codepoint).map fun c => .string [c] := by
    cases hscalar : scalar? s.codepoint <;>
      simp [Record.members, Record.ofSequence, List.lookup_cons, hscalar]
  refine ⟨_, h, ?_, ?_, ?_⟩
  · cases hscalar : scalar? s.codepoint <;> simp [Record.members, Record.ofSequence, hscalar]
  · rw [hlookup, scalar?]
    split_ifs with hvalid
    · simp [hvalid]
    · simp [hvalid]
  · intro c hc
    rw [hlookup, scalar?_eq_some_iff.mpr hc]
    rfl

end

/-! ## Lines -/

/-- The lines of a byte string: cut at its line feeds it gives them, with nothing
behind the last. -/
def HasLines (bytes : Bytes) (lines : List (List Char)) : Prop :=
  splitOn lineFeed bytes = lines.map utf8 ++ [[]]

/-- The lines are determined. -/
theorem HasLines.unique {bytes : Bytes} {lines lines' : List (List Char)}
    (h : HasLines bytes lines) (h' : HasLines bytes lines') : lines' = lines := by
  rw [HasLines] at h h'
  rw [h] at h'
  have hmap := List.append_cancel_right h'
  exact (List.map_injective_iff.mpr utf8_injective hmap).symm

theorem utf8_append_newline (line : List Char) :
    utf8 (line ++ ['\n']) = utf8 line ++ [lineFeed] := by
  rw [utf8, List.flatMap_append]
  rfl

/-- Lines without a line feed inside, each with one behind it. -/
theorem hasLines_map {α : Type} {f : α → List Char} (h : ∀ a, '\n' ∉ f a) (l : List α) :
    HasLines (l.flatMap fun a => utf8 (f a ++ ['\n'])) (l.map f) := by
  have hpieces : ∀ piece ∈ (l.map f).map utf8, lineFeed ∉ piece := by
    intro piece hpiece hmem
    rw [List.map_map] at hpiece
    obtain ⟨a, -, rfl⟩ := List.mem_map.mp hpiece
    exact h a (newline_mem_of_lineFeed_mem_utf8 hmem)
  rw [HasLines, ← splitOn_flatMap_append_separator hpieces, List.flatMap_map, List.flatMap_map]
  simp only [utf8_append_newline]

/-- Reads a line of either form. -/
def readLine? : ListingFormat → List Char → Option Sequence
  | .text => readTextLine?
  | .json => readJsonLine?

/-- A line that is written for a sequence and tells of it. -/
structure IsLine (json : Json.Serializer) (format : ListingFormat) (line : List Char)
    (s : Sequence) : Prop where
  bytes : (Record.ofSequence s).bytes json format = utf8 (line ++ ['\n'])
  newline_not_mem : '\n' ∉ line
  reads : readLine? format line = some s
  shows : format = .json → ShowsCharacter line s.codepoint

section
variable {json : Json.Serializer} (hjson : json.Lawful) (format : ListingFormat)
include hjson

/-- **Reading back**: what is written for a sequence is a line that tells of it. -/
theorem exists_isLine (s : Sequence) : ∃ line, IsLine json format line s := by
  cases format with
  | text =>
    exact ⟨(Record.ofSequence s).text, rfl, newline_not_mem_text _,
      readTextLine?_text (.ofSequence s), nofun⟩
  | json =>
    obtain ⟨line, hbytes, hread⟩ := hjson.reads (Record.ofSequence s).members
    refine ⟨line, ?_, Json.newline_not_mem_of_readObject? hread, readJsonLine?_of_members hread,
      fun _ => showsCharacter_of_members hread⟩
    rw [Record.bytes, hbytes, utf8_append_newline]

/-- The output of a listing has lines that tell of the sequences. -/
theorem exists_lines (sequences : List Sequence) :
    ∃ lines, HasLines (sequences.flatMap fun s => (Record.ofSequence s).bytes json format) lines
      ∧ lines.mapM (readLine? format) = some sequences
      ∧ (format = .json →
        List.Forall₂ ShowsCharacter lines (sequences.map Sequence.codepoint)) := by
  choose line hline using exists_isLine hjson format
  refine ⟨sequences.map line, ?_, ?_, ?_⟩
  · simp only [(hline _).bytes]
    exact hasLines_map (fun s => (hline s).newline_not_mem) sequences
  · induction sequences with
    | nil => rfl
    | cons s sequences ih =>
      rw [List.map_cons, List.mapM_cons, (hline s).reads, ih]
      rfl
  · intro hformat
    rw [List.forall₂_map_left_iff, List.forall₂_map_right_iff, List.forall₂_same]
    exact fun s _ => (hline s).shows hformat

end

/-! ## Records -/

/-- Records that lie one behind the other from the start of a text up to a place
in it, each as long as the byte at its offset announces, with the codepoint that
is decoded there. -/
structure Tiles (text : Bytes) (records : List Sequence) (stop : Nat) : Prop where
  first : ∀ r ∈ records.head?, r.offset = 0
  next : records.IsChain fun r r' => r'.offset = r.offset + r.length
  last : ∀ r ∈ records.getLast?, r.offset + r.length = stop
  stop_of_nil : records = [] → stop = 0
  length : ∀ r ∈ records, ∃ lead, text[r.offset]? = some lead ∧ r.length = sequenceLength lead
  codepoint : ∀ r ∈ records, decode (text.drop r.offset) = .ok (r.codepoint, r.length)

/-- What decoding reads of a text is in its place. -/
theorem tiles_ofBytes (text : Bytes) :
    Tiles text (ofBytes text).sequences (ofBytes text).stop where
  first r hr := by
    rw [Option.mem_def, List.head?_eq_getElem?] at hr
    exact (decode_drop_offset hr).1
  next := by
    rw [List.isChain_iff_getElem]
    intro k hk
    have hthis := List.getElem?_eq_getElem (Nat.lt_of_succ_lt hk)
    rw [(decode_drop_offset hthis).1, (decode_drop_offset (List.getElem?_eq_getElem hk)).1,
      offsetOf_succ hthis]
  last r hr := by
    rw [Option.mem_def, List.getLast?_eq_getElem?] at hr
    have hpos : 0 < (ofBytes text).sequences.length := by
      by_contra hnot
      rw [List.getElem?_eq_none (by omega)] at hr
      cases hr
    rw [(decode_drop_offset hr).1, ← offsetOf_succ hr]
    exact offsetOf_eq_stop (by omega)
  stop_of_nil h := by
    rw [stop, h]
    rfl
  length r hr := by
    obtain ⟨k, hk⟩ := List.mem_iff_getElem?.mp hr
    obtain ⟨lead, following, rest, hdrop, hlead, hlength, -⟩ :=
      decode_eq_ok_iff.mp (decode_drop_offset hk).2
    refine ⟨lead, ?_, hlength.trans hlead.symm⟩
    rw [← Nat.add_zero r.offset, ← List.getElem?_drop, hdrop]
    rfl
  codepoint r hr := by
    obtain ⟨k, hk⟩ := List.mem_iff_getElem?.mp hr
    exact (decode_drop_offset hk).2

end Listing

open Listing in
/-- **The listing is faithful.** The lines of either form of the listing of a text
give the same records back, a line with an object shows the character of its
codepoint if there is one, and the records are all that could be decoded, in its
place: up to the end of the text if the exit code is 0, and if it is 1 up to the
offset of the error that is reported. So it is however objects are written, if only
they are read again. -/
theorem listing_is_faithful (libraries : Libraries) (hjson : libraries.json.Lawful)
    {s : Surroundings} {file? : Option Path} {raw : Bytes} (hdevice : s.device = .accepting)
    (hread : s.contents (.ofPath? file?) = .ok raw) (report : ReportOptions) (verbosity : Nat)
    (setting? : Option String) :
    let text := beforeNul raw
    let listed := fun format : ListingFormat =>
      (Invocation.mk verbosity (.list ⟨file?, format, report⟩)).runWith libraries setting? s
    ∃ records : List Sequence,
      (∀ format, ∃ lines, HasLines (listed format).stdout lines
          ∧ lines.mapM (readLine? format) = some records
          ∧ (format = .json → List.Forall₂ ShowsCharacter lines (records.map Sequence.codepoint)))
        ∧ ((∀ format, (listed format).exitCode = 0)
            ∧ items text = records.map (fun r => .codepoint r.codepoint)
            ∧ Tiles text records text.length
          ∨ ∃ e, (∀ format, (listed format).exitCode = 1
              ∧ (listed format).stderr
                = reportText report s.terminal (.ofPath? file?) text e)
            ∧ items text = records.map (fun r => .codepoint r.codepoint) ++ [.error e]
            ∧ Tiles text records e.offset) := by
  intro text listed
  have hrun (format : ListingFormat) :=
    run_list_of_accepting libraries hdevice hread report verbosity setting? format
  have htiles := tiles_ofBytes text
  have hitems : items text = (ofBytes text).sequences.map (fun r => .codepoint r.codepoint)
      ++ (ofBytes text).error?.toList.map .error := by
    rw [items, Decoding.items, codepoints, List.map_map]
    rfl
  refine ⟨(ofBytes text).sequences, ?_, ?_⟩
  · intro format
    have hstdout : (listed format).stdout = _ := (hrun format).2.1
    rw [hstdout]
    exact exists_lines hjson format (ofBytes text).sequences
  · cases herror : (ofBytes text).error? with
    | none =>
      refine .inl ⟨fun format => ?_, ?_, ?_⟩
      · have hcode : (listed format).exitCode = _ := (hrun format).1
        rw [hcode, if_pos herror]
      · rw [hitems, herror]
        exact List.append_nil _
      · rwa [stop_eq_length herror] at htiles
    | some e =>
      refine .inr ⟨e, fun format => ⟨?_, ?_⟩, ?_, ?_⟩
      · have hcode : (listed format).exitCode = _ := (hrun format).1
        rw [hcode, if_neg (by rw [herror]; exact Option.some_ne_none e)]
      · have hstderr : (listed format).stderr = _ := (hrun format).2.2
        rw [hstderr, herror]
        rfl
      · rw [hitems, herror]
        rfl
      · rwa [← (decode_drop_error herror).1] at htiles

open Listing in
/-- A line feed and the greatest codepoint of all, which is no scalar value, in front of
a byte that starts no sequence and a NUL. -/
theorem listing_is_faithful_before_stray_byte :
    let raw : Bytes := [0x41, 0x0A, 0xF7, 0xBF, 0xBF, 0xBF, 0x80, 0x00, 0x42]
    let s : Surroundings := ⟨fun _ => .ok raw, .accepting, true⟩
    let listed := fun format : ListingFormat =>
      (Invocation.mk 0 (.list ⟨none, format, ⟨true, false, false⟩⟩)).run none s
    Json.compact.Lawful ∧ s.device = .accepting ∧ s.contents (.ofPath? none) = .ok raw
      ∧ ∃ records, records.map Sequence.codepoint = [0x41, 0x0A, 0x1FFFFF]
        ∧ Tiles (raw.take 7) records 6
        ∧ ∀ format, (listed format).exitCode = 1 ∧ (listed format).stderr = []
          ∧ ∃ lines, HasLines (listed format).stdout lines
            ∧ lines.mapM (readLine? format) = some records := by
  intro raw s listed
  have hread : s.contents (.ofPath? none) = .ok raw := rfl
  have hitems : items (beforeNul raw)
      = [0x41, 0x0A, 0x1FFFFF].map .codepoint ++ [.error ⟨.invalidLeadByte, 6, 0x80⟩] := rfl
  obtain ⟨records, hlines, hends⟩ :=
    listing_is_faithful .standard Json.compact_lawful (s := s) rfl hread ⟨true, false, false⟩ 0 none
  refine ⟨Json.compact_lawful, rfl, hread, records, ?_⟩
  rcases hends with ⟨-, hrecords, -⟩ | ⟨e, hruns, hrecords, htiles⟩
  · have herror : Item.error ⟨.invalidLeadByte, 6, 0x80⟩ ∈ items (beforeNul raw) := by
      rw [hitems]
      exact List.mem_append_right _ (List.mem_singleton_self _)
    rw [hrecords] at herror
    obtain ⟨r, -, hr⟩ := List.mem_map.mp herror
    cases hr
  · rw [hitems] at hrecords
    obtain ⟨hcodepoints, herror⟩ := List.append_inj' hrecords rfl
    obtain rfl : ⟨.invalidLeadByte, 6, 0x80⟩ = e := by simpa using herror
    refine ⟨?_, htiles, fun format => ⟨(hruns format).1, (hruns format).2, ?_⟩⟩
    · have hinjective : Function.Injective Item.codepoint := fun _ _ h => Item.codepoint.inj h
      refine List.map_injective_iff.mpr hinjective ?_
      rw [List.map_map]
      exact hcodepoints.symm
    · obtain ⟨lines, hhas, hreads, -⟩ := hlines format
      exact ⟨lines, hhas, hreads⟩

end Utf8Text
