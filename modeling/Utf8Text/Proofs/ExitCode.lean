import Utf8Text.CommandLine
import Utf8Text.Proofs.Json
import Utf8Text.Proofs.Observation
import Utf8Text.Proofs.Results

/-!
# Exit codes

What the exit code of a run says: 2 is a failure to read or write, 1 something
that could not be decoded or encoded. Other failures end in 1 as well, but they do
not happen (`exitCode_of_parse`): a codepoint of a text can be encoded again, and an
object is held back whole before anything of it goes out, if the buffer is larger
than that (`Command.HasRoom`). It is, for the compact form
(`Command.hasRoom_compact`).
-/

namespace Utf8Text

open Decoding

/-! ## Command lines -/

namespace CommandLine

theorem codepoints?_ne_nil {argument : String} {rest : List String} {cps : List Nat}
    (h : codepoints? (argument :: rest) = some cps) : cps ≠ [] := by
  rw [codepoints?] at h
  split at h
  · cases h
    simp
  · cases h

theorem codepoints_ne_nil_of_command? {name : CommandName} {tokens : List Token}
    {o : EncodeOptions} (h : command? name tokens = some (.encode o)) : o.codepoints ≠ [] := by
  cases name with
  | print =>
    obtain ⟨_, -, hcommand⟩ := Option.map_eq_some_iff.mp h
    cases hcommand
  | codepoints =>
    obtain ⟨_, -, hcommand⟩ := Option.map_eq_some_iff.mp h
    cases hcommand
  | encode =>
    rw [command?] at h
    split at h
    · cases h
    · rename_i hpositionals
      obtain ⟨cps, hcps, hcommand⟩ := Option.map_eq_some_iff.mp h
      cases hcommand
      obtain ⟨argument, rest, hcons⟩ := List.exists_cons_of_ne_nil hpositionals
      exact codepoints?_ne_nil (hcons ▸ hcps)

/-- A command line that is accepted names a codepoint to encode. -/
theorem codepoints_ne_nil_of_parseAfter {verbosity : Nat} {arguments : List String}
    {i : Invocation} (h : parseAfter verbosity arguments = some i) {o : EncodeOptions}
    (hcommand : i.command = .encode o) : o.codepoints ≠ [] := by
  induction arguments generalizing verbosity with
  | nil => cases h
  | cons argument rest ih =>
    obtain ⟨_, -, hrest⟩ | ⟨-, _, _, _, -, -, -, hread, rfl⟩ := parseAfter_cons_eq_some_iff.mp h
    · exact ih hrest
    · exact codepoints_ne_nil_of_command? (hread.trans (congrArg some hcommand))

end CommandLine

/-! ## Room for an object -/

/-- The text that a source holds, if it can be read. -/
def Surroundings.text? (s : Surroundings) (source : Source) : Option Bytes :=
  match s.contents source with
  | .ok raw => some (beforeNul raw)
  | .error _ => none

/-- The buffer before the standard output is larger than each object that a command
writes. -/
def Command.HasRoom (json : Json.Serializer) (s : Surroundings) : Command → Prop
  | .list o => o.format = .json → ∀ text, s.text? (.ofPath? o.file?) = some text →
    ∀ q ∈ (ofBytes text).sequences,
      (json (Listing.Record.ofSequence q).members).flatten.length < LineBuffered.capacity
  | _ => True

/-- The object of a record is short if its numbers are. -/
theorem Listing.length_compact_lt {r : Record} (hoffset : r.offset < 2 ^ 64)
    (hlength : r.length ≤ 4) (hcodepoint : r.codepoint ≤ maxEncodable) :
    (Json.compact r.members).flatten.length < LineBuffered.capacity := by
  have hoffsets := Json.length_memberPieces_number_le "offset".toList (show 0 < 20 by decide)
    (hoffset.trans (by decide))
  have hlengths := Json.length_memberPieces_number_le "len".toList (show 0 < 1 by decide)
    (Nat.lt_of_le_of_lt hlength (by decide))
  have hcodepoints := Json.length_memberPieces_number_le "codepoint".toList
    (show 0 < 7 by decide) (Nat.lt_of_le_of_lt hcodepoint (by decide))
  have hnames : "offset".toList.length = 6 ∧ "len".toList.length = 3
      ∧ "codepoint".toList.length = 9 := by decide
  have hobject := Json.length_objectText_le r.members
  have htext : (Json.objectText r.members).length ≤ 200 := by
    cases hchar : r.char? with
    | none =>
      simp only [Record.members, hchar, Option.toList_none, List.map_nil, List.append_nil,
        List.map_cons, List.sum_cons, List.sum_nil] at hobject ⊢
      omega
    | some c =>
      have hc : (Json.memberPieces ("char".toList, .string [c])).flatten.length ≤ 35 :=
        (Json.length_memberPieces_le _).trans
          (Nat.add_le_add_left (Json.length_stringPieces_le [c]) _)
      simp only [Record.members, hchar, Option.toList_some, List.cons_append, List.nil_append,
        List.map_nil, List.map_cons, List.sum_cons, List.sum_nil] at hobject ⊢
      omega
  have hbytes := length_utf8_le (Json.objectText r.members)
  rw [Json.flatten_compact, LineBuffered.capacity]
  omega

/-- There is room for the compact form of every object, whatever texts there are. -/
theorem Command.hasRoom_compact {s : Surroundings}
    (h : ∀ source text, s.text? source = some text → text.length < 2 ^ 64) (command : Command) :
    command.HasRoom Json.compact s := by
  cases command with
  | print o => trivial
  | encode o => trivial
  | list o =>
    intro _ text htext q hq
    obtain ⟨k, hk⟩ := List.mem_iff_getElem?.mp hq
    obtain ⟨-, hdecode⟩ := decode_drop_offset hk
    have hoffset : q.offset < 2 ^ 64 := by
      have hpos := decode_length_pos hdecode
      have hlength := decode_length_le hdecode
      have htotal := h _ text htext
      rw [List.length_drop] at hlength
      omega
    exact Listing.length_compact_lt hoffset (decode_length_le_four hdecode)
      (le_maxEncodable_of_mem (List.mem_map_of_mem hq))

/-! ## Runs -/

/-- The number of a result. -/
def Invocation.codeOf (result : Except Failure ExitCode) : Nat :=
  (Invocation.conclude result).1.number

theorem Invocation.exitCode_runWith (libraries : Libraries) (i : Invocation)
    (setting? : Option String) (s : Surroundings) :
    (i.runWith libraries setting? s).exitCode = codeOf (i.traceWith libraries s).result := by
  rw [runWith_eq]
  rfl

theorem Invocation.codeOf_of_isIo {f : Failure} (h : f.isIo = true) :
    codeOf (.error f) = 2 := by
  simp only [codeOf, conclude, h, if_true]
  rfl

namespace Encoding

variable {o : EncodeOptions} (hne : o.codepoints ≠ []) {c : Console}
include hne

theorem isIo_of_error {f : Failure} (hf : (encodeAll o c).result = .error f) : f.isIo = true := by
  rcases result_cases o hne c with
    ⟨-, hresult⟩ | ⟨-, ⟨-, f', hresult, hio⟩ | ⟨-, hresult⟩⟩
  · rw [hresult] at hf
    cases hf
  · rw [hresult, Except.error.injEq] at hf
    exact hf ▸ hio
  · rw [hresult] at hf
    cases hf

theorem codeOf_iff (c : Console) :
    let code := Invocation.codeOf (encodeAll o c).result
    (code = 1 ↔ ∃ cp ∈ o.codepoints, maxEncodable < cp)
      ∧ (code = 2 ↔ code ≠ 1 ∧ c.device = .full) := by
  intro code
  rcases result_cases o hne c with
    ⟨hrefused, hresult⟩ | ⟨hnone, ⟨hfull, f, hresult, hio⟩ | ⟨hready, hresult⟩⟩
  · have hcode : code = 1 := congrArg Invocation.codeOf hresult
    rw [hcode]
    exact ⟨iff_of_true rfl hrefused, iff_of_false (by decide) fun hnot => hnot.1 rfl⟩
  · have hcode : code = 2 :=
      (congrArg Invocation.codeOf hresult).trans (Invocation.codeOf_of_isIo hio)
    rw [hcode]
    exact ⟨iff_of_false (by decide) hnone, iff_of_true rfl ⟨by decide, hfull⟩⟩
  · have hcode : code = 0 := congrArg Invocation.codeOf hresult
    rw [hcode, hready]
    exact ⟨iff_of_false (by decide) hnone, by decide⟩

end Encoding

/-- A command that reads a text fails if the text cannot be read or its writing
is blocked, and otherwise tells whether the text can be decoded. -/
def Decides (text? : Option Bytes) (Blocked : Bytes → Prop)
    (result : Except Failure ExitCode) : Prop :=
  (∃ f, result = .error f ∧ f.isIo = true) ∧ (∀ text, text? = some text → Blocked text)
    ∨ ∃ text, text? = some text ∧ ¬ Blocked text
      ∧ result = .ok (if (ofBytes text).error? = none then .success else .invalid)

namespace Command

variable (s : Surroundings) (c : Console)

theorem decides_withInput (source : Source) (use : Input → Console → Outcome)
    (Blocked : Bytes → Prop)
    (hblocked : ∀ input, s.text? source = some input.text.bytes → Blocked input.text.bytes →
      ∃ f, (use input c).result = .error f ∧ f.isIo = true)
    (hfree : ∀ input, ¬ Blocked input.text.bytes →
      (use input c).result
        = .ok (if (ofBytes input.text.bytes).error? = none then .success else .invalid)) :
    Decides (s.text? source) Blocked (withInput s source c use).result := by
  rw [withInput]
  cases hread : s.contents source with
  | error e =>
    have htext : s.text? source = none := by rw [Surroundings.text?, hread]
    rw [htext]
    exact .inl ⟨⟨_, rfl, rfl⟩, fun _ h => by cases h⟩
  | ok raw =>
    have htext : s.text? source = some (beforeNul raw) := by rw [Surroundings.text?, hread]
    by_cases hblock : Blocked (beforeNul raw)
    · refine .inl ⟨hblocked (Input.ofBytes source raw) htext hblock, ?_⟩
      rw [htext]
      intro text heq
      cases heq
      exact hblock
    · exact .inr ⟨beforeNul raw, htext, hblock, hfree (Input.ofBytes source raw) hblock⟩

theorem decides_print (o : PrintOptions) :
    Decides (s.text? (.ofPath? o.file?))
      (fun text => c.device = .full ∧ ¬ (text = [] ∧ o.noNewline = true))
      (withInput s (.ofPath? o.file?) c (Print.printInput o)).result := by
  refine decides_withInput s c _ _ _ ?_ ?_
  · rintro input - ⟨hdevice, hsomething⟩
    exact Print.result_of_full o input hdevice hsomething
  · intro input hfree
    cases hdevice : c.device with
    | accepting => exact Print.result_of_accepting o input hdevice
    | full =>
      have hnothing : input.text.bytes = [] ∧ o.noNewline = true := by
        by_contra hsomething
        exact hfree ⟨hdevice, hsomething⟩
      rw [Print.result_of_nothing hnothing.1 hnothing.2, hnothing.1]
      rfl

theorem decides_list {json : Json.Serializer} (hjson : json.Lawful) {o : ListOptions}
    (hroom : HasRoom json s (.list o)) :
    Decides (s.text? (.ofPath? o.file?))
      (fun text => c.device = .full ∧ (ofBytes text).sequences ≠ [])
      (withInput s (.ofPath? o.file?) c (Listing.listInput json o)).result := by
  refine decides_withInput s c _ _ _ ?_ ?_
  · rintro input htext ⟨hdevice, hsequences⟩
    refine Listing.result_of_full hdevice hsequences ?_
    intro hformat q hq
    exact ⟨hjson.lineFeed_not_mem _, hroom hformat _ htext q hq⟩
  · intro input hfree
    cases hdevice : c.device with
    | accepting => exact Listing.result_of_accepting json o input hdevice
    | full =>
      have hnothing : (ofBytes input.text.bytes).sequences = [] := by
        by_contra hsequences
        exact hfree ⟨hdevice, hsequences⟩
      exact Listing.result_of_nothing hnothing c

end Command

section
variable {text? : Option Bytes} {Blocked : Bytes → Prop} {result : Except Failure ExitCode}
  (h : Decides text? Blocked result)
include h

theorem Decides.codeOf_eq_two_iff :
    Invocation.codeOf result = 2 ↔ ∀ text, text? = some text → Blocked text := by
  rcases h with ⟨⟨f, rfl, hf⟩, hblocked⟩ | ⟨text, htext, hfree, rfl⟩
  · exact iff_of_true (Invocation.codeOf_of_isIo hf) hblocked
  · refine iff_of_false ?_ fun hblocked => hfree (hblocked text htext)
    split <;> decide

theorem Decides.codeOf_eq_one_iff :
    Invocation.codeOf result = 1
      ↔ Invocation.codeOf result ≠ 2 ∧ ∃ text e, text? = some text ∧ .error e ∈ items text := by
  rcases h with ⟨⟨f, rfl, hf⟩, -⟩ | ⟨text, rfl, -, rfl⟩
  · rw [Invocation.codeOf_of_isIo hf]
    simp
  · simp only [error_mem_items_iff, Option.some.injEq, exists_and_left, exists_eq_left',
      ← Option.ne_none_iff_exists']
    by_cases herror : (ofBytes text).error? = none
    · rw [if_pos herror]
      exact iff_of_false (by decide) fun hone => hone.2 herror
    · rw [if_neg herror]
      exact iff_of_true (by decide) ⟨by decide, herror⟩

theorem Decides.isIo {f : Failure} (hf : result = .error f) : f.isIo = true := by
  rcases h with ⟨⟨f', hf', hio⟩, -⟩ | ⟨text, -, -, hok⟩
  · rw [hf', Except.error.injEq] at hf
    exact hf ▸ hio
  · rw [hok] at hf
    cases hf

end

theorem Invocation.codeOf_le_two (result : Except Failure ExitCode) : codeOf result ≤ 2 := by
  rw [codeOf]
  cases (conclude result).1 <;> decide

/-- **The exit code** of every command line that is accepted, whatever accepts it, so long
as something is named to be encoded. Printing a text gives 2 exactly if it cannot be read, or
the standard output is full and something has to be written; listing it, if the text begins
with a codepoint instead; and otherwise both give 1 exactly if the text cannot be decoded.
Encoding gives 1 exactly if a codepoint is refused, and otherwise 2 exactly if the standard
output is full. Nothing but reading and writing fails. -/
theorem exitCode_of_parse {Argument : Type} {parse : List Argument → Option Invocation}
    (hparse : ∀ arguments i o, parse arguments = some i → i.command = .encode o →
      o.codepoints ≠ [])
    (libraries : Libraries) (hjson : libraries.json.Lawful) {arguments : List Argument}
    {i : Invocation} (h : parse arguments = some i) (setting? : Option String)
    {s : Surroundings} (hroom : i.command.HasRoom libraries.json s) :
    let code := (i.runWith libraries setting? s).exitCode
    code ≤ 2
      ∧ (∀ f, (i.traceWith libraries s).result = .error f → f.isIo = true)
      ∧ (∀ o, i.command = .print o →
        let text? := s.text? (.ofPath? o.file?)
        (code = 2 ↔ text? = none
            ∨ s.device = .full ∧ ¬ (text? = some [] ∧ o.noNewline = true))
          ∧ (code = 1 ↔ code ≠ 2 ∧ ∃ text e, text? = some text ∧ .error e ∈ items text))
      ∧ (∀ o, i.command = .list o →
        let text? := s.text? (.ofPath? o.file?)
        (code = 2 ↔ text? = none
            ∨ s.device = .full
              ∧ ∃ text cp rest, text? = some text ∧ items text = .codepoint cp :: rest)
          ∧ (code = 1 ↔ code ≠ 2 ∧ ∃ text e, text? = some text ∧ .error e ∈ items text))
      ∧ ∀ o, i.command = .encode o →
        (code = 1 ↔ ∃ cp ∈ o.codepoints, maxEncodable < cp)
          ∧ (code = 2 ↔ code ≠ 1 ∧ s.device = .full) := by
  have hne := hparse arguments i
  obtain ⟨verbosity, command⟩ := i
  intro code
  let c := s.console fun _ => true
  have hcode : code = Invocation.codeOf (command.run libraries.json (fun _ => true) s).result :=
    Invocation.exitCode_runWith libraries _ setting? s
  refine ⟨Invocation.codeOf_le_two _, ?_, ?_, ?_, ?_⟩
  · intro f hf
    cases command with
    | print o => exact (Command.decides_print s c o).isIo hf
    | list o => exact (Command.decides_list s c hjson hroom).isIo hf
    | encode o => exact Encoding.isIo_of_error (hne o h rfl) hf
  · rintro o rfl
    have hprint := Command.decides_print s c o
    refine ⟨?_, hcode ▸ hprint.codeOf_eq_one_iff⟩
    rw [hcode]
    refine hprint.codeOf_eq_two_iff.trans ?_
    cases s.text? (.ofPath? o.file?) <;> simp [c, Surroundings.console]
  · rintro o rfl
    have hlist := Command.decides_list s c hjson hroom
    refine ⟨?_, hcode ▸ hlist.codeOf_eq_one_iff⟩
    rw [hcode]
    refine hlist.codeOf_eq_two_iff.trans ?_
    cases s.text? (.ofPath? o.file?) with
    | none => simp
    | some text => simp [exists_items_eq_codepoint_cons_iff, c, Surroundings.console]
  · rintro o rfl
    rw [hcode]
    exact Encoding.codeOf_iff (hne o h rfl) c

/-- A text that breaks off after a letter: with the standard output full the failure to write
hides that it cannot be decoded, with all of it taken it does not. The same text ends in a
failure to write if it is listed with objects, which are held back whole. -/
theorem exitCode_of_print_broken_note :
    let i : Invocation := ⟨1, .print ⟨some "note.txt", true, ⟨true, false, false⟩⟩⟩
    let j : Invocation := ⟨0, .list ⟨none, .json, ⟨true, false, false⟩⟩⟩
    let onto : Device → Surroundings :=
      fun device => ⟨fun _ => .ok [0x41, 0xE2, 0x82], device, true⟩
    (∀ arguments i o, CommandLine.parse arguments = some i → i.command = .encode o →
        o.codepoints ≠ [])
      ∧ Json.compact.Lawful
      ∧ CommandLine.parse ["-v", "print", "-nq", "note.txt"] = some i
      ∧ CommandLine.parse ["codepoints", "-qf", "json"] = some j
      ∧ (∀ device, i.command.HasRoom Json.compact (onto device)
        ∧ j.command.HasRoom Json.compact (onto device))
      ∧ (i.run none (onto .full)).exitCode = 2
      ∧ (i.run none (onto .accepting)).exitCode = 1
      ∧ (j.run none (onto .full)).exitCode = 2 := by
  intro i j onto
  have hnamed : ∀ arguments i o, CommandLine.parse arguments = some i → i.command = .encode o →
      o.codepoints ≠ [] :=
    fun _ _ _ hparse hcommand => CommandLine.codepoints_ne_nil_of_parseAfter hparse hcommand
  have hi : CommandLine.parse ["-v", "print", "-nq", "note.txt"] = some i := rfl
  have hj : CommandLine.parse ["codepoints", "-qf", "json"] = some j := rfl
  have hshort (device : Device) :
      ∀ source text, (onto device).text? source = some text → text.length < 2 ^ 64 := by
    intro source text htext
    cases htext
    show 3 < 2 ^ 64
    decide
  have hroom (device : Device) (command : Command) :
      command.HasRoom Libraries.standard.json (onto device) :=
    Command.hasRoom_compact (hshort device) command
  have hprint (device : Device) :=
    (exitCode_of_parse hnamed .standard Json.compact_lawful hi none
      (hroom device _)).2.2.1 _ rfl
  have hlist :=
    (exitCode_of_parse hnamed .standard Json.compact_lawful hj none
      (hroom .full _)).2.2.2.1 _ rfl
  refine ⟨hnamed, Json.compact_lawful, hi, hj, fun device => ⟨hroom device _, hroom device _⟩,
    ?_, ?_, ?_⟩
  · refine (hprint .full).1.mpr (.inr ⟨rfl, ?_⟩)
    rintro ⟨htext, -⟩
    cases htext
  · refine (hprint .accepting).2.mpr
      ⟨?_, [0x41, 0xE2, 0x82], ⟨.truncatedSequence, 1, 0xE2⟩, rfl, by decide⟩
    intro hcode
    rcases (hprint .accepting).1.mp hcode with htext | ⟨hdevice, -⟩
    · cases htext
    · cases hdevice
  · exact hlist.1.mpr (.inr ⟨rfl, [0x41, 0xE2, 0x82], 0x41, _, rfl, rfl⟩)

end Utf8Text
