import Utf8Text.Command.Run
import Utf8Text.Proofs.Sink.Full

/-!
# The results of the commands

What printing, listing and encoding come to on a standard output that takes
everything, and on a full one. On the first they run to their end; on the second
they fail as soon as something has to go out, and every byte that is written has
to in the end.
-/

namespace Utf8Text

open Decoding

/-! ## Printing -/

namespace Print

theorem endLine_of_full {w : LineBuffered} (h : w.device = .full) :
    ∃ e w', endLine w = (.error e, w') := by
  obtain ⟨w', hwrite⟩ := LineBuffered.writeAll_of_full_of_mem h (List.mem_singleton_self lineFeed)
  rw [endLine, hwrite]
  exact ⟨_, _, rfl⟩

theorem endLine_of_accepting {w : LineBuffered} (h : w.device = .accepting) :
    ∃ w', endLine w = (.ok (), w') ∧ w'.finish = w.output ++ w.pending ++ [lineFeed] := by
  obtain ⟨w₁, hwrite, hdevice, houtput⟩ := LineBuffered.writeAll_of_accepting h [lineFeed]
  obtain ⟨w', hdrain, hfinish⟩ := LineBuffered.exists_drain_of_accepting hdevice
  rw [endLine, hwrite, Written.andThen_ok]
  exact ⟨w', hdrain, by rw [hfinish, houtput]⟩

/-- Nothing is written for an empty text without a line feed. -/
theorem result_of_nothing {o : PrintOptions} {input : Input} (htext : input.text.bytes = [])
    (hnewline : o.noNewline = true) (c : Console) :
    (printInput o input c).result = .ok .success := by
  have hwrite : (Sink.onto (LineBuffered.onto c.device)).writeText []
      = (.ok 0, Sink.onto (LineBuffered.onto c.device)) := rfl
  have hflush : (Sink.onto (LineBuffered.onto c.device)).flush
      = (.ok (), Sink.onto (LineBuffered.onto c.device)) := rfl
  simp only [printInput, htext, hnewline, if_true, hwrite, hflush]

/-- Writing an input as it is asked for: the text, or the text as a line. -/
def sent (o : PrintOptions) (input : Input) (device : Device) :
    Except SinkError Nat × Sink LineBuffered :=
  if o.noNewline then (Sink.onto (LineBuffered.onto device)).writeText input.text.bytes
  else (Sink.onto (LineBuffered.onto device)).writeLine input.text.bytes

section
variable (o : PrintOptions) (input : Input)

/-- On a full device only a text without a line feed can be written, which is
then all held back. -/
theorem sent_of_full :
    (∃ e s', sent o input .full = (.error (.decode e), s') ∧ s'.writer.device = .full)
      ∨ (∃ e s', sent o input .full = (.error (.write e), s'))
      ∨ o.noNewline = true ∧ (ofBytes input.text.bytes).error? = none
        ∧ ∃ count s', sent o input .full = (.ok count, s') ∧ s'.writer.device = .full
          ∧ s'.writer.pending = encodings (ofBytes input.text.bytes).codepoints := by
  have hdevice : (Sink.onto (LineBuffered.onto .full)).writer.device = .full := rfl
  rw [sent]
  cases o.noNewline with
  | false =>
    rcases Sink.writeLine_of_full hdevice input.text.bytes with hdecode | hwrite
    · exact .inl hdecode
    · exact .inr (.inl hwrite)
  | true =>
    rcases Sink.writeText_of_full hdevice input.text.bytes with
      ⟨s', hwrite, hfull, hpending⟩ | hwrite
    · cases herror : (ofBytes input.text.bytes).error? with
      | some e =>
        rw [herror] at hwrite
        exact .inl ⟨e, s', hwrite, hfull⟩
      | none =>
        rw [herror] at hwrite
        exact .inr (.inr ⟨rfl, rfl, _, s', hwrite, hfull, hpending⟩)
    · exact .inr (.inl hwrite)

theorem sent_of_accepting :
    ∃ s', sent o input .accepting
        = ((ofBytes input.text.bytes).error?.elim
            (.ok (ofBytes input.text.bytes).codepoints.length) fun e => .error (.decode e), s')
      ∧ s'.writer.device = .accepting
      ∧ s'.writer.output ++ s'.writer.pending = encodings (ofBytes input.text.bytes).codepoints
        ++ if (ofBytes input.text.bytes).error? = none ∧ o.noNewline = false then [lineFeed]
          else [] := by
  have hdevice : (Sink.onto (LineBuffered.onto .accepting)).writer.device = .accepting := rfl
  have hempty : (Sink.onto (LineBuffered.onto .accepting)).writer.output
      ++ (Sink.onto (LineBuffered.onto .accepting)).writer.pending = [] := rfl
  rw [sent]
  cases o.noNewline with
  | true =>
    obtain ⟨w', hwrite, hready, houtput⟩ :=
      Sink.writeText_of_takesAll LineBuffered.takesAll hdevice input.text.bytes
    rw [hempty, List.nil_append] at houtput
    exact ⟨_, hwrite, hready, by simpa using houtput⟩
  | false =>
    obtain ⟨s', hwrite, hready, houtput⟩ :=
      Sink.writeLine_of_takesAll LineBuffered.takesAll hdevice input.text.bytes
    rw [hempty, List.nil_append] at houtput
    exact ⟨s', hwrite, hready, by simpa using houtput⟩

theorem result_of_full {c : Console} (hdevice : c.device = .full)
    (h : ¬ (input.text.bytes = [] ∧ o.noNewline = true)) :
    ∃ f, (printInput o input c).result = .error f ∧ f.isIo = true := by
  rcases sent_of_full o input with
    ⟨e, s', hsent, hfull⟩ | ⟨e, s', hsent⟩ | ⟨hnewline, herror, count, s', hsent, hfull, hpending⟩
  · obtain ⟨failure, w', hend⟩ := endLine_of_full hfull
    rw [sent] at hsent
    refine ⟨.output failure, ?_, rfl⟩
    simp only [printInput, hdevice, hsent, hend]
  · rw [sent] at hsent
    refine ⟨.sink (.write e), ?_, rfl⟩
    simp only [printInput, hdevice, hsent]
  · -- all of the text is held back, and does not get out
    have hne : input.text.bytes ≠ [] := fun htext => h ⟨htext, hnewline⟩
    have hheld : s'.writer.pending ≠ [] := by
      rw [hpending]
      exact Sink.encodings_ne_nil herror hne
    obtain ⟨e, s₂, hflush⟩ := Sink.flush_of_full hfull hheld
    rw [sent] at hsent
    refine ⟨.sink (.write e), ?_, rfl⟩
    simp only [printInput, hdevice, hsent, hflush]

/-- **Printing** on a device that takes everything: the codepoints are encoded,
a line feed ends them unless it is not wanted and all of the text was decoded,
and an error is reported. -/
theorem printInput_of_accepting {c : Console} (hdevice : c.device = .accepting) :
    let read := ofBytes input.text.bytes
    let outcome := printInput o input c
    outcome.result = .ok (if read.error? = none then .success else .invalid)
      ∧ outcome.stdout = encodings read.codepoints
        ++ (if read.error? = none ∧ o.noNewline = true then [] else [lineFeed])
      ∧ outcome.stderr = read.error?.elim [] fun e => (reportError o.report input c e).1 := by
  intro read outcome
  obtain ⟨s', hsent, hready, houtput⟩ := sent_of_accepting o input
  rw [sent] at hsent
  cases herror : (ofBytes input.text.bytes).error? with
  | none =>
    obtain ⟨w', hdrain, hfinish⟩ := LineBuffered.exists_drain_of_accepting hready
    have hflush : s'.flush = (.ok (), ⟨w', s'.written⟩) := by
      simp only [Sink.flush, Writer.flush, hdrain]
    simp only [herror, Option.elim_none, true_and] at hsent houtput
    simp only [read, outcome, printInput, hdevice, hsent, hflush, true_and]
    refine ⟨rfl, ?_, rfl⟩
    rw [hfinish, houtput]
    cases o.noNewline with
    | false => rfl
    | true => rfl
  | some e =>
    obtain ⟨w', hend, hfinish⟩ := endLine_of_accepting hready
    simp only [herror, Option.elim_some, reduceCtorEq, false_and, if_false, List.append_nil]
      at hsent houtput
    simp only [read, outcome, printInput, hdevice, hsent, hend]
    refine ⟨rfl, ?_, rfl⟩
    rw [hfinish, houtput]
    rfl

theorem result_of_accepting {c : Console} (hdevice : c.device = .accepting) :
    (printInput o input c).result
      = .ok (if (ofBytes input.text.bytes).error? = none then .success else .invalid) :=
  (printInput_of_accepting o input hdevice).1

end

end Print

/-! ## Listing -/

namespace Listing

theorem lineFeed_mem_utf8 (line : List Char) : lineFeed ∈ utf8 (line ++ ['\n']) := by
  rw [utf8, List.flatMap_append]
  exact List.mem_append_right _ (by decide)

/-- The bytes of the line of a record. -/
def Record.bytes (json : Json.Serializer) (r : Record) : ListingFormat → Bytes
  | .text => utf8 (r.text ++ ['\n'])
  | .json => (json r.members).flatten ++ [lineFeed]

/-! ### With room for an object -/

/-- An object that ends no line and fits into an empty buffer is held back. -/
theorem writePieces_of_room {w : LineBuffered} {pieces : List Bytes}
    (hline : lineFeed ∉ pieces.flatten)
    (hroom : w.pending.length + pieces.flatten.length < LineBuffered.capacity) :
    writePieces w pieces = (.ok (), { w with pending := w.pending ++ pieces.flatten }) := by
  induction pieces generalizing w with
  | nil => simp [writePieces]
  | cons piece pieces ih =>
    rw [List.flatten_cons, List.mem_append, not_or] at hline
    rw [List.flatten_cons, List.length_append] at hroom
    have hpiece := LineBuffered.writeAll_of_room hline.1 (w := w) (by omega)
    rw [writePieces, hpiece, Written.andThen_ok, ih hline.2]
    · simp
    · rw [List.length_append]
      omega

/-- Before a full device the line of a record fails, and if its object fits into the
buffer it fails with an error of writing. -/
theorem writeRecord_of_full {json : Json.Serializer} {format : ListingFormat} {w : LineBuffered}
    {r : Record} (hdevice : w.device = .full) (hpending : w.pending = [])
    (hroom : format = .json → lineFeed ∉ (json r.members).flatten
      ∧ (json r.members).flatten.length < LineBuffered.capacity) :
    ∃ f w', writeRecord json format w r = (.error f, w') ∧ f.isIo = true := by
  cases format with
  | text =>
    obtain ⟨w', hwrite⟩ := LineBuffered.writeAll_of_full_of_mem hdevice (lineFeed_mem_utf8 r.text)
    exact ⟨.output .noSpace, w', by simp only [writeRecord, hwrite], rfl⟩
  | json =>
    obtain ⟨hline, hlength⟩ := hroom rfl
    have hpieces := writePieces_of_room (w := w) hline (by rw [hpending]; simpa using hlength)
    obtain ⟨w', hend⟩ := LineBuffered.writeAll_of_full_of_mem
      (w := { w with pending := w.pending ++ (json r.members).flatten }) hdevice
      (List.mem_singleton_self lineFeed)
    exact ⟨.output .noSpace, w', by simp only [writeRecord, hpieces, hend], rfl⟩

theorem result_of_full {json : Json.Serializer} {o : ListOptions} {input : Input} {c : Console}
    (hdevice : c.device = .full) (h : (ofBytes input.text.bytes).sequences ≠ [])
    (hroom : o.format = .json → ∀ s ∈ (ofBytes input.text.bytes).sequences,
      let object := (json (Record.ofSequence s).members).flatten
      lineFeed ∉ object ∧ object.length < LineBuffered.capacity) :
    ∃ f, (listInput json o input c).result = .error f ∧ f.isIo = true := by
  obtain ⟨s, sequences, hsequences⟩ := List.exists_cons_of_ne_nil h
  have hfits : o.format = .json →
      lineFeed ∉ (json (Record.ofSequence s).members).flatten
        ∧ (json (Record.ofSequence s).members).flatten.length < LineBuffered.capacity :=
    fun hformat => hroom hformat s (by simp [hsequences])
  obtain ⟨f, w', hwrite, hio⟩ :=
    writeRecord_of_full (w := LineBuffered.onto .full) rfl rfl hfits
  refine ⟨f, ?_, hio⟩
  simp only [listInput, hdevice, hsequences, List.map_cons, writeRecords, hwrite]

/-- Without a codepoint nothing is written. -/
theorem result_of_nothing {json : Json.Serializer} {o : ListOptions} {input : Input}
    (h : (ofBytes input.text.bytes).sequences = []) (c : Console) :
    (listInput json o input c).result
      = .ok (if (ofBytes input.text.bytes).error? = none then .success else .invalid) := by
  have hdrain : (LineBuffered.onto c.device).drain = (.ok (), LineBuffered.onto c.device) := rfl
  simp only [listInput, h, List.map_nil, writeRecords, hdrain]
  cases (ofBytes input.text.bytes).error? <;> rfl

/-! ### On a device that takes everything -/

section
variable {w : LineBuffered} (h : w.device = .accepting)
include h

theorem writePieces_of_accepting (pieces : List Bytes) :
    ∃ w', writePieces w pieces = (.ok (), w') ∧ w'.device = .accepting
      ∧ w'.output ++ w'.pending = w.output ++ w.pending ++ pieces.flatten := by
  induction pieces generalizing w with
  | nil => exact ⟨w, rfl, h, by simp⟩
  | cons piece pieces ih =>
    obtain ⟨w₁, hwrite, hdevice, houtput⟩ := LineBuffered.writeAll_of_accepting h piece
    obtain ⟨w₂, hrest, hdevice₂, houtput₂⟩ := ih hdevice
    rw [writePieces, hwrite, Written.andThen_ok]
    refine ⟨w₂, hrest, hdevice₂, ?_⟩
    rw [houtput₂, houtput, List.flatten_cons, List.append_assoc]

theorem writeRecord_of_accepting (json : Json.Serializer) (format : ListingFormat) (r : Record) :
    ∃ w', writeRecord json format w r = (.ok (), w') ∧ w'.device = .accepting
      ∧ w'.output ++ w'.pending = w.output ++ w.pending ++ r.bytes json format := by
  cases format with
  | text =>
    obtain ⟨w', hwrite, hready⟩ := LineBuffered.writeAll_of_accepting h (utf8 (r.text ++ ['\n']))
    exact ⟨w', by simp only [writeRecord, hwrite], hready⟩
  | json =>
    obtain ⟨w₁, hpieces, hdevice, houtput⟩ := writePieces_of_accepting h (json r.members)
    obtain ⟨w', hend, hdevice', houtput'⟩ :=
      LineBuffered.writeAll_of_accepting hdevice [lineFeed]
    refine ⟨w', by simp only [writeRecord, hpieces, hend], hdevice', ?_⟩
    rw [houtput', houtput, Record.bytes, List.append_assoc]

theorem writeRecords_of_accepting (json : Json.Serializer) (format : ListingFormat)
    (records : List Record) :
    ∃ w', writeRecords json format w records = (.ok (), w') ∧ w'.device = .accepting
      ∧ w'.output ++ w'.pending
        = w.output ++ w.pending ++ records.flatMap fun r => r.bytes json format := by
  induction records generalizing w with
  | nil => exact ⟨w, rfl, h, by simp⟩
  | cons r records ih =>
    obtain ⟨w₁, hwrite, hdevice, houtput⟩ := writeRecord_of_accepting h json format r
    obtain ⟨w₂, hrest, hdevice₂, houtput₂⟩ := ih hdevice
    simp only [writeRecords, hwrite]
    refine ⟨w₂, hrest, hdevice₂, ?_⟩
    rw [houtput₂, houtput, List.flatMap_cons, List.append_assoc]

end

/-- **Listing** on a device that takes everything: a line for each sequence, and
an error is reported. -/
theorem listInput_of_accepting (json : Json.Serializer) (o : ListOptions) (input : Input)
    {c : Console} (hdevice : c.device = .accepting) :
    let read := ofBytes input.text.bytes
    let outcome := listInput json o input c
    outcome.result = .ok (if read.error? = none then .success else .invalid)
      ∧ outcome.stdout
        = read.sequences.flatMap (fun s => (Record.ofSequence s).bytes json o.format)
      ∧ outcome.stderr = read.error?.elim [] fun e => (reportError o.report input c e).1 := by
  intro read outcome
  obtain ⟨w₁, hwrite, hready, houtput⟩ := writeRecords_of_accepting
    (w := LineBuffered.onto .accepting) rfl json o.format
    ((ofBytes input.text.bytes).sequences.map Record.ofSequence)
  obtain ⟨w', hdrain, hfinish⟩ := LineBuffered.exists_drain_of_accepting hready
  have hempty : (LineBuffered.onto .accepting).output ++ (LineBuffered.onto .accepting).pending
      = [] := rfl
  rw [houtput, hempty, List.nil_append, List.flatMap_map] at hfinish
  simp only [read, outcome, listInput, hdevice, hwrite, hdrain]
  cases (ofBytes input.text.bytes).error? with
  | none => exact ⟨rfl, hfinish, rfl⟩
  | some e => exact ⟨rfl, hfinish, rfl⟩

theorem result_of_accepting (json : Json.Serializer) (o : ListOptions) (input : Input)
    {c : Console} (hdevice : c.device = .accepting) :
    (listInput json o input c).result
      = .ok (if (ofBytes input.text.bytes).error? = none then .success else .invalid) :=
  (listInput_of_accepting json o input hdevice).1

end Listing

/-! ## Encoding -/

namespace Encoding

/-- What is refused is the first codepoint that is too great. -/
theorem firstRefused?_eq (cps : List Nat) :
    firstRefused? cps = (cps.find? (maxEncodable < ·)).map EncodeError.mk := by
  induction cps with
  | nil => rfl
  | cons cp cps ih =>
    rw [firstRefused?]
    rcases Nat.lt_or_ge maxEncodable cp with hgt | hle
    · rw [List.find?_cons_of_pos (by simpa using hgt)]
      simp only [(encode_eq_error hgt).1, Option.map_some]
    · rw [List.find?_cons_of_neg (by simpa using hle), ← ih]
      simp only [encode_eq_ok hle]

theorem firstRefused?_eq_none_iff (cps : List Nat) :
    firstRefused? cps = none ↔ ∀ cp ∈ cps, cp ≤ maxEncodable := by
  rw [firstRefused?_eq, Option.map_eq_none_iff, List.find?_eq_none]
  simp only [decide_eq_true_eq, Nat.not_lt]

/-- Codepoints are written as the items of a text are. -/
theorem writeCodepoints_eq (s : Sink LineBuffered) (cps : List Nat) (count : Nat) :
    writeCodepoints s cps
      = ((s.writeItems count (cps.map .codepoint)).1.map fun _ => (),
          (s.writeItems count (cps.map .codepoint)).2) := by
  induction cps generalizing s count with
  | nil => rfl
  | cons cp cps ih =>
    simp only [writeCodepoints, List.map_cons, Sink.writeItems]
    rcases s.writeCodepoint cp with ⟨answer, s₁⟩
    cases answer with
    | error e => rfl
    | ok n => exact ih s₁ (count + 1)

/-- The line of a codepoint that can be encoded: its name, and the bytes of its
encoding in hexadecimal, with a blank between two of them. -/
def lineOf (cp : Nat) : List Char :=
  Listing.codepointName cp ++ "  ".toList ++ [' '].intercalate ((encoding cp).map Numeral.hexByte)

theorem line_eq_ok {cp : Nat} (h : cp ≤ maxEncodable) : line cp = .ok (lineOf cp) := by
  rw [line, encode_eq_ok h]
  rfl

section
variable {cps : List Nat} (hcps : ∀ cp ∈ cps, cp ≤ maxEncodable) {c : Console}
include hcps

theorem raw_of_full (hne : cps ≠ []) (hdevice : c.device = .full) :
    ∃ f, (encodeRaw cps c).result = .error f ∧ f.isIo = true := by
  have hwritten := writeCodepoints_eq (Sink.onto (LineBuffered.onto .full)) cps 0
  have hcases := Sink.writeItems_of_full (s := Sink.onto (LineBuffered.onto .full)) rfl hcps none 0
  rw [Option.toList_none, List.map_nil, List.append_nil] at hcases
  rcases hcases with ⟨s', hwrite, hfull, hpending⟩ | ⟨e, s', hwrite⟩
  · have hheld : s'.writer.pending ≠ [] := by
      rw [hpending]
      exact Sink.encodings_ne_nil_of_mem hcps hne
    obtain ⟨e, s₂, hflush⟩ := Sink.flush_of_full hfull hheld
    rw [hwrite] at hwritten
    refine ⟨.sink (.write e), ?_, rfl⟩
    simp only [encodeRaw, hdevice, hwritten, Option.elim, Except.map, hflush]
  · rw [hwrite] at hwritten
    refine ⟨.sink (.write e), ?_, rfl⟩
    simp only [encodeRaw, hdevice, hwritten, Except.map]

/-- **Encoding** on a device that takes everything writes the encodings, and nothing
to the standard error stream. -/
theorem encodeRaw_of_accepting (hdevice : c.device = .accepting) :
    let outcome := encodeRaw cps c
    outcome.result = .ok .success ∧ outcome.stdout = encodings cps ∧ outcome.stderr = [] := by
  intro outcome
  have hwritten := writeCodepoints_eq (Sink.onto (LineBuffered.onto .accepting)) cps 0
  obtain ⟨w', hwrite, hready, houtput⟩ := Sink.writeItems_of_takesAll LineBuffered.takesAll hcps
    none (s := Sink.onto (LineBuffered.onto .accepting)) rfl 0
  rw [Option.toList_none, List.map_nil, List.append_nil] at hwrite
  rw [hwrite] at hwritten
  obtain ⟨w₂, hdrain, hfinish⟩ := LineBuffered.exists_drain_of_accepting hready
  simp only [outcome, encodeRaw, hdevice, hwritten, Option.elim, Except.map, Sink.flush,
    Writer.flush, hdrain, true_and, and_true]
  rw [hfinish, houtput]
  rfl

/-- The lines of codepoints that can all be encoded are written one after the other. -/
theorem writeLines_of_accepting {w : LineBuffered} (hdevice : w.device = .accepting) :
    ∃ w', writeLines w cps = (.ok (), w') ∧ w'.device = .accepting
      ∧ w'.output ++ w'.pending
        = w.output ++ w.pending ++ cps.flatMap fun cp => utf8 (lineOf cp ++ ['\n']) := by
  induction cps generalizing w with
  | nil => exact ⟨w, rfl, hdevice, by simp⟩
  | cons cp cps ih =>
    obtain ⟨w₁, hwrite, hready, houtput⟩ :=
      LineBuffered.writeAll_of_accepting hdevice (utf8 (lineOf cp ++ ['\n']))
    obtain ⟨w₂, hrest, hready₂, houtput₂⟩ := ih (fun x hx => hcps x (by simp [hx])) hready
    simp only [writeLines, line_eq_ok (hcps cp (by simp)), hwrite]
    refine ⟨w₂, hrest, hready₂, ?_⟩
    rw [houtput₂, houtput, List.flatMap_cons, List.append_assoc]

theorem listing_of_full (hne : cps ≠ []) (hdevice : c.device = .full) :
    ∃ f, (encodeListing cps c).result = .error f ∧ f.isIo = true := by
  obtain ⟨cp, rest, rfl⟩ := List.exists_cons_of_ne_nil hne
  obtain ⟨w', hwrite⟩ := LineBuffered.writeAll_of_full_of_mem
    (w := LineBuffered.onto .full) rfl (Listing.lineFeed_mem_utf8 (lineOf cp))
  refine ⟨.listing .noSpace, ?_, rfl⟩
  simp only [encodeListing, hdevice, writeLines, line_eq_ok (hcps cp (by simp)), hwrite]

/-- **Encoding with a listing** on a device that takes everything writes a line for
each codepoint, and nothing to the standard error stream. -/
theorem encodeListing_of_accepting (hdevice : c.device = .accepting) :
    let outcome := encodeListing cps c
    outcome.result = .ok .success
      ∧ outcome.stdout = cps.flatMap (fun cp => utf8 (lineOf cp ++ ['\n']))
      ∧ outcome.stderr = [] := by
  intro outcome
  obtain ⟨w₁, hwrite, hready, houtput⟩ := writeLines_of_accepting hcps
    (w := LineBuffered.onto .accepting) rfl
  obtain ⟨w', hdrain, hfinish⟩ := LineBuffered.exists_drain_of_accepting hready
  simp only [outcome, encodeListing, hdevice, hwrite, hdrain, true_and, and_true]
  rw [hfinish, houtput]
  rfl

end

section
variable {o : EncodeOptions}

theorem encodeAll_of_refused {cp : Nat} (h : o.codepoints.find? (maxEncodable < ·) = some cp)
    (c : Console) :
    encodeAll o c
      = ⟨.ok .invalid, [], "error: ".toList ++ (EncodeError.mk cp).message ++ ['\n'], []⟩ := by
  simp only [encodeAll, firstRefused?_eq, h, Option.map_some]

variable (hcps : ∀ cp ∈ o.codepoints, cp ≤ maxEncodable)
include hcps

theorem encodeAll_of_encodable (c : Console) :
    encodeAll o c
      = if o.raw then encodeRaw o.codepoints c else encodeListing o.codepoints c := by
  simp only [encodeAll, (firstRefused?_eq_none_iff _).mpr hcps]

theorem encodeAll_of_accepting {c : Console} (hdevice : c.device = .accepting) :
    let outcome := encodeAll o c
    outcome.result = .ok .success
      ∧ outcome.stdout
        = (if o.raw then encodings o.codepoints
            else o.codepoints.flatMap fun cp => utf8 (lineOf cp ++ ['\n']))
      ∧ outcome.stderr = [] := by
  intro outcome
  have houtcome : outcome = _ := encodeAll_of_encodable hcps c
  rw [houtcome]
  cases o.raw with
  | true => exact encodeRaw_of_accepting hcps hdevice
  | false => exact encodeListing_of_accepting hcps hdevice

end

/-- A codepoint that is refused settles the matter; otherwise there is something
to write. -/
theorem result_cases (o : EncodeOptions) (hne : o.codepoints ≠ []) (c : Console) :
    (∃ cp ∈ o.codepoints, maxEncodable < cp) ∧ (encodeAll o c).result = .ok .invalid
      ∨ (¬ ∃ cp ∈ o.codepoints, maxEncodable < cp)
        ∧ (c.device = .full ∧ (∃ f, (encodeAll o c).result = .error f ∧ f.isIo = true)
          ∨ c.device = .accepting ∧ (encodeAll o c).result = .ok .success) := by
  cases hrefused : o.codepoints.find? (maxEncodable < ·) with
  | some cp =>
    have hgt : maxEncodable < cp := by simpa using List.find?_some hrefused
    refine .inl ⟨⟨cp, List.mem_of_find?_eq_some hrefused, hgt⟩, ?_⟩
    rw [encodeAll_of_refused hrefused]
  | none =>
    have hcps : ∀ cp ∈ o.codepoints, cp ≤ maxEncodable := by
      rw [← firstRefused?_eq_none_iff, firstRefused?_eq, hrefused]
      rfl
    have hnone : ¬ ∃ cp ∈ o.codepoints, maxEncodable < cp := by
      rintro ⟨cp, hcp, hgt⟩
      exact absurd (hcps cp hcp) (Nat.not_le.mpr hgt)
    refine .inr ⟨hnone, ?_⟩
    cases hdevice : c.device with
    | full =>
      refine .inl ⟨rfl, ?_⟩
      rw [encodeAll_of_encodable hcps]
      cases o.raw with
      | true => exact raw_of_full hcps hne hdevice
      | false => exact listing_of_full hcps hne hdevice
    | accepting => exact .inr ⟨rfl, (encodeAll_of_accepting hcps hdevice).1⟩

end Encoding

end Utf8Text
