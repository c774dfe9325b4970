import Utf8Text.Proofs.Listing
import Utf8Text.Proofs.Report

/-!
# Printing against listing

Printing goes through a sink and listing does not, but both stop where decoding
does, for the same reason and with the same report. What is printed are the
codepoints that are listed (`print_agrees_with_listing`).
-/

namespace Utf8Text

open Decoding Listing

/-- Colours are unwanted, or else wanted, or else a matter of the terminal. -/
theorem ReportOptions.colored_eq (o : ReportOptions) (terminal : Bool) :
    o.colored terminal = (!o.noColor && (o.color || terminal)) := by
  rw [colored]
  cases o.noColor
  · cases o.color <;> rfl
  · rfl

/-- A report that is wanted names the error. -/
theorem names_reportText {text : Bytes} {e : DecodeError} (h : (ofBytes text).error? = some e)
    {o : ReportOptions} (hquiet : o.quiet = false) (terminal : Bool) (source : Source) :
    Diagnostic.Names (.ofChoice (!o.noColor && (o.color || terminal))) e text source.name
      (reportText o terminal source text e) := by
  rw [reportText, if_neg (by simp [hquiet]), o.colored_eq]
  exact Diagnostic.names_report h _ _

/-- **Agreement of the commands**, on the same input and for the same wishes for a
report. They give the same exit code and the same report, and the codepoints
that can be read off the listing are printed, each encoded; a line feed is
behind them unless all of the text was decoded and none is wanted. Nothing is reported
of a text that can be decoded. Otherwise it is the first error, by name, with the byte
it is at and the place of that byte: in colours if they are wanted or there is a terminal,
unless they are unwanted. -/
theorem print_agrees_with_listing (libraries : Libraries) (hjson : libraries.json.Lawful)
    {s : Surroundings} {file? : Option Path} {raw : Bytes} (hdevice : s.device = .accepting)
    (hread : s.contents (.ofPath? file?) = .ok raw) (report : ReportOptions) (noNewline : Bool)
    (format : ListingFormat) (verbosity verbosity' : Nat) (setting? setting?' : Option String) :
    let text := beforeNul raw
    let source := Source.ofPath? file?
    let printed := (Invocation.mk verbosity (.print ⟨file?, noNewline, report⟩)).runWith libraries
      setting? s
    let listed := (Invocation.mk verbosity' (.list ⟨file?, format, report⟩)).runWith libraries
      setting?' s
    printed.exitCode = listed.exitCode
      ∧ printed.stderr = listed.stderr
      ∧ (∃ lines records pieces, HasLines listed.stdout lines
        ∧ lines.mapM (readLine? format) = some records
        ∧ (records.map Sequence.codepoint).mapM encode = .ok pieces
        ∧ printed.stdout = pieces.flatten
          ++ if printed.exitCode = 0 ∧ noNewline = true then [] else [lineFeed])
      ∧ ((∀ e, .error e ∉ items text) → printed.exitCode = 0 ∧ printed.stderr = [])
      ∧ ∀ e, .error e ∈ items text →
        printed.exitCode = 1
          ∧ printed.stderr = reportText report s.terminal source text e
          ∧ (report.quiet = true → printed.stderr = [])
          ∧ (report.quiet = false →
            Diagnostic.Names (.ofChoice (!report.noColor && (report.color || s.terminal))) e text
              source.name printed.stderr) := by
  intro text source printed listed
  obtain ⟨hcode, hstdout, hstderr⟩ :=
    run_print_of_accepting libraries hdevice hread report verbosity setting? noNewline
  obtain ⟨hcode', hstdout', hstderr'⟩ :=
    run_list_of_accepting libraries hdevice hread report verbosity' setting?' format
  change printed.exitCode = _ at hcode
  change printed.stdout = _ at hstdout
  change printed.stderr = _ at hstderr
  change listed.stdout = _ at hstdout'
  refine ⟨hcode.trans hcode'.symm, hstderr.trans hstderr'.symm, ?_, ?_, ?_⟩
  · obtain ⟨lines, hlines, hrecords, -⟩ := exists_lines hjson format (ofBytes text).sequences
    refine ⟨lines, _, _, hstdout' ▸ hlines, hrecords, mapM_encode fun _ => le_maxEncodable_of_mem,
      ?_⟩
    have hsuccess : printed.exitCode = 0 ↔ (ofBytes text).error? = none := by
      rw [hcode]
      by_cases herror : (ofBytes text).error? = none
      · rw [if_pos herror]
        exact iff_of_true rfl herror
      · rw [if_neg herror]
        exact iff_of_false Nat.one_ne_zero herror
    rw [hstdout, ← List.flatMap_def]
    simp only [hsuccess]
    rfl
  · intro hnone
    have herror : (ofBytes text).error? = none := by
      rw [Option.eq_none_iff_forall_not_mem]
      exact fun e he => hnone e (error_mem_items_iff.mpr he)
    rw [hcode, hstderr, if_pos herror, herror]
    exact ⟨rfl, rfl⟩
  · intro e he
    have herror : (ofBytes text).error? = some e := error_mem_items_iff.mp he
    have hreport : printed.stderr = reportText report s.terminal source text e := by
      rw [hstderr, herror]
      rfl
    refine ⟨?_, hreport, ?_, ?_⟩
    · rw [hcode, herror]
      rfl
    · intro hquiet
      rw [hreport, reportText, if_pos hquiet]
    · intro hquiet
      rw [hreport]
      exact names_reportText herror hquiet s.terminal source

/-- An overlong letter in front of a sequence that breaks off: the line feed is
written although none is wanted. Without a wish the report is coloured on a terminal. -/
theorem print_agrees_with_listing_on_broken_note :
    let s : Surroundings := ⟨fun _ => .ok [0xC1, 0x81, 0xE2, 0x82], .accepting, true⟩
    let report : ReportOptions := ⟨false, false, false⟩
    let file? : Option Path := some "note.txt"
    let printed := (Invocation.mk 1 (.print ⟨file?, true, report⟩)).run none s
    let listed := (Invocation.mk 0 (.list ⟨file?, .json, report⟩)).run none s
    Json.compact.Lawful ∧ s.device = .accepting
      ∧ s.contents (.ofPath? file?) = .ok [0xC1, 0x81, 0xE2, 0x82]
      ∧ .error ⟨.truncatedSequence, 2, 0xE2⟩ ∈ items (beforeNul [0xC1, 0x81, 0xE2, 0x82])
      ∧ printed.exitCode = 1 ∧ listed.exitCode = 1 ∧ printed.stderr = listed.stderr
      ∧ Diagnostic.Names .ansi ⟨.truncatedSequence, 2, 0xE2⟩ [0xC1, 0x81, 0xE2, 0x82]
        "note.txt".toList printed.stderr
      ∧ ∃ lines records pieces, HasLines listed.stdout lines
        ∧ lines.mapM (readLine? .json) = some records
        ∧ (records.map Sequence.codepoint).mapM encode = .ok pieces
        ∧ printed.stdout = pieces.flatten ++ [lineFeed] := by
  intro s report file? printed listed
  have hread : s.contents (.ofPath? file?) = .ok [0xC1, 0x81, 0xE2, 0x82] := rfl
  have hmem : .error ⟨.truncatedSequence, 2, 0xE2⟩
      ∈ items (beforeNul [0xC1, 0x81, 0xE2, 0x82]) := by decide
  obtain ⟨hcode, hstderr, ⟨lines, records, pieces, hlines, hrecords, hpieces, hstdout⟩, -,
    herror⟩ := print_agrees_with_listing .standard Json.compact_lawful (s := s) rfl hread report
      true .json 1 0 none none
  obtain ⟨hone, -, -, hnames⟩ := herror _ hmem
  have hzero : ¬ (printed.exitCode = 0 ∧ true = true) := by
    rw [hone]
    decide
  refine ⟨Json.compact_lawful, rfl, hread, hmem, hone, hcode.symm.trans hone, hstderr, hnames rfl,
    lines, records, pieces, hlines, hrecords, hpieces, ?_⟩
  rwa [if_neg hzero] at hstdout

end Utf8Text
