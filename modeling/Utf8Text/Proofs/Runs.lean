import Utf8Text.Program
import Utf8Text.Proofs.Results

/-!
# Runs that read a text

Printing and listing come to the same in two respects: the exit code says whether
the text could be decoded, and the standard error stream has the report of the
error that broke decoding off, unless none is wanted (`run_of_reads`). What is
on the standard output, if that takes everything, is said for each of them, and
for encoding without a listing. All of this is so with any libraries.
-/

namespace Utf8Text

open Decoding

/-- The report of a decode error in a text from a source, unless none is wanted. -/
def reportText (o : ReportOptions) (terminal : Bool) (source : Source) (text : Bytes)
    (e : DecodeError) : List Char :=
  if o.quiet then []
  else Diagnostic.report (.ofChoice (o.colored terminal)) e text source.name

theorem reportError_fst (o : ReportOptions) (source : Source) (raw : Bytes) (c : Console)
    (e : DecodeError) :
    (reportError o (Input.ofBytes source raw) c e).1
      = reportText o c.terminal source (beforeNul raw) e := by
  rw [reportError, reportText]
  split <;> rfl

variable (libraries : Libraries)

section
variable {s : Surroundings} {source : Source} {raw : Bytes}

/-- A run shows what its command does with the text. -/
theorem run_of_reads {i : Invocation} {o : ReportOptions} {stdout : Bytes}
    {use : Input → Console → Outcome} (hread : s.contents source = .ok raw)
    (hcommand : ∀ writes, i.command.run libraries.json writes s
      = Command.withInput s source (s.console writes) use)
    (huse : ∀ writes,
      let read := ofBytes (beforeNul raw)
      let outcome := use (Input.ofBytes source raw) (s.console writes)
      outcome.result = .ok (if read.error? = none then .success else .invalid)
        ∧ outcome.stdout = stdout
        ∧ outcome.stderr = read.error?.elim [] fun e =>
          (reportError o (Input.ofBytes source raw) (s.console writes) e).1)
    (setting? : Option String) :
    let read := ofBytes (beforeNul raw)
    let result := i.runWith libraries setting? s
    result.exitCode = (if read.error? = none then 0 else 1)
      ∧ result.stdout = stdout
      ∧ result.stderr = read.error?.elim [] (reportText o s.terminal source (beforeNul raw)) := by
  intro read result
  let writes := libraries.log.inForce setting? i.verbosity
  obtain ⟨hresult, hstdout, hstderr⟩ := huse writes
  have houtcome : i.outcome libraries.json writes s
      = ((use (Input.ofBytes source raw) (s.console writes)).after
          ((Input.ofBytes source raw).events writes)).after (Log.raise writes i.startEvent) := by
    rw [Invocation.outcome, hcommand, Command.withInput, hread]
    rfl
  have hconclude : Invocation.conclude (i.outcome libraries.json writes s).result
      = (if read.error? = none then .success else .invalid, []) := by
    rw [houtcome]
    show Invocation.conclude (use (Input.ofBytes source raw) (s.console writes)).result = _
    rw [hresult]
    rfl
  have hrun : result = ⟨(Invocation.conclude (i.outcome libraries.json writes s).result).1.number,
      (i.outcome libraries.json writes s).stdout,
      (i.outcome libraries.json writes s).stderr
        ++ (Invocation.conclude (i.outcome libraries.json writes s).result).2,
      (i.outcome libraries.json writes s).events⟩ := rfl
  rw [hrun, hconclude, houtcome]
  refine ⟨?_, hstdout, ?_⟩
  · show ExitCode.number (if read.error? = none then _ else _) = _
    split <;> rfl
  · show (use (Input.ofBytes source raw) (s.console writes)).stderr ++ [] = _
    rw [List.append_nil, hstderr]
    simp only [reportError_fst]
    rfl

end

section
variable {s : Surroundings} {file? : Option Path} {raw : Bytes}
  (hdevice : s.device = .accepting) (hread : s.contents (.ofPath? file?) = .ok raw)
  (report : ReportOptions) (verbosity : Nat) (setting? : Option String)
include hdevice hread

theorem run_print_of_accepting (noNewline : Bool) :
    let read := ofBytes (beforeNul raw)
    let printed :=
      (Invocation.mk verbosity (.print ⟨file?, noNewline, report⟩)).runWith libraries setting? s
    printed.exitCode = (if read.error? = none then 0 else 1)
      ∧ printed.stdout = encodings read.codepoints
        ++ (if read.error? = none ∧ noNewline = true then [] else [lineFeed])
      ∧ printed.stderr
        = read.error?.elim [] (reportText report s.terminal (.ofPath? file?) (beforeNul raw)) :=
  run_of_reads libraries hread (fun _ => rfl)
    (fun writes => Print.printInput_of_accepting ⟨file?, noNewline, report⟩
      (Input.ofBytes (.ofPath? file?) raw) (c := s.console writes) hdevice) setting?

theorem run_list_of_accepting (format : ListingFormat) :
    let read := ofBytes (beforeNul raw)
    let listed :=
      (Invocation.mk verbosity (.list ⟨file?, format, report⟩)).runWith libraries setting? s
    listed.exitCode = (if read.error? = none then 0 else 1)
      ∧ listed.stdout = read.sequences.flatMap
        (fun s => (Listing.Record.ofSequence s).bytes libraries.json format)
      ∧ listed.stderr
        = read.error?.elim [] (reportText report s.terminal (.ofPath? file?) (beforeNul raw)) :=
  run_of_reads libraries hread (fun _ => rfl)
    (fun writes => Listing.listInput_of_accepting libraries.json ⟨file?, format, report⟩
      (Input.ofBytes (.ofPath? file?) raw) (c := s.console writes) hdevice) setting?

end

/-! ## Encoding -/

/-- A run that encodes shows what encoding comes to. -/
theorem run_encode_of_ok {o : EncodeOptions} {s : Surroundings} {code : ExitCode} {stdout : Bytes}
    {stderr : List Char}
    (h : ∀ c : Console, c.device = s.device →
      let outcome := Encoding.encodeAll o c
      outcome.result = .ok code ∧ outcome.stdout = stdout ∧ outcome.stderr = stderr)
    (verbosity : Nat) (setting? : Option String) :
    let encoded := (Invocation.mk verbosity (.encode o)).runWith libraries setting? s
    encoded.exitCode = code.number ∧ encoded.stdout = stdout ∧ encoded.stderr = stderr := by
  intro encoded
  obtain ⟨hresult, hstdout, hstderr⟩ :=
    h (s.console (libraries.log.inForce setting? verbosity)) rfl
  simp only [encoded, Invocation.runWith, Invocation.outcome, Command.run, Outcome.after, hresult,
    hstdout, hstderr, Invocation.conclude, List.append_nil, and_self]

theorem run_encodeRaw_of_accepting {cps : List Nat} (hcps : ∀ cp ∈ cps, cp ≤ maxEncodable)
    {s : Surroundings} (hdevice : s.device = .accepting) (verbosity : Nat)
    (setting? : Option String) :
    let encoded := (Invocation.mk verbosity (.encode ⟨cps, true⟩)).runWith libraries setting? s
    encoded.exitCode = 0 ∧ encoded.stdout = encodings cps ∧ encoded.stderr = [] :=
  run_encode_of_ok libraries
    (fun _ hc => Encoding.encodeAll_of_accepting (o := ⟨cps, true⟩) hcps (hc.trans hdevice))
    verbosity setting?

end Utf8Text
