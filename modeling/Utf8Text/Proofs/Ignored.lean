import Mathlib.Data.List.TakeWhile
import Utf8Text.Proofs.Observation
import Utf8Text.Proofs.Subscriber

/-!
# What stands behind a NUL

A text ends before the first NUL of the bytes read. The commands look at an input
through its text and its name alone, and tell the number of bytes read only to the
log (`LooksAtText`). So runs on bytes that agree up to a NUL are the same but for
the log, and the log has a warning exactly where there is a NUL
(`bytes_behind_nul_are_invisible`).
-/

namespace Utf8Text

/-! ## Texts and NULs -/

theorem beforeNul_append {front : Bytes} (h : 0 ∉ front) (rest : Bytes) :
    beforeNul (front ++ rest) = front ++ beforeNul rest := by
  rw [beforeNul, List.takeWhile_append_of_pos, beforeNul]
  intro b hb
  have hne : b ≠ 0 := by
    rintro rfl
    exact h hb
  simpa using hne

theorem beforeNul_of_not_mem {bytes : Bytes} (h : 0 ∉ bytes) : beforeNul bytes = bytes :=
  calc beforeNul bytes
    _ = beforeNul (bytes ++ []) := by rw [List.append_nil]
    _ = bytes ++ beforeNul [] := beforeNul_append h []
    _ = bytes := List.append_nil bytes

theorem beforeNul_append_nul {front : Bytes} (h : 0 ∉ front) (rest : Bytes) :
    beforeNul (front ++ 0 :: rest) = front := by
  rw [beforeNul_append h]
  exact List.append_nil front

theorem nul_not_mem_beforeNul (raw : Bytes) : 0 ∉ beforeNul raw := by
  intro hmem
  have hne := List.mem_takeWhile_imp hmem
  simp at hne

theorem length_beforeNul_lt_iff {raw : Bytes} :
    (beforeNul raw).length < raw.length ↔ 0 ∈ raw := by
  constructor
  · intro hlt
    by_contra hnot
    rw [beforeNul_of_not_mem hnot] at hlt
    exact Nat.lt_irrefl _ hlt
  · intro hmem
    obtain ⟨front, rest, rfl, hnot⟩ := List.eq_append_cons_of_mem hmem
    rw [beforeNul_append_nul hnot, List.length_append, List.length_cons]
    omega

/-! ## Warnings -/

namespace Log

/-- The warnings among events. -/
def warnings (events : List Event) : List Event :=
  events.filter (·.level = .warn)

@[simp] theorem warnings_append (a b : List Event) :
    warnings (a ++ b) = warnings a ++ warnings b :=
  List.filter_append a b

@[simp] theorem warnings_cons_of_ne {e : Event} (h : e.level ≠ .warn) (events : List Event) :
    warnings (e :: events) = warnings events :=
  List.filter_cons_of_neg (by simpa using h)

theorem warnings_raise {e : Event} (h : e.level ≠ .warn) (writes : Event → Bool) :
    warnings (raise writes e) = [] := by
  rw [raise]
  split
  · rw [warnings_cons_of_ne h]
    rfl
  · rfl

/-- Without a setting no warning is kept from the log. -/
theorem warnings_filter_inForce_none {subscriber : Subscriber} (h : subscriber.Lawful)
    (verbosity : Nat) (events : List Event) :
    warnings (events.filter (subscriber.inForce none verbosity)) = warnings events := by
  -- even the least verbosity lets warnings through
  have hpasses (e : Event) (he : e.level = .warn) :
      subscriber.inForce none verbosity e = true := by
    rw [Subscriber.inForce_of_effective? h rfl, he]
    match verbosity with
    | 0 | 1 | 2 | _ + 3 => rfl
  rw [warnings, warnings, List.filter_filter]
  apply List.filter_congr
  intro e _
  by_cases he : e.level = .warn
  · simp [he, hpasses e he]
  · simp [he]

end Log

open Log (warnings)

/-- The warning about a NUL in the bytes of a source: its offset, and the number of
bytes from there on. -/
def nulWarning (source : Source) (offset ignored : Nat) : Log.Event :=
  ⟨.input, .warn, "input contains a NUL byte; ignoring the rest".toList,
    [("input", source.name), ("offset", Numeral.decimal offset),
      ("ignored", Numeral.decimal ignored)]⟩

/-- The warning about some bytes: none if there is no NUL in them. -/
def nulWarnings (source : Source) (raw : Bytes) : List Log.Event :=
  if 0 ∈ raw then
    [nulWarning source (beforeNul raw).length (raw.length - (beforeNul raw).length)]
  else []

theorem warnings_events_ofBytes (source : Source) (raw : Bytes) :
    warnings ((Input.ofBytes source raw).events fun _ => true) = nulWarnings source raw := by
  have hsize : (Input.ofBytes source raw).text.size < (Input.ofBytes source raw).rawSize
      ↔ 0 ∈ raw := length_beforeNul_lt_iff
  rw [Input.events, Log.warnings_append, Log.warnings_raise (by simp), nulWarnings]
  by_cases hnul : 0 ∈ raw
  · rw [if_pos (hsize.mpr hnul), if_pos hnul]
    rfl
  · rw [if_neg (mt hsize.mp hnul), if_neg hnul]
    rfl

/-! ## What commands look at -/

/-- What is done with an input depends on its source and its text; the number of
bytes read is at most told to the log. No warning is given. -/
structure LooksAtText (use : Input → Console → Outcome) : Prop where
  sameButLog : ∀ source text m n c,
    (use ⟨source, m, text⟩ c).SameButLog (use ⟨source, n, text⟩ c)
  warnings : ∀ input c, warnings (use input c).events = []

theorem warnings_reportError (o : ReportOptions) (input : Input) (c : Console)
    (e : DecodeError) : warnings (reportError o input c e).2 = [] := by
  rw [reportError]
  split
  · rfl
  · rw [wideLineEvents]
    dsimp only
    split
    · exact Log.warnings_raise (by simp) c.writes
    · rfl

theorem looksAtText_printInput (o : PrintOptions) : LooksAtText (Print.printInput o) where
  sameButLog source text m n c := ⟨rfl, rfl, rfl⟩
  warnings input c := by
    simp only [Print.printInput]
    split
    · split
      · rfl
      · exact Log.warnings_raise (by simp) c.writes
    · split
      · rfl
      · exact warnings_reportError o.report input c _
    · rfl

theorem looksAtText_listInput (json : Json.Serializer) (o : ListOptions) :
    LooksAtText (Listing.listInput json o) where
  sameButLog source text m n c := by
    simp only [Listing.listInput]
    split
    · exact ⟨rfl, rfl, rfl⟩
    · split
      · exact ⟨rfl, rfl, rfl⟩
      · split <;> exact ⟨rfl, rfl, rfl⟩
  warnings input c := by
    have hlisted (details : List (String × List Char)) :
        warnings (Log.raise c.writes
          ⟨.listing, .info, "listed codepoints".toList, details⟩) = [] :=
      Log.warnings_raise (by simp) c.writes
    simp only [Listing.listInput]
    split
    · rfl
    · split
      · rfl
      · split
        · exact hlisted _
        · rw [Log.warnings_append, hlisted, warnings_reportError]
          rfl

/-- A command that reads a source has nothing else to do with its surroundings than
to use the input before its console. -/
theorem Command.exists_use {command : Command} {source : Source}
    (h : command.source? = some source) (json : Json.Serializer) :
    ∃ use, LooksAtText use
      ∧ ∀ writes s, command.run json writes s = withInput s source (s.console writes) use := by
  cases command with
  | print o =>
    cases h
    exact ⟨_, looksAtText_printInput o, fun _ _ => rfl⟩
  | list o =>
    cases h
    exact ⟨_, looksAtText_listInput json o, fun _ _ => rfl⟩
  | encode o => cases h

section
variable {i : Invocation} {source : Source} (hsource : i.command.source? = some source)
  (libraries : Libraries) {s : Surroundings} {raw : Bytes} (hread : s.contents source = .ok raw)
include hsource hread

theorem Invocation.sameButLog_traceWith {s' : Surroundings} {raw' : Bytes}
    (hread' : s'.contents source = .ok raw') (hdevice : s.device = s'.device)
    (hterminal : s.terminal = s'.terminal) (htext : beforeNul raw = beforeNul raw') :
    (i.traceWith libraries s).SameButLog (i.traceWith libraries s') := by
  obtain ⟨use, hlooks, hrun⟩ := Command.exists_use hsource libraries.json
  have hconsole : s'.console (fun _ => true) = s.console fun _ => true := by
    rw [Surroundings.console, Surroundings.console, hdevice, hterminal]
  have hsame : (use (Input.ofBytes source raw) (s.console fun _ => true)).SameButLog
      (use (Input.ofBytes source raw') (s.console fun _ => true)) := by
    -- with the same text only the numbers of bytes read are left to differ
    rw [Input.ofBytes, Input.ofBytes, Buffer.ownBeforeNul, Buffer.ownBeforeNul, htext]
    exact hlooks.sameButLog source (.own (beforeNul raw')) raw.length raw'.length _
  rw [traceWith, traceWith, outcome, outcome, hrun, hrun, Command.withInput, Command.withInput,
    hread, hread', hconsole]
  exact (hsame.after _ _).after _ _

/-- The only warning that a run gives is the one about a NUL. -/
theorem Invocation.warnings_traceWith :
    warnings (i.traceWith libraries s).events = nulWarnings source raw := by
  obtain ⟨use, hlooks, hrun⟩ := Command.exists_use hsource libraries.json
  have hevents : (i.traceWith libraries s).events
      = Log.raise (fun _ => true) i.startEvent
        ++ (((Input.ofBytes source raw).events fun _ => true)
          ++ (use (Input.ofBytes source raw) (s.console fun _ => true)).events) := by
    rw [traceWith, outcome, hrun, Command.withInput, hread]
    rfl
  rw [hevents, Log.warnings_append, Log.warnings_append, warnings_events_ofBytes,
    hlooks.warnings, List.append_nil]
  rfl

end

/-! ## Two runs -/

theorem Invocation.runWith_of_sameButLog {i : Invocation} {libraries : Libraries}
    {s s' : Surroundings} (h : (i.traceWith libraries s).SameButLog (i.traceWith libraries s'))
    (setting? : Option String) :
    (i.runWith libraries setting? s).exitCode = (i.runWith libraries setting? s').exitCode
      ∧ (i.runWith libraries setting? s).stdout = (i.runWith libraries setting? s').stdout
      ∧ (i.runWith libraries setting? s).stderr = (i.runWith libraries setting? s').stderr := by
  simp only [runWith_eq, h.result, h.stdout, h.stderr, and_self]

/-- Without a setting all warnings of a run are written. -/
theorem Invocation.warnings_log_runWith {libraries : Libraries} (hlog : libraries.log.Lawful)
    (i : Invocation) (s : Surroundings) :
    warnings (i.runWith libraries none s).log = warnings (i.traceWith libraries s).events := by
  rw [runWith_eq]
  exact Log.warnings_filter_inForce_none hlog i.verbosity _

/-- The same surroundings, but for what a source holds. -/
def Surroundings.holding (s : Surroundings) (source : Source) (raw : Bytes) : Surroundings :=
  { s with contents := fun other => if other = source then .ok raw else s.contents other }

@[simp] theorem Surroundings.contents_holding (s : Surroundings) (source : Source) (raw : Bytes) :
    (s.holding source raw).contents source = .ok raw := if_pos rfl

/-- **Bytes behind a NUL are invisible.** A command that reads a source does the same
whether the bytes there end or go on with a NUL and anything behind it, on a terminal or
not: the exit code, the standard output and the standard error stream, with the report of
a decode error, do not change. Only with a NUL there is a warning, with the offset of the
NUL and the number of bytes that are not looked at; without a setting of the log it is
written. -/
theorem bytes_behind_nul_are_invisible {libraries : Libraries} (hlog : libraries.log.Lawful)
    {front : Bytes} (hfront : 0 ∉ front) {i : Invocation} {source : Source}
    (hsource : i.command.source? = some source) (s : Surroundings) (setting? : Option String) :
    let run := fun raw => i.runWith libraries setting? (s.holding source raw)
    let raised := fun raw => warnings (i.traceWith libraries (s.holding source raw)).events
    raised front = []
      ∧ (∀ rest : Bytes,
        let raw := front ++ 0 :: rest
        (run raw).exitCode = (run front).exitCode
          ∧ (run raw).stdout = (run front).stdout
          ∧ (run raw).stderr = (run front).stderr
          ∧ ∃ ignored, front.length + ignored = raw.length
            ∧ raised raw = [nulWarning source front.length ignored])
      ∧ (setting? = none → ∀ raw, warnings (run raw).log = raised raw) := by
  intro run raised
  have hraised (raw : Bytes) : raised raw = nulWarnings source raw :=
    i.warnings_traceWith hsource libraries (s.contents_holding source raw)
  refine ⟨?_, ?_, ?_⟩
  · rw [hraised, nulWarnings, if_neg hfront]
  · intro rest raw
    have htext : beforeNul raw = beforeNul front := by
      rw [beforeNul_append_nul hfront, beforeNul_of_not_mem hfront]
    obtain ⟨hcode, hstdout, hstderr⟩ := Invocation.runWith_of_sameButLog
      (i.sameButLog_traceWith hsource libraries (s.contents_holding source raw)
        (s.contents_holding source front) rfl rfl htext) setting?
    refine ⟨hcode, hstdout, hstderr, raw.length - front.length, ?_, ?_⟩
    · have hlength : raw.length = front.length + (rest.length + 1) := List.length_append
      omega
    · have hmem : 0 ∈ raw := List.mem_append_right front List.mem_cons_self
      rw [hraised, nulWarnings, if_pos hmem, beforeNul_append_nul hfront]
  · rintro rfl raw
    exact i.warnings_log_runWith hlog _

/-- A euro sign whose last byte stands behind a NUL, on a terminal: that byte is not looked
at, and what is left is a sequence that breaks off. -/
theorem euro_behind_nul_is_invisible :
    let i : Invocation := ⟨0, .print ⟨some "note.txt", true, ⟨false, false, false⟩⟩⟩
    let source := Source.ofPath? (some "note.txt")
    let s : Surroundings := ⟨fun _ => .error .notFound, .accepting, true⟩
    let run := fun raw => i.runWith .standard none (s.holding source raw)
    Libraries.standard.log.Lawful
      ∧ 0 ∉ ([0x41, 0xE2, 0x82] : Bytes) ∧ i.command.source? = some source
      ∧ (run [0x41, 0xE2, 0x82, 0, 0xAC, 0x42]).exitCode = (run [0x41, 0xE2, 0x82]).exitCode
      ∧ (run [0x41, 0xE2, 0x82, 0, 0xAC, 0x42]).stdout = (run [0x41, 0xE2, 0x82]).stdout
      ∧ (run [0x41, 0xE2, 0x82, 0, 0xAC, 0x42]).stderr = (run [0x41, 0xE2, 0x82]).stderr
      ∧ warnings (run [0x41, 0xE2, 0x82]).log = []
      ∧ warnings (run [0x41, 0xE2, 0x82, 0, 0xAC, 0x42]).log = [nulWarning source 3 3] := by
  intro i source s run
  have hlog : Libraries.standard.log.Lawful := Log.Subscriber.standard_lawful
  have hfront : 0 ∉ ([0x41, 0xE2, 0x82] : Bytes) := by decide
  have hsource : i.command.source? = some source := rfl
  obtain ⟨hnone, hsame, hwritten⟩ := bytes_behind_nul_are_invisible hlog hfront hsource s none
  obtain ⟨hcode, hstdout, hstderr, ignored, hignored, hwarning⟩ := hsame [0xAC, 0x42]
  obtain rfl : ignored = 3 := Nat.add_left_cancel hignored
  exact ⟨hlog, hfront, hsource, hcode, hstdout, hstderr, (hwritten rfl _).trans hnone,
    (hwritten rfl _).trans hwarning⟩

end Utf8Text
