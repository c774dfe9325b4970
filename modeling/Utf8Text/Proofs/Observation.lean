import Utf8Text.Program

/-!
# What the choice of events changes

Whether an event is written is decided where it happens, on every way through a
command. Wherever that is, a command that writes fewer events does the same
otherwise, and of the events that it leaves when it writes all of them exactly the
chosen ones are left, in order (`Command.run_isObserved`). So for a whole run
(`Invocation.outcome_isObserved`).
-/

namespace Utf8Text

/-! ## Outcomes -/

/-- Two outcomes that differ at most in what they leave to the log. -/
structure Outcome.SameButLog (a b : Outcome) : Prop where
  result : a.result = b.result
  stdout : a.stdout = b.stdout
  stderr : a.stderr = b.stderr

theorem Outcome.SameButLog.after {a b : Outcome} (h : a.SameButLog b)
    (events events' : List Log.Event) : (a.after events).SameButLog (b.after events') :=
  ⟨h.result, h.stdout, h.stderr⟩

/-- The same outcome, with a choice of the events of the other. -/
structure Outcome.IsObserved (writes : Log.Event → Bool) (o whole : Outcome) : Prop
    extends SameButLog o whole where
  events : o.events = whole.events.filter writes

@[simp] theorem Log.filter_raise (writes : Event → Bool) (e : Event) :
    (raise (fun _ => true) e).filter writes = raise writes e := by
  rw [raise, raise, if_pos rfl, List.filter_cons, List.filter_nil]

theorem Log.eq_of_mem_raise {writes : Event → Bool} {e raised : Event}
    (h : e ∈ raise writes raised) : e = raised := by
  rw [raise] at h
  split at h
  · exact List.mem_singleton.mp h
  · cases h

/-- The same console, with every event written. -/
def Console.observingAll (c : Console) : Console :=
  { c with writes := fun _ => true }

section
variable {writes : Log.Event → Bool}

theorem Outcome.IsObserved.of_no_events {o : Outcome} (h : o.events = []) :
    o.IsObserved writes o := by
  refine ⟨⟨rfl, rfl, rfl⟩, ?_⟩
  rw [h, List.filter_nil]

theorem Outcome.IsObserved.after {o whole : Outcome} (h : o.IsObserved writes whole)
    {events all : List Log.Event} (hevents : events = all.filter writes) :
    (o.after events).IsObserved writes (whole.after all) := by
  refine ⟨h.toSameButLog.after events all, ?_⟩
  show events ++ o.events = (all ++ whole.events).filter writes
  rw [hevents, h.events, List.filter_append]

theorem Input.events_eq_filter (input : Input) :
    input.events writes = (input.events fun _ => true).filter writes := by
  rw [events, events]
  split
  · rw [List.filter_append, Log.filter_raise, Log.filter_raise]
  · rw [List.filter_append, Log.filter_raise, List.filter_nil]

end

/-! ## Commands -/

theorem reportError_observingAll (o : ReportOptions) (input : Input) (c : Console)
    (e : DecodeError) :
    reportError o input c e
      = ((reportError o input c.observingAll e).1,
          (reportError o input c.observingAll e).2.filter c.writes) := by
  have hwide : wideLineEvents c.writes input.text.bytes e.offset
      = (wideLineEvents (fun _ => true) input.text.bytes e.offset).filter c.writes := by
    simp only [wideLineEvents]
    split
    · rw [Log.filter_raise]
    · rw [List.filter_nil]
  simp only [reportError]
  split
  · rfl
  · rw [hwide]
    rfl

/-- The outcome of an error that is reported, behind other events. -/
theorem isObserved_reportError (o : ReportOptions) (input : Input) (c : Console) (e : DecodeError)
    (stdout : Bytes) {events all : List Log.Event} (hevents : events = all.filter c.writes) :
    let reported := reportError o input c e
    let whole := reportError o input c.observingAll e
    (Outcome.mk (.ok .invalid) stdout reported.1 (events ++ reported.2)).IsObserved c.writes
      (.mk (.ok .invalid) stdout whole.1 (all ++ whole.2)) := by
  intro reported whole
  have hreported : reported = (whole.1, whole.2.filter c.writes) :=
    reportError_observingAll o input c e
  rw [hreported]
  refine ⟨⟨rfl, rfl, rfl⟩, ?_⟩
  rw [List.filter_append, hevents]

theorem Print.printInput_isObserved (o : PrintOptions) (input : Input) (c : Console) :
    (printInput o input c).IsObserved c.writes (printInput o input c.observingAll) := by
  have hdevice : c.observingAll.device = c.device := rfl
  simp only [printInput, hdevice]
  rcases (if o.noNewline then (Sink.onto (LineBuffered.onto c.device)).writeText input.text.bytes
    else (Sink.onto (LineBuffered.onto c.device)).writeLine input.text.bytes) with ⟨answer, sink⟩
  cases answer with
  | ok count =>
    rcases hflush : sink.flush with ⟨flushed, sink'⟩
    simp only [hflush]
    cases flushed with
    | error e => exact .of_no_events rfl
    | ok _ => exact ⟨⟨rfl, rfl, rfl⟩, (Log.filter_raise c.writes _).symm⟩
  | error e =>
    cases e with
    | decode e =>
      rcases hend : endLine sink.writer with ⟨ended, w⟩
      simp only [hend]
      cases ended with
      | error failure => exact .of_no_events rfl
      | ok _ => exact isObserved_reportError o.report input c e w.finish List.filter_nil.symm
    | encode e => exact .of_no_events rfl
    | write e => exact .of_no_events rfl

theorem Listing.listInput_isObserved (json : Json.Serializer) (o : ListOptions) (input : Input)
    (c : Console) :
    (listInput json o input c).IsObserved c.writes (listInput json o input c.observingAll) := by
  have hdevice : c.observingAll.device = c.device := rfl
  simp only [listInput, hdevice]
  rcases writeRecords json o.format (LineBuffered.onto c.device)
    ((Decoding.ofBytes input.text.bytes).sequences.map Record.ofSequence) with ⟨answer, w⟩
  cases answer with
  | error f => exact .of_no_events rfl
  | ok _ =>
    rcases hdrain : w.drain with ⟨drained, w'⟩
    simp only [hdrain]
    cases drained with
    | error e => exact .of_no_events rfl
    | ok _ =>
      cases (Decoding.ofBytes input.text.bytes).error? with
      | none => exact ⟨⟨rfl, rfl, rfl⟩, (Log.filter_raise c.writes _).symm⟩
      | some e =>
        exact isObserved_reportError o.report input c e w'.finish (Log.filter_raise c.writes _).symm

theorem Encoding.encodeAll_isObserved (o : EncodeOptions) (c : Console) :
    (encodeAll o c).IsObserved c.writes (encodeAll o c.observingAll) := by
  have hdevice : c.observingAll.device = c.device := rfl
  simp only [encodeAll]
  cases firstRefused? o.codepoints with
  | some e => exact .of_no_events rfl
  | none =>
    cases o.raw with
    | true =>
      simp only [if_true, encodeRaw, hdevice]
      rcases writeCodepoints (Sink.onto (LineBuffered.onto c.device)) o.codepoints with ⟨answer, s⟩
      cases answer with
      | error e => exact .of_no_events rfl
      | ok _ =>
        rcases hflush : s.flush with ⟨flushed, s'⟩
        simp only [hflush]
        cases flushed with
        | error e => exact .of_no_events rfl
        | ok _ => exact ⟨⟨rfl, rfl, rfl⟩, (Log.filter_raise c.writes _).symm⟩
    | false =>
      -- a listing of encodings leaves nothing to the log
      simp only [Bool.false_eq_true, if_false, encodeListing, hdevice]
      rcases writeLines (LineBuffered.onto c.device) o.codepoints with ⟨answer, w⟩
      cases answer with
      | error f => exact .of_no_events rfl
      | ok _ =>
        rcases hdrain : w.drain with ⟨drained, w'⟩
        simp only [hdrain]
        cases drained <;> exact .of_no_events rfl

theorem Command.withInput_isObserved (s : Surroundings) (source : Source) (c : Console)
    {use : Input → Console → Outcome}
    (huse : ∀ input, (use input c).IsObserved c.writes (use input c.observingAll)) :
    (withInput s source c use).IsObserved c.writes (withInput s source c.observingAll use) := by
  simp only [withInput]
  cases s.contents source with
  | error e => exact .of_no_events rfl
  | ok raw => exact (huse (.ofBytes source raw)).after (Input.events_eq_filter _)

/-- **A choice of events** changes nothing but the log of a command, which has the
chosen ones of all its events, in order. -/
theorem Command.run_isObserved (command : Command) (json : Json.Serializer)
    (writes : Log.Event → Bool) (s : Surroundings) :
    (command.run json writes s).IsObserved writes (command.run json (fun _ => true) s) := by
  cases command with
  | print o => exact withInput_isObserved s _ (s.console writes) fun input =>
      Print.printInput_isObserved o input _
  | list o => exact withInput_isObserved s _ (s.console writes) fun input =>
      Listing.listInput_isObserved json o input _
  | encode o => exact Encoding.encodeAll_isObserved o (s.console writes)

/-! ## Runs -/

namespace Invocation

variable (i : Invocation) (json : Json.Serializer) (s : Surroundings)

theorem outcome_isObserved (writes : Log.Event → Bool) :
    (i.outcome json writes s).IsObserved writes (i.outcome json (fun _ => true) s) :=
  (i.command.run_isObserved json writes s).after (Log.filter_raise writes i.startEvent).symm

/-- What the system sees of a run follows from the outcome with all events. -/
theorem runWith_eq (libraries : Libraries) (setting? : Option String) :
    let whole := i.traceWith libraries s
    i.runWith libraries setting? s
      = { exitCode := (conclude whole.result).1.number
          stdout := whole.stdout
          stderr := whole.stderr ++ (conclude whole.result).2
          log := whole.events.filter (libraries.log.inForce setting? i.verbosity) } := by
  intro whole
  have hobserved := i.outcome_isObserved libraries.json s
    (libraries.log.inForce setting? i.verbosity)
  simp only [runWith, hobserved.result, hobserved.stdout, hobserved.stderr, hobserved.events]
  rfl

end Invocation

end Utf8Text
