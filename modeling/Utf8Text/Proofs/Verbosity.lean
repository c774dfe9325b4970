import Utf8Text.CommandLine
import Utf8Text.Proofs.Observation
import Utf8Text.Proofs.Subscriber

/-!
# The log only observes

How much is written of the log has no influence on anything else, and what is written
of it are the events that are severe enough, in order (`log_only_observes`). The one is a
law of the commands (`Invocation.outcome_isObserved`), the other one of what reads the
settings (`Subscriber.inForce_of_effective?`). On the command line, asking to say more
asks for nothing else (`CommandLine.parse_replicate_append`).
-/

namespace Utf8Text

/-! ## Requests to say more -/

namespace CommandLine

/-- More requests in front of a command line change at most the number of requests. -/
theorem parseAfter_add {verbosity : Nat} {arguments : List String} {i : Invocation}
    (h : parseAfter verbosity arguments = some i) (n : Nat) :
    ∃ v, (v = i.verbosity ∨ v = i.verbosity + n)
      ∧ parseAfter (verbosity + n) arguments = some ⟨v, i.command⟩ := by
  induction arguments generalizing verbosity with
  | nil => cases h
  | cons argument rest ih =>
    simp only [parseAfter_cons_eq_some_iff] at h ⊢
    obtain ⟨k, hcount, hrest⟩ | ⟨hcount, name, tokens, command, hname, htokens, hrepeats,
      hcommand, rfl⟩ := h
    · obtain ⟨v, hv, hmore⟩ := ih hrest
      rw [Nat.add_right_comm] at hmore
      exact ⟨v, hv, .inl ⟨k, hcount, hmore⟩⟩
    · refine ⟨if countFlag .verbose tokens = 0 then verbosity + n else countFlag .verbose tokens,
        ?_, .inr ⟨hcount, name, tokens, command, hname, htokens, hrepeats, hcommand, rfl⟩⟩
      -- requests behind the name of the command hide those in front
      split
      · exact .inr rfl
      · exact .inl rfl

theorem parseAfter_replicate_append (verbosity n : Nat) (arguments : List String) :
    parseAfter verbosity (List.replicate n "-v" ++ arguments)
      = parseAfter (verbosity + n) arguments := by
  induction n generalizing verbosity with
  | zero => rfl
  | succ n ih =>
    have hcount : verboseCount? "-v" = some 1 := by decide
    rw [List.replicate_succ, List.cons_append, parseAfter, hcount]
    show parseAfter (verbosity + 1) _ = _
    rw [ih, Nat.add_right_comm, Nat.add_assoc]

/-- **Asking to say more**, any number of times, asks for the same command. -/
theorem parse_replicate_append {arguments : List String} {i : Invocation}
    (h : parse arguments = some i) (n : Nat) :
    ∃ v, (v = i.verbosity ∨ v = i.verbosity + n)
      ∧ parse (List.replicate n "-v" ++ arguments) = some ⟨v, i.command⟩ := by
  rw [parse, parseAfter_replicate_append]
  exact parseAfter_add h n

end CommandLine

/-! ## Two runs -/

open Log (Threshold)

/-- With everything let through the log of a run is all that happens. -/
theorem Invocation.log_runWith_of_trace {libraries : Libraries} (hlog : libraries.log.Lawful)
    (i : Invocation) {setting? : Option String}
    (h : Threshold.effective? setting? i.verbosity = some (.upTo .trace)) (s : Surroundings) :
    (i.runWith libraries setting? s).log
      = (i.traceWith libraries s).events := by
  rw [i.runWith_eq s libraries setting?]
  dsimp only
  rw [List.filter_eq_self]
  intro e _
  rw [Log.Subscriber.inForce_of_effective? hlog h, Threshold.admits_upTo_trace]

/-- **The log only observes.** Runs of a command with whatever numbers of requests to say
more and whatever settings have the same exit code and write the same, the log apart. With
a run that lets everything through, the log of every other run is a part of its log; and if
a threshold is in force, it is the events that the threshold admits, in order. -/
theorem log_only_observes {libraries : Libraries} (hlog : libraries.log.Lawful)
    (command : Command) (s : Surroundings) (verbosity verbosity' : Nat)
    (setting? setting?' : Option String) :
    let run := (Invocation.mk verbosity command).runWith libraries setting? s
    let whole := (Invocation.mk verbosity' command).runWith libraries setting?' s
    run.exitCode = whole.exitCode ∧ run.stdout = whole.stdout ∧ run.stderr = whole.stderr
      ∧ (Threshold.effective? setting?' verbosity' = some (.upTo .trace) →
        run.log.Sublist whole.log
          ∧ ∀ t, Threshold.effective? setting? verbosity = some t →
            run.log = whole.log.filter fun e => t.admits e.level) := by
  intro run whole
  have hrun := (Invocation.mk verbosity command).runWith_eq s libraries setting?
  have hwhole := (Invocation.mk verbosity' command).runWith_eq s libraries setting?'
  have hlogs : run.log = ((Invocation.mk verbosity command).traceWith libraries s).events.filter
      (libraries.log.inForce setting? verbosity) :=
    congrArg ProgramResult.log hrun
  refine ⟨?_, ?_, ?_, ?_⟩
  · exact (congrArg ProgramResult.exitCode hrun).trans (congrArg ProgramResult.exitCode hwhole).symm
  · exact (congrArg ProgramResult.stdout hrun).trans (congrArg ProgramResult.stdout hwhole).symm
  · exact (congrArg ProgramResult.stderr hrun).trans (congrArg ProgramResult.stderr hwhole).symm
  · intro htrace
    -- what happens in a run does not depend on the requests to say more
    have hall : whole.log = ((Invocation.mk verbosity command).traceWith libraries s).events :=
      Invocation.log_runWith_of_trace hlog (Invocation.mk verbosity' command) htrace s
    rw [hlogs, hall]
    refine ⟨List.filter_sublist, ?_⟩
    intro t ht
    apply List.filter_congr
    intro e _
    exact Log.Subscriber.inForce_of_effective? hlog ht e

/-- A text with a NUL in it, printed: four events happen, and a setting for the program
lets through the two that are severe enough, whatever number of requests there is. -/
theorem log_only_observes_print :
    let command : Command := .print ⟨some "note.txt", true, ⟨false, false, false⟩⟩
    let s : Surroundings := ⟨fun _ => .ok [0x41, 0, 0x42], .accepting, true⟩
    let run := (Invocation.mk 2 command).runWith .standard (some "hailtext=info") s
    let whole := (Invocation.mk 3 command).runWith .standard none s
    Libraries.standard.log.Lawful
      ∧ run.exitCode = whole.exitCode ∧ run.stdout = whole.stdout ∧ run.stderr = whole.stderr
      ∧ whole.log.map Log.Event.level = [.debug, .debug, .warn, .info]
      ∧ run.log.map Log.Event.level = [.warn, .info] := by
  intro command s run whole
  have hlog : Libraries.standard.log.Lawful := Log.Subscriber.standard_lawful
  obtain ⟨hcode, hstdout, hstderr, hlogs⟩ :=
    log_only_observes hlog command s 2 3 (some "hailtext=info") none
  have hrun : run.log = whole.log.filter _ := (hlogs rfl).2 (.upTo .info) (by decide)
  refine ⟨hlog, hcode, hstdout, hstderr, by decide +kernel, ?_⟩
  rw [hrun]
  decide +kernel

end Utf8Text
