import Utf8Text.Log.Subscriber
import Utf8Text.Proofs.Directive

/-!
# Subscribers

Which events are written is up to whatever reads the settings, of which three things
are asked (`Subscriber.Lawful`): a level by itself and a level behind a target are read
as they are meant, and so is the level that the program gives. Then what is in force
lets through what its threshold admits, and the threshold is that of the setting if
there is one, and else comes from the number of requests to say more
(`Subscriber.inForce_of_effective?`). Reading settings as directives does what is asked
(`Subscriber.standard_lawful`).
-/

namespace Utf8Text

namespace Log

/-! ## Thresholds in force -/

/-- The threshold of a number of requests to say more. -/
def Threshold.ofVerbosity : Nat → Threshold
  | 0 => upTo .warn
  | 1 => upTo .info
  | 2 => upTo .debug
  | _ => upTo .trace

/-- The settings that name a threshold, for all events or for those of the program. -/
def settings : List (String × Threshold) :=
  Threshold.all ++ Threshold.all.map fun entry => ("hailtext=" ++ entry.1, entry.2)

/-- The threshold in force: that of the setting, if there is one and it names a
threshold; without a setting that of the requests to say more. -/
def Threshold.effective? (setting? : Option String) (verbosity : Nat) : Option Threshold :=
  match setting? with
  | none => some (ofVerbosity verbosity)
  | some setting => settings.lookup setting

theorem Threshold.admits_upTo_trace (level : Level) : (upTo .trace).admits level = true := by
  cases level <;> rfl

/-- The parts of the program have names that begin with that of the program. -/
theorem Part.program_isPrefix (part : Part) : "hailtext".toList <+: part.name := by
  cases part <;> exact ⟨_, rfl⟩

/-! ## Subscribers -/

/-- What is asked of a subscriber. -/
structure Subscriber.Lawful (subscriber : Subscriber) : Prop where
  /-- A level by itself is a setting for all events. -/
  level : ∀ entry ∈ Threshold.all, ∃ writes, subscriber.read? entry.1 = some writes
    ∧ ∀ e, writes e = entry.2.admits e.level
  /-- A level behind a target is a setting for the events whose origin begins with it. -/
  target : ∀ target : String, target ≠ "" → IsWord target.toList → ∀ entry ∈ Threshold.all,
    ∃ writes, subscriber.read? (target ++ "=" ++ entry.1) = some writes
      ∧ ∀ e, target.toList <+: e.origin.name → writes e = entry.2.admits e.level
  /-- A level that the program gives holds for all events. -/
  given : ∀ entry ∈ Threshold.all, ∀ e,
    subscriber.ofPieces entry.1 e = entry.2.admits e.level

namespace Subscriber

variable {subscriber : Subscriber} (h : subscriber.Lawful)
include h

theorem ofPieces_defaultLevel (verbosity : Nat) (e : Event) :
    subscriber.ofPieces (defaultLevel verbosity) e
      = (Threshold.ofVerbosity verbosity).admits e.level := by
  match verbosity with
  | 0 => exact h.given ("warn", .upTo .warn) (by decide) e
  | 1 => exact h.given ("info", .upTo .info) (by decide) e
  | 2 => exact h.given ("debug", .upTo .debug) (by decide) e
  | _ + 3 => exact h.given ("trace", .upTo .trace) (by decide) e

theorem exists_read?_of_mem_settings {setting : String} {t : Threshold}
    (hsetting : (setting, t) ∈ settings) :
    ∃ writes, subscriber.read? setting = some writes ∧ ∀ e, writes e = t.admits e.level := by
  rcases List.mem_append.mp hsetting with hmem | hmem
  · exact h.level (setting, t) hmem
  · obtain ⟨entry, hentry, heq⟩ := List.mem_map.mp hmem
    obtain ⟨rfl, rfl⟩ := Prod.mk.inj heq
    obtain ⟨writes, hread, hwrites⟩ := h.target "hailtext" (by decide) (by decide) entry hentry
    exact ⟨writes, hread, fun e => hwrites e e.origin.program_isPrefix⟩

/-- **What is in force** lets through what its threshold admits. -/
theorem inForce_of_effective? {setting? : Option String} {verbosity : Nat} {t : Threshold}
    (ht : Threshold.effective? setting? verbosity = some t) (e : Event) :
    subscriber.inForce setting? verbosity e = t.admits e.level := by
  cases setting? with
  | none =>
    obtain rfl : Threshold.ofVerbosity verbosity = t := Option.some.inj ht
    exact ofPieces_defaultLevel h verbosity e
  | some setting =>
    obtain ⟨before, behind, hsettings, -⟩ := List.lookup_eq_some_iff.mp ht
    have hmem : (setting, t) ∈ settings := by simp [hsettings]
    obtain ⟨writes, hread, hwrites⟩ := exists_read?_of_mem_settings h hmem
    rw [inForce, Option.bind_some, hread, Option.getD_some]
    exact hwrites e

end Subscriber

/-- A level is a word that is read as the threshold it names. -/
theorem Threshold.read?_of_mem_all : ∀ entry ∈ all,
    IsWord entry.1.toList ∧ entry.1.toList ≠ [] ∧ read? entry.1.toList = some entry.2
      ∧ Directive.read? entry.1.toList = some (.forAll entry.2) := by
  decide

/-- **Reading settings as directives** does what is asked. -/
theorem Subscriber.standard_lawful : Subscriber.Lawful standard where
  level entry hentry := by
    obtain ⟨hword, hne, -, hread⟩ := Threshold.read?_of_mem_all entry hentry
    have hfilter := Filter.ofSetting?_of_read? (hword.not_mem (by decide)) hne hread
    refine ⟨_, congrArg (Option.map Filter.passes) hfilter, ?_⟩
    intro e
    exact Filter.passes_singleton (.forAll entry.2) e
  target target hne htarget entry hentry := by
    obtain ⟨hword, -, ht, -⟩ := Threshold.read?_of_mem_all entry hentry
    have hne' : target.toList ≠ [] := by simpa using hne
    have htext : (target ++ "=" ++ entry.1).toList = target.toList ++ '=' :: entry.1.toList := by
      simp
    have hcomma : ',' ∉ target.toList ++ '=' :: entry.1.toList := by
      have hnot := htarget.not_mem (c := ',') (by decide)
      have hnot' := hword.not_mem (c := ',') (by decide)
      simp [hnot, hnot']
    have hread := Directive.read?_of_target htarget hne' hword ht
    have hfilter := Filter.ofSetting?_of_read? hcomma (by simp) hread
    rw [← htext] at hfilter
    refine ⟨_, congrArg (Option.map Filter.passes) hfilter, ?_⟩
    intro e hprefix
    rw [Filter.passes_singleton, Directive.concerns, List.isPrefixOf_iff_prefix.mpr hprefix]
    rfl
  given entry hentry e := by
    obtain ⟨hword, hne, -, hread⟩ := Threshold.read?_of_mem_all entry hentry
    have hfilter := Filter.ofPieces_of_read? (hword.not_mem (by decide)) hne hread
    show (Filter.ofPieces entry.1.toList).passes e = _
    rw [hfilter]
    exact Filter.passes_singleton (.forAll entry.2) e

end Log

end Utf8Text
