import Utf8Text.Sink.Script

/-!
# Sinks over writers that behave alike

Two writers behave alike if they answer every request in the same way and stay
alike (`Writer.Simulation`). A sink looks at its writer through its answers
only, so whole scripts on sinks over such writers have the same answers
(`run_alike`).
-/

namespace Utf8Text

/-- The same answer, and related states after it. -/
def Alike {α σ σ' : Type} (R : σ → σ' → Prop) (x : α × σ) (y : α × σ') : Prop :=
  ∃ answer s s', x = (answer, s) ∧ y = (answer, s') ∧ R s s'

/-- Related writers answer alike. -/
structure Writer.Simulation {ω ω' : Type} [Writer ω] [Writer ω'] (R : ω → ω' → Prop) :
    Prop where
  writeAll : ∀ {w w'} (bytes : Bytes), R w w' →
    Alike R (Writer.writeAll w bytes) (Writer.writeAll w' bytes)
  flush : ∀ {w w'}, R w w' → Alike R (Writer.flush w) (Writer.flush w')

namespace Sink

variable {ω ω' : Type} {R : ω → ω' → Prop}

/-- Related writers, and the same count. -/
def Related (R : ω → ω' → Prop) (s : Sink ω) (s' : Sink ω') : Prop :=
  R s.writer s'.writer ∧ s.written = s'.written

variable [Writer ω] [Writer ω'] (hR : Writer.Simulation R)
include hR

theorem writeCodepoint_alike {s : Sink ω} {s' : Sink ω'} (h : Related R s s') (cp : Nat) :
    Alike (Related R) (s.writeCodepoint cp) (s'.writeCodepoint cp) := by
  cases hencode : encode cp with
  | error e =>
    refine ⟨.error (.encode e), s, s', ?_, ?_, h⟩
    · simp only [writeCodepoint, hencode]
    · simp only [writeCodepoint, hencode]
  | ok bytes =>
    obtain ⟨answer, w, w', hw, hw', hrelated⟩ := hR.writeAll bytes h.1
    simp only [writeCodepoint, hencode, hw, hw']
    cases answer with
    | error e => exact ⟨_, _, _, rfl, rfl, hrelated, h.2⟩
    | ok _ => exact ⟨_, _, _, rfl, rfl, hrelated, congrArg (· + bytes.length) h.2⟩

theorem writeItems_alike {s : Sink ω} {s' : Sink ω'} (h : Related R s s') (count : Nat)
    (items : List Item) :
    Alike (Related R) (s.writeItems count items) (s'.writeItems count items) := by
  induction items generalizing s s' count with
  | nil => exact ⟨_, _, _, rfl, rfl, h⟩
  | cons item items ih =>
    cases item with
    | error e => exact ⟨_, _, _, rfl, rfl, h⟩
    | codepoint cp =>
      obtain ⟨answer, t, t', ht, ht', hrelated⟩ := writeCodepoint_alike hR h cp
      simp only [writeItems, ht, ht']
      cases answer with
      | error e => exact ⟨_, _, _, rfl, rfl, hrelated⟩
      | ok _ => exact ih hrelated (count + 1)

theorem writeLine_alike {s : Sink ω} {s' : Sink ω'} (h : Related R s s') (text : Bytes) :
    Alike (Related R) (s.writeLine text) (s'.writeLine text) := by
  obtain ⟨answer, t, t', ht, ht', hrelated⟩ := writeItems_alike hR h 0 (items text)
  simp only [writeLine, writeText, ht, ht']
  cases answer with
  | error e => exact ⟨_, _, _, rfl, rfl, hrelated⟩
  | ok count =>
    obtain ⟨answer, u, u', hu, hu', hrelated⟩ :=
      writeCodepoint_alike hR hrelated lineFeed.toNat
    simp only [hu, hu']
    cases answer with
    | error e => exact ⟨_, _, _, rfl, rfl, hrelated⟩
    | ok _ => exact ⟨_, _, _, rfl, rfl, hrelated⟩

theorem flush_alike {s : Sink ω} {s' : Sink ω'} (h : Related R s s') :
    Alike (Related R) s.flush s'.flush := by
  obtain ⟨answer, w, w', hw, hw', hrelated⟩ := hR.flush h.1
  simp only [flush, hw, hw']
  cases answer with
  | error e => exact ⟨_, _, _, rfl, rfl, hrelated, h.2⟩
  | ok _ => exact ⟨_, _, _, rfl, rfl, hrelated, h.2⟩

theorem step_alike {s : Sink ω} {s' : Sink ω'} (h : Related R s s') (one : Step) :
    Alike (Related R) (s.step one) (s'.step one) := by
  cases one with
  | codepoint cp =>
    obtain ⟨answer, t, t', ht, ht', hrelated⟩ := writeCodepoint_alike hR h cp
    simp only [step, ht, ht']
    exact ⟨_, _, _, rfl, rfl, hrelated⟩
  | text bytes =>
    obtain ⟨answer, t, t', ht, ht', hrelated⟩ := writeItems_alike hR h 0 (items bytes)
    simp only [step, writeText, ht, ht']
    exact ⟨_, _, _, rfl, rfl, hrelated⟩
  | line bytes =>
    obtain ⟨answer, t, t', ht, ht', hrelated⟩ := writeLine_alike hR h bytes
    simp only [step, ht, ht']
    exact ⟨_, _, _, rfl, rfl, hrelated⟩
  | flush =>
    obtain ⟨answer, t, t', ht, ht', hrelated⟩ := flush_alike hR h
    simp only [step, ht, ht']
    exact ⟨_, _, _, rfl, rfl, hrelated⟩

/-- **Whole scripts** have the same answers, and leave related sinks. -/
theorem run_alike {s : Sink ω} {s' : Sink ω'} (h : Related R s s') (steps : List Step) :
    Alike (Related R) (s.run steps) (s'.run steps) := by
  induction steps generalizing s s' with
  | nil => exact ⟨_, _, _, rfl, rfl, h⟩
  | cons one steps ih =>
    obtain ⟨answer, t, t', ht, ht', hrelated⟩ := step_alike hR h one
    obtain ⟨answers, u, u', hu, hu', hlast⟩ := ih hrelated
    simp only [run, ht, ht', hu, hu', hrelated.2]
    exact ⟨_, _, _, rfl, rfl, hlast⟩

end Sink

end Utf8Text
