import Mathlib.Order.Bounds.Defs
import Utf8Text.Proofs.Boundary
import Utf8Text.Proofs.Sink
import Utf8Text.Proofs.Sink.Simulation

/-!
# Sinks over limited writers

A step of a script asks the sink for codepoints. Either the writer takes all of
them, or its room ends inside or in front of one of them; then what comes
before that one is written whole, and the writer is full ever after. Both are
said with `Took`, which tells the codepoints written whole from the bytes of one
that was torn, and both are kept along a script (`run_cases`).

From that follows what a limit does to a script as a whole (`run_on_limited`):
the output is cut off at the limit, and the count stays at the last boundary
before it.
-/

namespace Utf8Text

open Decoding

namespace Sink

/-! ## What a sink has taken -/

/-- Between two states of a sink, the codepoints `whole` were written, and then
the bytes `torn` of a codepoint that was not. -/
structure Took (s : Sink LimitedWriter) (whole : List Nat) (torn : Bytes)
    (s' : Sink LimitedWriter) : Prop where
  output : s'.writer.output = s.writer.output ++ (encodings whole ++ torn)
  written : s'.written = s.written + (encodings whole).length
  fits : ∀ room ∈ s.writer.room?, (encodings whole).length + torn.length ≤ room
  room : s'.writer.room?
    = s.writer.room?.map (· - ((encodings whole).length + torn.length))
  chunk : s'.writer.chunk? = s.writer.chunk?

/-- The room ended at one of the codepoints that the sink was asked for. -/
def BrokeOff (s : Sink LimitedWriter) (cps : List Nat) (s' : Sink LimitedWriter) : Prop :=
  ∃ whole next rest torn, cps = whole ++ next :: rest ∧ s.Took whole torn s'
    ∧ torn <+: encoding next ∧ torn.length < (encoding next).length
    ∧ s'.writer.room? = some 0

section
variable {s s₁ s₂ : Sink LimitedWriter} {xs ys : List Nat} {torn : Bytes}

theorem Took.refl (s : Sink LimitedWriter) : s.Took [] [] s where
  output := by simp
  written := rfl
  fits := by simp
  room := by simp
  chunk := rfl

theorem Took.trans (h₁ : s.Took xs [] s₁) (h₂ : s₁.Took ys torn s₂) :
    s.Took (xs ++ ys) torn s₂ := by
  have hlength := length_encodings_append xs ys
  refine ⟨?_, ?_, ?_, ?_, h₂.chunk.trans h₁.chunk⟩
  · rw [h₂.output, h₁.output, encodings_append, List.append_nil, List.append_assoc,
      List.append_assoc]
  · rw [h₂.written, h₁.written, hlength, Nat.add_assoc]
  · intro room hroom
    have hfits := h₁.fits room hroom
    have hleft := h₂.fits (room - ((encodings xs).length + 0)) (by
      rw [h₁.room, Option.mem_def.mp hroom]
      rfl)
    simp only [List.length_nil] at hfits
    omega
  · rw [h₂.room, h₁.room, Option.map_map, hlength]
    congr 1
    funext room
    show room - ((encodings xs).length + 0) - _ = _
    omega

/-- Nothing gets through to a full writer. -/
theorem Took.of_full (h : s.Took xs torn s₁) (hroom : s.writer.room? = some 0) :
    s₁.writer.output = s.writer.output ∧ s₁.written = s.written
      ∧ s₁.writer.room? = some 0 := by
  have hfits := h.fits 0 hroom
  have hwhole : encodings xs = [] := List.length_eq_zero_iff.mp (by omega)
  have htorn : torn = [] := List.length_eq_zero_iff.mp (by omega)
  refine ⟨?_, ?_, ?_⟩
  · rw [h.output, hwhole, htorn, List.append_nil, List.append_nil]
  · rw [h.written, hwhole]
    rfl
  · rw [h.room, hroom, Option.map_some, Nat.zero_sub]

theorem BrokeOff.append (h : s.BrokeOff xs s₁) (ys : List Nat) : s.BrokeOff (xs ++ ys) s₁ := by
  obtain ⟨whole, next, rest, torn, rfl, htook, hprefix, hlt, hroom⟩ := h
  exact ⟨whole, next, rest ++ ys, torn, by simp, htook, hprefix, hlt, hroom⟩

theorem Took.brokeOff (h₁ : s.Took xs [] s₁) (h₂ : s₁.BrokeOff ys s₂) :
    s.BrokeOff (xs ++ ys) s₂ := by
  obtain ⟨whole, next, rest, torn, rfl, htook, hprefix, hlt, hroom⟩ := h₂
  exact ⟨xs ++ whole, next, rest, torn, by simp, h₁.trans htook, hprefix, hlt, hroom⟩

/-- What is asked for after the room has ended makes no difference. -/
theorem BrokeOff.trans (h₁ : s.BrokeOff xs s₁) {more : List Nat}
    (h₂ : s₁.Took more torn s₂) (ys : List Nat) : s.BrokeOff (xs ++ ys) s₂ := by
  obtain ⟨whole, next, rest, torn, rfl, htook, hprefix, hlt, hroom⟩ := h₁
  obtain ⟨houtput, hwritten, hroom'⟩ := h₂.of_full hroom
  refine ⟨whole, next, rest ++ ys, torn, by simp, ⟨?_, ?_, htook.fits, ?_, ?_⟩, hprefix, hlt,
    hroom'⟩
  · rw [houtput, htook.output]
  · rw [hwritten, htook.written]
  · rw [hroom', ← hroom, htook.room]
  · rw [h₂.chunk, htook.chunk]

end

/-! ## One codepoint -/

section
variable {s : Sink LimitedWriter} (hchunk : s.writer.chunk? ≠ some 0)
include hchunk

theorem writeCodepoint_cases {cp : Nat} (hcp : cp ≤ maxEncodable) :
    (∃ s', s.writeCodepoint cp = (.ok (encoding cp).length, s') ∧ s.Took [cp] [] s')
      ∨ ∃ e s', s.writeCodepoint cp = (.error (.write e), s') ∧ s.BrokeOff [cp] s' := by
  have hsingle : encodings [cp] = encoding cp := List.append_nil _
  by_cases hfits : ∀ room ∈ s.writer.room?, (encoding cp).length ≤ room
  · refine .inl ⟨⟨s.writer.push (encoding cp) (encoding cp).length,
      s.written + (encoding cp).length⟩, ?_, ?_⟩
    · simp only [writeCodepoint, encode_eq_ok hcp, LimitedWriter.writeAll_of_fits hchunk hfits]
    · refine ⟨?_, ?_, ?_, ?_, rfl⟩
      · rw [LimitedWriter.output_push, List.take_length, hsingle, List.append_nil]
      · rw [hsingle]
      · rw [hsingle]
        exact hfits
      · rw [hsingle]
        rfl
  · push Not at hfits
    obtain ⟨room, hroom, hlt⟩ := hfits
    have htorn : ((encoding cp).take room).length = room := by
      rw [List.length_take]
      omega
    refine .inr ⟨s.writer.refusal, ⟨s.writer.push (encoding cp) room, s.written⟩, ?_, ?_⟩
    · simp only [writeCodepoint, encode_eq_ok hcp,
        LimitedWriter.writeAll_of_lt hchunk hroom hlt]
    · refine ⟨[], cp, [], (encoding cp).take room, rfl, ⟨?_, rfl, ?_, ?_, rfl⟩,
        List.take_prefix _ _, by omega, ?_⟩
      · rw [LimitedWriter.output_push]
        rfl
      · intro room' hroom'
        obtain rfl : room = room' := Option.some.inj (hroom.symm.trans hroom')
        show 0 + _ ≤ _
        omega
      · show s.writer.room?.map (· - room) = s.writer.room?.map (· - (0 + _))
        rw [htorn, Nat.zero_add]
      · show s.writer.room?.map (· - room) = some 0
        rw [Option.mem_def.mp hroom, Option.map_some, Nat.sub_self]

/-! ## Texts and lines -/

/-- Codepoints that can be encoded, with perhaps an error behind them. -/
theorem writeItems_cases {cps : List Nat} (hcps : ∀ cp ∈ cps, cp ≤ maxEncodable)
    (error? : Option DecodeError) (count : Nat) :
    (∃ s', s.writeItems count (cps.map .codepoint ++ error?.toList.map .error)
          = (error?.elim (.ok (count + cps.length)) fun e => .error (.decode e), s')
        ∧ s.Took cps [] s')
      ∨ ∃ e s', s.writeItems count (cps.map .codepoint ++ error?.toList.map .error)
          = (.error (.write e), s') ∧ s.BrokeOff cps s' := by
  induction cps generalizing s count with
  | nil =>
    refine .inl ⟨s, ?_, .refl s⟩
    cases error? <;> rfl
  | cons cp cps ih =>
    simp only [List.map_cons, List.cons_append, writeItems]
    rcases writeCodepoint_cases hchunk (hcps cp (by simp)) with
      ⟨s₁, hwrite, htook⟩ | ⟨e, s₁, hwrite, hbroke⟩
    · have hchunk₁ : s₁.writer.chunk? ≠ some 0 := htook.chunk ▸ hchunk
      simp only [hwrite]
      rcases ih hchunk₁ (fun x hx => hcps x (by simp [hx])) (count + 1) with
        ⟨s₂, hrest, htook₂⟩ | ⟨e, s₂, hrest, hbroke⟩
      · refine .inl ⟨s₂, ?_, htook.trans htook₂⟩
        rw [hrest, List.length_cons, Nat.add_assoc, Nat.add_comm 1]
      · exact .inr ⟨e, s₂, hrest, htook.brokeOff hbroke⟩
    · simp only [hwrite]
      exact .inr ⟨e, s₁, rfl, hbroke.append cps⟩

theorem writeText_cases (text : Bytes) :
    (∃ s', s.writeText text
          = ((ofBytes text).error?.elim (.ok (ofBytes text).codepoints.length)
              fun e => .error (.decode e), s')
        ∧ s.Took (ofBytes text).codepoints [] s')
      ∨ ∃ e s', s.writeText text = (.error (.write e), s')
        ∧ s.BrokeOff (ofBytes text).codepoints s' := by
  simpa [writeText, items, Decoding.items] using
    writeItems_cases hchunk (fun _ => le_maxEncodable_of_mem) (ofBytes text).error? 0

end

/-! ## Steps -/

/-- The codepoints that a step asks for. -/
def Step.codepoints : Step → List Nat
  | .codepoint cp => if cp ≤ maxEncodable then [cp] else []
  | .text bytes => (ofBytes bytes).codepoints
  | .line bytes =>
    (ofBytes bytes).codepoints
      ++ if (ofBytes bytes).error? = none then [lineFeed.toNat] else []
  | .flush => []

/-- What a step reports if the writer takes everything and flushes. -/
def Step.answer : Step → Except SinkError (Option Nat)
  | .codepoint cp =>
    if cp ≤ maxEncodable then .ok (some (encoding cp).length) else .error (.encode ⟨cp⟩)
  | .text bytes | .line bytes =>
    (ofBytes bytes).error?.elim (.ok (some (ofBytes bytes).codepoints.length))
      fun e => .error (.decode e)
  | .flush => .ok none

section
variable {s : Sink LimitedWriter} (hchunk : s.writer.chunk? ≠ some 0)
include hchunk

theorem step_line_cases (bytes : Bytes) :
    (∃ s', s.step (.line bytes) = ((Step.line bytes).answer, s')
        ∧ s.Took (Step.line bytes).codepoints [] s')
      ∨ ∃ e s', s.step (.line bytes) = (.error (.write e), s')
        ∧ s.BrokeOff (Step.line bytes).codepoints s' := by
  simp only [step, writeLine, Step.answer, Step.codepoints]
  rcases writeText_cases hchunk bytes with ⟨s₁, hwrite, htook⟩ | ⟨e, s₁, hwrite, hbroke⟩
  · rw [hwrite]
    cases herror : (ofBytes bytes).error? with
    | some e =>
      -- the line feed is not reached
      exact .inl ⟨s₁, rfl, by simpa using htook⟩
    | none =>
      have hchunk₁ : s₁.writer.chunk? ≠ some 0 := htook.chunk ▸ hchunk
      simp only [Option.elim, if_true]
      have hlineFeed : lineFeed.toNat ≤ maxEncodable := by decide
      rcases writeCodepoint_cases hchunk₁ hlineFeed with
        ⟨s₂, hend, htook₂⟩ | ⟨e, s₂, hend, hbroke⟩
      · rw [hend]
        exact .inl ⟨s₂, rfl, htook.trans htook₂⟩
      · rw [hend]
        exact .inr ⟨e, s₂, rfl, htook.brokeOff hbroke⟩
  · rw [hwrite]
    exact .inr ⟨e, s₁, rfl, hbroke.append _⟩

/-- **One step**: the writer takes all that it is asked for, or the room ends on
the way and the step fails. Only a flush may fail besides, and it takes
nothing. -/
theorem step_cases (one : Step) :
    (∃ answer s', s.step one = (answer, s') ∧ s.Took one.codepoints [] s'
        ∧ (answer = one.answer ∨ one = .flush))
      ∨ ∃ e s', s.step one = (.error (.write e), s') ∧ s.BrokeOff one.codepoints s' := by
  cases one with
  | codepoint cp =>
    simp only [step, Step.answer, Step.codepoints]
    by_cases hcp : cp ≤ maxEncodable
    · rw [if_pos hcp, if_pos hcp]
      rcases writeCodepoint_cases hchunk hcp with ⟨s', hwrite, htook⟩ | ⟨e, s', hwrite, hbroke⟩
      · rw [hwrite]
        exact .inl ⟨_, s', rfl, htook, .inl rfl⟩
      · rw [hwrite]
        exact .inr ⟨e, s', rfl, hbroke⟩
    · rw [if_neg hcp, if_neg hcp, writeCodepoint, (encode_eq_error (Nat.not_le.mp hcp)).1]
      exact .inl ⟨_, s, rfl, .refl s, .inl rfl⟩
  | text bytes =>
    simp only [step, Step.answer, Step.codepoints]
    rcases writeText_cases hchunk bytes with ⟨s', hwrite, htook⟩ | ⟨e, s', hwrite, hbroke⟩
    · rw [hwrite]
      refine .inl ⟨_, s', rfl, htook, .inl ?_⟩
      cases (ofBytes bytes).error? <;> rfl
    · rw [hwrite]
      exact .inr ⟨e, s', rfl, hbroke⟩
  | line bytes =>
    rcases step_line_cases hchunk bytes with ⟨s', hstep, htook⟩ | ⟨e, s', hstep, hbroke⟩
    · exact .inl ⟨_, s', hstep, htook, .inl rfl⟩
    · exact .inr ⟨e, s', hstep, hbroke⟩
  | flush =>
    have htook : s.Took [] [] { s with writer := s.writer.flush.2 } := by
      refine ⟨?_, rfl, by simp, ?_, rfl⟩
      · rw [encodings_nil, List.append_nil, List.append_nil]
        rfl
      · simp [LimitedWriter.flush]
    cases hrefuses : s.writer.refusesFlush with
    | true =>
      refine .inl ⟨.error (.write .flushRefused), _, ?_, htook, .inr rfl⟩
      simp [step, flush, Writer.flush, LimitedWriter.flush, hrefuses, Except.map]
    | false =>
      refine .inl ⟨.ok none, _, ?_, htook, .inr rfl⟩
      simp [step, flush, Writer.flush, LimitedWriter.flush, hrefuses, Except.map]

/-! ## Scripts -/

/-- **A script**: failures on the way do not stop it, and what it has asked for
in all decides what the writer has taken. -/
theorem run_cases (steps : List Step) :
    s.Took (steps.flatMap Step.codepoints) [] (s.run steps).2
      ∨ s.BrokeOff (steps.flatMap Step.codepoints) (s.run steps).2 := by
  induction steps generalizing s with
  | nil => exact .inl (.refl s)
  | cons one steps ih =>
    rw [List.flatMap_cons]
    rcases step_cases hchunk one with ⟨answer, s₁, hstep, htook, -⟩ | ⟨e, s₁, hstep, hbroke⟩
    · have hchunk₁ : s₁.writer.chunk? ≠ some 0 := htook.chunk ▸ hchunk
      simp only [run, hstep]
      rcases ih hchunk₁ with htook₂ | hbroke
      · exact .inl (htook.trans htook₂)
      · exact .inr (htook.brokeOff hbroke)
    · have hchunk₁ : s₁.writer.chunk? ≠ some 0 := by
        obtain ⟨_, _, _, _, _, htook, _⟩ := hbroke
        exact htook.chunk ▸ hchunk
      simp only [run, hstep]
      rcases ih hchunk₁ with htook₂ | ⟨_, _, _, _, _, htook₂, _⟩
      · exact .inr (hbroke.trans htook₂ _)
      · exact .inr (hbroke.trans htook₂ _)

end

/-! ## What a limit does -/

/-- A cut inside an encoding leaves the encodings before it whole. -/
theorem isGreatest_boundary {whole rest : List Nat} {next n : Nat}
    (h : n < (encoding next).length) :
    IsGreatest {o | IsBoundary (whole ++ next :: rest) o ∧ o ≤ (encodings whole).length + n}
      (encodings whole).length := by
  refine ⟨⟨isBoundary_length _, Nat.le_add_right _ _⟩, ?_⟩
  rintro o ⟨hboundary, hle⟩
  by_contra hgt
  exact not_isBoundary_of_inside (Nat.not_le.mp hgt) (by omega) hboundary

/-- What a limit leaves of the encodings that a sink was asked for: the output
is cut off, and the count stays at the last boundary. -/
structure CutOff (limit? : Option Nat) (asked : List Nat) (s : Sink LimitedWriter) :
    Prop where
  output : s.writer.output
    = (encodings asked).take (LimitedWriter.capped limit? (encodings asked).length)
  written : IsGreatest {o | IsBoundary asked o ∧ o ≤ s.writer.output.length} s.written
  close : s.writer.output.length ≤ s.written + 3

section
variable {s s' : Sink LimitedWriter} {cps : List Nat} (hempty : s.writer.output = [])
  (hzero : s.written = 0)
include hempty hzero

theorem Took.cutOff (h : s.Took cps [] s') : CutOff s.writer.room? cps s' := by
  have houtput : s'.writer.output = encodings cps := by
    rw [h.output, hempty, List.nil_append, List.append_nil]
  have hwritten : s'.written = (encodings cps).length := by
    rw [h.written, hzero, Nat.zero_add]
  have hcapped : LimitedWriter.capped s.writer.room? (encodings cps).length
      = (encodings cps).length := by
    cases hroom : s.writer.room? with
    | none => rfl
    | some room => exact Nat.min_eq_left (h.fits room hroom)
  have hend : IsBoundary cps (encodings cps).length := by
    have happend : IsBoundary (cps ++ []) (encodings cps).length := isBoundary_length []
    rwa [List.append_nil] at happend
  refine ⟨?_, ?_, ?_⟩
  · rw [houtput, hcapped, List.take_length]
  · rw [houtput, hwritten]
    exact ⟨⟨hend, Nat.le_refl _⟩, fun o ho => ho.2⟩
  · rw [houtput, hwritten]
    exact Nat.le_add_right _ _

theorem BrokeOff.cutOff (h : s.BrokeOff cps s') : CutOff s.writer.room? cps s' := by
  obtain ⟨whole, next, rest, torn, rfl, htook, hprefix, hlt, hfull⟩ := h
  have houtput : s'.writer.output = encodings whole ++ torn := by
    rw [htook.output, hempty, List.nil_append]
  have hwritten : s'.written = (encodings whole).length := by
    rw [htook.written, hzero, Nat.zero_add]
  -- the room was just what got through
  have hroom : s.writer.room? = some ((encodings whole).length + torn.length) := by
    have hleft := htook.room
    rw [hfull] at hleft
    cases hroom : s.writer.room? with
    | none =>
      rw [hroom] at hleft
      cases hleft
    | some room =>
      have hfits := htook.fits room hroom
      rw [hroom, Option.map_some, Option.some.injEq] at hleft
      rw [Option.some.injEq]
      omega
  have htotal : (encodings whole).length + torn.length
      ≤ (encodings (whole ++ next :: rest)).length := by
    rw [length_encodings_append, encodings_cons, List.length_append]
    omega
  refine ⟨?_, ?_, ?_⟩
  · rw [houtput, hroom, LimitedWriter.capped_some, Nat.min_eq_right htotal, encodings_append,
      List.take_length_add_append, encodings_cons, List.take_append_of_le_length hlt.le,
      ← List.prefix_iff_eq_take.mp hprefix]
  · rw [houtput, hwritten, List.length_append]
    exact isGreatest_boundary hlt
  · have hfour := length_encoding_le_four next
    rw [houtput, hwritten, List.length_append]
    omega

end

theorem run_fresh_cutOff {chunk? : Option Nat} (hchunk : chunk? ≠ some 0)
    (limit? : Option Nat) (stalls refusesFlush : Bool) (steps : List Step) :
    CutOff limit? (steps.flatMap Step.codepoints)
      ((Sink.onto (LimitedWriter.fresh chunk? limit? stalls refusesFlush)).run steps).2 := by
  have hcases := run_cases
    (s := Sink.onto (LimitedWriter.fresh chunk? limit? stalls refusesFlush)) hchunk steps
  rcases hcases with htook | hbroke
  · exact htook.cutOff rfl rfl
  · exact hbroke.cutOff rfl rfl

/-! ## The size of the calls -/

/-- Sinks whose writers differ in the size of their calls only. -/
def SameButChunk (w w' : LimitedWriter) : Prop :=
  ∃ chunk?, w' = { w with chunk? } ∧ w.chunk? ≠ some 0 ∧ chunk? ≠ some 0

theorem simulation_sameButChunk : Writer.Simulation SameButChunk where
  writeAll {w w'} bytes := by
    rintro ⟨chunk?, rfl, hchunk, hchunk'⟩
    by_cases hfits : ∀ room ∈ w.room?, bytes.length ≤ room
    · exact ⟨_, _, _, LimitedWriter.writeAll_of_fits hchunk hfits,
        LimitedWriter.writeAll_of_fits (w := { w with chunk? }) hchunk' hfits,
        chunk?, rfl, hchunk, hchunk'⟩
    · push Not at hfits
      obtain ⟨room, hroom, hlt⟩ := hfits
      exact ⟨_, _, _, LimitedWriter.writeAll_of_lt hchunk hroom hlt,
        LimitedWriter.writeAll_of_lt (w := { w with chunk? }) hchunk' hroom hlt,
        chunk?, rfl, hchunk, hchunk'⟩
  flush {w w'} := by
    rintro ⟨chunk?, rfl, hchunk, hchunk'⟩
    exact ⟨_, _, _, rfl, rfl, chunk?, rfl, hchunk, hchunk'⟩

/-! ## What a step adds to the count -/

theorem codepoints_eq_nil_of_answer {one : Step} {e : EncodeError}
    (h : one.answer = .error (.encode e)) : one.codepoints = [] := by
  cases one with
  | codepoint cp =>
    by_cases hcp : cp ≤ maxEncodable
    · simp [Step.answer, hcp] at h
    · simp [Step.codepoints, hcp]
  | text bytes => cases herror : (ofBytes bytes).error? <;> simp [Step.answer, herror] at h
  | line bytes => cases herror : (ofBytes bytes).error? <;> simp [Step.answer, herror] at h
  | flush => rfl

section
variable {s : Sink LimitedWriter} (hchunk : s.writer.chunk? ≠ some 0)
include hchunk

theorem written_step (one : Step) :
    ∃ whole torn, (s.step one).2.written = s.written + (encodings whole).length
      ∧ (s.step one).2.writer.output = s.writer.output ++ (encodings whole ++ torn)
      ∧ (whole = one.codepoints ∧ torn = [] ∧ ((s.step one).1 = one.answer ∨ one = .flush)
        ∨ ∃ broken rest e, one.codepoints = whole ++ broken :: rest
          ∧ torn <+: encoding broken ∧ torn.length < (encoding broken).length
          ∧ (s.step one).1 = .error (.write e)) := by
  rcases step_cases hchunk one with ⟨answer, s', hstep, htook, hanswer⟩ | ⟨e, s', hstep, hbroke⟩
  · rw [hstep]
    exact ⟨one.codepoints, [], htook.written, htook.output, .inl ⟨rfl, rfl, hanswer⟩⟩
  · obtain ⟨whole, broken, rest, torn, hasked, htook, hprefix, hlt, -⟩ := hbroke
    rw [hstep]
    exact ⟨whole, torn, htook.written, htook.output,
      .inr ⟨broken, rest, e, hasked, hprefix, hlt, rfl⟩⟩

theorem written_step_of_encode_error {one : Step} {e : EncodeError}
    (h : (s.step one).1 = .error (.encode e)) : (s.step one).2.written = s.written := by
  obtain ⟨whole, torn, hwritten, -, ⟨rfl, -, hanswer⟩ | ⟨_, _, _, -, -, -, hwrite⟩⟩ :=
    written_step hchunk one
  · have hnone : one.codepoints = [] := by
      rcases hanswer with hanswer | rfl
      · exact codepoints_eq_nil_of_answer (hanswer.symm.trans h)
      · rfl
    rw [hwritten, hnone]
    rfl
  · rw [h] at hwrite
    cases hwrite

theorem chunk_run (steps : List Step) : (s.run steps).2.writer.chunk? = s.writer.chunk? := by
  rcases run_cases hchunk steps with htook | ⟨_, _, _, _, -, htook, -⟩
  · exact htook.chunk
  · exact htook.chunk

end

/-- **A script over a limited writer.** On a writer without limits it writes the
encodings of all it asks for. On a limited one the output is the same up to the
limit, and the count is the last boundary there. Neither the answers nor the
output nor the count depend on the size of the calls. Each step, also after
failures, adds to the count the encodings of those codepoints that were written
whole: all that it asks for, or those before one at which the writer failed. -/
theorem run_on_limited {chunk? : Option Nat} (hchunk : chunk? ≠ some 0)
    (limit? : Option Nat) (stalls refusesFlush : Bool) (steps : List Step) :
    let start (chunk? limit? : Option Nat) :=
      Sink.onto (LimitedWriter.fresh chunk? limit? stalls refusesFlush)
    let run := (start chunk? limit?).run steps
    let s := run.2
    let asked := steps.flatMap Step.codepoints
    let unlimited := ((start none none).run steps).2.writer.output
    unlimited = encodings asked
      ∧ s.writer.output = unlimited.take (LimitedWriter.capped limit? unlimited.length)
      ∧ IsGreatest {o | IsBoundary asked o ∧ o ≤ s.writer.output.length} s.written
      ∧ s.writer.output.length ≤ s.written + 3
      ∧ (∀ other? : Option Nat, other? ≠ some 0 →
        let run' := (start other? limit?).run steps
        run'.1 = run.1 ∧ run'.2.writer.output = s.writer.output ∧ run'.2.written = s.written)
      ∧ ∀ one : Step,
        let s' := (s.step one).2
        (one = .flush → s'.written = s.written)
          ∧ (∀ e, (s.step one).1 = .error (.encode e) → s'.written = s.written)
          ∧ ∃ whole torn, s'.written = s.written + (encodings whole).length
            ∧ s'.writer.output = s.writer.output ++ (encodings whole ++ torn)
            ∧ (whole = one.codepoints ∧ torn = []
                ∧ ((s.step one).1 = one.answer ∨ one = .flush)
              ∨ ∃ broken rest e, one.codepoints = whole ++ broken :: rest
                ∧ torn <+: encoding broken ∧ torn.length < (encoding broken).length
                ∧ (s.step one).1 = .error (.write e)) := by
  intro start run s asked unlimited
  have hlimited : CutOff limit? asked s :=
    run_fresh_cutOff hchunk limit? stalls refusesFlush steps
  have hunlimited : unlimited = encodings asked := by
    have hnone : (none : Option Nat) ≠ some 0 := by decide
    have hcut := run_fresh_cutOff hnone none stalls refusesFlush steps
    rw [← List.take_length (l := encodings asked)]
    exact hcut.output
  have hchunk' : s.writer.chunk? ≠ some 0 := by
    rw [show s.writer.chunk? = chunk? from chunk_run (s := start chunk? limit?) hchunk steps]
    exact hchunk
  refine ⟨hunlimited, ?_, hlimited.written, hlimited.close, ?_, ?_⟩
  · rw [hunlimited]
    exact hlimited.output
  · intro other? hother
    have hrelated : Related SameButChunk (start chunk? limit?) (start other? limit?) :=
      ⟨⟨other?, rfl, hchunk, hother⟩, rfl⟩
    obtain ⟨answers, t, t', hrun, hrun', ⟨chunk'?, hwriter, -, -⟩, hwritten⟩ :=
      run_alike simulation_sameButChunk hrelated steps
    simp only [s, run, hrun, hrun', hwriter, hwritten]
    exact ⟨trivial, rfl, trivial⟩
  · intro one
    refine ⟨?_, ?_, written_step hchunk' one⟩
    · rintro rfl
      obtain ⟨whole, torn, hwritten, -, ⟨rfl, -⟩ | ⟨_, _, _, hasked, -⟩⟩ :=
        written_step hchunk' .flush
      · exact hwritten
      · exact absurd hasked (by simp [Step.codepoints])
    · intro e he
      exact written_step_of_encode_error hchunk' he

/-- A letter and a euro sign, byte by byte, with room for three bytes: the euro
sign is torn, and what comes after it is refused. -/
theorem run_on_three_bytes :
    (some 1 : Option Nat) ≠ some 0
      ∧ let run := (Sink.onto (LimitedWriter.fresh (some 1) (some 3) false true)).run
          [.text [0x41, 0xE2, 0x82, 0xAC], .flush, .codepoint 0x42]
        run.2.writer.output = [0x41, 0xE2, 0x82]
          ∧ IsGreatest {o | IsBoundary [0x41, 0x20AC, 0x42] o ∧ o ≤ 3} run.2.written := by
  have hchunk : (some 1 : Option Nat) ≠ some 0 := by decide
  obtain ⟨hall, houtput, hwritten, -⟩ := run_on_limited hchunk (some 3) false true
    [.text [0x41, 0xE2, 0x82, 0xAC], .flush, .codepoint 0x42]
  rw [hall] at houtput
  rw [houtput] at hwritten
  exact ⟨hchunk, houtput, hwritten⟩

end Sink

end Utf8Text
