import Utf8Text.Proofs.LineBuffered
import Utf8Text.Proofs.Sink

/-!
# Sinks on a full standard output

Writing through a sink to a line buffer whose device is full has two ends: what
was written is all held back, or the write has failed. A line feed and a flush
with something held back always fail, so a line that can be decoded never gets
through (`Sink.writeLine_of_full`).
-/

namespace Utf8Text

open Decoding

namespace Sink

section
variable {s : Sink LineBuffered} (h : s.writer.device = .full)
include h

theorem writeCodepoint_of_full {cp : Nat} (hcp : cp ≤ maxEncodable) :
    (∃ s', s.writeCodepoint cp = (.ok (encoding cp).length, s') ∧ s'.writer.device = .full
        ∧ s'.writer.pending = s.writer.pending ++ encoding cp)
      ∨ ∃ e s', s.writeCodepoint cp = (.error (.write e), s') := by
  simp only [writeCodepoint, encode_eq_ok hcp]
  rcases LineBuffered.writeAll_of_full h (encoding cp) with ⟨-, hwrite⟩ | ⟨w', hwrite⟩
  · simp only [Writer.writeAll, hwrite]
    exact .inl ⟨_, rfl, h, rfl⟩
  · simp only [Writer.writeAll, hwrite]
    exact .inr ⟨_, _, rfl⟩

theorem writeCodepoint_lineFeed_of_full :
    ∃ e s', s.writeCodepoint lineFeed.toNat = (.error (.write e), s') := by
  have hencode : encode lineFeed.toNat = .ok [lineFeed] := rfl
  obtain ⟨w', hwrite⟩ := LineBuffered.writeAll_of_full_of_mem h (List.mem_singleton_self lineFeed)
  simp only [writeCodepoint, hencode, Writer.writeAll, hwrite]
  exact ⟨_, _, rfl⟩

/-- What gets through is held back, and a decode error is met with the device
still full. -/
theorem writeItems_of_full {cps : List Nat} (hcps : ∀ cp ∈ cps, cp ≤ maxEncodable)
    (error? : Option DecodeError) (count : Nat) :
    (∃ s', s.writeItems count (cps.map .codepoint ++ error?.toList.map .error)
          = (error?.elim (.ok (count + cps.length)) fun e => .error (.decode e), s')
        ∧ s'.writer.device = .full ∧ s'.writer.pending = s.writer.pending ++ encodings cps)
      ∨ ∃ e s', s.writeItems count (cps.map .codepoint ++ error?.toList.map .error)
          = (.error (.write e), s') := by
  induction cps generalizing s count with
  | nil =>
    refine .inl ⟨s, ?_, h, by simp⟩
    cases error? <;> rfl
  | cons cp cps ih =>
    simp only [List.map_cons, List.cons_append, writeItems]
    rcases writeCodepoint_of_full h (hcps cp (by simp)) with
      ⟨s₁, hwrite, hdevice, hpending⟩ | ⟨e, s₁, hwrite⟩
    · simp only [hwrite]
      rcases ih hdevice (fun x hx => hcps x (by simp [hx])) (count + 1) with
        ⟨s₂, hrest, hdevice₂, hpending₂⟩ | ⟨e, s₂, hrest⟩
      · refine .inl ⟨s₂, ?_, hdevice₂, ?_⟩
        · rw [hrest, List.length_cons, Nat.add_assoc, Nat.add_comm 1]
        · rw [hpending₂, hpending, List.append_assoc, encodings_cons]
      · exact .inr ⟨e, s₂, hrest⟩
    · simp only [hwrite]
      exact .inr ⟨e, s₁, rfl⟩

theorem writeText_of_full (text : Bytes) :
    (∃ s', s.writeText text
          = ((ofBytes text).error?.elim (.ok (ofBytes text).codepoints.length)
              fun e => .error (.decode e), s')
        ∧ s'.writer.device = .full
        ∧ s'.writer.pending = s.writer.pending ++ encodings (ofBytes text).codepoints)
      ∨ ∃ e s', s.writeText text = (.error (.write e), s') := by
  simpa [writeText, items, Decoding.items] using
    writeItems_of_full h (fun _ => le_maxEncodable_of_mem) (ofBytes text).error? 0

/-- A line that can be decoded fails at its end at the latest. -/
theorem writeLine_of_full (text : Bytes) :
    (∃ e s', s.writeLine text = (.error (.decode e), s') ∧ s'.writer.device = .full)
      ∨ ∃ e s', s.writeLine text = (.error (.write e), s') := by
  rw [writeLine]
  rcases writeText_of_full h text with ⟨s₁, hwrite, hdevice, -⟩ | ⟨e, s₁, hwrite⟩
  · rw [hwrite]
    cases (ofBytes text).error? with
    | some e => exact .inl ⟨e, s₁, rfl, hdevice⟩
    | none =>
      obtain ⟨e, s₂, hend⟩ := writeCodepoint_lineFeed_of_full hdevice
      simp only [Option.elim, hend]
      exact .inr ⟨e, s₂, rfl⟩
  · rw [hwrite]
    exact .inr ⟨e, s₁, rfl⟩

theorem flush_of_full (hpending : s.writer.pending ≠ []) :
    ∃ e s', s.flush = (.error (.write e), s') := by
  simp only [flush, Writer.flush, LineBuffered.drain_of_full h, if_neg hpending]
  exact ⟨_, _, rfl⟩

end

theorem encodings_ne_nil_of_mem {cps : List Nat} (hcps : ∀ cp ∈ cps, cp ≤ maxEncodable)
    (hne : cps ≠ []) : encodings cps ≠ [] := by
  obtain ⟨cp, rest, rfl⟩ := List.exists_cons_of_ne_nil hne
  have hpos := length_encoding_pos (hcps cp (by simp))
  intro hnil
  rw [encodings_cons, List.append_eq_nil_iff] at hnil
  rw [hnil.1] at hpos
  exact absurd hpos (by decide)

/-- A text that is not empty and can be decoded leaves something to write. -/
theorem encodings_ne_nil {text : Bytes} (herror : (ofBytes text).error? = none)
    (hne : text ≠ []) : encodings (ofBytes text).codepoints ≠ [] := by
  refine encodings_ne_nil_of_mem (fun _ => le_maxEncodable_of_mem) ?_
  intro hcps
  have hlength := stop_eq_length herror
  rw [stop, List.map_eq_nil_iff.mp hcps] at hlength
  exact hne (List.length_eq_zero_iff.mp hlength.symm)

end Sink

end Utf8Text
