import Utf8Text.Proofs.Sink.Full
import Utf8Text.StandardOutput

/-!
# Nothing is held back

On a standard output that takes everything, a codepoint or a line that is written without
an error has gone out, behind what was held back before (`printCodepoint_of_accepting`,
`printLine_of_accepting`). Only a line that breaks off at a decode error stays in the
buffer. A full standard output takes neither.
-/

namespace Utf8Text.StandardOutput

open Decoding

theorem flush_of_accepting {s : Sink LineBuffered} (h : s.writer.device = .accepting) :
    ∃ s', s.flush = (.ok (), s') ∧ s'.writer.device = .accepting ∧ s'.writer.pending = []
      ∧ s'.writer.output = s.writer.output ++ s.writer.pending := by
  simp only [Sink.flush, Writer.flush, LineBuffered.drain_of_accepting h]
  exact ⟨_, rfl, h, rfl, by simp [LineBuffered.output]⟩

/-! ## Codepoints -/

section
variable {w : LineBuffered} {cp : Nat}

theorem printCodepoint_of_refused (hcp : maxEncodable < cp) :
    printCodepoint w cp = (.error (.encode ⟨cp⟩), w) := by
  simp only [printCodepoint, Sink.writeCodepoint, (encode_eq_error hcp).1]
  rfl

theorem printCodepoint_of_accepting (h : w.device = .accepting) (hcp : cp ≤ maxEncodable) :
    ∃ w', printCodepoint w cp = (.ok (), w') ∧ w'.device = .accepting ∧ w'.pending = []
      ∧ w'.output = w.output ++ w.pending ++ encoding cp := by
  obtain ⟨w₁, hwrite, hready, houtput⟩ :=
    Sink.writeCodepoint_of_takesAll LineBuffered.takesAll (s := .onto w) h hcp
  obtain ⟨s', hflush, hready', hpending, hout⟩ :=
    flush_of_accepting (s := ⟨w₁, (Sink.onto w).written + (encoding cp).length⟩) hready
  refine ⟨s'.writer, ?_, hready', hpending, hout.trans houtput⟩
  simp only [printCodepoint, hwrite, hflush]

theorem printCodepoint_of_full (h : w.device = .full) (hcp : cp ≤ maxEncodable) :
    ∃ e w', printCodepoint w cp = (.error (.write e), w') := by
  rcases Sink.writeCodepoint_of_full (s := .onto w) h hcp with
    ⟨s', hwrite, hfull, hpending⟩ | ⟨e, s', hwrite⟩
  · have hheld : s'.writer.pending ≠ [] := by
      rw [hpending]
      exact List.append_ne_nil_of_right_ne_nil _
        (List.ne_nil_of_length_pos (length_encoding_pos hcp))
    obtain ⟨e, s₂, hflush⟩ := Sink.flush_of_full hfull hheld
    exact ⟨e, s₂.writer, by simp only [printCodepoint, hwrite, hflush]⟩
  · exact ⟨e, s'.writer, by simp only [printCodepoint, hwrite]⟩

end

/-! ## Lines -/

section
variable {w : LineBuffered} (text : Buffer)

theorem printLine_of_accepting (h : w.device = .accepting) :
    let read := ofBytes text.bytes
    ∃ w', printLine w text
        = (read.error?.elim (.ok read.codepoints.length) fun e => .error (.decode e), w')
      ∧ w'.output ++ w'.pending = w.output ++ w.pending ++ encodings read.codepoints
        ++ (if read.error? = none then [lineFeed] else [])
      ∧ (read.error? = none → w'.pending = []) := by
  intro read
  obtain ⟨s, hwrite, hready, houtput⟩ :=
    Sink.writeLine_of_takesAll LineBuffered.takesAll (s := .onto w) h text.bytes
  cases herror : read.error? with
  | some e =>
    rw [herror] at hwrite houtput
    refine ⟨s.writer, ?_, houtput, nofun⟩
    simp only [printLine, hwrite, Option.elim]
  | none =>
    rw [herror] at hwrite houtput
    obtain ⟨s', hflush, -, hpending, hout⟩ := flush_of_accepting hready
    refine ⟨s'.writer, ?_, ?_, fun _ => hpending⟩
    · simp only [printLine, hwrite, Option.elim, hflush]
      rfl
    · rw [hpending, List.append_nil, hout]
      exact houtput

theorem printLine_of_full (h : w.device = .full) :
    ∃ e w', printLine w text = (.error e, w') := by
  rcases Sink.writeLine_of_full (s := .onto w) h text.bytes with
    ⟨e, s', hwrite, -⟩ | ⟨e, s', hwrite⟩
  · exact ⟨.decode e, s'.writer, by simp only [printLine, hwrite]⟩
  · exact ⟨.write e, s'.writer, by simp only [printLine, hwrite]⟩

end

end Utf8Text.StandardOutput
