import Utf8Text.Proofs.Lines
import Utf8Text.Proofs.Writer
import Utf8Text.Writer.LineBuffered

/-!
# Line-buffered writers before the two devices

Before a device that takes everything, what has gone out and what is held back
are together all that was written (`takesAll`). Before a full device nothing
ever goes out: a request is held back as it is, or it fails, and it always fails
if it ends a line (`writeAll_of_full`); so a drain succeeds only if nothing was
written at all (`drain_of_full`).
-/

namespace Utf8Text

@[simp] theorem Written.andThen_ok {ω : Type} (w : ω) (second : ω → Written ω) :
    Written.andThen (.ok (), w) second = second w := rfl

@[simp] theorem Written.andThen_error {ω : Type} (e : WriteError) (w : ω)
    (second : ω → Written ω) : Written.andThen (.error e, w) second = (.error e, w) := rfl

namespace LineBuffered

theorem passOn_nil (w : LineBuffered) : w.passOn [] = (.ok (), w) := by
  simp only [passOn]

/-- A request without a line feed is held back; another is cut behind its last
line feed, and what stands before goes to the device. -/
theorem writeAll_cases (w : LineBuffered) (bytes : Bytes) :
    (lineFeed ∉ bytes ∧ w.writeAll bytes = w.hold bytes)
      ∨ ∃ lines tail, bytes = lines ++ tail ∧ lines ≠ [] ∧ lineFeed ∈ bytes
        ∧ w.writeAll bytes
          = (if w.pending = [] then w.passOn lines
              else (w.hold lines).andThen drain).andThen fun w => w.hold tail := by
  have hsplit : splitAfterLastLine bytes
      = (bytes.take (bytes.length - (Diagnostic.lastLine bytes).length),
          Diagnostic.lastLine bytes) := rfl
  rcases Diagnostic.lastLine_cases bytes with ⟨hnot, hlast⟩ | ⟨front, hbytes, -⟩
  · rw [hlast, Nat.sub_self, List.take_zero] at hsplit
    refine .inl ⟨hnot, ?_⟩
    simp only [writeAll, hsplit]
  · generalize Diagnostic.lastLine bytes = tail at hsplit hbytes
    subst hbytes
    have hlines : (front ++ lineFeed :: tail).take
        ((front ++ lineFeed :: tail).length - tail.length) = front ++ [lineFeed] := by
      rw [List.append_cons front, List.length_append, Nat.add_sub_cancel, List.take_left]
    rw [hlines] at hsplit
    refine .inr ⟨front ++ [lineFeed], tail, by simp, by simp, by simp, ?_⟩
    simp only [writeAll, hsplit]
    cases front with
    | nil => rfl
    | cons b front => rfl

/-- A request that ends no line and fits into the buffer is held back, whatever the
device is. -/
theorem writeAll_of_room {w : LineBuffered} {bytes : Bytes} (hline : lineFeed ∉ bytes)
    (hroom : w.pending.length + bytes.length < capacity) :
    w.writeAll bytes = (.ok (), { w with pending := w.pending ++ bytes }) := by
  rcases writeAll_cases w bytes with ⟨-, hwrite⟩ | ⟨-, -, -, -, hmem, -⟩
  · rw [hwrite, hold, if_neg (by omega), Written.andThen_ok, if_neg (by omega)]
  · exact absurd hmem hline

/-! ## Before a device that takes everything -/

section
variable {w : LineBuffered} (h : w.device = .accepting)
include h

theorem passOn_of_accepting (bytes : Bytes) :
    w.passOn bytes = (.ok (), { w with reversed := bytes.reverse ++ w.reversed }) := by
  cases bytes with
  | nil => exact passOn_nil w
  | cons b bytes => simp only [passOn, h]

theorem drain_of_accepting :
    w.drain = (.ok (), ⟨w.device, [], w.pending.reverse ++ w.reversed⟩) := by
  rw [drain, passOn_of_accepting h, Written.andThen_ok]

theorem hold_of_accepting (bytes : Bytes) :
    ∃ w', w.hold bytes = (.ok (), w') ∧ w'.device = .accepting
      ∧ w'.output ++ w'.pending = w.output ++ w.pending ++ bytes := by
  by_cases hfull : w.pending.length + bytes.length > capacity
  · -- what is held back goes out first
    have hdrained : (⟨w.device, [], w.pending.reverse ++ w.reversed⟩ : LineBuffered).device
        = .accepting := h
    rw [hold, if_pos hfull, drain_of_accepting h, Written.andThen_ok]
    by_cases hlarge : bytes.length ≥ capacity
    · rw [if_pos hlarge, passOn_of_accepting hdrained]
      exact ⟨_, rfl, h, by simp [output]⟩
    · rw [if_neg hlarge]
      exact ⟨_, rfl, h, by simp [output]⟩
  · rw [hold, if_neg hfull, Written.andThen_ok]
    by_cases hlarge : bytes.length ≥ capacity
    · have hpending : w.pending = [] := List.length_eq_zero_iff.mp (by omega)
      rw [if_pos hlarge, passOn_of_accepting h]
      exact ⟨_, rfl, h, by simp [output, hpending]⟩
    · rw [if_neg hlarge]
      exact ⟨_, rfl, h, by simp [output]⟩

theorem writeAll_of_accepting (bytes : Bytes) :
    ∃ w', w.writeAll bytes = (.ok (), w') ∧ w'.device = .accepting
      ∧ w'.output ++ w'.pending = w.output ++ w.pending ++ bytes := by
  rcases writeAll_cases w bytes with ⟨-, hwrite⟩ | ⟨lines, tail, rfl, -, -, hwrite⟩
  · rw [hwrite]
    exact hold_of_accepting h bytes
  · rw [hwrite]
    by_cases hpending : w.pending = []
    · rw [if_pos hpending, passOn_of_accepting h, Written.andThen_ok]
      obtain ⟨w', hhold, hdevice, houtput⟩ := hold_of_accepting
        (w := { w with reversed := lines.reverse ++ w.reversed }) h tail
      refine ⟨w', hhold, hdevice, ?_⟩
      rw [houtput]
      simp [output, hpending]
    · obtain ⟨w₁, hhold₁, hdevice₁, houtput₁⟩ := hold_of_accepting h lines
      rw [if_neg hpending, hhold₁, Written.andThen_ok, drain_of_accepting hdevice₁,
        Written.andThen_ok]
      obtain ⟨w', hhold, hdevice, houtput⟩ := hold_of_accepting
        (w := ⟨w₁.device, [], w₁.pending.reverse ++ w₁.reversed⟩) hdevice₁ tail
      refine ⟨w', hhold, hdevice, ?_⟩
      rw [houtput, ← List.append_assoc, ← houtput₁]
      simp [output]

end

theorem finish_of_accepting {w : LineBuffered} (h : w.device = .accepting) :
    w.finish = w.output ++ w.pending := by
  rw [finish, drain_of_accepting h]
  simp [output]

/-- A drain changes nothing in what has been written. -/
theorem exists_drain_of_accepting {w : LineBuffered} (h : w.device = .accepting) :
    ∃ w', w.drain = (.ok (), w') ∧ w'.finish = w.output ++ w.pending := by
  have hdrained : (⟨w.device, [], w.pending.reverse ++ w.reversed⟩ : LineBuffered).device
      = .accepting := h
  refine ⟨_, drain_of_accepting h, ?_⟩
  rw [finish_of_accepting hdrained]
  simp [output]

theorem takesAll :
    Writer.TakesAll (fun w : LineBuffered => w.device = .accepting)
      (fun w => w.output ++ w.pending) where
  writeAll _ bytes h := writeAll_of_accepting h bytes

/-! ## Before a full device -/

section
variable {w : LineBuffered} (h : w.device = .full)
include h

theorem passOn_of_full {bytes : Bytes} (hne : bytes ≠ []) :
    w.passOn bytes = (.error .noSpace, w) := by
  cases bytes with
  | nil => exact absurd rfl hne
  | cons b bytes => simp only [passOn, h]

theorem drain_of_full :
    w.drain = if w.pending = [] then (.ok (), w) else (.error .noSpace, w) := by
  by_cases hpending : w.pending = []
  · rw [if_pos hpending, drain, hpending, passOn_nil, Written.andThen_ok, ← hpending]
  · rw [if_neg hpending, drain, passOn_of_full h hpending, Written.andThen_error]

theorem hold_of_full (bytes : Bytes) :
    w.hold bytes = (.ok (), { w with pending := w.pending ++ bytes })
      ∨ w.hold bytes = (.error .noSpace, w) := by
  by_cases hfull : w.pending.length + bytes.length > capacity
  · rw [hold, if_pos hfull, drain_of_full h]
    by_cases hpending : w.pending = []
    · -- nothing can be drained to make room for a request that is too long
      have hlarge : bytes.length ≥ capacity := by
        rw [hpending, List.length_nil] at hfull
        omega
      have hne : bytes ≠ [] := by
        rintro rfl
        exact absurd hlarge (by decide)
      rw [if_pos hpending, Written.andThen_ok, if_pos hlarge, passOn_of_full h hne]
      exact .inr rfl
    · rw [if_neg hpending]
      exact .inr rfl
  · rw [hold, if_neg hfull, Written.andThen_ok]
    by_cases hlarge : bytes.length ≥ capacity
    · have hne : bytes ≠ [] := by
        rintro rfl
        exact absurd hlarge (by decide)
      rw [if_pos hlarge, passOn_of_full h hne]
      exact .inr rfl
    · rw [if_neg hlarge]
      exact .inl rfl

theorem writeAll_of_full (bytes : Bytes) :
    (lineFeed ∉ bytes ∧ w.writeAll bytes = (.ok (), { w with pending := w.pending ++ bytes }))
      ∨ ∃ w', w.writeAll bytes = (.error .noSpace, w') := by
  rcases writeAll_cases w bytes with ⟨hnot, hwrite⟩ | ⟨lines, tail, rfl, hne, -, hwrite⟩
  · rw [hwrite]
    rcases hold_of_full h bytes with hhold | hhold
    · exact .inl ⟨hnot, hhold⟩
    · exact .inr ⟨w, hhold⟩
  · rw [hwrite]
    by_cases hpending : w.pending = []
    · rw [if_pos hpending, passOn_of_full h hne]
      exact .inr ⟨w, rfl⟩
    · rw [if_neg hpending]
      rcases hold_of_full h lines with hhold | hhold
      · -- the lines fit into the buffer, but do not get out of it
        have hheld : ({ w with pending := w.pending ++ lines } : LineBuffered).device = .full := h
        rw [hhold, Written.andThen_ok, drain_of_full hheld, if_neg (by simp [hne])]
        exact .inr ⟨_, rfl⟩
      · rw [hhold]
        exact .inr ⟨w, rfl⟩

theorem writeAll_of_full_of_mem {bytes : Bytes} (hmem : lineFeed ∈ bytes) :
    ∃ w', w.writeAll bytes = (.error .noSpace, w') := by
  rcases writeAll_of_full h bytes with ⟨hnot, -⟩ | herror
  · exact absurd hmem hnot
  · exact herror

end

end LineBuffered

end Utf8Text
