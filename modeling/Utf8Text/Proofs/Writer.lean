import Utf8Text.Writer.Limited

/-!
# Limited writers from outside

However small the calls are, a request is served from its front until it is
taken whole or no room is left: `writeAll_of_fits` and `writeAll_of_lt` say what
the writer is afterwards, and the size of its calls does not appear in them.

Statements about what is written often concern a writer that never fails. Such
a writer is described by `Writer.TakesAll`: every request it gets is taken whole
and keeps it in the same condition.
-/

namespace Utf8Text

/-- In the condition `Ready`, the writer takes every request whole and stays
ready; `output` is what it has taken. -/
structure Writer.TakesAll {ω : Type} [Writer ω] (Ready : ω → Prop)
    (output : ω → Bytes) : Prop where
  writeAll : ∀ w bytes, Ready w →
    ∃ w', Writer.writeAll w bytes = (.ok (), w') ∧ Ready w'
      ∧ output w' = output w ++ bytes

namespace LimitedWriter

/-! ## Taking a part of a request -/

@[simp] theorem capped_none (n : Nat) : capped none n = n := rfl

@[simp] theorem capped_some (limit n : Nat) : capped (some limit) n = min n limit := rfl

theorem capped_le (limit? : Option Nat) (n : Nat) : capped limit? n ≤ n := by
  cases limit? with
  | none => exact Nat.le_refl n
  | some limit => exact Nat.min_le_left n limit

theorem capped_pos {limit? : Option Nat} (h : limit? ≠ some 0) {n : Nat} (hn : 0 < n) :
    0 < capped limit? n := by
  cases limit? with
  | none => exact hn
  | some limit =>
    have hlimit : limit ≠ 0 := fun h0 => h (by rw [h0])
    rw [capped_some]
    omega

@[simp] theorem push_zero (w : LimitedWriter) (bytes : Bytes) : w.push bytes 0 = w := by
  cases w with
  | mk chunk? room? stalls refusesFlush reversed flushes => cases room? <;> simp [push]

theorem push_push (w : LimitedWriter) (bytes : Bytes) (m n : Nat) :
    (w.push bytes m).push (bytes.drop m) n = w.push bytes (m + n) := by
  have htake : bytes.take (m + n) = bytes.take m ++ (bytes.drop m).take n := List.take_add
  cases hroom : w.room? with
  | none => simp [push, htake, hroom]
  | some room => simp [push, htake, hroom, Nat.sub_sub]

@[simp] theorem output_push (w : LimitedWriter) (bytes : Bytes) (n : Nat) :
    (w.push bytes n).output = w.output ++ bytes.take n := by
  simp [push, output]

/-! ## One call -/

/-- How a call fails that can take nothing. -/
def refusal (w : LimitedWriter) : WriteError :=
  if w.stalls then .writeZero else .closed

theorem accepts_eq_zero_iff {w : LimitedWriter} (hchunk : w.chunk? ≠ some 0) (b : UInt8)
    (bytes : Bytes) : w.accepts (b :: bytes) = 0 ↔ w.room? = some 0 := by
  have hpos : 0 < capped w.chunk? (b :: bytes).length := capped_pos hchunk (Nat.succ_pos _)
  constructor
  · intro hzero
    by_cases hroom : w.room? = some 0
    · exact hroom
    · exact absurd hzero (Nat.pos_iff_ne_zero.mp (capped_pos hroom hpos))
  · intro hroom
    rw [accepts, hroom, capped_some, Nat.min_zero]

/-- What a call takes is no more than the room there is. -/
theorem capped_sub_accepts (w : LimitedWriter) (bytes : Bytes) :
    w.accepts bytes + capped (w.room?.map (· - w.accepts bytes))
        (bytes.length - w.accepts bytes)
      = capped w.room? bytes.length := by
  have hchunk := capped_le w.chunk? bytes.length
  cases hroom : w.room? with
  | none =>
    simp only [accepts, hroom, Option.map_none, capped_none]
    omega
  | some room =>
    simp only [accepts, hroom, Option.map_some, capped_some]
    omega

/-! ## Repeated calls -/

/-- **Whatever the size of the calls**, a request is taken from its front as far
as there is room. -/
theorem writeRepeatedly_eq {w : LimitedWriter} (hchunk : w.chunk? ≠ some 0) {bytes : Bytes}
    {calls : Nat} (hcalls : bytes.length ≤ calls) :
    writeRepeatedly calls w bytes
      = (if capped w.room? bytes.length = bytes.length then .ok () else .error w.refusal,
          w.push bytes (capped w.room? bytes.length)) := by
  induction calls generalizing w bytes with
  | zero =>
    obtain rfl : bytes = [] := List.length_eq_zero_iff.mp (Nat.le_zero.mp hcalls)
    have hnone : capped w.room? 0 = 0 := Nat.le_zero.mp (capped_le _ _)
    simp [writeRepeatedly, hnone]
  | succ calls ih =>
    cases bytes with
    | nil =>
      have hnone : capped w.room? 0 = 0 := Nat.le_zero.mp (capped_le _ _)
      simp [writeRepeatedly, hnone]
    | cons b bytes =>
      have haccepts := accepts_eq_zero_iff hchunk b bytes
      rw [writeRepeatedly, write]
      cases hn : w.accepts (b :: bytes) with
      | zero =>
        -- no room is left, and the call refuses in one of two ways
        have hroom : w.room? = some 0 := haccepts.mp hn
        have hcapped : capped w.room? (bytes.length + 1) = 0 := by
          rw [hroom, capped_some, Nat.min_zero]
        cases hstalls : w.stalls <;> simp [hcapped, hstalls, refusal]
      | succ n =>
        have hle : n + 1 ≤ (b :: bytes).length := by
          rw [← hn, accepts]
          exact Nat.le_trans (capped_le _ _) (capped_le _ _)
        have hleft : (bytes.drop n).length ≤ calls := by
          simp only [List.length_drop, List.length_cons] at hcalls ⊢
          omega
        have hcapped := w.capped_sub_accepts (b :: bytes)
        rw [hn] at hcapped
        have hlength : (bytes.drop n).length = (b :: bytes).length - (n + 1) := by
          simp
        have hdrop : bytes.drop n = (b :: bytes).drop (n + 1) := rfl
        simp only [Nat.succ_ne_zero, false_and, if_false]
        rw [ih (w := w.push (b :: bytes) (n + 1)) hchunk hleft, hlength]
        show (if capped (w.room?.map (· - (n + 1))) _ = _ then _ else Except.error w.refusal,
          (w.push (b :: bytes) (n + 1)).push (bytes.drop n)
            (capped (w.room?.map (· - (n + 1))) _)) = _
        rw [hdrop, push_push, hcapped]
        refine Prod.ext ?_ rfl
        show ite _ _ _ = ite _ _ _
        congr 1
        rw [eq_iff_iff]
        omega

section
variable {w : LimitedWriter} (hchunk : w.chunk? ≠ some 0) {bytes : Bytes}
include hchunk

theorem writeAll_of_fits (h : ∀ room ∈ w.room?, bytes.length ≤ room) :
    Writer.writeAll w bytes = (.ok (), w.push bytes bytes.length) := by
  have hcapped : capped w.room? bytes.length = bytes.length := by
    cases hroom : w.room? with
    | none => rfl
    | some room => exact Nat.min_eq_left (h room hroom)
  show writeRepeatedly bytes.length w bytes = _
  rw [writeRepeatedly_eq hchunk (Nat.le_refl _), hcapped, if_pos rfl]

theorem writeAll_of_lt {room : Nat} (hroom : w.room? = some room) (h : room < bytes.length) :
    Writer.writeAll w bytes = (.error w.refusal, w.push bytes room) := by
  have hcapped : capped w.room? bytes.length = room := by
    rw [hroom, capped_some, Nat.min_eq_right (Nat.le_of_lt h)]
  show writeRepeatedly bytes.length w bytes = _
  rw [writeRepeatedly_eq hchunk (Nat.le_refl _), hcapped, if_neg (Nat.ne_of_lt h)]

end

/-! ## Without limits -/

/-- The writer has no total limit and takes at least one byte in each call. -/
def Unlimited (w : LimitedWriter) : Prop :=
  w.room? = none ∧ w.chunk? ≠ some 0

theorem unlimited_fresh {chunk? : Option Nat} (h : chunk? ≠ some 0)
    (stalls refusesFlush : Bool) : (fresh chunk? none stalls refusesFlush).Unlimited :=
  ⟨rfl, h⟩

theorem takesAll : Writer.TakesAll Unlimited output where
  writeAll w bytes := by
    rintro ⟨hroom, hchunk⟩
    refine ⟨w.push bytes bytes.length, writeAll_of_fits hchunk ?_, ⟨?_, hchunk⟩, ?_⟩
    · simp [hroom]
    · simp [push, hroom]
    · simp

end LimitedWriter

end Utf8Text
