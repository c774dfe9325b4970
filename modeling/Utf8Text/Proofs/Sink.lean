import Mathlib.Algebra.Order.BigOperators.Group.List
import Mathlib.Algebra.Order.Group.Nat
import Utf8Text.Proofs.RoundTrip
import Utf8Text.Proofs.Writer
import Utf8Text.Sink

/-!
# Rewriting a text

A sink that is fed with a text writes the encodings of its codepoints. On a
writer that takes everything, this is all it writes, and it fails only where
the text cannot be decoded (`writeText_of_takesAll`).

A text and what is written for it are then the same list of sequences, once
with the bytes read and once with the encodings. Each encoding is at most as
long as the bytes read, so the two agree as a whole exactly when they agree
sequence by sequence (`rewrite_eq_iff`).
-/

namespace Utf8Text

open Decoding Reader

/-! ## Writing into a writer that takes everything -/

namespace Sink

variable {ω : Type} [Writer ω] {Ready : ω → Prop} {output : ω → Bytes}
  (hω : Writer.TakesAll Ready output)
include hω

theorem writeCodepoint_of_takesAll {s : Sink ω} (hs : Ready s.writer) {cp : Nat}
    (hcp : cp ≤ maxEncodable) :
    ∃ w', s.writeCodepoint cp
        = (.ok (encoding cp).length, ⟨w', s.written + (encoding cp).length⟩)
      ∧ Ready w' ∧ output w' = output s.writer ++ encoding cp := by
  obtain ⟨w', hwrite, hready, houtput⟩ := hω.writeAll s.writer (encoding cp) hs
  refine ⟨w', ?_, hready, houtput⟩
  simp only [writeCodepoint, encode_eq_ok hcp, hwrite]

/-- Codepoints that can be encoded are all written; what comes behind them is
then the error, if there is one. -/
theorem writeItems_of_takesAll {cps : List Nat} (hcps : ∀ cp ∈ cps, cp ≤ maxEncodable)
    (error? : Option DecodeError) {s : Sink ω} (hs : Ready s.writer) (count : Nat) :
    ∃ w', s.writeItems count (cps.map .codepoint ++ error?.toList.map .error)
        = (error?.elim (.ok (count + cps.length)) fun e => .error (.decode e),
            ⟨w', s.written + (encodings cps).length⟩)
      ∧ Ready w' ∧ output w' = output s.writer ++ encodings cps := by
  induction cps generalizing s count with
  | nil =>
    refine ⟨s.writer, ?_, hs, by simp [encodings]⟩
    cases error? <;> simp [writeItems, encodings]
  | cons cp cps ih =>
    obtain ⟨w₁, hwrite, hready₁, houtput₁⟩ :=
      writeCodepoint_of_takesAll hω hs (hcps cp (by simp))
    obtain ⟨w₂, hrest, hready₂, houtput₂⟩ :=
      ih (fun x hx => hcps x (by simp [hx]))
        (s := ⟨w₁, s.written + (encoding cp).length⟩) hready₁ (count + 1)
    have hencodings : encodings (cp :: cps) = encoding cp ++ encodings cps := rfl
    refine ⟨w₂, ?_, hready₂, ?_⟩
    · simp only [List.map_cons, List.cons_append, writeItems, hwrite]
      rw [hrest, hencodings, List.length_append, List.length_cons, Nat.add_assoc,
        Nat.add_comm 1, Nat.add_assoc]
    · rw [houtput₂, houtput₁, hencodings, List.append_assoc]

end Sink

theorem Decoding.le_maxEncodable_of_mem {text : Bytes} {cp : Nat}
    (h : cp ∈ (ofBytes text).codepoints) : cp ≤ maxEncodable := by
  obtain ⟨s, hs, rfl⟩ := List.mem_map.mp h
  obtain ⟨lead, following, -, -, hlayout⟩ := exists_layout hs
  exact hlayout.le_maxEncodable

/-- **Rewriting**: a text goes into a writer that takes everything as the
encodings of its codepoints, and only a decode error is reported. -/
theorem Sink.writeText_of_takesAll {ω : Type} [Writer ω] {Ready : ω → Prop}
    {output : ω → Bytes} (hω : Writer.TakesAll Ready output) {s : Sink ω}
    (hs : Ready s.writer) (text : Bytes) :
    ∃ w', s.writeText text
        = ((ofBytes text).error?.elim (.ok (ofBytes text).codepoints.length)
              fun e => .error (.decode e),
            ⟨w', s.written + (encodings (ofBytes text).codepoints).length⟩)
      ∧ Ready w'
      ∧ output w' = output s.writer ++ encodings (ofBytes text).codepoints := by
  simpa [writeText, items, Decoding.items] using
    writeItems_of_takesAll hω (fun _ => le_maxEncodable_of_mem) (ofBytes text).error? hs 0

theorem Sink.writeLine_of_takesAll {ω : Type} [Writer ω] {Ready : ω → Prop}
    {output : ω → Bytes} (hω : Writer.TakesAll Ready output) {s : Sink ω}
    (hs : Ready s.writer) (text : Bytes) :
    ∃ s', s.writeLine text
        = ((ofBytes text).error?.elim (.ok (ofBytes text).codepoints.length)
            fun e => .error (.decode e), s')
      ∧ Ready s'.writer
      ∧ output s'.writer = output s.writer ++ encodings (ofBytes text).codepoints
        ++ if (ofBytes text).error? = none then [lineFeed] else [] := by
  obtain ⟨w₁, hwrite, hready, houtput⟩ := writeText_of_takesAll hω hs text
  rw [writeLine, hwrite]
  cases herror : (ofBytes text).error? with
  | some e => exact ⟨_, rfl, hready, by simpa using houtput⟩
  | none =>
    have hlineFeed : lineFeed.toNat ≤ maxEncodable := by decide
    obtain ⟨w₂, hend, hready₂, houtput₂⟩ :=
      writeCodepoint_of_takesAll hω
        (s := ⟨w₁, s.written + (encodings (ofBytes text).codepoints).length⟩) hready hlineFeed
    simp only [Option.elim, hend]
    exact ⟨_, rfl, hready₂, by rw [houtput₂, houtput]; rfl⟩

/-! ## Sequence by sequence -/

/-- All bytes of the sequence after the first carry their marker. -/
def Sequence.IsMarked (text : Bytes) (s : Sequence) : Prop :=
  ∀ b ∈ (s.bytes text).tail, IsContinuation b

instance (text : Bytes) (s : Sequence) : Decidable (s.IsMarked text) :=
  inferInstanceAs (Decidable (∀ b ∈ (s.bytes text).tail, IsContinuation b))

/-- Fewer bytes would hold the codepoint. -/
def Sequence.IsOverlong (s : Sequence) : Prop :=
  s.codepoint < leastOfLength s.length

instance (s : Sequence) : Decidable s.IsOverlong :=
  inferInstanceAs (Decidable (s.codepoint < leastOfLength s.length))

section
variable {text : Bytes} {s : Sequence} (h : s ∈ (ofBytes text).sequences)
include h

/-- An encoding is at most as long as the bytes read, and shorter exactly for an
overlong sequence. -/
theorem length_encoding_le :
    (encoding s.codepoint).length ≤ (s.bytes text).length
      ∧ ((encoding s.codepoint).length < (s.bytes text).length ↔ s.IsOverlong) := by
  obtain ⟨lead, following, hbytes, hlength, hlayout⟩ := exists_layout h
  obtain ⟨hle, hiff⟩ := hlayout.length_encoding_le
  rw [hbytes, List.length_cons, Sequence.IsOverlong, hlength]
  omega

theorem encoding_eq_bytes_iff :
    encoding s.codepoint = s.bytes text ↔ s.IsMarked text ∧ ¬ s.IsOverlong := by
  obtain ⟨lead, following, hbytes, hlength, hlayout⟩ := exists_layout h
  rw [Sequence.IsMarked, Sequence.IsOverlong, hbytes, List.tail_cons, hlength, Nat.not_lt]
  exact hlayout.encoding_eq_iff

end

/-! ## The whole text -/

/-- Concatenations of pieces, those of one never longer than those of the other,
are equal exactly when all pieces are. -/
theorem flatMap_eq_flatMap_iff {α β : Type} {f g : α → List β} {l : List α}
    (hle : ∀ a ∈ l, (f a).length ≤ (g a).length) :
    l.flatMap f = l.flatMap g ↔ ∀ a ∈ l, f a = g a := by
  induction l with
  | nil => simp
  | cons a l ih =>
    have ih := ih fun x hx => hle x (by simp [hx])
    simp only [List.flatMap_cons, List.forall_mem_cons, ← ih]
    constructor
    · intro heq
      -- a piece that fell short would have to be made up for in the rest
      have hrest : (l.flatMap f).length ≤ (l.flatMap g).length := by
        rw [List.length_flatMap, List.length_flatMap]
        exact List.sum_le_sum fun x hx => hle x (by simp [hx])
      have htotal := congrArg List.length heq
      simp only [List.length_append] at htotal
      exact List.append_inj heq (by have := hle a (by simp); omega)
    · rintro ⟨ha, hl⟩
      rw [ha, hl]

theorem encodings_codepoints (d : Decoding) :
    encodings d.codepoints = d.sequences.flatMap fun s => encoding s.codepoint := by
  rw [encodings, codepoints, List.flatMap_map]

theorem encodings_eq_take_iff (text : Bytes) :
    encodings (ofBytes text).codepoints = text.take (ofBytes text).stop
      ↔ ∀ s ∈ (ofBytes text).sequences, s.IsMarked text ∧ ¬ s.IsOverlong := by
  rw [encodings_codepoints, ← flatMap_bytes,
    flatMap_eq_flatMap_iff fun s hs => (length_encoding_le hs).1]
  exact forall₂_congr fun s hs => encoding_eq_bytes_iff hs

/-- What is written is no longer than what was read, and shorter as soon as one
sequence is overlong. -/
theorem length_encodings_le (text : Bytes) :
    (encodings (ofBytes text).codepoints).length ≤ (ofBytes text).stop
      ∧ ((∃ s ∈ (ofBytes text).sequences, s.IsOverlong) →
        (encodings (ofBytes text).codepoints).length < (ofBytes text).stop) := by
  have hread : (ofBytes text).stop
      = ((ofBytes text).sequences.map fun s => (s.bytes text).length).sum := by
    rw [← List.length_flatMap, flatMap_bytes, List.length_take,
      Nat.min_eq_left (stop_le_length text)]
  rw [encodings_codepoints, List.length_flatMap, hread]
  refine ⟨List.sum_le_sum fun s hs => (length_encoding_le hs).1, ?_⟩
  rintro ⟨s, hs, hoverlong⟩
  exact List.sum_lt_sum _ _ (fun s hs => (length_encoding_le hs).1)
    ⟨s, hs, (length_encoding_le hs).2.mpr hoverlong⟩

/-- **When a rewrite is lossless.** Into a writer that takes everything, a sink
writes no more bytes than were read, counts them, and never meets a codepoint
that it cannot encode. What it writes is what was read exactly when every
sequence read is marked and not overlong, and is shorter as soon as one is
overlong. -/
theorem rewrite_eq_iff {ω : Type} [Writer ω] {Ready : ω → Prop} {output : ω → Bytes}
    (hω : Writer.TakesAll Ready output) {w : ω} (hw : Ready w) (text : Bytes) :
    let read := ofBytes text
    let stop := ((ofBuffer (.borrow text)).rest).2.position
    ∃ result sink written, (Sink.onto w).writeText text = (result, sink)
      ∧ stop = read.error?.elim text.length DecodeError.offset
      ∧ (∀ e, result ≠ .error (.encode e))
      ∧ output sink.writer = output w ++ written
      ∧ sink.written = written.length ∧ written.length ≤ stop
      ∧ (written = text.take stop
        ↔ ∀ s ∈ read.sequences, s.IsMarked text ∧ ¬ s.IsOverlong)
      ∧ ((∃ s ∈ read.sequences, s.IsOverlong) → written.length < stop) := by
  intro read stop
  have hstop : stop = read.stop := by
    simp only [stop, ← behind_zero, rest_behind (Nat.zero_le _)]
    exact offsetOf_eq_stop (by simp [items, length_items, Buffer.borrow])
  obtain ⟨w', hwrite, -, houtput⟩ := Sink.writeText_of_takesAll hω (s := .onto w) hw text
  obtain ⟨hle, hlt⟩ := length_encodings_le text
  refine ⟨_, _, encodings read.codepoints, hwrite, ?_, ?_, houtput, ?_, ?_, ?_, ?_⟩
  · rw [hstop, stop_eq_elim]
  · intro e
    cases read.error? <;> simp
  · simp [Sink.onto, read]
  · rwa [hstop]
  · rw [hstop]
    exact encodings_eq_take_iff text
  · rwa [hstop]

/-- Zero in two bytes, in front of a byte that cannot lead: one byte is written
for the two that were read. -/
theorem rewrite_of_overlong_zero :
    Writer.TakesAll LimitedWriter.Unlimited LimitedWriter.output
      ∧ LimitedWriter.unlimited.Unlimited
      ∧ ∃ result sink, (Sink.onto .unlimited).writeText [0xC0, 0x80, 0xFF] = (result, sink)
        ∧ (∀ e, result ≠ .error (.encode e))
        ∧ sink.written = (LimitedWriter.output sink.writer).length ∧ sink.written < 2 := by
  have hready : LimitedWriter.unlimited.Unlimited :=
    LimitedWriter.unlimited_fresh (by decide) false false
  obtain ⟨result, sink, written, hwrite, -, hresult, houtput, hcount, -, -, hshorter⟩ :=
    rewrite_eq_iff LimitedWriter.takesAll hready [0xC0, 0x80, 0xFF]
  have hempty : LimitedWriter.unlimited.output = [] := rfl
  rw [hempty, List.nil_append] at houtput
  refine ⟨LimitedWriter.takesAll, hready, result, sink, hwrite, hresult, ?_, ?_⟩
  · rw [houtput, hcount]
  · rw [hcount]
    exact hshorter ⟨⟨0, 2, 0⟩, by decide, by decide⟩

end Utf8Text
