import Utf8Text.Proofs.Ignored
import Utf8Text.Proofs.Listing

/-!
# What is written and read again

The output of one command as the input of another. What is written are encodings,
which read back as what they were made from; but a NUL ends the text, and encodings
have one in exactly the places where a zero was encoded
(`getElem?_encodings_eq_zero_iff`). So a reader gets the codepoints up to the first
zero, whole.

Listing what was encoded gives the list back up to there
(`listing_of_encoded_list`), and printing what was printed changes nothing but that
it ends there (`print_canonicalises_once`). Where the zeros in a printed text come
from is told as well: a text has no NUL in it, so they are sequences of several
bytes that carry no bits (`Sequence.IsBlank`).
-/

namespace Utf8Text

open Decoding
open Log (warnings)

/-! ## NULs in encodings -/

theorem zero_mem_encoding_iff {cp : Nat} (hcp : cp ≤ maxEncodable) :
    0 ∈ encoding cp ↔ cp = 0 := by
  obtain ⟨lead, following, hencoding, hlayout, hmarked⟩ := exists_encoding_eq hcp
  have hzero : (0 : UInt8).toNat = 0 := rfl
  constructor
  · intro hmem
    rw [hencoding, List.mem_cons] at hmem
    rcases hmem with rfl | hmem
    · -- of the four kinds of lead bytes only the first can be zero
      cases hlayout with
      | one hi => rfl
      | two lo hi => omega
      | three lo hi => omega
      | four lo hi => omega
    · have hmark := isContinuation_iff.mp (hmarked 0 hmem)
      omega
  · rintro rfl
    exact List.mem_singleton_self 0

section
variable {cps : List Nat} (hcps : ∀ cp ∈ cps, cp ≤ maxEncodable)
include hcps

theorem zero_mem_encodings_iff : 0 ∈ encodings cps ↔ 0 ∈ cps := by
  rw [encodings, List.mem_flatMap]
  constructor
  · rintro ⟨cp, hcp, hzero⟩
    rwa [(zero_mem_encoding_iff (hcps cp hcp)).mp hzero] at hcp
  · intro hzero
    exact ⟨0, hzero, List.mem_singleton_self 0⟩

/-- **NULs** stand in encodings where the encodings of zeros start. -/
theorem getElem?_encodings_eq_zero_iff {k : Nat} :
    (encodings cps)[k]? = some 0
      ↔ ∃ i, cps[i]? = some 0 ∧ k = (encodings (cps.take i)).length := by
  induction cps generalizing k with
  | nil => simp
  | cons cp cps ih =>
    have hcp : cp ≤ maxEncodable := hcps cp (by simp)
    have hpos := length_encoding_pos hcp
    rw [encodings_cons]
    -- the place lies in the first encoding or in those behind it
    by_cases hfirst : k < (encoding cp).length
    · rw [List.getElem?_append_left hfirst]
      constructor
      · intro hget
        obtain rfl : cp = 0 := (zero_mem_encoding_iff hcp).mp (List.mem_of_getElem? hget)
        have hone : (encoding 0).length = 1 := rfl
        exact ⟨0, rfl, by rw [List.take_zero, encodings_nil, List.length_nil]; omega⟩
      · rintro ⟨i, hi, rfl⟩
        cases i with
        | zero =>
          obtain rfl : cp = 0 := Option.some.inj hi
          rfl
        | succ i =>
          rw [List.take_succ_cons, encodings_cons, List.length_append] at hfirst
          omega
    · obtain ⟨n, rfl⟩ := Nat.exists_eq_add_of_le (Nat.not_lt.mp hfirst)
      rw [List.getElem?_append_right (Nat.le_add_right _ n), Nat.add_sub_cancel_left,
        ih fun x hx => hcps x (by simp [hx])]
      constructor
      · rintro ⟨i, hi, rfl⟩
        refine ⟨i + 1, hi, ?_⟩
        rw [List.take_succ_cons, encodings_cons, List.length_append]
      · rintro ⟨i, hi, hlength⟩
        cases i with
        | zero =>
          rw [List.take_zero, encodings_nil, List.length_nil] at hlength
          omega
        | succ i =>
          rw [List.take_succ_cons, encodings_cons, List.length_append] at hlength
          exact ⟨i, hi, Nat.add_left_cancel hlength⟩

/-- A text of encodings ends in front of the first zero that was encoded, between
two encodings. -/
theorem beforeNul_encodings :
    beforeNul (encodings cps) = encodings (cps.takeWhile (· ≠ 0)) := by
  induction cps with
  | nil => rfl
  | cons cp cps ih =>
    by_cases hzero : cp = 0
    · rw [hzero, List.takeWhile_cons_of_neg (by simp), encodings_cons]
      rfl
    · have hnul : 0 ∉ encoding cp := mt (zero_mem_encoding_iff (hcps cp (by simp))).mp hzero
      rw [encodings_cons, beforeNul_append hnul, ih fun x hx => hcps x (by simp [hx]),
        List.takeWhile_cons_of_pos (by simpa using hzero), encodings_cons]

theorem le_maxEncodable_of_mem_takeWhile :
    ∀ cp ∈ cps.takeWhile (· ≠ 0), cp ≤ maxEncodable := by
  intro cp hcp
  exact hcps cp ((List.takeWhile_prefix _).subset hcp)

end

/-! ## Encoding, then listing -/

open Listing in
/-- **Listing what was encoded.** The encodings of a list of codepoints, written
without a listing and read by a listing from whatever source, are listed without an
error. There is one record for each codepoint in front of the first zero, in order,
as long as the encoding and behind those before it. A zero in the list is reported
as the NUL it is, where the records end, with all bytes from there on ignored; there
is no other warning. -/
theorem listing_of_encoded_list {cps : List Nat} (hcps : ∀ cp ∈ cps, cp ≤ maxEncodable)
    {s s' : Surroundings} (hdevice : s.device = .accepting) (hdevice' : s'.device = .accepting)
    (o : ListOptions) (verbosity verbosity' : Nat) (setting? setting?' : Option String) :
    let encoded := (Invocation.mk verbosity (.encode ⟨cps, true⟩)).run setting? s
    let source := Source.ofPath? o.file?
    let piped := s'.holding source encoded.stdout
    let i : Invocation := ⟨verbosity', .list o⟩
    let listed := i.run setting?' piped
    let kept := cps.takeWhile (· ≠ 0)
    encoded.exitCode = 0 ∧ encoded.stderr = []
      ∧ listed.exitCode = 0 ∧ listed.stderr = []
      ∧ ∃ lines records lengths, HasLines listed.stdout lines
        ∧ lines.mapM (readLine? o.format) = some records
        ∧ kept.mapM encodedLength? = some lengths
        ∧ records.map Sequence.codepoint = kept
        ∧ records.map Sequence.length = lengths
        ∧ (∀ k r, records[k]? = some r → r.offset = (lengths.take k).sum)
        ∧ warnings (i.trace piped).events
          = (if 0 ∈ cps then
              [nulWarning source lengths.sum (encoded.stdout.drop lengths.sum).length]
            else [])
        ∧ (setting?' = none → warnings listed.log = warnings (i.trace piped).events) := by
  intro encoded source piped i listed kept
  obtain ⟨hcode, hstdout, hstderr⟩ :=
    run_encodeRaw_of_accepting .standard hcps hdevice verbosity setting?
  have hread : piped.contents source = .ok encoded.stdout := s'.contents_holding source _
  obtain ⟨hcode', hstdout', hstderr'⟩ :=
    run_list_of_accepting .standard (s := piped) hdevice' hread o.report verbosity' setting?'
      o.format
  -- what is listed is the text of the codepoints kept, and these have no zero
  have htext : beforeNul encoded.stdout = encodings kept := by
    rw [hstdout]
    exact beforeNul_encodings hcps
  have hkept : ∀ cp ∈ kept, cp ≤ maxEncodable := le_maxEncodable_of_mem_takeWhile hcps
  obtain ⟨hcodepoints, hlengths, herror⟩ := ofBytes_encodings hkept
  rw [htext, herror] at hcode' hstderr'
  rw [htext] at hstdout'
  have hsum : (kept.map fun cp => (encoding cp).length).sum
      = (beforeNul encoded.stdout).length := by
    rw [htext, encodings, List.length_flatMap]
  obtain ⟨lines, hlines, hrecords, -⟩ :=
    exists_lines Json.compact_lawful o.format (ofBytes (encodings kept)).sequences
  refine ⟨hcode, hstderr, hcode', hstderr', lines, (ofBytes (encodings kept)).sequences,
    kept.map fun cp => (encoding cp).length, ?_, hrecords, mapM_encodedLength? hkept, hcodepoints,
    hlengths, ?_, ?_, ?_⟩
  · have hlisted : listed.stdout = _ := hstdout'
    rw [hlisted]
    exact hlines
  · intro k r hr
    rw [(decode_drop_offset hr).1, offsetOf_encodings hkept]
  · have hnul : 0 ∈ encoded.stdout ↔ 0 ∈ cps := by
      rw [hstdout]
      exact zero_mem_encodings_iff hcps
    rw [Invocation.warnings_traceWith rfl .standard hread, nulWarnings, hsum, List.length_drop]
    simp only [hnul]
  · rintro rfl
    exact i.warnings_log_runWith Log.Subscriber.standard_lawful piped

open Listing in
/-- Two letters, a line feed and the greatest codepoint in front of a zero: the
listing has three records, of seven bytes together, and four bytes are ignored. -/
theorem listing_of_encoded_list_with_zero :
    let cps := [0xE9, 0x0A, 0x1FFFFF, 0, 0xD800]
    let s : Surroundings := ⟨fun _ => .error .notFound, .accepting, false⟩
    let encoded := (Invocation.mk 0 (.encode ⟨cps, true⟩)).run none s
    let o : ListOptions := ⟨some "-", .json, ⟨false, true, false⟩⟩
    let listed := (Invocation.mk 0 (.list o)).run none
      (s.holding (.ofPath? o.file?) encoded.stdout)
    (∀ cp ∈ cps, cp ≤ maxEncodable) ∧ s.device = .accepting
      ∧ listed.exitCode = 0 ∧ listed.stderr = []
      ∧ warnings listed.log = [nulWarning (.ofPath? o.file?) 7 4]
      ∧ ∃ lines records, HasLines listed.stdout lines
        ∧ lines.mapM (readLine? .json) = some records
        ∧ records.map Sequence.codepoint = [0xE9, 0x0A, 0x1FFFFF]
        ∧ records.map Sequence.length = [2, 1, 4] := by
  intro cps s encoded o listed
  have hcps : ∀ cp ∈ cps, cp ≤ maxEncodable := by decide
  have hdevice : s.device = .accepting := rfl
  have hlengths : [0xE9, 0x0A, 0x1FFFFF].mapM encodedLength? = some [2, 1, 4] := rfl
  have hstdout : encoded.stdout = encodings cps :=
    (run_encodeRaw_of_accepting .standard hcps hdevice 0 none).2.1
  obtain ⟨-, -, hcode, hstderr, lines, records, lengths, hlines, hrecords, hmap, hcodepoints,
    hmap', -, hwarnings, hlog⟩ := listing_of_encoded_list hcps hdevice hdevice o 0 0 none none
  obtain rfl : lengths = [2, 1, 4] := Option.some.inj (hmap.symm.trans hlengths)
  rw [hstdout] at hwarnings
  exact ⟨hcps, hdevice, hcode, hstderr, (hlog rfl).trans hwarnings, lines, records, hlines,
    hrecords, hcodepoints, hmap'⟩

/-! ## Printing, then printing -/

/-- No bit of a sequence carries value. -/
def Sequence.IsBlank (text : Bytes) (s : Sequence) : Prop :=
  ∃ lead following, s.bytes text = lead :: following
    ∧ lead.toNat &&& leadMask s.length = 0 ∧ ∀ b ∈ following, payload b = 0

/-- Putting a sequence together gives zero only if every part is zero. -/
theorem assemble_eq_zero_iff {length : Nat} {lead : UInt8} {following : Bytes} :
    assemble length lead following = 0
      ↔ lead.toNat &&& leadMask length = 0 ∧ ∀ b ∈ following, payload b = 0 := by
  rw [assemble]
  -- the bits put together so far are arbitrary
  generalize lead.toNat &&& leadMask length = value
  induction following generalizing value with
  | nil => simp
  | cons b following ih =>
    have hstep : value <<< 6 ||| payload b = 0 ↔ value = 0 ∧ payload b = 0 := by
      rw [shift_or_payload, payload_eq_mod]
      omega
    rw [List.foldl_cons, ih, hstep, List.forall_mem_cons, and_assoc]

section
variable {text : Bytes} {s : Sequence} (h : s ∈ (ofBytes text).sequences)
include h

theorem codepoint_eq_zero_iff : s.codepoint = 0 ↔ s.IsBlank text := by
  obtain ⟨lead, following, hbytes, hlength, hlayout⟩ := exists_layout h
  rw [← hlayout.assemble_eq, ← hlength, assemble_eq_zero_iff]
  constructor
  · rintro ⟨hlead, hfollowing⟩
    exact ⟨lead, following, hbytes, hlead, hfollowing⟩
  · rintro ⟨lead', following', hbytes', hblank⟩
    obtain ⟨rfl, rfl⟩ := List.cons.inj (hbytes.symm.trans hbytes')
    exact hblank

/-- A sequence of a single byte is blank only if it is a NUL. -/
theorem two_le_length_of_codepoint_eq_zero (hnul : 0 ∉ text) (hzero : s.codepoint = 0) :
    2 ≤ s.length := by
  obtain ⟨lead, following, hbytes, hlength, hlayout⟩ := exists_layout h
  rw [hzero] at hlayout
  cases following with
  | cons b following =>
    rw [hlength, List.length_cons]
    omega
  | nil =>
    have hlead : lead ∈ text := by
      have hmem : lead ∈ s.bytes text := hbytes ▸ List.mem_singleton_self lead
      exact List.mem_of_mem_drop (List.mem_of_mem_take hmem)
    generalize hvalue : 0 = value at hlayout
    cases hlayout
    obtain rfl : 0 = lead := UInt8.toNat_inj.mp hvalue
    exact absurd hlead hnul

end

theorem getElem?_codepoints_eq_zero_iff {text : Bytes} (hnul : 0 ∉ text) {j : Nat} :
    (ofBytes text).codepoints[j]? = some 0
      ↔ ∃ r, (ofBytes text).sequences[j]? = some r ∧ 2 ≤ r.length ∧ r.IsBlank text := by
  rw [codepoints, List.getElem?_map, Option.map_eq_some_iff]
  constructor
  · rintro ⟨r, hr, hzero⟩
    have hmem := List.mem_of_getElem? hr
    exact ⟨r, hr, two_le_length_of_codepoint_eq_zero hmem hnul hzero,
      (codepoint_eq_zero_iff hmem).mp hzero⟩
  · rintro ⟨r, hr, -, hblank⟩
    exact ⟨r, hr, (codepoint_eq_zero_iff (List.mem_of_getElem? hr)).mpr hblank⟩

/-- **Printing what was printed.** Without a line feed a text is printed as the
encodings of its codepoints, with a line feed behind them only after a decode error.
Printed again, the encodings are decoded to their end and come out as far as their
first NUL; so they come out whole exactly if no zero was printed. There is a NUL
among them just where the text has a sequence of at least two bytes that is blank. -/
theorem print_canonicalises_once {s s' : Surroundings} (hdevice : s.device = .accepting)
    (hdevice' : s'.device = .accepting) (file? file?' : Option Path)
    (report report' : ReportOptions) (verbosity verbosity' : Nat)
    (setting? setting?' : Option String) (raw : Bytes) :
    let text := beforeNul raw
    let printed := (ofBytes text).codepoints
    let y := encodings printed
    let first := (Invocation.mk verbosity (.print ⟨file?, true, report⟩)).run setting?
      (s.holding (.ofPath? file?) raw)
    let second := (Invocation.mk verbosity' (.print ⟨file?', true, report'⟩)).run setting?'
      (s'.holding (.ofPath? file?') y)
    first.stdout = y ++ (if (ofBytes text).error? = none then [] else [lineFeed])
      ∧ second.exitCode = 0 ∧ second.stderr = []
      ∧ second.stdout = y.takeWhile (· ≠ 0)
      ∧ (second.stdout = y ↔ 0 ∉ printed)
      ∧ ∀ k, y[k]? = some 0 ↔ ∃ j r, (ofBytes text).sequences[j]? = some r
        ∧ k = (encodings (printed.take j)).length ∧ 2 ≤ r.length ∧ r.IsBlank text := by
  intro text printed y first second
  have hnul : 0 ∉ text := nul_not_mem_beforeNul raw
  have hprinted : ∀ cp ∈ printed, cp ≤ maxEncodable := fun _ => le_maxEncodable_of_mem
  have hkept := le_maxEncodable_of_mem_takeWhile hprinted
  obtain ⟨-, hstdout, -⟩ := run_print_of_accepting .standard
    (s := s.holding (.ofPath? file?) raw) hdevice (s.contents_holding _ raw) report verbosity
    setting? true
  obtain ⟨hcode', hstdout', hstderr'⟩ := run_print_of_accepting .standard
    (s := s'.holding (.ofPath? file?') y) hdevice' (s'.contents_holding _ y) report' verbosity'
    setting?' true
  obtain ⟨hcodepoints, -, herror⟩ := ofBytes_encodings hkept
  rw [beforeNul_encodings hprinted, herror] at hcode' hstderr'
  rw [beforeNul_encodings hprinted, hcodepoints, herror] at hstdout'
  have hsecond : second.stdout = beforeNul y := by
    rw [beforeNul_encodings hprinted]
    exact hstdout'.trans (List.append_nil _)
  refine ⟨?_, hcode', hstderr', hsecond, ?_, ?_⟩
  · simpa only [and_true] using hstdout
  · rw [hsecond, ← zero_mem_encodings_iff hprinted]
    constructor
    · intro hwhole hzero
      exact nul_not_mem_beforeNul y (hwhole.symm ▸ hzero)
    · exact beforeNul_of_not_mem
  · intro k
    rw [getElem?_encodings_eq_zero_iff hprinted]
    constructor
    · rintro ⟨j, hj, hk⟩
      obtain ⟨r, hr, hlength, hblank⟩ := (getElem?_codepoints_eq_zero_iff hnul).mp hj
      exact ⟨j, r, hr, hk, hlength, hblank⟩
    · rintro ⟨j, r, hr, hk, hlength, hblank⟩
      exact ⟨j, (getElem?_codepoints_eq_zero_iff hnul).mpr ⟨r, hr, hlength, hblank⟩, hk⟩

/-- Two bytes without a bit of value, between two letters and in front of a byte that
starts no sequence, are printed as a NUL. The second time only the letter in front
of it is printed, without an error. -/
theorem print_canonicalises_blank_sequence :
    let raw : Bytes := [0x41, 0xC0, 0x80, 0x42, 0xFF]
    let s : Surroundings := ⟨fun _ => .error .notFound, .accepting, false⟩
    let print : Command := .print ⟨none, true, ⟨false, false, false⟩⟩
    let first := (Invocation.mk 0 print).run none (s.holding (.ofPath? none) raw)
    let second := (Invocation.mk 0 print).run none (s.holding (.ofPath? none) [0x41, 0, 0x42])
    s.device = .accepting
      ∧ first.stdout = [0x41, 0, 0x42, lineFeed]
      ∧ second.exitCode = 0 ∧ second.stderr = [] ∧ second.stdout = [0x41]
      ∧ second.stdout ≠ [0x41, 0, 0x42] := by
  intro raw s print first second
  have hdevice : s.device = .accepting := rfl
  obtain ⟨hfirst, hcode, hstderr, hsecond, hwhole, -⟩ := print_canonicalises_once hdevice hdevice
    none none ⟨false, false, false⟩ ⟨false, false, false⟩ 0 0 none none raw
  have hprinted : (ofBytes (beforeNul raw)).codepoints = [0x41, 0, 0x42] := by decide
  have hy : encodings [0x41, 0, 0x42] = [0x41, 0, 0x42] := by decide
  rw [hprinted, hy] at hfirst hcode hstderr hsecond hwhole
  have herror : (ofBytes (beforeNul raw)).error? ≠ none := by decide
  rw [if_neg herror] at hfirst
  refine ⟨hdevice, hfirst, hcode, hstderr, hsecond, ?_⟩
  intro h
  exact absurd (hwhole.mp h) (by decide)

end Utf8Text
