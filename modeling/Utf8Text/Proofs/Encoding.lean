import Utf8Text.Proofs.Listing
import Utf8Text.Proofs.Observation
import Utf8Text.Proofs.Subscriber

/-!
# Encoding, all or nothing

Before anything is written all codepoints are checked. If one of them is refused,
nothing at all is written; if none is, nothing can be refused later on, when they
are written one after the other (`encode_all_or_nothing`).
-/

namespace Utf8Text

namespace Encoding

/-! ## The lines of a listing -/

theorem not_mem_intercalate {α : Type} {a : α} {sep : List α} (hsep : a ∉ sep)
    {parts : List (List α)} (hparts : ∀ part ∈ parts, a ∉ part) : a ∉ sep.intercalate parts := by
  induction parts with
  | nil => exact List.not_mem_nil
  | cons part rest ih =>
    have hpart : a ∉ part := hparts part List.mem_cons_self
    have hrest := ih fun p hp => hparts p (List.mem_cons_of_mem part hp)
    cases rest with
    | nil =>
      rw [List.intercalate_singleton]
      exact hpart
    | cons next rest =>
      rw [List.intercalate_cons_cons, List.mem_append, List.mem_append, not_or, not_or]
      exact ⟨⟨hpart, hsep⟩, hrest⟩

theorem newline_not_mem_lineOf (cp : Nat) : '\n' ∉ lineOf cp := by
  have hname := Listing.not_mem_codepointName (c := '\n') (by decide) (by decide) cp
  have hbytes : '\n' ∉ [' '].intercalate ((encoding cp).map Numeral.hexByte) := by
    apply not_mem_intercalate (by decide)
    intro part hpart
    obtain ⟨b, -, rfl⟩ := List.mem_map.mp hpart
    exact Numeral.not_mem_hexPadded (by decide) 2 b.toNat
  simp [lineOf, hname, hbytes]

/-! ## The log -/

theorem level_of_mem_events {o : EncodeOptions} {c : Console} {e : Log.Event}
    (h : e ∈ (encodeAll o c).events) : e.level = .debug := by
  have hraw : e ∈ (encodeRaw o.codepoints c).events → e.level = .debug := by
    unfold encodeRaw
    intro hmem
    split at hmem
    · cases hmem
    · split at hmem
      · cases hmem
      · rw [Log.eq_of_mem_raise hmem]
  have hlisting : (encodeListing o.codepoints c).events = [] := by
    unfold encodeListing
    split
    · rfl
    · split <;> rfl
  unfold encodeAll at h
  split at h
  · cases h
  · split at h
    · exact hraw h
    · rw [hlisting] at h
      cases h

end Encoding

/-- Unless more is asked for, nothing that only helps to find a fault is written. -/
theorem Log.Subscriber.inForce_none_of_debug {subscriber : Subscriber} (h : subscriber.Lawful)
    {verbosity : Nat} (hverbosity : verbosity ≤ 1) {e : Event} (he : e.level = .debug) :
    subscriber.inForce none verbosity e = false := by
  rw [inForce_of_effective? h (rfl : Threshold.effective? none verbosity = _), he]
  match verbosity with
  | 0 => rfl
  | 1 => rfl

open Encoding (lineOf)

/-- **Encoding is all or nothing**, on a standard output that takes everything. The
first codepoint that is too great is reported, and nothing is written. If there is
none, the encodings or a line for each codepoint are written, and nothing else. Either
way the run comes to its end: no later part of it refuses what was not refused. -/
theorem encode_all_or_nothing {s : Surroundings} (hdevice : s.device = .accepting)
    (o : EncodeOptions) (verbosity : Nat) (setting? : Option String) :
    let i : Invocation := ⟨verbosity, .encode o⟩
    let encoded := i.run setting? s
    (match o.codepoints.find? (maxEncodable < ·) with
      | some cp =>
        (i.trace s).result = .ok .invalid ∧ encoded.exitCode = 1 ∧ encoded.stdout = []
          ∧ encoded.stderr = "error: ".toList ++ (EncodeError.mk cp).message ++ ['\n']
      | none =>
        (i.trace s).result = .ok .success ∧ encoded.exitCode = 0 ∧ encoded.stderr = []
          ∧ (o.raw = true → encoded.stdout = encodings o.codepoints)
          ∧ (o.raw = false →
            encoded.stdout = o.codepoints.flatMap (fun cp => utf8 (lineOf cp ++ ['\n']))
              ∧ Listing.HasLines encoded.stdout (o.codepoints.map lineOf)))
      ∧ (setting? = none → verbosity ≤ 1 → encoded.log = []) := by
  intro i encoded
  have hresult : (i.trace s).result = (Encoding.encodeAll o (s.console fun _ => true)).result := rfl
  refine ⟨?_, ?_⟩
  · split
    · rename_i cp hfirst
      have hrefused (c : Console) (_ : c.device = s.device) :
          let outcome := Encoding.encodeAll o c
          outcome.result = .ok .invalid ∧ outcome.stdout = []
            ∧ outcome.stderr = "error: ".toList ++ (EncodeError.mk cp).message ++ ['\n'] := by
        rw [Encoding.encodeAll_of_refused hfirst]
        exact ⟨rfl, rfl, rfl⟩
      exact ⟨hresult.trans (hrefused _ rfl).1,
        run_encode_of_ok .standard hrefused verbosity setting?⟩
    · rename_i hnone
      have hcps : ∀ cp ∈ o.codepoints, cp ≤ maxEncodable := by
        intro cp hcp
        simpa using List.find?_eq_none.mp hnone cp hcp
      obtain ⟨hexit, hout, herr⟩ := run_encode_of_ok .standard
        (fun c hc => Encoding.encodeAll_of_accepting hcps (hc.trans hdevice)) verbosity setting?
      refine ⟨?_, hexit, herr, ?_, ?_⟩
      · exact hresult.trans (Encoding.encodeAll_of_accepting hcps hdevice).1
      · intro hraw
        rwa [if_pos hraw] at hout
      · intro hraw
        rw [hraw, if_neg Bool.false_ne_true] at hout
        refine ⟨hout, ?_⟩
        show Listing.HasLines (i.run setting? s).stdout _
        rw [hout]
        exact Listing.hasLines_map Encoding.newline_not_mem_lineOf o.codepoints
  · rintro rfl hverbosity
    show (i.runWith .standard none s).log = []
    rw [Invocation.runWith_eq]
    dsimp only
    rw [List.filter_eq_nil_iff]
    intro e he
    have hlevel : e.level = .debug := by
      rcases List.mem_cons.mp he with rfl | hmem
      · rfl
      · exact Encoding.level_of_mem_events hmem
    exact Bool.eq_false_iff.mp
      (Log.Subscriber.inForce_none_of_debug Log.Subscriber.standard_lawful hverbosity hlevel)

/-- Two of four codepoints are too great, and the first of these is reported, although
the one before it could have been written. -/
theorem encode_all_or_nothing_of_list :
    let s : Surroundings := ⟨fun _ => .error .notFound, .accepting, false⟩
    let encoded (cps : List Nat) (raw : Bool) := (Invocation.mk 0 (.encode ⟨cps, raw⟩)).run none s
    s.device = .accepting
      ∧ (encoded [0x41, 0x200000, 0x20AC, 0x200001] true).stdout = []
      ∧ (encoded [0x41, 0x200000, 0x20AC, 0x200001] true).stderr
        = "error: code point 0x200000 exceeds the UTF-8 range (maximum 0x1FFFFF)\n".toList
      ∧ (encoded [0x41, 0x20AC] false).stdout
        = utf8 "U+0041  41\nU+20AC  E2 82 AC\n".toList := by
  intro s encoded
  have hdevice : s.device = .accepting := rfl
  obtain ⟨⟨-, -, hstdout, hstderr⟩, -⟩ :=
    encode_all_or_nothing hdevice ⟨[0x41, 0x200000, 0x20AC, 0x200001], true⟩ 0 none
  obtain ⟨⟨-, -, -, -, hlisting⟩, -⟩ :=
    encode_all_or_nothing hdevice ⟨[0x41, 0x20AC], false⟩ 0 none
  refine ⟨hdevice, hstdout, hstderr.trans (by decide), ?_⟩
  exact (hlisting rfl).1.trans (by decide)

end Utf8Text
