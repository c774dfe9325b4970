import Utf8Text.Proofs.Reader

/-!
# Reading encodings back

Encodings put one after the other decode to the codepoints they were made from.
The induction is on the list of codepoints: `decode_encoding_append` reads the
first encoding back whatever stands behind it, and greedy reading goes on with
the rest.
-/

namespace Utf8Text

open Decoding Reader

/-- The encodings of codepoints, one after the other. -/
def encodings (cps : List Nat) : Bytes :=
  cps.flatMap encoding

@[simp] theorem encodings_nil : encodings [] = [] := rfl

@[simp] theorem encodings_cons (cp : Nat) (cps : List Nat) :
    encodings (cp :: cps) = encoding cp ++ encodings cps := rfl

@[simp] theorem encodings_append (xs ys : List Nat) :
    encodings (xs ++ ys) = encodings xs ++ encodings ys :=
  List.flatMap_append

theorem length_encodings_append (xs ys : List Nat) :
    (encodings (xs ++ ys)).length = (encodings xs).length + (encodings ys).length := by
  rw [encodings_append, List.length_append]

/-! ## Lists of codepoints -/

section
variable {cps : List Nat} (h : ∀ cp ∈ cps, cp ≤ maxEncodable)
include h

theorem mapM_encode : cps.mapM encode = .ok (cps.map encoding) := by
  induction cps with
  | nil => rfl
  | cons cp cps ih =>
    rw [List.mapM_cons, encode_eq_ok (h cp (by simp)),
      ih fun x hx => h x (by simp [hx])]
    rfl

theorem mapM_encodedLength? :
    cps.mapM encodedLength? = some (cps.map fun cp => (encoding cp).length) := by
  induction cps with
  | nil => rfl
  | cons cp cps ih =>
    rw [List.mapM_cons, encodedLength?_eq (h cp (by simp)),
      ih fun x hx => h x (by simp [hx])]
    rfl

/-- The decoding of encodings: the codepoints, as long as their encodings, and
no error. -/
theorem ofBytes_encodings :
    (ofBytes (encodings cps)).codepoints = cps
      ∧ (ofBytes (encodings cps)).sequences.map Sequence.length
        = cps.map (fun cp => (encoding cp).length)
      ∧ (ofBytes (encodings cps)).error? = none := by
  induction cps with
  | nil => simp [encodings, codepoints]
  | cons cp cps ih =>
    obtain ⟨hcodepoints, hlengths, herror⟩ := ih fun x hx => h x (by simp [hx])
    have hread := decode_encoding_append (h cp (by simp)) (encodings cps)
    have hrest : (encoding cp ++ encodings cps).drop (encoding cp).length
        = encodings cps := List.drop_left
    rw [show encodings (cp :: cps) = encoding cp ++ encodings cps from rfl,
      ofBytes_of_decode_ok hread, hrest]
    refine ⟨?_, ?_, ?_⟩
    · simpa [push, shift, codepoints, Function.comp_def, Sequence.shift] using hcodepoints
    · simpa [push, shift, Function.comp_def, Sequence.shift] using hlengths
    · simp [push, shift, herror]

theorem items_encodings : items (encodings cps) = cps.map .codepoint := by
  obtain ⟨hcodepoints, -, herror⟩ := ofBytes_encodings h
  simp [items, Decoding.items, hcodepoints, herror]

theorem offsetOf_encodings (i : Nat) :
    (ofBytes (encodings cps)).offsetOf i
      = ((cps.map fun cp => (encoding cp).length).take i).sum := by
  rw [offsetOf, List.map_take, (ofBytes_encodings h).2.1]

end

/-! ## Readers over encodings -/

/-- **Decode undoes encode over whole texts.** A reader over the encodings of
codepoints hands out exactly these codepoints and then nothing, and before each
of them its position is the length of the encodings in front. Codepoints beyond
`maxEncodable` are refused, with the codepoint in the error. -/
theorem reader_over_encodings :
    (∀ cps : List Nat, (∀ cp ∈ cps, cp ≤ maxEncodable) →
      ∃ pieces lengths, cps.mapM encode = .ok pieces
        ∧ cps.mapM encodedLength? = some lengths
        ∧ ∀ b : Buffer, b.bytes = pieces.flatten →
          (∀ i, ((ofBuffer b).advance i).position = (lengths.take i).sum
            ∧ ((ofBuffer b).advance i).next?.map Prod.fst = cps[i]?.map .codepoint)
          ∧ ((ofBuffer b).advance cps.length).position = b.size)
      ∧ ∀ cp, maxEncodable < cp →
        encode cp = .error ⟨cp⟩ ∧ encodedLength? cp = none := by
  refine ⟨?_, fun cp hcp => encode_eq_error hcp⟩
  intro cps hcps
  refine ⟨_, _, mapM_encode hcps, mapM_encodedLength? hcps, ?_⟩
  intro b hb
  have hbytes : b.bytes = encodings cps := by rw [hb, encodings, List.flatMap_def]
  have hposition (i : Nat) : ((ofBuffer b).advance i).position
      = ((cps.map fun cp => (encoding cp).length).take i).sum := by
    rw [position_advance, hbytes, offsetOf_encodings hcps]
  refine ⟨fun i => ⟨hposition i, ?_⟩, ?_⟩
  · rw [next?_advance, hbytes, items_encodings hcps, List.getElem?_map]
  · rw [hposition, Buffer.size, hbytes, encodings, List.length_flatMap,
      List.take_of_length_le (by simp)]

/-- The bounds of all lengths, and a surrogate. -/
def boundaryCodepoints : List Nat :=
  [0, 0x7F, 0x80, 0x7FF, 0x800, 0xD800, 0xFFFF, 0x10000, 0x1FFFFF]

/-- Over the bounds of all lengths, in a buffer that owns its bytes. -/
theorem reader_over_encodings_of_boundaries :
    (∀ cp ∈ boundaryCodepoints, cp ≤ maxEncodable)
      ∧ (∀ i, ((ofBuffer (.own (encodings boundaryCodepoints))).advance i).next?.map Prod.fst
        = boundaryCodepoints[i]?.map .codepoint)
      ∧ maxEncodable < 0x200000 ∧ encode 0x200000 = .error ⟨0x200000⟩ := by
  have hcps : ∀ cp ∈ boundaryCodepoints, cp ≤ maxEncodable := by decide
  obtain ⟨hread, hrefused⟩ := reader_over_encodings
  obtain ⟨pieces, lengths, hpieces, -, hreader⟩ := hread boundaryCodepoints hcps
  rw [mapM_encode hcps, Except.ok.injEq] at hpieces
  have hbytes : (Buffer.own (encodings boundaryCodepoints)).bytes = pieces.flatten := by
    rw [← hpieces, ← List.flatMap_def]
    rfl
  exact ⟨hcps, fun i => ((hreader _ hbytes).1 i).2, by decide,
    (hrefused 0x200000 (by decide)).1⟩

end Utf8Text
