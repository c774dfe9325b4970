import Utf8Text.Proofs.Reader
import Utf8Text.Readers

/-!
# Scripts over readers as scripts over indices

The readers of a script are refined to numbers: under each name stands the
number of items its reader has handed out, and a request is answered from the
list of items. `run_eq_map_run` is the simulation; it holds for every script,
because a step that is put to the readers behind some indices leaves the readers
behind the indices that the same step leaves.
-/

namespace Utf8Text

open Decoding

/-! ## Stores under a function, and what holds of all their values -/

namespace Named

variable {α β : Type}

/-- The store with a function applied to all values. -/
def map (f : α → β) (s : Named α) : Named β :=
  ⟨s.entries.map fun entry => (entry.1, f entry.2)⟩

theorem get?_map (f : α → β) (s : Named α) (name : String) :
    (s.map f).get? name = (s.get? name).map f := by
  simp only [get?, map]
  induction s.entries with
  | nil => rfl
  | cons entry entries ih =>
    obtain ⟨key, a⟩ := entry
    cases h : name == key <;> simp [List.lookup_cons, h, ih]

theorem map_erase (f : α → β) (s : Named α) (name : String) :
    (s.erase name).map f = (s.map f).erase name := by
  simp [map, erase, List.filter_map, Function.comp_def]

theorem map_set (f : α → β) (s : Named α) (name : String) (a : α) :
    (s.set name a).map f = (s.map f).set name (f a) := by
  rw [set, set, ← map_erase]
  rfl

section
variable {p : α → Prop} {s : Named α} (h : ∀ name a, s.get? name = some a → p a)
include h

/-- What holds of all values of a store holds of them without one of the names. -/
theorem forall_get?_erase (name : String) :
    ∀ other a, (s.erase name).get? other = some a → p a := by
  intro other a ha
  by_cases hname : other = name
  · subst hname
    rw [get?_erase_self] at ha
    cases ha
  · rw [get?_erase_of_ne s hname] at ha
    exact h other a ha

/-- What holds of all values of a store and of one more holds when that one is put in. -/
theorem forall_get?_set (name : String) {a : α} (ha : p a) :
    ∀ other b, (s.set name a).get? other = some b → p b := by
  intro other b hb
  by_cases hname : other = name
  · subst hname
    rw [get?_set_self, Option.some.injEq] at hb
    exact hb ▸ ha
  · rw [get?_set_of_ne s hname] at hb
    exact h other b hb

end

end Named

namespace Readers

/-! ## Indices -/

/-- The numbers of items that the readers in use have handed out, by name. -/
abbrev Indices := Named Nat

namespace Indices

/-- One reader, under the name `main`, that has handed out nothing. -/
def start : Indices :=
  Named.empty.set "main" 0

/-- What a request yields behind `k` of the items of a buffer, and the number of
items that are behind afterwards. -/
def answer (b : Buffer) (k : Nat) : Request → Result × Nat
  | .next => (.item (items b.bytes)[k]?, min (k + 1) (items b.bytes).length)
  | .nth n => (.item (items b.bytes)[k + n]?, min (k + n + 1) (items b.bytes).length)
  | .take n => (.items (((items b.bytes).drop k).take n), min (k + n) (items b.bytes).length)
  | .rest => (.items ((items b.bytes).drop k), (items b.bytes).length)
  | .count => (.count ((items b.bytes).length - k), (items b.bytes).length)
  | .last => (.item ((items b.bytes).drop k).getLast?, (items b.bytes).length)
  | .source => (.buffer b, k)
  | .view => (.done, k)
  | .copy _ => (.done, k)

/-- Performs a step on indices. -/
def step (b : Buffer) (is : Indices) (s : Step) : Option (Result × Nat) × Indices :=
  match is.get? s.reader with
  | none => (none, is)
  | some k =>
    let (result, k) := answer b k s.request
    let is := is.set s.reader k
    match s.request with
    | .copy target => (some (result, k), is.set target k)
    | _ => (some (result, k), is)

/-- Performs the steps in order and collects their answers. -/
def run (b : Buffer) : Indices → List Step → List (Option (Result × Nat)) × Indices
  | is, [] => ([], is)
  | is, s :: steps =>
    let (answer, is) := step b is s
    let (answers, is) := run b is steps
    (answer :: answers, is)

/-- No index is beyond the number of items. -/
def InBounds (b : Buffer) (is : Indices) : Prop :=
  ∀ name k, is.get? name = some k → k ≤ (items b.bytes).length

theorem InBounds.set {b : Buffer} {is : Indices} (h : is.InBounds b) (name : String)
    {k : Nat} (hk : k ≤ (items b.bytes).length) : InBounds b (is.set name k) :=
  Named.forall_get?_set h name hk

theorem inBounds_start (b : Buffer) : InBounds b start :=
  InBounds.set (fun _ _ h => by simp at h) "main" (Nat.zero_le _)

theorem answer_le {b : Buffer} {k : Nat} (hk : k ≤ (items b.bytes).length)
    (request : Request) : (answer b k request).2 ≤ (items b.bytes).length := by
  cases request <;> simp only [answer] <;> omega

end Indices

/-! ## The simulation -/

/-- One reader answers a request as its index does. -/
theorem ask_behind {b : Buffer} {k : Nat} (hk : k ≤ (items b.bytes).length)
    (request : Request) :
    request.ask (Reader.behind b k)
      = (Indices.answer b k request).map id (Reader.behind b) := by
  cases request with
  | next =>
    obtain ⟨item, hitem, hlt, hnext⟩ | ⟨hitem, hlength, hnext⟩ := Reader.next?_behind_cases hk
    · simp only [Request.ask, hnext, Indices.answer, hitem, Nat.min_eq_left hlt]
      rfl
    · simp only [Request.ask, hnext, Indices.answer, hitem, hlength,
        Nat.min_eq_right (Nat.le_succ k)]
      rfl
  | nth n =>
    simp only [Request.ask, Reader.nth_behind hk]
    rfl
  | take n =>
    simp only [Request.ask, Reader.take_behind hk]
    rfl
  | rest =>
    simp only [Request.ask, Reader.rest_behind hk]
    rfl
  | count =>
    simp only [Request.ask, Reader.count_behind hk]
    rfl
  | last =>
    simp only [Request.ask, Reader.last?_behind hk]
    rfl
  | source => rfl
  | view => rfl
  | copy target => rfl

/-- **One step**: on the readers behind some indices it answers as on the
indices, and leaves the readers behind the indices that it leaves. -/
theorem step_map {b : Buffer} {is : Indices} (h : is.InBounds b) (s : Step) :
    step (is.map (Reader.behind b)) s
        = ((Indices.step b is s).1.map (Prod.map id (Reader.behind b)),
            (Indices.step b is s).2.map (Reader.behind b))
      ∧ (Indices.step b is s).2.InBounds b := by
  obtain ⟨name, request⟩ := s
  simp only [step, Indices.step, Named.get?_map]
  cases hk : is.get? name with
  | none => exact ⟨rfl, h⟩
  | some k =>
    have hle := h name k hk
    have hanswer := Indices.answer_le hle request
    have hset := h.set name hanswer
    simp only [Option.map_some, ask_behind hle]
    -- a copy sets two names, any other request only its own
    cases request <;> simp only [Named.map_set] <;>
      first
      | exact ⟨rfl, hset⟩
      | exact ⟨rfl, hset.set _ hanswer⟩

theorem run_map {b : Buffer} {is : Indices} (h : is.InBounds b) (steps : List Step) :
    run (is.map (Reader.behind b)) steps
        = ((Indices.run b is steps).1.map (Option.map (Prod.map id (Reader.behind b))),
            (Indices.run b is steps).2.map (Reader.behind b))
      ∧ (Indices.run b is steps).2.InBounds b := by
  induction steps generalizing is with
  | nil => exact ⟨rfl, h⟩
  | cons s steps ih =>
    obtain ⟨hstep, hbounds⟩ := step_map h s
    obtain ⟨hrun, hbounds'⟩ := ih hbounds
    refine ⟨?_, hbounds'⟩
    simp only [run, Indices.run, hstep, hrun, List.map_cons]

/-- A step changes no reader but the one it names and the one it copies to. -/
theorem get?_step_of_ne (rs : Readers) (s : Step) {name : String}
    (hreader : name ≠ s.reader) (htarget : s.request ≠ .copy name) :
    (step rs s).2.get? name = rs.get? name := by
  obtain ⟨reader, request⟩ := s
  simp only [step]
  cases rs.get? reader with
  | none => rfl
  | some r =>
    cases request with
    | copy target =>
      have hne : name ≠ target := fun h => htarget (by rw [h])
      simp only [Named.get?_set_of_ne _ hne, Named.get?_set_of_ne _ hreader]
    | _ => exact Named.get?_set_of_ne rs hreader _

/-- **Readers are indices, for any script.** Whatever steps are put to readers
that were copied from one reader over a buffer, each of them is at any time the
reader behind some number of items, and every answer is read off the list of
items; counting and asking for the last item run to the end. A step changes only
the reader it names and the one it copies to. Positions are the total lengths of
the sequences handed out, and the items are codepoints with at most one error
behind them, which is true of the bytes and lies where all later positions
are. -/
theorem run_eq_map_run (b : Buffer) (steps : List Step) :
    let indexed := Indices.run b Indices.start steps
    let count := (items b.bytes).length
    run (ofBuffer b) steps
        = (indexed.1.map (Option.map (Prod.map id (Reader.behind b))),
            indexed.2.map (Reader.behind b))
      ∧ (∀ name k, indexed.2.get? name = some k →
        k ≤ count
        ∧ (Reader.behind b k).position
          = (((ofBytes b.bytes).sequences.take k).map Sequence.length).sum
        ∧ (Reader.behind b k).position ≤ b.size
        ∧ (Reader.behind b k).remaining = b.bytes.drop (Reader.behind b k).position)
      ∧ (∀ (rs : Readers) (s : Step) (name : String), name ≠ s.reader →
        s.request ≠ .copy name → (step rs s).2.get? name = rs.get? name)
      ∧ items b.bytes = (ofBytes b.bytes).sequences.map (fun s => .codepoint s.codepoint)
        ++ (ofBytes b.bytes).error?.toList.map .error
      ∧ ∀ e, (ofBytes b.bytes).error? = some e →
        e.Describes b.bytes ∧ e.offset = (Reader.behind b (count - 1)).position
        ∧ e.offset = (Reader.behind b count).position := by
  intro indexed count
  obtain ⟨hrun, hbounds⟩ := run_map (Indices.inBounds_start b) steps
  have hstart : Indices.start.map (Reader.behind b) = ofBuffer b := by
    rw [Indices.start, Named.map_set, Reader.behind_zero]
    rfl
  refine ⟨hstart ▸ hrun, ?_, fun rs s name => get?_step_of_ne rs s, ?_, ?_⟩
  · intro name k hk
    exact ⟨hbounds name k hk, rfl,
      (offsetOf_le_stop _ k).trans (stop_le_length b.bytes), rfl⟩
  · rw [items, Decoding.items, codepoints, List.map_map]
    rfl
  · intro e he
    have hoffset := (decode_drop_error he).1
    have hcount : count = (ofBytes b.bytes).sequences.length + 1 := length_items_of_some he
    refine ⟨error_describes he, ?_, ?_⟩
    · rw [hoffset, Reader.behind, offsetOf_eq_stop (by omega)]
    · rw [hoffset, Reader.behind, offsetOf_eq_stop (by omega)]

/-- Counting moves the reader to the end, so that the item it stood at is not
handed out any more; and so does asking for the last item. -/
theorem count_and_last_run_to_the_end :
    (items [0x61])[0]? = some (.codepoint 0x61)
      ∧ (run (ofBuffer (.borrow [0x61])) [⟨"main", .count⟩, ⟨"main", .next⟩]).1.map
          (Option.map fun answer => (answer.1, answer.2.position))
        = [some (.count 1, 1), some (.item none, 1)]
      ∧ (run (ofBuffer (.borrow [0x61])) [⟨"main", .last⟩, ⟨"main", .next⟩]).1.map
          (Option.map fun answer => (answer.1, answer.2.position))
        = [some (.item (some (.codepoint 0x61)), 1), some (.item none, 1)] := by
  refine ⟨rfl, ?_, ?_⟩ <;> rfl

end Readers

end Utf8Text
