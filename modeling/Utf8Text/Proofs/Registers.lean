import Utf8Text.Proofs.Readers
import Utf8Text.Registers

/-!
# Where the bytes in a register come from

A second machine runs the same programs without any buffers. Its registers hold
lineages: the bytes that were made once, the slices taken of them since, and who owns
the result. A slice is allowed or refused by its bounds and the size of the last one
alone. After any program the registers hold the buffers of the lineages, so a buffer is
one part of the bytes that were made, within all slices that it was taken from
(`registers_hold_parts_of_made`).

A step writes to one register at most (`Step.target?`), and whatever goes on elsewhere
leaves the others as they are (`get?_run_of_forall_ne`).
-/

namespace Utf8Text

/-! ## Lineages -/

/-- Where the bytes of a buffer come from: the bytes that were made, the bounds of the
slices taken since, the last one in front, and who owns the outcome. -/
structure Lineage where
  made : Bytes
  slices : List (Nat × Nat)
  ownership : Ownership

namespace Lineage

/-- Where a buffer starts in the bytes that were made: the starts of all slices count. -/
def start (l : Lineage) : Nat :=
  (l.slices.map Prod.fst).sum

/-- The size of a buffer: that of the last slice, or of all that was made. -/
def size (l : Lineage) : Nat :=
  match l.slices with
  | [] => l.made.length
  | (start, stop) :: _ => stop - start

/-- Where a buffer stops in the bytes that were made. -/
def stop (l : Lineage) : Nat :=
  l.start + l.size

/-- The buffer of a lineage. -/
def buffer (l : Lineage) : Buffer :=
  ⟨(l.made.drop l.start).take (l.stop - l.start), l.ownership⟩

/-- The lineage of a buffer that was just made. -/
def ofBuffer (b : Buffer) : Lineage :=
  ⟨b.bytes, [], b.ownership⟩

/-- The lineage of a slice. -/
def slice (l : Lineage) (start stop : Nat) : Lineage :=
  ⟨l.made, (start, stop) :: l.slices, .borrowed⟩

/-- The lineage of the same bytes in storage of their own. -/
def toOwned (l : Lineage) : Lineage :=
  { l with ownership := .owned }

/-- The lineage as it was when only some of its slices had been taken. -/
def enclosing (l : Lineage) (slices : List (Nat × Nat)) : Lineage :=
  { l with slices := slices }

@[simp] theorem buffer_ofBuffer (b : Buffer) : (ofBuffer b).buffer = b := by
  have hstop : (ofBuffer b).stop = b.bytes.length := Nat.zero_add _
  rw [buffer, hstop]
  exact congrArg (Buffer.mk · b.ownership) List.take_length

/-- Every slice was taken within the one before it. -/
def IsNested (l : Lineage) : Prop :=
  ∀ inner start stop outer, l.slices = inner ++ (start, stop) :: outer →
    start ≤ stop ∧ stop ≤ (l.enclosing outer).size

theorem isNested_ofBuffer (b : Buffer) : (ofBuffer b).IsNested := by
  intro inner start stop outer h
  exact absurd h.symm (by simp [ofBuffer])

theorem IsNested.toOwned {l : Lineage} (h : l.IsNested) : l.toOwned.IsNested := h

section
variable {l : Lineage} (h : l.IsNested)
include h

theorem IsNested.slice {start stop : Nat} (hstart : start ≤ stop) (hstop : stop ≤ l.size) :
    (l.slice start stop).IsNested := by
  intro inner start' stop' outer hslices
  cases inner with
  | nil =>
    obtain ⟨hbounds, rfl⟩ := List.cons.inj hslices
    cases hbounds
    exact ⟨hstart, hstop⟩
  | cons first inner => exact h inner start' stop' outer (List.cons.inj hslices).2

/-- **Within every enclosing slice.** -/
theorem IsNested.within_enclosing {inner outer : List (Nat × Nat)}
    (hslices : l.slices = inner ++ outer) :
    (l.enclosing outer).start ≤ l.start ∧ l.stop ≤ (l.enclosing outer).stop := by
  induction inner generalizing outer l with
  | nil =>
    have hsame : l.enclosing outer = l := by rw [enclosing, ← List.nil_append outer, ← hslices]
    rw [hsame]
    exact ⟨Nat.le_refl _, Nat.le_refl _⟩
  | cons first inner ih =>
    obtain ⟨start, stop⟩ := first
    obtain ⟨hstart, hstop⟩ := h [] start stop (inner ++ outer) hslices
    -- the slice before the last one
    have hparent : (l.enclosing (inner ++ outer)).IsNested := by
      intro inner' start' stop' outer' hslices'
      refine h ((start, stop) :: inner') start' stop' outer' ?_
      rw [hslices, List.cons_append, List.cons_append, ← hslices']
      rfl
    obtain ⟨hlow, hhigh⟩ := ih hparent rfl
    have hlstart : l.start = start + (l.enclosing (inner ++ outer)).start := by
      rw [Lineage.start, hslices]
      rfl
    have hlsize : l.size = stop - start := by
      rw [size, hslices]
      rfl
    have hlstop : l.stop = start + (l.enclosing (inner ++ outer)).start + (stop - start) := by
      rw [Lineage.stop, hlstart, hlsize]
    have hpstop : (l.enclosing (inner ++ outer)).stop
        = (l.enclosing (inner ++ outer)).start + (l.enclosing (inner ++ outer)).size := rfl
    refine ⟨hlow.trans (by omega), le_trans ?_ hhigh⟩
    omega

theorem IsNested.stop_le : l.stop ≤ l.made.length := by
  have hwithin := (h.within_enclosing (List.append_nil l.slices).symm).2
  have hall : (l.enclosing []).stop = l.made.length := Nat.zero_add _
  rwa [hall] at hwithin

theorem IsNested.size_buffer : l.buffer.size = l.size := by
  have hle := h.stop_le
  have hstop : l.stop = l.start + l.size := rfl
  rw [Buffer.size, buffer, List.length_take, List.length_drop]
  omega

/-- A slice of the buffer is the buffer of the slice, if the bounds allow one. -/
theorem IsNested.slice_buffer (start stop : Nat) :
    l.buffer.slice start stop
      = if start ≤ stop ∧ stop ≤ l.size then .ok (l.slice start stop).buffer
        else .error (.sliceOutOfBounds start stop l.size) := by
  rw [Buffer.slice, h.size_buffer]
  split
  · rename_i hbounds
    have hbytes : (l.buffer.bytes.drop start).take (stop - start)
        = (l.slice start stop).buffer.bytes := by
      have hsize : l.stop - l.start = l.size := Nat.add_sub_cancel_left _ _
      have hsize' : (l.slice start stop).stop - (l.slice start stop).start = stop - start :=
        Nat.add_sub_cancel_left _ _
      have hstart' : (l.slice start stop).start = start + l.start := rfl
      have hmin : min (stop - start) (l.size - start) = stop - start := by omega
      rw [buffer, buffer, hsize, hsize', hstart', List.drop_take, List.take_take, hmin,
        List.drop_drop, Nat.add_comm]
      rfl
    rw [hbytes]
    rfl
  · rfl

end

end Lineage

namespace Registers

/-! ## The machine on lineages -/

/-- The lineages of the buffers in use, by the names of their registers. -/
abbrev Lineages := Named Lineage

namespace Lineages

/-- Performs one step. -/
def step (ls : Lineages) : Step → Lineages
  | .make construction bytes target => ls.set target (.ofBuffer (construction.make bytes))
  | .slice source start stop target =>
    match ls.get? source with
    | none => ls
    | some l =>
      if start ≤ stop ∧ stop ≤ l.size then ls.set target (l.slice start stop) else ls
  | .toOwned register =>
    match ls.get? register with
    | none => ls
    | some l => ls.set register l.toOwned
  | .release register =>
    match ls.get? register with
    | none => ls
    | some _ => ls.erase register
  | .view _ => ls
  | .compare _ _ => ls
  | .decode _ => ls

/-- Performs the steps in order. -/
def run (ls : Lineages) (steps : List Step) : Lineages :=
  steps.foldl step ls

/-- All lineages are nested. -/
def AreNested (ls : Lineages) : Prop :=
  ∀ name l, ls.get? name = some l → l.IsNested

theorem areNested_empty : AreNested Named.empty := by
  intro name l h
  cases h

theorem AreNested.set {ls : Lineages} (h : ls.AreNested) (name : String) {l : Lineage}
    (hl : l.IsNested) : AreNested (ls.set name l) :=
  Named.forall_get?_set h name hl

theorem AreNested.erase {ls : Lineages} (h : ls.AreNested) (name : String) :
    AreNested (ls.erase name) :=
  Named.forall_get?_erase h name

end Lineages

/-- **One step** on the buffers of lineages leaves the buffers of the lineages that it
leaves. -/
theorem step_map {ls : Lineages} (h : ls.AreNested) (s : Step) :
    (step (ls.map Lineage.buffer) s).2 = (ls.step s).map Lineage.buffer
      ∧ (ls.step s).AreNested := by
  cases s with
  | make construction bytes target =>
    refine ⟨?_, h.set target (Lineage.isNested_ofBuffer _)⟩
    rw [Lineages.step, Named.map_set, Lineage.buffer_ofBuffer]
    rfl
  | slice source start stop target =>
    simp only [step, Lineages.step, Named.get?_map]
    cases hl : ls.get? source with
    | none => exact ⟨rfl, h⟩
    | some l =>
      have hnested := h source l hl
      simp only [Option.map_some, hnested.slice_buffer]
      by_cases hbounds : start ≤ stop ∧ stop ≤ l.size
      · rw [if_pos hbounds, if_pos hbounds, Named.map_set]
        exact ⟨rfl, h.set target (hnested.slice hbounds.1 hbounds.2)⟩
      · rw [if_neg hbounds, if_neg hbounds]
        exact ⟨rfl, h⟩
  | toOwned register =>
    simp only [step, Lineages.step, Named.get?_map]
    cases hl : ls.get? register with
    | none => exact ⟨rfl, h⟩
    | some l =>
      refine ⟨?_, h.set register (h register l hl).toOwned⟩
      simp only [Option.map_some, Named.map_set]
      rfl
  | release register =>
    simp only [step, Lineages.step, Named.get?_map]
    cases hl : ls.get? register with
    | none => exact ⟨rfl, h⟩
    | some l =>
      refine ⟨?_, h.erase register⟩
      simp only [Option.map_some, Named.map_erase]
  | view source =>
    simp only [step, Lineages.step]
    cases (ls.map Lineage.buffer).get? source <;> exact ⟨rfl, h⟩
  | compare left right =>
    simp only [step, Lineages.step]
    refine ⟨?_, h⟩
    split <;> rfl
  | decode source =>
    simp only [step, Lineages.step]
    cases (ls.map Lineage.buffer).get? source <;> exact ⟨rfl, h⟩

theorem run_map {ls : Lineages} (h : ls.AreNested) (steps : List Step) :
    (run (ls.map Lineage.buffer) steps).2 = (ls.run steps).map Lineage.buffer
      ∧ (ls.run steps).AreNested := by
  induction steps generalizing ls with
  | nil => exact ⟨rfl, h⟩
  | cons s steps ih =>
    obtain ⟨hstep, hnested⟩ := step_map h s
    obtain ⟨hrun, hnested'⟩ := ih hnested
    refine ⟨?_, hnested'⟩
    simp only [run, hstep, hrun]
    rfl

/-! ## What a step leaves alone -/

/-- The register that a step writes to. -/
def Step.target? : Step → Option String
  | .make _ _ target => some target
  | .slice _ _ _ target => some target
  | .toOwned register => some register
  | .release register => some register
  | .view _ => none
  | .compare _ _ => none
  | .decode _ => none

theorem get?_step_of_ne (r : Registers) (s : Step) {name : String} (h : s.target? ≠ some name) :
    (step r s).2.get? name = r.get? name := by
  have hne {target : String} (htarget : s.target? = some target) : name ≠ target := by
    rintro rfl
    exact h htarget
  cases s with
  | make construction bytes target => exact Named.get?_set_of_ne r (hne rfl) _
  | slice source start stop target =>
    rw [step]
    split
    · rfl
    · split
      · rfl
      · exact Named.get?_set_of_ne r (hne rfl) _
  | toOwned register =>
    rw [step]
    split
    · rfl
    · exact Named.get?_set_of_ne r (hne rfl) _
  | release register =>
    rw [step]
    split
    · rfl
    · exact Named.get?_erase_of_ne r (hne rfl)
  | view source | compare left right | decode source =>
    rw [step]
    split <;> rfl

/-- **What goes on elsewhere** leaves a register as it is. -/
theorem get?_run_of_forall_ne (r : Registers) {steps : List Step} {name : String}
    (h : ∀ s ∈ steps, s.target? ≠ some name) : (run r steps).2.get? name = r.get? name := by
  induction steps generalizing r with
  | nil => rfl
  | cons s steps ih =>
    calc (run r (s :: steps)).2.get? name
        = (run (step r s).2 steps).2.get? name := rfl
      _ = (step r s).2.get? name := ih _ fun s' hs' => h s' (List.mem_cons_of_mem s hs')
      _ = r.get? name := get?_step_of_ne r s (h s List.mem_cons_self)

/-- A step that fails, because it is refused or names an empty register, changes
nothing. -/
theorem step_of_failed {r : Registers} {s : Step}
    (h : (∃ e, (step r s).1 = .refused e) ∨ (step r s).1 = .emptyRegister) :
    (step r s).2 = r := by
  cases s with
  | make construction bytes target => rcases h with ⟨e, h⟩ | h <;> cases h
  | slice source start stop target =>
    simp only [step] at h ⊢
    cases hb : r.get? source with
    | none => rfl
    | some b =>
      simp only [hb] at h ⊢
      cases hpart : b.slice start stop with
      | error e => rfl
      | ok part =>
        simp only [hpart] at h
        rcases h with ⟨e, h⟩ | h <;> cases h
  | toOwned register | release register =>
    simp only [step] at h ⊢
    cases hb : r.get? register with
    | none => rfl
    | some b =>
      simp only [hb] at h
      rcases h with ⟨e, h⟩ | h <;> cases h
  | view source | compare left right | decode source =>
    rw [step]
    split <;> rfl

/-! ## Single steps -/

section
variable {r : Registers} {name : String} {b : Buffer} (hb : r.get? name = some b)
include hb

theorem step_slice_of_le {start stop : Nat} (h : start ≤ stop ∧ stop ≤ b.size)
    (target : String) :
    (step r (.slice name start stop target)).1
      = .buffer (.borrow ((b.bytes.drop start).take (stop - start))) := by
  simp only [step, hb, Buffer.slice, if_pos h]

theorem step_slice_of_not_le {start stop : Nat} (h : ¬ (start ≤ stop ∧ stop ≤ b.size))
    (target : String) :
    step r (.slice name start stop target)
      = (.refused (.sliceOutOfBounds start stop b.size), r) := by
  simp only [step, hb, Buffer.slice, if_neg h]

theorem exists_step_slice_eq_buffer_iff (start stop : Nat) (target : String) :
    (∃ part, (step r (.slice name start stop target)).1 = .buffer part)
      ↔ start ≤ stop ∧ stop ≤ b.size := by
  by_cases h : start ≤ stop ∧ stop ≤ b.size
  · exact iff_of_true ⟨_, step_slice_of_le hb h target⟩ h
  · refine iff_of_false ?_ h
    rintro ⟨part, hpart⟩
    rw [step_slice_of_not_le hb h target] at hpart
    cases hpart

theorem get?_step_toOwned :
    (step r (.toOwned name)).2.get? name = some ⟨b.bytes, .owned⟩ := by
  simp only [step, hb]
  exact Named.get?_set_self r name _

theorem step_release :
    (step r (.release name)).1 = .freed (if b.isOwned then b.size else 0)
      ∧ (step r (.release name)).2.get? name = none := by
  simp only [step, hb, Named.get?_erase_self, and_true]
  obtain ⟨bytes, ownership⟩ := b
  cases ownership <;> rfl

/-- Two registers compare equal if and only if they hold the same bytes, and then they
have the same hash. -/
theorem step_compare {other : String} {c : Buffer} (hc : r.get? other = some c) :
    ∃ equal sameHash, (step r (.compare name other)).1 = .compared equal sameHash
      ∧ (equal = true ↔ b.bytes = c.bytes) ∧ (equal = true → sameHash = true) := by
  have hequal : (b == c) = true ↔ b.bytes = c.bytes := by
    show (b.bytes == c.bytes) = true ↔ _
    exact beq_iff_eq
  refine ⟨b == c, hash b == hash c, ?_, hequal, ?_⟩
  · simp only [step, hb, hc]
  · intro h
    have hhash : hash b = hash c := by
      show hash b.bytes = hash c.bytes
      rw [hequal.mp h]
    rw [hhash]
    exact beq_self_eq_true _

end

/-- **Buffers in registers**, after any program that starts with empty registers. What a
register holds is one part of bytes that were made once: it starts where the starts of
all slices since add up to, has the size of the last one, and lies within each of them.
A slice is taken if and only if its bounds are in order and within the buffer, and else
refused with these bounds and the size. Taking ownership changes nothing but who owns
the bytes; giving a buffer up frees its bytes if it owns them, and empties its register.
Buffers are compared by their bytes alone. A step that fails changes nothing, and no
steps change a register that none of them writes to. -/
theorem registers_hold_parts_of_made (steps : List Step) :
    let r := (run Named.empty steps).2
    let lineages := Lineages.run Named.empty steps
    (∀ name, r.get? name = (lineages.get? name).map Lineage.buffer)
      ∧ (∀ name l, lineages.get? name = some l →
        l.buffer.size = l.stop - l.start ∧ l.stop ≤ l.made.length
        ∧ ∀ inner outer, l.slices = inner ++ outer →
          (l.enclosing outer).start ≤ l.start ∧ l.stop ≤ (l.enclosing outer).stop)
      ∧ (∀ name b, r.get? name = some b →
        (∀ start stop target,
          ((∃ part, (step r (.slice name start stop target)).1 = .buffer part)
            ↔ start ≤ stop ∧ stop ≤ b.size)
          ∧ (¬ (start ≤ stop ∧ stop ≤ b.size) →
            step r (.slice name start stop target)
              = (.refused (.sliceOutOfBounds start stop b.size), r)))
        ∧ (step r (.toOwned name)).2.get? name = some ⟨b.bytes, .owned⟩
        ∧ (step r (.release name)).1 = .freed (if b.isOwned then b.size else 0)
        ∧ (step r (.release name)).2.get? name = none
        ∧ ∀ other c, r.get? other = some c →
          ∃ equal sameHash, (step r (.compare name other)).1 = .compared equal sameHash
            ∧ (equal = true ↔ b.bytes = c.bytes) ∧ (equal = true → sameHash = true))
      ∧ (∀ s, (∃ e, (step r s).1 = .refused e) ∨ (step r s).1 = .emptyRegister →
        (step r s).2 = r)
      ∧ ∀ more name, (∀ s ∈ more, Step.target? s ≠ some name) →
        (run r more).2.get? name = r.get? name := by
  intro r lineages
  obtain ⟨hrun, hnested⟩ := run_map Lineages.areNested_empty steps
  have hregisters : r = lineages.map Lineage.buffer := hrun
  refine ⟨?_, ?_, ?_, fun s => step_of_failed, fun more name => get?_run_of_forall_ne r⟩
  · intro name
    rw [hregisters, Named.get?_map]
  · intro name l hl
    have hthis := hnested name l hl
    have hsize : l.stop - l.start = l.size := Nat.add_sub_cancel_left _ _
    exact ⟨hthis.size_buffer.trans hsize.symm, hthis.stop_le,
      fun inner outer => hthis.within_enclosing⟩
  · intro name b hb
    obtain ⟨hfreed, hempty⟩ := step_release hb
    refine ⟨?_, get?_step_toOwned hb, hfreed, hempty, fun other c => step_compare hb⟩
    intro start stop target
    exact ⟨exists_step_slice_eq_buffer_iff hb start stop target,
      fun h => step_slice_of_not_le hb h target⟩

/-- A slice of a slice of a buffer that has been released since. -/
theorem registers_hold_parts_of_greeting :
    let steps : List Step :=
      [.make .ownBeforeNul (utf8 "Hello, world!\x00x".toList) "text",
        .slice "text" 7 12 "word", .slice "word" 1 4 "part", .toOwned "part", .release "text"]
    let r := (run Named.empty steps).2
    let lineages := Lineages.run Named.empty steps
    let part : Lineage := ⟨utf8 "Hello, world!".toList, [(1, 4), (7, 12)], .owned⟩
    let more : List Step := [.release "word", .make .borrow [0x6F] "text"]
    lineages.get? "part" = some part
      ∧ r.get? "part" = some (.own (utf8 "orl".toList))
      ∧ part.start = 8 ∧ part.stop = 11 ∧ (part.enclosing [(7, 12)]).stop = 12
      ∧ part.stop ≤ (part.enclosing [(7, 12)]).stop
      ∧ ¬ (0 ≤ 2 ^ 64 - 1 ∧ 2 ^ 64 - 1 ≤ (Buffer.own (utf8 "orl".toList)).size)
      ∧ step r (.slice "part" 0 (2 ^ 64 - 1) "text")
        = (.refused (.sliceOutOfBounds 0 (2 ^ 64 - 1) 3), r)
      ∧ (step r (.release "part")).1 = .freed 3
      ∧ (∀ s ∈ more, Step.target? s ≠ some "part")
      ∧ (run r more).2.get? "part" = some (.own (utf8 "orl".toList)) := by
  intro steps r lineages part more
  obtain ⟨hholds, hwithin, hsteps, -, helsewhere⟩ := registers_hold_parts_of_made steps
  have hlineage : lineages.get? "part" = some part := by rfl
  have hpart : r.get? "part" = some (.own (utf8 "orl".toList)) := by
    rw [hholds, hlineage]
    rfl
  have hlarge : ¬ (0 ≤ 2 ^ 64 - 1 ∧ 2 ^ 64 - 1 ≤ (Buffer.own (utf8 "orl".toList)).size) := by
    decide
  have hmore : ∀ s ∈ more, Step.target? s ≠ some "part" := by decide
  obtain ⟨hslice, -, hfreed, -⟩ := hsteps "part" _ hpart
  refine ⟨hlineage, hpart, rfl, rfl, rfl, ((hwithin "part" part hlineage).2.2 [(1, 4)] _ rfl).2,
    hlarge, (hslice 0 (2 ^ 64 - 1) "text").2 hlarge, hfreed, hmore, ?_⟩
  rw [helsewhere more "part" hmore, hpart]

end Registers

end Utf8Text
