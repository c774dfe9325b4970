import Utf8Text.Named
import Utf8Text.Reader

/-!
# Scripts over named readers

Steps on any number of readers over one buffer. New readers come from copying old ones, at any
moment; a step moves only the reader it names.
-/

namespace Utf8Text

/-- The readers in use, by name. -/
abbrev Readers := Named Reader

namespace Readers

/-- What a step asks of a reader. -/
inductive Request where
  | next
  | nth (n : Nat)
  | take (n : Nat)
  | rest
  | count
  | last
  | source
  | view
  | copy (target : String)

/-- A request and the name of the reader it goes to. -/
structure Step where
  reader : String
  request : Request

/-- What a request yields. -/
inductive Result where
  | item (item? : Option Item)
  | items (items : List Item)
  | count (n : Nat)
  | buffer (b : Buffer)
  | done

/-- One reader, under the name `main`, at the start of a buffer. -/
def ofBuffer (b : Buffer) : Readers :=
  Named.empty.set "main" (.ofBuffer b)

/-- Puts a request to one reader; the reader comes back as it is afterwards. -/
def Request.ask (r : Reader) : Request → Result × Reader
  | .next =>
    match r.next? with
    | none => (.item none, r)
    | some (item, r) => (.item (some item), r)
  | .nth n =>
    let (item?, r) := r.nth n
    (.item item?, r)
  | .take n =>
    let (items, r) := r.take n
    (.items items, r)
  | .rest =>
    let (items, r) := r.rest
    (.items items, r)
  | .count =>
    let (n, r) := r.count
    (.count n, r)
  | .last =>
    let (item?, r) := r.last?
    (.item item?, r)
  | .source => (.buffer r.source, r)
  | .view => (.done, r)
  | .copy _ => (.done, r)

/-- Performs a step. The answer is the result and the reader it went to, as it is afterwards; none
if no reader has that name. -/
def step (rs : Readers) (s : Step) : Option (Result × Reader) × Readers :=
  match rs.get? s.reader with
  | none => (none, rs)
  | some r =>
    let (result, r) := s.request.ask r
    let rs := rs.set s.reader r
    match s.request with
    | .copy target => (some (result, r), rs.set target r)
    | _ => (some (result, r), rs)

/-- Performs the steps in order and collects their answers. -/
def run : Readers → List Step → List (Option (Result × Reader)) × Readers
  | rs, [] => ([], rs)
  | rs, s :: steps =>
    let (answer, rs) := step rs s
    let (answers, rs) := run rs steps
    (answer :: answers, rs)

end Readers

end Utf8Text
