import Signpost.Failure.Basic
import Signpost.Json.Printer
import Signpost.Json.Reader
import Signpost.Json.Shape
import Signpost.Url.Parser

/-!
# Directory listings

The directory serves records of two texts. A record whose URL can be read is an entry; the others
are dropped, and the entries keep their order and their duplicates.
-/

namespace Signpost.Listing

/-- A record as it is served. -/
structure Record where
  urn : String
  url : String
  deriving DecidableEq, Repr

structure Entry where
  urn : String
  url : Url
  deriving DecidableEq, Repr

def Entry.ofRecord (record : Record) : Except Url.Fault Entry := do
  let url ← Url.parse record.url
  .ok ⟨record.urn, url⟩

/-- The entries of the records that have a URL. -/
def entries (records : List Record) : List Entry :=
  records.filterMap fun record => (Entry.ofRecord record).toOption

/-- The number of records without a URL. -/
def dropped (records : List Record) : Nat :=
  records.countP fun record => (Entry.ofRecord record).toOption.isNone

/-! ### Records in JSON -/

def Record.toJson (record : Record) : Json.Value :=
  .ofFields [("urn", .ofString record.urn), ("url", .ofString record.url)]

def Record.ofJson? (value : Json.Value) : Option Record := do
  match ← value.fields? ["urn", "url"] with
  | [urn, url] => some ⟨← urn.text?, ← url.text?⟩
  | _ => none

def recordsOfJson? (value : Json.Value) : Option (List Record) := do
  (← value.array?).mapM Record.ofJson?

/-! ### Fetches -/

/-- What a fetch of the listing ended with, and what it counted. -/
structure Report where
  outcome : Except Failure (List Entry)
  failedAttempts : Nat
  successfulAttempts : Nat
  dropped : Nat

end Signpost.Listing
