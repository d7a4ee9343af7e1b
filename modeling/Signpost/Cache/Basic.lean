import Signpost.Cache.Table
import Signpost.Listing
import Signpost.Time.Instant

/-!
# The cache

Each stored URL has the instant from which it is expired. A look-up has two phases, a reading one
that leaves the table alone and, if an expired entry was seen, a writing one that looks again before
it removes the entry.
-/

namespace Signpost

structure Stored where
  url : Url
  storedAt : Time.Instant
  expiresAt : Time.Instant
  deriving DecidableEq, Repr

def Stored.isFresh (entry : Stored) (now : Time.Instant) : Bool :=
  now < entry.expiresAt

structure Cache where
  ttl : Time.Span
  table : Table Stored

namespace Cache

def empty (ttl : Time.Span) : Cache :=
  ⟨ttl, .empty⟩

def size (c : Cache) : Nat :=
  c.table.size

/-- An entry stored now; a lifetime that leaves no instant lasts to the latest one. -/
def stored (c : Cache) (url : Url) (now : Time.Instant) : Stored :=
  ⟨url, now, (now.add? c.ttl).getD .latest⟩

/-! ### Looking up -/

/-- What the reading phase of a look-up sees. -/
inductive Sight where
  | fresh (url : Url)
  | expired
  | absent
  deriving DecidableEq, Repr

def peek (c : Cache) (key : String) (now : Time.Instant) : Sight :=
  match c.table.get? key with
  | none => .absent
  | some entry => if entry.isFresh now then .fresh entry.url else .expired

/-- The writing phase: the entry is removed only if it is still expired. -/
def settle (c : Cache) (key : String) (now : Time.Instant) : Option Url × Cache :=
  match c.table.get? key with
  | none => (none, c)
  | some entry =>
    if entry.isFresh now then (some entry.url, c)
    else (none, { c with table := c.table.erase key })

def get (c : Cache) (key : String) (now : Time.Instant) : Option Url × Cache :=
  match c.peek key now with
  | .fresh url => (some url, c)
  | .absent => (none, c)
  | .expired => c.settle key now

/-! ### Storing and removing -/

def put (c : Cache) (key : String) (url : Url) (now : Time.Instant) : Cache :=
  { c with table := c.table.insert key (c.stored url now) }

/-- Stores entries in order, so that the last one of a key stays. -/
def putAll (c : Cache) (entries : List Listing.Entry) (now : Time.Instant) : Cache :=
  entries.foldl (fun c entry => c.put entry.urn entry.url now) c

/-- Removes an entry, fresh or expired, and tells whether there was one. -/
def invalidate (c : Cache) (key : String) : Bool × Cache :=
  ((c.table.get? key).isSome, { c with table := c.table.erase key })

def clear (c : Cache) : Cache :=
  { c with table := .empty }

/-- Removes all expired entries and counts them. -/
def sweep (c : Cache) (now : Time.Instant) : Nat × Cache :=
  let table := c.table.filter fun pair => pair.2.isFresh now
  (c.table.size - table.size, { c with table })

end Signpost.Cache
