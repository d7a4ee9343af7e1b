import Signpost.Cache.Basic
import Signpost.Metrics.Tally

/-!
# The cache and its counters

Every phase of a cache operation counts what it sees and, when it may have changed the table,
reports the table's size. Each function here is one locked section.
-/

namespace Signpost

structure Shelf where
  cache : Cache
  tally : Tally

namespace Shelf

def empty (ttl : Time.Span) : Shelf :=
  ⟨.empty ttl, {}⟩

/-- A changed cache with its size reported. -/
def replace (s : Shelf) (cache : Cache) : Shelf :=
  ⟨cache, s.tally.setSize cache.size⟩

def peek (s : Shelf) (key : String) (now : Time.Instant) : Cache.Sight × Shelf :=
  match s.cache.peek key now with
  | .fresh url => (.fresh url, { s with tally := s.tally.countHit })
  | .absent => (.absent, { s with tally := s.tally.countMiss })
  | .expired => (.expired, s)

def settle (s : Shelf) (key : String) (now : Time.Instant) : Option Url × Shelf :=
  match s.cache.peek key now with
  | .fresh url => (some url, { s with tally := s.tally.countHit })
  | .absent => (none, { s with tally := s.tally.countMiss })
  | .expired =>
    let s := s.replace (s.cache.settle key now).2
    (none, { s with tally := s.tally.countMiss })

def get (s : Shelf) (key : String) (now : Time.Instant) : Option Url × Shelf :=
  match s.peek key now with
  | (.fresh url, s) => (some url, s)
  | (.absent, s) => (none, s)
  | (.expired, s) => s.settle key now

def put (s : Shelf) (key : String) (url : Url) (now : Time.Instant) : Shelf :=
  s.replace (s.cache.put key url now)

def putAll (s : Shelf) (entries : List Listing.Entry) (now : Time.Instant) : Shelf :=
  s.replace (s.cache.putAll entries now)

def invalidate (s : Shelf) (key : String) : Bool × Shelf :=
  let (present, cache) := s.cache.invalidate key
  (present, s.replace cache)

def clear (s : Shelf) : Shelf :=
  s.replace s.cache.clear

def sweep (s : Shelf) (now : Time.Instant) : Nat × Shelf :=
  let (count, cache) := s.cache.sweep now
  (count, s.replace cache)

end Signpost.Shelf
