import Signpost.Cache.Shelf
import Signpost.Directory.Call
import Signpost.Identifier.Build

/-!
# What the calls of a directory share

The hub holds the cache with its counters and the gate that admits one refresh at a time, first
come first served. A refresh that has ended is published: the failure it ended with, if any, is
kept, the generation goes up by one and the gate opens, all at once. A call that enters after a
refresh was published that it had not seen takes over that refresh's outcome.
-/

namespace Signpost.Directory

open Listing (Report)

/-- Generations and fetches are counted without a bound, as everything is that is counted: 64 bits
hold what a run counts unless its events bring 2⁶⁴ or more in all. -/
structure Hub where
  shelf : Shelf
  singleFlight : Bool
  generation : Nat
  lastFailure : Option Failure
  holder : Option Nat
  queue : List Nat
  fetches : Nat

namespace Hub

def initial (shelf : Shelf) (singleFlight : Bool) : Hub :=
  ⟨shelf, singleFlight, 0, none, none, [], 0⟩

def countResolution (hub : Hub) (outcome : Outcome) : Hub :=
  { hub with shelf :=
      { hub.shelf with tally := hub.shelf.tally.countResolution outcome } }

/-- Whether a call is the next to enter the gate. -/
def admits (hub : Hub) (me : Nat) : Bool :=
  hub.holder.isNone && hub.queue.head? == some me

/-! ### The steps of a call -/

/-- The start of a task: kinds are checked before anything is touched. -/
def start (hub : Hub) (now : Time.Instant) (task : Task) : Hub × Stage :=
  match task.resolution? with
  | some (id, kinds) =>
    match id.checkKind kinds with
    | .error f => (hub, .done (.url (.error f)))
    | .ok () => (hub, .peeking .first now)
  | none =>
    match task with
    | .refresh => (hub, .joining none)
    | .invalidate id =>
      let (present, shelf) := hub.shelf.invalidate id.key
      ({ hub with shelf }, .done (.invalidated present))
    | .get _ => (hub, .peeking .first now)
    | .clear => ({ hub with shelf := hub.shelf.clear }, .done .stored)
    | _ => (hub, .writing now)

/-- The key that a task looks up. -/
def lookupKey (task : Task) : String :=
  match task.resolution?, task with
  | some (id, _), _ => id.key
  | none, .get key => key
  | none, _ => ""

/-- The end of a look-up. -/
def found (hub : Hub) (task : Task) (round : Round) (url : Option Url) : Hub × Stage :=
  match task.resolution? with
  | none => (hub, .done (.found url))
  | some (id, _) =>
    match round, url with
    | .first, some url => (hub.countResolution .hit, .done (.url (.ok (id.locate url))))
    | .first, none => (hub, .missed)
    | .second, some url =>
      (hub.countResolution .refreshed, .done (.url (.ok (id.locate url))))
    | .second, none =>
      (hub.countResolution .notFound, .done (.url (.error (.notFound id.key))))

/-- The reading phase of a look-up. -/
def peek (hub : Hub) (task : Task) (round : Round) (stamp : Time.Instant) : Hub × Stage :=
  match hub.shelf.peek (lookupKey task) stamp with
  | (.fresh url, shelf) => { hub with shelf }.found task round (some url)
  | (.absent, shelf) => { hub with shelf }.found task round none
  | (.expired, shelf) => ({ hub with shelf }, .settling round stamp)

/-- The writing phase of a look-up. -/
def settle (hub : Hub) (task : Task) (round : Round) (stamp : Time.Instant) : Hub × Stage :=
  let (url, shelf) := hub.shelf.settle (lookupKey task) stamp
  { hub with shelf }.found task round url

/-- A fetch gets the next ticket. -/
def startFetch (hub : Hub) (gated : Bool) : Hub × Stage :=
  ({ hub with fetches := hub.fetches + 1 }, .fetching gated hub.fetches)

/-- After a miss the generation is read, or without single flight the listing is fetched. -/
def observe (hub : Hub) : Hub × Stage :=
  if hub.singleFlight then (hub, .joining (some hub.generation)) else hub.startFetch false

def join (hub : Hub) (me : Nat) (seen : Option Nat) : Hub × Stage :=
  ({ hub with queue := hub.queue ++ [me] }, .queued seen)

/-- What follows on a refresh for the task that waited for it. -/
def conclude (hub : Hub) (now : Time.Instant) (task : Task) (outcome : Except Failure Nat) :
    Hub × Stage :=
  match task.resolution?, outcome with
  | none, _ => (hub, .done (.refreshed outcome))
  | some _, .ok _ => (hub, .peeking .second now)
  | some _, .error f => (hub.countResolution .error, .done (.url (.error f)))

/-- What follows on a refresh of another call. -/
def share (hub : Hub) (now : Time.Instant) (task : Task) : Hub × Stage :=
  match hub.lastFailure with
  | none => hub.conclude now task (.ok 0)
  | some f => hub.conclude now task (.error f)

/-- Entering the gate: only a call that has seen the latest generation fetches. -/
def enter (hub : Hub) (me : Nat) (now : Time.Instant) (task : Task) (seen : Option Nat) :
    Hub × Stage :=
  let hub := { hub with queue := hub.queue.tail }
  if seen.all (· == hub.generation) then { hub with holder := some me }.startFetch true
  else hub.share now task

/-- The end of a fetch: a listing is to be stored, a failure to be published. The attempts of the
fetch are counted here all at once and not one by one as they end, so that a fetch that is given up
counts none of those that it has made. -/
def arrive (hub : Hub) (now : Time.Instant) (gated : Bool) (report : Report) : Hub × Stage :=
  let tally := hub.shelf.tally.countFetch report.failedAttempts report.successfulAttempts
    report.dropped
  let hub := { hub with shelf := { hub.shelf with tally } }
  match report.outcome with
  | .ok entries => (hub, .storing gated entries now)
  | .error f => (hub, .publishing gated (.error f))

def store (hub : Hub) (gated : Bool) (entries : List Listing.Entry) (stamp : Time.Instant) :
    Hub × Stage :=
  ({ hub with shelf := hub.shelf.putAll entries stamp },
    .publishing gated (.ok entries.length))

/-- The failure of an outcome. -/
def failure? : Except Failure Nat → Option Failure
  | .ok _ => none
  | .error f => some f

/-- Publishing an outcome opens the gate. -/
def publish (hub : Hub) (outcome : Except Failure Nat) : Hub :=
  { hub with
    generation := hub.generation + 1
    lastFailure := failure? outcome
    holder := none }

/-- The single locked section of a task that writes once. -/
def write (hub : Hub) (task : Task) (stamp : Time.Instant) : Hub × Stage :=
  match task with
  | .put key url => ({ hub with shelf := hub.shelf.put key url stamp }, .done .stored)
  | _ =>
    let (count, shelf) := hub.shelf.sweep stamp
    ({ hub with shelf }, .done (.cleaned count))

/-- One step of a call by itself, `none` where it waits or has ended. -/
def advance (hub : Hub) (me : Nat) (now : Time.Instant) (task : Task) :
    Stage → Option (Hub × Stage)
  | .ready => some (hub.start now task)
  | .peeking round stamp => some (hub.peek task round stamp)
  | .settling round stamp => some (hub.settle task round stamp)
  | .missed => some hub.observe
  | .joining seen => some (hub.join me seen)
  | .queued seen => if hub.admits me then some (hub.enter me now task seen) else none
  | .fetching _ _ => none
  | .storing gated entries stamp => some (hub.store gated entries stamp)
  | .publishing gated outcome =>
    some ((if gated then hub.publish outcome else hub).conclude now task outcome)
  | .writing stamp => some (hub.write task stamp)
  | .done _ => none
  | .dropped => none

/-- Giving a call up takes it out of the queue and, if it held the gate, opens the gate. -/
def abandon (hub : Hub) (me : Nat) (stage : Stage) : Hub :=
  { hub with
    queue := hub.queue.filter (· != me)
    holder := if stage.holdsGate then none else hub.holder }

end Signpost.Directory.Hub
