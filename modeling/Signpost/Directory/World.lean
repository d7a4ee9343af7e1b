import Signpost.Directory.Hub

/-!
# All calls of a directory

A world is a hub and the calls made so far. It moves by events: a call begins, takes a step, learns
how its fetch ended, or is given up where it waits. Any list of events that the world accepts is a
run, so every interleaving of the calls is one.
-/

namespace Signpost.Directory

open Listing (Report)

structure World where
  hub : Hub
  calls : List Call

inductive Event where
  | begin (task : Task)
  | advance (i : Nat) (now : Time.Instant)
  | arrive (i : Nat) (now : Time.Instant) (report : Report)
  | drop (i : Nat)

namespace World

def initial (shelf : Shelf) (singleFlight : Bool) : World :=
  ⟨.initial shelf singleFlight, []⟩

/-- The stage of one call changed together with the hub. -/
def update (w : World) (i : Nat) (call : Call) (next : Hub × Stage) : World :=
  ⟨next.1, w.calls.set i { call with stage := next.2 }⟩

def begin (w : World) (task : Task) : World :=
  { w with calls := w.calls ++ [⟨task, .ready⟩] }

def advance? (w : World) (i : Nat) (now : Time.Instant) : Option World := do
  let call ← w.calls[i]?
  let next ← w.hub.advance i now call.task call.stage
  some (w.update i call next)

def arrive? (w : World) (i : Nat) (now : Time.Instant) (report : Report) : Option World := do
  let call ← w.calls[i]?
  match call.stage with
  | .fetching gated _ => some (w.update i call (w.hub.arrive now gated report))
  | _ => none

def drop? (w : World) (i : Nat) : Option World := do
  let call ← w.calls[i]?
  if call.stage.isSuspended then
    some (w.update i call (w.hub.abandon i call.stage, .dropped))
  else none

def step? (w : World) : Event → Option World
  | .begin task => some (w.begin task)
  | .advance i now => w.advance? i now
  | .arrive i now report => w.arrive? i now report
  | .drop i => w.drop? i

/-- The world after events in order, if each can happen. -/
def run? (w : World) : List Event → Option World
  | [] => some w
  | e :: events => (w.step? e).bind fun w => w.run? events

/-- The counters changed, whatever else they count for. -/
def count (w : World) (f : Tally → Tally) : World :=
  { w with hub := { w.hub with shelf := { w.hub.shelf with tally := f w.hub.shelf.tally } } }

/-- The answer of a call that has ended. -/
def answer? (w : World) (i : Nat) : Option Answer := do
  match (← w.calls[i]?).stage with
  | .done answer => some answer
  | _ => none

def isFinished (w : World) (i : Nat) : Bool :=
  w.calls[i]?.all (·.stage.isFinished)

end Signpost.Directory.World
