import Signpost.Directory.World

/-!
# Calls in virtual time

A timeline runs the calls of a world one after the other, each until it waits, against a source that
tells what every fetch will end with and after how long. Time passes only when every call waits, and
then at once to the end of the next fetch.
-/

namespace Signpost.Directory

open Listing (Report)

/-- What a fetch will end with, and after how many milliseconds. -/
structure Plan where
  report : Report
  wait : Nat

/-- Plans the next fetch. -/
abbrev Source (σ : Type) := σ → Plan × σ

/-- A fetch under way. -/
structure Pending where
  ticket : Nat
  due : Nat
  report : Report

/-- `clock` counts the milliseconds that have passed, `now` is what the cache takes for the
present. -/
structure Timeline (σ : Type) where
  world : World
  clock : Nat
  now : Time.Instant
  source : σ
  pending : List Pending

namespace Timeline

variable {σ : Type}

def initial (world : World) (now : Time.Instant) (source : σ) : Timeline σ :=
  ⟨world, 0, now, source, []⟩

/-- A new call and its number. -/
def begin (t : Timeline σ) (task : Task) : Nat × Timeline σ :=
  (t.world.calls.length, { t with world := t.world.begin task })

/-- The end of a fetch under way, if its time has come. -/
def deliver? (t : Timeline σ) (i : Nat) (p : Pending) : Option (Timeline σ) :=
  if p.due ≤ t.clock then
    (t.world.arrive? i t.now p.report).map fun world =>
      { t with world, pending := t.pending.filter (·.ticket != p.ticket) }
  else none

/-- One step of a call, `none` where it waits. A fetch is planned when it starts. -/
def stepCall? (source : Source σ) (t : Timeline σ) (i : Nat) : Option (Timeline σ) := do
  match (← t.world.calls[i]?).stage with
  | .fetching _ ticket =>
    match t.pending.find? (·.ticket == ticket) with
    | some p => t.deliver? i p
    | none =>
      let (plan, next) := source t.source
      let pending := t.pending ++ [⟨ticket, t.clock + plan.wait, plan.report⟩]
      some { t with source := next, pending }
  | _ => (t.world.advance? i t.now).map fun world => { t with world }

/-- Up to a number of steps of one call. -/
def runSteps (source : Source σ) (i : Nat) : Nat → Timeline σ → Timeline σ
  | 0, t => t
  | steps + 1, t =>
    match t.stepCall? source i with
    | none => t
    | some t => runSteps source i steps t

/-- Runs a call until it waits: every step lowers its rank, and planning a fetch is one more. -/
def runCall (source : Source σ) (t : Timeline σ) (i : Nat) : Timeline σ :=
  let rank := (t.world.calls[i]?.map (·.stage.rank)).getD 0
  t.runSteps source i (rank + 1)

/-- Runs calls in order, each until it waits. -/
def runCalls (source : Source σ) (t : Timeline σ) (is : List Nat) : Timeline σ :=
  is.foldl (runCall source) t

/-- When the next fetch ends. -/
def nextDue? (t : Timeline σ) : Option Nat :=
  (t.pending.map Pending.due).min?

/-- A call that only writes the cache, run to its end. -/
def perform (source : Source σ) (t : Timeline σ) (task : Task) : Option Answer × Timeline σ :=
  let (i, t) := t.begin task
  let t := t.runCall source i
  (t.world.answer? i, t)

end Signpost.Directory.Timeline
