import Signpost.Directory.Timeline

/-!
# Background jobs

Two jobs run beside the calls: one refreshes the directory once, the other removes expired entries
in a fixed rhythm. A job begins the first time that the calls in front of it wait.
-/

namespace Signpost.Sidecar

open Directory

/-- A pair of jobs; `warmup` is the call of a refresh that has not ended. -/
inductive Job where
  | waiting (period : Nat)
  | running (period : Nat) (warmup : Option Nat) (nextTick : Option Nat)
  deriving DecidableEq, Repr

variable {σ : Type}

/-- The counters of a timeline changed. -/
def count (t : Timeline σ) (f : Tally → Tally) : Timeline σ :=
  { t with world := t.world.count f }

/-- Whether a refresh ended well. -/
def succeeded : Option Answer → Bool
  | some (.refreshed (.ok _)) => true
  | _ => false

/-- Counts a refresh for the warm-up that it was. -/
def countWarmup (t : Timeline σ) (answer : Option Answer) : Timeline σ :=
  count t (·.countWarmup (succeeded answer))

/-- Removes expired entries and counts the removal. -/
def cleanup (source : Source σ) (t : Timeline σ) : Option Answer × Timeline σ :=
  let (answer, t) := t.perform source .cleanup
  (answer, count t Tally.countCleanup)

/-- The ticks of a rhythm up to a time, and the first one after it. -/
def ticksUpTo (period next time : Nat) : Nat × Nat :=
  if time < next || period = 0 then (0, next)
  else
    let count := (time - next) / period + 1
    (count, next + count * period)

/-- Carries out a number of ticks; nothing expires between them. -/
def tick (source : Source σ) (t : Timeline σ) (ticks : Nat) : Timeline σ :=
  if ticks = 0 then t
  else count (t.perform source .cleanup).2 fun tally =>
    { tally with cleanups := tally.cleanups + ticks }

namespace Job

/-- The ticks that are due up to a time. -/
def runTicks (source : Source σ) (job : Job) (time : Nat) (t : Timeline σ) :
    Job × Timeline σ :=
  match job with
  | .running period warmup (some next) =>
    let (count, next) := ticksUpTo period next time
    (.running period warmup (some next), tick source t count)
  | _ => (job, t)

/-- Runs the refresh of a job until it waits. -/
def runWarmup (source : Source σ) (period : Nat) (i : Nat) (nextTick : Option Nat)
    (t : Timeline σ) : Job × Timeline σ :=
  let t := t.runCall source i
  if t.world.isFinished i then
    (.running period none nextTick, countWarmup t (t.world.answer? i))
  else (.running period (some i) nextTick, t)

/-- Lets a pair of jobs run until both wait. -/
def poll (source : Source σ) (job : Job) (t : Timeline σ) : Job × Timeline σ :=
  match job with
  | .waiting period =>
    let nextTick := if period = 0 then none else some (t.clock + period)
    let (i, t) := t.begin .refresh
    runWarmup source period i nextTick t
  | .running period (some i) nextTick =>
    let (job, t) := runWarmup source period i nextTick t
    job.runTicks source t.clock t
  | .running _ none _ => job.runTicks source t.clock t

end Job

def pollJobs (source : Source σ) : List Job → Timeline σ → List Job × Timeline σ
  | [], t => ([], t)
  | job :: jobs, t =>
    let (job, t) := job.poll source t
    let (jobs, t) := pollJobs source jobs t
    (job :: jobs, t)

def tickJobs (source : Source σ) (time : Nat) : List Job → Timeline σ → List Job × Timeline σ
  | [], t => ([], t)
  | job :: jobs, t =>
    let (job, t) := job.runTicks source time t
    let (jobs, t) := tickJobs source time jobs t
    (job :: jobs, t)

end Signpost.Sidecar
