import Signpost.Api.Router
import Signpost.Sidecar.Jobs

/-!
# A session of the program

A session carries out commands one after the other. The calls of a command run in front of the
background jobs, and the command ends as soon as its calls have ended; time passes only while they
wait.
-/

namespace Signpost.Sidecar

open Directory

structure Session (σ : Type) where
  timeline : Timeline σ
  jobs : List Job

namespace Session

variable {σ : Type}

def initial (ttl : Time.Span) (singleFlight : Bool) (now : Time.Instant) (source : σ) :
    Session σ :=
  ⟨.initial (.initial (.empty ttl) singleFlight) now source, []⟩

def hub (s : Session σ) : Hub :=
  s.timeline.world.hub

def cache (s : Session σ) : Cache :=
  s.hub.shelf.cache

def tally (s : Session σ) : Tally :=
  s.hub.shelf.tally

/-! ### Waiting -/

def allFinished (s : Session σ) (is : List Nat) : Bool :=
  is.all s.timeline.world.isFinished

/-- Lets the background run until it waits. -/
def pollBackground (source : Source σ) : Nat → Session σ → Session σ
  | 0, s => s
  | passes + 1, s =>
    let (jobs, timeline) := pollJobs source s.jobs s.timeline
    pollBackground source passes ⟨timeline, jobs⟩

/-- Passes over the calls in order, each followed by the background, until the calls have ended. A
pass in which nobody enters the gate changes nothing, so there is one for each call and job. -/
def poll (source : Source σ) (is : List Nat) : Nat → Session σ → Session σ
  | 0, s => s
  | passes + 1, s =>
    let s := { s with timeline := s.timeline.runCalls source is }
    if s.allFinished is then s
    else poll source is passes (pollBackground source 1 s)

/-- Time passes to a moment; the ticks before it are carried out. -/
def advanceTo (source : Source σ) (time : Nat) (s : Session σ) : Session σ :=
  let (jobs, timeline) := tickJobs source (time - 1) s.jobs s.timeline
  ⟨{ timeline with clock := max time timeline.clock }, jobs⟩

/-- Runs calls to their ends, with time for a number of fetches. -/
def finish (source : Source σ) (is : List Nat) : Nat → Session σ → Session σ
  | 0, s => s
  | jumps + 1, s =>
    let s := s.poll source is (is.length + s.jobs.length + 1)
    if s.allFinished is then s
    else match s.timeline.nextDue? with
      | none => s
      | some due => finish source is jumps (s.advanceTo source due)

/-- Runs calls to their ends: each call fetches at most once. -/
def finishAll (source : Source σ) (is : List Nat) (s : Session σ) : Session σ :=
  s.finish source is (s.timeline.world.calls.length + s.jobs.length + 1)

/-- Lets the background run up to a moment, with time for a number of fetches. -/
def sleepUntil (source : Source σ) (time : Nat) : Nat → Session σ → Session σ
  | 0, s => s
  | jumps + 1, s =>
    let s := s.pollBackground source (s.jobs.length + 1)
    match s.timeline.nextDue?.filter (· ≤ time) with
    | some due => sleepUntil source time jumps (s.advanceTo source due)
    | none => (s.advanceTo source time).pollBackground source (s.jobs.length + 1)

def sleep (source : Source σ) (millis : Nat) (s : Session σ) : Session σ :=
  s.sleepUntil source (s.timeline.clock + millis)
    (s.timeline.world.calls.length + s.jobs.length + 1)

/-! ### Calls -/

def beginAll (s : Session σ) : List Task → List Nat × Session σ
  | [] => ([], s)
  | task :: tasks =>
    let (i, timeline) := s.timeline.begin task
    let (is, s) := beginAll { s with timeline } tasks
    (i :: is, s)

/-- Calls that start together, and their answers. -/
def together (source : Source σ) (tasks : List Task) (s : Session σ) :
    List (Option Answer) × Session σ :=
  let (is, s) := s.beginAll tasks
  let s := s.finishAll source is
  (is.map s.timeline.world.answer?, s)

def call (source : Source σ) (task : Task) (s : Session σ) : Option Answer × Session σ :=
  let (answers, s) := s.together source [task]
  (answers.head?.join, s)

/-- The refresh of a warm-up, counted. -/
def warm (source : Source σ) (s : Session σ) : Option Answer × Session σ :=
  let (answer, s) := s.call source .refresh
  (answer, { s with timeline := countWarmup s.timeline answer })

def cleanupJob (source : Source σ) (s : Session σ) : Option Answer × Session σ :=
  let (answer, timeline) := cleanup source s.timeline
  (answer, { s with timeline })

/-- Stores an entry as of another instant than the present. -/
def putAt (source : Source σ) (key : String) (url : Url) (stamp : Time.Instant) (s : Session σ) :
    Session σ :=
  let now := s.timeline.now
  let (_, s) := { s with timeline := { s.timeline with now := stamp } }.call source
    (.put key url)
  { s with timeline := { s.timeline with now } }

/-- Removes the entry of a key and tells whether there was one. -/
def forget (s : Session σ) (key : String) : Bool × Session σ :=
  let (present, shelf) := s.hub.shelf.invalidate key
  let world := { s.timeline.world with hub := { s.hub with shelf } }
  (present, { s with timeline := { s.timeline with world } })

/-- Prepares the background jobs, which begin at the next wait. -/
def startJobs (period : Nat) (s : Session σ) : Session σ :=
  { s with jobs := s.jobs ++ [.waiting period] }

/-- The result of a resolution. -/
def resolve (source : Source σ) (id : Identifier) (s : Session σ) :
    Except Failure Url × Session σ :=
  match s.call source (.resolve id) with
  | (some (.url result), s) => (result, s)
  | (_, s) => (.error (.internal "the call has not ended"), s)

def backend (source : Source σ) : Api.Backend (StateM (Session σ)) where
  cached := return (← get).cache.size
  tally := return (← get).tally
  resolve id := fun s => s.resolve source id

/-- The answer to a request. -/
def serve (source : Source σ) (request : Api.Request) (s : Session σ) :
    Api.Response × Session σ :=
  (request.serve (backend source)).run s

end Signpost.Sidecar.Session
