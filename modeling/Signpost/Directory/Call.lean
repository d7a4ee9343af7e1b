import Signpost.Cache.Basic
import Signpost.Compose
import Signpost.Listing

/-!
# Calls of the directory

A call is a task and the stage that it has reached. Between two stages other calls may run, and the
stages at which a call waits for something are those at which it may be given up.
-/

namespace Signpost

namespace Identifier

/-- The identifier whose entry gives the URL: of a resource, the API above it. -/
def listed (id : Identifier) : Identifier :=
  match id.locator with
  | .resource api _ => { id with locator := .api api }
  | _ => id

/-- The key under which the directory stores the URL of an identifier. -/
def key (id : Identifier) : String :=
  id.listed.canonical

/-- The URL of an identifier from the URL that is stored under its key. -/
def locate (id : Identifier) (url : Url) : Url :=
  match id.resource? with
  | some resource => url.compose resource.text
  | none => url

end Identifier

namespace Directory

inductive Task where
  | resolve (id : Identifier)
  | resolveService (id : Identifier)
  | resolveResource (id : Identifier)
  | refresh
  | invalidate (id : Identifier)
  | cleanup
  | get (key : String)
  | put (key : String) (url : Url)
  | clear
  deriving DecidableEq, Repr

inductive Answer where
  | url (result : Except Failure Url)
  | refreshed (result : Except Failure Nat)
  | invalidated (present : Bool)
  | cleaned (count : Nat)
  | found (url : Option Url)
  | stored

/-- The identifier that a task resolves, and the kinds that it may have. -/
def Task.resolution? : Task → Option (Identifier × List Identifier.Kind)
  | .resolve id => some (id, Identifier.Kind.all)
  | .resolveService id => some (id, [.service, .api])
  | .resolveResource id => some (id, [.resource])
  | _ => none

/-- A resolution looks its key up before and after a refresh. -/
inductive Round where
  | first
  | second
  deriving DecidableEq, Repr

/-- Where a call stands. The clock is read before a lock is waited for, and kept as a stamp. A
`gated` fetch holds the gate until its outcome is published; `seen` is the generation that was
read before joining the queue of the gate. -/
inductive Stage where
  | ready
  | peeking (round : Round) (stamp : Time.Instant)
  | settling (round : Round) (stamp : Time.Instant)
  | missed
  | joining (seen : Option Nat)
  | queued (seen : Option Nat)
  | fetching (gated : Bool) (ticket : Nat)
  | storing (gated : Bool) (entries : List Listing.Entry) (stamp : Time.Instant)
  | publishing (gated : Bool) (outcome : Except Failure Nat)
  | writing (stamp : Time.Instant)
  | done (answer : Answer)
  | dropped

namespace Stage

/-- How far a stage is from the end; every step of a call lowers it. -/
def rank : Stage → Nat
  | .ready => 12
  | .peeking .first _ => 11
  | .settling .first _ => 10
  | .missed => 9
  | .joining _ => 8
  | .queued _ => 7
  | .fetching _ _ => 6
  | .storing _ _ _ => 5
  | .publishing _ _ => 4
  | .peeking .second _ => 3
  | .settling .second _ => 2
  | .writing _ => 1
  | .done _ => 0
  | .dropped => 0

def isFinished : Stage → Bool
  | .done _ => true
  | .dropped => true
  | _ => false

/-- Whether a call at this stage has not run yet or waits for a lock or a fetch, so that it may be
given up. -/
def isSuspended : Stage → Bool
  | .ready => true
  | .peeking _ _ => true
  | .settling _ _ => true
  | .joining _ => true
  | .queued _ => true
  | .fetching _ _ => true
  | .storing _ _ _ => true
  | .writing _ => true
  | _ => false

/-- Whether a call at this stage holds the gate. -/
def holdsGate : Stage → Bool
  | .fetching gated _ => gated
  | .storing gated _ _ => gated
  | .publishing gated _ => gated
  | _ => false

end Stage

structure Call where
  task : Task
  stage : Stage

end Signpost.Directory
