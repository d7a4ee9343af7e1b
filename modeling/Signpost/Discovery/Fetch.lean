import Signpost.Http.Exchange
import Signpost.Listing
import Signpost.Retry.Run
import Signpost.Text.Blank
import Signpost.Token.Basic

/-!
# Fetching the listing

The listing is served under a fixed path below the base URL of the directory. An attempt obtains a
token, requests the listing with it and reads the answer. A fetch makes attempts as its policy says
and counts how each ended.
-/

namespace Signpost.Discovery

open Listing (Record Report)

def path : List Char := "/api/discovery/v1".toList

/-- The endpoint below a base URL, whose slashes at the end are left out. -/
def endpoint (base : String) : String :=
  String.ofList (Text.trimEnd (· == '/') base.toList ++ path)

def userAgent : String := "service-directory/0.1.0"

def request (url token : String) : Http.Request :=
  { method := .get
    url
    authorization := some ("Bearer " ++ token)
    userAgent := some userAgent }

/-- The records of an answered request. -/
def readListing : Http.Exchange → Except FetchFault (List Record)
  | .failed text => .error (.transport text)
  | .answered status body =>
    if status.isSuccess then
      match (body.bind Json.parseBytes).bind Listing.recordsOfJson? with
      | some records => .ok records
      | none => .error (.decode "error decoding response body")
    else .error (.status status)

/-- What obtaining a token and sending a request mean where a fetch runs. -/
structure Surroundings (m : Type → Type) extends Retry.Surroundings m where
  token : m (Except Token.Fault String)
  send : Http.Request → m Http.Exchange

/-- The attempts made so far by how they ended. -/
structure Attempts where
  failed : Nat := 0
  successful : Nat := 0
  deriving DecidableEq, Repr

def Attempts.count (a : Attempts) {α : Type} : Except FetchFault α → Attempts
  | .ok _ => { a with successful := a.successful + 1 }
  | .error _ => { a with failed := a.failed + 1 }

variable {m : Type → Type} [Monad m]

/-- One attempt; without a token nothing is sent. -/
def attempt (s : Surroundings m) (url : String) : m (Except FetchFault (List Record)) := do
  match ← s.token with
  | .error fault => pure (.error (.token fault.message))
  | .ok token => return readListing (← s.send (request url token))

/-- An attempt that is counted. -/
def countedAttempt (s : Surroundings m) (url : String) :
    StateT Attempts m (Except FetchFault (List Record)) := do
  let outcome ← StateT.lift (attempt s url)
  modify (·.count outcome)
  pure outcome

/-- Waiting and drawing beside a count of attempts. -/
def Surroundings.counted (s : Surroundings m) : Retry.Surroundings (StateT Attempts m) where
  pause delay := StateT.lift (s.pause delay)
  draw := StateT.lift s.draw

def report (outcome : Except (Retry.Exhausted FetchFault) (List Record)) (attempts : Attempts) :
    Report :=
  match outcome with
  | .ok records =>
    ⟨.ok (Listing.entries records), attempts.failed, attempts.successful,
      Listing.dropped records⟩
  | .error e => ⟨.error (.fetch e.attempts e.last), attempts.failed, attempts.successful, 0⟩

/-- The entries of the listing at a URL. -/
def fetchAll (s : Surroundings m) (policy : Retry.Policy) (url : String) : m Report := do
  let (outcome, attempts) ← (policy.run s.counted fun _ => countedAttempt s url).run {}
  pure (report outcome attempts)

end Signpost.Discovery
