import Signpost.Api.Response
import Signpost.Compose
import Signpost.Http.Wire
import Signpost.Metrics.Exposition
import Signpost.Text.Form

/-!
# Routing requests

Three pages are served: the health of the program, its counters, and the resolution of an
identifier that the query gives. Paths are compared as they are written, and a page is answered to
`GET` and, without its body, to `HEAD`.
-/

namespace Signpost.Api

structure Request where
  method : String
  target : String
  deriving DecidableEq, Repr

inductive Page where
  | health
  | metrics
  | resolve
  deriving DecidableEq, Repr

def Page.ofPath? (path : List Char) : Option Page :=
  if path = "/health".toList then some .health
  else if path = "/metrics".toList then some .metrics
  else if path = "/resolve".toList then some .resolve
  else none

/-- A target without its scheme and its authority, if it names them. -/
def withoutAuthority (target : List Char) : List Char :=
  match target.dropWhile Url.isSchemeChar with
  | ':' :: '/' :: '/' :: rest =>
    match rest.dropWhile fun c => c != '/' && c != '?' && c != '#' with
    | '/' :: rest => '/' :: rest
    | rest => '/' :: rest
  | _ => target

/-- The path and the query of a target. -/
def cutTarget (target : List Char) : List Char × Option (List Char) :=
  Text.cut (· == '?') (Text.cut (· == '#') (withoutAuthority target)).1

/-- The value of the one field `urn`. -/
def urnOfQuery (query : List Char) : Except Response String :=
  match (Form.parse query).filter (·.1 == "urn".toList) with
  | [] => .error (badQuery "missing field \x60urn\x60")
  | [(_, value)] => .ok (String.ofList value)
  | _ => .error (badQuery "duplicate field \x60urn\x60")

/-- What is to be done for a request. -/
inductive Route where
  | answer (response : Response)
  | health
  | metrics
  | resolve (id : Identifier)
  deriving DecidableEq, Repr

def resolveRoute (query : List Char) : Route :=
  match urnOfQuery query with
  | .error response => .answer response
  | .ok urn =>
    match Identifier.parse (Text.trimBlank urn) with
    | .error f => .answer (failed f)
    | .ok id => .resolve id

def Request.isHead (r : Request) : Bool :=
  r.method == "HEAD"

def Request.route (r : Request) : Route :=
  let (path, query) := cutTarget r.target.toList
  match Page.ofPath? path with
  | none => .answer unknownPage
  | some page =>
    if r.method == "GET" || r.isHead then
      match page with
      | .health => .health
      | .metrics => .metrics
      | .resolve => resolveRoute (query.getD [])
    else .answer notAllowed

/-! ### The pages -/

def version : String := "0.1.0"

def healthPage (cached : Nat) : Response :=
  .json 200 (Health.toJson ⟨"ok", version, UInt64.ofNat cached⟩)

def metricsPage (tally : Tally) : Response :=
  ⟨⟨200⟩, some "text/plain; version=0.0.4", none, Metrics.page tally⟩

def resolvedPage (id : Identifier) : Except Failure Url → Response
  | .ok url => .json 200 (Resolved.toJson ⟨id.canonical, id.kind, url.toString⟩)
  | .error f => failed f

/-- The answer as the method of its request wants it. -/
def Request.finish (r : Request) (response : Response) : Response :=
  if r.isHead then response.withoutBody else response

/-! ### Serving -/

/-- What the pages ask of the program behind them. -/
structure Backend (m : Type → Type) where
  cached : m Nat
  tally : m Tally
  resolve : Identifier → m (Except Failure Url)

def Request.serve {m : Type → Type} [Monad m] (backend : Backend m) (r : Request) :
    m Response :=
  match r.route with
  | .answer response => pure (r.finish response)
  | .health => return r.finish (healthPage (← backend.cached))
  | .metrics => return r.finish (metricsPage (← backend.tally))
  | .resolve id => return r.finish (resolvedPage id (← backend.resolve id))

/-! ### On the wire -/

def Response.render (r : Response) : List UInt8 :=
  Http.Wire.render
    (("HTTP/1.1 " ++ r.status.text).toList ::
      (Http.Wire.header? "content-type" r.contentType ++ Http.Wire.header? "allow" r.allow ++
        [Http.Wire.contentLength r.body, Http.Wire.header "connection" "close".toList]))
    r.body

/-- The request of a connection, once its head is complete. -/
def Request.ofBytes? (bytes : List UInt8) : Option Request :=
  (Http.Wire.readTarget? bytes).map fun (method, target) => ⟨method, target⟩

end Signpost.Api
