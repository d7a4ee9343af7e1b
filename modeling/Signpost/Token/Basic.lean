import Signpost.Http.Exchange
import Signpost.Json.Reader
import Signpost.Json.Shape
import Signpost.Text.Form

/-!
# Tokens

A client asks for a token with its name and its secret and is granted one for a number of seconds.
Whatever goes wrong on the way has one fault each, and no lifetime leads past the last instant.
-/

namespace Signpost

structure Token where
  text : String
  expiresAt : Time.Instant
  deriving DecidableEq, Repr

namespace Token

/-- A token is renewed sixty seconds before it expires. -/
def marginNs : Int := 60 * 1000000000

/-- Whether a token lasts for longer than the margin. -/
def isValid (t : Token) (now : Time.Instant) : Bool :=
  now.ns + marginNs < t.expiresAt.ns

/-! ### Asking for a token -/

/-- Who asks for tokens, and where. -/
structure Client where
  url : String
  id : String
  secret : String
  deriving DecidableEq, Repr

def Client.request (c : Client) : Http.Request :=
  { method := .post
    url := c.url
    contentType := some "application/x-www-form-urlencoded"
    body := Form.render
      [ ("grant_type", "client_credentials"), ("client_id", c.id),
        ("client_secret", c.secret) ] }

/-! ### Being granted one -/

/-- Why a request ended without a token. -/
inductive Fault where
  | unanswered (text : String)
  | status (code : Http.Status)
  | unreadable
  | lifetime (seconds : Int)
  deriving DecidableEq, Repr

def Fault.message : Fault → String
  | .unanswered text => "token request failed: " ++ text
  | .status code => "token endpoint returned error: " ++ code.text
  | .unreadable => "invalid token response: error decoding response body"
  | .lifetime seconds => "invalid expires_in: " ++ toString seconds

structure Grant where
  text : String
  seconds : Int
  deriving DecidableEq, Repr

def Grant.ofJson? (value : Json.Value) : Option Grant := do
  match ← value.fields? ["access_token", "expires_in"] with
  | [text, seconds] => some ⟨← text.text?, ← seconds.integer64?⟩
  | _ => none

/-- The token of a grant, if its end is an instant. -/
def Grant.token? (g : Grant) (now : Time.Instant) : Option Token := do
  let lifetime ← Time.Span.ofSeconds? g.seconds
  let expiresAt ← now.add? lifetime
  some ⟨g.text, expiresAt⟩

/-- The token that an answered request brings. -/
def ofExchange (now : Time.Instant) : Http.Exchange → Except Fault Token
  | .failed text => .error (.unanswered text)
  | .answered status body =>
    if status.isSuccess then
      match (body.bind Json.parseBytes).bind Grant.ofJson? with
      | none => .error .unreadable
      | some grant =>
        match grant.token? now with
        | none => .error (.lifetime grant.seconds)
        | some token => .ok token
    else .error (.status status)

end Signpost.Token
