import Signpost.Http.Status
import Signpost.Time.Instant
import Signpost.Url.Parser

/-!
# Requests and how they end

A request names its URL by a text. One that cannot be sent, because the text is no web address or a
header cannot hold its content, ends like one that nobody answers.
-/

namespace Signpost.Http

inductive Method where
  | get
  | post
  deriving DecidableEq, Repr

def Method.name : Method → String
  | .get => "GET"
  | .post => "POST"

structure Request where
  method : Method
  url : String
  authorization : Option String := none
  userAgent : Option String := none
  contentType : Option String := none
  body : String := ""
  deriving DecidableEq, Repr

/-- How a request ended. A body that breaks off cannot be read. -/
inductive Exchange where
  | failed (text : String)
  | answered (status : Status) (body : Option (List UInt8))
  deriving DecidableEq, Repr

/-- Whether a header may hold a character. -/
def isHeaderChar (c : Char) : Bool :=
  c == '\t' || (0x20 ≤ c.toNat && c.toNat != 0x7F)

/-- Whether a text is the URL of a web page. -/
def isWebAddress (url : String) : Bool :=
  match Url.parse url with
  | .ok u => u.scheme == "http".toList || u.scheme == "https".toList
  | .error _ => false

def Request.isSendable (r : Request) : Bool :=
  isWebAddress r.url && r.authorization.all (·.toList.all isHeaderChar)

/-- What the time is and how requests end, where a program runs. -/
structure Network (m : Type → Type) where
  now : m Time.Instant
  transmit : Request → m Exchange

def Network.send {m : Type → Type} [Monad m] (network : Network m) (r : Request) :
    m Exchange :=
  if r.isSendable then network.transmit r
  else pure (.failed "the request cannot be sent")

end Signpost.Http
