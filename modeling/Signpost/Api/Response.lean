import Signpost.Api.Messages

/-!
# Answers over HTTP

A failure is answered with its own status and, unless it is internal, with its message.
-/

namespace Signpost.Api

structure Response where
  status : Http.Status
  contentType : Option String
  allow : Option String
  body : String
  deriving DecidableEq, Repr

def jsonType : String := "application/json"

def Response.json (code : Nat) (value : Json.Value) : Response :=
  ⟨⟨code⟩, some jsonType, none, value.toString⟩

/-- The answer without its body. -/
def Response.withoutBody (r : Response) : Response :=
  { r with body := "" }

/-- The status of a failure, and the name and the message that are told. -/
def ofFailure : Failure → Nat × ErrorBody
  | f@(.malformed _ _) => (400, ⟨"MalformedIdentifier", f.message⟩)
  | f@(.wrongKind _ _ _) => (400, ⟨"InvalidIdentifierKind", f.message⟩)
  | f@(.notFound _) => (404, ⟨"EntryNotFound", f.message⟩)
  | f@(.fetch _ _) => (502, ⟨"DirectoryUnavailable", f.message⟩)
  | .config _ => (500, ⟨"InternalServerError", "Internal server error"⟩)
  | .internal _ => (500, ⟨"InternalServerError", "Internal server error"⟩)

def failed (f : Failure) : Response :=
  let (code, body) := ofFailure f
  .json code body.toJson

/-- No page has this path. -/
def unknownPage : Response :=
  .json 404 (ErrorBody.toJson ⟨"NotFound", "Endpoint not found"⟩)

/-- The page is only read, never written. -/
def notAllowed : Response :=
  ⟨⟨405⟩, none, some "GET,HEAD", ""⟩

def badQuery (reason : String) : Response :=
  ⟨⟨400⟩, some "text/plain; charset=utf-8", none,
    "Failed to deserialize query string: " ++ reason⟩

end Signpost.Api
