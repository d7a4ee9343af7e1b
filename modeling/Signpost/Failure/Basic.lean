import Signpost.Http.Status
import Signpost.Identifier.Basic

/-!
# Failures

What a caller of the directory is told when an operation does not succeed. Only a fetch that
failed may succeed when it is tried again later.
-/

namespace Signpost

/-- Why one attempt to fetch the listing failed. -/
inductive FetchFault where
  | token (text : String)
  | transport (text : String)
  | status (code : Http.Status)
  | decode (text : String)
  deriving DecidableEq, Repr

def FetchFault.message : FetchFault → String
  | .token text => "access token unavailable: " ++ text
  | .transport text => "request failed: " ++ text
  | .status code => "directory returned status " ++ code.text
  | .decode text => "invalid directory response: " ++ text

inductive Failure where
  | malformed (input reason : String)
  | wrongKind (identifier : String) (expected : List Identifier.Kind) (actual : Identifier.Kind)
  | fetch (attempts : Nat) (source : FetchFault)
  | notFound (key : String)
  | config (text : String)
  | internal (text : String)
  deriving DecidableEq, Repr

namespace Failure

def message : Failure → String
  | .malformed input reason => "Malformed identifier '" ++ input ++ "': " ++ reason
  | .wrongKind identifier expected actual =>
    "Identifier " ++ identifier ++ " is a " ++ actual.name ++ " identifier, expected one of: " ++
      ", ".intercalate (expected.map Identifier.Kind.name)
  | .fetch attempts source =>
    "Directory fetch failed after " ++ toString attempts ++ " attempt(s): " ++ source.message
  | .notFound key => "Directory entry not found for " ++ key
  | .config text => "Configuration error: " ++ text
  | .internal text => "Internal error: " ++ text

/-- Whether the same call may succeed later. -/
def isTransient : Failure → Bool
  | .fetch _ _ => true
  | _ => false

def ofFault (input : String) (fault : Identifier.Fault) : Failure :=
  .malformed input fault.message

end Signpost.Failure
