import Signpost.Failure.Basic
import Signpost.Text.Quoted

/-!
# Failures in reports

The full shape of a failure with its texts quoted, as it is reported when the program ends.
-/

namespace Signpost

def Identifier.Kind.title : Identifier.Kind → String
  | .service => "Service"
  | .api => "Api"
  | .resource => "Resource"

def FetchFault.report : FetchFault → String
  | .token text => "Token(" ++ Text.quote text ++ ")"
  | .transport text => "Transport(" ++ Text.quote text ++ ")"
  | .status code => "Status(" ++ toString code.code ++ ")"
  | .decode text => "Decode(" ++ Text.quote text ++ ")"

/-- A name and its fields between braces. -/
def reportFields (name : String) (fields : List (String × String)) : String :=
  name ++ " \x7B " ++ ", ".intercalate (fields.map fun (key, value) => key ++ ": " ++ value) ++
    " \x7D"

def Failure.report : Failure → String
  | .malformed input reason =>
    reportFields "MalformedIdentifier"
      [("input", Text.quote input), ("reason", Text.quote reason)]
  | .wrongKind identifier expected actual =>
    reportFields "InvalidIdentifierKind"
      [ ("identifier", Text.quote identifier),
        ("expected", "[" ++ ", ".intercalate (expected.map Identifier.Kind.title) ++ "]"),
        ("actual", actual.title) ]
  | .fetch attempts source =>
    reportFields "Fetch" [("attempts", toString attempts), ("source", source.report)]
  | .notFound key => "EntryNotFound(" ++ Text.quote key ++ ")"
  | .config text => "Config(" ++ Text.quote text ++ ")"
  | .internal text => "Internal(" ++ Text.quote text ++ ")"

end Signpost
