import Signpost.Text.Blank
import Signpost.Url.Edit

/-!
# Resource URLs

A resource is a path under an API, with an optional query and fragment of its own. Composing puts
exactly one slash between the two paths, adds the query behind the query of the API and lets the
fragment replace the fragment of the API.
-/

namespace Signpost

/-- A resource cut at its first `#` and, before that, at its first `?`. -/
structure ResourceParts where
  path : List Char
  query : Option (List Char)
  fragment : Option (List Char)
  deriving DecidableEq, Repr

def ResourceParts.ofText (cs : List Char) : ResourceParts :=
  let (rest, fragment) := Text.cut (· == '#') cs
  let (path, query) := Text.cut (· == '?') rest
  ⟨path, query, fragment⟩

/-- The two paths with one slash between them. -/
def joinPaths (base suffix : List Char) : List Char :=
  Text.trimEnd (· == '/') base ++ '/' :: Text.trimStart (· == '/') suffix

/-- The query of the API, if it is not empty, with another one behind it. -/
def mergeQueries (base : Option (List Char)) (query : List Char) : List Char :=
  match base with
  | some (c :: cs) => c :: cs ++ '&' :: query
  | _ => query

def Url.compose (api : Url) (resource : String) : Url :=
  let parts := ResourceParts.ofText resource.toList
  let u := api.withPath (joinPaths api.path parts.path)
  let u := match parts.query with
    | some query => u.withQuery (mergeQueries api.query query)
    | none => u
  match parts.fragment with
  | some fragment => u.withFragment fragment
  | none => u

end Signpost
