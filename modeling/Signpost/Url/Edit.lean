import Signpost.Url.Parser

/-!
# Replacing parts of a URL

A new path, query or fragment is read the way it would be read in a whole URL, except that it ends
only where its text ends: a delimiter of the parts behind it is escaped. The new path of a file URL
is read with its drive letters, whether the URL names a host or not.
-/

namespace Signpost.Url

/-- A path without structure does not gain one: a slash at its front is escaped. -/
def unrootedPath (cs : List Char) : List Char :=
  match cs with
  | '/' :: rest => "%2F".toList ++ Percent.encode Escape.control (withoutSkipped rest)
  | _ => Percent.encode Escape.control (withoutSkipped cs)

def withPath (u : Url) (cs : List Char) : Url :=
  match u.hierarchy with
  | .authority a _ => { u with hierarchy := .authority a (readPath u.family.pathRules cs) }
  | .rooted guarded _ => { u with hierarchy := .rooted guarded (readPath u.family.pathRules cs) }
  | .unrooted _ => { u with hierarchy := .unrooted (unrootedPath cs) }

def withQuery (u : Url) (cs : List Char) : Url :=
  { u with query := some (readPart (queryEscape u.family) cs) }

def withFragment (u : Url) (cs : List Char) : Url :=
  { u with fragment := some (readPart Escape.fragment cs) }

end Signpost.Url
