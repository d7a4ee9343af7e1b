import Signpost.Url.Host
import Signpost.Url.Path

/-!
# Reading a URL

A text is cut at its delimiters from the outside in: scheme, fragment, query, authority, path. Only
absolute URLs are read. Blanks and controls around the text and every tab and line break in it are
left out.
-/

namespace Signpost.Url

def isSchemeChar (c : Char) : Bool :=
  c.isAlphanum || c == '+' || c == '-' || c == '.'

/-- The scheme in lower case and what stands behind its colon. -/
def readScheme (cs : List Char) : Option (List Char × List Char) := do
  let (before, rest) := Text.cut (· == ':') cs
  let rest ← rest
  let scheme := withoutSkipped before
  if scheme.head?.any Char.isAlpha && scheme.all isSchemeChar then
    some (scheme.map Char.toLower, rest)
  else none

/-! ### Authorities -/

/-- The text before the last `@`, and the text behind it. -/
def cutUser (cs : List Char) : Option (List Char) × List Char :=
  match Text.cut (· == '@') cs.reverse with
  | (_, none) => (none, cs)
  | (after, some before) => (some before.reverse, after.reverse)

/-- A host and what stands behind the first colon outside brackets. -/
def cutPort : Bool → List Char → List Char × Option (List Char)
  | _, [] => ([], none)
  | inside, c :: cs =>
    if c == ':' && !inside then ([], some cs)
    else
      let inside := if c == '[' then true else if c == ']' then false else inside
      let (host, port) := cutPort inside cs
      (c :: host, port)

/-- A port with what is left behind its digits; the port of the scheme is left out. -/
def readPort (family : Family) (cs : List Char) :
    Except Fault (Option UInt16 × List Char) :=
  let digits := cs.takeWhile Char.isDigit
  let rest := cs.dropWhile Char.isDigit
  let n := Nat.ofDigitChars 10 digits 0
  if 65535 < n || rest.head?.any (· != '\\') then .error .invalidPort
  else if digits.isEmpty || family == .web n then .ok (none, rest)
  else .ok (some (UInt16.ofNat n), rest)

/-- The host and the port of an authority, and what is left for the path. -/
def readHostPort (family : Family) (hasUser : Bool) (cs : List Char) :
    Except Fault (Option Host × Option UInt16 × List Char) := do
  let (text, port) := cutPort false cs
  if text.isEmpty then
    if family.isSpecial || port.isSome || hasUser then .error .emptyHost
    else .ok (none, none, [])
  else
    let host ← readHost family text
    match port with
    | none => .ok (some host, none, [])
    | some port =>
      let (port, rest) ← readPort family port
      .ok (some host, port, rest)

/-- An authority, and what is left for the path; `followed` tells whether the URL goes on. -/
def readAuthority (family : Family) (followed : Bool) (cs : List Char) :
    Except Fault (Authority × List Char) := do
  let (user, rest) := cutUser cs
  if user == some [] && rest.isEmpty && followed then .error .emptyHost
  else
    let (name, password) := Text.cut (· == ':') (user.getD [])
    let username := Percent.encode Escape.userinfo name
    let password := Percent.encode Escape.userinfo (password.getD [])
    let hasUser := !(username.isEmpty && password.isEmpty)
    let (host, port, rest) ← readHostPort family hasUser rest
    .ok (⟨username, password, host, port⟩, rest)

/-- The text up to the first slash, and the rest from that slash on. -/
def spanAuthority (rules : PathRules) (cs : List Char) : List Char × List Char :=
  (cs.takeWhile (!rules.isSlash ·), cs.dropWhile (!rules.isSlash ·))

def readAuthorityPath (family : Family) (followed : Bool) (cs : List Char) :
    Except Fault Hierarchy := do
  let (text, rest) := spanAuthority family.pathRules cs
  let (authority, left) ← readAuthority family (followed || !rest.isEmpty) text
  .ok (.authority authority (readPath family.pathRules (left ++ rest)))

/-! ### File URLs -/

/-- The host of a file URL; the local machine has no name. -/
def readFileHost (cs : List Char) : Except Fault (Option Host) := do
  if cs.isEmpty then .ok none
  else
    match ← readHost .file cs with
    | .name text => if text = "localhost".toList then .ok none else .ok (some (.name text))
    | host => .ok (some host)

def localPath (path : List Segment) : Hierarchy :=
  .authority ⟨[], [], none, none⟩ path

/-- A path on a host, which gives way to a drive letter. -/
def hostPath (host : Host) (cs : List Char) : Hierarchy :=
  let hasDrive := (resolvePath .drives cs).hasDrive
  .authority ⟨[], [], if hasDrive then none else some host, none⟩ (readPath .drives cs)

/-- The text behind a slash at the front. -/
def afterSlash (cs : List Char) : Option (List Char) :=
  match cs.dropWhile isSkipped with
  | c :: rest => if PathRules.special.isSlash c then some rest else none
  | [] => none

/-- A file URL has an authority behind two slashes alone, and never a drive letter as its host.
Where the authority names no host, the path is read as in any special URL. -/
def readFile (cs : List Char) : Except Fault Hierarchy := do
  match (afterSlash cs).bind afterSlash with
  | none => .ok (localPath (readPath .drives cs))
  | some rest =>
    let (text, path) := spanAuthority .drives rest
    let text := withoutSkipped text
    if isDriveLetter text then .ok (localPath (readPath .drives rest))
    else
      match ← readFileHost text with
      | some host => .ok (hostPath host path)
      | none => .ok (localPath (readPath .special path))

/-! ### The forms of a hierarchy -/

/-- A path with an empty first segment and more behind it would read as an authority. -/
def needsGuard : List Segment → Bool
  | [] :: _ :: _ => true
  | _ => false

def readHierarchy (family : Family) (followed : Bool) (cs : List Char) :
    Except Fault Hierarchy :=
  match family with
  | .web _ =>
    readAuthorityPath family followed ((withoutSkipped cs).dropWhile PathRules.special.isSlash)
  | .file => readFile cs
  | .other =>
    match withoutSkipped cs with
    | '/' :: '/' :: rest => readAuthorityPath .other followed rest
    | '/' :: rest =>
      let path := readPath .plain ('/' :: rest)
      .ok (.rooted (needsGuard path) path)
    | rest => .ok (.unrooted (Percent.encode Escape.control rest))

/-- The characters that are escaped in a query. -/
def queryEscape (family : Family) : Char → Bool :=
  if family.isSpecial then Escape.specialQuery else Escape.query

/-- A query or a fragment. -/
def readPart (escape : Char → Bool) (cs : List Char) : List Char :=
  Percent.encode escape (withoutSkipped cs)

def parse (s : String) : Except Fault Url :=
  match readScheme (Text.trim (·.toNat ≤ 0x20) s.toList) with
  | none => .error .relativeWithoutBase
  | some (scheme, rest) => do
    let (rest, fragment) := Text.cut (· == '#') rest
    let (rest, query) := Text.cut (· == '?') rest
    let family := Family.ofScheme scheme
    let hierarchy ← readHierarchy family (query.isSome || fragment.isSome) rest
    .ok
      { scheme
        hierarchy
        query := query.map (readPart (queryEscape family))
        fragment := fragment.map (readPart Escape.fragment) }

end Signpost.Url
