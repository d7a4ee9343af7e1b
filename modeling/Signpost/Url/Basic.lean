import Signpost.Text.Cut
import Signpost.Text.Numeral

/-!
# URLs

A URL is a scheme, a hierarchy, and optionally a query and a fragment. A hierarchy is an authority
with a path below it, a path without an authority, or plain text that has no structure. Texts are
kept as they are written, so that writing a URL is joining its parts.
-/

namespace Signpost.Url

/-- What the scheme decides: whether an authority must follow and which port is left unwritten. -/
inductive Family where
  | web (defaultPort : Nat)
  | file
  | other
  deriving DecidableEq, Repr

def Family.ofScheme (scheme : List Char) : Family :=
  if scheme = "http".toList || scheme = "ws".toList then .web 80
  else if scheme = "https".toList || scheme = "wss".toList then .web 443
  else if scheme = "ftp".toList then .web 21
  else if scheme = "file".toList then .file
  else .other

/-- Whether a backslash is read as a slash and the path is never empty. -/
def Family.isSpecial : Family → Bool
  | .other => false
  | _ => true

/-- An address of eight groups of sixteen bits. -/
structure Ipv6 where
  groups : List UInt16
  length_eq : groups.length = 8 := by decide
  deriving DecidableEq, Repr

inductive Host where
  | name (text : List Char)
  | ipv4 (address : UInt32)
  | ipv6 (address : Ipv6)
  deriving DecidableEq, Repr

/-- The part between `//` and the path, user name and password as they are written. -/
structure Authority where
  username : List Char
  password : List Char
  host : Option Host
  port : Option UInt16
  deriving DecidableEq, Repr

abbrev Segment := List Char

/-- A `rooted` path that begins with two slashes is `guarded` by `/.` so that it is not read as
an authority. -/
inductive Hierarchy where
  | authority (authority : Authority) (path : List Segment)
  | rooted (guarded : Bool) (path : List Segment)
  | unrooted (path : List Char)
  deriving DecidableEq, Repr

end Url

structure Url where
  scheme : List Char
  hierarchy : Url.Hierarchy
  query : Option (List Char)
  fragment : Option (List Char)
  deriving DecidableEq, Repr

namespace Url

/-! ### Writing -/

def renderSegments (path : List Segment) : List Char :=
  path.flatMap ('/' :: ·)

/-- Four decimal bytes with dots between them. -/
def renderIpv4 (address : UInt32) : List Char :=
  let n := address.toNat
  Text.join ['.'] ([n / 16777216, n / 65536 % 256, n / 256 % 256, n % 256].map Decimal.render)

/-- The length of the run of zero groups at the front. -/
def zeroRun (groups : List UInt16) : Nat :=
  (groups.takeWhile (· == 0)).length

/-- Where the first of the longest runs of zero groups starts, and its length. -/
def longestZeroRun : List UInt16 → Nat × Nat
  | [] => (0, 0)
  | g :: groups =>
    let here := zeroRun (g :: groups)
    let (start, length) := longestZeroRun groups
    if length ≤ here then (0, here) else (start + 1, length)

def renderGroups (groups : List UInt16) : List Char :=
  Text.join [':'] (groups.map fun g => Nat.toDigits 16 g.toNat)

/-- Groups in hexadecimal; the first of the longest runs of two or more zeros becomes `::`. -/
def Ipv6.render (address : Ipv6) : List Char :=
  let (start, length) := longestZeroRun address.groups
  if 2 ≤ length then
    renderGroups (address.groups.take start) ++ [':', ':'] ++
      renderGroups (address.groups.drop (start + length))
  else renderGroups address.groups

def Host.render : Host → List Char
  | .name text => text
  | .ipv4 address => renderIpv4 address
  | .ipv6 address => '[' :: address.render ++ [']']

/-- User name and password before an `@`, nothing when both are empty. -/
def Authority.renderUser (a : Authority) : List Char :=
  if a.username.isEmpty && a.password.isEmpty then []
  else a.username ++ (if a.password.isEmpty then [] else ':' :: a.password) ++ ['@']

def Authority.render (a : Authority) : List Char :=
  a.renderUser ++ (a.host.map Host.render).getD [] ++
    (a.port.map fun port => ':' :: Decimal.render port.toNat).getD []

/-- What stands between the colon of the scheme and the path. -/
def Hierarchy.renderStem : Hierarchy → List Char
  | .authority a _ => '/' :: '/' :: a.render
  | .rooted guarded _ => if guarded then ['/', '.'] else []
  | .unrooted _ => []

def Hierarchy.renderPath : Hierarchy → List Char
  | .authority _ path => renderSegments path
  | .rooted _ path => renderSegments path
  | .unrooted path => path

/-- An optional part behind its mark. -/
def renderPart (mark : Char) (part : Option (List Char)) : List Char :=
  (part.map (mark :: ·)).getD []

def render (u : Url) : List Char :=
  u.scheme ++ ':' :: u.hierarchy.renderStem ++ u.hierarchy.renderPath ++
    renderPart '?' u.query ++ renderPart '#' u.fragment

protected def toString (u : Url) : String :=
  String.ofList u.render

instance : ToString Url where
  toString := Url.toString

/-! ### Reading off parts -/

def family (u : Url) : Family :=
  Family.ofScheme u.scheme

def authority? (u : Url) : Option Authority :=
  match u.hierarchy with
  | .authority a _ => some a
  | _ => none

def host? (u : Url) : Option Host :=
  u.authority?.bind Authority.host

def port? (u : Url) : Option UInt16 :=
  u.authority?.bind Authority.port

/-- The path as it is written. -/
def path (u : Url) : List Char :=
  u.hierarchy.renderPath

end Signpost.Url
