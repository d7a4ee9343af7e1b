import Signpost.Url.Basic
import Signpost.Url.Escape

/-!
# Paths as segments

Reading a path divides it at its slashes and takes the segments one by one: `.` is dropped, `..`
takes back the segment before it, anything else is escaped and added. A path that ends in one of
the two dot segments ends in a slash. Tabs and line breaks are left out.
-/

namespace Signpost.Url

/-- A character that is left out wherever it stands. -/
def isSkipped (c : Char) : Bool :=
  c == '\t' || c == '\n' || c == '\r'

def withoutSkipped (cs : List Char) : List Char :=
  cs.filter (!isSkipped ·)

/-- How a path is read: whether a backslash is a slash, and whether drive letters count too. -/
inductive PathRules where
  | plain
  | special
  | drives
  deriving DecidableEq, Repr

def Family.pathRules : Family → PathRules
  | .web _ => .special
  | .file => .drives
  | .other => .plain

/-- A slash, or in a special URL a backslash too. -/
def PathRules.isSlash (rules : PathRules) (c : Char) : Bool :=
  c == '/' || (rules != .plain && c == '\\')

/-! ### Dots -/

/-- A dot, or its escape in either case, at the front of a text. -/
def afterDot : List Char → Option (List Char)
  | '.' :: rest => some rest
  | '%' :: '2' :: e :: rest => if e == 'e' || e == 'E' then some rest else none
  | _ => none

/-- The segment `.` in any spelling. -/
def isSingleDot (s : Segment) : Bool :=
  afterDot s == some []

/-- The segment `..` in any spelling. -/
def isDoubleDot (s : Segment) : Bool :=
  (afterDot s).bind afterDot == some []

/-! ### Drive letters -/

/-- A letter and a colon or a bar. -/
def isDriveLetter : Segment → Bool
  | [c, d] => c.isAlpha && (d == ':' || d == '|')
  | _ => false

/-- A drive letter, alone or with a backslash behind it. -/
def isDrive : Segment → Bool
  | c :: d :: rest => isDriveLetter [c, d] && (rest.isEmpty || rest.head? == some '\\')
  | _ => false

/-- The path without its last segment; a drive is never taken away. -/
def dropLastSegment (path : List Segment) : List Segment :=
  if path.getLast?.any isDrive then path else path.dropLast

/-- A drive letter that only a skipped character divides from the text behind it, which is then a
segment of its own. -/
def splitDrive (s : Segment) : Option (Segment × Segment) :=
  match s.dropWhile isSkipped with
  | [] => none
  | c :: rest =>
    match rest.dropWhile isSkipped with
    | ':' :: d :: rest =>
      let rest := withoutSkipped rest
      if c.isAlpha && isSkipped d && !rest.isEmpty then some ([c, ':'], rest) else none
    | _ => none

/-! ### Segment by segment -/

/-- A path that is being read, and whether it was found to open with a drive letter. -/
structure Trail where
  path : List Segment
  hasDrive : Bool
  deriving DecidableEq, Repr

/-- Adds a segment; a drive letter that opens the path is written with a colon. -/
def Trail.add (t : Trail) (drives : Bool) (s : Segment) : Trail :=
  match s with
  | [c, _] =>
    if drives && t.path.isEmpty && isDriveLetter s then ⟨[[c, ':']], true⟩
    else { t with path := t.path ++ [Percent.encode Escape.path s] }
  | _ => { t with path := t.path ++ [Percent.encode Escape.path s] }

/-- Takes up a segment; `last` tells that no slash follows it. -/
def Trail.take (drives last : Bool) (t : Trail) (written : Segment) : Trail :=
  let ending : List Segment := if last then [[]] else []
  match if drives && t.path.isEmpty then splitDrive written else none with
  | some (drive, rest) => { t with path := [drive, Percent.encode Escape.path rest] }
  | none =>
    let s := withoutSkipped written
    if isDoubleDot s then { t with path := dropLastSegment t.path ++ ending }
    else if isSingleDot s then { t with path := t.path ++ ending }
    else t.add drives s

/-- Takes up segments in order. -/
def Trail.takeAll (drives : Bool) (t : Trail) : List Segment → Trail
  | [] => t
  | [s] => t.take drives true s
  | s :: segments => (t.take drives false s).takeAll drives segments

/-- The path without the empty segments in front of its first. -/
def collapseFront (path : List Segment) : List Segment :=
  match path.dropWhile List.isEmpty with
  | [] => [[]]
  | segments => segments

/-- The text of a path without the slash at its root. -/
def afterRoot (rules : PathRules) (cs : List Char) : List Char :=
  match cs with
  | c :: rest => if rules.isSlash c then rest else cs
  | [] => []

/-- The segments of a path with its dot segments carried out. -/
def resolvePath (rules : PathRules) (cs : List Char) : Trail :=
  Trail.takeAll (rules == .drives) ⟨[], false⟩
    (Text.split rules.isSlash (afterRoot rules (cs.dropWhile isSkipped)))

/-- The segments of a path; only a path of a URL that is not special may have none. -/
def readPath (rules : PathRules) (cs : List Char) : List Segment :=
  match rules with
  | .plain => if (withoutSkipped cs).isEmpty then [] else (resolvePath .plain cs).path
  | .special => (resolvePath .special cs).path
  | .drives => collapseFront (resolvePath .drives cs).path

end Signpost.Url
