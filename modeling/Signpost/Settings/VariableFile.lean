import Signpost.Settings.Variables
import Signpost.Text.Alphanumeric
import Signpost.Text.Cut

/-!
# Files of variables

A file gives one variable a line. It adds to the variables of the surroundings and never replaces
one, and what it has given so far can be referred to in the values that follow. A line that cannot
be read ends the file.
-/

namespace Signpost.Settings.VariableFile

/-- What a line says. -/
inductive Line where
  | blank
  | variable (name value : String)
  | broken
  deriving DecidableEq, Repr

/-! ### Names -/

def isNameStart (c : Char) : Bool :=
  c.isAlpha || c == '_'

def isNameChar (c : Char) : Bool :=
  c.isAlphanum || c == '_' || c == '.'

/-- A name at the front of a text and what is left behind it. -/
def readName (cs : List Char) : Option (List Char × List Char) :=
  if cs.head?.any isNameStart then some (cs.takeWhile isNameChar, cs.dropWhile isNameChar)
  else none

def skipBlank (cs : List Char) : List Char :=
  cs.dropWhile Text.isBlank

/-- What is left behind an equals sign. -/
def readEquals : List Char → Option (List Char)
  | '=' :: rest => some rest
  | _ => none

/-- The name that is assigned to and what is left behind the equals sign. The word `export` may
precede it. -/
def readTarget (cs : List Char) : Option (List Char × List Char) := do
  let (name, rest) ← readName cs
  let rest := skipBlank rest
  match readEquals rest with
  | some value => some (name, value)
  | none =>
    if name = "export".toList then
      let (name, rest) ← readName rest
      some (name, ← readEquals (skipBlank rest))
    else none

/-! ### Values -/

/-- Where in a value a character stands: in text, which may be within double quotes, behind a
backslash, within single quotes, in the name of a reference, or behind the value. -/
inductive Place where
  | text (quoted : Bool)
  | escape (quoted : Bool)
  | literal
  | name (quoted : Bool) (sofar : List Char)
  | braced (quoted : Bool) (sofar : List Char)
  | behind
  deriving DecidableEq, Repr

/-- The character that a backslash and a letter stand for. -/
def unescape? (c : Char) : Option Char :=
  if c = 'n' then some '\n'
  else if c = '\\' || c = '\'' || c = '"' || c = '$' || c = ' ' then some c
  else none

/-- The text behind a given beginning. -/
def behind? (front cs : List Char) : Option (List Char) :=
  if front.isPrefixOf cs then some (cs.drop front.length) else none

/-- The value that a name refers to, empty if there is none. A name goes up to an equals sign that
stands behind it in the surroundings, so one with an equals sign in it reaches into a value. -/
def refer (lookup : Lookup) (name : List Char) : List Char :=
  let (name, front) := Text.cut (· == '=') name
  let value := (lookup (String.ofList name)).map String.toList
  let value := match front with
    | none => value
    | some front => value.bind (behind? (front ++ ['=']))
  value.getD []

/-- The value that the rest of a line gives. Behind an unquoted blank only a comment may follow. -/
def readValue (lookup : Lookup) : Place → List Char → Option (List Char)
  | .text quoted, [] => if quoted then none else some []
  | .escape quoted, [] => if quoted then none else some []
  | .literal, [] => none
  | .name quoted sofar, [] => if quoted then none else some (refer lookup sofar)
  | .braced _ _, [] => none
  | .behind, [] => some []
  | .text quoted, c :: cs =>
    if c = '$' then readValue lookup (.name quoted []) cs
    else if c = '"' then readValue lookup (.text !quoted) cs
    else if c = '\\' then readValue lookup (.escape quoted) cs
    else if !quoted && c = '\'' then readValue lookup .literal cs
    else if !quoted && (c = ' ' || c = '\t') then readValue lookup .behind cs
    else (readValue lookup (.text quoted) cs).map (c :: ·)
  | .escape quoted, c :: cs => do
    let plain ← unescape? c
    some (plain :: (← readValue lookup (.text quoted) cs))
  | .literal, c :: cs =>
    if c = '\'' then readValue lookup (.text false) cs
    else (readValue lookup .literal cs).map (c :: ·)
  | .name quoted sofar, c :: cs =>
    if Text.isAlphanumeric c then readValue lookup (.name quoted (sofar ++ [c])) cs
    else if c = '\x7B' && sofar.isEmpty then readValue lookup (.braced quoted []) cs
    else if c = '$' then
      (readValue lookup (.name quoted []) cs).map (refer lookup sofar ++ ·)
    else (readValue lookup (.text quoted) cs).map (refer lookup sofar ++ c :: ·)
  | .braced quoted sofar, c :: cs =>
    if c = '\x7D' then (readValue lookup (.text quoted) cs).map (refer lookup sofar ++ ·)
    else readValue lookup (.braced quoted (sofar ++ [c])) cs
  | .behind, c :: cs =>
    if c = ' ' || c = '\t' then readValue lookup .behind cs
    else if c = '#' then some []
    else none

/-! ### Lines -/

/-- Whether nothing follows but a comment. -/
def isOver (cs : List Char) : Bool :=
  cs.head?.all (· == '#')

def readLine (lookup : Lookup) (cs : List Char) : Line :=
  let cs := skipBlank (Text.trimEnd Text.isBlank cs)
  if isOver cs then .blank
  else
    match readTarget cs with
    | none => .broken
    | some (name, rest) =>
      let rest := skipBlank rest
      let value := if isOver rest then some [] else readValue lookup (.text false) rest
      match value with
      | some value => .variable (String.ofList name) (String.ofList value)
      | none => .broken

/-- A look-up to which a variable is added, unless it has one of that name. -/
def extend (lookup : Lookup) (name value : String) : Lookup :=
  fun other => (lookup other).orElse fun _ => if other = name then some value else none

/-- The variables of surroundings and, behind them, those of lines. -/
def loadLines (lookup : Lookup) : List (List Char) → Lookup
  | [] => lookup
  | line :: lines =>
    match readLine lookup line with
    | .blank => loadLines lookup lines
    | .variable name value => loadLines (extend lookup name value) lines
    | .broken => lookup

/-- The variables of surroundings and, behind them, those of a file. -/
def load (surroundings : Lookup) (file : String) : Lookup :=
  loadLines surroundings (Text.split (· == '\n') file.toList)

end Signpost.Settings.VariableFile
