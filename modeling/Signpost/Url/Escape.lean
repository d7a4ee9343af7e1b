import Signpost.Text.Percent

/-!
# Which characters a URL escapes

Each part of a URL has a class of characters that are percent-encoded in it. The classes grow from
one part to the next, so that what is plain in a path is plain in a fragment.
-/

namespace Signpost.Url.Escape

/-- Control characters and everything outside ASCII; escaped everywhere. -/
def control (c : Char) : Bool :=
  c.toNat < 0x20 || 0x7E < c.toNat

def fragment (c : Char) : Bool :=
  control c || c == ' ' || c == '"' || c == '<' || c == '>' || c == '\x60'

def path (c : Char) : Bool :=
  fragment c || c == '#' || c == '?' || c == '{' || c == '}'

def userinfo (c : Char) : Bool :=
  path c || c == '/' || c == ':' || c == ';' || c == '=' || c == '@' || c == '[' || c == '\\' ||
    c == ']' || c == '^' || c == '|'

def query (c : Char) : Bool :=
  control c || c == ' ' || c == '"' || c == '#' || c == '<' || c == '>'

/-- A special URL also escapes the apostrophe in its query. -/
def specialQuery (c : Char) : Bool :=
  query c || c == '\''

theorem fragment_of_path {c : Char} (h : path c = false) : fragment c = false := by
  simp only [path, Bool.or_eq_false_iff] at h
  exact h.1.1.1.1

theorem control_of_path {c : Char} (h : path c = false) : control c = false := by
  have := fragment_of_path h
  simp only [fragment, Bool.or_eq_false_iff] at this
  exact this.1.1.1.1.1

end Signpost.Url.Escape
