import Signpost.Text.Cut
import Signpost.Text.Percent

/-!
# Form fields

The `application/x-www-form-urlencoded` format: fields joined by `&`, each a name and a value
around `=`, a blank written `+`. Writing leaves letters, digits and `*-._` as they are.
-/

namespace Signpost.Form

/-- The characters that a written field holds unescaped. -/
def isPlain (c : Char) : Bool :=
  c.isAlphanum || c == '*' || c == '-' || c == '.' || c == '_'

def encode (cs : List Char) : List Char :=
  cs.flatMap fun c =>
    if c = ' ' then ['+'] else if isPlain c then [c] else Percent.encodeChar c

/-- A name or a value as read; bytes that are no text become U+FFFD. -/
def decode (cs : List Char) : List Char :=
  Utf8.decodeLossy (Percent.decode (cs.map fun c => if c = '+' then ' ' else c))

def render (fields : List (String × String)) : String :=
  String.ofList <| Text.join ['&'] <| fields.map fun (name, value) =>
    encode name.toList ++ '=' :: encode value.toList

/-- The fields of a text in order; nothing between two `&` is no field. -/
def parse (cs : List Char) : List (List Char × List Char) :=
  ((Text.split (· == '&') cs).filter (!·.isEmpty)).map fun field =>
    let (name, value) := Text.cut (· == '=') field
    (decode name, decode (value.getD []))

end Signpost.Form
