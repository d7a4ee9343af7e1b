import Signpost.Json.Value
import Signpost.Text.Numeral

/-!
# Writing JSON

Values are written without blanks. A string escapes quotes, backslashes and the control characters
below the space, five of them by a letter.
-/

namespace Signpost.Json

def renderUnit (n : Nat) : List Char :=
  ['\\', 'u', Hex.lower (n / 4096 % 16), Hex.lower (n / 256 % 16), Hex.lower (n / 16 % 16),
    Hex.lower (n % 16)]

def renderChar (c : Char) : List Char :=
  if c = '"' then ['\\', '"']
  else if c = '\\' then ['\\', '\\']
  else if c = '\x08' then ['\\', 'b']
  else if c = '\x0C' then ['\\', 'f']
  else if c = '\n' then ['\\', 'n']
  else if c = '\r' then ['\\', 'r']
  else if c = '\t' then ['\\', 't']
  else if c.toNat < 0x20 then renderUnit c.toNat
  else [c]

/-- A surrogate without its partner is written as the first of them. -/
def renderScalar : Option Char → List Char
  | some c => renderChar c
  | none => renderUnit 0xD800

def renderText (t : Text) : List Char :=
  '"' :: t.flatMap renderScalar ++ ['"']

def renderExponent (e : Int) : List Char :=
  'e' :: (if e < 0 then ['-'] else []) ++ Decimal.render e.natAbs

def Number.render (n : Number) : List Char :=
  (if n.negative then ['-'] else []) ++ Decimal.render n.whole ++
    (n.fraction.map ('.' :: ·)).getD [] ++ (n.exponent.map renderExponent).getD []

mutual

def Value.render : Value → List Char
  | .null => "null".toList
  | .bool b => if b then "true".toList else "false".toList
  | .number n => n.render
  | .string t => renderText t
  | .array items => '[' :: renderItems items ++ [']']
  | .object members => '\x7B' :: renderMembers members ++ ['\x7D']

def renderItems : List Value → List Char
  | [] => []
  | [item] => item.render
  | item :: items => item.render ++ ',' :: renderItems items

def renderMembers : List (Text × Value) → List Char
  | [] => []
  | [(key, value)] => renderText key ++ ':' :: value.render
  | (key, value) :: members => renderText key ++ ':' :: value.render ++ ',' :: renderMembers members

end

protected def Value.toString (v : Value) : String :=
  String.ofList v.render

instance : ToString Value where
  toString := Value.toString

end Signpost.Json
