import Signpost.Text.Printable

/-!
# Quoted texts

A text between double quotes, as it is shown in reports. Quotes and backslashes stand behind a
backslash, and characters that would not show stand as escapes.
-/

namespace Signpost.Text

/-- The digits of a code point in lower case between braces. -/
def codePoint (c : Char) : List Char :=
  ['\\', 'u', '\x7B'] ++ Nat.toDigits 16 c.toNat ++ ['\x7D']

def quoteChar (c : Char) : List Char :=
  if c = '"' then ['\\', '"']
  else if c = '\\' then ['\\', '\\']
  else if c = '\t' then ['\\', 't']
  else if c = '\n' then ['\\', 'n']
  else if c = '\r' then ['\\', 'r']
  else if c.toNat = 0 then ['\\', '0']
  else if isPrintable c then [c]
  else codePoint c

def quote (s : String) : String :=
  String.ofList ('"' :: s.toList.flatMap quoteChar ++ ['"'])

end Signpost.Text
