import Signpost.Json.Value
import Signpost.Text.Numeral
import Signpost.Text.Utf8

/-!
# Reading JSON

Each reader takes a value from the front of a text and gives what is left behind it. The nesting of
a value is bounded by nothing but the text, whose length is the fuel of the recursion.
-/

namespace Signpost.Json

def isBlank (c : Char) : Bool :=
  c == ' ' || c == '\t' || c == '\n' || c == '\r'

def skipBlank (cs : List Char) : List Char :=
  cs.dropWhile isBlank

/-! ### Strings -/

def hex4? (a b c d : Char) : Option Nat := do
  let a ← Hex.value? a
  let b ← Hex.value? b
  let c ← Hex.value? c
  let d ← Hex.value? d
  some (((a * 16 + b) * 16 + c) * 16 + d)

def isHighSurrogate (n : Nat) : Bool :=
  0xD800 ≤ n && n < 0xDC00

def isLowSurrogate (n : Nat) : Bool :=
  0xDC00 ≤ n && n < 0xE000

def ofSurrogates (high low : Nat) : Char :=
  Char.ofNat (0x10000 + (high - 0xD800) * 0x400 + (low - 0xDC00))

/-- The scalar of an escape of one letter. -/
def shortEscape? : Char → Option Char
  | '"' => some '"'
  | '\\' => some '\\'
  | '/' => some '/'
  | 'b' => some '\x08'
  | 'f' => some '\x0C'
  | 'n' => some '\n'
  | 'r' => some '\r'
  | 't' => some '\t'
  | _ => none

/-- The code unit of an escape of four digits at the front of a text. -/
def unit? : List Char → Option (Nat × List Char)
  | '\\' :: 'u' :: a :: b :: c :: d :: rest => (hex4? a b c d).map fun n => (n, rest)
  | _ => none

/-- The scalars up to the closing quote; a high surrogate joins a low one that follows it. -/
def readString : Nat → List Char → Option (Text × List Char)
  | 0, _ => none
  | _, '"' :: rest => some ([], rest)
  | fuel + 1, '\\' :: 'u' :: rest =>
    match unit? ('\\' :: 'u' :: rest) with
    | none => none
    | some (n, rest) =>
      let pair := if isHighSurrogate n then (unit? rest).filter (isLowSurrogate ·.1) else none
      match pair with
      | some (low, rest) => do
        let (t, rest) ← readString fuel rest
        some (some (ofSurrogates n low) :: t, rest)
      | none => do
        let (t, rest) ← readString fuel rest
        let scalar := if isHighSurrogate n || isLowSurrogate n then none else some (Char.ofNat n)
        some (scalar :: t, rest)
  | fuel + 1, '\\' :: c :: rest => do
    let e ← shortEscape? c
    let (t, rest) ← readString fuel rest
    some (some e :: t, rest)
  | fuel + 1, c :: rest =>
    if c.toNat < 0x20 || c == '\\' then none
    else do
      let (t, rest) ← readString fuel rest
      some (some c :: t, rest)
  | _, [] => none

/-! ### Numbers -/

/-- A non-empty row of digits at the front of a text. -/
def readDigits (cs : List Char) : Option (List Char × List Char) :=
  let digits := cs.takeWhile Char.isDigit
  if digits.isEmpty then none else some (digits, cs.dropWhile Char.isDigit)

/-- The digits in front of the point, which start with a zero only alone. -/
def readWhole : List Char → Option (Nat × List Char)
  | '0' :: rest => some (0, rest)
  | cs => (readDigits cs).map fun (digits, rest) => (Nat.ofDigitChars 10 digits 0, rest)

def readFraction : List Char → Option (Option (List Char) × List Char)
  | '.' :: rest => (readDigits rest).map fun (digits, rest) => (some digits, rest)
  | cs => some (none, cs)

def readSign : List Char → Bool × List Char
  | '-' :: rest => (true, rest)
  | '+' :: rest => (false, rest)
  | cs => (false, cs)

def readExponent : List Char → Option (Option Int × List Char)
  | c :: rest =>
    if c == 'e' || c == 'E' then
      let (negative, rest) := readSign rest
      (readDigits rest).map fun (digits, rest) =>
        let n : Int := Nat.ofDigitChars 10 digits 0
        (some (if negative then -n else n), rest)
    else some (none, c :: rest)
  | [] => some (none, [])

def readNumber (cs : List Char) : Option (Number × List Char) := do
  let (negative, rest) := match cs with
    | '-' :: rest => (true, rest)
    | _ => (false, cs)
  let (whole, rest) ← readWhole rest
  let (fraction, rest) ← readFraction rest
  let (exponent, rest) ← readExponent rest
  some (⟨negative, whole, fraction, exponent⟩, rest)

/-! ### Values -/

mutual

def readValue : Nat → List Char → Option (Value × List Char)
  | 0, _ => none
  | fuel + 1, cs =>
    match skipBlank cs with
    | 'n' :: 'u' :: 'l' :: 'l' :: rest => some (.null, rest)
    | 't' :: 'r' :: 'u' :: 'e' :: rest => some (.bool true, rest)
    | 'f' :: 'a' :: 'l' :: 's' :: 'e' :: rest => some (.bool false, rest)
    | '"' :: rest => (readString (rest.length + 1) rest).map fun (t, rest) => (.string t, rest)
    | '[' :: rest =>
      match skipBlank rest with
      | ']' :: rest => some (.array [], rest)
      | rest => (readItems fuel rest).map fun (items, rest) => (.array items, rest)
    | '\x7B' :: rest =>
      match skipBlank rest with
      | '\x7D' :: rest => some (.object [], rest)
      | rest => (readMembers fuel rest).map fun (members, rest) => (.object members, rest)
    | cs => (readNumber cs).map fun (n, rest) => (.number n, rest)

/-- The items of an array that has some, up to its bracket. -/
def readItems : Nat → List Char → Option (List Value × List Char)
  | 0, _ => none
  | fuel + 1, cs => do
    let (item, rest) ← readValue fuel cs
    match skipBlank rest with
    | ']' :: rest => some ([item], rest)
    | ',' :: rest =>
      let (items, rest) ← readItems fuel rest
      some (item :: items, rest)
    | _ => none

/-- The members of an object that has some, up to its brace. -/
def readMembers : Nat → List Char → Option (List (Text × Value) × List Char)
  | 0, _ => none
  | fuel + 1, cs => do
    let (key, rest) ← match skipBlank cs with
      | '"' :: rest => readString (rest.length + 1) rest
      | _ => none
    let rest ← match skipBlank rest with
      | ':' :: rest => some rest
      | _ => none
    let (value, rest) ← readValue fuel rest
    match skipBlank rest with
    | '\x7D' :: rest => some ([(key, value)], rest)
    | ',' :: rest =>
      let (members, rest) ← readMembers fuel rest
      some ((key, value) :: members, rest)
    | _ => none

end

/-- A value at the front of a text. -/
def readFront (cs : List Char) : Option (Value × List Char) :=
  readValue (cs.length + 1) cs

/-- The value of a whole text, blanks around it aside. -/
def read (cs : List Char) : Option Value := do
  let (value, rest) ← readFront cs
  if (skipBlank rest).isEmpty then some value else none

def parse (s : String) : Option Value :=
  read s.toList

/-- A scalar of a byte sequence; bytes that belong to none are spelled as half of a surrogate pair.
The marks around it keep it from joining its neighbours, and none of it is JSON outside a string. -/
def spell : Option Char → List Char
  | some c => [c]
  | none => "?\\uD800?".toList

/-- The value of bytes. A string may hold bytes that belong to no scalar, but then it is no text. -/
def parseBytes (bytes : List UInt8) : Option Value :=
  read ((Utf8.decodeUnits bytes).flatMap spell)

end Signpost.Json
