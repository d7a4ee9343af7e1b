import Signpost.Text.Blank
import Signpost.Url.Basic
import Signpost.Url.Escape
import Signpost.Url.Mapping
import Signpost.Url.Punycode
import Signpost.Url.Validity

/-!
# Reading a host

A host is a bracketed IPv6 address, or for a special URL a domain name or an IPv4 address, which
is any name whose last label is a number. A name is brought into its ASCII form (UTS #46, neither
transitional nor with the rules for hyphens and host names), in which it has no capital and no
character that would end an authority.
-/

namespace Signpost.Url

/-- Why a text is no URL. -/
inductive Fault where
  | relativeWithoutBase
  | emptyHost
  | invalidPort
  | invalidIpv4
  | invalidIpv6
  | invalidDomain
  | invalidDomainCharacter
  deriving DecidableEq, Repr

def Fault.message : Fault → String
  | .relativeWithoutBase => "relative URL without a base"
  | .emptyHost => "empty host"
  | .invalidPort => "invalid port number"
  | .invalidIpv4 => "invalid IPv4 address"
  | .invalidIpv6 => "invalid IPv6 address"
  | .invalidDomain => "invalid international domain name"
  | .invalidDomainCharacter => "invalid domain character"

/-! ### Numbers -/

/-- The value of a row of digits in a base up to 16. -/
def digits? (base : Nat) (cs : List Char) : Option Nat :=
  cs.foldlM (fun n c => (Hex.value? c).bind fun d =>
    if d < base then some (n * base + d) else none) 0

/-- A number of an IPv4 address: hexadecimal behind `0x`, octal behind `0`, else decimal. -/
def ipv4Number? : List Char → Option Nat
  | [] => none
  | '0' :: 'x' :: rest => digits? 16 rest
  | '0' :: 'X' :: rest => digits? 16 rest
  | '0' :: c :: rest => digits? 8 (c :: rest)
  | cs => digits? 10 cs

/-- The labels of a name, without the empty one behind a dot at the end. -/
def labels (name : List Char) : List (List Char) :=
  let parts := Text.split (· == '.') name
  if parts.getLast?.any List.isEmpty then parts.dropLast else parts

/-- Whether the last label is a number, so that the name must be an IPv4 address. -/
def endsInNumber (name : List Char) : Bool :=
  match (labels name).getLast? with
  | none => false
  | some label =>
    (!label.isEmpty && label.all Char.isDigit) || (ipv4Number? label).isSome

/-- The address of up to four numbers, the last of which fills all bytes that are left. -/
def ipv4? (name : List Char) : Option UInt32 := do
  let numbers ← (labels name).mapM ipv4Number?
  let last ← numbers.getLast?
  let bytes := numbers.dropLast
  if 3 < bytes.length || bytes.any (255 < ·) || Nat.pow 256 (4 - bytes.length) ≤ last then none
  else
    let high := bytes.foldl (fun n b => n * 256 + b) 0
    some (UInt32.ofNat (high * Nat.pow 256 (4 - bytes.length) + last))

/-! ### IPv6 -/

/-- A group of one to four hexadecimal digits. -/
def ipv6Group? (cs : List Char) : Option UInt16 :=
  if cs.isEmpty || 4 < cs.length then none else (digits? 16 cs).map UInt16.ofNat

/-- A decimal byte without leading zeros. -/
def byte? (cs : List Char) : Option Nat :=
  match cs with
  | [] => none
  | '0' :: _ :: _ => none
  | cs => if cs.length ≤ 3 then (digits? 10 cs).filter (· ≤ 255) else none

/-- Two groups written as four decimal bytes. -/
def dottedGroups? (cs : List Char) : Option (List UInt16) := do
  match ← (Text.split (· == '.') cs).mapM byte? with
  | [a, b, c, d] => some [UInt16.ofNat (a * 256 + b), UInt16.ofNat (c * 256 + d)]
  | _ => none

/-- Groups between colons; the last piece of an address may be written as decimal bytes. -/
def ipv6Pieces? (atEnd : Bool) : List (List Char) → Option (List UInt16)
  | [] => some []
  | [piece] =>
    if atEnd && piece.contains '.' then dottedGroups? piece
    else (ipv6Group? piece).map fun g => [g]
  | piece :: pieces => do
    let group ← ipv6Group? piece
    let groups ← ipv6Pieces? atEnd pieces
    some (group :: groups)

def ipv6Groups? (atEnd : Bool) (cs : List Char) : Option (List UInt16) :=
  ipv6Pieces? atEnd (Text.split (· == ':') cs)

/-- The text before and behind the first `::`. -/
def cutDoubleColon : List Char → Option (List Char × List Char)
  | ':' :: ':' :: rest => some ([], rest)
  | c :: rest => (cutDoubleColon rest).map fun (before, after) => (c :: before, after)
  | [] => none

/-- Eight groups, or fewer around one `::` that stands for at least one zero group. -/
def ipv6? (cs : List Char) : Option Ipv6 := do
  let groups ← match cutDoubleColon cs with
    | none => ipv6Groups? true cs
    | some (before, after) => do
      let left ← if before.isEmpty then some [] else ipv6Groups? false before
      let right ← if after.isEmpty then some [] else ipv6Groups? true after
      let missing := 8 - (left.length + right.length)
      if missing = 0 then none else some (left ++ List.replicate missing 0 ++ right)
  if h : groups.length = 8 then some ⟨groups, h⟩ else none

/-! ### Names -/

/-- The characters that no domain name holds in its ASCII form. -/
def isForbiddenInDomain (c : Char) : Bool :=
  c.toNat ≤ 0x20 || c.toNat == 0x7F || c.isUpper || "#/:<>?@[\\]^|%".toList.contains c

/-- The characters that no name of a URL that is not special holds. -/
def isForbiddenInName (c : Char) : Bool :=
  c.toNat == 0 || " \t\n\r#/:<>?@[\\]^|".toList.contains c

/-- A label in ASCII. -/
def asciiLabel (label : List Char) : List Char :=
  if label.all (·.toNat < 0x80) then label
  else "xn--".toList ++ Punycode.encode label

/-- The ASCII form of a domain name, which is mapped and brought into normal form before. -/
def asciiDomain (name : List Char) : List Char :=
  Text.join ['.']
    ((Text.split (· == '.') (Normal.normalize (name.flatMap Mapping.replace))).map asciiLabel)

/-- Whether a label behind `xn--` in a domain name stands for an international label. -/
def isLabelCode (code : List Char) : Bool :=
  code.getLast?.any (· != '-') && (Punycode.decode? code).any Label.isPlain

/-- Whether a label of a domain name is its own text or stands for an international label. -/
def isLabel : List Char → Bool
  | 'x' :: 'n' :: '-' :: '-' :: code => isLabelCode code
  | _ => true

/-- The label that one in ASCII form stands for. -/
def readLabel : List Char → List Char
  | 'x' :: 'n' :: '-' :: '-' :: code => (Punycode.decode? code).getD []
  | label => label

/-- Whether a domain name in its ASCII form is one. -/
def isDomain (domain : List Char) : Bool :=
  let labels := Text.split (· == '.') domain
  !domain.any isForbiddenInDomain && labels.all isLabel && Label.areOneWay (labels.map readLabel)

def readBracketed (rest : List Char) : Except Fault Host :=
  match rest.reverse with
  | ']' :: address =>
    match ipv6? address.reverse with
    | some address => .ok (.ipv6 address)
    | none => .error .invalidIpv6
  | _ => .error .invalidIpv6

/-- The host that a domain name in its ASCII form stands for. -/
def hostOfDomain (domain : List Char) : Except Fault Host :=
  if !isDomain domain then .error .invalidDomain
  else if domain.isEmpty then .error .emptyHost
  else if endsInNumber domain then
    match ipv4? domain with
    | some address => .ok (.ipv4 address)
    | none => .error .invalidIpv4
  else .ok (.name domain)

def readDomain (cs : List Char) : Except Fault Host :=
  match Utf8.decode? (Percent.decode cs) with
  | none => .error .invalidDomain
  | some name => hostOfDomain (asciiDomain name)

def readName (cs : List Char) : Except Fault Host :=
  if cs.any isForbiddenInName then .error .invalidDomainCharacter
  else .ok (.name (Percent.encode Escape.control cs))

/-- The host of a text, which is not empty in a special URL. -/
def readHost (family : Family) (cs : List Char) : Except Fault Host :=
  match cs with
  | '[' :: rest => readBracketed rest
  | _ => if family.isSpecial then readDomain cs else readName cs

end Signpost.Url
