import Signpost.Http.Exchange
import Signpost.Text.Numeral
import Signpost.Text.Utf8

/-!
# Messages on the wire

A message is a head of lines, an empty line and a body. The length of a body is told by its head, by
the sizes of the chunks that it is cut into, or by the end of the connection.
-/

namespace Signpost.Http.Wire

def lineEnd : List Char := ['\r', '\n']

/-- A head of lines with a body behind it. -/
def render (lines : List (List Char)) (body : String) : List UInt8 :=
  Utf8.encode (lines.flatMap (· ++ lineEnd) ++ lineEnd ++ body.toList)

def header (name : String) (value : List Char) : List Char :=
  name.toList ++ ':' :: ' ' :: value

/-- A header that may be left out. -/
def header? (name : String) (value : Option String) : List (List Char) :=
  (value.map fun value => header name value.toList).toList

def contentLength (body : String) : List Char :=
  header "content-length" (Decimal.render body.utf8ByteSize)

/-- The path and the query of a URL. -/
def target (u : Url) : List Char :=
  u.path ++ Url.renderPart '?' u.query

/-- A request to the host of a URL. -/
def renderRequest (r : Request) (u : Url) : List UInt8 :=
  let host := (u.host?.map Url.Host.render).getD []
  let port := (u.port?.map fun port => ':' :: Decimal.render port.toNat).getD []
  render
    ([r.method.name.toList ++ ' ' :: target u ++ " HTTP/1.1".toList,
        header "host" (host ++ port)] ++
      header? "authorization" r.authorization ++ header? "user-agent" r.userAgent ++
      header? "content-type" r.contentType ++
      [contentLength r.body, header "accept" ['*', '/', '*'], header "connection" "close".toList])
    r.body

/-! ### Reading -/

/-- The lines of a head and what is left behind it, if the head is complete. -/
def readHead : List UInt8 → Option (List (List UInt8) × List UInt8)
  | [] => none
  | 0x0D :: 0x0A :: 0x0D :: 0x0A :: rest => some ([[]], rest)
  | 0x0D :: 0x0A :: rest => do
    let (lines, rest) ← readHead rest
    some ([] :: lines, rest)
  | b :: rest => do
    match ← readHead rest with
    | (line :: lines, rest) => some ((b :: line) :: lines, rest)
    | ([], rest) => some ([[b]], rest)

/-- The value of a header, whose name is given in lower case. -/
def value? (lines : List (List Char)) (name : String) : Option (List Char) :=
  lines.findSome? fun line =>
    let (key, value) := Text.cut (· == ':') line
    if key.map Char.toLower = name.toList then value.map (Text.trim Text.isBlank) else none

/-- The number of a row of hexadecimal digits. -/
def readHex? (cs : List Char) : Option Nat :=
  if cs.isEmpty then none
  else cs.foldlM (fun n c => (Hex.value? c).map (n * 16 + ·)) 0

/-- The first line of a text and what is left behind it. -/
def readLine : List UInt8 → Option (List UInt8 × List UInt8)
  | [] => none
  | 0x0D :: 0x0A :: rest => some ([], rest)
  | b :: rest => (readLine rest).map fun (line, rest) => (b :: line, rest)

/-- The body that chunks make up, the last of which is empty. -/
def readChunks : Nat → List UInt8 → Option (List UInt8)
  | 0, _ => none
  | fuel + 1, bytes => do
    let (line, rest) ← readLine bytes
    let size ← readHex? (Text.cut (· == ';') (Utf8.decodeLossy line)).1
    if size = 0 then some []
    else if rest.length < size + 2 then none
    else some (rest.take size ++ (← readChunks fuel (rest.drop (size + 2))))

/-- The body behind a head at the end of a connection. -/
def readBody (lines : List (List Char)) (rest : List UInt8) : Option (List UInt8) :=
  if value? lines "transfer-encoding" = some "chunked".toList then
    readChunks (rest.length + 1) rest
  else
    match (value? lines "content-length").bind Decimal.read? with
    | some length => if length ≤ rest.length then some (rest.take length) else none
    | none => some rest

/-- How an exchange ended in which these bytes were received. -/
def readExchange (bytes : List UInt8) : Exchange :=
  match readHead bytes with
  | none => .failed "the connection was closed early"
  | some (lines, rest) =>
    let lines := lines.map Utf8.decodeLossy
    match (Text.split (· == ' ') (lines.headD [])).tail with
    | code :: _ =>
      match Decimal.read? code with
      | some code => .answered ⟨code⟩ (readBody lines.tail rest)
      | none => .failed "the answer has no status"
    | [] => .failed "the answer has no status"

/-- The method and the target that the first line of a head names. -/
def readTarget? (bytes : List UInt8) : Option (String × String) := do
  let (lines, _) ← readHead bytes
  match Text.split (· == ' ') (Utf8.decodeLossy (lines.headD [])) with
  | [method, target, _] => some (String.ofList method, String.ofList target)
  | _ => none

end Signpost.Http.Wire
