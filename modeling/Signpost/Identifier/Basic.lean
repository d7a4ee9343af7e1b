import Signpost.Text.Blank
import Signpost.Text.Cut
import Signpost.Text.Utf8

/-!
# Identifiers

An identifier names a service, an API of a service, or a resource under an API. Its text is
`urn:ads:` and the names between colons; a resource takes the rest of the text, colons included.
Validity is part of the types, so every identifier has a text that reads back as itself.
-/

namespace Signpost.Identifier

inductive Kind where
  | service
  | api
  | resource
  deriving DecidableEq, Repr

def Kind.all : List Kind :=
  [.service, .api, .resource]

def Kind.name : Kind → String
  | .service => "service"
  | .api => "api"
  | .resource => "resource"

/-- The names in front of a resource. -/
inductive Part where
  | space
  | service
  | api
  deriving DecidableEq, Repr

def Part.name : Part → String
  | .space => "namespace"
  | .service => "service"
  | .api => "api"

/-- Why a text is no identifier. -/
inductive Fault where
  | tooFewSegments
  | wrongStart
  | emptyLabel (part : Part)
  | longLabel (part : Part)
  | badLabel (part : Part)
  | emptyResource
  | longResource
  | blankResource
  deriving DecidableEq, Repr

def Fault.message : Fault → String
  | .tooFewSegments => "expected at least 4 colon-delimited segments"
  | .wrongStart => "identifier must start with 'urn:ads'"
  | .emptyLabel part => part.name ++ " is empty"
  | .longLabel part => part.name ++ " exceeds 50 characters"
  | .badLabel part => part.name ++ " may only contain letters, digits and '-'"
  | .emptyResource => "resource is empty"
  | .longResource => "resource exceeds 1000 characters"
  | .blankResource => "resource contains whitespace or control characters"

/-! ### Names -/

def isLabelChar (c : Char) : Bool :=
  c.isAlphanum || c == '-'

/-- One to fifty letters, digits and hyphens. -/
structure Label where
  chars : List Char
  ne_nil : chars ≠ []
  size_le : Utf8.size chars ≤ 50
  all : chars.all isLabelChar = true
  deriving DecidableEq, Repr

def isResourceChar (c : Char) : Bool :=
  !(Text.isControl c || Text.isBlank c)

/-- Up to a thousand bytes without blanks and control characters, at least one. -/
structure Resource where
  chars : List Char
  ne_nil : chars ≠ []
  size_le : Utf8.size chars ≤ 1000
  all : chars.all isResourceChar = true
  deriving DecidableEq, Repr

def Label.text (label : Label) : String :=
  String.ofList label.chars

def Resource.text (resource : Resource) : String :=
  String.ofList resource.chars

def Label.read (part : Part) (cs : List Char) : Except Fault Label :=
  if ne_nil : cs = [] then .error (.emptyLabel part)
  else if size_le : Utf8.size cs ≤ 50 then
    if all : cs.all isLabelChar = true then .ok ⟨cs, ne_nil, size_le, all⟩
    else .error (.badLabel part)
  else .error (.longLabel part)

def Resource.read (cs : List Char) : Except Fault Resource :=
  if ne_nil : cs = [] then .error .emptyResource
  else if size_le : Utf8.size cs ≤ 1000 then
    if all : cs.all isResourceChar = true then .ok ⟨cs, ne_nil, size_le, all⟩
    else .error .blankResource
  else .error .longResource

/-- What an identifier points at below its service. -/
inductive Locator where
  | service
  | api (api : Label)
  | resource (api : Label) (resource : Resource)
  deriving DecidableEq, Repr

/-- The core services of the platform are in a namespace of their own. -/
inductive Partition where
  | core
  | tenant
  deriving DecidableEq, Repr

def Partition.name : Partition → String
  | .core => "core"
  | .tenant => "tenant"

end Identifier

structure Identifier where
  space : Identifier.Label
  service : Identifier.Label
  locator : Identifier.Locator
  deriving DecidableEq, Repr

namespace Identifier

def kind (id : Identifier) : Kind :=
  match id.locator with
  | .service => .service
  | .api _ => .api
  | .resource _ _ => .resource

def api? (id : Identifier) : Option Label :=
  match id.locator with
  | .service => none
  | .api api => some api
  | .resource api _ => some api

def resource? (id : Identifier) : Option Resource :=
  match id.locator with
  | .resource _ resource => some resource
  | _ => none

def isPlatform (id : Identifier) : Bool :=
  id.space.text == "platform"

def partition (id : Identifier) : Partition :=
  if id.isPlatform then .core else .tenant

/-! ### The text of an identifier -/

/-- The names of a service behind the fixed start. -/
def renderService (space service : List Char) : List Char :=
  "urn:ads:".toList ++ space ++ ':' :: service

def Locator.render : Locator → List Char
  | .service => []
  | .api name => ':' :: name.chars
  | .resource name rest => ':' :: name.chars ++ ':' :: rest.chars

def render (id : Identifier) : List Char :=
  renderService id.space.chars id.service.chars ++ id.locator.render

/-- The text of an identifier, which is also its key. -/
def canonical (id : Identifier) : String :=
  String.ofList id.render

/-- The locator of the parts behind the service. -/
def Locator.read : List (List Char) → Except Fault Locator
  | [] => .ok .service
  | [name] => do
    let name ← Label.read .api name
    .ok (.api name)
  | name :: rest :: _ => do
    let name ← Label.read .api name
    let rest ← Resource.read rest
    .ok (.resource name rest)

def read (cs : List Char) : Except Fault Identifier :=
  match Text.pieces (· == ':') 5 cs with
  | scheme :: kind :: space :: service :: below =>
    if scheme = "urn".toList ∧ kind = "ads".toList then do
      let space ← Label.read .space space
      let service ← Label.read .service service
      let locator ← Locator.read below
      .ok ⟨space, service, locator⟩
    else .error .wrongStart
  | _ => .error .tooFewSegments

end Signpost.Identifier
