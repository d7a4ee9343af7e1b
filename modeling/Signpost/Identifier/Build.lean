import Signpost.Failure.Basic

/-!
# Making identifiers

Identifiers are read from their text or built from their parts. Building from parts fails exactly
as reading the text of the parts would, unless a name holds a colon.
-/

namespace Signpost.Identifier

def parse (s : String) : Except Failure Identifier :=
  (read s.toList).mapError (Failure.ofFault s)

/-- Fails unless the identifier has one of the given kinds. -/
def checkKind (id : Identifier) (expected : List Kind) : Except Failure Unit :=
  if id.kind ∈ expected then .ok () else .error (.wrongKind id.canonical expected id.kind)

def ofService (space service : String) : Except Failure Identifier :=
  let text := String.ofList (renderService space.toList service.toList)
  Except.mapError (Failure.ofFault text) do
    let space ← Label.read .space space.toList
    let service ← Label.read .service service.toList
    .ok ⟨space, service, .service⟩

/-- The text of the service that an identifier belongs to. -/
def servicePrefix (id : Identifier) : List Char :=
  renderService id.space.chars id.service.chars

/-- An API of the service that an identifier belongs to. -/
def withApi (id : Identifier) (api : String) : Except Failure Identifier :=
  let text := String.ofList (id.servicePrefix ++ ':' :: api.toList)
  Except.mapError (Failure.ofFault text) do
    let api ← Label.read .api api.toList
    .ok { id with locator := .api api }

/-- A resource under an API. -/
def withResource (id : Identifier) (resource : String) : Except Failure Identifier :=
  match id.locator with
  | .api api =>
    let text := String.ofList (id.render ++ ':' :: resource.toList)
    Except.mapError (Failure.ofFault text) do
      let resource ← Resource.read resource.toList
      .ok { id with locator := .resource api resource }
  | _ => .error (.wrongKind id.canonical [.api] id.kind)

/-- The API that a resource stands under. -/
def owningApi (id : Identifier) : Except Failure Identifier :=
  match id.locator with
  | .resource api _ => .ok { id with locator := .api api }
  | _ => .error (.wrongKind id.canonical [.resource] id.kind)

end Signpost.Identifier
