import Signpost.Identifier.Build
import Signpost.Json.Printer
import Signpost.Json.Reader
import Signpost.Json.Shape

/-!
# Identifiers in JSON

An identifier is the string of its text. Items of a list are read one by one, so that the first
item that is no identifier is reported even if the text goes on wrongly behind it.
-/

namespace Signpost

/-- Why a JSON text is not the value that was asked for. -/
inductive JsonFault where
  | shape
  | identifier (failure : Failure)
  deriving DecidableEq, Repr

namespace Identifier

def Kind.toJson (kind : Kind) : Json.Value :=
  .ofString kind.name

def Kind.ofJson? : Json.Value → Option Kind :=
  Json.Value.choice? (Kind.all.map fun kind => (kind.name, kind))

def toJson (id : Identifier) : Json.Value :=
  .ofString id.canonical

def ofJson (value : Json.Value) : Except JsonFault Identifier :=
  match value.text? with
  | none => .error .shape
  | some s => (parse s).mapError .identifier

/-- An identifier at the front of a text. -/
def readFront (cs : List Char) : Except JsonFault (Identifier × List Char) :=
  match Json.readFront cs with
  | none => .error .shape
  | some (value, rest) => (ofJson value).map fun id => (id, rest)

/-- Identifiers between commas up to the closing bracket. -/
def readItems : Nat → List Char → Except JsonFault (List Identifier × List Char)
  | 0, _ => .error .shape
  | fuel + 1, cs => do
    let (id, rest) ← readFront cs
    match Json.skipBlank rest with
    | ']' :: rest => .ok ([id], rest)
    | ',' :: rest => do
      let (ids, rest) ← readItems fuel rest
      .ok (id :: ids, rest)
    | _ => .error .shape

def readList (cs : List Char) : Except JsonFault (List Identifier × List Char) :=
  match Json.skipBlank cs with
  | '[' :: rest =>
    match Json.skipBlank rest with
    | ']' :: rest => .ok ([], rest)
    | rest => readItems (rest.length + 1) rest
  | _ => .error .shape

/-- What is read must leave nothing but blanks. -/
def whole {α : Type} (reading : Except JsonFault (α × List Char)) : Except JsonFault α := do
  let (a, rest) ← reading
  if (Json.skipBlank rest).isEmpty then .ok a else .error .shape

def parseJson (s : String) : Except JsonFault Identifier :=
  whole (readFront s.toList)

def parseJsonList (s : String) : Except JsonFault (List Identifier) :=
  whole (readList s.toList)

end Signpost.Identifier
