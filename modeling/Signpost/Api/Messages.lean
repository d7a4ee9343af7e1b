import Signpost.Identifier.Json

/-!
# Bodies of answers

The records that the program answers with, in JSON.
-/

namespace Signpost.Api

open Json

structure ErrorBody where
  error : String
  message : String
  deriving DecidableEq, Repr

def ErrorBody.toJson (b : ErrorBody) : Value :=
  .ofFields [("error", .ofString b.error), ("message", .ofString b.message)]

def ErrorBody.ofJson? (value : Value) : Option ErrorBody := do
  match ← value.fields? ["error", "message"] with
  | [error, message] => some ⟨← error.text?, ← message.text?⟩
  | _ => none

structure Health where
  status : String
  version : String
  cachedEntries : UInt64
  deriving DecidableEq, Repr

def Health.toJson (h : Health) : Value :=
  .ofFields
    [ ("status", .ofString h.status), ("version", .ofString h.version),
      ("cachedEntries", .ofNat h.cachedEntries.toNat) ]

def Health.ofJson? (value : Value) : Option Health := do
  match ← value.fields? ["status", "version", "cachedEntries"] with
  | [status, version, cached] =>
    some ⟨← status.text?, ← version.text?, UInt64.ofNat (← cached.natural? UInt64.size)⟩
  | _ => none

structure Resolved where
  urn : String
  kind : Identifier.Kind
  url : String
  deriving DecidableEq, Repr

def Resolved.toJson (r : Resolved) : Value :=
  .ofFields
    [("urn", .ofString r.urn), ("kind", r.kind.toJson), ("url", .ofString r.url)]

def Resolved.ofJson? (value : Value) : Option Resolved := do
  match ← value.fields? ["urn", "kind", "url"] with
  | [urn, kind, url] => some ⟨← urn.text?, ← Identifier.Kind.ofJson? kind, ← url.text?⟩
  | _ => none

end Signpost.Api
