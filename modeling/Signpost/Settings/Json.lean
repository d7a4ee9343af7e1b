import Signpost.Json.Printer
import Signpost.Json.Reader
import Signpost.Json.Shape
import Signpost.Settings.Basic

/-!
# Settings in JSON

Credentials carry the name of their form in the field `type`. They are held whole before they are
read, so no part of them may be nested deeper than the reader holds.
-/

namespace Signpost

open Json

def Retry.Backoff.toJson (backoff : Backoff) : Value :=
  .ofString backoff.name

def Retry.Backoff.ofJson? : Value → Option Backoff :=
  Value.choice? [("fixed", .fixed), ("exponential", .exponential)]

namespace Settings

/-- The nesting that is held. -/
def maxNesting : Nat := 127

def Credentials.toJson : Credentials → Value
  | .fixed token => .ofFields [("type", .ofString "Static"), ("token", .ofString token)]
  | .client url id secret =>
    .ofFields
      [ ("type", .ofString "ClientCredentials"), ("token_url", .ofString url),
        ("client_id", .ofString id), ("client_secret", .ofString secret) ]

def Credentials.tokenOfFields? : List Value → Option Credentials
  | [token] => do some (.fixed (← token.text?))
  | _ => none

def Credentials.clientOfFields? : List Value → Option Credentials
  | [url, id, secret] => do some (.client (← url.text?) (← id.text?) (← secret.text?))
  | _ => none

/-- Credentials inside a number of other values. -/
def Credentials.ofJsonWithin? (depth : Nat) (value : Value) : Option Credentials :=
  if value.isHeld (maxNesting - depth) then
    value.tagged? "type"
      [ ("Static", ["token"], Credentials.tokenOfFields?),
        ("ClientCredentials", ["token_url", "client_id", "client_secret"],
          Credentials.clientOfFields?) ]
  else none

def Credentials.ofJson? : Value → Option Credentials :=
  Credentials.ofJsonWithin? 0

def Directory.toJson (d : Directory) : Value :=
  .ofFields
    [ ("directory_url", .ofString d.url),
      ("cache_ttl_secs", .ofNat d.ttlSeconds.toNat),
      ("cache_cleanup_secs", .ofNat d.cleanupSeconds.toNat),
      ("retry_attempts", .ofNat d.attempts.toNat),
      ("retry_delay_ms", .ofNat d.delayMillis.toNat),
      ("retry_max_delay_ms", .ofNat d.maxDelayMillis.toNat),
      ("retry_backoff", d.backoff.toJson),
      ("request_timeout_secs", .ofNat d.timeoutSeconds.toNat),
      ("single_flight", .bool d.singleFlight) ]

def word64OfJson? (value : Value) : Option UInt64 :=
  (value.natural? UInt64.size).map UInt64.ofNat

def word32OfJson? (value : Value) : Option UInt32 :=
  (value.natural? UInt32.size).map UInt32.ofNat

def word16OfJson? (value : Value) : Option UInt16 :=
  (value.natural? UInt16.size).map UInt16.ofNat

def Directory.ofJson? (value : Value) : Option Directory := do
  let names :=
    [ "directory_url", "cache_ttl_secs", "cache_cleanup_secs", "retry_attempts",
      "retry_delay_ms", "retry_max_delay_ms", "retry_backoff", "request_timeout_secs",
      "single_flight" ]
  match ← value.fields? names with
  | [url, ttl, cleanup, attempts, delay, maxDelay, backoff, timeout, singleFlight] =>
    some
      { url := ← url.text?
        ttlSeconds := ← word64OfJson? ttl
        cleanupSeconds := ← word64OfJson? cleanup
        attempts := ← word32OfJson? attempts
        delayMillis := ← word64OfJson? delay
        maxDelayMillis := ← word64OfJson? maxDelay
        backoff := ← Retry.Backoff.ofJson? backoff
        timeoutSeconds := ← word64OfJson? timeout
        singleFlight := ← singleFlight.bool? }
  | _ => none

def Server.toJson (s : Server) : Value :=
  .ofFields [("host", .ofString s.host), ("port", .ofNat s.port.toNat)]

def Server.ofJson? (value : Value) : Option Server := do
  match ← value.fields? ["host", "port"] with
  | [host, port] => some ⟨← host.text?, ← word16OfJson? port⟩
  | _ => none

def toJson (s : Settings) : Value :=
  .ofFields
    [ ("directory", s.directory.toJson), ("token", s.credentials.toJson),
      ("server", s.server.toJson),
      ("logging", .ofFields [("level", .ofString s.logLevel)]) ]

def ofJson? (value : Value) : Option Settings := do
  match ← value.fields? ["directory", "token", "server", "logging"] with
  | [directory, credentials, server, logging] =>
    let directory ← Directory.ofJson? directory
    let credentials ← Credentials.ofJsonWithin? 1 credentials
    let server ← Server.ofJson? server
    match ← logging.fields? ["level"] with
    | [level] => some { directory, credentials, server, logLevel := ← level.text? }
    | _ => none
  | _ => none

end Signpost.Settings
