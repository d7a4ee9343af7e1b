import Signpost.Settings.Basic
import Signpost.Text.Numeral

/-!
# Settings from variables

Settings are looked up by the names of variables in a fixed order; the first variable that is
missing or cannot be read is reported. A token variable makes the variables of a client idle.
-/

namespace Signpost.Settings

namespace Variable

def url := "DIRECTORY_URL"
def ttl := "DIRECTORY_CACHE_TTL_SECS"
def cleanup := "DIRECTORY_CACHE_CLEANUP_SECS"
def attempts := "DIRECTORY_RETRY_ATTEMPTS"
def delay := "DIRECTORY_RETRY_DELAY_MS"
def maxDelay := "DIRECTORY_RETRY_MAX_DELAY_MS"
def backoff := "DIRECTORY_RETRY_BACKOFF"
def timeout := "DIRECTORY_REQUEST_TIMEOUT_SECS"
def singleFlight := "DIRECTORY_SINGLE_FLIGHT"
def token := "DIRECTORY_ACCESS_TOKEN"
def tokenUrl := "ACCESS_TOKEN_URL"
def clientId := "CLIENT_ID"
def clientSecret := "CLIENT_SECRET"
def host := "SERVER_HOST"
def port := "SERVER_PORT"
def logLevel := "RUST_LOG"

end Variable

/-- Why variables give no settings. -/
inductive VariableFault where
  | missing (name : String)
  | missingCredentials
  | invalid (name raw : String)
  deriving DecidableEq, Repr

def VariableFault.message : VariableFault → String
  | .missing name => name ++ " is required"
  | .missingCredentials => "ACCESS_TOKEN_URL or DIRECTORY_ACCESS_TOKEN is required"
  | .invalid name raw => "Invalid value for " ++ name ++ ": '" ++ raw ++ "'"

/-! ### Typed values -/

/-- Digits with an optional plus sign in front, the number below a bound. -/
def natural? (bound : Nat) (cs : List Char) : Option Nat :=
  let digits := match cs with
    | '+' :: rest => rest
    | _ => cs
  (Decimal.read? digits).filter (· < bound)

def word64? (cs : List Char) : Option UInt64 :=
  (natural? UInt64.size cs).map UInt64.ofNat

def word32? (cs : List Char) : Option UInt32 :=
  (natural? UInt32.size cs).map UInt32.ofNat

def word16? (cs : List Char) : Option UInt16 :=
  (natural? UInt16.size cs).map UInt16.ofNat

def bool? (cs : List Char) : Option Bool :=
  if cs = "true".toList then some true
  else if cs = "false".toList then some false
  else none

def backoff? (cs : List Char) : Option Retry.Backoff :=
  (Retry.Backoff.parse (String.ofList cs)).toOption

/-! ### Looking up -/

abbrev Lookup := String → Option String

def required (lookup : Lookup) (name : String) (fault : VariableFault) :
    Except VariableFault String :=
  match lookup name with
  | some raw => .ok raw
  | none => .error fault

/-- A value that is read without the blanks around it, or a default. -/
def readOr {α : Type} (lookup : Lookup) (name : String) (read? : List Char → Option α)
    (default : α) : Except VariableFault α :=
  match lookup name with
  | none => .ok default
  | some raw =>
    match read? (Text.trim Text.isBlank raw.toList) with
    | some a => .ok a
    | none => .error (.invalid name raw)

def loadDirectory (lookup : Lookup) : Except VariableFault Directory := do
  let url ← required lookup Variable.url (.missing Variable.url)
  let ttlSeconds ← readOr lookup Variable.ttl word64? 36000
  let cleanupSeconds ← readOr lookup Variable.cleanup word64? 1800
  let attempts ← readOr lookup Variable.attempts word32? 3
  let delayMillis ← readOr lookup Variable.delay word64? 500
  let maxDelayMillis ← readOr lookup Variable.maxDelay word64? 10000
  let backoff ← readOr lookup Variable.backoff backoff? .exponential
  let timeoutSeconds ← readOr lookup Variable.timeout word64? 10
  let singleFlight ← readOr lookup Variable.singleFlight bool? true
  .ok
    { url, ttlSeconds, cleanupSeconds, attempts, delayMillis, maxDelayMillis, backoff,
      timeoutSeconds, singleFlight }

def loadCredentials (lookup : Lookup) : Except VariableFault Credentials :=
  match lookup Variable.token with
  | some token => .ok (.fixed token)
  | none => do
    let url ← required lookup Variable.tokenUrl .missingCredentials
    let id ← required lookup Variable.clientId (.missing Variable.clientId)
    let secret ← required lookup Variable.clientSecret (.missing Variable.clientSecret)
    .ok (.client url id secret)

def defaultHost : String := "0.0.0.0"

def defaultLogLevel : String := "service_directory=debug,tower_http=debug"

def load (lookup : Lookup) : Except VariableFault Settings := do
  let directory ← loadDirectory lookup
  let credentials ← loadCredentials lookup
  let host := (lookup Variable.host).getD defaultHost
  let port ← readOr lookup Variable.port word16? 3344
  let logLevel := (lookup Variable.logLevel).getD defaultLogLevel
  .ok { directory, credentials, server := ⟨host, port⟩, logLevel }

/-! ### Rendering -/

def Credentials.toVariables : Credentials → List (String × String)
  | .fixed token => [(Variable.token, token)]
  | .client url id secret =>
    [(Variable.tokenUrl, url), (Variable.clientId, id), (Variable.clientSecret, secret)]

/-- The variables that give these settings. -/
def toVariables (s : Settings) : List (String × String) :=
  [ (Variable.url, s.directory.url),
    (Variable.ttl, toString s.directory.ttlSeconds.toNat),
    (Variable.cleanup, toString s.directory.cleanupSeconds.toNat),
    (Variable.attempts, toString s.directory.attempts.toNat),
    (Variable.delay, toString s.directory.delayMillis.toNat),
    (Variable.maxDelay, toString s.directory.maxDelayMillis.toNat),
    (Variable.backoff, s.directory.backoff.name),
    (Variable.timeout, toString s.directory.timeoutSeconds.toNat),
    (Variable.singleFlight, toString s.directory.singleFlight) ] ++
    s.credentials.toVariables ++
    [ (Variable.host, s.server.host),
      (Variable.port, toString s.server.port.toNat),
      (Variable.logLevel, s.logLevel) ]

end Signpost.Settings
