import Signpost.Failure.Basic
import Signpost.Settings.Basic
import Signpost.Url.Parser

/-!
# Checking settings

Settings are checked before the program uses them. Each field has its own rule, and all that break
their rules are found at once; after that the fields are checked against one another.
-/

namespace Signpost.Settings

/-- The rule of one field. -/
inductive Rule where
  | url
  | range (min : Option Nat) (max : Option Nat)
  | length (min : Nat)
  deriving DecidableEq, Repr

def Rule.code : Rule → String
  | .url => "url"
  | .range _ _ => "range"
  | .length _ => "length"

inductive FieldValue where
  | text (s : String)
  | number (n : Nat)
  deriving DecidableEq, Repr

def Rule.holds : Rule → FieldValue → Bool
  | .url, .text s => (Url.parse s).toOption.isSome
  | .range min max, .number n => min.all (· ≤ n) && max.all (n ≤ ·)
  | .length min, .text s => min ≤ s.length
  | _, _ => true

structure Field where
  path : String
  rule : Rule
  value : FieldValue
  deriving DecidableEq, Repr

/-- The fields that have a rule, by their paths. -/
def fields (s : Settings) : List Field :=
  [ ⟨"directory.cache_cleanup_secs", .range (some 1) none,
      .number s.directory.cleanupSeconds.toNat⟩,
    ⟨"directory.cache_ttl_secs", .range (some 1) (some 31536000),
      .number s.directory.ttlSeconds.toNat⟩,
    ⟨"directory.directory_url", .url, .text s.directory.url⟩,
    ⟨"directory.request_timeout_secs", .range (some 1) (some 600),
      .number s.directory.timeoutSeconds.toNat⟩,
    ⟨"directory.retry_attempts", .range (some 1) (some 20),
      .number s.directory.attempts.toNat⟩,
    ⟨"server.host", .length 1, .text s.server.host⟩ ]

/-- The fields that break their rules. -/
def violations (s : Settings) : List Field :=
  s.fields.filter fun field => !field.rule.holds field.value

/-- Why settings are refused. -/
inductive Refusal where
  | violations (fields : List Field)
  | invertedDelays
  | blankToken
  | invalidTokenUrl (url : String)
  deriving DecidableEq, Repr

def Refusal.message : Refusal → String
  | .violations fields =>
    "\n".intercalate (fields.map fun field => field.path ++ ": " ++ field.rule.code)
  | .invertedDelays =>
    "DIRECTORY_RETRY_MAX_DELAY_MS must not be less than DIRECTORY_RETRY_DELAY_MS"
  | .blankToken => "DIRECTORY_ACCESS_TOKEN cannot be empty"
  | .invalidTokenUrl url => "ACCESS_TOKEN_URL is not a valid URL: " ++ url

def checkCredentials : Credentials → Except Refusal Unit
  | .fixed token =>
    if token.toList.all Text.isBlank then .error .blankToken else .ok ()
  | .client url _ _ =>
    if (Url.parse url).toOption.isNone then .error (.invalidTokenUrl url) else .ok ()

def check (s : Settings) : Except Refusal Unit := do
  if s.violations.isEmpty then
    if s.directory.maxDelayMillis < s.directory.delayMillis then .error .invertedDelays
    else checkCredentials s.credentials
  else .error (.violations s.violations)

def Refusal.failure (refusal : Refusal) : Failure :=
  .config refusal.message

end Signpost.Settings
