import Signpost.Retry.Policy
import Signpost.Time.Instant

/-!
# Settings

Where the directory is, how its listing is fetched and cached, how a token for it is obtained, and
where the program listens.
-/

namespace Signpost

namespace Settings

structure Directory where
  url : String
  ttlSeconds : UInt64
  cleanupSeconds : UInt64
  attempts : UInt32
  delayMillis : UInt64
  maxDelayMillis : UInt64
  backoff : Retry.Backoff
  timeoutSeconds : UInt64
  singleFlight : Bool
  deriving DecidableEq, Repr

/-- A token that never changes, or what a token is requested with. -/
inductive Credentials where
  | fixed (token : String)
  | client (url id secret : String)
  deriving DecidableEq, Repr

structure Server where
  host : String
  port : UInt16
  deriving DecidableEq, Repr

end Settings

structure Settings where
  directory : Settings.Directory
  credentials : Settings.Credentials
  server : Settings.Server
  logLevel : String
  deriving DecidableEq, Repr

namespace Settings.Directory

/-- The lifetime of an entry, the longest span where the seconds exceed every span. -/
def ttl (d : Directory) : Time.Span :=
  (Time.Span.ofSeconds? d.ttlSeconds.toNat).getD .longest

/-- The policy of a fetch; its waits are always jittered. -/
def policy (d : Directory) : Retry.Policy :=
  ⟨d.attempts, .ofMillis d.delayMillis, .ofMillis d.maxDelayMillis, d.backoff, true⟩

end Settings.Directory

/-- The address that the program listens at. -/
def Settings.Server.address (s : Server) : String :=
  s.host ++ ":" ++ toString s.port.toNat

end Signpost
