import Signpost.Text.Blank
import Signpost.Time.Delay

/-!
# Retry policies

How often an operation is attempted and how long to wait between attempts. The wait after attempt n
is the same each time or doubles from one attempt to the next, never more than a maximum; a jittered
wait is drawn from its upper half in whole milliseconds.
-/

namespace Signpost.Retry

open Time

inductive Backoff where
  | fixed
  | exponential
  deriving DecidableEq, Repr

def Backoff.name : Backoff → String
  | .fixed => "fixed"
  | .exponential => "exponential"

/-- A name that is no backoff, trimmed and in lower case. -/
structure UnknownBackoff where
  name : String
  deriving DecidableEq, Repr

def UnknownBackoff.message (u : UnknownBackoff) : String :=
  "unknown backoff '" ++ u.name ++ "'"

/-- The backoff of a name in any case, with blanks around it. -/
def Backoff.parse (s : String) : Except UnknownBackoff Backoff :=
  let name := String.ofList ((Text.trim Text.isBlank s.toList).map Char.toLower)
  if name = "fixed" then .ok .fixed
  else if name = "exponential" then .ok .exponential
  else .error ⟨name⟩

structure Policy where
  maxAttempts : UInt32
  initialDelay : Delay
  maxDelay : Delay
  backoff : Backoff
  jitter : Bool
  deriving DecidableEq, Repr

namespace Policy

def standard : Policy :=
  ⟨3, .ofMillis 500, .ofSeconds 10, .exponential, true⟩

/-- One attempt and no more. -/
def once : Policy :=
  { standard with maxAttempts := 1 }

/-- The number of attempts; there is always a first one. -/
def attempts (p : Policy) : Nat :=
  max p.maxAttempts.toNat 1

/-- How often the delay has doubled after an attempt, as a 32-bit factor that stops growing at its
largest value. -/
def factor (attempt : Nat) : Nat :=
  if 32 < attempt then 4294967295 else Nat.pow 2 (attempt - 1)

/-- The wait after a failed attempt, the first of which is attempt 1. -/
def delayFor (p : Policy) (attempt : Nat) : Delay :=
  let base := match p.backoff with
    | .fixed => p.initialDelay
    | .exponential => p.initialDelay.scale (factor attempt)
  base.min p.maxDelay

/-- A wait in whole milliseconds between half of a delay and all of it, taken at a draw. Both ends
are those of the 64-bit milliseconds: a delay that has more is drawn from what is left of it. -/
def jittered (draw : Nat) (d : Delay) : Delay :=
  if d.ns = 0 then d
  else
    let millis := d.millis64
    let low := millis / 2
    .ofMillis (low + .ofNat (draw % (millis.toNat - low.toNat + 1)))

/-- Whether a wait lies in the range that it was drawn from. -/
def isInRange (d wait : Delay) : Bool :=
  let millis := d.millis64
  (Delay.ofMillis (millis / 2)).ns ≤ wait.ns && wait.ns ≤ (Delay.ofMillis millis).ns

/-- The wait after a failed attempt at a draw. -/
def waitAfter (p : Policy) (draw : Nat) (attempt : Nat) : Delay :=
  if p.jitter then jittered draw (p.delayFor attempt) else p.delayFor attempt

end Signpost.Retry.Policy
