/-!
# Delays

A delay is a time to wait, of up to 2⁶⁴ - 1 seconds and 999999999 nanoseconds. Arithmetic that would
leave this range stops at its end.
-/

namespace Signpost.Time

def maxDelayNs : Nat := 18446744073709551615 * 1000000000 + 999999999

structure Delay where
  ns : Nat
  le_max : ns ≤ maxDelayNs
  deriving DecidableEq, Repr

namespace Delay

/-- The delay of a number of nanoseconds, the longest where there is none. -/
def ofNs (ns : Nat) : Delay :=
  ⟨min ns maxDelayNs, by omega⟩

def zero : Delay :=
  ⟨0, by decide⟩

def ofMillis (ms : UInt64) : Delay :=
  ⟨ms.toNat * 1000000, by have := ms.toNat_lt; unfold maxDelayNs; omega⟩

def ofSeconds (s : UInt64) : Delay :=
  ⟨s.toNat * 1000000000, by have := s.toNat_lt; unfold maxDelayNs; omega⟩

/-- A delay a number of times. -/
def scale (d : Delay) (factor : Nat) : Delay :=
  ofNs (d.ns * factor)

protected def min (a b : Delay) : Delay :=
  if a.ns ≤ b.ns then a else b

/-- How long a sleep lasts at most: thirty years of 365 days. -/
def longestSleep : Delay :=
  ofSeconds 946080000

/-- The time that a sleep of a delay takes. -/
def slept (d : Delay) : Delay :=
  d.min longestSleep

/-- The whole milliseconds of a delay. -/
def toMillis (d : Delay) : Nat :=
  d.ns / 1000000

/-- The whole milliseconds of a delay as a 64-bit number, which keeps the lower 64 bits of them. -/
def millis64 (d : Delay) : UInt64 :=
  .ofNat d.toMillis

/-- The milliseconds after which a delay is over. -/
def ceilMillis (d : Delay) : Nat :=
  (d.ns + 999999) / 1000000

end Signpost.Time.Delay
