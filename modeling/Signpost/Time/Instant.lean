/-!
# Instants and spans

An instant counts nanoseconds from the start of 1970 within the years -262143 to 262142, and a span
is a number of nanoseconds of up to 2⁶³ - 1 milliseconds either way. Adding a span to an instant
fails where no instant is left.
-/

namespace Signpost.Time

/-- The first nanosecond of the year -262143. -/
def earliestNs : Int := -8334601228800 * 1000000000

/-- The last nanosecond of the year 262142. -/
def latestNs : Int := 8210266876800 * 1000000000 - 1

structure Instant where
  ns : Int
  earliest_le : earliestNs ≤ ns
  le_latest : ns ≤ latestNs
  deriving DecidableEq, Repr

/-- The largest number of milliseconds in a span. -/
def maxSpanMs : Int := 9223372036854775807

structure Span where
  ns : Int
  min_le : -(maxSpanMs * 1000000) ≤ ns
  le_max : ns ≤ maxSpanMs * 1000000
  deriving DecidableEq, Repr

def Instant.ofNs? (ns : Int) : Option Instant :=
  if h : earliestNs ≤ ns ∧ ns ≤ latestNs then some ⟨ns, h.1, h.2⟩ else none

theorem Instant.ofNs?_eq_some_iff {ns : Int} {t : Instant} : ofNs? ns = some t ↔ t.ns = ns := by
  unfold ofNs?
  split
  · rw [Option.some.injEq]
    exact ⟨fun h => h ▸ rfl, fun h => by subst h; rfl⟩
  · next hr => exact iff_of_false (by simp) fun h => hr (h ▸ ⟨t.earliest_le, t.le_latest⟩)

def Instant.latest : Instant :=
  ⟨latestNs, by decide, by decide⟩

def Instant.epoch : Instant :=
  ⟨0, by decide, by decide⟩

/-- The instant of a number of milliseconds, the nearest end where there is none. -/
def Instant.ofMillis (ms : Int) : Instant :=
  ⟨max earliestNs (min latestNs (ms * 1000000)), by omega, by
    have : earliestNs ≤ latestNs := by decide
    omega⟩

/-- The moment a span later. -/
def Instant.add? (t : Instant) (d : Span) : Option Instant :=
  Instant.ofNs? (t.ns + d.ns)

instance : LT Instant where
  lt a b := a.ns < b.ns

instance : LE Instant where
  le a b := a.ns ≤ b.ns

instance (a b : Instant) : Decidable (a < b) :=
  inferInstanceAs (Decidable (a.ns < b.ns))

instance (a b : Instant) : Decidable (a ≤ b) :=
  inferInstanceAs (Decidable (a.ns ≤ b.ns))

def Span.ofNs? (ns : Int) : Option Span :=
  if h : -(maxSpanMs * 1000000) ≤ ns ∧ ns ≤ maxSpanMs * 1000000 then some ⟨ns, h.1, h.2⟩
  else none

theorem Span.ofNs?_eq_some_iff {ns : Int} {d : Span} : ofNs? ns = some d ↔ d.ns = ns := by
  unfold ofNs?
  split
  · rw [Option.some.injEq]
    exact ⟨fun h => h ▸ rfl, fun h => by subst h; rfl⟩
  · next hr => exact iff_of_false (by simp) fun h => hr (h ▸ ⟨d.min_le, d.le_max⟩)

def Span.ofMillis? (ms : Int) : Option Span :=
  Span.ofNs? (ms * 1000000)

def Span.ofSeconds? (s : Int) : Option Span :=
  Span.ofNs? (s * 1000000000)

def Span.longest : Span :=
  ⟨maxSpanMs * 1000000, by decide, by decide⟩

/-- Ten hours. -/
def Span.tenHours : Span :=
  ⟨36000 * 1000000000, by decide, by decide⟩

/-- The whole milliseconds of a span. -/
def Span.toMillis (d : Span) : Int :=
  d.ns.tdiv 1000000

end Signpost.Time
