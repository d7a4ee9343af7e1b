import Signpost.Retry.Policy

/-!
# Running with retries

An operation is attempted until it succeeds or the attempts are used up. After every failed attempt
but the last there is one wait.
-/

namespace Signpost.Retry

/-- All attempts failed, the last one with this error. -/
structure Exhausted (ε : Type) where
  attempts : Nat
  last : ε
  deriving DecidableEq, Repr

/-- What waiting and drawing at random mean where an operation runs. -/
structure Surroundings (m : Type → Type) where
  pause : Time.Delay → m Unit
  draw : m Nat

variable {m : Type → Type} [Monad m] {ε α : Type}

/-- Attempts from one number on, with as many left after it. -/
def Policy.attemptFrom (p : Policy) (s : Surroundings m) (f : Nat → m (Except ε α)) :
    Nat → Nat → m (Except (Exhausted ε) α)
  | 0, attempt => do
    match ← f attempt with
    | .ok a => pure (.ok a)
    | .error e => pure (.error ⟨attempt, e⟩)
  | left + 1, attempt => do
    match ← f attempt with
    | .ok a => pure (.ok a)
    | .error _ => do
      let draw ← if p.jitter then s.draw else pure 0
      s.pause (p.waitAfter draw attempt)
      p.attemptFrom s f left (attempt + 1)

def Policy.run (p : Policy) (s : Surroundings m) (f : Nat → m (Except ε α)) :
    m (Except (Exhausted ε) α) :=
  p.attemptFrom s f (p.attempts - 1) 1

end Signpost.Retry
