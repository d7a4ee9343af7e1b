import Signpost.Proofs.Execution
import Signpost.Retry.Run

/-! # The course of a run with retries

A run attempts an operation, and after a failed attempt it draws if its policy says so, waits and
attempts again, until an attempt succeeds or no further one is left. -/

namespace Signpost.Retry

variable {m : Type → Type} [Monad m] {S ε α : Type}

/-- The draw before a wait; a policy without jitter makes none. -/
def Policy.drawing (p : Policy) (s : Surroundings m) : m Nat :=
  if p.jitter then s.draw else pure 0

/-- An attempt that is not the last one. -/
theorem Policy.attemptFrom_succ (p : Policy) (s : Surroundings m) (f : Nat → m (Except ε α))
    (left n : Nat) :
    p.attemptFrom s f (left + 1) n = f n >>= fun
      | .ok a => pure (.ok a)
      | .error _ => p.drawing s >>= fun draw =>
        s.pause (p.waitAfter draw n) >>= fun _ => p.attemptFrom s f left (n + 1) := by
  rw [attemptFrom]
  congr 1
  funext outcome
  cases outcome with
  | ok a => rfl
  | error e => cases hj : p.jitter <;> simp only [drawing, hj] <;> rfl

/-- The attempts of a run from one number on: what they end with, and the states before and behind
them. -/
inductive Course (E : Execution m S) (p : Policy) (s : Surroundings m)
    (f : Nat → m (Except ε α)) : Nat → S → Except (Exhausted ε) α → S → Prop where
  | success {n w a w'} (hf : E.exec (f n) w = (.ok a, w')) : Course E p s f n w (.ok a) w'
  | exhaustion {w e w'} (hf : E.exec (f p.attempts) w = (.error e, w')) :
      Course E p s f p.attempts w (.error ⟨p.attempts, e⟩) w'
  | retry {n w e w₁ draw w₂ w₃ outcome w'} (hn : n < p.attempts)
      (hf : E.exec (f n) w = (.error e, w₁)) (hd : E.exec (p.drawing s) w₁ = (draw, w₂))
      (hp : E.exec (s.pause (p.waitAfter draw n)) w₂ = ((), w₃))
      (hc : Course E p s f (n + 1) w₃ outcome w') : Course E p s f n w outcome w'

/-- With as many attempts left as there are up to the last one, the attempts from a number on are a
course. -/
theorem Course.of_attemptFrom (E : Execution m S) (p : Policy) (s : Surroundings m)
    (f : Nat → m (Except ε α)) {left n : Nat} (hleft : n + left = p.attempts) (w : S) :
    Course E p s f n w (E.exec (p.attemptFrom s f left n) w).1
      (E.exec (p.attemptFrom s f left n) w).2 := by
  induction left generalizing n w with
  | zero =>
      obtain rfl : n = p.attempts := by omega
      obtain ⟨outcome, w', hf⟩ : ∃ outcome w', E.exec (f p.attempts) w = (outcome, w') :=
        ⟨_, _, rfl⟩
      rw [Policy.attemptFrom, E.exec_bind_eq hf]
      cases outcome with
      | ok a =>
          rw [E.exec_pure]
          exact .success hf
      | error e =>
          rw [E.exec_pure]
          exact .exhaustion hf
  | succ left ih =>
      obtain ⟨outcome, w₁, hf⟩ : ∃ outcome w₁, E.exec (f n) w = (outcome, w₁) := ⟨_, _, rfl⟩
      rw [Policy.attemptFrom_succ, E.exec_bind_eq hf]
      cases outcome with
      | ok a =>
          rw [E.exec_pure]
          exact .success hf
      | error e =>
          obtain ⟨draw, w₂, hd⟩ : ∃ draw w₂, E.exec (p.drawing s) w₁ = (draw, w₂) := ⟨_, _, rfl⟩
          obtain ⟨w₃, hp⟩ : ∃ w₃, E.exec (s.pause (p.waitAfter draw n)) w₂ = ((), w₃) :=
            ⟨_, rfl⟩
          rw [E.exec_bind_eq hd, E.exec_bind_eq hp]
          exact .retry (by omega) hf hd hp (ih (by omega) w₃)

theorem Course.of_run (E : Execution m S) (p : Policy) (s : Surroundings m)
    (f : Nat → m (Except ε α)) (w : S) :
    Course E p s f 1 w (E.exec (p.run s f) w).1 (E.exec (p.run s f) w).2 := by
  have hpos : 1 ≤ p.attempts := Nat.le_max_right _ _
  exact .of_attemptFrom E p s f (by omega) w

end Signpost.Retry
