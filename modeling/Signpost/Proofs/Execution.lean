/-! # Executions

A program of a monad with a state can be carried out: from a state it gives a value and the state
that it leaves. An execution says how, and that programs are carried out one step after the
other. -/

namespace Signpost

structure Execution (m : Type → Type) [Monad m] (S : Type) where
  exec {α : Type} : m α → S → α × S
  exec_pure {α : Type} (a : α) (w : S) : exec (pure a) w = (a, w)
  exec_bind {α β : Type} (x : m α) (f : α → m β) (w : S) :
    exec (x >>= f) w = exec (f (exec x w).1) (exec x w).2

namespace Execution

variable {m : Type → Type} [Monad m] {S : Type}

/-- Programs that only have a state. -/
def ofState (σ : Type) : Execution (StateM σ) σ where
  exec x w := x.run w
  exec_pure _ _ := rfl
  exec_bind _ _ _ := rfl

/-- A state beside that of other programs. -/
def withState (E : Execution m S) (A : Type) : Execution (StateT A m) (A × S) where
  exec x w :=
    let ((value, a), w) := E.exec (x.run w.1) w.2
    (value, (a, w))
  exec_pure a w := by simp [E.exec_pure]
  exec_bind x f w := by simp [E.exec_bind]

theorem exec_bind_eq (E : Execution m S) {α β : Type} {x : m α} {f : α → m β} {w w' : S} {a : α}
    (h : E.exec x w = (a, w')) : E.exec (x >>= f) w = E.exec (f a) w' := by
  rw [E.exec_bind, h]

@[simp] theorem exec_lift (E : Execution m S) {A α : Type} (x : m α) (a : A) (w : S) :
    (E.withState A).exec (StateT.lift x) (a, w) = ((E.exec x w).1, (a, (E.exec x w).2)) := by
  simp [withState, StateT.lift, StateT.run, E.exec_bind, E.exec_pure]

end Signpost.Execution
