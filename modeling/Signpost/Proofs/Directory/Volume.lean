import Mathlib.Algebra.Order.BigOperators.Group.List
import Mathlib.Algebra.Order.Ring.Nat
import Signpost.Proofs.Directory.Counting

/-! # How much a run counts

A step adds at most two to all counters together, except that the end of a fetch adds what its
report brings. So 64 bits hold every counter of a run that brings less than 2⁶⁴ in all. -/

namespace Signpost

/-! ## All counters together -/

namespace Tally

/-- What is only counted up; the size of the cache is not. -/
def counters (t : Tally) : List Nat :=
  [t.hits, t.misses, t.failedAttempts, t.successfulAttempts, t.dropped, t.resolutions.hit,
    t.resolutions.refreshed, t.resolutions.notFound, t.resolutions.error, t.failedWarmups,
    t.successfulWarmups, t.cleanups]

def counted (t : Tally) : Nat :=
  t.counters.sum

@[simp] theorem counted_setSize (t : Tally) (size : Nat) : (t.setSize size).counted = t.counted :=
  rfl

@[simp] theorem counted_countHit (t : Tally) : t.countHit.counted = t.counted + 1 := by
  simp only [counted, counters, countHit, List.sum_cons, List.sum_nil]
  omega

@[simp] theorem counted_countMiss (t : Tally) : t.countMiss.counted = t.counted + 1 := by
  simp only [counted, counters, countMiss, List.sum_cons, List.sum_nil]
  omega

@[simp] theorem counted_countResolution (t : Tally) (outcome : Outcome) :
    (t.countResolution outcome).counted = t.counted + 1 := by
  cases outcome <;>
    simp only [counted, counters, countResolution, Resolutions.count, List.sum_cons,
      List.sum_nil] <;>
    omega

@[simp] theorem counted_countFetch (t : Tally) (failed successful dropped : Nat) :
    (t.countFetch failed successful dropped).counted =
      t.counted + (failed + successful + dropped) := by
  simp only [counted, counters, countFetch, List.sum_cons, List.sum_nil]
  omega

end Tally

namespace Directory

open Listing (Report)

namespace Hub

def counters (hub : Hub) : List Nat :=
  hub.generation :: hub.fetches :: hub.shelf.tally.counters

def counted (hub : Hub) : Nat :=
  hub.counters.sum

theorem counted_eq (hub : Hub) :
    hub.counted = hub.generation + hub.fetches + hub.shelf.tally.counted := by
  rw [counted, counters, List.sum_cons, List.sum_cons, Tally.counted, Nat.add_assoc]

theorem counted_countAny_le (hub : Hub) (outcome : Option Outcome) :
    (hub.countAny outcome).counted ≤ hub.counted + 1 := by
  cases outcome with
  | none => exact Nat.le_add_right _ _
  | some outcome => simp [counted_eq, countAny, countResolution, Nat.add_assoc]

theorem counted_found_le (hub : Hub) (task : Task) (round : Round) (url : Option Url) :
    (hub.found task round url).1.counted ≤ hub.counted + 1 := by
  rw [found_eq hub task round .epoch url .dropped]
  exact counted_countAny_le hub _

theorem counted_conclude_le (hub : Hub) (now : Time.Instant) (task : Task)
    (outcome : Except Failure Nat) :
    (hub.conclude now task outcome).1.counted ≤ hub.counted + 1 := by
  have hshared : Deed.isConclusion .shared = true := rfl
  rw [conclude_eq hshared]
  exact counted_countAny_le hub _

end Hub

/-! ## Steps -/

/-- What an event can add to all counters together. -/
def Event.brings : Event → Nat
  | .arrive _ _ report => report.failedAttempts + report.successfulAttempts + report.dropped
  | _ => 2

theorem Hub.counted_settle_le (hub : Hub) (task : Task) (round : Round) (stamp : Time.Instant) :
    (hub.settle task round stamp).1.counted ≤ hub.counted + 2 := by
  unfold settle Shelf.settle
  cases hub.shelf.cache.peek (lookupKey task) stamp with
  | fresh url =>
      refine (counted_found_le _ _ _ _).trans ?_
      simp [counted_eq, Nat.add_assoc]
  | absent =>
      refine (counted_found_le _ _ _ _).trans ?_
      simp [counted_eq, Nat.add_assoc]
  | expired =>
      refine (counted_found_le _ _ _ _).trans ?_
      simp [counted_eq, Shelf.replace, Nat.add_assoc]

/-- A call that acts by itself counts at most two things, a refresh and how a resolution ended, or a
look-up and that. -/
theorem Hub.counted_advance_le {hub hub' : Hub} {me : Nat} {now : Time.Instant} {task : Task}
    {stage stage' : Stage} (h : hub.advance me now task stage = some (hub', stage')) :
    hub'.counted ≤ hub.counted + 2 := by
  obtain ⟨deed, -, ha⟩ := Act.of_advance h
  cases ha with
  | fresh | absent =>
      refine (counted_found_le _ _ _ _).trans ?_
      simp [counted_eq, withTally, Nat.add_assoc]
  | settle => exact hub.counted_settle_le task _ _
  | fetchAlone | enter =>
      simp only [counted_eq]
      omega
  | share =>
      rw [share_eq]
      exact (counted_conclude_le _ _ _ _).trans (Nat.le_succ _)
  | publish =>
      refine (counted_conclude_le _ _ _ _).trans ?_
      simp only [counted_eq, Hub.publish]
      omega
  | conclude => exact (counted_conclude_le _ _ _ _).trans (Nat.le_succ _)
  | arrive => cases h
  | _ => exact Nat.le_add_right _ _

theorem Hub.counted_arrive (hub : Hub) (now : Time.Instant) (gated : Bool) (report : Report) :
    (hub.arrive now gated report).1.counted =
      hub.counted + (report.failedAttempts + report.successfulAttempts + report.dropped) := by
  unfold arrive
  cases report.outcome <;> simp [counted_eq, Nat.add_assoc]

namespace World

theorem counted_step_le {w w' : World} {e : Event} (h : w.step? e = some w') :
    w'.hub.counted ≤ w.hub.counted + e.brings := by
  cases e with
  | begin task =>
      obtain rfl := Option.some.inj h
      exact Nat.le_add_right _ _
  | advance i now =>
      obtain ⟨call, -, h⟩ := Option.bind_eq_some_iff.mp h
      obtain ⟨next, ha, h⟩ := Option.bind_eq_some_iff.mp h
      obtain rfl := Option.some.inj h
      exact Hub.counted_advance_le ha
  | arrive i now report =>
      obtain ⟨⟨task, stage⟩, -, h⟩ := Option.bind_eq_some_iff.mp h
      cases stage with
      | fetching gated ticket =>
          obtain rfl := Option.some.inj h
          exact (w.hub.counted_arrive now gated report).le
      | _ => cases h
  | drop i =>
      obtain ⟨call, -, h⟩ := Option.bind_eq_some_iff.mp h
      split at h
      next =>
        obtain rfl := Option.some.inj h
        exact Nat.le_add_right _ _
      next => cases h

/-! ## Runs -/

theorem counted_run_le {w w' : World} {events : List Event} (hr : w.run? events = some w') :
    w'.hub.counted ≤ w.hub.counted + (events.map Event.brings).sum := by
  induction events generalizing w with
  | nil =>
      obtain rfl := Option.some.inj hr
      exact Nat.le_refl _
  | cons e events ih =>
      obtain ⟨next, hs, hr⟩ := Option.bind_eq_some_iff.mp hr
      have hstep := counted_step_le hs
      have hrest := ih hr
      rw [List.map_cons, List.sum_cons]
      omega

/-- No counter of a run needs more than 64 bits as long as its events bring less than 2⁶⁴ in all. -/
theorem counter_lt_of_run {w w' : World} {events : List Event} (hr : w.run? events = some w')
    (hfits : w.hub.counted + (events.map Event.brings).sum < 2 ^ 64) :
    ∀ counter ∈ w'.hub.counters, counter < 2 ^ 64 := by
  intro counter hcounter
  calc counter ≤ w'.hub.counted := List.le_sum_of_mem hcounter
    _ ≤ w.hub.counted + (events.map Event.brings).sum := counted_run_le hr
    _ < 2 ^ 64 := hfits

end World

end Directory

end Signpost
