import Signpost.Proofs.Directory.Refresh
import Signpost.Sidecar.Session

/-! # What a session runs

Whatever a session does to its world is a run of events, beside which its background jobs count
their own work. No call reads or writes what they count, so that the run is the one that there
would be without them. -/

namespace Signpost

/-! ## Counting beside a run -/

/-- A change of counters that those of calls neither see nor disturb. -/
structure Tally.IsAside (f : Tally → Tally) : Prop where
  countHit : ∀ t, f t.countHit = (f t).countHit
  countMiss : ∀ t, f t.countMiss = (f t).countMiss
  setSize : ∀ t size, f (t.setSize size) = (f t).setSize size
  countResolution : ∀ t outcome, f (t.countResolution outcome) = (f t).countResolution outcome
  countFetch : ∀ t failed successful dropped,
    f (t.countFetch failed successful dropped) = (f t).countFetch failed successful dropped

namespace Tally

theorem isAside_id : IsAside id :=
  ⟨fun _ => rfl, fun _ => rfl, fun _ _ => rfl, fun _ _ => rfl, fun _ _ _ _ => rfl⟩

theorem IsAside.comp {f g : Tally → Tally} (hg : IsAside g) (hf : IsAside f) :
    IsAside (g ∘ f) := by
  constructor <;> intros <;>
    simp [hf.countHit, hf.countMiss, hf.setSize, hf.countResolution, hf.countFetch, hg.countHit,
      hg.countMiss, hg.setSize, hg.countResolution, hg.countFetch]

theorem isAside_countWarmup (success : Bool) : IsAside (·.countWarmup success) := by
  cases success <;>
    exact ⟨fun _ => rfl, fun _ => rfl, fun _ _ => rfl, fun _ _ => rfl, fun _ _ _ _ => rfl⟩

theorem isAside_cleanups (count : Nat) :
    IsAside fun t => { t with cleanups := t.cleanups + count } :=
  ⟨fun _ => rfl, fun _ => rfl, fun _ _ => rfl, fun _ _ => rfl, fun _ _ _ _ => rfl⟩

end Tally

namespace Directory

namespace Hub

variable {f : Tally → Tally} (hf : Tally.IsAside f)

/-- The hub with other counters. -/
def count (hub : Hub) (f : Tally → Tally) : Hub :=
  hub.withTally (f hub.shelf.tally)

/-- What was counted aside before a step is so after it. -/
def countNext (f : Tally → Tally) (next : Hub × Stage) : Hub × Stage :=
  (next.1.count f, next.2)

include hf

theorem found_count (hub : Hub) (task : Task) (round : Round) (url : Option Url) :
    (hub.count f).found task round url = countNext f (hub.found task round url) := by
  cases ht : task.resolution? <;> cases round <;> cases url <;>
    simp [found, ht, countNext, count, withTally, countResolution, hf.countResolution]

theorem conclude_count (hub : Hub) (now : Time.Instant) (task : Task)
    (outcome : Except Failure Nat) :
    (hub.count f).conclude now task outcome = countNext f (hub.conclude now task outcome) := by
  cases ht : task.resolution? <;> cases outcome <;>
    simp [conclude, ht, countNext, count, withTally, countResolution, hf.countResolution]

theorem start_count (hub : Hub) (now : Time.Instant) (task : Task) :
    (hub.count f).start now task = countNext f (hub.start now task) := by
  cases task with
  | resolve id | resolveService id | resolveResource id =>
      simp only [start, Task.resolution?]
      split <;> rfl
  | invalidate id =>
      simp [start, Task.resolution?, Shelf.invalidate, Shelf.replace, countNext, count, withTally,
        hf.setSize]
  | clear =>
      simp [start, Task.resolution?, Shelf.clear, Shelf.replace, countNext, count, withTally,
        hf.setSize]
  | _ => rfl

theorem peek_count (hub : Hub) (task : Task) (round : Round) (stamp : Time.Instant) :
    (hub.count f).peek task round stamp = countNext f (hub.peek task round stamp) := by
  have hcache : (hub.count f).shelf.cache = hub.shelf.cache := rfl
  unfold peek Shelf.peek
  rw [hcache]
  cases hub.shelf.cache.peek (lookupKey task) stamp with
  | fresh url =>
      rw [← found_count hf]
      simp [count, withTally, hf.countHit]
  | absent =>
      rw [← found_count hf]
      simp [count, withTally, hf.countMiss]
  | expired => rfl

theorem settle_count (hub : Hub) (task : Task) (round : Round) (stamp : Time.Instant) :
    (hub.count f).settle task round stamp = countNext f (hub.settle task round stamp) := by
  have hcache : (hub.count f).shelf.cache = hub.shelf.cache := rfl
  unfold settle Shelf.settle
  rw [hcache]
  cases hub.shelf.cache.peek (lookupKey task) stamp with
  | fresh url =>
      rw [← found_count hf]
      simp [count, withTally, hf.countHit]
  | absent =>
      rw [← found_count hf]
      simp [count, withTally, hf.countMiss]
  | expired =>
      rw [← found_count hf]
      simp [count, withTally, Shelf.replace, hf.countMiss, hf.setSize]

theorem enter_count (hub : Hub) (me : Nat) (now : Time.Instant) (task : Task) (seen : Option Nat) :
    (hub.count f).enter me now task seen = countNext f (hub.enter me now task seen) := by
  have hgeneration : (hub.count f).generation = hub.generation := rfl
  unfold enter
  simp only [hgeneration]
  split
  · rfl
  · rw [share_eq, share_eq]
    exact conclude_count hf { hub with queue := hub.queue.tail } now task
      (sharedOutcome hub.lastFailure)

theorem write_count (hub : Hub) (task : Task) (stamp : Time.Instant) :
    (hub.count f).write task stamp = countNext f (hub.write task stamp) := by
  cases task <;>
    simp [write, Shelf.put, Shelf.sweep, Shelf.replace, countNext, count, withTally, hf.setSize]

theorem arrive_count (hub : Hub) (now : Time.Instant) (gated : Bool) (report : Listing.Report) :
    (hub.count f).arrive now gated report = countNext f (hub.arrive now gated report) := by
  unfold arrive
  cases report.outcome <;> simp [countNext, count, withTally, hf.countFetch]

theorem advance_count (hub : Hub) (me : Nat) (now : Time.Instant) (task : Task) (stage : Stage) :
    (hub.count f).advance me now task stage =
      (hub.advance me now task stage).map (countNext f) := by
  cases stage with
  | ready => exact congrArg some (start_count hf hub now task)
  | peeking round stamp => exact congrArg some (peek_count hf hub task round stamp)
  | settling round stamp => exact congrArg some (settle_count hf hub task round stamp)
  | missed =>
      unfold advance observe
      by_cases hs : hub.singleFlight = true <;> simp [hs, count, countNext, withTally, startFetch]
  | joining seen => rfl
  | queued seen =>
      have hadmits : (hub.count f).admits me = hub.admits me := rfl
      simp only [advance, hadmits]
      split
      · exact congrArg some (enter_count hf hub me now task seen)
      · rfl
  | fetching gated ticket => rfl
  | storing gated entries stamp =>
      simp [advance, store, Shelf.putAll, Shelf.replace, countNext, count, withTally, hf.setSize]
  | publishing gated outcome =>
      refine congrArg some ?_
      cases gated with
      | true => exact conclude_count hf (hub.publish outcome) now task outcome
      | false => exact conclude_count hf hub now task outcome
  | writing stamp => exact congrArg some (write_count hf hub task stamp)
  | done answer => rfl
  | dropped => rfl

end Hub

namespace World

variable {f : Tally → Tally} (hf : Tally.IsAside f)

theorem count_hub (w : World) (f : Tally → Tally) : (w.count f).hub = w.hub.count f :=
  rfl

theorem update_count (w : World) (i : Nat) (call : Call) (next : Hub × Stage) (f : Tally → Tally) :
    (w.count f).update i call (Hub.countNext f next) = (w.update i call next).count f :=
  rfl

theorem drop?_count (w : World) (i : Nat) (f : Tally → Tally) :
    (w.count f).drop? i = (w.drop? i).map (·.count f) := by
  have hcalls : (w.count f).calls = w.calls := rfl
  unfold drop?
  rw [hcalls]
  cases w.calls[i]? with
  | none => rfl
  | some call =>
      simp only [Option.bind_eq_bind, Option.bind_some]
      split <;> rfl

include hf

theorem advance?_count (w : World) (i : Nat) (now : Time.Instant) :
    (w.count f).advance? i now = (w.advance? i now).map (·.count f) := by
  have hcalls : (w.count f).calls = w.calls := rfl
  unfold advance?
  rw [hcalls, count_hub]
  cases w.calls[i]? with
  | none => rfl
  | some call =>
      simp only [Option.bind_eq_bind, Option.bind_some, Hub.advance_count hf]
      cases w.hub.advance i now call.task call.stage <;> rfl

theorem arrive?_count (w : World) (i : Nat) (now : Time.Instant) (report : Listing.Report) :
    (w.count f).arrive? i now report = (w.arrive? i now report).map (·.count f) := by
  have hcalls : (w.count f).calls = w.calls := rfl
  unfold arrive?
  rw [hcalls, count_hub]
  cases w.calls[i]? with
  | none => rfl
  | some call =>
      obtain ⟨task, stage⟩ := call
      cases stage with
      | fetching gated ticket =>
          simp only [Option.bind_eq_bind, Option.bind_some, Hub.arrive_count hf]
          rfl
      | _ => rfl

theorem step?_count (w : World) (e : Event) :
    (w.count f).step? e = (w.step? e).map (·.count f) := by
  cases e with
  | begin task => rfl
  | advance i now => exact advance?_count hf w i now
  | arrive i now report => exact arrive?_count hf w i now report
  | drop i => exact drop?_count w i f

theorem run?_count (w : World) (events : List Event) :
    (w.count f).run? events = (w.run? events).map (·.count f) := by
  induction events generalizing w with
  | nil => rfl
  | cons e events ih =>
      rw [run?, run?, step?_count hf]
      cases w.step? e with
      | none => rfl
      | some next => exact ih next

end World

/-! ## Worlds that follow -/

/-- A world after a run of events, with what was counted beside it. -/
def World.Follows (w w' : World) : Prop :=
  ∃ events f ran, Tally.IsAside f ∧ w.run? events = some ran ∧ w' = ran.count f

namespace World.Follows

variable {w w₁ w₂ : World}

theorem of_run {events : List Event} (hr : w.run? events = some w₁) : w.Follows w₁ :=
  ⟨events, id, w₁, Tally.isAside_id, hr, rfl⟩

theorem refl (w : World) : w.Follows w :=
  of_run (rfl : w.run? [] = some w)

theorem of_step {e : Event} (hs : w.step? e = some w₁) : w.Follows w₁ := by
  have hr : w.run? [e] = some w₁ := by
    rw [World.run?, hs]
    rfl
  exact of_run hr

theorem of_count {f : Tally → Tally} (hf : Tally.IsAside f) (w : World) : w.Follows (w.count f) :=
  ⟨[], f, w, hf, rfl, rfl⟩

theorem trans (h₁ : w.Follows w₁) (h₂ : w₁.Follows w₂) : w.Follows w₂ := by
  obtain ⟨events, f, ran, hf, hr, rfl⟩ := h₁
  obtain ⟨later, g, ran', hg, hr', rfl⟩ := h₂
  rw [run?_count hf, Option.map_eq_some_iff] at hr'
  obtain ⟨last, hlast, rfl⟩ := hr'
  refine ⟨events ++ later, g ∘ f, last, hg.comp hf, ?_, rfl⟩
  rw [World.run?_append, hr, Option.bind_some, hlast]

end World.Follows

/-! ## Timelines -/

namespace Timeline

variable {σ : Type} {source : Source σ} {t t' : Timeline σ} {i : Nat}

theorem follows_begin (t : Timeline σ) (task : Task) :
    t.world.Follows (t.begin task).2.world :=
  .of_step (e := .begin task) rfl

theorem follows_stepCall (h : t.stepCall? source i = some t') : t.world.Follows t'.world := by
  obtain ⟨⟨task, stage⟩, hi, h⟩ := Option.bind_eq_some_iff.mp h
  cases stage with
  | fetching gated ticket =>
      cases hp : t.pending.find? (·.ticket == ticket) with
      | some p =>
          simp only [hp, deliver?] at h
          split at h
          · obtain ⟨w, hw, rfl⟩ := Option.map_eq_some_iff.mp h
            exact .of_step (e := .arrive i t.now p.report) hw
          · cases h
      | none =>
          simp only [hp] at h
          obtain rfl := Option.some.inj h
          exact .refl _
  | _ =>
      obtain ⟨w, hw, rfl⟩ := Option.map_eq_some_iff.mp h
      exact .of_step (e := .advance i t.now) hw

theorem follows_runSteps (steps : Nat) (t : Timeline σ) :
    t.world.Follows (t.runSteps source i steps).world := by
  induction steps generalizing t with
  | zero => exact .refl _
  | succ steps ih =>
      rw [runSteps]
      cases hs : t.stepCall? source i with
      | none => exact .refl _
      | some t' => exact (follows_stepCall hs).trans (ih t')

theorem follows_runCall (t : Timeline σ) (i : Nat) :
    t.world.Follows (t.runCall source i).world :=
  follows_runSteps _ t

theorem follows_runCalls (t : Timeline σ) (is : List Nat) :
    t.world.Follows (t.runCalls source is).world := by
  induction is generalizing t with
  | nil => exact .refl _
  | cons i is ih => exact (t.follows_runCall i).trans (ih (t.runCall source i))

theorem follows_perform (t : Timeline σ) (task : Task) :
    t.world.Follows (t.perform source task).2.world :=
  (t.follows_begin task).trans (follows_runCall _ _)

end Timeline

end Directory

/-! ## Background jobs -/

namespace Sidecar

open Directory

variable {σ : Type} {source : Source σ}

theorem follows_countWarmup (t : Timeline σ) (answer : Option Answer) :
    t.world.Follows (countWarmup t answer).world :=
  .of_count (Tally.isAside_countWarmup _) _

theorem follows_cleanup (t : Timeline σ) : t.world.Follows (cleanup source t).2.world :=
  (t.follows_perform .cleanup).trans (.of_count (Tally.isAside_cleanups 1) _)

theorem follows_tick (t : Timeline σ) (ticks : Nat) :
    t.world.Follows (tick source t ticks).world := by
  unfold tick
  split
  · exact .refl _
  · exact (t.follows_perform .cleanup).trans (.of_count (Tally.isAside_cleanups ticks) _)

namespace Job

theorem follows_runTicks (job : Job) (time : Nat) (t : Timeline σ) :
    t.world.Follows (job.runTicks source time t).2.world := by
  cases job with
  | waiting period => exact .refl _
  | running period warmup nextTick =>
      cases nextTick with
      | none => exact .refl _
      | some next => exact follows_tick t _

theorem follows_runWarmup (period i : Nat) (nextTick : Option Nat) (t : Timeline σ) :
    t.world.Follows (runWarmup source period i nextTick t).2.world := by
  unfold runWarmup
  simp only
  split
  · exact (t.follows_runCall i).trans (follows_countWarmup _ _)
  · exact t.follows_runCall i

theorem follows_poll (job : Job) (t : Timeline σ) :
    t.world.Follows (job.poll source t).2.world := by
  cases job with
  | waiting period => exact (t.follows_begin .refresh).trans (follows_runWarmup _ _ _ _)
  | running period warmup nextTick =>
      cases warmup with
      | none => exact follows_runTicks _ _ t
      | some i => exact (follows_runWarmup _ _ _ t).trans (follows_runTicks _ _ _)

end Job

theorem follows_pollJobs (jobs : List Job) (t : Timeline σ) :
    t.world.Follows (pollJobs source jobs t).2.world := by
  induction jobs generalizing t with
  | nil => exact .refl _
  | cons job jobs ih => exact (job.follows_poll t).trans (ih _)

theorem follows_tickJobs (time : Nat) (jobs : List Job) (t : Timeline σ) :
    t.world.Follows (tickJobs source time jobs t).2.world := by
  induction jobs generalizing t with
  | nil => exact .refl _
  | cons job jobs ih => exact (job.follows_runTicks time t).trans (ih _)

/-! ## Sessions -/

namespace Session

def world (s : Session σ) : World :=
  s.timeline.world

theorem follows_pollBackground (passes : Nat) (s : Session σ) :
    s.world.Follows (pollBackground source passes s).world := by
  induction passes generalizing s with
  | zero => exact .refl _
  | succ passes ih =>
      exact (follows_pollJobs s.jobs s.timeline).trans
        (ih ⟨(pollJobs source s.jobs s.timeline).2, (pollJobs source s.jobs s.timeline).1⟩)

theorem follows_poll (is : List Nat) (passes : Nat) (s : Session σ) :
    s.world.Follows (s.poll source is passes).world := by
  induction passes generalizing s with
  | zero => exact .refl _
  | succ passes ih =>
      have hcalls : s.world.Follows (s.timeline.runCalls source is).world :=
        s.timeline.follows_runCalls is
      rw [poll]
      split
      · exact hcalls
      · apply hcalls.trans
        apply (follows_pollBackground 1 { s with timeline := s.timeline.runCalls source is }).trans
        exact ih _

theorem follows_advanceTo (time : Nat) (s : Session σ) :
    s.world.Follows (s.advanceTo source time).world :=
  follows_tickJobs (time - 1) s.jobs s.timeline

theorem follows_finish (is : List Nat) (jumps : Nat) (s : Session σ) :
    s.world.Follows (s.finish source is jumps).world := by
  induction jumps generalizing s with
  | zero => exact .refl _
  | succ jumps ih =>
      have hpoll : s.world.Follows (s.poll source is (is.length + s.jobs.length + 1)).world :=
        s.follows_poll is (is.length + s.jobs.length + 1)
      rw [finish]
      split
      · exact hpoll
      · split
        · exact hpoll
        · exact hpoll.trans ((follows_advanceTo _ _).trans (ih _))

theorem follows_beginAll (tasks : List Task) (s : Session σ) :
    s.world.Follows (s.beginAll tasks).2.world := by
  induction tasks generalizing s with
  | nil => exact .refl _
  | cons task tasks ih =>
      exact (s.timeline.follows_begin task).trans
        (ih { s with timeline := (s.timeline.begin task).2 })

theorem follows_together (tasks : List Task) (s : Session σ) :
    s.world.Follows (s.together source tasks).2.world :=
  (s.follows_beginAll tasks).trans (follows_finish _ _ _)

theorem follows_call (task : Task) (s : Session σ) :
    s.world.Follows (s.call source task).2.world :=
  s.follows_together [task]

theorem resolve_snd (id : Identifier) (s : Session σ) :
    (s.resolve source id).2 = (s.call source (.resolve id)).2 := by
  unfold resolve
  split
  next h => rw [h]
  next h => rw [h]

/-- A resolution of a session is a run of its world. -/
theorem follows_resolve (id : Identifier) (s : Session σ) :
    s.world.Follows (s.resolve source id).2.world := by
  rw [resolve_snd]
  exact s.follows_call (.resolve id)

end Session

end Sidecar

end Signpost
