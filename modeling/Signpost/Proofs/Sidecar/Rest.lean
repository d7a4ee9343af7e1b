import Signpost.Proofs.Directory.Conservation
import Signpost.Proofs.Directory.Queue
import Signpost.Proofs.Sidecar.Runs

/-! # Sessions at rest

A session at rest has no background jobs, no fetch under way and no call that has not ended. A call
that it makes comes to its end, after one wait if it fetches, and leaves the session at rest. -/

namespace Signpost

namespace Directory

/-! ## Stages on the way to an answer -/

/-- A stage of a call that was not given up; a resolution answers with a URL or with a failure. -/
def Stage.IsProper (task : Task) : Stage → Prop
  | .done answer => task.resolves = true → ∃ result, answer = .url result
  | .dropped => False
  | _ => True

theorem Hub.isProper_found (hub : Hub) (task : Task) (round : Round) (url : Option Url) :
    (hub.found task round url).2.IsProper task := by
  cases ht : task.resolution? <;> cases round <;> cases url <;>
    simp [Hub.found, ht, Stage.IsProper, Task.resolves]

theorem Hub.isProper_conclude (hub : Hub) (now : Time.Instant) (task : Task)
    (outcome : Except Failure Nat) : (hub.conclude now task outcome).2.IsProper task := by
  cases ht : task.resolution? <;> cases outcome <;>
    simp [Hub.conclude, ht, Stage.IsProper, Task.resolves]

theorem Act.isProper {hub hub' : Hub} {me : Nat} {task : Task} {stage stage' : Stage} {deed : Deed}
    (ha : Act hub me task stage deed hub' stage') (hf : stage.Fits task) (hd : deed ≠ .dropped) :
    stage'.IsProper task := by
  cases ha with
  | refuse => exact fun _ => ⟨_, rfl⟩
  | invalidate ht | clear ht | put ht =>
      intro h
      rw [ht] at h
      cases h
  | sweep ht =>
      intro h
      rcases hf with rfl | ⟨_, _, rfl⟩ <;> cases h
  | fresh | absent | settle => exact Hub.isProper_found _ _ _ _
  | @arrive now gated ticket report =>
      cases ho : report.outcome <;> simp [Hub.arrive, ho, Stage.IsProper]
  | share =>
      rw [Hub.share_eq]
      exact Hub.isProper_conclude _ _ _ _
  | publish | conclude => exact Hub.isProper_conclude _ _ _ _
  | drop => exact absurd rfl hd
  | _ => trivial

theorem Hub.deed?_ne_dropped (hub : Hub) (now : Time.Instant) (task : Task) (stage : Stage) :
    hub.deed? now task stage ≠ some .dropped := by
  cases stage with
  | ready => cases task <;> simp [deed?, startDeed]
  | writing stamp => cases task <;> simp [deed?, writeDeed]
  | peeking round stamp => cases hp : (hub.shelf.peek (lookupKey task) stamp).1 <;> simp [deed?, hp]
  | missed => cases hs : hub.singleFlight <;> simp [deed?, hs]
  | queued seen => cases hs : seen.all (· == hub.generation) <;> simp [deed?, hs]
  | publishing gated outcome => cases gated <;> simp [deed?]
  | _ => simp [deed?]

/-! ## Worlds that are reached -/

/-- A world after a run, with what was counted beside it. -/
def World.Reached (w : World) : Prop :=
  ∃ shelf single, (World.initial shelf single).Follows w

namespace World

variable {w w' : World}

theorem reached_initial (shelf : Shelf) (single : Bool) : (World.initial shelf single).Reached :=
  ⟨shelf, single, .refl _⟩

theorem Reached.follows (hw : w.Reached) (hf : w.Follows w') : w'.Reached := by
  obtain ⟨shelf, single, hw⟩ := hw
  exact ⟨shelf, single, hw.trans hf⟩

theorem canGoOn_count {f : Tally → Tally} (hf : Tally.IsAside f) (w : World) (j : Nat) :
    (w.count f).CanGoOn j ↔ w.CanGoOn j := by
  simp [CanGoOn, advance?_count hf, arrive?_count hf]

/-- A reached world has the calls of one with a chronicle, and the same of them can go on. -/
theorem Reached.exists_chronicle (hw : w.Reached) :
    ∃ shelf single h ran, Chronicle shelf single h ran ∧ ran.calls = w.calls ∧
      ∀ j, ran.CanGoOn j ↔ w.CanGoOn j := by
  obtain ⟨shelf, single, events, f, ran, hf, hr, rfl⟩ := hw
  exact ⟨shelf, single, _, ran, .of_run hr, rfl, fun j => (canGoOn_count hf ran j).symm⟩

theorem Reached.fits (hw : w.Reached) {i : Nat} {call : Call} (hi : w.calls[i]? = some call) :
    call.stage.Fits call.task := by
  obtain ⟨shelf, single, h, ran, hc, hcalls, -⟩ := hw.exists_chronicle
  exact hc.fits (hcalls ▸ hi)

/-- What can go on takes a step by itself or waits for a fetch. -/
theorem CanGoOn.advance_or_fetching {j : Nat} (hj : w.CanGoOn j) (now : Time.Instant) :
    (∃ next, w.advance? j now = some next) ∨
      ∃ task gated ticket, w.calls[j]? = some ⟨task, .fetching gated ticket⟩ := by
  rcases hj with hj | hj
  · exact .inl (Option.isSome_iff_exists.mp (hj now))
  · obtain ⟨next, hnext⟩ := Option.isSome_iff_exists.mp (hj now ⟨.ok [], 0, 0, 0⟩)
    obtain ⟨⟨task, stage⟩, hcall, hnext⟩ := Option.bind_eq_some_iff.mp hnext
    cases stage with
    | fetching gated ticket => exact .inr ⟨task, gated, ticket, hcall⟩
    | _ => cases hnext

theorem not_canGoOn_of_isFinished {j : Nat} (hj : w.isFinished j = true) : ¬w.CanGoOn j := by
  intro hgoes
  rcases hgoes.advance_or_fetching .epoch with ⟨next, hnext⟩ | ⟨task, gated, ticket, hcall⟩
  · obtain ⟨⟨task, stage⟩, hcall, hnext⟩ := Option.bind_eq_some_iff.mp hnext
    cases stage with
    | done answer | dropped => cases hnext
    | _ => simp [isFinished, hcall, Stage.isFinished] at hj
  · simp [isFinished, hcall, Stage.isFinished] at hj

/-- Where all others have ended, a call that has not can go on. -/
theorem Reached.canGoOn (hw : w.Reached) {i : Nat} {call : Call} (hi : w.calls[i]? = some call)
    (hf : call.stage.isFinished = false) (hothers : ∀ j, j ≠ i → w.isFinished j = true) :
    w.CanGoOn i := by
  obtain ⟨shelf, single, h, ran, hc, hcalls, hgoes⟩ := hw.exists_chronicle
  obtain ⟨j, hj⟩ := hc.progress (hcalls ▸ hi) hf
  rw [hgoes] at hj
  by_contra hstuck
  exact not_canGoOn_of_isFinished (hothers j fun hji => hstuck (hji ▸ hj)) hj

end World

/-! ## One call -/

namespace Timeline

variable {σ : Type} {source : Source σ} {t t' : Timeline σ} {i : Nat} {task : Task}
  {stage stage' : Stage}

/-- A call is at a stage while no other goes on, and a fetch under way is its own. -/
structure Alone (t : Timeline σ) (i : Nat) (task : Task) (stage : Stage) : Prop where
  reached : t.world.Reached
  call : t.world.calls[i]? = some ⟨task, stage⟩
  proper : stage.IsProper task
  others : ∀ j, j ≠ i → t.world.isFinished j = true
  fetch : t.pending = [] ∨ ∃ gated p, stage = .fetching gated p.ticket ∧ t.pending = [p]

/-- How many steps are left to a call, at most. The planning of its fetch is one. -/
def stepsLeft (t : Timeline σ) (stage : Stage) : Nat :=
  stage.rank + if t.pending.isEmpty && decide (6 ≤ stage.rank) then 1 else 0

theorem stepsLeft_le (t : Timeline σ) (stage : Stage) : t.stepsLeft stage ≤ stage.rank + 1 := by
  unfold stepsLeft
  split <;> omega

theorem Alone.pending_of_rank (ha : t.Alone i task stage) (hr : stage.rank ≠ 6) :
    t.pending = [] := by
  rcases ha.fetch with hp | ⟨gated, p, rfl, -⟩
  · exact hp
  · exact absurd rfl hr

theorem Alone.act (ha : t.Alone i task stage) {deed : Deed} {hub : Hub}
    (hact : Act t.world.hub i task stage deed hub stage') (hd : deed ≠ .dropped)
    (hreached : t'.world.Reached)
    (hworld : t'.world = ⟨hub, t.world.calls.set i ⟨task, stage'⟩⟩) (hp : t'.pending = []) :
    t'.Alone i task stage' ∧ t'.stepsLeft stage' < t.stepsLeft stage := by
  have hlt : i < t.world.calls.length := (List.getElem?_eq_some_iff.mp ha.call).1
  have hcall : t'.world.calls[i]? = some ⟨task, stage'⟩ := by
    rw [hworld]
    exact List.getElem?_set_self hlt
  have hothers : ∀ j, j ≠ i → t'.world.isFinished j = true := by
    intro j hj
    rw [World.isFinished, hworld, List.getElem?_set_ne (Ne.symm hj)]
    exact ha.others j hj
  refine ⟨⟨hreached, hcall, hact.isProper (ha.reached.fits ha.call) hd, hothers, .inl hp⟩, ?_⟩
  have hrank : stage'.rank < stage.rank := hact.ceiling.1.trans_lt hact.ceiling.2
  by_cases hlate : 6 ≤ stage'.rank
  · have hpending : t.pending = [] := ha.pending_of_rank (by omega)
    simp only [stepsLeft, hpending, hp, hlate, hlate.trans hrank.le, List.isEmpty_nil,
      decide_true, Bool.and_self, if_true]
    omega
  · simp only [stepsLeft, hlate, decide_false, Bool.and_false, Bool.false_eq_true, if_false]
    omega

/-- A step of the call takes it nearer to its end. -/
theorem Alone.step (ha : t.Alone i task stage) (hs : t.stepCall? source i = some t') :
    ∃ stage', t'.Alone i task stage' ∧ t'.stepsLeft stage' < t.stepsLeft stage := by
  have hreached := ha.reached.follows (follows_stepCall hs)
  obtain ⟨call, hi, hs⟩ := Option.bind_eq_some_iff.mp hs
  obtain rfl := Option.some.inj (ha.call.symm.trans hi)
  cases stage with
  | fetching gated ticket =>
      rcases ha.fetch with hp | ⟨gated, p, hstage, hp⟩
      · simp only [hp, List.find?_nil, List.nil_append] at hs
        obtain rfl := Option.some.inj hs
        refine ⟨.fetching gated ticket, ⟨hreached, ha.call, trivial, ha.others, ?_⟩, ?_⟩
        · exact .inr ⟨gated, _, rfl, rfl⟩
        · simp [stepsLeft, hp, Stage.rank]
      · cases hstage
        simp only [hp, List.find?_singleton, beq_self_eq_true, if_true, deliver?] at hs
        split at hs
        next =>
          obtain ⟨w, hw, rfl⟩ := Option.map_eq_some_iff.mp hs
          simp only [World.arrive?, ha.call, Option.bind_eq_bind, Option.bind_some,
            Option.some.injEq] at hw
          exact ⟨_, ha.act .arrive (by simp) hreached hw.symm (by simp)⟩
        next => cases hs
  | _ =>
      have hp : t.pending = [] := by
        rcases ha.fetch with hp | ⟨gated, p, hstage, -⟩
        · exact hp
        · cases hstage
      obtain ⟨w, hw, rfl⟩ := Option.map_eq_some_iff.mp hs
      obtain ⟨call, hi, hw⟩ := Option.bind_eq_some_iff.mp hw
      obtain rfl := Option.some.inj (ha.call.symm.trans hi)
      obtain ⟨next, hnext, hw⟩ := Option.bind_eq_some_iff.mp hw
      obtain ⟨deed, hdeed, hact⟩ := Act.of_advance hnext
      have hd : deed ≠ .dropped := by
        rintro rfl
        exact Hub.deed?_ne_dropped _ _ _ _ hdeed
      exact ⟨_, ha.act hact hd hreached (Option.some.inj hw).symm hp⟩

/-- A call that cannot take a step has ended, or its fetch is under way. -/
theorem Alone.of_blocked (ha : t.Alone i task stage) (hs : t.stepCall? source i = none) :
    stage.isFinished = true ∨ ∃ p, t.pending = [p] ∧ t.clock < p.due ∧ stage.rank = 6 := by
  cases hf : stage.isFinished with
  | true => exact .inl rfl
  | false =>
      have hgoes : t.world.CanGoOn i := ha.reached.canGoOn ha.call hf ha.others
      rcases hgoes.advance_or_fetching t.now with ⟨next, hnext⟩ | ⟨task, gated, ticket, hcall⟩
      · cases stage with
        | fetching gated ticket => simp [World.advance?, ha.call, Hub.advance] at hnext
        | _ => simp [stepCall?, ha.call, hnext] at hs
      · obtain ⟨rfl, rfl⟩ := Call.mk.inj (Option.some.inj (ha.call.symm.trans hcall))
        rcases ha.fetch with hp | ⟨gated, p, hstage, hp⟩
        · simp [stepCall?, ha.call, hp] at hs
        · cases hstage
          refine .inr ⟨p, hp, ?_, rfl⟩
          simpa [stepCall?, ha.call, hp, deliver?, World.arrive?] using hs

theorem runSteps_of_blocked (hs : t.stepCall? source i = none) (steps : Nat) :
    t.runSteps source i steps = t := by
  cases steps with
  | zero => rfl
  | succ steps => rw [runSteps, hs]

theorem runSteps_of_step (hs : t.stepCall? source i = some t') (steps : Nat) :
    t.runSteps source i (steps + 1) = t'.runSteps source i steps := by
  rw [runSteps, hs]

/-- A call that ran has come to where it cannot take a step, nearer to its end if it took one. -/
structure Ran (source : Source σ) (t : Timeline σ) (i : Nat) (task : Task) (stage : Stage)
    (t' : Timeline σ) (stage' : Stage) : Prop where
  alone : t'.Alone i task stage'
  blocked : t'.stepCall? source i = none
  left_le : t'.stepsLeft stage' ≤ t.stepsLeft stage
  left_lt : (t.stepCall? source i).isSome = true → t'.stepsLeft stage' < t.stepsLeft stage

theorem Alone.runSteps (ha : t.Alone i task stage) {steps : Nat}
    (hsteps : t.stepsLeft stage ≤ steps) :
    ∃ stage', Ran source t i task stage (t.runSteps source i steps) stage' := by
  induction steps generalizing t stage with
  | zero =>
      cases hs : t.stepCall? source i with
      | none => exact ⟨stage, ha, hs, le_refl _, by simp [hs]⟩
      | some t' =>
          obtain ⟨stage', -, hlt⟩ := ha.step hs
          omega
  | succ steps ih =>
      cases hs : t.stepCall? source i with
      | none =>
          rw [runSteps_of_blocked hs]
          exact ⟨stage, ha, hs, le_refl _, by simp [hs]⟩
      | some t₁ =>
          obtain ⟨stage₁, ha₁, hlt₁⟩ := ha.step hs
          obtain ⟨stage', hran⟩ := ih ha₁ (by omega)
          have hlt := hran.left_le.trans_lt hlt₁
          rw [runSteps_of_step hs]
          exact ⟨stage', hran.alone, hran.blocked, hlt.le, fun _ => hlt⟩

theorem Alone.runCall (ha : t.Alone i task stage) (source : Source σ) :
    ∃ stage', Ran source t i task stage (t.runCall source i) stage' := by
  unfold Timeline.runCall
  rw [ha.call]
  exact ha.runSteps (t.stepsLeft_le stage)

theorem runCall_of_blocked (hs : t.stepCall? source i = none) : t.runCall source i = t :=
  runSteps_of_blocked hs _

/-- A call whose fetch is over ends when it runs, for it fetches only once. -/
theorem Ran.isFinished_of_due (hran : Ran source t i task stage t' stage')
    (ha : t.Alone i task stage) {p : Pending} (hp : t.pending = [p]) (hdue : p.due ≤ t.clock) :
    stage'.isFinished = true := by
  have hrank : stage.rank = 6 := by
    by_contra hr
    rw [ha.pending_of_rank hr] at hp
    cases hp
  have hsome : (t.stepCall? source i).isSome = true := by
    cases hs : t.stepCall? source i with
    | some t₁ => rfl
    | none =>
        rcases ha.of_blocked hs with hf | ⟨p', hp', hlt, -⟩
        · cases stage <;> simp [Stage.rank, Stage.isFinished] at hrank hf
        · cases hp.symm.trans hp'
          omega
  have hlt := hran.left_lt hsome
  refine (hran.alone.of_blocked hran.blocked).resolve_right ?_
  rintro ⟨p', hp', -, hrank'⟩
  simp [stepsLeft, hp, hp', hrank, hrank'] at hlt

/-- Time passes without a call. -/
theorem Alone.wait (ha : t.Alone i task stage) (clock : Nat) :
    Alone { t with clock } i task stage :=
  ⟨ha.reached, ha.call, ha.proper, ha.others, ha.fetch⟩

end Timeline

end Directory

/-! ## Sessions -/

namespace Sidecar.Session

open Directory

variable {σ : Type} {source : Source σ} {s : Session σ} {i : Nat} {task : Task} {stage : Stage}

/-- Nothing goes on in a session. -/
structure AtRest (s : Session σ) : Prop where
  reached : s.world.Reached
  finished : ∀ i, s.world.isFinished i = true
  pending_eq : s.timeline.pending = []
  jobs_eq : s.jobs = []

theorem initial_atRest (ttl : Time.Span) (single : Bool) (now : Time.Instant) (start : σ) :
    (initial ttl single now start).AtRest :=
  ⟨World.reached_initial _ _, fun _ => rfl, rfl, rfl⟩

/-- The call ran, and nothing else happened. -/
def run (source : Source σ) (i : Nat) (s : Session σ) : Session σ :=
  { s with timeline := s.timeline.runCall source i }

@[simp] theorem run_jobs (source : Source σ) (i : Nat) (s : Session σ) :
    (s.run source i).jobs = s.jobs :=
  rfl

theorem run_of_blocked (hs : s.timeline.stepCall? source i = none) : s.run source i = s := by
  rw [run, Timeline.runCall_of_blocked hs]

theorem pollBackground_of_jobs (hjobs : s.jobs = []) (passes : Nat) :
    s.pollBackground source passes = s := by
  obtain ⟨timeline, jobs⟩ := s
  cases hjobs
  induction passes with
  | zero => rfl
  | succ passes ih => exact ih

theorem poll_succ (hjobs : s.jobs = []) (passes : Nat) :
    s.poll source [i] (passes + 1) =
      if (s.run source i).allFinished [i] then s.run source i
      else (s.run source i).poll source [i] passes := by
  have hbackground : (s.run source i).pollBackground source 1 = s.run source i :=
    pollBackground_of_jobs ((s.run_jobs source i).trans hjobs) 1
  rw [poll]
  change (if _ then s.run source i else ((s.run source i).pollBackground source 1).poll _ _ _) = _
  rw [hbackground]
  rfl

/-- Further passes over a call that has run change nothing. -/
theorem poll_eq_run (hjobs : s.jobs = [])
    (hblocked : (s.run source i).timeline.stepCall? source i = none) (passes : Nat) :
    s.poll source [i] (passes + 1) = s.run source i := by
  induction passes generalizing s with
  | zero =>
      rw [poll_succ hjobs]
      split <;> rfl
  | succ passes ih =>
      have hagain : (s.run source i).run source i = s.run source i := run_of_blocked hblocked
      rw [poll_succ hjobs]
      split
      · rfl
      · rw [ih ((s.run_jobs source i).trans hjobs) (by rw [hagain]; exact hblocked), hagain]

theorem allFinished_of_alone (ha : s.timeline.Alone i task stage) :
    s.allFinished [i] = stage.isFinished := by
  simp [allFinished, World.isFinished, ha.call]

/-- A call whose run takes it to its end has ended after one pass. -/
theorem finish_eq_run (hjobs : s.jobs = [])
    (ha : (s.run source i).timeline.Alone i task stage)
    (hblocked : (s.run source i).timeline.stepCall? source i = none)
    (hf : stage.isFinished = true) (jumps : Nat) :
    s.finish source [i] (jumps + 1) = s.run source i := by
  rw [finish, poll_eq_run hjobs hblocked]
  simp [allFinished_of_alone ha, hf]

/-- The session after a wait. -/
def wait (time : Nat) (s : Session σ) : Session σ :=
  { s with timeline := { s.timeline with clock := max time s.timeline.clock } }

theorem advanceTo_of_jobs (hjobs : s.jobs = []) (time : Nat) :
    s.advanceTo source time = s.wait time := by
  obtain ⟨timeline, jobs⟩ := s
  cases hjobs
  rfl

/-- A call whose run leaves its fetch under way goes on when the fetch is over. -/
theorem finish_eq_wait (hjobs : s.jobs = [])
    (ha : (s.run source i).timeline.Alone i task stage)
    (hblocked : (s.run source i).timeline.stepCall? source i = none)
    (hf : stage.isFinished = false) {p : Pending}
    (hp : (s.run source i).timeline.pending = [p]) (jumps : Nat) :
    s.finish source [i] (jumps + 1) = ((s.run source i).wait p.due).finish source [i] jumps := by
  have hdue : (s.run source i).timeline.nextDue? = some p.due := by simp [Timeline.nextDue?, hp]
  rw [finish, poll_eq_run hjobs hblocked]
  simp [allFinished_of_alone ha, hf, hdue, advanceTo_of_jobs ((s.run_jobs source i).trans hjobs)]

/-- A call that is alone comes to its end, at once or when its fetch is over. -/
theorem finish_alone (source : Source σ) (hjobs : s.jobs = [])
    (ha : s.timeline.Alone i task stage) (jumps : Nat) :
    ∃ stage', (s.finish source [i] (jumps + 2)).timeline.Alone i task stage' ∧
      stage'.isFinished = true ∧ (s.finish source [i] (jumps + 2)).jobs = [] := by
  obtain ⟨stage₁, hran⟩ := ha.runCall source
  cases hf : stage₁.isFinished with
  | true =>
      rw [finish_eq_run hjobs hran.alone hran.blocked hf]
      exact ⟨stage₁, hran.alone, hf, hjobs⟩
  | false =>
      obtain ⟨p, hp, -⟩ := (hran.alone.of_blocked hran.blocked).resolve_left (by simp [hf])
      have hwaited := hran.alone.wait (max p.due (s.timeline.runCall source i).clock)
      obtain ⟨stage₂, hran₂⟩ := hwaited.runCall source
      have hf₂ : stage₂.isFinished = true :=
        hran₂.isFinished_of_due hwaited hp (le_max_left _ _)
      have hended := finish_eq_run (s := (s.run source i).wait p.due) hjobs hran₂.alone
        hran₂.blocked hf₂ jumps
      rw [finish_eq_wait hjobs hran.alone hran.blocked hf hp, hended]
      exact ⟨stage₂, hran₂.alone, hf₂, hjobs⟩

/-- The session in which a call has begun. -/
def begun (task : Task) (s : Session σ) : Session σ :=
  { s with timeline := (s.timeline.begin task).2 }

/-- The call that a session at rest makes is alone in it. -/
theorem AtRest.begin (h : s.AtRest) (task : Task) :
    (s.begun task).timeline.Alone s.world.calls.length task .ready := by
  refine ⟨h.reached.follows (s.timeline.follows_begin task), ?_, trivial, ?_, .inl h.pending_eq⟩
  · exact List.getElem?_concat_length
  · intro j hj
    have hbefore : s.timeline.world.isFinished j = true := h.finished j
    have hcall : (s.timeline.world.begin task).calls[j]? = s.timeline.world.calls[j]? := by
      have hne : j ≠ s.timeline.world.calls.length := hj
      rw [World.begin, List.getElem?_append]
      split
      next => rfl
      next hle =>
        have hlone : [(⟨task, .ready⟩ : Call)].length ≤ j - s.timeline.world.calls.length := by
          simp only [List.length_singleton]
          omega
        rw [List.getElem?_eq_none hlone, List.getElem?_eq_none (Nat.le_of_not_lt hle)]
    exact (congrArg (Option.all _) hcall).trans hbefore

/-- The session when a call has had its time. -/
def after (source : Source σ) (task : Task) (s : Session σ) : Session σ :=
  (s.begun task).finishAll source [s.world.calls.length]

theorem call_eq (source : Source σ) (task : Task) (s : Session σ) :
    s.call source task =
      ((s.after source task).world.answer? s.world.calls.length, s.after source task) :=
  rfl

/-- A call of a session at rest is alone in it until it ends. -/
theorem AtRest.exists_alone (h : s.AtRest) (source : Source σ) (task : Task) :
    ∃ stage, (s.after source task).timeline.Alone s.world.calls.length task stage ∧
      stage.isFinished = true ∧ (s.after source task).jobs = [] := by
  have hjumps : (s.begun task).timeline.world.calls.length + (s.begun task).jobs.length + 1 =
      s.world.calls.length + 2 := by
    simp [begun, Timeline.begin, World.begin, h.jobs_eq, world]
  rw [after, finishAll, hjumps]
  exact finish_alone (s := s.begun task) source h.jobs_eq (h.begin task) s.world.calls.length

theorem answer?_of_alone {answer : Answer} (ha : s.timeline.Alone i task (.done answer)) :
    s.world.answer? i = some answer := by
  simp [world, World.answer?, ha.call]

/-- How a call of a session ends: with an answer, and with a result if it resolves. -/
structure EndsSpec (source : Source σ) (s : Session σ) (task : Task) : Prop where
  answer : ∃ answer, (s.call source task).1 = some answer ∧
    (task.resolves = true → ∃ result, answer = .url result)
  follows : s.world.Follows (s.call source task).2.world
  atRest : (s.call source task).2.AtRest

theorem AtRest.ends (h : s.AtRest) (source : Source σ) (task : Task) : EndsSpec source s task := by
  obtain ⟨stage, ha, hf, hjobs⟩ := h.exists_alone source task
  have hfollows : s.world.Follows (s.after source task).world := s.follows_call task
  have hfinished : ∀ j, (s.after source task).world.isFinished j = true := by
    intro j
    by_cases hj : j = s.world.calls.length
    · rw [hj]
      exact (congrArg (Option.all _) ha.call).trans hf
    · exact ha.others j hj
  have hpending : (s.after source task).timeline.pending = [] := by
    apply ha.pending_of_rank
    cases stage <;> simp [Stage.rank, Stage.isFinished] at hf ⊢
  refine ⟨?_, hfollows, ⟨ha.reached, hfinished, hpending, hjobs⟩⟩
  cases stage with
  | done answer => exact ⟨answer, answer?_of_alone ha, ha.proper⟩
  | dropped => exact ha.proper.elim
  | _ => cases hf

/-- The calls of a session all end when they are made one after the other. -/
theorem ends_of_calls (source : Source σ) (ttl : Time.Span) (single : Bool) (now : Time.Instant)
    (start : σ) (before : List Task) (task : Task) :
    EndsSpec source
      (before.foldl (fun s task => (s.call source task).2) (initial ttl single now start))
      task := by
  have hrest : ∀ {s : Session σ}, s.AtRest →
      (before.foldl (fun s task => (s.call source task).2) s).AtRest := by
    intro s h
    induction before generalizing s with
    | nil => exact h
    | cons task before ih => exact ih (h.ends source task).atRest
  exact (hrest (initial_atRest ttl single now start)).ends source task

/-- An identifier of any kind can be resolved. -/
theorem resolves_resolve (id : Identifier) : (Task.resolve id).resolves = true := by
  have hkind : id.kind ∈ Identifier.Kind.all := by cases id.kind <;> decide
  simp [Task.resolves, Task.resolution?, Identifier.checkKind, hkind, Except.isOk, Except.toBool]

/-- The result of a resolution of a session at rest is the answer of its call. -/
theorem AtRest.resolve (h : s.AtRest) (source : Source σ) (id : Identifier) :
    (s.call source (.resolve id)).1 = some (.url (s.resolve source id).1) ∧
      (s.resolve source id).2.AtRest := by
  have hends := h.ends source (.resolve id)
  obtain ⟨answer, hanswer, hresult⟩ := hends.answer
  obtain ⟨result, rfl⟩ := hresult (resolves_resolve id)
  have hcall : s.call source (.resolve id) =
      (some (.url result), (s.call source (.resolve id)).2) :=
    Prod.ext hanswer rfl
  refine ⟨?_, resolve_snd id s ▸ hends.atRest⟩
  rw [hanswer, Session.resolve, hcall]

/-- A request leaves the session as it is, or as its resolution leaves it. -/
theorem serve_snd (source : Source σ) (request : Api.Request) (s : Session σ) :
    (s.serve source request).2 =
      match request.route with
      | .resolve id => (s.resolve source id).2
      | _ => s := by
  unfold serve Api.Request.serve
  cases request.route <;> rfl

theorem AtRest.serve (h : s.AtRest) (source : Source σ) (request : Api.Request) :
    (s.serve source request).2.AtRest := by
  rw [serve_snd]
  cases request.route with
  | resolve id => exact (h.resolve source id).2
  | _ => exact h

end Sidecar.Session

end Signpost
