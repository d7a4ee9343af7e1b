import Signpost.Proofs.Directory.History

/-! # What a call can do

The rules list every step of a call once, with the deed that it is noted as. Three contracts are
read off them: what a deed does to the gate, what it leaves in the cache, and how far it takes
the call towards its end. -/

namespace Signpost.Directory

/-- The hub with other counters. -/
def Hub.withTally (hub : Hub) (tally : Tally) : Hub :=
  { hub with shelf := { hub.shelf with tally } }

/-- One step of call `me` from a stage, with its deed, to the next hub and stage. -/
inductive Act (hub : Hub) (me : Nat) (task : Task) : Stage → Deed → Hub → Stage → Prop where
  | refuse {now id kinds f} (ht : task.resolution? = some (id, kinds))
      (hk : id.checkKind kinds = .error f) :
      Act hub me task .ready (.started now) hub (.done (.url (.error f)))
  | resolve {now id kinds} (ht : task.resolution? = some (id, kinds))
      (hk : id.checkKind kinds = .ok ()) :
      Act hub me task .ready (.started now) hub (.peeking .first now)
  | get {now key} (ht : task = .get key) :
      Act hub me task .ready (.started now) hub (.peeking .first now)
  | refresh {now} (ht : task = .refresh) :
      Act hub me task .ready (.started now) hub (.joining none)
  | prepare {now} (ht : task = .cleanup ∨ ∃ key url, task = .put key url) :
      Act hub me task .ready (.started now) hub (.writing now)
  | invalidate {id} (ht : task = .invalidate id) :
      Act hub me task .ready (.invalidated id.key)
        { hub with shelf := (hub.shelf.invalidate id.key).2 }
        (.done (.invalidated (hub.shelf.invalidate id.key).1))
  | clear (ht : task = .clear) :
      Act hub me task .ready .cleared { hub with shelf := hub.shelf.clear } (.done .stored)
  | fresh {round stamp url}
      (hp : hub.shelf.cache.peek (Hub.lookupKey task) stamp = .fresh url) :
      Act hub me task (.peeking round stamp) (.looked round stamp (some url))
        ((hub.withTally hub.shelf.tally.countHit).found task round (some url)).1
        ((hub.withTally hub.shelf.tally.countHit).found task round (some url)).2
  | absent {round stamp}
      (hp : hub.shelf.cache.peek (Hub.lookupKey task) stamp = .absent) :
      Act hub me task (.peeking round stamp) (.looked round stamp none)
        ((hub.withTally hub.shelf.tally.countMiss).found task round none).1
        ((hub.withTally hub.shelf.tally.countMiss).found task round none).2
  | expired {round stamp}
      (hp : hub.shelf.cache.peek (Hub.lookupKey task) stamp = .expired) :
      Act hub me task (.peeking round stamp) (.sawExpired round) hub (.settling round stamp)
  | settle {round stamp} :
      Act hub me task (.settling round stamp)
        (.looked round stamp (hub.shelf.settle (Hub.lookupKey task) stamp).1)
        (hub.settle task round stamp).1 (hub.settle task round stamp).2
  | observe (hs : hub.singleFlight = true) :
      Act hub me task .missed (.observed hub.generation) hub (.joining (some hub.generation))
  | fetchAlone (hs : hub.singleFlight = false) :
      Act hub me task .missed (.fetched false) { hub with fetches := hub.fetches + 1 }
        (.fetching false hub.fetches)
  | join {seen} :
      Act hub me task (.joining seen) .joined { hub with queue := hub.queue ++ [me] }
        (.queued seen)
  | enter {seen} (ha : hub.admits me = true) (hs : seen.all (· == hub.generation) = true) :
      Act hub me task (.queued seen) (.fetched true)
        { hub with queue := hub.queue.tail, holder := some me, fetches := hub.fetches + 1 }
        (.fetching true hub.fetches)
  | share {now seen} (ha : hub.admits me = true)
      (hs : seen.all (· == hub.generation) = false) :
      Act hub me task (.queued seen) .shared
        ({ hub with queue := hub.queue.tail }.share now task).1
        ({ hub with queue := hub.queue.tail }.share now task).2
  | arrive {now gated ticket report} :
      Act hub me task (.fetching gated ticket) (.arrived report.outcome)
        (hub.arrive now gated report).1 (hub.arrive now gated report).2
  | store {gated entries stamp} :
      Act hub me task (.storing gated entries stamp) (.stored entries stamp)
        { hub with shelf := hub.shelf.putAll entries stamp }
        (.publishing gated (.ok entries.length))
  | publish {now outcome} :
      Act hub me task (.publishing true outcome) (.published outcome)
        ((hub.publish outcome).conclude now task outcome).1
        ((hub.publish outcome).conclude now task outcome).2
  | conclude {now outcome} :
      Act hub me task (.publishing false outcome) (.concluded outcome)
        (hub.conclude now task outcome).1 (hub.conclude now task outcome).2
  | put {key url stamp} (ht : task = .put key url) :
      Act hub me task (.writing stamp) (.put key url stamp)
        { hub with shelf := hub.shelf.put key url stamp } (.done .stored)
  | sweep {stamp} (ht : ∀ key url, task ≠ .put key url) :
      Act hub me task (.writing stamp) (.swept stamp)
        { hub with shelf := (hub.shelf.sweep stamp).2 }
        (.done (.cleaned (hub.shelf.sweep stamp).1))
  | drop {stage} (hs : stage.isSuspended = true) :
      Act hub me task stage .dropped (hub.abandon me stage) .dropped

/-! ## Every step is one of the rules -/

theorem Act.of_start (hub : Hub) (me : Nat) (now : Time.Instant) (task : Task) :
    Act hub me task .ready (Hub.startDeed now task) (hub.start now task).1
      (hub.start now task).2 := by
  cases task with
  | resolve id | resolveService id | resolveResource id =>
      simp only [Hub.start, Task.resolution?, Hub.startDeed]
      split
      · exact .refuse rfl ‹_›
      · exact .resolve rfl ‹_›
  | refresh => exact .refresh rfl
  | invalidate id => exact .invalidate rfl
  | cleanup => exact .prepare (.inl rfl)
  | get key => exact .get rfl
  | put key url => exact .prepare (.inr ⟨key, url, rfl⟩)
  | clear => exact .clear rfl

theorem Act.of_peek (hub : Hub) (me : Nat) (task : Task) (round : Round)
    (stamp : Time.Instant) {deed : Deed} {now : Time.Instant}
    (hd : hub.deed? now task (.peeking round stamp) = some deed) :
    Act hub me task (.peeking round stamp) deed (hub.peek task round stamp).1
      (hub.peek task round stamp).2 := by
  cases hp : hub.shelf.cache.peek (Hub.lookupKey task) stamp with
  | fresh url =>
      simp only [Hub.deed?, Shelf.peek, hp, Option.some.injEq] at hd
      subst hd
      simpa only [Hub.peek, Shelf.peek, hp, Hub.withTally] using Act.fresh hp
  | expired =>
      simp only [Hub.deed?, Shelf.peek, hp, Option.some.injEq] at hd
      subst hd
      simpa only [Hub.peek, Shelf.peek, hp] using Act.expired hp
  | absent =>
      simp only [Hub.deed?, Shelf.peek, hp, Option.some.injEq] at hd
      subst hd
      simpa only [Hub.peek, Shelf.peek, hp, Hub.withTally] using Act.absent hp

theorem Act.of_write (hub : Hub) (me : Nat) (task : Task) (stamp : Time.Instant) :
    Act hub me task (.writing stamp) (Hub.writeDeed stamp task) (hub.write task stamp).1
      (hub.write task stamp).2 := by
  cases task with
  | put key url => exact .put rfl
  | _ => exact .sweep (by simp)

/-- A step that a call takes by itself follows one of the rules, under the deed it is noted as. -/
theorem Act.of_advance {hub hub' : Hub} {me : Nat} {now : Time.Instant} {task : Task}
    {stage stage' : Stage} (h : hub.advance me now task stage = some (hub', stage')) :
    ∃ deed, hub.deed? now task stage = some deed ∧ Act hub me task stage deed hub' stage' := by
  cases stage with
  | ready =>
      obtain ⟨rfl, rfl⟩ := Prod.mk.inj (Option.some.inj h)
      exact ⟨_, rfl, .of_start hub me now task⟩
  | peeking round stamp =>
      obtain ⟨rfl, rfl⟩ := Prod.mk.inj (Option.some.inj h)
      cases hd : hub.deed? now task (.peeking round stamp) with
      | none => cases hp : (hub.shelf.peek (Hub.lookupKey task) stamp).1 <;>
          simp [Hub.deed?, hp] at hd
      | some deed => exact ⟨deed, rfl, .of_peek hub me task round stamp hd⟩
  | settling round stamp =>
      obtain ⟨rfl, rfl⟩ := Prod.mk.inj (Option.some.inj h)
      exact ⟨_, rfl, .settle⟩
  | missed =>
      by_cases hs : hub.singleFlight = true
      · have ho : hub.observe = (hub, .joining (some hub.generation)) := if_pos hs
        obtain ⟨rfl, rfl⟩ := Prod.mk.inj (ho.symm.trans (Option.some.inj h))
        exact ⟨.observed hub.generation, by simp [Hub.deed?, hs], .observe hs⟩
      · have ho : hub.observe = hub.startFetch false := if_neg hs
        obtain ⟨rfl, rfl⟩ := Prod.mk.inj (ho.symm.trans (Option.some.inj h))
        exact ⟨.fetched false, by simp [Hub.deed?, hs], .fetchAlone (Bool.eq_false_iff.mpr hs)⟩
  | joining seen =>
      obtain ⟨rfl, rfl⟩ := Prod.mk.inj (Option.some.inj h)
      exact ⟨_, rfl, .join⟩
  | queued seen =>
      simp only [Hub.advance] at h
      split at h
      next ha =>
        cases hs : seen.all (· == hub.generation) with
        | false =>
            simp only [Hub.enter, hs, Bool.false_eq_true, ↓reduceIte, Option.some.injEq] at h
            have ht : Act hub me task (.queued seen) .shared
                ({ hub with queue := hub.queue.tail }.share now task).1
                ({ hub with queue := hub.queue.tail }.share now task).2 := .share ha hs
            rw [h] at ht
            exact ⟨.shared, by simp [Hub.deed?, hs], ht⟩
        | true =>
            simp only [Hub.enter, Hub.startFetch, hs, ↓reduceIte, Option.some.injEq,
              Prod.mk.injEq] at h
            obtain ⟨rfl, rfl⟩ := h
            exact ⟨.fetched true, by simp [Hub.deed?, hs], .enter ha hs⟩
      next => cases h
  | fetching gated ticket => cases h
  | storing gated entries stamp =>
      obtain ⟨rfl, rfl⟩ := Prod.mk.inj (Option.some.inj h)
      exact ⟨_, rfl, .store⟩
  | publishing gated outcome =>
      cases gated
      · obtain ⟨rfl, rfl⟩ := Prod.mk.inj (Option.some.inj h)
        exact ⟨_, rfl, .conclude⟩
      · obtain ⟨rfl, rfl⟩ := Prod.mk.inj (Option.some.inj h)
        exact ⟨_, rfl, .publish⟩
  | writing stamp =>
      obtain ⟨rfl, rfl⟩ := Prod.mk.inj (Option.some.inj h)
      exact ⟨_, rfl, .of_write hub me task stamp⟩
  | done answer => cases h
  | dropped => cases h

/-! ## The ends of look-ups and refreshes -/

/-- The end of a look-up only counts. -/
theorem Hub.found_fst (hub : Hub) (task : Task) (round : Round) (url : Option Url) :
    ∃ tally, (hub.found task round url).1 = hub.withTally tally := by
  unfold Hub.found
  split
  · exact ⟨hub.shelf.tally, rfl⟩
  · split
    · exact ⟨hub.shelf.tally.countResolution .hit, rfl⟩
    · exact ⟨hub.shelf.tally, rfl⟩
    · exact ⟨hub.shelf.tally.countResolution .refreshed, rfl⟩
    · exact ⟨hub.shelf.tally.countResolution .notFound, rfl⟩

/-- What follows on a refresh only counts. -/
theorem Hub.conclude_fst (hub : Hub) (now : Time.Instant) (task : Task)
    (outcome : Except Failure Nat) :
    ∃ tally, (hub.conclude now task outcome).1 = hub.withTally tally := by
  unfold Hub.conclude
  split
  · exact ⟨hub.shelf.tally, rfl⟩
  · exact ⟨hub.shelf.tally, rfl⟩
  · exact ⟨hub.shelf.tally.countResolution .error, rfl⟩

/-- The outcome that a call takes over from the refresh published last. -/
def sharedOutcome : Option Failure → Except Failure Nat
  | none => .ok 0
  | some f => .error f

theorem Hub.share_eq (hub : Hub) (now : Time.Instant) (task : Task) :
    hub.share now task = hub.conclude now task (sharedOutcome hub.lastFailure) := by
  unfold Hub.share sharedOutcome
  cases hub.lastFailure <;> rfl

/-- A look-up leaves its call missed or done. -/
theorem Hub.found_stage {P : Stage → Prop} (missed : P .missed) (done : ∀ answer, P (.done answer))
    (hub : Hub) (task : Task) (round : Round) (url : Option Url) :
    P (hub.found task round url).2 := by
  unfold Hub.found
  split
  · exact done _
  · split
    · exact done _
    · exact missed
    · exact done _
    · exact done _

/-- After a refresh a call looks its key up again or is done. -/
theorem Hub.conclude_stage {P : Stage → Prop} (again : ∀ stamp, P (.peeking .second stamp))
    (done : ∀ answer, P (.done answer)) (hub : Hub) (now : Time.Instant) (task : Task)
    (outcome : Except Failure Nat) : P (hub.conclude now task outcome).2 := by
  unfold Hub.conclude
  split
  · exact done _
  · exact again _
  · exact done _

theorem Hub.found_of_resolution {hub : Hub} {task : Task} {id : Identifier}
    {kinds : List Identifier.Kind} (ht : task.resolution? = some (id, kinds)) (round : Round)
    (url : Option Url) :
    (hub.found task round url).2 =
      match round, url with
      | .first, none => .missed
      | _, some url => .done (.url (.ok (id.locate url)))
      | .second, none => .done (.url (.error (.notFound id.key))) := by
  cases round <;> cases url <;> simp [Hub.found, ht]

theorem Hub.conclude_of_resolution {hub : Hub} {task : Task} {id : Identifier}
    {kinds : List Identifier.Kind} (ht : task.resolution? = some (id, kinds))
    (now : Time.Instant) (outcome : Except Failure Nat) :
    (hub.conclude now task outcome).2 =
      match outcome with
      | .ok _ => .peeking .second now
      | .error f => .done (.url (.error f)) := by
  cases outcome <;> simp [Hub.conclude, ht]

/-! ## Deeds and the way of a call -/

/-- How far from its end a call is at most once it has done a deed. No deed leaves a call as far
from its end as an earlier one did, so that a call does each deed once and in this order. -/
def Deed.ceiling : Deed → Nat
  | .begun _ => 12
  | .started _ | .invalidated _ | .cleared => 11
  | .sawExpired .first => 10
  | .looked .first _ _ => 9
  | .observed _ => 8
  | .joined => 7
  | .fetched _ => 6
  | .arrived _ => 5
  | .stored _ _ => 4
  | .published _ | .concluded _ | .shared => 3
  | .sawExpired .second => 2
  | .looked .second _ _ => 1
  | .put _ _ _ | .swept _ | .dropped => 0

theorem Hub.found_rank_le (hub : Hub) (task : Task) (round : Round) (stamp : Time.Instant)
    (url : Option Url) :
    (hub.found task round url).2.rank ≤ (Deed.looked round stamp url).ceiling := by
  unfold Hub.found
  split
  · simp [Stage.rank]
  · split <;> simp [Stage.rank, Deed.ceiling]

theorem Hub.conclude_rank_le (hub : Hub) (now : Time.Instant) (task : Task)
    (outcome : Except Failure Nat) : (hub.conclude now task outcome).2.rank ≤ 3 :=
  Hub.conclude_stage (P := fun s => s.rank ≤ 3) (by simp [Stage.rank]) (by simp [Stage.rank])
    hub now task outcome

/-- Every step takes its call below the ceiling of its deed, from above it. -/
theorem Act.ceiling {hub hub' : Hub} {me : Nat} {task : Task} {stage stage' : Stage}
    {deed : Deed} (h : Act hub me task stage deed hub' stage') :
    stage'.rank ≤ deed.ceiling ∧ deed.ceiling < stage.rank := by
  cases h with
  | @fresh round | @absent round | @settle round =>
      refine ⟨Hub.found_rank_le _ _ _ _ _, ?_⟩
      cases round <;> simp [Deed.ceiling, Stage.rank]
  | @expired round stamp _ => cases round <;> simp [Deed.ceiling, Stage.rank]
  | share =>
      rw [Hub.share_eq]
      exact ⟨Hub.conclude_rank_le _ _ _ _, by simp [Deed.ceiling, Stage.rank]⟩
  | publish | conclude =>
      exact ⟨Hub.conclude_rank_le _ _ _ _, by simp [Deed.ceiling, Stage.rank]⟩
  | @arrive now gated ticket report =>
      cases ho : report.outcome <;> simp [Hub.arrive, ho, Deed.ceiling, Stage.rank]
  | drop hs =>
      cases stage with
      | peeking round stamp => cases round <;> simp [Deed.ceiling, Stage.rank]
      | settling round stamp => cases round <;> simp [Deed.ceiling, Stage.rank]
      | missed | publishing | done | dropped => cases hs
      | _ => simp [Deed.ceiling, Stage.rank]
  | _ => simp [Deed.ceiling, Stage.rank]

/-! ## The gate -/

/-- The failure kept after a deed. -/
def Deed.failureLeft (last : Option Failure) : Deed → Option Failure
  | .published outcome => Hub.failure? outcome
  | _ => last

/-- A call holds the gate from the start of its fetch until it publishes or is dropped, and only
a publication moves the generation. -/
structure GateSpec (hub : Hub) (me : Nat) (stage : Stage) (deed : Deed) (hub' : Hub)
    (stage' : Stage) : Prop where
  singleFlight_eq : hub'.singleFlight = hub.singleFlight
  generation_eq : hub'.generation = hub.generation + if deed.isPublication then 1 else 0
  lastFailure_eq : hub'.lastFailure = deed.failureLeft hub.lastFailure
  holder_eq :
    (deed = .fetched true ∧ hub.holder = none ∧ hub'.holder = some me ∧
      stage.holdsGate = false ∧ stage'.holdsGate = true) ∨
    ((deed.isPublication = true ∨ deed = .dropped) ∧ hub'.holder = none ∧
      stage.holdsGate = true ∧ stage'.holdsGate = false) ∨
    (hub'.holder = hub.holder ∧ stage'.holdsGate = stage.holdsGate)

theorem Hub.holder_of_admits {hub : Hub} {me : Nat} (ha : hub.admits me = true) :
    hub.holder = none := by
  simp only [Hub.admits, Bool.and_eq_true, Option.isNone_iff_eq_none] at ha
  exact ha.1

theorem Deed.failureLeft_of_isPublication {deed : Deed} (h : deed.isPublication = false)
    (last : Option Failure) : deed.failureLeft last = last := by
  cases deed <;> first | rfl | cases h

/-- A step that leaves the gate alone. -/
theorem GateSpec.kept {hub : Hub} {me : Nat} {stage stage' : Stage} {deed : Deed}
    (hd : deed.isPublication = false) (hs : stage'.holdsGate = stage.holdsGate) (shelf : Shelf)
    (queue : List Nat) (fetches : Nat) :
    GateSpec hub me stage deed { hub with shelf, queue, fetches } stage' :=
  ⟨rfl, by simp [hd], (Deed.failureLeft_of_isPublication hd _).symm, .inr (.inr ⟨rfl, hs⟩)⟩

theorem GateSpec.kept_found {hub : Hub} {me : Nat} {task : Task} {stage : Stage} {round : Round}
    {stamp : Time.Instant} {url : Option Url} (hs : stage.holdsGate = false) (shelf : Shelf) :
    GateSpec hub me stage (.looked round stamp url)
      ({ hub with shelf }.found task round url).1 ({ hub with shelf }.found task round url).2 := by
  obtain ⟨tally, ht⟩ := Hub.found_fst { hub with shelf } task round url
  rw [ht]
  refine .kept rfl ?_ _ _ _
  exact (Hub.found_stage (P := fun s => s.holdsGate = false) rfl (fun _ => rfl) _ _ _ _).trans
    hs.symm

theorem Hub.conclude_holdsGate (hub : Hub) (now : Time.Instant) (task : Task)
    (outcome : Except Failure Nat) : (hub.conclude now task outcome).2.holdsGate = false :=
  Hub.conclude_stage (P := fun s => s.holdsGate = false) (fun _ => rfl) (fun _ => rfl)
    hub now task outcome

theorem Act.gate {hub hub' : Hub} {me : Nat} {task : Task} {stage stage' : Stage} {deed : Deed}
    (h : Act hub me task stage deed hub' stage') : GateSpec hub me stage deed hub' stage' := by
  cases h with
  | fresh | absent | settle => exact .kept_found rfl _
  | enter ha =>
      exact ⟨rfl, rfl, rfl, .inl ⟨rfl, Hub.holder_of_admits ha, rfl, rfl, rfl⟩⟩
  | @share now seen ha hs =>
      rw [Hub.share_eq]
      obtain ⟨tally, ht⟩ := Hub.conclude_fst { hub with queue := hub.queue.tail } now task
        (sharedOutcome hub.lastFailure)
      rw [ht]
      exact .kept rfl (Hub.conclude_holdsGate _ _ _ _) _ _ _
  | @arrive now gated ticket report =>
      cases ho : report.outcome <;> simp only [Hub.arrive, ho] <;>
        exact .kept (by rfl) (by rfl) _ _ _
  | @publish now outcome =>
      obtain ⟨tally, ht⟩ := Hub.conclude_fst (hub.publish outcome) now task outcome
      rw [ht]
      exact ⟨rfl, rfl, rfl, .inr (.inl ⟨.inl rfl, rfl, rfl, Hub.conclude_holdsGate _ _ _ _⟩)⟩
  | @conclude now outcome =>
      obtain ⟨tally, ht⟩ := Hub.conclude_fst hub now task outcome
      rw [ht]
      exact .kept rfl (Hub.conclude_holdsGate _ _ _ _) _ _ _
  | drop =>
      by_cases hs : stage.holdsGate = true
      · exact ⟨rfl, rfl, rfl, .inr (.inl ⟨.inr rfl, by simp [Hub.abandon, hs], hs, rfl⟩)⟩
      · refine ⟨rfl, rfl, rfl, .inr (.inr ⟨by simp [Hub.abandon, hs], ?_⟩)⟩
        exact (Bool.eq_false_iff.mpr hs).symm
  | _ => exact .kept (by rfl) (by rfl) _ _ _

end Signpost.Directory
