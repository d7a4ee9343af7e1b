import Mathlib.Data.List.Nodup
import Signpost.Proofs.Directory.Gate
import Signpost.Proofs.Directory.Refresh

/-! # The queue of the gate

The calls in the queue are those that wait for the gate, each of them once, and a call that is
dropped leaves the queue. So the gate is free for the head of the queue or held by a call that
refreshes, and wherever a call has not finished some call can go on. -/

namespace Signpost.Directory

variable {shelf : Shelf} {single : Bool} {h : List Note} {w : World}

/-! ## What a step does to the queue -/

/-- Whether a call at this stage waits in the queue of the gate. -/
def Stage.isQueued : Stage → Bool
  | .queued _ => true
  | _ => false

/-- A call joins the queue at its end, enters the gate from its head, or leaves it where it is. -/
inductive QueueSpec (hub : Hub) (me : Nat) (stage : Stage) (hub' : Hub) (stage' : Stage) :
    Prop where
  | joins (hq : hub'.queue = hub.queue ++ [me]) (hs : stage.isQueued = false)
      (hs' : stage'.isQueued = true)
  | enters (hq : hub.queue = me :: hub'.queue) (hs' : stage'.isQueued = false)
  | leaves (hq : hub'.queue = hub.queue.filter (· != me)) (hs' : stage'.isQueued = false)
  | stays (hq : hub'.queue = hub.queue) (hs : stage'.isQueued = stage.isQueued)

theorem Hub.queue_of_admits {hub : Hub} {me : Nat} (ha : hub.admits me = true) :
    hub.queue = me :: hub.queue.tail := by
  simp only [Hub.admits, Bool.and_eq_true, beq_iff_eq] at ha
  obtain ⟨later, hq⟩ := List.head?_eq_some_iff.mp ha.2
  rw [hq, List.tail_cons]

theorem Hub.conclude_queue (hub : Hub) (now : Time.Instant) (task : Task)
    (outcome : Except Failure Nat) : (hub.conclude now task outcome).1.queue = hub.queue := by
  obtain ⟨tally, ht⟩ := hub.conclude_fst now task outcome
  rw [ht]
  rfl

theorem Hub.found_queue (hub : Hub) (task : Task) (round : Round) (url : Option Url) :
    (hub.found task round url).1.queue = hub.queue := by
  obtain ⟨tally, ht⟩ := hub.found_fst task round url
  rw [ht]
  rfl

theorem Act.queue {hub hub' : Hub} {me : Nat} {task : Task} {stage stage' : Stage} {deed : Deed}
    (ha : Act hub me task stage deed hub' stage') : QueueSpec hub me stage hub' stage' := by
  have found := Hub.found_stage (P := fun s => s.isQueued = false) rfl (fun _ => rfl)
  have conclude := Hub.conclude_stage (P := fun s => s.isQueued = false) (fun _ => rfl)
    (fun _ => rfl)
  cases ha with
  | fresh | absent | settle => exact .stays (Hub.found_queue _ _ _ _) (found _ _ _ _)
  | join => exact .joins rfl rfl rfl
  | enter ha => exact .enters (Hub.queue_of_admits ha) rfl
  | share ha =>
      rw [Hub.share_eq]
      exact .enters (by rw [Hub.conclude_queue]; exact Hub.queue_of_admits ha) (conclude _ _ _ _)
  | @arrive now gated ticket report =>
      cases ho : report.outcome <;> simp only [Hub.arrive, ho] <;> exact .stays (by rfl) (by rfl)
  | publish | conclude => exact .stays (Hub.conclude_queue _ _ _ _) (conclude _ _ _ _)
  | drop => exact .leaves rfl rfl
  | _ => exact .stays rfl rfl

/-! ## The calls in the queue -/

/-- The queue holds the calls that wait in it, each of them once. -/
structure QueueInv (w : World) : Prop where
  nodup : w.hub.queue.Nodup
  mem_iff : ∀ i, i ∈ w.hub.queue ↔ ∃ call, w.calls[i]? = some call ∧ call.stage.isQueued = true

theorem QueueInv.begin (hq : QueueInv w) (task : Task) : QueueInv (w.begin task) := by
  refine ⟨hq.nodup, ?_⟩
  intro i
  refine (hq.mem_iff i).trans ⟨?_, ?_⟩
  · rintro ⟨call, hcall, hs⟩
    exact ⟨call, World.getElem?_begin hcall task, hs⟩
  · rintro ⟨call, hcall, hs⟩
    obtain ⟨_, _, _, rfl⟩ | ⟨_, hold⟩ | ⟨_, _, _, ha⟩ := (Move.begin task).call_cases hcall
    · cases hs
    · exact ⟨call, hold, hs⟩
    · cases ha

theorem QueueSpec.nodup {hub hub' : Hub} {me : Nat} {stage stage' : Stage}
    (hs : QueueSpec hub me stage hub' stage') (hn : hub.queue.Nodup)
    (hme : me ∈ hub.queue ↔ stage.isQueued = true) : hub'.queue.Nodup := by
  cases hs with
  | joins hq hs =>
      rw [hq]
      refine List.nodup_append.mpr ⟨hn, List.nodup_singleton me, ?_⟩
      rintro a ha b hb rfl
      obtain rfl := List.mem_singleton.mp hb
      exact absurd (hme.mp ha) (by simp [hs])
  | enters hq =>
      rw [hq] at hn
      exact hn.of_cons
  | leaves hq => exact hq ▸ hn.filter _
  | stays hq => exact hq ▸ hn

theorem QueueSpec.mem_iff {hub hub' : Hub} {me : Nat} {stage stage' : Stage}
    (hs : QueueSpec hub me stage hub' stage') (hn : hub.queue.Nodup)
    (hme : me ∈ hub.queue ↔ stage.isQueued = true) :
    me ∈ hub'.queue ↔ stage'.isQueued = true := by
  cases hs with
  | joins hq _ hs' => simp [hq, hs']
  | enters hq hs' =>
      rw [hq] at hn
      simp [(List.nodup_cons.mp hn).1, hs']
  | leaves hq hs' => simp [hq, hs']
  | stays hq hs => rw [hq, hs, hme]

theorem QueueSpec.mem_iff_of_ne {hub hub' : Hub} {me j : Nat} {stage stage' : Stage}
    (hs : QueueSpec hub me stage hub' stage') (hj : j ≠ me) :
    j ∈ hub'.queue ↔ j ∈ hub.queue := by
  cases hs with
  | joins hq => simp [hq, hj]
  | enters hq => simp [hq, hj]
  | leaves hq => simp [hq, hj]
  | stays hq => rw [hq]

theorem QueueInv.act (hq : QueueInv w) {i : Nat} {task : Task} {stage stage' : Stage}
    {deed : Deed} {hub : Hub} (hi : w.calls[i]? = some ⟨task, stage⟩)
    (ha : Act w.hub i task stage deed hub stage') :
    QueueInv ⟨hub, w.calls.set i ⟨task, stage'⟩⟩ := by
  have hme : i ∈ w.hub.queue ↔ stage.isQueued = true := by simp [hq.mem_iff, hi]
  have hlt := (List.getElem?_eq_some_iff.mp hi).1
  refine ⟨ha.queue.nodup hq.nodup hme, ?_⟩
  intro j
  by_cases hij : j = i
  · subst hij
    simpa [hlt] using ha.queue.mem_iff hq.nodup hme
  · rw [ha.queue.mem_iff_of_ne hij, hq.mem_iff j, List.getElem?_set_ne (Ne.symm hij)]

theorem Chronicle.queue (hc : Chronicle shelf single h w) : QueueInv w := by
  induction hc with
  | start => exact ⟨List.nodup_nil, by simp [World.initial, Hub.initial]⟩
  | move _ hm ih =>
      cases hm with
      | begin task => exact ih.begin task
      | act hi ha => exact ih.act hi ha

/-! ## Progress -/

/-- Whether a call can take a step by itself, at any time, or its fetch can end in any way. -/
def World.CanGoOn (w : World) (j : Nat) : Prop :=
  (∀ now, (w.advance? j now).isSome = true) ∨ ∀ now report, (w.arrive? j now report).isSome = true

theorem World.canGoOn_of_not_isQueued {j : Nat} {call : Call} (hj : w.calls[j]? = some call)
    (hf : call.stage.isFinished = false) (hq : call.stage.isQueued = false) : w.CanGoOn j := by
  obtain ⟨task, stage⟩ := call
  cases stage with
  | fetching gated ticket => exact .inr fun now report => by simp [World.arrive?, hj]
  | queued seen => cases hq
  | done answer | dropped => cases hf
  | _ => exact .inl fun now => by simp [World.advance?, hj, Hub.advance]

theorem World.canGoOn_of_admits {j : Nat} {task : Task} {seen : Option Nat}
    (hj : w.calls[j]? = some ⟨task, .queued seen⟩) (ha : w.hub.admits j = true) :
    w.CanGoOn j :=
  .inl fun now => by simp [World.advance?, hj, Hub.advance, ha]

/-- Where a call has not finished, some call can go on: this one, the holder of the gate, or the
head of the queue. -/
theorem Chronicle.progress (hc : Chronicle shelf single h w) {i : Nat} {call : Call}
    (hi : w.calls[i]? = some call) (hf : call.stage.isFinished = false) :
    ∃ j, w.CanGoOn j := by
  cases hq : call.stage.isQueued with
  | false => exact ⟨i, World.canGoOn_of_not_isQueued hi hf hq⟩
  | true =>
      cases hholder : w.hub.holder with
      | some j =>
          obtain ⟨holder, hj, hs⟩ := (hc.gate.holder_iff j).mp hholder
          refine ⟨j, World.canGoOn_of_not_isQueued hj ?_ ?_⟩
          · cases hstage : holder.stage <;> simp_all [Stage.holdsGate, Stage.isFinished]
          · cases hstage : holder.stage <;> simp_all [Stage.holdsGate, Stage.isQueued]
      | none =>
          have hmem : i ∈ w.hub.queue := (hc.queue.mem_iff i).mpr ⟨call, hi, hq⟩
          obtain ⟨j, later, hqueue⟩ := List.exists_cons_of_ne_nil (List.ne_nil_of_mem hmem)
          have hhead : j ∈ w.hub.queue := by simp [hqueue]
          obtain ⟨⟨task, stage⟩, hj, hs⟩ := (hc.queue.mem_iff j).mp hhead
          cases stage with
          | queued seen =>
              exact ⟨j, World.canGoOn_of_admits hj (by simp [Hub.admits, hholder, hqueue])⟩
          | _ => cases hs

/-! ## Every call can come to its end -/

/-- What the calls weigh together. -/
def World.total (weight : Call → Nat) (w : World) : Nat :=
  w.calls.foldr (fun call sum => weight call + sum) 0

@[simp] theorem World.total_begin (weight : Call → Nat) (w : World) (task : Task) :
    (w.begin task).total weight = w.total weight + weight ⟨task, .ready⟩ := by
  unfold World.total World.begin
  induction w.calls with
  | nil => simp
  | cons call calls ih => simp only [List.cons_append, List.foldr_cons, ih, Nat.add_assoc]

/-- The total changes by what the new call weighs more or less than the old one. -/
theorem World.total_set (weight : Call → Nat) {i : Nat} {call : Call}
    (hi : w.calls[i]? = some call) (call' : Call) (hub : Hub) :
    World.total weight ⟨hub, w.calls.set i call'⟩ + weight call =
      w.total weight + weight call' := by
  unfold World.total
  generalize w.calls = calls at hi
  induction calls generalizing i with
  | nil => cases hi
  | cons c calls ih =>
      cases i with
      | zero =>
          obtain rfl := Option.some.inj hi
          simp only [List.set_cons_zero, List.foldr_cons]
          omega
      | succ i =>
          have ih := ih hi
          simp only [List.set_cons_succ, List.foldr_cons] at ih ⊢
          omega

/-- How many steps are left to the calls, at most. -/
def World.left (w : World) : Nat :=
  w.calls.foldr (fun call left => call.stage.rank + left) 0

theorem World.left_eq_total (w : World) : w.left = w.total fun call => call.stage.rank :=
  rfl

theorem Move.left_lt {w' : World} {n : Note} (hm : Move w n w')
    (hl : w'.calls.length = w.calls.length) : w'.left < w.left := by
  cases hm with
  | begin task => simp [World.begin] at hl
  | @act i task stage deed hub stage' hi ha =>
      have hset := World.total_set (fun call => call.stage.rank) hi ⟨task, stage'⟩ hub
      have hlt : stage'.rank < stage.rank := ha.ceiling.1.trans_lt ha.ceiling.2
      simp only [← World.left_eq_total] at hset
      omega

/-- The events by which calls go on once no other call begins and none is dropped. -/
inductive Event.GoesOn (now : Time.Instant) (reports : Nat → Listing.Report) : Event → Prop where
  | advance (j) : GoesOn now reports (.advance j now)
  | arrive (j) : GoesOn now reports (.arrive j now (reports j))

theorem World.CanGoOn.exists_step {j : Nat} (hj : w.CanGoOn j) (now : Time.Instant)
    (reports : Nat → Listing.Report) :
    ∃ e w', e.GoesOn now reports ∧ w.step? e = some w' ∧
      w'.calls.length = w.calls.length := by
  rcases hj with hj | hj
  · obtain ⟨w', hs⟩ := Option.isSome_iff_exists.mp (hj now)
    refine ⟨_, w', .advance j, hs, ?_⟩
    obtain ⟨call, _, hs⟩ := Option.bind_eq_some_iff.mp hs
    obtain ⟨next, _, hs⟩ := Option.bind_eq_some_iff.mp hs
    obtain rfl := Option.some.inj hs
    simp [World.update]
  · obtain ⟨w', hs⟩ := Option.isSome_iff_exists.mp (hj now (reports j))
    refine ⟨_, w', .arrive j, hs, ?_⟩
    obtain ⟨call, _, hs⟩ := Option.bind_eq_some_iff.mp hs
    split at hs
    · obtain rfl := Option.some.inj hs
      simp [World.update]
    · cases hs

/-- From every world all calls can come to their ends without any being dropped, however the
fetches end. -/
theorem Chronicle.completes (hc : Chronicle shelf single h w) (now : Time.Instant)
    (reports : Nat → Listing.Report) :
    ∃ later w', (∀ e ∈ later, e.GoesOn now reports) ∧ w.run? later = some w' ∧
      ∀ i, w'.isFinished i = true := by
  induction hleft : w.left using Nat.strongRecOn generalizing h w with
  | ind n ih =>
      by_cases hall : ∀ i, w.isFinished i = true
      · exact ⟨[], w, by simp, rfl, hall⟩
      · obtain ⟨i, hi⟩ := not_forall.mp hall
        obtain ⟨call, hcall, hf⟩ : ∃ call, w.calls[i]? = some call ∧
            call.stage.isFinished = false := by
          cases hcall : w.calls[i]? <;> simp_all [World.isFinished]
        obtain ⟨j, hj⟩ := hc.progress hcall hf
        obtain ⟨e, next, he, hs, hl⟩ := hj.exists_step now reports
        obtain ⟨note, _, hm⟩ := Move.of_step hs
        obtain ⟨later, w', hlater, hr, hdone⟩ :=
          ih next.left (hleft ▸ hm.left_lt hl) (hc.move hm) rfl
        refine ⟨e :: later, w', ?_, ?_, hdone⟩
        · simpa [he] using hlater
        · simpa [World.run?, hs] using hr

end Signpost.Directory
