import Mathlib.Data.List.Induction
import Signpost.Proofs.Directory.Counting
import Signpost.Proofs.Directory.Provenance
import Signpost.Proofs.Directory.Queue
import Signpost.Proofs.Directory.SingleFlight
import Signpost.Sidecar.Session

/-! # Conservation

What a run counts adds up. An account says what deeds pay, what an outcome is owed once it is
counted, and what a call holds in between; every account balances in every run. Where all calls have
ended they hold nothing any more, so that the counters of hits, misses and fetches are determined by
the outcomes. -/

namespace Signpost

/-- What the outcomes that were counted weigh together. -/
def Resolutions.weigh (weight : Outcome → Nat) (r : Resolutions) : Nat :=
  r.hit * weight .hit + r.refreshed * weight .refreshed + r.notFound * weight .notFound +
    r.error * weight .error

@[simp] theorem Resolutions.weigh_countAny (weight : Outcome → Nat) (r : Resolutions)
    (outcome : Option Outcome) :
    (r.countAny outcome).weigh weight = r.weigh weight + outcome.elim 0 weight := by
  cases outcome with
  | none => rfl
  | some outcome =>
      cases outcome <;>
        simp only [countAny, count, weigh, Option.elim_some, Nat.add_mul, Nat.one_mul] <;> omega

namespace Directory

variable {ttl : Time.Span} {single : Bool} {h : List Note} {w : World}

/-! ## Counters -/

/-- What the deeds of a history weigh together. -/
def noted (weight : Deed → Nat) (h : List Note) : Nat :=
  h.foldl (fun sum n => sum + weight n.deed) 0

theorem noted_append (weight : Deed → Nat) (h : List Note) (n : Note) :
    noted weight (h ++ [n]) = noted weight h + weight n.deed := by
  simp [noted]

theorem noted_add (a b : Deed → Nat) (h : List Note) :
    noted (fun deed => a deed + b deed) h = noted a h + noted b h := by
  induction h using List.reverseRecOn with
  | nil => rfl
  | append_singleton h n ih =>
      simp only [noted_append, ih]
      omega

/-- The counters tell how often a history has a deed that they count. -/
structure CounterInv (h : List Note) (w : World) : Prop where
  hits_eq : w.hub.shelf.tally.hits = noted Deed.hits h
  misses_eq : w.hub.shelf.tally.misses = noted Deed.misses h
  fetches_eq : w.hub.fetches = noted Deed.fetches h
  cacheSize_eq : w.hub.shelf.tally.cacheSize = w.hub.shelf.cache.size

theorem Chronicle.counters (hc : Chronicle (.empty ttl) single h w) : CounterInv h w := by
  induction hc with
  | start => exact ⟨rfl, rfl, rfl, rfl⟩
  | move _ hm ih =>
      cases hm with
      | begin task =>
          refine ⟨?_, ?_, ?_, ih.cacheSize_eq⟩ <;> rw [noted_append]
          · exact ih.hits_eq
          · exact ih.misses_eq
          · exact ih.fetches_eq
      | act hi ha =>
          have hs := ha.counts
          refine ⟨?_, ?_, ?_, hs.cacheSize_eq ih.cacheSize_eq⟩ <;> rw [noted_append]
          · rw [hs.hits_eq, ih.hits_eq]
          · rw [hs.misses_eq, ih.misses_eq]
          · rw [hs.fetches_eq, ih.fetches_eq]

/-! ## Accounts -/

/-- Every call is at a stage of its task. -/
theorem Chronicle.fits {shelf : Shelf} (hc : Chronicle shelf single h w) {j : Nat} {call : Call}
    (hj : w.calls[j]? = some call) : call.stage.Fits call.task := by
  refine hc.calls (P := fun _ _ call => call.stage.Fits call.task) ?_ ?_ ?_ hj
  · intro h w _ task
    trivial
  · intro h n j call _ hf
    exact hf
  · intro h w j task stage deed hub stage' _ _ ha hf
    exact ha.fits hf

/-- No call was dropped, and only resolutions look anything up. -/
def World.Plain (w : World) : Prop :=
  ∀ call ∈ w.calls, call.stage ≠ .dropped ∧ ∀ key, call.task ≠ .get key

theorem Move.plain {w' : World} {n : Note} (hm : Move w n w') (hp : w'.Plain) : w.Plain := by
  intro call hmem
  obtain ⟨j, hj⟩ := List.mem_iff_getElem?.mp hmem
  cases hm with
  | begin task => exact hp call (List.mem_append_left _ hmem)
  | @act i task stage deed hub stage' hi ha =>
      by_cases hij : i = j
      · subst hij
        obtain rfl := Option.some.inj (hj.symm.trans hi)
        have hlt := (List.getElem?_eq_some_iff.mp hi).1
        refine ⟨?_, (hp _ (List.mem_set hlt _)).2⟩
        rintro rfl
        exact absurd ha.ceiling.2 (Nat.not_lt_zero _)
      · exact hp call (List.mem_of_getElem? (by rw [List.getElem?_set_ne hij, hj]))

/-- An account of a run: what a call holds, what a deed pays and what an outcome is owed. A step
pays as much as the call holds more after it, and as the outcome is owed that it counts. -/
structure Account where
  held : Call → Nat
  paid : Deed → Nat
  owed : Outcome → Nat
  begun : ∀ task, paid (.begun task) = held ⟨task, .ready⟩
  act : ∀ {hub hub' : Hub} {me : Nat} {task : Task} {stage stage' : Stage} {deed : Deed},
    Act hub me task stage deed hub' stage' → stage.Fits task → (∀ key, task ≠ .get key) →
    stage' ≠ .dropped →
    held ⟨task, stage⟩ + paid deed =
      held ⟨task, stage'⟩ + (deed.outcome? task stage').elim 0 owed

/-- Every account balances. -/
theorem Chronicle.balance (hc : Chronicle (.empty ttl) single h w) (account : Account)
    (hp : w.Plain) :
    noted account.paid h =
      w.hub.shelf.tally.resolutions.weigh account.owed + w.total account.held := by
  induction hc with
  | start => simp [noted, World.total, World.initial, Hub.initial, Shelf.empty, Resolutions.weigh]
  | @move h w n w' hc hm ih =>
      rw [noted_append, ih (hm.plain hp)]
      cases hm with
      | begin task =>
          rw [account.begun, World.total_begin, Nat.add_assoc]
          rfl
      | @act i task stage deed hub stage' hi ha =>
          have hlt := (List.getElem?_eq_some_iff.mp hi).1
          obtain ⟨hd, hg⟩ := hp ⟨task, stage'⟩ (List.mem_set hlt _)
          have htotal := World.total_set account.held hi ⟨task, stage'⟩ hub
          have hstep := account.act ha (hc.fits hi) hg hd
          simp only [ha.counts.resolutions_eq, Resolutions.weigh_countAny]
          omega

namespace Account

/-- Hits are owed at once. -/
def hits : Account where
  held _ := 0
  paid := Deed.hits
  owed := Outcome.hits
  begun _ := rfl
  act ha hf hg hd := by
    rw [Nat.zero_add, Nat.zero_add]
    exact (ha.balance hf hg hd).hits_eq

def misses : Account where
  held := Call.misses
  paid := Deed.misses
  owed := Outcome.misses
  begun _ := rfl
  act ha hf hg hd := (ha.balance hf hg hd).misses_eq

/-- A refresh is made by a fetch or taken over from another call. -/
def refreshes : Account where
  held := Call.refreshes
  paid deed := deed.fetches + deed.shares
  owed := Outcome.refreshes
  begun _ := rfl
  act ha hf hg hd := (ha.balance hf hg hd).refreshes_eq

/-- A resolution is paid for when it begins. -/
def resolutions : Account where
  held := Call.resolutions
  paid := Deed.resolutions
  owed _ := 1
  begun _ := rfl
  act ha hf hg hd := by
    rw [← (ha.balance hf hg hd).resolutions_eq]
    cases ha <;> rfl

/-- A resolution stays one. -/
def tasks : Account where
  held call := if call.task.resolves then 1 else 0
  paid := Deed.resolutions
  owed _ := 0
  begun _ := rfl
  act {_ _ _ task _ stage' deed} ha _ _ _ := by
    have howed : ((deed.outcome? task stage').elim 0 fun _ => 0) = 0 := by
      cases deed.outcome? task stage' <;> rfl
    rw [howed]
    cases ha <;> rfl

end Account

/-! ## Settled worlds -/

/-- All calls have ended, none because it was dropped, and only resolutions have looked anything
up. -/
structure World.Settled (w : World) : Prop where
  done : ∀ call ∈ w.calls, ∃ answer, call.stage = .done answer
  looks : ∀ call ∈ w.calls, ∀ key, call.task ≠ .get key

def Call.isSettled : Call → Bool
  | ⟨.get _, _⟩ => false
  | ⟨_, .done _⟩ => true
  | _ => false

theorem Call.isSettled_iff {call : Call} :
    call.isSettled = true ↔
      (∃ answer, call.stage = .done answer) ∧ ∀ key, call.task ≠ .get key := by
  obtain ⟨task, stage⟩ := call
  cases task <;> cases stage <;> simp [isSettled]

instance : Decidable w.Settled :=
  decidable_of_iff (∀ call ∈ w.calls, call.isSettled = true) <| by
    simp only [Call.isSettled_iff]
    exact ⟨fun hs => ⟨fun call hc => (hs call hc).1, fun call hc => (hs call hc).2⟩,
      fun hs call hc => ⟨hs.done call hc, hs.looks call hc⟩⟩

theorem World.Settled.plain (hs : w.Settled) : w.Plain := by
  intro call hmem
  obtain ⟨answer, ha⟩ := hs.done call hmem
  exact ⟨by simp [ha], hs.looks call hmem⟩

/-- What the calls hold that have ended is told by their tasks. -/
theorem World.Settled.total_eq (hs : w.Settled) (weight : Call → Nat) (p : Task → Bool)
    (hw : ∀ task answer, weight ⟨task, .done answer⟩ = if p task then 1 else 0) :
    w.total weight = w.calls.countP fun call => p call.task := by
  have hdone := hs.done
  unfold World.total
  generalize w.calls = calls at hdone
  induction calls with
  | nil => rfl
  | cons call calls ih =>
      obtain ⟨task, stage⟩ := call
      obtain ⟨answer, rfl⟩ := hdone _ (List.mem_cons_self ..)
      rw [List.foldr_cons, List.countP_cons, hw,
        ih fun call hmem => hdone call (List.mem_cons_of_mem _ hmem), Nat.add_comm]

theorem World.Settled.total_eq_zero (hs : w.Settled) (weight : Call → Nat)
    (hw : ∀ task answer, weight ⟨task, .done answer⟩ = 0) : w.total weight = 0 := by
  rw [hs.total_eq weight (fun _ => false) hw, List.countP_false]
  rfl

/-- Without single flight no refresh is taken over. -/
theorem Chronicle.noted_shares {shelf : Shelf} (hc : Chronicle shelf false h w) :
    noted Deed.shares h = 0 := by
  induction hc with
  | start => rfl
  | @move h w n w' hc hm ih =>
      rw [noted_append, ih, Nat.zero_add]
      cases hm with
      | begin task => rfl
      | act hi ha =>
          cases ha with
          | @share now seen _ hs =>
              -- who takes over has observed a generation, which nobody does here
              obtain ⟨g, rfl⟩ : ∃ g, seen = some g := by
                cases seen with
                | none => cases hs
                | some g => exact ⟨g, rfl⟩
              obtain ⟨p, hp⟩ := List.mem_iff_getElem?.mp (((hc.seen hi rfl).eq_some_iff g).mp rfl)
              obtain ⟨w₁, w₂, hc₁, hm, _⟩ := hc.split hp
              cases hm with
              | act _ ha =>
                  cases ha with
                  | observe hsingle => cases hc₁.gate.singleFlight_eq.symm.trans hsingle
          | _ => rfl

/-- What the counters of a settled world tell. Every resolution that may have its kind has one
outcome; hits, misses and refreshes are those that the outcomes account for, and a refresh is a
fetch or, only with single flight, is taken over from another call. -/
structure TotalsSpec (single : Bool) (h : List Note) (w : World) : Prop where
  resolutions_eq : w.hub.shelf.tally.resolutions.hit + w.hub.shelf.tally.resolutions.refreshed +
    w.hub.shelf.tally.resolutions.notFound + w.hub.shelf.tally.resolutions.error =
      w.calls.countP fun call => call.task.resolves
  hits_eq : w.hub.shelf.tally.hits =
    w.hub.shelf.tally.resolutions.hit + w.hub.shelf.tally.resolutions.refreshed
  misses_eq : w.hub.shelf.tally.misses = w.hub.shelf.tally.resolutions.refreshed +
    2 * w.hub.shelf.tally.resolutions.notFound + w.hub.shelf.tally.resolutions.error
  refreshes_eq : w.hub.fetches + noted Deed.shares h =
    w.calls.countP (fun call => call.task = .refresh) +
      w.hub.shelf.tally.resolutions.refreshed + w.hub.shelf.tally.resolutions.notFound +
      w.hub.shelf.tally.resolutions.error
  fetches_eq : single = false → w.hub.fetches =
    w.calls.countP (fun call => call.task = .refresh) +
      w.hub.shelf.tally.resolutions.refreshed + w.hub.shelf.tally.resolutions.notFound +
      w.hub.shelf.tally.resolutions.error
  fetches_le : w.hub.fetches ≤
    w.calls.countP (fun call => call.task = .refresh) +
      w.hub.shelf.tally.resolutions.refreshed + w.hub.shelf.tally.resolutions.notFound +
      w.hub.shelf.tally.resolutions.error

theorem Chronicle.totals (hc : Chronicle (.empty ttl) single h w) (hs : w.Settled) :
    TotalsSpec single h w := by
  have hcounters := hc.counters
  have hhits := hc.balance .hits hs.plain
  have hmisses := hc.balance .misses hs.plain
  have hrefreshes := hc.balance .refreshes hs.plain
  have hresolutions := hc.balance .resolutions hs.plain
  have htasks := hc.balance .tasks hs.plain
  -- calls that have ended hold nothing, but for the refresh that a refresh by itself has made
  simp only [Account.hits, Resolutions.weigh, Outcome.hits, ← hcounters.hits_eq,
    hs.total_eq_zero (fun _ => 0) fun _ _ => rfl] at hhits
  simp only [Account.misses, Resolutions.weigh, Outcome.misses, ← hcounters.misses_eq,
    hs.total_eq_zero Call.misses fun _ _ => rfl] at hmisses
  simp only [Account.refreshes, Resolutions.weigh, Outcome.refreshes, noted_add,
    ← hcounters.fetches_eq,
    hs.total_eq Call.refreshes (· = .refresh) fun _ _ => by simp [Call.refreshes]] at hrefreshes
  simp only [Account.resolutions, Resolutions.weigh,
    hs.total_eq_zero Call.resolutions fun _ _ => rfl] at hresolutions
  simp only [Account.tasks, Resolutions.weigh,
    hs.total_eq (fun call => if call.task.resolves then 1 else 0) Task.resolves fun _ _ => rfl]
    at htasks
  refine ⟨by omega, by omega, by omega, by omega, ?_, by omega⟩
  rintro rfl
  have hshares := hc.noted_shares
  omega

/-! ## What one call counts -/

/-- What an event of a run counts of the resolutions. -/
def CountsAt (start : World) (events : List Event) (q : Nat) (outcome : Option Outcome) : Prop :=
  ∃ w₁ w₂, start.run? (events.take q) = some w₁ ∧ start.run? (events.take (q + 1)) = some w₂ ∧
    w₂.hub.shelf.tally.resolutions = w₁.hub.shelf.tally.resolutions.countAny outcome

variable {start : World} {events : List Event}

/-- The act by which an event of a run takes a call from one stage to another. -/
inductive ActAt (start : World) (events : List Event) (q i : Nat) (task : Task) (stage : Stage)
    (deed : Deed) (stage' : Stage) : Prop where
  | intro {w₁ w₂ : World} (before : start.run? (events.take q) = some w₁)
      (after : start.run? (events.take (q + 1)) = some w₂)
      (hs : w₁.calls[i]? = some ⟨task, stage⟩) (hs' : w₂.calls[i]? = some ⟨task, stage'⟩)
      (ha : Act w₁.hub i task stage deed w₂.hub stage')

theorem ActAt.countsAt {q i : Nat} {task : Task} {stage stage' : Stage} {deed : Deed}
    (ha : ActAt start events q i task stage deed stage') :
    CountsAt start events q (deed.outcome? task stage') := by
  obtain ⟨h₁, h₂, _, _, ha⟩ := ha
  exact ⟨_, _, h₁, h₂, ha.counts.resolutions_eq⟩

theorem ActAt.exists_act {q i : Nat} {task : Task} {stage stage' : Stage} {deed : Deed}
    (ha : ActAt start events q i task stage deed stage') :
    ∃ hub hub', Act hub i task stage deed hub' stage' := by
  obtain ⟨_, _, _, _, ha⟩ := ha
  exact ⟨_, _, ha⟩

theorem ActAt.fits {shelf : Shelf} {q i : Nat} {task : Task} {stage stage' : Stage} {deed : Deed}
    (ha : ActAt (.initial shelf single) events q i task stage deed stage') : stage.Fits task := by
  obtain ⟨h₁, _, hs, _, _⟩ := ha
  exact (Chronicle.of_run h₁).fits hs

/-- A call ends once. -/
theorem ActAt.position_eq {p q i : Nat} {task task₁ : Task} {stage stage' stage₁ stage₁' : Stage}
    {deed deed₁ : Deed} (hp : ActAt start events p i task stage deed stage')
    (hq : ActAt start events q i task₁ stage₁ deed₁ stage₁') (hr : stage'.rank = 0)
    (hr₁ : stage₁'.rank = 0) : p = q := by
  obtain ⟨hp₁, hp₂, hs, hs', ha⟩ := hp
  obtain ⟨hq₁, hq₂, ht, ht', hb⟩ := hq
  have hlt := ha.ceiling.2
  have hlt₁ := hb.ceiling.2
  -- a call that has ended would act again
  rcases Nat.lt_trichotomy p q with hpq | hpq | hqp
  · have hle : stage₁.rank ≤ stage'.rank := World.rank_le_of_take hpq hp₂ hq₁ hs' ht
    omega
  · exact hpq
  · have hle : stage.rank ≤ stage₁'.rank := World.rank_le_of_take hqp hq₂ hp₁ ht' hs
    omega

/-- An event of a call counts nothing, or is an act that counts an outcome. -/
theorem World.countsAt_none_or {shelf : Shelf}
    (hr : (World.initial shelf single).run? events = some w) {i : Nat} {call : Call}
    (hi : w.calls[i]? = some call) {q : Nat} {deed : Deed}
    (hq : ((World.initial shelf single).history events)[q]? = some ⟨i, deed⟩) :
    CountsAt (.initial shelf single) events q none ∨
      ∃ stage stage' outcome,
        ActAt (.initial shelf single) events q i call.task stage deed stage' ∧
          deed.outcome? call.task stage' = some outcome := by
  obtain ⟨w₁, w₂, h₁, hhist, hm, h₂⟩ := World.at_note hr hq
  cases hm with
  | begin task => exact .inl ⟨_, _, h₁, h₂, rfl⟩
  | @act _ task stage _ _ stage' hi₁ ha =>
      have hc := Chronicle.of_run hr
      have hbegun := (Chronicle.of_run h₁).begun hi₁
      rw [hhist] at hbegun
      obtain rfl := hc.begun_inj (hc.begun hi) (List.mem_of_mem_take hbegun)
      have hlt := (List.getElem?_eq_some_iff.mp hi₁).1
      have hact : ActAt (.initial shelf single) events q i call.task stage deed stage' :=
        ⟨h₁, h₂, hi₁, List.getElem?_set_self hlt, ha⟩
      cases ho : deed.outcome? call.task stage' with
      | none => exact .inl (ho ▸ hact.countsAt)
      | some outcome => exact .inr ⟨stage, stage', outcome, hact, ho⟩

/-- A call that is done has ended at some event. -/
theorem World.exists_end (hstart : start.calls = []) (hr : start.run? events = some w) {i : Nat}
    {task : Task} {answer : Answer} (hi : w.calls[i]? = some ⟨task, .done answer⟩) :
    ∃ q stage deed, (start.history events)[q]? = some ⟨i, deed⟩ ∧
      ActAt start events q i task stage deed (.done answer) := by
  induction events using List.reverseRecOn generalizing w with
  | nil =>
      obtain rfl := Option.some.inj hr
      simp [hstart] at hi
  | append_singleton events e ih =>
      rw [World.run?_append] at hr
      obtain ⟨w₁, h₁, hr⟩ := Option.bind_eq_some_iff.mp hr
      obtain ⟨w₂, hs, hr⟩ := Option.bind_eq_some_iff.mp hr
      obtain rfl := Option.some.inj hr
      obtain ⟨n, hn, hm⟩ := Move.of_step hs
      have hhist : start.history (events ++ [e]) = start.history events ++ [n] := by
        rw [World.history_append h₁]
        simp [World.history, hs, hn]
      have hlen := World.length_history h₁
      obtain ⟨_, _, _, hcall⟩ | ⟨_, hold⟩ | ⟨rfl, stage, hold, ha⟩ := hm.call_cases hi
      · cases hcall
      · obtain ⟨q, stage, deed, hq, hp₁, hp₂, ht, ht', ha⟩ := ih h₁ hold
        have hlt : q < events.length := hlen ▸ (List.getElem?_eq_some_iff.mp hq).1
        refine ⟨q, stage, deed, hhist ▸ getElem?_append_of_some hq _, ?_, ?_, ht, ht', ha⟩
        · rwa [List.take_append_of_le_length hlt.le]
        · rwa [List.take_append_of_le_length hlt]
      · refine ⟨events.length, stage, n.deed, ?_, ?_, ?_, hold, hi, ha⟩
        · simp [hhist, ← hlen]
        · rwa [List.take_left]
        · rw [List.take_of_length_le (by simp), World.run?_append, h₁]
          simp [World.run?, hs]

/-- A call that is no resolution, or one of a kind that it may not have, counts no outcome. -/
theorem World.countsAt_none {shelf : Shelf}
    (hr : (World.initial shelf single).run? events = some w) {i : Nat} {call : Call}
    (hi : w.calls[i]? = some call) (ht : call.task.resolves = false) {q : Nat} {deed : Deed}
    (hq : ((World.initial shelf single).history events)[q]? = some ⟨i, deed⟩) :
    CountsAt (.initial shelf single) events q none := by
  rcases World.countsAt_none_or hr hi hq with hn | ⟨stage, stage', outcome, hact, ho⟩
  · exact hn
  · obtain ⟨_, _, ha⟩ := hact.exists_act
    exact absurd (ha.resolves_of_outcome hact.fits ho) (by simp [ht])

/-- A resolution counts one outcome, at the event by which it ends with its result, and nothing at
any other event of its own. -/
def CountsOnce (start : World) (events : List Event) (i : Nat) (id : Identifier)
    (result : Except Failure Url) : Prop :=
  ∃ q deed outcome, (start.history events)[q]? = some ⟨i, deed⟩ ∧
    Closes id deed outcome result ∧ CountsAt start events q (some outcome) ∧
    ∀ p deed', (start.history events)[p]? = some ⟨i, deed'⟩ → p ≠ q →
      CountsAt start events p none

theorem World.countsOnce {shelf : Shelf}
    (hr : (World.initial shelf single).run? events = some w) {i : Nat} {task : Task}
    {answer : Answer} {id : Identifier} {kinds : List Identifier.Kind}
    (hi : w.calls[i]? = some ⟨task, .done answer⟩) (ht : task.resolution? = some (id, kinds))
    (hk : id.checkKind kinds = .ok ()) :
    ∃ result, answer = .url result ∧ CountsOnce (.initial shelf single) events i id result := by
  obtain ⟨q, stage, deed, hq, hend⟩ := World.exists_end rfl hr hi
  obtain ⟨_, _, ha⟩ := hend.exists_act
  obtain ⟨outcome, result, rfl, hcloses, ho⟩ := ha.closes hend.fits ht hk
  refine ⟨result, rfl, q, deed, outcome, hq, hcloses, ho ▸ hend.countsAt, ?_⟩
  intro p deed' hp hpq
  rcases World.countsAt_none_or hr hi hp with hn | ⟨stage₁, stage₁', outcome₁, hact, ho₁⟩
  · exact hn
  · obtain ⟨_, _, ha⟩ := hact.exists_act
    exact absurd (hact.position_eq hend (ha.rank_eq_zero ho₁).2 rfl) hpq

/-! ## Requests beside the calls -/

/-- What happens to a directory: an event of its calls, or a request to the program. -/
inductive Incident where
  | event (e : Event)
  | request (r : Api.Request)

/-- The call that is made to serve a request, if one is. -/
def requestTask? (r : Api.Request) : Option Task :=
  match r.route with
  | .resolve id => some (.resolve id)
  | _ => none

/-- A request begins the call that serves it. -/
def Incident.event? : Incident → Option Event
  | .event e => some e
  | .request r => (requestTask? r).map .begin

/-- A session serves a request by the call of its task, or stays as it is. -/
theorem serve_snd {σ : Type} (source : Source σ) (session : Sidecar.Session σ)
    (r : Api.Request) :
    (session.serve source r).2 =
      match requestTask? r with
      | some task => (session.call source task).2
      | none => session := by
  unfold Sidecar.Session.serve Api.Request.serve requestTask?
  cases r.route with
  | resolve id =>
      have hresolve : (session.resolve source id).2 = (session.call source (.resolve id)).2 := by
        unfold Sidecar.Session.resolve
        split <;> simp [*]
      exact hresolve
  | answer response | health | metrics => rfl

/-! ## Conservation -/

/-- What holds of every run from an empty cache and counters at zero. The size that is reported is
that of the cache. Every resolution that has ended has counted one outcome, which tells its result,
and the other calls have counted none. Where the world is settled, the outcomes determine the other
counters. A request is no more than the call that serves it. -/
structure ConservationSpec (single : Bool) (start : World) (events : List Event) (w : World) :
    Prop where
  cacheSize_eq : w.hub.shelf.tally.cacheSize = w.hub.shelf.cache.size
  counted : ∀ {i : Nat} {task : Task} {answer : Answer} {id : Identifier}
    {kinds : List Identifier.Kind}, w.calls[i]? = some ⟨task, .done answer⟩ →
    task.resolution? = some (id, kinds) → id.checkKind kinds = .ok () →
    ∃ result, answer = .url result ∧ CountsOnce start events i id result
  uncounted : ∀ {i : Nat} {call : Call}, w.calls[i]? = some call →
    call.task.resolves = false → ∀ {q : Nat} {deed : Deed},
    (start.history events)[q]? = some ⟨i, deed⟩ → CountsAt start events q none
  totals : w.Settled → TotalsSpec single (start.history events) w
  served : ∀ {σ : Type} (source : Source σ) (session : Sidecar.Session σ) (r : Api.Request),
    (session.serve source r).2 =
      match requestTask? r with
      | some task => (session.call source task).2
      | none => session

/-- Every run conserves what it counts, whatever happens beside each other in it. -/
theorem World.conservation_of_run {incidents : List Incident}
    (hr : (World.initial (.empty ttl) single).run? (incidents.filterMap Incident.event?) = some w) :
    ConservationSpec single (World.initial (.empty ttl) single)
      (incidents.filterMap Incident.event?) w := by
  have hc := Chronicle.of_run hr
  exact ⟨hc.counters.cacheSize_eq, World.countsOnce hr, World.countsAt_none hr, hc.totals,
    serve_snd⟩

/-! ### A run with every outcome -/

/-- Two resolutions miss. The first refreshes and finds its entry, the second takes the refresh over
and does not. -/
def sharedRun : List Event :=
  let api : Identifier :=
    { sampleService with locator := .api ⟨['v', '1'], by decide, by decide, by decide⟩ }
  let advance := List.map fun i => Event.advance i .epoch
  [.begin (.resolve sampleService), .begin (.resolve api)] ++
    advance [0, 0, 0, 1, 1, 1, 0, 1, 0] ++
    [.arrive 0 .epoch ⟨.ok [⟨sampleService.key, sampleUrl 'x'⟩], 0, 1, 0⟩] ++
    advance [0, 0, 0, 1, 1]

/-- A third resolution hits, a refresh fails, the entry is invalidated, and the next resolution
fails. The last one is of a kind that it may not have. -/
def failingRun : List Event :=
  let advance := List.map fun i => Event.advance i .epoch
  let report : Listing.Report := ⟨.error (.internal "offline"), 1, 0, 0⟩
  advance [2, 2] ++ [.begin .refresh] ++ advance [3, 3, 3] ++ [.arrive 3 .epoch report] ++
    advance [3] ++ [.begin (.invalidate sampleService)] ++ advance [4] ++
    [.begin (.resolveService sampleService)] ++ advance [5, 5, 5, 5, 5] ++
    [.arrive 5 .epoch report] ++ advance [5] ++
    [.begin (.resolveResource sampleService)] ++ advance [6]

/-- The third resolution serves a request. -/
def mixedRun : List Incident :=
  sharedRun.map .event ++
    [.request ⟨"GET", "/health"⟩, .request ⟨"GET", "/resolve?urn=urn:ads:a:b"⟩] ++
    failingRun.map .event

theorem mixedRun_events :
    mixedRun.filterMap Incident.event? =
      sharedRun ++ [.begin (.resolve sampleService)] ++ failingRun := by
  have hhealth : requestTask? ⟨"GET", "/health"⟩ = none := by decide +kernel
  have hresolve : requestTask? ⟨"GET", "/resolve?urn=urn:ads:a:b"⟩ =
      some (.resolve sampleService) := by decide +kernel
  have hself : Incident.event? ∘ Incident.event = some := rfl
  simp [mixedRun, hself, Incident.event?, hhealth, hresolve]

theorem conservation_mixed :
    ∃ w, (World.initial (.empty .tenHours) true).run? (mixedRun.filterMap Incident.event?) =
        some w ∧
      w.Settled ∧ w.hub.shelf.tally.resolutions = ⟨1, 1, 1, 1⟩ ∧ w.hub.shelf.tally.hits = 2 ∧
      w.hub.shelf.tally.misses = 4 ∧ w.hub.fetches = 3 ∧
      ConservationSpec true (World.initial (.empty .tenHours) true)
        (mixedRun.filterMap Incident.event?) w :=
  ⟨_, (congrArg _ mixedRun_events).trans rfl, by decide +kernel, rfl, rfl, rfl, rfl,
    World.conservation_of_run ((congrArg _ mixedRun_events).trans rfl)⟩

end Directory

end Signpost
