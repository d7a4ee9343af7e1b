import Signpost.Proofs.Directory.Act

/-! # What a step counts

Every look-up counts a hit or a miss, a resolution counts how it ended at the step by which it ends,
a fetch counts when it starts, and the size of the cache is reported wherever it may have changed.
Nothing else is counted. -/

namespace Signpost.Directory

/-! ## Outcomes -/

/-- The outcome of a task that resolves; the other tasks have none. -/
def Task.outcome? (task : Task) (outcome : Outcome) : Option Outcome :=
  if task.resolution?.isSome then some outcome else none

/-- What a step counts that did a deed and led to a stage. -/
def Deed.outcome? (task : Task) : Deed → Stage → Option Outcome
  | .looked .first _ (some _), _ => task.outcome? .hit
  | .looked .second _ (some _), _ => task.outcome? .refreshed
  | .looked .second _ none, _ => task.outcome? .notFound
  | .shared, .done _ => task.outcome? .error
  | .published _, .done _ => task.outcome? .error
  | .concluded _, .done _ => task.outcome? .error
  | _, _ => none

def Deed.hits : Deed → Nat
  | .looked _ _ (some _) => 1
  | _ => 0

def Deed.misses : Deed → Nat
  | .looked _ _ none => 1
  | _ => 0

def Deed.fetches : Deed → Nat
  | .fetched _ => 1
  | _ => 0

end Directory

/-- An outcome is counted if there is one. -/
def Resolutions.countAny (r : Resolutions) (outcome : Option Outcome) : Resolutions :=
  outcome.elim r r.count

namespace Directory

def Hub.countAny (hub : Hub) (outcome : Option Outcome) : Hub :=
  outcome.elim hub hub.countResolution

@[simp] theorem Hub.countAny_hits (hub : Hub) (outcome : Option Outcome) :
    (hub.countAny outcome).shelf.tally.hits = hub.shelf.tally.hits := by
  cases outcome <;> rfl

@[simp] theorem Hub.countAny_misses (hub : Hub) (outcome : Option Outcome) :
    (hub.countAny outcome).shelf.tally.misses = hub.shelf.tally.misses := by
  cases outcome <;> rfl

@[simp] theorem Hub.countAny_cacheSize (hub : Hub) (outcome : Option Outcome) :
    (hub.countAny outcome).shelf.tally.cacheSize = hub.shelf.tally.cacheSize := by
  cases outcome <;> rfl

@[simp] theorem Hub.countAny_resolutions (hub : Hub) (outcome : Option Outcome) :
    (hub.countAny outcome).shelf.tally.resolutions =
      hub.shelf.tally.resolutions.countAny outcome := by
  cases outcome <;> rfl

@[simp] theorem Hub.countAny_cache (hub : Hub) (outcome : Option Outcome) :
    (hub.countAny outcome).shelf.cache = hub.shelf.cache := by
  cases outcome <;> rfl

@[simp] theorem Hub.countAny_fetches (hub : Hub) (outcome : Option Outcome) :
    (hub.countAny outcome).fetches = hub.fetches := by
  cases outcome <;> rfl

theorem Hub.found_eq (hub : Hub) (task : Task) (round : Round) (stamp : Time.Instant)
    (url : Option Url) (next : Stage) :
    (hub.found task round url).1 =
      hub.countAny ((Deed.looked round stamp url).outcome? task next) := by
  cases ht : task.resolution? <;> cases round <;> cases url <;>
    simp [Hub.found, ht, Deed.outcome?, Task.outcome?, Hub.countAny]

/-- A deed after which a call goes on, or not, as a refresh has ended. -/
def Deed.isConclusion : Deed → Bool
  | .shared => true
  | .published _ => true
  | .concluded _ => true
  | _ => false

section Conclusion

variable {deed : Deed} (hd : deed.isConclusion = true)

include hd

theorem Deed.counts_of_isConclusion : deed.hits = 0 ∧ deed.misses = 0 ∧ deed.fetches = 0 := by
  cases deed <;> first | exact ⟨rfl, rfl, rfl⟩ | cases hd

theorem Deed.outcome?_done (task : Task) (answer : Answer) :
    deed.outcome? task (.done answer) = task.outcome? .error := by
  cases deed <;> first | rfl | cases hd

theorem Deed.outcome?_peeking (task : Task) (round : Round) (stamp : Time.Instant) :
    deed.outcome? task (.peeking round stamp) = none := by
  cases deed <;> first | rfl | cases hd

theorem Hub.conclude_eq (hub : Hub) (now : Time.Instant) (task : Task)
    (outcome : Except Failure Nat) :
    (hub.conclude now task outcome).1 =
      hub.countAny (deed.outcome? task (hub.conclude now task outcome).2) := by
  cases ht : task.resolution? <;> cases outcome <;>
    simp [Hub.conclude, ht, Deed.outcome?_done hd, Deed.outcome?_peeking hd, Task.outcome?,
      Hub.countAny]

end Conclusion

/-! ## Steps -/

/-- What a step adds to the counters. A reported size stays right. -/
structure CountSpec (hub : Hub) (task : Task) (deed : Deed) (hub' : Hub) (stage' : Stage) :
    Prop where
  hits_eq : hub'.shelf.tally.hits = hub.shelf.tally.hits + deed.hits
  misses_eq : hub'.shelf.tally.misses = hub.shelf.tally.misses + deed.misses
  resolutions_eq : hub'.shelf.tally.resolutions =
    hub.shelf.tally.resolutions.countAny (deed.outcome? task stage')
  fetches_eq : hub'.fetches = hub.fetches + deed.fetches
  cacheSize_eq : hub.shelf.tally.cacheSize = hub.shelf.cache.size →
    hub'.shelf.tally.cacheSize = hub'.shelf.cache.size

/-- The end of a look-up counts an outcome beside the hit or the miss. -/
theorem CountSpec.looked {hub hub₁ : Hub} {task : Task} {round : Round} {stamp : Time.Instant}
    {url : Option Url} {next : Stage}
    (hhits : hub₁.shelf.tally.hits = hub.shelf.tally.hits + (Deed.looked round stamp url).hits)
    (hmisses : hub₁.shelf.tally.misses =
      hub.shelf.tally.misses + (Deed.looked round stamp url).misses)
    (hres : hub₁.shelf.tally.resolutions = hub.shelf.tally.resolutions)
    (hfetches : hub₁.fetches = hub.fetches)
    (hsize : hub.shelf.tally.cacheSize = hub.shelf.cache.size →
      hub₁.shelf.tally.cacheSize = hub₁.shelf.cache.size) :
    CountSpec hub task (.looked round stamp url) (hub₁.found task round url).1 next := by
  rw [Hub.found_eq _ task round stamp url next]
  constructor
  case hits_eq => simp [hhits]
  case misses_eq => simp [hmisses]
  case resolutions_eq => simp [hres]
  case fetches_eq => simp [hfetches, Deed.fetches]
  case cacheSize_eq => simpa using hsize

/-- A conclusion counts nothing but an outcome. -/
theorem CountSpec.concluded {hub hub₁ : Hub} {now : Time.Instant} {task : Task}
    {outcome : Except Failure Nat} {deed : Deed} (hd : deed.isConclusion = true)
    (hshelf : hub₁.shelf = hub.shelf) (hfetches : hub₁.fetches = hub.fetches) :
    CountSpec hub task deed (hub₁.conclude now task outcome).1
      (hub₁.conclude now task outcome).2 := by
  have hnone := Deed.counts_of_isConclusion hd
  rw [Hub.conclude_eq hd _ now task outcome]
  constructor
  case hits_eq => simp [hshelf, hnone.1]
  case misses_eq => simp [hshelf, hnone.2.1]
  case resolutions_eq => simp [hshelf]
  case fetches_eq => simp [hfetches, hnone.2.2]
  case cacheSize_eq => simp [hshelf]

theorem Act.counts {hub hub' : Hub} {me : Nat} {task : Task} {stage stage' : Stage} {deed : Deed}
    (ha : Act hub me task stage deed hub' stage') : CountSpec hub task deed hub' stage' := by
  cases ha with
  | fresh | absent => exact .looked rfl rfl rfl rfl id
  | @settle round stamp =>
      unfold Hub.settle Shelf.settle
      cases hp : hub.shelf.cache.peek (Hub.lookupKey task) stamp with
      | fresh url => exact .looked rfl rfl rfl rfl id
      | absent => exact .looked rfl rfl rfl rfl id
      | expired => exact .looked rfl rfl rfl rfl (fun _ => rfl)
  | @arrive now gated ticket report =>
      cases ho : report.outcome <;> simp only [Hub.arrive, ho] <;>
        exact ⟨rfl, rfl, rfl, rfl, id⟩
  | share =>
      rw [Hub.share_eq]
      exact .concluded rfl rfl rfl
  | publish | conclude => exact .concluded rfl rfl rfl
  | invalidate | clear | store | put | sweep => exact ⟨rfl, rfl, rfl, rfl, fun _ => rfl⟩
  | _ => exact ⟨rfl, rfl, rfl, rfl, id⟩

/-! ## The stages of a task -/

/-- Whether a task resolves an identifier of a kind that it may have. -/
def Task.resolves (task : Task) : Bool :=
  match task.resolution? with
  | some (id, kinds) => (id.checkKind kinds).isOk
  | none => false

theorem Task.resolves_iff {task : Task} :
    task.resolves = true ↔
      ∃ id kinds, task.resolution? = some (id, kinds) ∧ id.checkKind kinds = .ok () := by
  unfold resolves
  cases task.resolution? with
  | none => simp
  | some resolution =>
      obtain ⟨id, kinds⟩ := resolution
      cases hk : id.checkKind kinds <;> simp [hk, Except.isOk, Except.toBool, and_assoc]

/-- A stage at which a call with this task may be. -/
def Stage.Fits (task : Task) : Stage → Prop
  | .peeking .first _ => task.resolves = true ∨ ∃ key, task = .get key
  | .settling .first _ => task.resolves = true ∨ ∃ key, task = .get key
  | .missed => task.resolves = true
  | .joining _ => task.resolves = true ∨ task = .refresh
  | .queued _ => task.resolves = true ∨ task = .refresh
  | .fetching _ _ => task.resolves = true ∨ task = .refresh
  | .storing _ _ _ => task.resolves = true ∨ task = .refresh
  | .publishing _ _ => task.resolves = true ∨ task = .refresh
  | .peeking .second _ => task.resolves = true
  | .settling .second _ => task.resolves = true
  | .writing _ => task = .cleanup ∨ ∃ key url, task = .put key url
  | _ => True

theorem Stage.Fits.found {hub : Hub} {task : Task} {round : Round} {url : Option Url}
    (ht : task.resolves = true ∨ round = .first ∧ ∃ key, task = .get key) :
    (hub.found task round url).2.Fits task := by
  rcases ht with ht | ⟨_, key, rfl⟩
  · exact Hub.found_stage (P := Stage.Fits task) ht (fun _ => trivial) _ _ _ _
  · exact trivial

theorem Stage.Fits.conclude {hub : Hub} {now : Time.Instant} {task : Task}
    {outcome : Except Failure Nat} (ht : task.resolves = true ∨ task = .refresh) :
    (hub.conclude now task outcome).2.Fits task := by
  rcases ht with ht | rfl
  · exact Hub.conclude_stage (P := Stage.Fits task) (fun _ => ht) (fun _ => trivial) _ _ _ _
  · exact trivial

/-- Only resolutions look anything up a second time. -/
theorem Stage.Fits.looks {task : Task} {round : Round} {stamp : Time.Instant}
    (hf : Stage.Fits task (.peeking round stamp) ∨ Stage.Fits task (.settling round stamp)) :
    task.resolves = true ∨ round = .first ∧ ∃ key, task = .get key := by
  cases round with
  | first => exact (or_self_iff.mp hf).imp_right fun hg => ⟨rfl, hg⟩
  | second => exact .inl (or_self_iff.mp hf)

theorem Act.fits {hub hub' : Hub} {me : Nat} {task : Task} {stage stage' : Stage} {deed : Deed}
    (ha : Act hub me task stage deed hub' stage') (hf : stage.Fits task) : stage'.Fits task := by
  cases ha with
  | resolve ht hk => exact .inl (Task.resolves_iff.mpr ⟨_, _, ht, hk⟩)
  | get ht => exact .inr ⟨_, ht⟩
  | refresh ht => exact .inr ht
  | prepare ht => exact ht
  | fresh | absent => exact .found (Stage.Fits.looks (.inl hf))
  | @expired round => cases round <;> exact hf
  | settle => exact .found (Stage.Fits.looks (.inr hf))
  | observe | fetchAlone => exact .inl hf
  | join | enter | store => exact hf
  | @arrive now gated ticket report =>
      cases ho : report.outcome <;> simp only [Hub.arrive, ho] <;> exact hf
  | share =>
      rw [Hub.share_eq]
      exact .conclude hf
  | publish | conclude => exact .conclude hf
  | _ => exact trivial

/-! ## Balances -/

/-- How many hits a resolution has had that ends so. -/
def Outcome.hits : Outcome → Nat
  | .hit => 1
  | .refreshed => 1
  | .notFound => 0
  | .error => 0

/-- How many misses a resolution has had that ends so. -/
def Outcome.misses : Outcome → Nat
  | .hit => 0
  | .refreshed => 1
  | .notFound => 2
  | .error => 1

/-- How many refreshes a resolution has made or shared that ends so. -/
def Outcome.refreshes : Outcome → Nat
  | .hit => 0
  | .refreshed => 1
  | .notFound => 1
  | .error => 1

/-- Whether a call takes over the outcome of another one's refresh. -/
def Deed.shares : Deed → Nat
  | .shared => 1
  | _ => 0

/-- Whether a deed is the beginning of a resolution. -/
def Deed.resolutions : Deed → Nat
  | .begun task => if task.resolves then 1 else 0
  | _ => 0

/-- The misses of a call that no outcome accounts for yet. -/
def Call.misses (call : Call) : Nat :=
  match call.stage with
  | .missed => 1
  | .joining _ | .queued _ | .fetching _ _ | .storing _ _ _ | .publishing _ _ =>
    if call.task.resolves then 1 else 0
  | .peeking .second _ | .settling .second _ => 1
  | _ => 0

/-- The refreshes of a call that no outcome accounts for: a resolution is going to have one. -/
def Call.refreshes (call : Call) : Nat :=
  match call.stage with
  | .fetching _ _ | .storing _ _ _ | .publishing _ _ => 1
  | .peeking .second _ | .settling .second _ => 1
  | .done _ => if call.task = .refresh then 1 else 0
  | _ => 0

/-- Whether a call is a resolution that no outcome accounts for yet. -/
def Call.resolutions (call : Call) : Nat :=
  match call.stage with
  | .done _ => 0
  | _ => if call.task.resolves then 1 else 0

/-- The outcome that a step counts accounts for what its call has had. -/
structure BalanceSpec (task : Task) (stage : Stage) (deed : Deed) (stage' : Stage) : Prop where
  hits_eq : deed.hits = (deed.outcome? task stage').elim 0 Outcome.hits
  misses_eq : Call.misses ⟨task, stage⟩ + deed.misses =
    Call.misses ⟨task, stage'⟩ + (deed.outcome? task stage').elim 0 Outcome.misses
  refreshes_eq : Call.refreshes ⟨task, stage⟩ + (deed.fetches + deed.shares) =
    Call.refreshes ⟨task, stage'⟩ + (deed.outcome? task stage').elim 0 Outcome.refreshes
  resolutions_eq : Call.resolutions ⟨task, stage⟩ =
    Call.resolutions ⟨task, stage'⟩ + (deed.outcome? task stage').elim 0 fun _ => 1

theorem Task.ne_refresh_of_resolves {task : Task} (ht : task.resolves = true) :
    task ≠ .refresh := by
  rintro rfl
  cases ht

theorem Task.outcome?_of_resolves {task : Task} (ht : task.resolves = true) (outcome : Outcome) :
    task.outcome? outcome = some outcome := by
  obtain ⟨id, kinds, ht, -⟩ := Task.resolves_iff.mp ht
  simp [Task.outcome?, ht]

theorem BalanceSpec.looked {hub : Hub} {task : Task} {stage : Stage} {round : Round}
    {stamp : Time.Instant} {url : Option Url} (ht : task.resolves = true)
    (hs : stage = .peeking round stamp ∨ stage = .settling round stamp) :
    BalanceSpec task stage (.looked round stamp url) (hub.found task round url).2 := by
  have hoc := Task.outcome?_of_resolves ht
  obtain ⟨id, kinds, hres, -⟩ := Task.resolves_iff.mp ht
  have hne := Task.ne_refresh_of_resolves ht
  rw [Hub.found_of_resolution hres]
  rcases hs with rfl | rfl <;> cases round <;> cases url <;>
    refine ⟨?_, ?_, ?_, ?_⟩ <;>
    simp [Deed.outcome?, hoc, ht, hne, Deed.hits, Deed.misses, Deed.fetches, Deed.shares,
      Outcome.hits, Outcome.misses, Outcome.refreshes, Call.misses, Call.refreshes,
      Call.resolutions]

theorem BalanceSpec.concluded {hub : Hub} {now : Time.Instant} {task : Task} {stage : Stage}
    {deed : Deed} {outcome : Except Failure Nat} (ht : task.resolves = true ∨ task = .refresh)
    (hd : deed.isConclusion = true)
    (hmisses : Call.misses ⟨task, stage⟩ = if task.resolves then 1 else 0)
    (hrefreshes : Call.refreshes ⟨task, stage⟩ + deed.shares = 1)
    (hresolutions : Call.resolutions ⟨task, stage⟩ = if task.resolves then 1 else 0) :
    BalanceSpec task stage deed (hub.conclude now task outcome).2 := by
  -- the call holds one refresh, and one miss if it is a resolution
  have hnone := Deed.counts_of_isConclusion hd
  have hpaid : deed.hits = 0 ∧ Call.misses ⟨task, stage⟩ + deed.misses =
      (if task.resolves then 1 else 0) ∧
      Call.refreshes ⟨task, stage⟩ + (deed.fetches + deed.shares) = 1 := by
    rw [hnone.1, hnone.2.1, hnone.2.2, hmisses, Nat.zero_add, hrefreshes]
    exact ⟨rfl, rfl, rfl⟩
  rcases ht with ht | rfl
  · have hdone (answer : Answer) : deed.outcome? task (.done answer) = some .error :=
      (Deed.outcome?_done hd task answer).trans (Task.outcome?_of_resolves ht .error)
    have hne := Task.ne_refresh_of_resolves ht
    obtain ⟨id, kinds, hres, -⟩ := Task.resolves_iff.mp ht
    rw [Hub.conclude_of_resolution hres]
    rw [ht] at hpaid hresolutions
    cases outcome with
    | ok n =>
        refine ⟨?_, ?_, ?_, ?_⟩ <;>
          simp only [Deed.outcome?_peeking hd, hpaid, hresolutions] <;>
          simp [Call.misses, Call.refreshes, Call.resolutions, ht]
    | error f =>
        refine ⟨?_, ?_, ?_, ?_⟩ <;> simp only [hdone, hpaid, hresolutions] <;>
          simp [Call.misses, Call.refreshes, Call.resolutions, hne, Outcome.hits, Outcome.misses,
            Outcome.refreshes]
  · have hdone : deed.outcome? .refresh (.done (.refreshed outcome)) = none :=
      Deed.outcome?_done hd _ _
    have hconclude : (hub.conclude now .refresh outcome).2 = .done (.refreshed outcome) := rfl
    rw [hconclude]
    refine ⟨?_, ?_, ?_, ?_⟩ <;> simp only [hdone, hpaid, hresolutions] <;> rfl

/-- Every step that is no drop keeps the balance of a call that is no look-up by itself. -/
theorem Act.balance {hub hub' : Hub} {me : Nat} {task : Task} {stage stage' : Stage} {deed : Deed}
    (ha : Act hub me task stage deed hub' stage') (hf : stage.Fits task)
    (hg : ∀ key, task ≠ .get key) (hd : stage' ≠ .dropped) :
    BalanceSpec task stage deed stage' := by
  -- what is looked up belongs to a resolution
  have looks : ∀ {round stamp}, Stage.Fits task (.peeking round stamp) ∨
      Stage.Fits task (.settling round stamp) → task.resolves = true := by
    intro round stamp hf
    rcases Stage.Fits.looks hf with ht | ⟨_, key, ht⟩
    · exact ht
    · exact absurd ht (hg key)
  cases ha with
  | refuse ht hk =>
      have hne : task ≠ .refresh := by
        rintro rfl
        cases ht
      have hnot : task.resolves = false := by
        simp [Task.resolves, ht, hk, Except.isOk, Except.toBool]
      refine ⟨rfl, rfl, ?_, ?_⟩ <;>
        simp [Call.refreshes, Call.resolutions, Deed.outcome?, Deed.fetches, Deed.shares, hne, hnot]
  | get ht => exact absurd ht (hg _)
  | refresh ht | invalidate ht | clear ht =>
      subst ht
      exact ⟨rfl, rfl, rfl, rfl⟩
  | fresh | absent => exact .looked (looks (.inl hf)) (.inl rfl)
  | settle => exact .looked (looks (.inr hf)) (.inr rfl)
  | @expired round => cases round <;> exact ⟨rfl, rfl, rfl, rfl⟩
  | observe | fetchAlone =>
      have ht : task.resolves = true := hf
      refine ⟨rfl, ?_, rfl, rfl⟩
      simp [Call.misses, Deed.misses, Deed.outcome?, ht]
  | @arrive now gated ticket report =>
      cases ho : report.outcome <;> simp only [Hub.arrive, ho] <;> exact ⟨rfl, rfl, rfl, rfl⟩
  | share =>
      rw [Hub.share_eq]
      exact .concluded hf rfl rfl rfl rfl
  | publish | conclude => exact .concluded hf rfl rfl rfl rfl
  | put | sweep =>
      obtain rfl | ⟨key, url, rfl⟩ := hf <;> exact ⟨rfl, rfl, rfl, rfl⟩
  | drop => exact absurd rfl hd
  | _ => exact ⟨rfl, rfl, rfl, rfl⟩

/-! ## The end of a resolution -/

/-- A resolution that ends by a deed counts an outcome and has a result: a look-up before any
refresh has hit, one behind a refresh tells whether there is an entry, and a failed refresh, its own
or a shared one, is its error. -/
inductive Closes (id : Identifier) : Deed → Outcome → Except Failure Url → Prop where
  | hit {stamp url} : Closes id (.looked .first stamp (some url)) .hit (.ok (id.locate url))
  | refreshed {stamp url} :
      Closes id (.looked .second stamp (some url)) .refreshed (.ok (id.locate url))
  | notFound {stamp} :
      Closes id (.looked .second stamp none) .notFound (.error (.notFound id.key))
  | published {f} : Closes id (.published (.error f)) .error (.error f)
  | concluded {f} : Closes id (.concluded (.error f)) .error (.error f)
  | shared {f} : Closes id .shared .error (.error f)

theorem Closes.of_found {hub : Hub} {task : Task} {round : Round} {url : Option Url}
    {id : Identifier} {kinds : List Identifier.Kind} (ht : task.resolution? = some (id, kinds))
    {answer : Answer} (hs : Stage.done answer = (hub.found task round url).2)
    (stamp : Time.Instant) :
    ∃ outcome result, answer = .url result ∧ Closes id (.looked round stamp url) outcome result ∧
      (Deed.looked round stamp url).outcome? task (.done answer) = some outcome := by
  rw [Hub.found_of_resolution ht] at hs
  have hoc : ∀ outcome, task.outcome? outcome = some outcome := fun outcome => by
    simp [Task.outcome?, ht]
  cases round <;> cases url <;> cases hs
  · exact ⟨_, _, rfl, .hit, hoc _⟩
  · exact ⟨_, _, rfl, .notFound, hoc _⟩
  · exact ⟨_, _, rfl, .refreshed, hoc _⟩

theorem Hub.outcome_of_conclude {hub : Hub} {now : Time.Instant} {task : Task}
    {outcome : Except Failure Nat} {id : Identifier} {kinds : List Identifier.Kind}
    (ht : task.resolution? = some (id, kinds)) {answer : Answer}
    (hs : Stage.done answer = (hub.conclude now task outcome).2) :
    ∃ f, outcome = .error f ∧ answer = .url (.error f) := by
  rw [Hub.conclude_of_resolution ht] at hs
  cases outcome <;> cases hs
  exact ⟨_, rfl, rfl⟩

/-- The step by which a resolution ends counts its outcome. -/
theorem Act.closes {hub hub' : Hub} {me : Nat} {task : Task} {stage : Stage} {deed : Deed}
    {answer : Answer} (ha : Act hub me task stage deed hub' (.done answer))
    (hf : stage.Fits task) {id : Identifier} {kinds : List Identifier.Kind}
    (ht : task.resolution? = some (id, kinds)) (hk : id.checkKind kinds = .ok ()) :
    ∃ outcome result, answer = .url result ∧ Closes id deed outcome result ∧
      deed.outcome? task (.done answer) = some outcome := by
  have herror : task.outcome? .error = some .error := by simp [Task.outcome?, ht]
  generalize hs : Stage.done answer = stage' at ha
  cases ha with
  | refuse ht' hk' =>
      cases ht.symm.trans ht'
      cases hk.symm.trans hk'
  | invalidate htask | clear htask => simp [htask, Task.resolution?] at ht
  | fresh | absent | settle =>
      rw [← hs]
      exact Closes.of_found ht hs _
  | share =>
      rw [← hs]
      rw [Hub.share_eq] at hs
      obtain ⟨f, _, rfl⟩ := Hub.outcome_of_conclude ht hs
      exact ⟨_, _, rfl, .shared, herror⟩
  | publish =>
      rw [← hs]
      obtain ⟨f, rfl, rfl⟩ := Hub.outcome_of_conclude ht hs
      exact ⟨_, _, rfl, .published, herror⟩
  | conclude =>
      rw [← hs]
      obtain ⟨f, rfl, rfl⟩ := Hub.outcome_of_conclude ht hs
      exact ⟨_, _, rfl, .concluded, herror⟩
  | put | sweep =>
      obtain rfl | ⟨key, url, rfl⟩ := hf <;> cases ht
  | @arrive now gated ticket report =>
      cases ho : report.outcome <;> simp [Hub.arrive, ho] at hs
  | _ => cases hs

theorem Deed.outcome?_found {hub : Hub} {task : Task} {round : Round} {stamp : Time.Instant}
    {url : Option Url} {outcome : Outcome}
    (ho : (Deed.looked round stamp url).outcome? task (hub.found task round url).2 =
      some outcome) :
    task.resolution?.isSome = true ∧ (hub.found task round url).2.rank = 0 := by
  cases ht : task.resolution? with
  | none => cases round <;> cases url <;> simp [Deed.outcome?, Task.outcome?, ht] at ho
  | some resolution =>
      obtain ⟨id, kinds⟩ := resolution
      rw [Hub.found_of_resolution ht] at ho ⊢
      cases round <;> cases url <;> first | exact ⟨rfl, rfl⟩ | cases ho

theorem Deed.outcome?_conclude {deed : Deed} (hd : deed.isConclusion = true) {hub : Hub}
    {now : Time.Instant} {task : Task} {result : Except Failure Nat} {outcome : Outcome}
    (ho : deed.outcome? task (hub.conclude now task result).2 = some outcome) :
    task.resolution?.isSome = true ∧ (hub.conclude now task result).2.rank = 0 := by
  cases ht : task.resolution? with
  | none =>
      have hdone : (hub.conclude now task result).2 = .done (.refreshed result) := by
        simp [Hub.conclude, ht]
      simp [hdone, Deed.outcome?_done hd, Task.outcome?, ht] at ho
  | some resolution =>
      obtain ⟨id, kinds⟩ := resolution
      rw [Hub.conclude_of_resolution ht] at ho ⊢
      cases result with
      | ok n => simp [Deed.outcome?_peeking hd] at ho
      | error f => exact ⟨rfl, rfl⟩

/-- Only the last step of a resolution counts an outcome. -/
theorem Act.rank_eq_zero {hub hub' : Hub} {me : Nat} {task : Task} {stage stage' : Stage}
    {deed : Deed} (ha : Act hub me task stage deed hub' stage') {outcome : Outcome}
    (ho : deed.outcome? task stage' = some outcome) :
    task.resolution?.isSome = true ∧ stage'.rank = 0 := by
  cases ha with
  | fresh | absent | settle => exact Deed.outcome?_found ho
  | share =>
      rw [Hub.share_eq] at ho ⊢
      exact Deed.outcome?_conclude rfl ho
  | publish | conclude => exact Deed.outcome?_conclude rfl ho
  | _ => cases ho

/-- Only a resolution of a kind that it may have counts an outcome. -/
theorem Act.resolves_of_outcome {hub hub' : Hub} {me : Nat} {task : Task} {stage stage' : Stage}
    {deed : Deed} (ha : Act hub me task stage deed hub' stage') (hf : stage.Fits task)
    {outcome : Outcome} (ho : deed.outcome? task stage' = some outcome) :
    task.resolves = true := by
  have ht := (ha.rank_eq_zero ho).1
  have looks : ∀ {round stamp}, Stage.Fits task (.peeking round stamp) ∨
      Stage.Fits task (.settling round stamp) → task.resolves = true := by
    intro round stamp hf
    rcases Stage.Fits.looks hf with hr | ⟨_, key, rfl⟩
    · exact hr
    · cases ht
  have refreshes : task.resolves = true ∨ task = .refresh → task.resolves = true := by
    rintro (hr | rfl)
    · exact hr
    · cases ht
  cases ha with
  | fresh | absent => exact looks (.inl hf)
  | settle => exact looks (.inr hf)
  | share | publish | conclude => exact refreshes hf
  | _ => cases ho

end Signpost.Directory
