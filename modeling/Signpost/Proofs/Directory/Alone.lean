import Mathlib.Logic.Relation
import Signpost.Proofs.Cache.Operations
import Signpost.Proofs.Directory.Provenance
import Signpost.Proofs.Directory.Queue

/-! # A resolution alone

Where all other calls have ended and the clock stands still, a resolution has one way to go. It
answers from a fresh entry, or fetches once and answers from the listing. -/

namespace Signpost

/-! ## Look-ups around a refresh -/

/-- The cache with a key taken out. -/
structure Cache.Without (key : String) (c c' : Cache) : Prop where
  ttl_eq : c'.ttl = c.ttl
  get?_eq : ∀ other, c'.table.get? other = if other = key then none else c.table.get? other

/-- What is stored is fresh at once only if it has a lifetime. -/
theorem Cache.stored_isFresh_now_iff {c : Cache} (hc : 0 ≤ c.ttl.ns) (url : Url)
    {now : Time.Instant} (hnow : now.ns < Time.latestNs) :
    (c.stored url now).isFresh now = true ↔ 0 < c.ttl.ns := by
  rw [stored_isFresh_iff hc]
  omega

/-- The entry of a key that a listing brings, if it is fresh when it is stored. -/
def Cache.relisted (c : Cache) (key : String) (entries : List Listing.Entry) (now : Time.Instant) :
    Option Stored :=
  ((Listing.lastUrl? key entries).map (c.stored · now)).filter (·.isFresh now)

section

variable {c : Cache} {key : String} {entries : List Listing.Entry} {now : Time.Instant}

theorem Cache.relisted_eq_some_iff (hc : 0 ≤ c.ttl.ns) (hnow : now.ns < Time.latestNs)
    {entry : Stored} :
    c.relisted key entries now = some entry ↔
      ∃ url, Listing.lastUrl? key entries = some url ∧ 0 < c.ttl.ns ∧
        entry = c.stored url now := by
  rw [relisted, Option.filter_eq_some_iff, Option.map_eq_some_iff]
  constructor
  · rintro ⟨⟨url, hlast, rfl⟩, hfresh⟩
    exact ⟨url, hlast, (stored_isFresh_now_iff hc url hnow).mp hfresh, rfl⟩
  · rintro ⟨url, hlast, hpos, rfl⟩
    exact ⟨⟨url, hlast, rfl⟩, (stored_isFresh_now_iff hc url hnow).mpr hpos⟩

theorem Cache.relisted_eq_none_iff (hc : 0 ≤ c.ttl.ns) (hnow : now.ns < Time.latestNs) :
    c.relisted key entries now = none ↔
      Listing.lastUrl? key entries = none ∨ c.ttl.ns = 0 := by
  have hpos : ¬0 < c.ttl.ns ↔ c.ttl.ns = 0 := by omega
  rw [← hpos, Option.eq_none_iff_forall_ne_some]
  simp only [ne_eq, relisted_eq_some_iff hc hnow, not_exists, not_and]
  cases Listing.lastUrl? key entries with
  | none => simp
  | some url => simp

/-- A listing that is stored brings a key back that was taken out, as far as it is fresh. -/
theorem Cache.Without.get?_putAll_filter {c' : Cache} (h : c.Without key c') :
    ((c'.putAll entries now).table.get? key).filter (·.isFresh now) =
      c.relisted key entries now := by
  rw [Cache.get?_putAll, stored_congr h.ttl_eq, h.get?_eq, if_pos rfl, Option.or_none, relisted]

theorem Cache.Without.get?_putAll_of_ne {c' : Cache} (h : c.Without key c') {other : String}
    (hne : other ≠ key) :
    (c'.putAll entries now).table.get? other = (c.putAll entries now).table.get? other := by
  rw [Cache.get?_putAll, Cache.get?_putAll, stored_congr h.ttl_eq, h.get?_eq, if_neg hne]

end

namespace Shelf

@[simp] theorem get_ttl (s : Shelf) (key : String) (now : Time.Instant) :
    (s.get key now).2.cache.ttl = s.cache.ttl :=
  s.perform_ttl (.get key now)

/-- A look-up that finds an entry leaves the cache as it is. -/
theorem get_cache_of_some {s : Shelf} {key : String} {now : Time.Instant} {url : Url}
    (h : (s.get key now).1 = some url) : (s.get key now).2.cache = s.cache := by
  obtain ⟨entry, hentry, hfresh, -⟩ := get_fst_eq_some_iff.mp h
  rw [← settle_eq_get, settle_cache, Cache.settle, hentry]
  simp [hfresh]

theorem get_fst_eq_none_iff {s : Shelf} {key : String} {now : Time.Instant} :
    (s.get key now).1 = none ↔
      ∀ entry, s.cache.table.get? key = some entry → entry.isFresh now = false := by
  rw [get_fst, Option.map_eq_none_iff, Option.filter_eq_none_iff]
  simp

/-- A look-up that finds nothing takes out what has expired. -/
theorem without_of_get_none {s : Shelf} {key : String} {now : Time.Instant}
    (h : (s.get key now).1 = none) : s.cache.Without key (s.get key now).2.cache := by
  refine ⟨s.get_ttl key now, fun other => ?_⟩
  rw [get?_get]
  by_cases hk : other = key
  · subst hk
    rw [get_fst, Option.map_eq_none_iff] at h
    simp [h]
  · simp [hk]

end Shelf

namespace Directory

open Listing (Report)

variable {me : Nat} {now : Time.Instant} {report : Report} {task : Task}

/-! ## The way of a call alone -/

/-- What happens to a call that runs alone: it takes its steps, and its fetch ends. -/
inductive Event.Alone (i : Nat) (now : Time.Instant) (report : Report) : Event → Prop where
  | advance : Alone i now report (.advance i now)
  | arrive : Alone i now report (.arrive i now report)

/-- The next step of a call alone, none where it has ended. -/
def Hub.next? (me : Nat) (now : Time.Instant) (report : Report) (task : Task) :
    Hub × Stage → Option (Hub × Stage)
  | (hub, .fetching gated _) => some (hub.arrive now gated report)
  | (hub, stage) => hub.advance me now task stage

/-- Steps of a call alone. -/
def Hub.Leads (me : Nat) (now : Time.Instant) (report : Report) (task : Task) :
    Hub × Stage → Hub × Stage → Prop :=
  Relation.ReflTransGen fun a b => Hub.next? me now report task a = some b

/-- A call alone ends in one way only. -/
theorem Hub.Leads.eq_of_next? {a b c : Hub × Stage} (hb : Hub.Leads me now report task a b)
    (hc : Hub.Leads me now report task a c) (hbend : Hub.next? me now report task b = none)
    (hcend : Hub.next? me now report task c = none) : b = c := by
  have hunique : Relator.RightUnique fun a b => Hub.next? me now report task a = some b :=
    fun _ _ _ h h' => Option.some.inj (h.symm.trans h')
  have hend {b c : Hub × Stage} (h : Hub.Leads me now report task b c)
      (hb : Hub.next? me now report task b = none) : b = c := by
    rcases h.cases_head with he | ⟨d, hd, -⟩
    · exact he
    · rw [hb] at hd
      cases hd
  rcases hb.total_of_right_unique hunique hc with h | h
  · exact hend h hbend
  · exact (hend h hcend).symm

/-! ## The parts of the way -/

section

variable (me : Nat) (now : Time.Instant) (report : Report)

/-- A look-up, in one phase or in two. -/
theorem Hub.leads_found (hub : Hub) (task : Task) (round : Round) :
    Hub.Leads me now report task (hub, .peeking round now)
      ({ hub with shelf := (hub.shelf.get (lookupKey task) now).2 }.found task round
        (hub.shelf.get (lookupKey task) now).1) := by
  have hpeek : Hub.next? me now report task (hub, .peeking round now) =
      some (hub.peek task round now) := rfl
  rw [Shelf.get]
  rw [Hub.peek] at hpeek
  cases hp : hub.shelf.peek (lookupKey task) now with
  | mk sight shelf =>
      rw [hp] at hpeek
      cases sight with
      | fresh url => exact .single hpeek
      | absent => exact .single hpeek
      | expired => exact .head hpeek (.single rfl)

/-- A look-up of a resolution. -/
theorem Hub.leads_looked (hub : Hub) (round : Round) {id : Identifier}
    {kinds : List Identifier.Kind} (ht : task.resolution? = some (id, kinds)) :
    ∃ tally, Hub.Leads me now report task (hub, .peeking round now)
      ({ hub with shelf := ⟨(hub.shelf.get id.key now).2.cache, tally⟩ },
        (hub.found task round (hub.shelf.get id.key now).1).2) := by
  have hfound := hub.leads_found me now report task round
  rw [Hub.lookupKey_of_resolution ht] at hfound
  generalize (hub.shelf.get id.key now).1 = url at hfound ⊢
  generalize hlooked : { hub with shelf := (hub.shelf.get id.key now).2 } = looked at hfound
  obtain ⟨tally, htally⟩ := looked.found_fst task round url
  have hstage : (looked.found task round url).2 = (hub.found task round url).2 := by
    rw [Hub.found_of_resolution ht, Hub.found_of_resolution ht]
  refine ⟨tally, ?_⟩
  have hend : looked.found task round url =
      (looked.withTally tally, (hub.found task round url).2) :=
    Prod.ext htally hstage
  rw [hend, ← hlooked] at hfound
  exact hfound

/-- A call that has missed starts a fetch, behind the gate if there is one. -/
theorem Hub.leads_fetching (task : Task) {hub : Hub} (hholder : hub.holder = none)
    (hqueue : hub.queue = []) :
    ∃ hub', Hub.Leads me now report task (hub, .missed)
        (hub', .fetching hub.singleFlight hub.fetches) ∧
      hub'.shelf = hub.shelf ∧ hub'.fetches = hub.fetches + 1 := by
  cases hs : hub.singleFlight with
  | false =>
      have hobserve : Hub.next? me now report task (hub, .missed) = some (hub.startFetch false) :=
        congrArg some (if_neg (by simp [hs]))
      exact ⟨_, .single hobserve, rfl, rfl⟩
  | true =>
      have hobserve : Hub.next? me now report task (hub, .missed) =
          some (hub, .joining (some hub.generation)) := congrArg some (if_pos hs)
      have hjoin : Hub.next? me now report task (hub, .joining (some hub.generation)) =
          some (hub.join me (some hub.generation)) := rfl
      -- the queue was empty, so that the call is its head
      have henter : Hub.next? me now report task (hub.join me (some hub.generation)) =
          some ({ hub with queue := [], holder := some me, fetches := hub.fetches + 1 },
            .fetching true hub.fetches) := by
        simp [Hub.next?, Hub.join, Hub.advance, Hub.admits, Hub.enter, Hub.startFetch, hholder,
          hqueue]
      exact ⟨_, .head hobserve (.head hjoin (.single henter)), rfl, rfl⟩

/-- The end of a refresh, whether it is published or not. -/
theorem Hub.leads_concluded (hub : Hub) (task : Task) (gated : Bool)
    (outcome : Except Failure Nat) :
    ∃ hub', Hub.Leads me now report task (hub, .publishing gated outcome)
        (hub', (hub.conclude now task outcome).2) ∧
      hub'.shelf.cache = hub.shelf.cache ∧ hub'.fetches = hub.fetches := by
  have hstage (other : Hub) :
      (other.conclude now task outcome).2 = (hub.conclude now task outcome).2 := by
    unfold Hub.conclude
    split <;> rfl
  have hnext : Hub.next? me now report task (hub, .publishing gated outcome) =
      some ((if gated then hub.publish outcome else hub).conclude now task outcome) := rfl
  generalize hpublished : (if gated then hub.publish outcome else hub) = published at hnext
  have hsame : published.shelf = hub.shelf ∧ published.fetches = hub.fetches := by
    subst hpublished
    cases gated <;> exact ⟨rfl, rfl⟩
  obtain ⟨tally, htally⟩ := Hub.conclude_fst published now task outcome
  refine ⟨published.withTally tally, .single ?_, ?_, hsame.2⟩
  · rw [hnext, ← htally, ← hstage published]
  · rw [Hub.withTally, hsame.1]

/-- A fetch that fails ends the call. -/
theorem Hub.leads_failed (hub : Hub) (gated : Bool) (ticket : Nat) {id : Identifier}
    {kinds : List Identifier.Kind} (ht : task.resolution? = some (id, kinds)) {f : Failure}
    (ho : report.outcome = .error f) :
    ∃ hub', Hub.Leads me now report task (hub, .fetching gated ticket)
        (hub', .done (.url (.error f))) ∧
      hub'.shelf.cache = hub.shelf.cache ∧ hub'.fetches = hub.fetches := by
  obtain ⟨arrived, harrive, hcache, hfetches⟩ : ∃ arrived,
      Hub.next? me now report task (hub, .fetching gated ticket) =
        some (arrived, .publishing gated (.error f)) ∧
      arrived.shelf.cache = hub.shelf.cache ∧ arrived.fetches = hub.fetches := by
    simp [Hub.next?, Hub.arrive, ho]
  obtain ⟨hub', hconclude, hcache', hfetches'⟩ :=
    arrived.leads_concluded me now report task gated (.error f)
  rw [Hub.conclude_of_resolution ht] at hconclude
  exact ⟨hub', .head harrive hconclude, hcache'.trans hcache, hfetches'.trans hfetches⟩

/-- After a fetch that gives a listing the key is looked up again. -/
theorem Hub.leads_second (hub : Hub) (gated : Bool) (ticket : Nat) {id : Identifier}
    {kinds : List Identifier.Kind} (ht : task.resolution? = some (id, kinds))
    {entries : List Listing.Entry} (ho : report.outcome = .ok entries) :
    ∃ hub', Hub.Leads me now report task (hub, .fetching gated ticket)
        (hub', .peeking .second now) ∧
      hub'.shelf.cache = hub.shelf.cache.putAll entries now ∧ hub'.fetches = hub.fetches := by
  obtain ⟨arrived, harrive, hcache, hfetches⟩ : ∃ arrived,
      Hub.next? me now report task (hub, .fetching gated ticket) =
        some (arrived, .storing gated entries now) ∧
      arrived.shelf.cache = hub.shelf.cache ∧ arrived.fetches = hub.fetches := by
    simp [Hub.next?, Hub.arrive, ho]
  have hstore : Hub.next? me now report task (arrived, .storing gated entries now) =
      some (arrived.store gated entries now) := rfl
  obtain ⟨hub', hconclude, hcache', hfetches'⟩ :=
    (arrived.store gated entries now).1.leads_concluded me now report task gated
      (.ok entries.length)
  rw [Hub.conclude_of_resolution ht] at hconclude
  refine ⟨hub', .head harrive (.head hstore hconclude), ?_, hfetches'.trans hfetches⟩
  rw [hcache', ← hcache]
  rfl

/-! ## What a resolution alone comes to -/

/-- The ways in which a resolution alone can end, with the hub before it and after it. -/
inductive Resolution (hub : Hub) (id : Identifier) (kinds : List Identifier.Kind)
    (now : Time.Instant) (outcome : Except Failure (List Listing.Entry)) :
    Hub → Except Failure Url → Prop where
  | refused (hk : id.kind ∉ kinds) :
      Resolution hub id kinds now outcome hub (.error (.wrongKind id.canonical kinds id.kind))
  | cached {hub' entry} (hk : id.kind ∈ kinds)
      (hentry : hub.shelf.cache.table.get? id.key = some entry) (hf : entry.isFresh now = true)
      (hfetches : hub'.fetches = hub.fetches) (hcache : hub'.shelf.cache = hub.shelf.cache) :
      Resolution hub id kinds now outcome hub' (.ok (id.locate entry.url))
  | failed {hub' f} (hk : id.kind ∈ kinds)
      (hstale : ∀ entry, hub.shelf.cache.table.get? id.key = some entry →
        entry.isFresh now = false)
      (ho : outcome = .error f) (hfetches : hub'.fetches = hub.fetches + 1)
      (hcache : ∀ key, hub'.shelf.cache.table.get? key =
        if key = id.key then none else hub.shelf.cache.table.get? key) :
      Resolution hub id kinds now outcome hub' (.error f)
  | listed {hub' entries url} (hk : id.kind ∈ kinds)
      (hstale : ∀ entry, hub.shelf.cache.table.get? id.key = some entry →
        entry.isFresh now = false)
      (ho : outcome = .ok entries) (hfetches : hub'.fetches = hub.fetches + 1)
      (hlast : Listing.lastUrl? id.key entries = some url) (httl : 0 < hub.shelf.cache.ttl.ns)
      (hcache : ∀ key, hub'.shelf.cache.table.get? key =
        (hub.shelf.cache.putAll entries now).table.get? key) :
      Resolution hub id kinds now outcome hub' (.ok (id.locate url))
  | notFound {hub' entries} (hk : id.kind ∈ kinds)
      (hstale : ∀ entry, hub.shelf.cache.table.get? id.key = some entry →
        entry.isFresh now = false)
      (ho : outcome = .ok entries) (hfetches : hub'.fetches = hub.fetches + 1)
      (hlast : Listing.lastUrl? id.key entries = none ∨ hub.shelf.cache.ttl.ns = 0)
      (hcache : ∀ key, hub'.shelf.cache.table.get? key =
        if key = id.key then none else (hub.shelf.cache.putAll entries now).table.get? key) :
      Resolution hub id kinds now outcome hub' (.error (.notFound id.key))

/-- The second look-up ends the call. -/
theorem Hub.exists_resolution_of_second {hub before : Hub} {id : Identifier}
    {kinds : List Identifier.Kind} (ht : task.resolution? = some (id, kinds))
    (hk : id.kind ∈ kinds) (httl : 0 ≤ before.shelf.cache.ttl.ns) (hnow : now.ns < Time.latestNs)
    (hstale : ∀ entry, before.shelf.cache.table.get? id.key = some entry →
      entry.isFresh now = false)
    {entries : List Listing.Entry} (ho : report.outcome = .ok entries) {cache : Cache}
    (hwithout : before.shelf.cache.Without id.key cache)
    (hcache : hub.shelf.cache = cache.putAll entries now)
    (hfetches : hub.fetches = before.fetches + 1) :
    ∃ hub' answer, Hub.Leads me now report task (hub, .peeking .second now)
        (hub', .done (.url answer)) ∧
      Resolution before id kinds now report.outcome hub' answer := by
  obtain ⟨tally, hleads⟩ := hub.leads_looked me now report .second ht
  rw [Hub.found_of_resolution ht] at hleads
  have hrelisted : (hub.shelf.cache.table.get? id.key).filter (·.isFresh now) =
      before.shelf.cache.relisted id.key entries now := by
    rw [hcache, hwithout.get?_putAll_filter]
  have hafter (other : String) : (hub.shelf.get id.key now).2.cache.table.get? other =
      if other = id.key then before.shelf.cache.relisted id.key entries now
      else (before.shelf.cache.putAll entries now).table.get? other := by
    rw [Shelf.get?_get]
    split
    next hother => rw [hother, hrelisted]
    next hother => rw [hcache, hwithout.get?_putAll_of_ne hother]
  rw [Shelf.get_fst, hrelisted] at hleads
  cases hentry : before.shelf.cache.relisted id.key entries now with
  | none =>
      rw [hentry] at hleads hafter
      exact ⟨_, _, hleads, .notFound hk hstale ho hfetches
        ((Cache.relisted_eq_none_iff httl hnow).mp hentry) hafter⟩
  | some entry =>
      rw [hentry] at hleads hafter
      obtain ⟨url, hlast, hpos, rfl⟩ := (Cache.relisted_eq_some_iff httl hnow).mp hentry
      refine ⟨_, _, hleads, .listed hk hstale ho hfetches hlast hpos fun other => ?_⟩
      rw [hafter]
      split
      next hother => rw [hother, Cache.get?_putAll, hlast, Option.map_some, Option.some_or]
      next => rfl

/-- A resolution that has missed fetches. -/
theorem Hub.exists_resolution_of_missed {hub before : Hub} (hholder : hub.holder = none)
    (hqueue : hub.queue = []) {id : Identifier} {kinds : List Identifier.Kind}
    (ht : task.resolution? = some (id, kinds)) (hk : id.kind ∈ kinds)
    (httl : 0 ≤ before.shelf.cache.ttl.ns) (hnow : now.ns < Time.latestNs)
    (hstale : ∀ entry, before.shelf.cache.table.get? id.key = some entry →
      entry.isFresh now = false)
    (hwithout : before.shelf.cache.Without id.key hub.shelf.cache)
    (hfetches : hub.fetches = before.fetches) :
    ∃ hub' answer, Hub.Leads me now report task (hub, .missed) (hub', .done (.url answer)) ∧
      Resolution before id kinds now report.outcome hub' answer := by
  obtain ⟨fetching, hfetching, hshelf, hcounted⟩ :=
    Hub.leads_fetching me now report task hholder hqueue
  rw [hfetches] at hcounted
  cases ho : report.outcome with
  | error f =>
      obtain ⟨hub', hfailed, hcache, hsame⟩ := fetching.leads_failed me now report
        hub.singleFlight hub.fetches ht ho
      refine ⟨hub', _, hfetching.trans hfailed,
        .failed hk hstale rfl (hsame.trans hcounted) fun key => ?_⟩
      rw [hcache, hshelf, hwithout.get?_eq]
  | ok entries =>
      obtain ⟨second, hsecond, hcache, hsame⟩ := fetching.leads_second me now report
        hub.singleFlight hub.fetches ht ho
      rw [hshelf] at hcache
      obtain ⟨hub', answer, hend, hresolution⟩ :=
        Hub.exists_resolution_of_second me now report ht hk httl hnow hstale ho hwithout hcache
          (hsame.trans hcounted)
      rw [ho] at hresolution
      exact ⟨hub', answer, hfetching.trans (hsecond.trans hend), hresolution⟩

/-- A resolution alone comes to an end, in one of the ways. -/
theorem Hub.exists_resolution {hub : Hub} (hholder : hub.holder = none) (hqueue : hub.queue = [])
    (httl : 0 ≤ hub.shelf.cache.ttl.ns) (hnow : now.ns < Time.latestNs) {id : Identifier}
    {kinds : List Identifier.Kind} (ht : task.resolution? = some (id, kinds)) :
    ∃ hub' answer, Hub.Leads me now report task (hub, .ready) (hub', .done (.url answer)) ∧
      Resolution hub id kinds now report.outcome hub' answer := by
  have hstart : Hub.next? me now report task (hub, .ready) = some (hub.start now task) := rfl
  by_cases hk : id.kind ∈ kinds
  · have hpeeking : hub.start now task = (hub, .peeking .first now) := by
      simp [Hub.start, ht, Identifier.checkKind, hk]
    rw [hpeeking] at hstart
    obtain ⟨tally, hlooked⟩ := hub.leads_looked me now report .first ht
    rw [Hub.found_of_resolution ht] at hlooked
    cases hurl : (hub.shelf.get id.key now).1 with
    | some url =>
        rw [hurl] at hlooked
        obtain ⟨entry, hentry, hfresh, rfl⟩ := Shelf.get_fst_eq_some_iff.mp hurl
        exact ⟨_, _, .head hstart hlooked,
          .cached hk hentry hfresh rfl (Shelf.get_cache_of_some hurl)⟩
    | none =>
        rw [hurl] at hlooked
        have hstale := Shelf.get_fst_eq_none_iff.mp hurl
        have hwithout := Shelf.without_of_get_none hurl
        obtain ⟨missed, hmissed, hcache, hholder, hqueue, hfetches⟩ : ∃ missed,
            Hub.Leads me now report task (hub, .peeking .first now) (missed, .missed) ∧
            missed.shelf.cache = (hub.shelf.get id.key now).2.cache ∧ missed.holder = none ∧
            missed.queue = [] ∧ missed.fetches = hub.fetches :=
          ⟨_, hlooked, rfl, hholder, hqueue, rfl⟩
        rw [← hcache] at hwithout
        obtain ⟨hub', answer, hend, hresolution⟩ := Hub.exists_resolution_of_missed me now report
          hholder hqueue ht hk httl hnow hstale hwithout hfetches
        exact ⟨hub', answer, .head hstart (hmissed.trans hend), hresolution⟩
  · have hrefused : hub.start now task =
        (hub, .done (.url (.error (.wrongKind id.canonical kinds id.kind)))) := by
      simp [Hub.start, ht, Identifier.checkKind, hk]
    rw [hrefused] at hstart
    exact ⟨_, _, .single hstart, .refused hk⟩

end

/-! ## Runs in which one call moves alone -/

theorem World.next?_of_step? {w w' : World} {i : Nat} {stage : Stage} {e : Event}
    (hi : w.calls[i]? = some ⟨task, stage⟩) (he : e.Alone i now report)
    (hs : w.step? e = some w') :
    ∃ next, Hub.next? i now report task (w.hub, stage) = some next ∧
      w' = w.update i ⟨task, stage⟩ next := by
  cases he with
  | advance =>
      obtain ⟨call, hcall, hs⟩ := Option.bind_eq_some_iff.mp hs
      obtain ⟨next, hnext, hs⟩ := Option.bind_eq_some_iff.mp hs
      obtain rfl := Option.some.inj (hi.symm.trans hcall)
      refine ⟨next, ?_, (Option.some.inj hs).symm⟩
      cases stage with
      | fetching gated ticket => cases hnext
      | _ => exact hnext
  | arrive =>
      obtain ⟨call, hcall, hs⟩ := Option.bind_eq_some_iff.mp hs
      obtain rfl := Option.some.inj (hi.symm.trans hcall)
      cases stage with
      | fetching gated ticket => exact ⟨_, rfl, (Option.some.inj hs).symm⟩
      | _ => cases hs

theorem World.exists_step?_of_next? {w : World} {i : Nat} {stage : Stage} {next : Hub × Stage}
    (hi : w.calls[i]? = some ⟨task, stage⟩)
    (hnext : Hub.next? i now report task (w.hub, stage) = some next) :
    ∃ e, e.Alone i now report ∧ w.step? e = some (w.update i ⟨task, stage⟩ next) := by
  cases stage with
  | fetching gated ticket =>
      obtain rfl := Option.some.inj hnext
      exact ⟨.arrive i now report, .arrive, by simp [World.step?, World.arrive?, hi]⟩
  | _ =>
      refine ⟨.advance i now, .advance, ?_⟩
      refine Option.bind_eq_some_iff.mpr ⟨_, hi, ?_⟩
      exact Option.bind_eq_some_iff.mpr ⟨next, hnext, rfl⟩

theorem World.getElem?_update {w : World} {i : Nat} {stage : Stage}
    (hi : w.calls[i]? = some ⟨task, stage⟩) (next : Hub × Stage) :
    (w.update i ⟨task, stage⟩ next).calls[i]? = some ⟨task, next.2⟩ :=
  List.getElem?_set_self (List.getElem?_eq_some_iff.mp hi).1

/-- A run in which one call moves alone takes this call its way. -/
theorem World.leads_of_run? {w w' : World} {i : Nat} {stage : Stage} {events : List Event}
    (hi : w.calls[i]? = some ⟨task, stage⟩) (halone : ∀ e ∈ events, e.Alone i now report)
    (hr : w.run? events = some w') :
    ∃ stage', w'.calls[i]? = some ⟨task, stage'⟩ ∧
      Hub.Leads i now report task (w.hub, stage) (w'.hub, stage') := by
  induction events generalizing w stage with
  | nil =>
      obtain rfl := Option.some.inj hr
      exact ⟨stage, hi, .refl⟩
  | cons e events ih =>
      obtain ⟨he, halone⟩ := List.forall_mem_cons.mp halone
      obtain ⟨moved, hs, hr⟩ := Option.bind_eq_some_iff.mp hr
      obtain ⟨next, hnext, rfl⟩ := World.next?_of_step? hi he hs
      obtain ⟨stage', hi', hleads⟩ := ih (World.getElem?_update hi next) halone hr
      exact ⟨stage', hi', .head hnext hleads⟩

/-- The way of a call alone is taken in a run. -/
theorem World.exists_run?_of_leads {w : World} {i : Nat} {stage : Stage} {last : Hub × Stage}
    (hi : w.calls[i]? = some ⟨task, stage⟩)
    (hleads : Hub.Leads i now report task (w.hub, stage) last) :
    ∃ events w', (∀ e ∈ events, e.Alone i now report) ∧ w.run? events = some w' ∧
      w'.hub = last.1 ∧ w'.calls[i]? = some ⟨task, last.2⟩ := by
  generalize hfirst : (w.hub, stage) = first at hleads
  induction hleads using Relation.ReflTransGen.head_induction_on generalizing w stage with
  | refl =>
      subst hfirst
      exact ⟨[], w, by simp, rfl, rfl, hi⟩
  | head hnext _ ih =>
      subst hfirst
      obtain ⟨e, he, hs⟩ := World.exists_step?_of_next? hi hnext
      obtain ⟨events, w', halone, hr, hend⟩ := ih (World.getElem?_update hi _) rfl
      refine ⟨e :: events, w', List.forall_mem_cons.mpr ⟨he, halone⟩, ?_, hend⟩
      rw [World.run?, hs]
      exact hr

/-! ## Resolutions while nothing else runs -/

/-- Where all calls have ended, nobody holds the gate and nobody waits for it. -/
theorem Chronicle.idle {shelf : Shelf} {single : Bool} {h : List Note} {w : World}
    (hc : Chronicle shelf single h w) (hended : ∀ i, w.isFinished i = true) :
    w.hub.holder = none ∧ w.hub.queue = [] := by
  have hstage {i : Nat} {call : Call} (hi : w.calls[i]? = some call) :
      call.stage.isFinished = true := by
    simpa [World.isFinished, hi] using hended i
  constructor
  · rw [Option.eq_none_iff_forall_ne_some]
    intro i hi
    obtain ⟨call, hcall, hholds⟩ := (hc.gate.holder_iff i).mp hi
    have hfinished := hstage hcall
    cases hs : call.stage <;> simp_all [Stage.holdsGate, Stage.isFinished]
  · rw [List.eq_nil_iff_forall_not_mem]
    intro i hi
    obtain ⟨call, hcall, hqueued⟩ := (hc.queue.mem_iff i).mp hi
    have hfinished := hstage hcall
    cases hs : call.stage <;> simp_all [Stage.isQueued, Stage.isFinished]

/-- What an identifier is looked up and located by: itself, or of a resource the API above it. -/
structure LocationSpec (id : Identifier) : Prop where
  listed : id.kind ≠ .resource → id.key = id.canonical ∧ ∀ url, id.locate url = url
  resource : id.kind = .resource → ∃ api resource, id.owningApi = .ok api ∧
    id.resource? = some resource ∧ id.key = api.canonical ∧
    ∀ url, id.locate url = url.compose resource.text

theorem locationSpec (id : Identifier) : LocationSpec id := by
  obtain ⟨space, service, locator⟩ := id
  cases locator with
  | service => exact ⟨fun _ => ⟨rfl, fun _ => rfl⟩, fun h => by cases h⟩
  | api name => exact ⟨fun _ => ⟨rfl, fun _ => rfl⟩, fun h => by cases h⟩
  | resource name rest =>
      exact ⟨fun h => absurd rfl h, fun _ => ⟨_, rest, rfl, rfl, rfl, fun _ => rfl⟩⟩

/-- A resolution that begins when all other calls have ended, and runs alone at one instant, can
come to its end and comes to it in one of the ways of a resolution. -/
theorem World.resolution_of_alone {shelf : Shelf} {single : Bool} {events : List Event}
    {w : World} (hr : (World.initial shelf single).run? events = some w)
    (hended : ∀ i, w.isFinished i = true) (httl : 0 ≤ w.hub.shelf.cache.ttl.ns) {task : Task}
    {id : Identifier} {kinds : List Identifier.Kind}
    (ht : task.resolution? = some (id, kinds)) {now : Time.Instant}
    (hnow : now.ns < Time.latestNs) (report : Report) :
    LocationSpec id ∧
    (∃ way w', (∀ e ∈ way, e.Alone w.calls.length now report) ∧
      (w.begin task).run? way = some w' ∧ w'.isFinished w.calls.length = true) ∧
    ∀ way w', (∀ e ∈ way, e.Alone w.calls.length now report) →
      (w.begin task).run? way = some w' → w'.isFinished w.calls.length = true →
      ∃ answer, w'.answer? w.calls.length = some (.url answer) ∧
        Resolution w.hub id kinds now report.outcome w'.hub answer := by
  obtain ⟨hholder, hqueue⟩ := (Chronicle.of_run hr).idle hended
  obtain ⟨hub', answer, hleads, hresolution⟩ :=
    Hub.exists_resolution w.calls.length now report hholder hqueue httl hnow ht
  have hbegun : (w.begin task).calls[w.calls.length]? = some ⟨task, .ready⟩ :=
    List.getElem?_concat_length
  refine ⟨locationSpec id, ?_, ?_⟩
  · obtain ⟨way, w', halone, hway, -, hdone⟩ := World.exists_run?_of_leads hbegun hleads
    refine ⟨way, w', halone, hway, ?_⟩
    simp [World.isFinished, hdone, Stage.isFinished]
  · intro way w' halone hway hfinished
    obtain ⟨stage, hstage, hleads'⟩ := World.leads_of_run? hbegun halone hway
    have hend : Hub.next? w.calls.length now report task (w'.hub, stage) = none := by
      rw [World.isFinished, hstage] at hfinished
      cases stage with
      | done answer => rfl
      | dropped => rfl
      | _ => cases hfinished
    obtain ⟨rfl, rfl⟩ := Prod.mk.inj (hleads.eq_of_next? hleads' rfl hend)
    exact ⟨answer, by simp [World.answer?, hstage], hresolution⟩

/-! ### Resolutions that fetch -/

/-- The steps of a first resolution up to its fetch, and some after it. -/
def fetchingWay (before after : Nat) (entries : List Listing.Entry) : List Event :=
  List.replicate before (.advance 0 .epoch) ++ .arrive 0 .epoch ⟨.ok entries, 0, 1, 0⟩ ::
    List.replicate after (.advance 0 .epoch)

theorem fetchingWay_alone (before after : Nat) (entries : List Listing.Entry) :
    ∀ e ∈ fetchingWay before after entries, e.Alone 0 .epoch ⟨.ok entries, 0, 1, 0⟩ := by
  simp only [fetchingWay, List.forall_mem_append, List.forall_mem_cons, List.mem_replicate]
  refine ⟨?_, .arrive, ?_⟩
  · rintro e ⟨-, rfl⟩
    exact .advance
  · rintro e ⟨-, rfl⟩
    exact .advance

/-- A service that is listed is resolved from the listing. -/
theorem resolution_of_alone_listed :
    ∃ w w', (World.initial (.empty .tenHours) true).run? [] = some w ∧
      (∀ i, w.isFinished i = true) ∧ 0 ≤ w.hub.shelf.cache.ttl.ns ∧
      Time.Instant.epoch.ns < Time.latestNs ∧
      (w.begin (.resolve sampleService)).run?
        (fetchingWay 5 3 [⟨sampleService.key, sampleUrl 'x'⟩]) = some w' ∧
      ∃ answer, w'.answer? 0 = some (.url answer) ∧
        Resolution w.hub sampleService Identifier.Kind.all .epoch
          (.ok [⟨sampleService.key, sampleUrl 'x'⟩]) w'.hub answer := by
  have hr : (World.initial (.empty .tenHours) true).run? [] = some _ := rfl
  have hended : ∀ i, (World.initial (.empty .tenHours) true).isFinished i = true := fun _ => rfl
  have ht : (Task.resolve sampleService).resolution? = some (sampleService, _) := rfl
  have hnow : Time.Instant.epoch.ns < Time.latestNs := by decide
  have hways := (World.resolution_of_alone hr hended (by decide) ht hnow
    ⟨.ok [⟨sampleService.key, sampleUrl 'x'⟩], 0, 1, 0⟩).2.2
  exact ⟨_, _, hr, hended, by decide, hnow, rfl, hways _ _ (fetchingWay_alone 5 3 _) rfl rfl⟩

/-- A cache without a lifetime, in which the entry of a service has expired. -/
def expiredShelf : Shelf :=
  (Shelf.empty ⟨0, by decide, by decide⟩).put sampleService.key (sampleUrl 'o') .epoch

/-- The cache after a listing was fetched is not the one before with every entry stored: the entry
of the key that had expired is gone if it is not listed, and if it is, it has expired again. -/
theorem not_stored_over_expired :
    ∃ w, (World.initial expiredShelf true).run? [] = some w ∧
      (∃ w', (w.begin (.resolve sampleService)).run?
          (fetchingWay 6 3 [⟨"other", sampleUrl 'x'⟩]) = some w' ∧
        w'.answer? 0 = some (.url (.error (.notFound sampleService.key))) ∧
        w'.hub.shelf.cache.table.get? sampleService.key = none ∧
        (w.hub.shelf.cache.putAll [⟨"other", sampleUrl 'x'⟩] .epoch).table.get?
          sampleService.key = some ⟨sampleUrl 'o', .epoch, .epoch⟩) ∧
      ∃ w', (w.begin (.resolve sampleService)).run?
          (fetchingWay 6 4 [⟨sampleService.key, sampleUrl 'x'⟩]) = some w' ∧
        w'.answer? 0 = some (.url (.error (.notFound sampleService.key))) ∧
        w'.hub.shelf.cache.table.get? sampleService.key = none ∧
        (w.hub.shelf.cache.putAll [⟨sampleService.key, sampleUrl 'x'⟩] .epoch).table.get?
          sampleService.key = some ⟨sampleUrl 'x', .epoch, .epoch⟩ :=
  ⟨_, rfl, ⟨_, rfl, rfl, rfl, rfl⟩, _, rfl, rfl, rfl, rfl⟩

end Directory

end Signpost
