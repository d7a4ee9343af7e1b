import Signpost.Discovery.Fetch
import Signpost.Proofs.Directory.Alone

/-! # What a refresh leaves in the cache

A refresh that is served records stores those with a URL that can be read, the later over the
earlier, and counts the others. What it is not told of it leaves alone, and a refresh that fails
leaves everything alone. -/

namespace Signpost

/-! ## Records and entries -/

namespace Listing

def Record.HasUrl (record : Record) (url : Url) : Prop :=
  Url.parse record.url = .ok url

/-- A URL is that of the last record under a key whose URL can be read. Records behind it may have
the key, but no URL. -/
def IsLastListed (records : List Record) (key : String) (url : Url) : Prop :=
  ∃ before record after, records = before ++ record :: after ∧ record.urn = key ∧
    record.HasUrl url ∧ ∀ later ∈ after, later.urn = key → ∀ other, ¬later.HasUrl other

/-- The entry of a record, if it is one under a key. -/
def Record.entryUnder? (key : String) (record : Record) : Option Entry :=
  (Entry.ofRecord record).toOption.filter (·.urn == key)

@[simp] theorem toOption_ofRecord (record : Record) :
    (Entry.ofRecord record).toOption = (Url.parse record.url).toOption.map (⟨record.urn, ·⟩) := by
  unfold Entry.ofRecord
  cases Url.parse record.url <;> rfl

theorem toOption_ofRecord_eq_some_iff {record : Record} {entry : Entry} :
    (Entry.ofRecord record).toOption = some entry ↔
      record.urn = entry.urn ∧ record.HasUrl entry.url := by
  rw [toOption_ofRecord, Record.HasUrl]
  obtain ⟨urn, url⟩ := entry
  cases Url.parse record.url <;> simp [Except.toOption]

theorem entryUnder?_eq_some_iff {key : String} {record : Record} {entry : Entry} :
    record.entryUnder? key = some entry ↔
      record.urn = key ∧ entry.urn = key ∧ record.HasUrl entry.url := by
  rw [Record.entryUnder?, Option.filter_eq_some_iff, toOption_ofRecord_eq_some_iff, beq_iff_eq]
  constructor
  · rintro ⟨⟨hurn, hurl⟩, hkey⟩
    exact ⟨hurn.trans hkey, hkey, hurl⟩
  · rintro ⟨hurn, hkey, hurl⟩
    exact ⟨⟨hurn.trans hkey.symm, hurl⟩, hkey⟩

theorem entryUnder?_eq_none_iff {key : String} {record : Record} :
    record.entryUnder? key = none ↔ (record.urn = key → ∀ url, ¬record.HasUrl url) := by
  simp only [Option.eq_none_iff_forall_ne_some, ne_eq, entryUnder?_eq_some_iff, not_and]
  constructor
  · intro h hkey url
    exact h ⟨key, url⟩ hkey rfl
  · rintro h ⟨urn, url⟩ hkey -
    exact h hkey url

theorem filter_entries (key : String) (records : List Record) :
    (entries records).filter (·.urn == key) = records.filterMap (·.entryUnder? key) :=
  List.filter_filterMap

theorem getLast?_filterMap_eq_some_iff {α β : Type} {f : α → Option β} {l : List α} {b : β} :
    (l.filterMap f).getLast? = some b ↔
      ∃ before a after, l = before ++ a :: after ∧ f a = some b ∧ ∀ x ∈ after, f x = none := by
  rw [List.getLast?_filterMap, List.findSome?_eq_some_iff]
  constructor
  · rintro ⟨after, a, before, hl, ha, hlast⟩
    refine ⟨before.reverse, a, after.reverse, ?_, ha, by simpa using hlast⟩
    simpa using congrArg List.reverse hl
  · rintro ⟨before, a, after, rfl, ha, hlast⟩
    exact ⟨after.reverse, a, before.reverse, by simp, ha, by simpa using hlast⟩

/-- The last entry under a key is of the last record that has a URL. -/
theorem lastUrl?_entries_eq_some_iff {records : List Record} {key : String} {url : Url} :
    lastUrl? key (entries records) = some url ↔ IsLastListed records key url := by
  rw [lastUrl?, filter_entries, Option.map_eq_some_iff]
  simp only [getLast?_filterMap_eq_some_iff, entryUnder?_eq_some_iff, entryUnder?_eq_none_iff]
  constructor
  · rintro ⟨entry, ⟨before, record, after, rfl, ⟨hkey, -, hurl⟩, hlast⟩, rfl⟩
    exact ⟨before, record, after, rfl, hkey, hurl, hlast⟩
  · rintro ⟨before, record, after, rfl, hkey, hurl, hlast⟩
    exact ⟨⟨key, url⟩, ⟨before, record, after, rfl, ⟨hkey, rfl, hurl⟩, hlast⟩, rfl⟩

theorem lastUrl?_entries_eq_none_iff {records : List Record} {key : String} :
    lastUrl? key (entries records) = none ↔
      ∀ record ∈ records, record.urn = key → ∀ url, ¬record.HasUrl url := by
  simp only [lastUrl?, filter_entries, Option.map_eq_none_iff, List.getLast?_eq_none_iff,
    List.filterMap_eq_nil_iff, entryUnder?_eq_none_iff]

theorem isSome_toOption_ofRecord (record : Record) :
    (Entry.ofRecord record).toOption.isSome = (Url.parse record.url).isOk := by
  rw [toOption_ofRecord]
  cases Url.parse record.url <;> rfl

@[simp] theorem length_entries (records : List Record) :
    (entries records).length = records.countP fun record => (Url.parse record.url).isOk := by
  rw [entries, List.length_filterMap_eq_countP]
  simp only [isSome_toOption_ofRecord]

theorem dropped_eq (records : List Record) :
    dropped records = records.countP fun record => !(Url.parse record.url).isOk := by
  simp only [dropped, ← Option.not_isSome, isSome_toOption_ofRecord]

end Listing

namespace Cache

@[simp] theorem stored_expiresAt_ns (c : Cache) (url : Url) (now : Time.Instant) :
    (c.stored url now).expiresAt.ns = expiryNs c.ttl now := by
  change ((now.add? c.ttl).getD .latest).ns = expiryNs c.ttl now
  rw [Time.Instant.add?, Time.Instant.ofNs?, expiryNs]
  split <;> rfl

end Cache

namespace Directory

open Listing (IsLastListed Record Report)
open Retry (Exhausted)

/-! ## What a refresh comes to -/

/-- What a refresh leaves on a shelf and answers. Of records that it is served each key gets the URL
of its last record that has one, and a key without such a record keeps what it had. -/
inductive Refreshment (before : Shelf) (now : Time.Instant) :
    Except (Exhausted FetchFault) (List Record) → Shelf → Except Failure Nat → Prop where
  | populated {records after}
      (hlisted : ∀ key, (∃ record ∈ records, record.urn = key ∧ ∃ url, record.HasUrl url) →
        ∃ url entry, IsLastListed records key url ∧ after.cache.table.get? key = some entry ∧
          entry.url = url ∧ entry.storedAt = now ∧
          entry.expiresAt.ns = Cache.expiryNs before.cache.ttl now)
      (hother : ∀ key, (∀ record ∈ records, record.urn = key → ∀ url, ¬record.HasUrl url) →
        after.cache.table.get? key = before.cache.table.get? key)
      (hdropped : after.tally.dropped = before.tally.dropped +
        records.countP fun record => !(Url.parse record.url).isOk) :
      Refreshment before now (.ok records) after
        (.ok (records.countP fun record => (Url.parse record.url).isOk))
  | failed {e after} (hcache : after.cache = before.cache)
      (hdropped : after.tally.dropped = before.tally.dropped) :
      Refreshment before now (.error e) after (.error (.fetch e.attempts e.last))

/-- Storing the entries of records after the fetch was counted. -/
theorem Refreshment.of_putAll {before after : Shelf} {records : List Record} {now : Time.Instant}
    (hcache : after.cache = before.cache.putAll (Listing.entries records) now)
    (hdropped : after.tally.dropped = before.tally.dropped + Listing.dropped records) :
    Refreshment before now (.ok records) after (.ok (Listing.entries records).length) := by
  rw [Listing.length_entries]
  rw [Listing.dropped_eq] at hdropped
  refine .populated ?_ ?_ hdropped
  · rintro key ⟨record, hmem, hkey, url, hurl⟩
    cases hlast : Listing.lastUrl? key (Listing.entries records) with
    | none => exact absurd hurl (Listing.lastUrl?_entries_eq_none_iff.mp hlast record hmem hkey url)
    | some last =>
        refine ⟨last, before.cache.stored last now, Listing.lastUrl?_entries_eq_some_iff.mp hlast,
          ?_, rfl, rfl, Cache.stored_expiresAt_ns _ _ _⟩
        rw [hcache, Cache.get?_putAll, hlast, Option.map_some, Option.some_or]
  · intro key hnone
    rw [hcache, Cache.get?_putAll, Listing.lastUrl?_entries_eq_none_iff.mpr hnone, Option.map_none,
      Option.none_or]

/-! ## The way of a refresh -/

section

variable (me : Nat) (now : Time.Instant)

/-- A refresh that finds the gate free goes through it and fetches. -/
theorem Hub.leads_fetching_of_refresh (report : Report) {hub : Hub} (hholder : hub.holder = none)
    (hqueue : hub.queue = []) :
    ∃ fetching ticket, Hub.Leads me now report .refresh (hub, .ready)
        (fetching, .fetching true ticket) ∧ fetching.shelf = hub.shelf := by
  have hstart : Hub.next? me now report .refresh (hub, .ready) = some (hub, .joining none) := rfl
  have hjoin : Hub.next? me now report .refresh (hub, .joining none) =
      some (hub.join me none) := rfl
  have henter : Hub.next? me now report .refresh (hub.join me none) =
      some ({ hub with queue := [], holder := some me, fetches := hub.fetches + 1 },
        .fetching true hub.fetches) := by
    simp [Hub.next?, Hub.join, Hub.advance, Hub.admits, Hub.enter, Hub.startFetch, hholder, hqueue]
  exact ⟨_, _, .head hstart (.head hjoin (.single henter)), rfl⟩

/-- A refresh that finds the gate free comes to an end. -/
theorem Hub.exists_refreshment (outcome : Except (Exhausted FetchFault) (List Record))
    (attempts : Discovery.Attempts) {hub : Hub} (hholder : hub.holder = none)
    (hqueue : hub.queue = []) :
    ∃ hub' answer, Hub.Leads me now (Discovery.report outcome attempts) .refresh (hub, .ready)
        (hub', .done (.refreshed answer)) ∧
      Refreshment hub.shelf now outcome hub'.shelf answer := by
  obtain ⟨fetching, ticket, hfetching, hshelf⟩ :=
    Hub.leads_fetching_of_refresh me now (Discovery.report outcome attempts) hholder hqueue
  rw [← hshelf]
  cases outcome with
  | error e =>
      exact ⟨_, _, hfetching.tail rfl |>.tail rfl, .failed rfl rfl⟩
  | ok records =>
      exact ⟨_, _, hfetching.tail rfl |>.tail rfl |>.tail rfl, .of_putAll rfl rfl⟩

end

/-! ## Refreshes while nothing else runs -/

/-- What happens to a refresh that runs alone. The clock may show anything, but the fetch ends
now. -/
inductive Event.Refreshing (i : Nat) (now : Time.Instant) (report : Report) : Event → Prop where
  | advance (t) : Refreshing i now report (.advance i t)
  | arrive : Refreshing i now report (.arrive i now report)

/-- A refresh does not look at the clock in its own steps. -/
theorem Hub.advance_refresh (hub : Hub) (me : Nat) (t now : Time.Instant) (stage : Stage) :
    hub.advance me t .refresh stage = hub.advance me now .refresh stage := by
  have hconclude (hub : Hub) (outcome : Except Failure Nat) :
      hub.conclude t .refresh outcome = hub.conclude now .refresh outcome := rfl
  have hshare (hub : Hub) : hub.share t .refresh = hub.share now .refresh := by
    unfold Hub.share
    split <;> exact hconclude _ _
  cases stage with
  | queued seen => simp only [Hub.advance, Hub.enter, hshare]
  | _ => rfl

theorem World.exists_alone_of_refreshing {w : World} {i : Nat} {stage : Stage} {e : Event}
    {now : Time.Instant} {report : Report} (hi : w.calls[i]? = some ⟨.refresh, stage⟩)
    (he : e.Refreshing i now report) : ∃ e', e'.Alone i now report ∧ w.step? e = w.step? e' := by
  cases he with
  | advance t =>
      refine ⟨.advance i now, .advance, ?_⟩
      simp only [World.step?, World.advance?, hi, Option.bind_eq_bind, Option.bind_some,
        w.hub.advance_refresh i t now]
  | arrive => exact ⟨_, .arrive, rfl⟩

/-- A run in which a refresh moves alone takes it its way, whatever the clock shows. -/
theorem World.leads_of_refreshing {w w' : World} {i : Nat} {stage : Stage} {events : List Event}
    {now : Time.Instant} {report : Report} (hi : w.calls[i]? = some ⟨.refresh, stage⟩)
    (he : ∀ e ∈ events, e.Refreshing i now report) (hr : w.run? events = some w') :
    ∃ stage', w'.calls[i]? = some ⟨.refresh, stage'⟩ ∧
      Hub.Leads i now report .refresh (w.hub, stage) (w'.hub, stage') := by
  induction events generalizing w stage with
  | nil =>
      obtain rfl := Option.some.inj hr
      exact ⟨stage, hi, .refl⟩
  | cons e events ih =>
      obtain ⟨he, hrest⟩ := List.forall_mem_cons.mp he
      obtain ⟨moved, hs, hr⟩ := Option.bind_eq_some_iff.mp hr
      obtain ⟨e', halone, hsame⟩ := World.exists_alone_of_refreshing hi he
      obtain ⟨next, hnext, rfl⟩ := World.next?_of_step? hi halone (hsame ▸ hs)
      obtain ⟨stage', hi', hleads⟩ := ih (World.getElem?_update hi next) hrest hr
      exact ⟨stage', hi', .head hnext hleads⟩

/-- A refresh that begins while nobody holds the gate or waits for it, and then runs alone, can come
to its end and leaves there what its fetch brought. -/
theorem World.refreshment_of_alone {w : World} (hholder : w.hub.holder = none)
    (hqueue : w.hub.queue = []) (now : Time.Instant)
    (outcome : Except (Exhausted FetchFault) (List Record)) (attempts : Discovery.Attempts) :
    (∃ way w', (∀ e ∈ way, e.Refreshing w.calls.length now (Discovery.report outcome attempts)) ∧
      (w.begin .refresh).run? way = some w' ∧ w'.isFinished w.calls.length = true) ∧
    ∀ way w', (∀ e ∈ way, e.Refreshing w.calls.length now (Discovery.report outcome attempts)) →
      (w.begin .refresh).run? way = some w' → w'.isFinished w.calls.length = true →
      ∃ answer, w'.answer? w.calls.length = some (.refreshed answer) ∧
        Refreshment w.hub.shelf now outcome w'.hub.shelf answer := by
  obtain ⟨hub', answer, hleads, hrefreshment⟩ :=
    Hub.exists_refreshment w.calls.length now outcome attempts hholder hqueue
  have hbegun : (w.begin .refresh).calls[w.calls.length]? = some ⟨.refresh, .ready⟩ :=
    List.getElem?_concat_length
  constructor
  · obtain ⟨way, w', halone, hway, -, hdone⟩ := World.exists_run?_of_leads hbegun hleads
    refine ⟨way, w', fun e he => ?_, hway, ?_⟩
    · cases halone e he with
      | advance => exact .advance now
      | arrive => exact .arrive
    · simp [World.isFinished, hdone, Stage.isFinished]
  · intro way w' hway hrun hfinished
    obtain ⟨stage, hstage, hleads'⟩ := World.leads_of_refreshing hbegun hway hrun
    have hend : Hub.next? w.calls.length now (Discovery.report outcome attempts) .refresh
        (w'.hub, stage) = none := by
      rw [World.isFinished, hstage] at hfinished
      cases stage with
      | done answer => rfl
      | dropped => rfl
      | _ => cases hfinished
    obtain ⟨rfl, rfl⟩ := Prod.mk.inj (hleads.eq_of_next? hleads' rfl hend)
    exact ⟨answer, by simp [World.answer?, hstage], hrefreshment⟩

/-- Three records under two keys, the last of them without a URL. -/
def mixedRecords : List Record :=
  [⟨"a", "http://x/"⟩, ⟨"b", "http://y/"⟩, ⟨"a", "nowhere"⟩]

/-- The steps of a refresh that is served the records, under a clock that jumps. -/
def mixedWay : List Event :=
  [.advance 0 .epoch, .advance 0 .latest, .advance 0 .epoch,
    .arrive 0 .epoch (Discovery.report (.ok mixedRecords) ⟨0, 1⟩), .advance 0 .latest,
    .advance 0 .epoch]

theorem mixedWay_refreshing :
    ∀ e ∈ mixedWay, e.Refreshing 0 .epoch (Discovery.report (.ok mixedRecords) ⟨0, 1⟩) := by
  simp only [mixedWay, List.forall_mem_cons, List.not_mem_nil, false_imp_iff, implies_true,
    and_true]
  exact ⟨.advance _, .advance _, .advance _, .arrive, .advance _, .advance _⟩

/-- The last record under a key does not give its URL where it has none. -/
theorem refreshment_of_alone_mixed :
    ∃ w w', w = World.initial (.empty .tenHours) true ∧ w.hub.holder = none ∧ w.hub.queue = [] ∧
      (w.begin .refresh).run? mixedWay = some w' ∧
      (∃ url, IsLastListed mixedRecords "a" url) ∧
      mixedRecords.countP (fun record => (Url.parse record.url).isOk) = 2 ∧
      ∃ answer, w'.answer? 0 = some (.refreshed answer) ∧
        Refreshment w.hub.shelf .epoch (.ok mixedRecords) w'.hub.shelf answer := by
  have hspec := (World.refreshment_of_alone (w := .initial (.empty .tenHours) true) rfl rfl .epoch
    (.ok mixedRecords) ⟨0, 1⟩).2
  have hcount : mixedRecords.countP (fun record => (Url.parse record.url).isOk) = 2 := by
    decide +kernel
  have hfound : (Listing.lastUrl? "a" (Listing.entries mixedRecords)).isSome = true := by
    decide +kernel
  obtain ⟨url, hurl⟩ := Option.isSome_iff_exists.mp hfound
  exact ⟨_, _, rfl, rfl, rfl, rfl, ⟨url, Listing.lastUrl?_entries_eq_some_iff.mp hurl⟩, hcount,
    hspec mixedWay _ mixedWay_refreshing rfl rfl⟩

end Directory

end Signpost
