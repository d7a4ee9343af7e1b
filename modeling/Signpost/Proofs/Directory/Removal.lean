import Signpost.Proofs.Directory.Alone
import Signpost.Proofs.Directory.Counting
import Signpost.Proofs.Directory.Waiting
import Signpost.Proofs.Identifier.RoundTrip

/-! # What an invalidation removes

An invalidation takes out the entry that a resolution of its identifier looks up, be it fresh or
expired. Until the key is stored again every first look-up of it misses, and a resolution under
another key goes its way as if there had been no invalidation. -/

namespace Signpost

/-! ## Caches that differ in one key -/

/-- Two caches with the same entries under all keys but one. -/
structure Cache.AlikeBut (key : String) (c c' : Cache) : Prop where
  ttl_eq : c'.ttl = c.ttl
  get?_eq : ∀ {other}, other ≠ key → c'.table.get? other = c.table.get? other

namespace Cache.AlikeBut

variable {key other : String} {c c' : Cache}

theorem peek_eq (h : c.AlikeBut key c') (hne : other ≠ key) (now : Time.Instant) :
    c'.peek other now = c.peek other now := by
  unfold peek
  rw [h.get?_eq hne]

theorem settle (h : c.AlikeBut key c') (k : String) (now : Time.Instant) :
    (c.settle k now).2.AlikeBut key (c'.settle k now).2 := by
  refine ⟨by simp [h.ttl_eq], fun hne => ?_⟩
  simp [h.get?_eq hne]

theorem putAll (h : c.AlikeBut key c') (entries : List Listing.Entry) (now : Time.Instant) :
    (c.putAll entries now).AlikeBut key (c'.putAll entries now) := by
  refine ⟨by simp [h.ttl_eq], fun hne => ?_⟩
  simp [stored_congr h.ttl_eq, h.get?_eq hne]

end Cache.AlikeBut

theorem Cache.Without.alikeBut {key : String} {c c' : Cache} (h : c.Without key c') :
    c.AlikeBut key c' := by
  refine ⟨h.ttl_eq, fun hne => ?_⟩
  rw [h.get?_eq, if_neg hne]

theorem Shelf.invalidate_without (s : Shelf) (key : String) :
    s.cache.Without key (s.invalidate key).2.cache :=
  ⟨rfl, s.cache.get?_invalidate key⟩

namespace Directory

open Listing (Report)

variable {key : String} {task : Task} {id : Identifier} {kinds : List Identifier.Kind}

/-! ## Resolutions beside one another -/

/-- Two hubs that differ in their counters and in the entry of one key. -/
inductive Hub.AlikeBut (key : String) (hub : Hub) : Hub → Prop where
  | intro {shelf} (hcache : hub.shelf.cache.AlikeBut key shelf.cache) :
      AlikeBut key hub { hub with shelf }

/-- The same stage beside hubs that differ in one key. -/
structure SameBut (key : String) (next next' : Hub × Stage) : Prop where
  hub : next.1.AlikeBut key next'.1
  stage_eq : next'.2 = next.2

namespace Hub.AlikeBut

variable {hub hub' : Hub}

theorem withShelf (h : hub.AlikeBut key hub') {shelf shelf' : Shelf}
    (hcache : shelf.cache.AlikeBut key shelf'.cache) :
    Hub.AlikeBut key { hub with shelf } { hub' with shelf := shelf' } := by
  cases h
  exact .intro hcache

theorem cache (h : hub.AlikeBut key hub') : hub.shelf.cache.AlikeBut key hub'.shelf.cache := by
  obtain ⟨hcache⟩ := h
  exact hcache

theorem withTally (h : hub.AlikeBut key hub') (tally tally' : Tally) :
    (hub.withTally tally).AlikeBut key (hub'.withTally tally') :=
  h.withShelf h.cache

theorem found (h : hub.AlikeBut key hub') (ht : task.resolution? = some (id, kinds))
    (round : Round) (url : Option Url) :
    SameBut key (hub.found task round url) (hub'.found task round url) := by
  obtain ⟨tally, hfst⟩ := hub.found_fst task round url
  obtain ⟨tally', hfst'⟩ := hub'.found_fst task round url
  refine ⟨?_, ?_⟩
  · rw [hfst, hfst']
    exact h.withTally tally tally'
  · rw [found_of_resolution ht, found_of_resolution ht]

theorem conclude (h : hub.AlikeBut key hub') (ht : task.resolution? = some (id, kinds))
    (now : Time.Instant) (outcome : Except Failure Nat) :
    SameBut key (hub.conclude now task outcome) (hub'.conclude now task outcome) := by
  obtain ⟨tally, hfst⟩ := hub.conclude_fst now task outcome
  obtain ⟨tally', hfst'⟩ := hub'.conclude_fst now task outcome
  refine ⟨?_, ?_⟩
  · rw [hfst, hfst']
    exact h.withTally tally tally'
  · rw [conclude_of_resolution ht, conclude_of_resolution ht]

theorem peek (h : hub.AlikeBut key hub') (ht : task.resolution? = some (id, kinds))
    (hne : id.key ≠ key) (round : Round) (stamp : Time.Instant) :
    SameBut key (hub.peek task round stamp) (hub'.peek task round stamp) := by
  have hsame := h.cache.peek_eq (lookupKey_of_resolution ht ▸ hne) stamp
  cases hp : hub.shelf.cache.peek (lookupKey task) stamp with
  | fresh url =>
      rw [hp] at hsame
      simp only [Hub.peek, Shelf.peek, hp, hsame]
      exact (h.withTally _ _).found ht round (some url)
  | absent =>
      rw [hp] at hsame
      simp only [Hub.peek, Shelf.peek, hp, hsame]
      exact (h.withTally _ _).found ht round none
  | expired =>
      rw [hp] at hsame
      simp only [Hub.peek, Shelf.peek, hp, hsame]
      exact ⟨h, rfl⟩

theorem settle (h : hub.AlikeBut key hub') (ht : task.resolution? = some (id, kinds))
    (hne : id.key ≠ key) (round : Round) (stamp : Time.Instant) :
    SameBut key (hub.settle task round stamp) (hub'.settle task round stamp) := by
  have hsettle (hub : Hub) : hub.settle task round stamp =
      { hub with shelf := (hub.shelf.settle (lookupKey task) stamp).2 }.found task round
        (hub.shelf.settle (lookupKey task) stamp).1 := rfl
  have hurl : (hub'.shelf.settle (lookupKey task) stamp).1 =
      (hub.shelf.settle (lookupKey task) stamp).1 := by
    rw [Shelf.settle_eq_get, Shelf.settle_eq_get, Shelf.get_fst, Shelf.get_fst,
      h.cache.get?_eq (lookupKey_of_resolution ht ▸ hne)]
  have hsettled := h.cache.settle (lookupKey task) stamp
  rw [← Shelf.settle_cache, ← Shelf.settle_cache] at hsettled
  rw [hsettle, hsettle, hurl]
  exact (h.withShelf hsettled).found ht round _

theorem enter (h : hub.AlikeBut key hub') (ht : task.resolution? = some (id, kinds)) (me : Nat)
    (now : Time.Instant) (seen : Option Nat) :
    SameBut key (hub.enter me now task seen) (hub'.enter me now task seen) := by
  obtain @⟨shelf, hcache⟩ := h
  by_cases hs : seen.all (· == hub.generation) = true
  · simp only [Hub.enter, if_pos hs]
    exact ⟨.intro hcache, rfl⟩
  · have hleft : Hub.AlikeBut key { hub with queue := hub.queue.tail }
        { hub with shelf, queue := hub.queue.tail } := .intro hcache
    simp only [Hub.enter, if_neg hs, Hub.share_eq]
    exact hleft.conclude ht now _

/-- A step of a resolution under another key leads to the same stage. -/
theorem advance (h : hub.AlikeBut key hub') (ht : task.resolution? = some (id, kinds))
    (hne : id.key ≠ key) {stage : Stage} (hfits : stage.Fits task) (me : Nat)
    (now : Time.Instant) :
    Option.Rel (SameBut key) (hub.advance me now task stage) (hub'.advance me now task stage) := by
  cases stage with
  | ready =>
      refine .some ?_
      simp only [Hub.start, ht]
      split <;> exact ⟨h, rfl⟩
  | peeking round stamp => exact .some (h.peek ht hne round stamp)
  | settling round stamp => exact .some (h.settle ht hne round stamp)
  | missed =>
      obtain ⟨hcache⟩ := h
      refine .some ?_
      unfold Hub.observe
      split <;> exact ⟨.intro hcache, rfl⟩
  | joining seen =>
      obtain ⟨hcache⟩ := h
      exact .some ⟨.intro hcache, rfl⟩
  | queued seen =>
      have hadmits : hub'.admits me = hub.admits me := by
        obtain ⟨hcache⟩ := h
        rfl
      simp only [Hub.advance, hadmits]
      split
      · exact .some (h.enter ht me now seen)
      · exact .none
  | storing gated entries stamp => exact .some ⟨h.withShelf (h.cache.putAll entries stamp), rfl⟩
  | publishing gated outcome =>
      obtain ⟨hcache⟩ := h
      refine .some (conclude ?_ ht now outcome)
      cases gated <;> exact .intro hcache
  | writing stamp =>
      -- only other tasks write
      rcases hfits with rfl | ⟨_, _, rfl⟩ <;> cases ht
  | fetching gated ticket => exact .none
  | done answer => exact .none
  | dropped => exact .none

theorem arrive (h : hub.AlikeBut key hub') (now : Time.Instant) (gated : Bool) (report : Report) :
    SameBut key (hub.arrive now gated report) (hub'.arrive now gated report) := by
  obtain ⟨hcache⟩ := h
  unfold Hub.arrive
  cases report.outcome <;> exact ⟨.intro hcache, rfl⟩

theorem abandon (h : hub.AlikeBut key hub') (me : Nat) (stage : Stage) :
    (hub.abandon me stage).AlikeBut key (hub'.abandon me stage) := by
  obtain ⟨hcache⟩ := h
  exact .intro hcache

end Hub.AlikeBut

/-! ## Runs beside one another -/

/-- What happens to one call. -/
inductive Event.Concerns (i : Nat) : Event → Prop where
  | advance (now) : Concerns i (.advance i now)
  | arrive (now report) : Concerns i (.arrive i now report)
  | drop : Concerns i (.drop i)

/-- Two worlds whose hubs differ in one key, with one call at the same stage. -/
structure World.AlikeBut (key : String) (i : Nat) (task : Task) (w w' : World) : Prop where
  hub : w.hub.AlikeBut key w'.hub
  call : ∃ stage, stage.Fits task ∧ w.calls[i]? = some ⟨task, stage⟩ ∧
    w'.calls[i]? = some ⟨task, stage⟩

namespace World.AlikeBut

variable {w w' : World} {i : Nat}

theorem update {stage : Stage} {next next' : Hub × Stage} (h : SameBut key next next')
    (hi : w.calls[i]? = some ⟨task, stage⟩) (hi' : w'.calls[i]? = some ⟨task, stage⟩)
    (hfits : next.2.Fits task) :
    AlikeBut key i task (w.update i ⟨task, stage⟩ next) (w'.update i ⟨task, stage⟩ next') := by
  refine ⟨h.hub, next.2, hfits, World.getElem?_update hi next, ?_⟩
  rw [World.getElem?_update hi' next', h.stage_eq]

theorem step (h : AlikeBut key i task w w') (ht : task.resolution? = some (id, kinds))
    (hne : id.key ≠ key) {e : Event} (he : e.Concerns i) :
    Option.Rel (AlikeBut key i task) (w.step? e) (w'.step? e) := by
  obtain ⟨hhub, stage, hfits, hi, hi'⟩ := h
  cases he with
  | advance now =>
      have hnext := hhub.advance ht hne hfits i now
      simp only [World.step?, World.advance?, hi, hi', Option.bind_eq_bind, Option.bind_some]
      generalize ha : w.hub.advance i now task stage = next at hnext ⊢
      generalize w'.hub.advance i now task stage = next' at hnext ⊢
      cases hnext with
      | some hsame =>
          obtain ⟨deed, -, hact⟩ := Act.of_advance ha
          exact .some (update hsame hi hi' (hact.fits hfits))
      | none => exact .none
  | arrive now report =>
      simp only [World.step?, World.arrive?, hi, hi', Option.bind_eq_bind, Option.bind_some]
      cases stage with
      | fetching gated ticket =>
          have hact : Act w.hub i task (.fetching gated ticket) (.arrived report.outcome)
              (w.hub.arrive now gated report).1 (w.hub.arrive now gated report).2 := .arrive
          exact .some (update (hhub.arrive now gated report) hi hi' (hact.fits hfits))
      | _ => exact .none
  | drop =>
      simp only [World.step?, World.drop?, hi, hi', Option.bind_eq_bind, Option.bind_some]
      split
      · exact .some (update ⟨hhub.abandon i stage, rfl⟩ hi hi' trivial)
      · exact .none

theorem run (h : AlikeBut key i task w w') (ht : task.resolution? = some (id, kinds))
    (hne : id.key ≠ key) {events : List Event} (he : ∀ e ∈ events, e.Concerns i) :
    Option.Rel (AlikeBut key i task) (w.run? events) (w'.run? events) := by
  induction events generalizing w w' with
  | nil => exact .some h
  | cons e events ih =>
      obtain ⟨he, hrest⟩ := List.forall_mem_cons.mp he
      have hstep := h.step ht hne he
      rw [World.run?, World.run?]
      generalize w.step? e = next at hstep
      generalize w'.step? e = next' at hstep
      cases hstep with
      | some h => exact ih h hrest
      | none => exact .none

end World.AlikeBut

/-- A resolution that begins beside hubs that differ in another key, and moves alone, goes through
the same stages. -/
theorem World.call_eq_of_run {w w' : World} (hhub : w.hub.AlikeBut key w'.hub)
    (hlength : w'.calls.length = w.calls.length) (ht : task.resolution? = some (id, kinds))
    (hne : id.key ≠ key) {events : List Event}
    (he : ∀ e ∈ events, e.Concerns w.calls.length) :
    ((w'.begin task).run? events).map (·.calls[w.calls.length]?) =
      ((w.begin task).run? events).map (·.calls[w.calls.length]?) := by
  have hbegun : (w.begin task).calls[w.calls.length]? = some ⟨task, .ready⟩ :=
    List.getElem?_concat_length
  have hbegun' : (w'.begin task).calls[w.calls.length]? = some ⟨task, .ready⟩ :=
    hlength ▸ List.getElem?_concat_length
  have halike : World.AlikeBut key w.calls.length task (w.begin task) (w'.begin task) :=
    ⟨hhub, .ready, trivial, hbegun, hbegun'⟩
  have hruns := halike.run ht hne he
  generalize (w.begin task).run? events = ended at hruns ⊢
  generalize (w'.begin task).run? events = ended' at hruns ⊢
  cases hruns with
  | some h =>
      obtain ⟨stage, -, hleft, hright⟩ := h.call
      simp [hleft, hright]
  | none => rfl

/-! ## Look-ups of an absent key -/

/-- A key that is absent stays so until it is stored. -/
theorem World.get?_eq_none_of_run {w w' : World} {events : List Event}
    (hr : w.run? events = some w') (habsent : w.hub.shelf.cache.table.get? key = none)
    (hunstored : ∀ n ∈ w.history events, n.deed.stores? key = none) :
    w'.hub.shelf.cache.table.get? key = none := by
  induction events generalizing w with
  | nil =>
      obtain rfl := Option.some.inj hr
      exact habsent
  | cons e events ih =>
      obtain ⟨next, hs, hr⟩ := Option.bind_eq_some_iff.mp hr
      obtain ⟨n, hn, hm⟩ := Move.of_step hs
      have hhistory : w.history (e :: events) = n :: next.history events := by
        simp [World.history, hs, hn]
      rw [hhistory] at hunstored
      obtain ⟨hhead, hrest⟩ := List.forall_mem_cons.mp hunstored
      refine ih hr ?_ hrest
      cases hm with
      | begin task => exact habsent
      | act hi ha =>
          rw [Option.eq_none_iff_forall_ne_some]
          intro entry hentry
          rcases ha.cache.get?_cases hentry with ⟨_, _, hd, _⟩ | ⟨_, hold⟩
          · rw [hhead] at hd
            cases hd
          · rw [habsent] at hold
            cases hold

/-- Whether a call at this stage is in its first look-up. -/
def Stage.looksFirst : Stage → Bool
  | .peeking .first _ => true
  | .settling .first _ => true
  | _ => false

/-- The first look-up of a key that is absent misses. -/
theorem Hub.advance_of_absent {hub : Hub} (ht : task.resolution? = some (id, kinds))
    (habsent : hub.shelf.cache.table.get? id.key = none) {stage : Stage}
    (hs : stage.looksFirst = true) (me : Nat) (now : Time.Instant) :
    ∃ hub', hub.advance me now task stage = some (hub', .missed) := by
  have hkey := Hub.lookupKey_of_resolution ht
  have hpeek (stamp : Time.Instant) :
      hub.shelf.cache.peek (Hub.lookupKey task) stamp = .absent :=
    Cache.peek_eq_absent_iff.mpr (hkey ▸ habsent)
  cases stage with
  | peeking round stamp =>
      cases round with
      | first => simp [Hub.advance, Hub.peek, Shelf.peek, hpeek, Hub.found, ht]
      | second => cases hs
  | settling round stamp =>
      cases round with
      | first => simp [Hub.advance, Hub.settle, Shelf.settle, hpeek, Hub.found, ht]
      | second => cases hs
  | _ => cases hs

/-- A call in its first look-up of an absent key misses in its next step. -/
theorem World.missed_of_absent {w : World} {i : Nat} {stage : Stage}
    (hi : w.calls[i]? = some ⟨task, stage⟩) (ht : task.resolution? = some (id, kinds))
    (habsent : w.hub.shelf.cache.table.get? id.key = none) (hs : stage.looksFirst = true)
    (now : Time.Instant) :
    ∃ w', w.step? (.advance i now) = some w' ∧ w'.calls[i]? = some ⟨task, .missed⟩ := by
  obtain ⟨hub', hnext⟩ := Hub.advance_of_absent ht habsent hs i now
  refine ⟨w.update i ⟨task, stage⟩ (hub', .missed), ?_, World.getElem?_update hi _⟩
  simp [World.step?, World.advance?, hi, hnext]

/-- A resolution that begins where its key is absent misses in its second step. -/
theorem World.exists_missed_of_begin {w : World} (ht : task.resolution? = some (id, kinds))
    (hk : id.kind ∈ kinds) (habsent : w.hub.shelf.cache.table.get? id.key = none)
    (t t' : Time.Instant) :
    ∃ w', (w.begin task).run? [.advance w.calls.length t, .advance w.calls.length t'] = some w' ∧
      w'.calls[w.calls.length]? = some ⟨task, .missed⟩ := by
  have hbegun : (w.begin task).calls[w.calls.length]? = some ⟨task, .ready⟩ :=
    List.getElem?_concat_length
  have hstart : w.hub.start t task = (w.hub, .peeking .first t) := by
    simp [Hub.start, ht, Identifier.checkKind, hk]
  have hstarted : (w.begin task).step? (.advance w.calls.length t) =
      some ((w.begin task).update w.calls.length ⟨task, .ready⟩ (w.hub, .peeking .first t)) := by
    rw [← hstart]
    simp [World.step?, World.advance?, Hub.advance, World.begin]
  obtain ⟨w', hs, hmissed⟩ := World.missed_of_absent
    (World.getElem?_update hbegun (w.hub, .peeking .first t)) ht habsent rfl t'
  exact ⟨w', by simp [World.run?, hstarted, hs], hmissed⟩

/-! ## The law of removal -/

/-- What an invalidation does, and what resolutions after it can tell of it. -/
structure RemovalSpec (w : World) (i : Nat) (id : Identifier) (w' : World) : Prop where
  location : LocationSpec id
  key_eq_iff : ∀ other : Identifier, other.key = id.key ↔ other.listed = id.listed
  answer : ∃ present, w'.answer? i = some (.invalidated present) ∧
    (present = true ↔ ∃ entry, w.hub.shelf.cache.table.get? id.key = some entry)
  absent : w'.hub.shelf.cache.table.get? id.key = none
  kept : ∀ key, key ≠ id.key →
    w'.hub.shelf.cache.table.get? key = w.hub.shelf.cache.table.get? key
  missed : ∀ {task other kinds}, task.resolution? = some (other, kinds) → other.kind ∈ kinds →
    other.key = id.key → ∀ t t', ∃ w₁,
      (w'.begin task).run? [.advance w.calls.length t, .advance w.calls.length t'] = some w₁ ∧
      w₁.calls[w.calls.length]? = some ⟨task, .missed⟩
  missed_until_stored : ∀ {events w₁}, w'.run? events = some w₁ →
    (∀ n ∈ w'.history events, n.deed.stores? id.key = none) →
    ∀ {j task stage other kinds}, w₁.calls[j]? = some ⟨task, stage⟩ →
      task.resolution? = some (other, kinds) → other.key = id.key → stage.looksFirst = true →
      ∀ t, ∃ w₂, w₁.step? (.advance j t) = some w₂ ∧ w₂.calls[j]? = some ⟨task, .missed⟩
  unaffected : ∀ {task other kinds}, task.resolution? = some (other, kinds) →
    other.key ≠ id.key → ∀ events, (∀ e ∈ events, e.Concerns w.calls.length) →
      ((w'.begin task).run? events).map (·.calls[w.calls.length]?) =
        ((w.begin task).run? events).map (·.calls[w.calls.length]?)

/-- An invalidation removes the entry that its identifier is looked up by, fresh or expired, and
tells whether there was one. The next first look-up of this key misses. A resolution under another
key goes through the same stages, that of its first look-up among them, as without it. -/
theorem World.removal_of_invalidate {w : World} {i : Nat} {id : Identifier}
    (hi : w.calls[i]? = some ⟨.invalidate id, .ready⟩) (now : Time.Instant) :
    ∃ w', w.step? (.advance i now) = some w' ∧ RemovalSpec w i id w' := by
  obtain ⟨w', hw'⟩ : ∃ w', w' = w.update i ⟨.invalidate id, .ready⟩
    (w.hub.start now (.invalidate id)) := ⟨_, rfl⟩
  have hstep : w.step? (.advance i now) = some w' := by
    simp [World.step?, World.advance?, hi, Hub.advance, hw']
  have hshelf : w'.hub = { w.hub with shelf := (w.hub.shelf.invalidate id.key).2 } := by
    rw [hw']
    rfl
  have hlength : w'.calls.length = w.calls.length := by
    rw [hw', World.update, List.length_set]
  have hwithout : w.hub.shelf.cache.Without id.key w'.hub.shelf.cache := by
    rw [hshelf]
    exact w.hub.shelf.invalidate_without id.key
  have habsent : w'.hub.shelf.cache.table.get? id.key = none := by
    rw [hwithout.get?_eq, if_pos rfl]
  refine ⟨w', hstep, locationSpec id, ?_, ?_, habsent, ?_, ?_, ?_, ?_⟩
  · intro other
    exact ⟨Identifier.canonical_injective, congrArg Identifier.canonical⟩
  · refine ⟨(w.hub.shelf.invalidate id.key).1, ?_, Option.isSome_iff_exists⟩
    rw [World.answer?, hw', World.getElem?_update hi]
    rfl
  · intro key hne
    rw [hwithout.get?_eq, if_neg hne]
  · intro task other kinds ht hk hkey t t'
    rw [← hkey] at habsent
    rw [← hlength]
    exact World.exists_missed_of_begin ht hk habsent t t'
  · intro events w₁ hr hunstored j task stage other kinds hj ht hkey hs t
    have hstill := World.get?_eq_none_of_run hr habsent hunstored
    rw [← hkey] at hstill
    exact World.missed_of_absent hj ht hstill hs t
  · intro task other kinds ht hne events he
    refine World.call_eq_of_run ?_ hlength ht hne he
    rw [hshelf]
    exact .intro (w.hub.shelf.invalidate_without id.key).alikeBut

/-- A resource of an API. -/
def sampleResource : Identifier :=
  { sampleService with
    locator := .resource ⟨['v', '2'], by decide, by decide, by decide⟩
      ⟨['/', 'x'], by decide, by decide, by decide⟩ }

/-- Expired entries of the service and of the API, and one under the text of the resource. -/
def listedApi : Shelf :=
  (expiredShelf.put "urn:ads:a:b:v2" (sampleUrl 'p') .epoch).put sampleResource.canonical
    (sampleUrl 'q') .epoch

/-- The resource is invalidated by the entry of its API. -/
theorem removal_of_invalidate_resource :
    ∃ w, w.calls[0]? = some ⟨.invalidate sampleResource, .ready⟩ ∧
      sampleResource.key = "urn:ads:a:b:v2" ∧
      (∃ entry, w.hub.shelf.cache.table.get? sampleResource.key = some entry ∧
        entry.isFresh .epoch = false) ∧
      (∃ entry, w.hub.shelf.cache.table.get? sampleResource.canonical = some entry) ∧
      ∃ w', w.step? (.advance 0 .epoch) = some w' ∧ RemovalSpec w 0 sampleResource w' := by
  have hi : ((World.initial listedApi true).begin (.invalidate sampleResource)).calls[0]? =
      some ⟨.invalidate sampleResource, .ready⟩ := rfl
  exact ⟨_, hi, rfl, ⟨_, rfl, rfl⟩, ⟨_, rfl⟩, World.removal_of_invalidate hi .epoch⟩

end Directory

end Signpost
