import Signpost.Proofs.Cache.Entries
import Signpost.Proofs.Directory.Chronicle

/-! # Where answers come from

An entry of the cache was made by the last store of its key, with no removal since. A resolution
that answers with a URL has looked such an entry up while it was fresh, with single flight or
without, however its steps fall between those of other calls. -/

namespace Signpost.Directory

/-! ## What a deed does to a key -/

/-- The URL that a deed stores under a key, and when. -/
def Deed.stores? (key : String) : Deed → Option (Url × Time.Instant)
  | .put k url stamp => if k = key then some (url, stamp) else none
  | .stored entries stamp => (Listing.lastUrl? key entries).map (·, stamp)
  | _ => none

/-- Whether a deed removes a key, fresh or expired. -/
def Deed.removes (key : String) : Deed → Bool
  | .invalidated k => k == key
  | .cleared => true
  | _ => false

def Deed.touches (key : String) (deed : Deed) : Bool :=
  (deed.stores? key).isSome || deed.removes key

/-- The instant at which a deed may find entries expired and remove them. -/
def Deed.purge? : Deed → Option Time.Instant
  | .looked _ stamp _ => some stamp
  | .swept stamp => some stamp
  | _ => none

/-- What a deed leaves in the cache. -/
structure CacheSpec (hub : Hub) (deed : Deed) (hub' : Hub) : Prop where
  ttl_eq : hub'.shelf.cache.ttl = hub.shelf.cache.ttl
  stored : ∀ {key url stamp}, deed.stores? key = some (url, stamp) →
    hub'.shelf.cache.table.get? key = some (hub.shelf.cache.stored url stamp)
  removed : ∀ {key}, deed.removes key = true → hub'.shelf.cache.table.get? key = none
  kept : ∀ {key}, deed.touches key = false →
    hub'.shelf.cache.table.get? key = hub.shelf.cache.table.get? key ∨
    ∃ stamp, deed.purge? = some stamp ∧ hub'.shelf.cache.table.get? key =
      (hub.shelf.cache.table.get? key).filter (·.isFresh stamp)

theorem Deed.stores?_of_touches {key : String} {deed : Deed} (hd : deed.touches key = false) :
    deed.stores? key = none ∧ deed.removes key = false := by
  simpa [Deed.touches] using hd

/-- A step that leaves the cache alone. -/
theorem CacheSpec.same {hub hub' : Hub} {deed : Deed}
    (hcache : hub'.shelf.cache = hub.shelf.cache) (hd : ∀ key, deed.touches key = false) :
    CacheSpec hub deed hub' := by
  refine ⟨by rw [hcache], ?_, ?_, ?_⟩
  · intro key url stamp hs
    rw [(Deed.stores?_of_touches (hd key)).1] at hs
    cases hs
  · intro key hr
    rw [(Deed.stores?_of_touches (hd key)).2] at hr
    cases hr
  · intro key _
    exact .inl (by rw [hcache])

theorem Hub.found_cache (hub : Hub) (task : Task) (round : Round) (url : Option Url) :
    (hub.found task round url).1.shelf.cache = hub.shelf.cache := by
  obtain ⟨tally, ht⟩ := hub.found_fst task round url
  rw [ht]
  rfl

theorem Hub.conclude_cache (hub : Hub) (now : Time.Instant) (task : Task)
    (outcome : Except Failure Nat) :
    (hub.conclude now task outcome).1.shelf.cache = hub.shelf.cache := by
  obtain ⟨tally, ht⟩ := hub.conclude_fst now task outcome
  rw [ht]
  rfl

theorem Hub.settle_cache (hub : Hub) (task : Task) (round : Round) (stamp : Time.Instant) :
    (hub.settle task round stamp).1.shelf.cache =
      (hub.shelf.cache.settle (Hub.lookupKey task) stamp).2 := by
  unfold Hub.settle
  rw [Hub.found_cache]
  exact Shelf.settle_cache _ _ _

theorem Act.cache {hub hub' : Hub} {me : Nat} {task : Task} {stage stage' : Stage} {deed : Deed}
    (ha : Act hub me task stage deed hub' stage') : CacheSpec hub deed hub' := by
  cases ha with
  | @invalidate id =>
      refine ⟨rfl, (by simp [Deed.stores?]), ?_, ?_⟩
      · intro key hr
        obtain rfl : id.key = key := by simpa [Deed.removes] using hr
        exact (Cache.get?_invalidate _ _ _).trans (if_pos rfl)
      · intro key hd
        have hne : ¬key = id.key := fun he => by simp [Deed.touches, Deed.removes, he] at hd
        exact .inl ((Cache.get?_invalidate _ _ _).trans (if_neg hne))
  | clear =>
      refine ⟨rfl, (by simp [Deed.stores?]), ?_, (by simp [Deed.touches, Deed.removes])⟩
      intro key _
      exact Cache.get?_clear _ _
  | fresh | absent => exact .same (Hub.found_cache _ _ _ _) fun _ => rfl
  | @settle round stamp =>
      have hcache := hub.settle_cache task round stamp
      refine ⟨by rw [hcache, Cache.settle_ttl], (by simp [Deed.stores?]),
        (by simp [Deed.removes]), ?_⟩
      intro key _
      rw [hcache, Cache.get?_settle]
      by_cases hk : key = Hub.lookupKey task
      · exact .inr ⟨stamp, rfl, if_pos hk⟩
      · exact .inl (if_neg hk)
  | share =>
      rw [Hub.share_eq]
      exact .same (Hub.conclude_cache _ _ _ _) fun _ => rfl
  | @arrive now gated ticket report =>
      cases ho : report.outcome <;> simp only [Hub.arrive, ho] <;>
        exact .same (by rfl) fun _ => rfl
  | @store gated entries stamp =>
      refine ⟨Cache.putAll_ttl _ _ _, ?_, (by simp [Deed.removes]), ?_⟩
      · intro key url stamp' hs
        obtain ⟨url', hu, he⟩ := Option.map_eq_some_iff.mp hs
        obtain ⟨rfl, rfl⟩ := Prod.mk.inj he
        refine (Cache.get?_putAll _ _ _ _).trans ?_
        rw [hu]
        rfl
      · intro key hd
        have hn : Listing.lastUrl? key entries = none := by
          simpa [Deed.stores?] using (Deed.stores?_of_touches hd).1
        refine .inl ((Cache.get?_putAll _ _ _ _).trans ?_)
        rw [hn]
        rfl
  | publish | conclude => exact .same (Hub.conclude_cache _ _ _ _) fun _ => rfl
  | @put key url stamp =>
      refine ⟨rfl, ?_, (by simp [Deed.removes]), ?_⟩
      · intro other url' stamp' hs
        simp only [Deed.stores?, Option.ite_none_right_eq_some, Option.some.injEq,
          Prod.mk.injEq] at hs
        obtain ⟨rfl, rfl, rfl⟩ := hs
        exact (Cache.get?_put _ _ _ _ _).trans (if_pos rfl)
      · intro other hd
        have hne : ¬other = key := fun he => by simp [Deed.touches, Deed.stores?, he] at hd
        exact .inl ((Cache.get?_put _ _ _ _ _).trans (if_neg hne))
  | @sweep stamp =>
      refine ⟨rfl, (by simp [Deed.stores?]), (by simp [Deed.removes]), ?_⟩
      intro key _
      exact .inr ⟨stamp, rfl, Cache.get?_sweep _ _ _⟩
  | _ => exact .same rfl fun _ => rfl

/-! ## Entries and the history -/

variable {shelf : Shelf} {ttl : Time.Span} {single : Bool} {h : List Note} {w : World}

def Note.touches (key : String) (n : Note) : Bool :=
  n.deed.touches key

/-- Before a position the last deed on a key stored this URL at this instant. -/
def StoredBefore (h : List Note) (q : Nat) (key : String) (url : Url) (stamp : Time.Instant) :
    Prop :=
  ∃ k n, k < q ∧ h[k]? = some n ∧ n.deed.stores? key = some (url, stamp) ∧
    NoneBetween h k q (Note.touches key)

theorem StoredBefore.append {q : Nat} {key : String} {url : Url} {stamp : Time.Instant}
    (hs : StoredBefore h q key url stamp) (hq : q ≤ h.length) (l : List Note) :
    StoredBefore (h ++ l) q key url stamp := by
  obtain ⟨k, n, hkq, hk, hd, hb⟩ := hs
  exact ⟨k, n, hkq, getElem?_append_of_some hk l, hd, hb.append hq l⟩

theorem StoredBefore.snoc {key : String} {url : Url} {stamp : Time.Instant}
    (hs : StoredBefore h h.length key url stamp) {n : Note} (hn : n.touches key = false) :
    StoredBefore (h ++ [n]) (h ++ [n]).length key url stamp := by
  obtain ⟨k, m, hkl, hk, hd, hb⟩ := hs
  refine ⟨k, m, ?_, getElem?_append_of_some hk _, hd, hb.snoc hn⟩
  rw [List.length_append]
  exact Nat.lt_add_right _ hkl

theorem StoredBefore.of_stores {n : Note} {key : String} {url : Url} {stamp : Time.Instant}
    (hn : n.deed.stores? key = some (url, stamp)) (h : List Note) :
    StoredBefore (h ++ [n]) (h ++ [n]).length key url stamp := by
  refine ⟨h.length, n, by simp, by simp, hn, ?_⟩
  intro k m hk hkl
  rw [List.length_append, List.length_singleton] at hkl
  omega

/-- What the history tells of the cache. -/
structure CacheInv (ttl : Time.Span) (h : List Note) (w : World) : Prop where
  ttl_eq : w.hub.shelf.cache.ttl = ttl
  stored : ∀ {key entry}, w.hub.shelf.cache.table.get? key = some entry →
    ∃ stamp, StoredBefore h h.length key entry.url stamp ∧
      entry = w.hub.shelf.cache.stored entry.url stamp

/-- An entry after a step was there before or has just been stored. -/
theorem CacheSpec.get?_cases {hub hub' : Hub} {deed : Deed} (hs : CacheSpec hub deed hub')
    {key : String} {entry : Stored}
    (he : hub'.shelf.cache.table.get? key = some entry) :
    (∃ url stamp, deed.stores? key = some (url, stamp) ∧
      entry = hub.shelf.cache.stored url stamp) ∨
    (deed.touches key = false ∧ hub.shelf.cache.table.get? key = some entry) := by
  cases hd : deed.stores? key with
  | some pair =>
      obtain ⟨url, stamp⟩ := pair
      exact .inl ⟨url, stamp, rfl, Option.some.inj (he.symm.trans (hs.stored hd))⟩
  | none =>
      cases hr : deed.removes key with
      | true =>
          rw [hs.removed hr] at he
          cases he
      | false =>
          have ht : deed.touches key = false := by simp [Deed.touches, hd, hr]
          refine .inr ⟨ht, ?_⟩
          rcases hs.kept ht with hk | ⟨stamp, _, hk⟩
          · exact hk.symm.trans he
          · rw [hk] at he
            exact (Option.filter_eq_some_iff.mp he).1

theorem Chronicle.cache (hc : Chronicle (.empty ttl) single h w) : CacheInv ttl h w := by
  induction hc with
  | start =>
      refine ⟨rfl, ?_⟩
      intro key entry he
      cases he
  | @move h w n w' hc hm ih =>
      cases hm with
      | begin task =>
          refine ⟨ih.ttl_eq, ?_⟩
          intro key entry he
          obtain ⟨stamp, hs, hentry⟩ := ih.stored he
          exact ⟨stamp, hs.snoc rfl, hentry⟩
      | @act i task stage deed hub stage' hi ha =>
          have hcache := ha.cache
          have hstored : hub.shelf.cache.stored = w.hub.shelf.cache.stored :=
            Cache.stored_congr hcache.ttl_eq
          refine ⟨hcache.ttl_eq.trans ih.ttl_eq, ?_⟩
          intro key entry he
          rcases hcache.get?_cases he with ⟨url, stamp, hd, rfl⟩ | ⟨hd, hold⟩
          · exact ⟨stamp, .of_stores hd h, (congrFun₂ hstored _ _).symm⟩
          · obtain ⟨stamp, hs, hentry⟩ := ih.stored hold
            exact ⟨stamp, hs.snoc hd, hentry.trans (congrFun₂ hstored _ _).symm⟩

/-! ## Answers with a URL -/

theorem Hub.lookupKey_of_resolution {task : Task} {id : Identifier}
    {kinds : List Identifier.Kind} (ht : task.resolution? = some (id, kinds)) :
    Hub.lookupKey task = id.key := by
  simp [Hub.lookupKey, ht]

/-- A resolution ends with a URL only where a look-up has found a fresh entry. -/
theorem Act.of_ok {hub hub' : Hub} {me : Nat} {task : Task} {stage : Stage} {deed : Deed}
    {u : Url} (ha : Act hub me task stage deed hub' (.done (.url (.ok u)))) {id : Identifier}
    {kinds : List Identifier.Kind} (ht : task.resolution? = some (id, kinds)) :
    ∃ round stamp entry, deed = .looked round stamp (some entry.url) ∧
      hub.shelf.cache.table.get? id.key = some entry ∧ entry.isFresh stamp = true ∧
      u = id.locate entry.url := by
  have hkey := Hub.lookupKey_of_resolution ht
  generalize hs : Stage.done (.url (.ok u)) = stage' at ha
  cases ha with
  | @fresh round stamp url hp =>
      rw [Hub.found_of_resolution ht] at hs
      obtain ⟨entry, he, hf, rfl⟩ := Cache.peek_eq_fresh_iff.mp hp
      refine ⟨round, stamp, entry, rfl, hkey ▸ he, hf, ?_⟩
      cases round <;> simpa using hs
  | @absent round =>
      rw [Hub.found_of_resolution ht] at hs
      cases round <;> simp at hs
  | @settle round stamp =>
      unfold Hub.settle at hs
      rw [Hub.found_of_resolution ht, Shelf.settle_fst] at hs
      rw [Shelf.settle_fst]
      cases hu : (hub.shelf.cache.settle (Hub.lookupKey task) stamp).1 with
      | none =>
          rw [hu] at hs
          cases round <;> simp at hs
      | some url =>
          rw [hu] at hs
          obtain ⟨entry, he, hf, rfl⟩ := Cache.settle_eq_some_iff.mp hu
          refine ⟨round, stamp, entry, rfl, hkey ▸ he, hf, ?_⟩
          cases round <;> simpa using hs
  | share =>
      rw [Hub.share_eq, Hub.conclude_of_resolution ht] at hs
      split at hs <;> simp at hs
  | @arrive now gated ticket report =>
      cases ho : report.outcome <;> simp [Hub.arrive, ho] at hs
  | publish | conclude =>
      rw [Hub.conclude_of_resolution ht] at hs
      split at hs <;> simp at hs
  | _ => cases hs

/-- A call answers with a URL for an identifier: its last deed is a look-up at position `q` whose
instant `t` is less than a lifetime after the instant `s` of the last store of the key. -/
structure ServedAt (ttl : Time.Span) (h : List Note) (i : Nat) (id : Identifier) (u : Url)
    (q : Nat) (url : Url) (t s : Time.Instant) : Prop where
  looked : ∃ round, h[q]? = some ⟨i, .looked round t (some url)⟩
  last : NoneBetween h q h.length (·.call == i)
  located : u = id.locate url
  stored : StoredBefore h q id.key url s
  fresh : t.ns < s.ns + ttl.ns

theorem ServedAt.append {i : Nat} {id : Identifier} {u : Url} {q : Nat} {url : Url}
    {t s : Time.Instant} (hs : ServedAt ttl h i id u q url t s) {n : Note} (hn : n.call ≠ i) :
    ServedAt ttl (h ++ [n]) i id u q url t s := by
  obtain ⟨round, hq⟩ := hs.looked
  have hql := (List.getElem?_eq_some_iff.mp hq).1
  exact ⟨⟨round, getElem?_append_of_some hq _⟩, hs.last.snoc (by simpa using hn), hs.located,
    hs.stored.append hql.le _, hs.fresh⟩

theorem Chronicle.served (hc : Chronicle (.empty ttl) single h w) (httl : 0 ≤ ttl.ns) {j : Nat}
    {call : Call} (hj : w.calls[j]? = some call) {id : Identifier}
    {kinds : List Identifier.Kind} (ht : call.task.resolution? = some (id, kinds)) {u : Url}
    (hu : call.stage = .done (.url (.ok u))) : ∃ q url t s, ServedAt ttl h j id u q url t s := by
  refine hc.calls (P := fun h j call => ∀ id kinds u,
    call.task.resolution? = some (id, kinds) → call.stage = .done (.url (.ok u)) →
    ∃ q url t s, ServedAt ttl h j id u q url t s) ?_ ?_ ?_ hj id kinds u ht hu
  · intro h w _ task id kinds u _ hu
    cases hu
  · intro h n j call hne hp id kinds u ht hu
    obtain ⟨q, url, t, s, hserved⟩ := hp id kinds u ht hu
    exact ⟨q, url, t, s, hserved.append hne⟩
  · intro h w j task stage deed hub stage' hc hj ha _ id kinds u ht hu
    obtain rfl : stage' = _ := hu
    obtain ⟨round, t, entry, rfl, he, hf, hl⟩ := ha.of_ok ht
    have hcache := hc.cache
    obtain ⟨s, hstored, hentry⟩ := hcache.stored he
    rw [hentry, Cache.stored_isFresh_iff (hcache.ttl_eq ▸ httl), hcache.ttl_eq] at hf
    refine ⟨h.length, entry.url, t, s, ⟨round, by simp⟩, ?_, hl, hstored.append le_rfl _, hf.1⟩
    intro k n hk hkl
    rw [List.length_append, List.length_singleton] at hkl
    omega

/-- Every URL that a resolution answers with was held by the most recent store of its key when it
was looked up, and that store had not expired. -/
theorem World.served_of_run (httl : 0 ≤ ttl.ns) {events : List Event}
    (hr : (World.initial (.empty ttl) single).run? events = some w) {i : Nat} {task : Task}
    {u : Url} (hi : w.calls[i]? = some ⟨task, .done (.url (.ok u))⟩) {id : Identifier}
    {kinds : List Identifier.Kind} (ht : task.resolution? = some (id, kinds)) :
    ∃ q url t s, ServedAt ttl ((World.initial (.empty ttl) single).history events) i id u q url
      t s :=
  (Chronicle.of_run hr).served httl hi ht rfl

/-! ## An entry that expires and is overwritten -/

/-- The URL of a host with an empty path. -/
def sampleUrl (host : Char) : Url :=
  ⟨"https".toList, .authority ⟨[], [], some (.name [host]), none⟩ [[]], none, none⟩

/-- An entry is put and expires. A resolution then removes it and refreshes, and the listing has
two entries under the key. -/
def refreshedRun : List Event :=
  let later := Time.Instant.ofMillis 36000000
  let entry host : Listing.Entry := ⟨sampleService.key, sampleUrl host⟩
  [.begin (.put sampleService.key (sampleUrl 'x')), .advance 0 .epoch, .advance 0 .epoch,
      .begin (.resolve sampleService)] ++
    List.replicate 6 (.advance 1 later) ++
    [.arrive 1 later ⟨.ok [entry 'y', entry 'z'], 0, 1, 0⟩] ++
    List.replicate 3 (.advance 1 later)

/-- The resolution answers with the last entry of the listing. -/
theorem served_refreshed :
    0 ≤ Time.Span.tenHours.ns ∧
    ∃ w, (World.initial (.empty .tenHours) true).run? refreshedRun = some w ∧
      w.calls[1]? = some ⟨.resolve sampleService, .done (.url (.ok (sampleUrl 'z')))⟩ ∧
      ∃ q url t s, ServedAt .tenHours
        ((World.initial (.empty .tenHours) true).history refreshedRun) 1 sampleService
        (sampleUrl 'z') q url t s :=
  ⟨by decide, _, rfl, rfl, World.served_of_run (by decide) rfl rfl rfl⟩

end Signpost.Directory
