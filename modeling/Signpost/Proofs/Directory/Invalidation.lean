import Signpost.Proofs.Directory.Provenance
import Signpost.Proofs.Directory.Refresh
import Signpost.Proofs.Directory.SingleFlight

/-! # After an invalidation

A resolution that starts after its key was invalidated reads a listing that was stored after the
invalidation. That listing was asked for after it too, unless its fetch was under way at the
invalidation: such a fetch puts an older listing back. -/

namespace Signpost.Directory

variable {shelf : Shelf} {single : Bool} {h : List Note} {w : World}

/-! ## Entries of a key that was touched -/

/-- Once a deed has touched a key, an entry of the key is from the last store of it, whatever the
cache held at first. -/
theorem Chronicle.storedBefore (hc : Chronicle shelf single h w) {key : String} {n : Note}
    (hn : n ∈ h) (ht : n.touches key = true) {entry : Stored}
    (he : w.hub.shelf.cache.table.get? key = some entry) :
    ∃ stamp, StoredBefore h h.length key entry.url stamp := by
  induction hc generalizing entry with
  | start => cases hn
  | @move h w m w' hc hm ih =>
      cases hm with
      | begin task =>
          have hold : n ∈ h := by
            rcases List.mem_append.mp hn with hn | hn
            · exact hn
            · obtain rfl := List.mem_singleton.mp hn
              cases ht
          obtain ⟨stamp, hs⟩ := ih hold he
          exact ⟨stamp, hs.snoc rfl⟩
      | @act i task stage deed hub stage' hi ha =>
          rcases ha.cache.get?_cases he with ⟨url, stamp, hd, rfl⟩ | ⟨hd, hentry⟩
          · exact ⟨stamp, .of_stores hd h⟩
          · have hold : n ∈ h := by
              rcases List.mem_append.mp hn with hn | hn
              · exact hn
              · obtain rfl := List.mem_singleton.mp hn
                exact absurd ht (by simp [Note.touches, hd])
            obtain ⟨stamp, hs⟩ := ih hold hentry
            exact ⟨stamp, hs.snoc hd⟩

/-- A URL that a resolution answers with was in the cache when the resolution looked it up. -/
theorem Chronicle.read_of_ok (hc : Chronicle shelf single h w) {j : Nat} {task : Task} {u : Url}
    (hj : w.calls[j]? = some ⟨task, .done (.url (.ok u))⟩) {id : Identifier}
    {kinds : List Identifier.Kind} (ht : task.resolution? = some (id, kinds)) :
    ∃ q round stamp entry w₁, h[q]? = some ⟨j, .looked round stamp (some entry.url)⟩ ∧
      Chronicle shelf single (h.take q) w₁ ∧
      w₁.hub.shelf.cache.table.get? id.key = some entry ∧ u = id.locate entry.url := by
  refine hc.calls (P := fun h j call => ∀ u, call.stage = .done (.url (.ok u)) → ∀ id kinds,
    call.task.resolution? = some (id, kinds) →
    ∃ q round stamp entry w₁, h[q]? = some ⟨j, .looked round stamp (some entry.url)⟩ ∧
      Chronicle shelf single (h.take q) w₁ ∧
      w₁.hub.shelf.cache.table.get? id.key = some entry ∧ u = id.locate entry.url)
    ?_ ?_ ?_ hj u rfl id kinds ht
  · intro h w _ task u hu
    cases hu
  · intro h n j call _ hp u hu id kinds ht
    obtain ⟨q, round, stamp, entry, w₁, hq, hc₁, he, hl⟩ := hp u hu id kinds ht
    have hle := (List.getElem?_eq_some_iff.mp hq).1.le
    refine ⟨q, round, stamp, entry, w₁, getElem?_append_of_some hq _, ?_, he, hl⟩
    rwa [List.take_append_of_le_length hle]
  · intro h w j task stage deed hub stage' hc hj ha _ u hu id kinds ht
    obtain rfl : stage' = _ := hu
    obtain ⟨round, stamp, entry, rfl, he, _, hl⟩ := ha.of_ok ht
    exact ⟨h.length, round, stamp, entry, w, by simp, by simpa using hc, he, hl⟩

/-! ## Listings and what is read in them -/

/-- Call `j` asked for a listing at `f` and stored it at `s`; the listing has a URL for a key. -/
structure Listed (h : List Note) (key : String) (url : Url) (entries : List Listing.Entry)
    (j f s : Nat) : Prop where
  fetched : ∃ gated, h[f]? = some ⟨j, .fetched gated⟩
  arrived : ∃ a, f < a ∧ a < s ∧ h[a]? = some ⟨j, .arrived (.ok entries)⟩
  stored : ∃ stamp, h[s]? = some ⟨j, .stored entries stamp⟩
  listed : Listing.lastUrl? key entries = some url

/-- Call `i` looked the URL of a key up at `q`, where the store at `s` was the last deed on it. -/
structure ReadFrom (h : List Note) (i : Nat) (key : String) (url : Url) (s q : Nat) : Prop where
  looked : ∃ round stamp, h[q]? = some ⟨i, .looked round stamp (some url)⟩
  later : s < q
  untouched : NoneBetween h s q (Note.touches key)

/-- A deed that stores a URL under a key puts it there or stores a listing that has it. -/
theorem Deed.stores?_eq_some {key : String} {deed : Deed} {url : Url} {stamp : Time.Instant}
    (hd : deed.stores? key = some (url, stamp)) :
    deed = .put key url stamp ∨
      ∃ entries, deed = .stored entries stamp ∧ Listing.lastUrl? key entries = some url := by
  cases deed with
  | put k u t =>
      simp only [Deed.stores?, Option.ite_none_right_eq_some, Option.some.injEq,
        Prod.mk.injEq] at hd
      obtain ⟨rfl, rfl, rfl⟩ := hd
      exact .inl rfl
  | stored entries t =>
      obtain ⟨u, hu, he⟩ := Option.map_eq_some_iff.mp hd
      obtain ⟨rfl, rfl⟩ := Prod.mk.inj he
      exact .inr ⟨entries, rfl, hu⟩
  | _ => cases hd

/-- Where a key has been removed and no URL is put directly under it, a look-up of the key reads a
listing that was stored since. -/
theorem Chronicle.listed_of_removed (hc : Chronicle shelf single h w) {key : String} {p q : Nat}
    {n : Note} (hp : h[p]? = some n) (hr : n.deed.removes key = true) (hpq : p < q)
    (hput : ∀ n ∈ h, ∀ url stamp, n.deed ≠ .put key url stamp) {w₁ : World}
    (hc₁ : Chronicle shelf single (h.take q) w₁) {entry : Stored}
    (he : w₁.hub.shelf.cache.table.get? key = some entry) (hq : q ≤ h.length) :
    ∃ entries j f s, Listed h key entry.url entries j f s ∧ p < s ∧ s < q ∧
      NoneBetween h s q (Note.touches key) := by
  have htouch : n.touches key = true := by simp [Note.touches, Deed.touches, hr]
  have hlen : (h.take q).length = q := by rw [List.length_take, Nat.min_eq_left hq]
  have hmem : n ∈ h.take q :=
    List.mem_iff_getElem?.mpr ⟨p, by rw [List.getElem?_take_of_lt hpq, hp]⟩
  obtain ⟨stamp, s, m, hsq, hs, hd, hb⟩ := hc₁.storedBefore hmem htouch he
  rw [hlen] at hsq hb
  rw [List.getElem?_take_of_lt hsq] at hs
  have hb' : NoneBetween h s q (Note.touches key) := by
    intro k x hsk hkq hk
    exact hb k x hsk hkq (by rw [List.getElem?_take_of_lt hkq, hk])
  have hps : p < s := by
    rcases Nat.lt_trichotomy p s with hlt | rfl | hlt
    · exact hlt
    · obtain rfl := Option.some.inj (hp.symm.trans hs)
      exact absurd hr (by cases hn : n.deed <;> simp_all [Deed.stores?, Deed.removes])
    · exact absurd htouch (by rw [hb' p n hlt hpq hp]; simp)
  rcases Deed.stores?_eq_some hd with hm | ⟨entries, hm, hl⟩
  · exact absurd hm (hput m (List.mem_of_getElem? hs) _ _)
  · obtain ⟨j, deed⟩ := m
    obtain rfl : deed = _ := hm
    obtain ⟨f, a, gated, hfa, has, hf, ha⟩ := hc.of_stored hs
    exact ⟨entries, j, f, s, ⟨⟨gated, hf⟩, ⟨a, hfa, has, ha⟩, ⟨stamp, hs⟩, hl⟩, hps, hsq, hb'⟩

/-! ## Fetches under way -/

/-- Whether a call at this stage has asked for a listing that it has not stored yet. -/
def Stage.owesListing : Stage → Bool
  | .fetching _ _ => true
  | .storing _ _ _ => true
  | _ => false

theorem Stage.owesListing_iff (stage : Stage) :
    stage.owesListing = true ↔ 5 ≤ stage.rank ∧ stage.rank ≤ 6 := by
  cases stage with
  | peeking round | settling round => cases round <;> simp [owesListing, rank]
  | _ => simp [owesListing, rank]

/-- Whether a call has a fetch under way in a world, or a listing that is still to be stored. -/
def World.OwesListing (w : World) (j : Nat) : Prop :=
  ∃ call, w.calls[j]? = some call ∧ call.stage.owesListing = true

/-- A listing that is stored after a moment was asked for after it too, unless its fetch was under
way at that moment. -/
theorem World.lt_fetched_iff {events : List Event}
    (hr : (World.initial shelf single).run? events = some w) {p f s j : Nat} {n : Note}
    {gated : Bool} {entries : List Listing.Entry} {stamp : Time.Instant}
    (hp : ((World.initial shelf single).history events)[p]? = some n)
    (hn : ∀ gated, n.deed ≠ .fetched gated)
    (hf : ((World.initial shelf single).history events)[f]? = some ⟨j, .fetched gated⟩)
    (hs : ((World.initial shelf single).history events)[s]? = some ⟨j, .stored entries stamp⟩)
    (hps : p < s) {w₁ : World}
    (h₁ : (World.initial shelf single).run? (events.take p) = some w₁) :
    p < f ↔ ¬w₁.OwesListing j := by
  constructor
  · rintro hpf ⟨call, hcall, howes⟩
    obtain ⟨wf, _, hwf, _, hm, _⟩ := World.at_note hr hf
    cases hm with
    | @act _ task stage _ _ _ hj ha =>
        have hrank := World.rank_le_of_take hpf.le h₁ hwf hcall hj
        have hceil : 6 < stage.rank := ha.ceiling.2
        have hle := ((Stage.owesListing_iff _).mp howes).2
        exact absurd hrank (by simp only; omega)
  · intro hno
    by_contra hpf
    have hne : f ≠ p := by
      rintro rfl
      obtain rfl := Option.some.inj (hp.symm.trans hf)
      exact hn gated rfl
    have hfp : f < p := by omega
    obtain ⟨w₁', _, h₁', hhist, _, _⟩ := World.at_note hr hp
    obtain rfl := Option.some.inj (h₁.symm.trans h₁')
    have hc₁ := Chronicle.of_run h₁
    rw [hhist] at hc₁
    have hmem : ⟨j, .fetched gated⟩ ∈ ((World.initial shelf single).history events).take p :=
      List.mem_iff_getElem?.mpr ⟨f, by rw [List.getElem?_take_of_lt hfp, hf]⟩
    obtain ⟨call, hcall, hle⟩ := hc₁.rank_le hmem
    obtain ⟨ws, _, hws, _, hm, _⟩ := World.at_note hr hs
    cases hm with
    | @act _ task stage _ _ _ hj ha =>
        have hrank := World.rank_le_of_take hps.le h₁ hws hcall hj
        have hceil : 4 < stage.rank := ha.ceiling.2
        refine hno ⟨call, hcall, (Stage.owesListing_iff _).mpr ⟨?_, hle⟩⟩
        simp only at hrank
        omega

/-- With single flight a listing that was asked for before a moment is the first one stored after
it. -/
theorem Chronicle.first_stored (hc : Chronicle shelf true h w) {p f s j : Nat} {gated : Bool}
    {entries : List Listing.Entry} {stamp : Time.Instant}
    (hf : h[f]? = some ⟨j, .fetched gated⟩) (hs : h[s]? = some ⟨j, .stored entries stamp⟩)
    (hfp : f < p) {k m : Nat} {entries' : List Listing.Entry} {stamp' : Time.Instant}
    (hpk : p < k) (hks : k < s) : h[k]? ≠ some ⟨m, .stored entries' stamp'⟩ := by
  intro hk
  obtain ⟨f', a, gated', hfa, hak, hf', _⟩ := hc.of_stored hk
  rcases Nat.lt_trichotomy f f' with hlt | rfl | hlt
  · have := hc.stored_lt_fetched hf hs hf' hlt
    omega
  · obtain ⟨rfl, _⟩ := Note.mk.inj (Option.some.inj (hf.symm.trans hf'))
    exact absurd (hc.position_eq hk hs rfl rfl) hks.ne
  · have := hc.stored_lt_fetched hf' hk hf hlt
    omega

/-! ## Resolutions after an invalidation -/

/-- A resolution that starts after an invalidation of its key reads a listing stored since. It was
asked for since exactly if its fetch was not under way at the invalidation, and with single flight
no other listing is stored between the invalidation and one that was. -/
theorem World.refetched_of_run {events : List Event}
    (hr : (World.initial shelf single).run? events = some w) {id : Identifier}
    (hput : ∀ n ∈ (World.initial shelf single).history events, ∀ url stamp,
      n.deed ≠ .put id.key url stamp)
    {p b c i : Nat} {now : Time.Instant}
    (hp : ((World.initial shelf single).history events)[p]? = some ⟨c, .invalidated id.key⟩)
    (hb : ((World.initial shelf single).history events)[b]? = some ⟨i, .started now⟩)
    (hpb : p < b) {task : Task} {kinds : List Identifier.Kind} {u : Url}
    (ht : task.resolution? = some (id, kinds))
    (hi : w.calls[i]? = some ⟨task, .done (.url (.ok u))⟩) :
    ∃ url entries j f s q w₁, u = id.locate url ∧
      Listed ((World.initial shelf single).history events) id.key url entries j f s ∧
      ReadFrom ((World.initial shelf single).history events) i id.key url s q ∧ p < s ∧
      (World.initial shelf single).run? (events.take p) = some w₁ ∧
      (p < f ↔ ¬w₁.OwesListing j) ∧
      (single = true → f < p → ∀ k m entries' stamp', p < k → k < s →
        ((World.initial shelf single).history events)[k]? ≠ some ⟨m, .stored entries' stamp'⟩) := by
  have hc := Chronicle.of_run hr
  obtain ⟨q, round, stamp, entry, wq, hq, hcq, he, hu⟩ := hc.read_of_ok hi ht
  have hbq : b < q := hc.lt_of_ceiling hb hq rfl (by cases round <;> simp [Deed.ceiling])
  obtain ⟨entries, j, f, s, hlisted, hps, hsq, hbetween⟩ :=
    hc.listed_of_removed hp (by simp [Deed.removes]) (hpb.trans hbq) hput hcq he
      (List.getElem?_eq_some_iff.mp hq).1.le
  obtain ⟨w₁, _, h₁, _, _, _⟩ := World.at_note hr hp
  obtain ⟨gated, hf⟩ := hlisted.fetched
  obtain ⟨stored, hs⟩ := hlisted.stored
  refine ⟨entry.url, entries, j, f, s, q, w₁, hu, hlisted, ⟨⟨round, stamp, hq⟩, hsq, hbetween⟩,
    hps, h₁, World.lt_fetched_iff hr hp (by simp) hf hs hps h₁, ?_⟩
  rintro rfl hfp k m entries' stamp' hpk hks
  exact hc.first_stored hf hs hfp hpk hks

/-! ### An invalidation that is undone -/

/-- A listed key is invalidated while a second refresh fetches. The refresh stores its listing, and
a resolution that starts only then is answered from it. -/
def overtakenRun : List Event :=
  let advance := List.map fun i => Event.advance i .epoch
  let report : Listing.Report := ⟨.ok [⟨sampleService.key, sampleUrl 'x'⟩], 0, 1, 0⟩
  [.begin .refresh] ++ advance [0, 0, 0] ++ [.arrive 0 .epoch report] ++ advance [0, 0] ++
    [.begin .refresh] ++ advance [1, 1, 1] ++
    [.begin (.invalidate sampleService)] ++ advance [2] ++
    [.arrive 1 .epoch report] ++ advance [1, 1] ++
    [.begin (.resolve sampleService)] ++ advance [3, 3]

def overtakenHistory : List Note :=
  (World.initial (.empty .tenHours) true).history overtakenRun

theorem overtakenHistory_eq :
    overtakenHistory =
      [⟨0, .begun .refresh⟩, ⟨0, .started .epoch⟩, ⟨0, .joined⟩, ⟨0, .fetched true⟩,
        ⟨0, .arrived (.ok [⟨sampleService.key, sampleUrl 'x'⟩])⟩,
        ⟨0, .stored [⟨sampleService.key, sampleUrl 'x'⟩] .epoch⟩, ⟨0, .published (.ok 1)⟩,
        ⟨1, .begun .refresh⟩, ⟨1, .started .epoch⟩, ⟨1, .joined⟩, ⟨1, .fetched true⟩,
        ⟨2, .begun (.invalidate sampleService)⟩, ⟨2, .invalidated sampleService.key⟩,
        ⟨1, .arrived (.ok [⟨sampleService.key, sampleUrl 'x'⟩])⟩,
        ⟨1, .stored [⟨sampleService.key, sampleUrl 'x'⟩] .epoch⟩, ⟨1, .published (.ok 1)⟩,
        ⟨3, .begun (.resolve sampleService)⟩, ⟨3, .started .epoch⟩,
        ⟨3, .looked .first .epoch (some (sampleUrl 'x'))⟩] :=
  rfl

/-- The resolution reads the listing of the refresh that was under way. -/
theorem refetched_overtaken :
    ∃ w, (World.initial (.empty .tenHours) true).run? overtakenRun = some w ∧
      overtakenHistory[12]? = some ⟨2, .invalidated sampleService.key⟩ ∧
      overtakenHistory[17]? = some ⟨3, .started .epoch⟩ ∧
      w.calls[3]? = some ⟨.resolve sampleService, .done (.url (.ok (sampleUrl 'x')))⟩ ∧
      ∃ url entries j f s q w₁, sampleUrl 'x' = sampleService.locate url ∧
        Listed overtakenHistory sampleService.key url entries j f s ∧
        ReadFrom overtakenHistory 3 sampleService.key url s q ∧ 12 < s ∧
        (World.initial (.empty .tenHours) true).run? (overtakenRun.take 12) = some w₁ ∧
        (12 < f ↔ ¬w₁.OwesListing j) ∧
        (true = true → f < 12 → ∀ k m entries' stamp', 12 < k → k < s →
          overtakenHistory[k]? ≠ some ⟨m, .stored entries' stamp'⟩) := by
  have hput : ∀ n ∈ overtakenHistory, ∀ url stamp,
      n.deed ≠ .put sampleService.key url stamp := by
    simp [overtakenHistory_eq]
  have hp : overtakenHistory[12]? = some ⟨2, .invalidated sampleService.key⟩ := rfl
  have hb : overtakenHistory[17]? = some ⟨3, .started .epoch⟩ := rfl
  exact ⟨_, rfl, hp, hb, rfl, World.refetched_of_run rfl hput hp hb (by decide) rfl rfl⟩

/-- The key is removed, no fetch starts behind that, and yet the resolution has a URL. -/
theorem not_refetched_overtaken :
    ∃ w, (World.initial (.empty .tenHours) true).run? overtakenRun = some w ∧
      overtakenHistory[12]? = some ⟨2, .invalidated sampleService.key⟩ ∧
      w.calls[2]? = some ⟨.invalidate sampleService, .done (.invalidated true)⟩ ∧
      overtakenHistory[17]? = some ⟨3, .started .epoch⟩ ∧
      w.calls[3]? = some ⟨.resolve sampleService, .done (.url (.ok (sampleUrl 'x')))⟩ ∧
      ∀ f j gated, overtakenHistory[f]? = some ⟨j, .fetched gated⟩ → f < 12 := by
  refine ⟨_, rfl, rfl, rfl, rfl, rfl, ?_⟩
  intro f j gated hf
  by_contra hle
  have hmem : ⟨j, .fetched gated⟩ ∈ overtakenHistory.drop 12 := by
    refine List.mem_iff_getElem?.mpr ⟨f - 12, ?_⟩
    rw [List.getElem?_drop, Nat.add_sub_cancel' (by omega), hf]
  simp [overtakenHistory_eq] at hmem

end Signpost.Directory
