import Signpost.Proofs.Directory.Gate

/-! # Single flight

With single flight at most one call refreshes at any moment, listings are stored in the order in
which they were asked for, and calls that have seen the same generation share one fetch. -/

namespace Signpost.Directory

variable {shelf : Shelf} {single : Bool} {h : List Note} {w : World}

/-! ## Tasks and observations of a call -/

theorem Chronicle.begun (hc : Chronicle shelf single h w) {j : Nat} {call : Call}
    (hj : w.calls[j]? = some call) : ⟨j, .begun call.task⟩ ∈ h := by
  refine hc.calls (P := fun h j call => ⟨j, .begun call.task⟩ ∈ h) ?_ ?_ ?_ hj
  · intro h w _ task
    simp
  · intro h n j call _ hb
    exact List.mem_append_left _ hb
  · intro h w j task stage deed hub stage' _ _ _ hb
    exact List.mem_append_left _ hb

/-- A call begins with one task. -/
theorem Chronicle.begun_inj (hc : Chronicle shelf single h w) {i : Nat} {t t' : Task}
    (ht : ⟨i, .begun t⟩ ∈ h) (ht' : ⟨i, .begun t'⟩ ∈ h) : t = t' := by
  obtain ⟨p, hp⟩ := List.mem_iff_getElem?.mp ht
  obtain ⟨q, hq⟩ := List.mem_iff_getElem?.mp ht'
  obtain rfl := hc.position_eq hp hq rfl rfl
  simpa using hp.symm.trans hq

/-- What a call at this stage has seen of the generation, where it waits for the gate. -/
def Stage.seen? : Stage → Option (Option Nat)
  | .joining seen => some seen
  | .queued seen => some seen
  | _ => none

/-- A call waits for the gate with the generation that it observed, and a resolution has
observed one. -/
structure SeenInv (h : List Note) (j : Nat) (task : Task) (seen : Option Nat) : Prop where
  eq_some_iff : ∀ g, seen = some g ↔ ⟨j, .observed g⟩ ∈ h
  isSome : task.resolution?.isSome = true → seen.isSome = true

theorem SeenInv.append {j : Nat} {task : Task} {seen : Option Nat} (hi : SeenInv h j task seen)
    {n : Note} (hn : ∀ g, n ≠ ⟨j, .observed g⟩) : SeenInv (h ++ [n]) j task seen := by
  refine ⟨?_, hi.isSome⟩
  intro g
  simp only [List.mem_append, List.mem_singleton, (hn g).symm, or_false]
  exact hi.eq_some_iff g

/-- A call that has not observed yet. -/
theorem Chronicle.not_observed (hc : Chronicle shelf single h w) {j : Nat} {call : Call}
    (hj : w.calls[j]? = some call) (hr : 8 < call.stage.rank) (g : Nat) :
    ⟨j, .observed g⟩ ∉ h :=
  fun ho => absurd (hc.rank_le_ceiling hj ho) hr.not_ge

theorem Chronicle.seen (hc : Chronicle shelf single h w) {j : Nat} {call : Call}
    {seen : Option Nat} (hj : w.calls[j]? = some call) (hs : call.stage.seen? = some seen) :
    SeenInv h j call.task seen := by
  refine hc.calls (P := fun h j call => ∀ seen, call.stage.seen? = some seen →
    SeenInv h j call.task seen) ?_ ?_ ?_ hj seen hs
  · intro h w _ task seen hs
    cases hs
  · intro h n j call hne hp seen hs
    exact (hp seen hs).append fun g hn => hne (congrArg Note.call hn)
  · intro h w j task stage deed hub stage' hc hj ha hp seen hs
    have found := Hub.found_stage (P := fun s => s.seen? = none) rfl (fun _ => rfl)
    have conclude := Hub.conclude_stage (P := fun s => s.seen? = none) (fun _ => rfl)
      (fun _ => rfl)
    cases ha with
    | refresh ht =>
        obtain rfl := Option.some.inj hs
        refine ⟨?_, by simp [ht, Task.resolution?]⟩
        intro g
        simpa using hc.not_observed hj (by simp [Stage.rank]) g
    | observe =>
        obtain rfl := Option.some.inj hs
        refine ⟨?_, fun _ => rfl⟩
        intro g
        have hn := hc.not_observed hj (by simp [Stage.rank]) g
        simp [hn, eq_comm]
    | join => exact (hp _ hs).append (by simp)
    | fresh | absent | settle => exact absurd ((found _ _ _ _).symm.trans hs) (by simp)
    | share =>
        rw [Hub.share_eq] at hs
        exact absurd ((conclude _ _ _ _).symm.trans hs) (by simp)
    | publish | conclude => exact absurd ((conclude _ _ _ _).symm.trans hs) (by simp)
    | @arrive now gated ticket report =>
        cases ho : report.outcome <;> simp [Hub.arrive, ho, Stage.seen?] at hs
    | _ => cases hs

/-! ## Starting a fetch -/

/-- With single flight a fetch starts where the gate is free, by a call that has seen the present
generation if it has seen one. -/
theorem Act.of_fetched {hub hub' : Hub} {me : Nat} {task : Task} {stage stage' : Stage}
    {gated : Bool} (ha : Act hub me task stage (.fetched gated) hub' stage')
    (hs : hub.singleFlight = true) :
    hub.holder = none ∧ hub'.holder = some me ∧
      ∃ seen, stage = .queued seen ∧ seen.all (· == hub.generation) = true := by
  cases ha with
  | fetchAlone hn => exact absurd hs (by simp [hn])
  | enter ha hg => exact ⟨Hub.holder_of_admits ha, rfl, _, rfl, hg⟩

/-- The world in which a fetch starts: the gate is free, and what the call has observed is the
present generation. -/
theorem Chronicle.at_fetched (hc : Chronicle shelf true h w) {q i : Nat} {gated : Bool}
    (hq : h[q]? = some ⟨i, .fetched gated⟩) :
    ∃ w₁ task seen, Chronicle shelf true (h.take q) w₁ ∧ w₁.calls[i]? = some ⟨task, .queued seen⟩ ∧
      w₁.hub.holder = none ∧ SeenInv (h.take q) i task seen ∧
      seen.all (· == publications (h.take q)) = true := by
  obtain ⟨w₁, w₂, hc₁, hm, _⟩ := hc.split hq
  cases hm with
  | act hi ha =>
      obtain ⟨hn, _, seen, rfl, hg⟩ := ha.of_fetched hc₁.gate.singleFlight_eq
      rw [hc₁.gate.generation_eq] at hg
      exact ⟨w₁, _, seen, hc₁, hi, hn, hc₁.seen hi rfl, hg⟩

/-- A call fetches only at the generation that it observed. -/
theorem Chronicle.fetched_eq (hc : Chronicle shelf true h w) {q i g : Nat} {gated : Bool}
    (hq : h[q]? = some ⟨i, .fetched gated⟩) (ho : ⟨i, .observed g⟩ ∈ h) :
    g = publications (h.take q) ∧ ⟨i, .observed g⟩ ∈ h.take q := by
  obtain ⟨w₁, task, seen, hc₁, hi, _, hseen, hg⟩ := hc.at_fetched hq
  obtain ⟨p, hp⟩ := List.mem_iff_getElem?.mp ho
  have hpq : p < q := hc.lt_of_ceiling hp hq rfl (by simp [Deed.ceiling])
  have hp' : ⟨i, .observed g⟩ ∈ h.take q :=
    List.mem_iff_getElem?.mpr ⟨p, by rw [List.getElem?_take_of_lt hpq, hp]⟩
  obtain rfl := (hseen.eq_some_iff g).mpr hp'
  exact ⟨by simpa using hg, hp'⟩

/-- A resolution fetches only where nothing was published since it observed the generation. -/
theorem Chronicle.fetch_unshared (hc : Chronicle shelf true h w) {q i : Nat} {gated : Bool}
    {task : Task} (hq : h[q]? = some ⟨i, .fetched gated⟩) (hb : ⟨i, .begun task⟩ ∈ h)
    (ht : task.resolution?.isSome = true) :
    ∃ p g, p < q ∧ h[p]? = some ⟨i, .observed g⟩ ∧ NoneBetween h p q Note.isPublication := by
  obtain ⟨w₁, task₁, seen, hc₁, hi, _, hseen, hg⟩ := hc.at_fetched hq
  obtain rfl := hc.begun_inj hb (List.mem_of_mem_take (hc₁.begun hi))
  obtain ⟨g, rfl⟩ := Option.isSome_iff_exists.mp (hseen.isSome ht)
  obtain ⟨p, hp⟩ := List.mem_iff_getElem?.mp ((hseen.eq_some_iff g).mp rfl)
  have hpq : p < q := (List.length_take_le _ _).trans_lt' (List.getElem?_eq_some_iff.mp hp).1
  rw [List.getElem?_take_of_lt hpq] at hp
  have he : publications (h.take p) = publications (h.take q) := by
    rw [← hc.observed_eq hp]
    simpa using hg
  exact ⟨p, g, hpq, hp, noneBetween_of_publications_eq he⟩

/-- A call that has observed a generation and fetched holds the gate until the generation is
past, or was dropped. -/
theorem Chronicle.holder_or_generation_lt (hc : Chronicle shelf true h w) {i g : Nat}
    {gated : Bool} (ho : ⟨i, .observed g⟩ ∈ h) (hf : ⟨i, .fetched gated⟩ ∈ h) :
    w.hub.holder = some i ∨ g < w.hub.generation ∨ ⟨i, .dropped⟩ ∈ h := by
  induction hc with
  | start => simp at ho
  | @move h w n w' hc hm ih =>
      have hc' := hc.move hm
      cases hm with
      | begin task =>
          simp only [List.mem_append, List.mem_singleton, Note.mk.injEq, reduceCtorEq, and_false,
            or_false] at ho hf ⊢
          exact ih ho hf
      | @act j task stage deed hub stage' hj ha =>
          have hg := ha.gate
          rcases List.mem_append.mp hf with hf | hf
          · have ho' := hc'.mem_of_ceiling hf ho rfl (by simp [Deed.ceiling])
            have hle := hc.observed_le ho'
            have hgen : hub.generation = _ := hg.generation_eq
            rcases ih ho' hf with hold | hlt | hd
            · obtain ⟨_, hn, _⟩ | ⟨hpub | rfl, _, hs, _⟩ | ⟨hk, _⟩ := hg.holder_eq
              · exact absurd (hn.symm.trans hold) (by simp)
              · rw [if_pos hpub] at hgen
                exact .inr (.inl (hle.trans_lt (hgen ▸ Nat.lt_succ_self _)))
              · have hj' := (hc.gate.holder_iff j).mpr ⟨_, hj, hs⟩
                obtain rfl := Option.some.inj (hold.symm.trans hj')
                exact .inr (.inr (by simp))
              · exact .inl (hk.trans hold)
            · exact .inr (.inl (hlt.trans_le (hgen ▸ Nat.le_add_right _ _)))
            · exact .inr (.inr (List.mem_append_left _ hd))
          · obtain ⟨rfl, rfl⟩ := Note.mk.inj (List.mem_singleton.mp hf)
            exact .inl (ha.of_fetched hc.gate.singleFlight_eq).2.1

/-- A fetch starts only once every earlier one at its generation was dropped. -/
theorem Chronicle.dropped_of_refetched (hc : Chronicle shelf true h w) {p q i j g : Nat}
    {gi gj : Bool} (hi : ⟨i, .observed g⟩ ∈ h) (hj : ⟨j, .observed g⟩ ∈ h)
    (hp : h[p]? = some ⟨i, .fetched gi⟩) (hq : h[q]? = some ⟨j, .fetched gj⟩) (hpq : p < q) :
    ⟨i, .dropped⟩ ∈ h := by
  obtain ⟨w₁, _, _, hc₁, _, hn, _, _⟩ := hc.at_fetched hq
  have hf : ⟨i, .fetched gi⟩ ∈ h.take q :=
    List.mem_iff_getElem?.mpr ⟨p, by rw [List.getElem?_take_of_lt hpq, hp]⟩
  have ho := List.take_subset_take_left h hpq.le (hc.fetched_eq hp hi).2
  rcases hc₁.holder_or_generation_lt ho hf with hold | hlt | hd
  · exact absurd (hn.symm.trans hold) (by simp)
  · rw [hc₁.gate.generation_eq, ← (hc.fetched_eq hq hj).1] at hlt
    exact absurd hlt (lt_irrefl _)
  · exact List.mem_of_mem_take hd

/-! ## Fetches one after the other -/

theorem Stage.rank_le_of_not_isRefreshing {stage : Stage} (hr : stage.rank ≤ 6)
    (hn : stage.isRefreshing = false) : stage.rank ≤ 3 := by
  cases stage with
  | fetching | storing | publishing => cases hn
  | ready | missed | joining | queued => simp [Stage.rank] at hr
  | peeking round | settling round => cases round <;> simp_all [Stage.rank]
  | writing | done | dropped => simp [Stage.rank]

/-- Once another fetch has started, a call that had started one is past its refresh. -/
theorem Chronicle.rank_le_of_refetched (hc : Chronicle shelf true h w) {p q i j : Nat}
    {gi gj : Bool} (hp : h[p]? = some ⟨i, .fetched gi⟩) (hq : h[q]? = some ⟨j, .fetched gj⟩)
    (hpq : p < q) {call : Call} (hi : w.calls[i]? = some call) : call.stage.rank ≤ 3 := by
  induction hc generalizing call with
  | start => simp at hp
  | @move h w n w' hc hm ih =>
      have hlt := (List.getElem?_eq_some_iff.mp hq).1
      rw [List.length_append, List.length_singleton] at hlt
      rw [List.getElem?_append_left (by omega)] at hp
      have hmem : ⟨i, .fetched gi⟩ ∈ h := List.mem_of_getElem? hp
      by_cases hl : q < h.length
      · rw [List.getElem?_append_left hl] at hq
        obtain ⟨c, hcall, _⟩ := hc.rank_le hmem
        obtain ⟨_, _, rfl, _⟩ | ⟨_, hold⟩ | ⟨_, stage, hold, ha⟩ := hm.call_cases hi
        · simp at hcall
        · exact ih hp hq hold
        · exact (ha.ceiling.1.trans ha.ceiling.2.le).trans (ih hp hq hold)
      · obtain rfl : q = h.length := by omega
        obtain rfl : n = ⟨j, .fetched gj⟩ := by simpa using hq
        cases hm with
        | @act j task stage deed hub stage' hj ha =>
            have hij : i ≠ j := by
              rintro rfl
              have hle := hc.rank_le_ceiling hj hmem
              exact absurd hle ha.ceiling.2.not_ge
            rw [List.getElem?_set_ne hij.symm] at hi
            refine Stage.rank_le_of_not_isRefreshing (hc.rank_le_ceiling hi hmem) ?_
            rw [Bool.eq_false_iff]
            intro hr
            have hold := hc.holder_of_isRefreshing hi hr
            have hn := (ha.of_fetched hc.gate.singleFlight_eq).1
            exact absurd (hn.symm.trans hold) (by simp)

/-- A listing is stored before any later fetch starts. -/
theorem Chronicle.stored_lt_fetched (hc : Chronicle shelf true h w) {p q r i j : Nat}
    {gi gj : Bool} {entries : List Listing.Entry} {stamp : Time.Instant}
    (hp : h[p]? = some ⟨i, .fetched gi⟩) (hq : h[q]? = some ⟨i, .stored entries stamp⟩)
    (hr : h[r]? = some ⟨j, .fetched gj⟩) (hpr : p < r) : q < r := by
  rcases Nat.lt_trichotomy q r with hqr | rfl | hrq
  · exact hqr
  · simp [hq] at hr
  · obtain ⟨w₁, w₂, hc₁, hm, _⟩ := hc.split hq
    cases hm with
    | act hi ha =>
        rw [← List.getElem?_take_of_lt (hpr.trans hrq)] at hp
        rw [← List.getElem?_take_of_lt hrq] at hr
        have hle := hc₁.rank_le_of_refetched hp hr hpr hi
        exact absurd (ha.ceiling.2.trans_le hle) (by simp [Deed.ceiling])

/-! ## The protocol -/

/-- What single flight promises of a run: one refresh at a time, whose listing is stored before
the next fetch starts, a generation that counts the publications, and no fetch by a resolution
that a refresh was published for while it waited. -/
structure SingleFlightSpec (h : List Note) (w : World) : Prop where
  one_refresh : ∀ {i j : Nat} {c d : Call}, w.calls[i]? = some c → w.calls[j]? = some d →
    c.stage.isRefreshing = true → d.stage.isRefreshing = true → i = j
  stored_before_next : ∀ {p q r i j : Nat} {gi gj : Bool} {entries : List Listing.Entry}
    {stamp : Time.Instant}, h[p]? = some ⟨i, .fetched gi⟩ →
    h[q]? = some ⟨i, .stored entries stamp⟩ → h[r]? = some ⟨j, .fetched gj⟩ → p < r → q < r
  generation_eq : w.hub.generation = publications h
  fetch_unshared : ∀ {q i : Nat} {gated : Bool} {task : Task},
    h[q]? = some ⟨i, .fetched gated⟩ → ⟨i, .begun task⟩ ∈ h →
    task.resolution?.isSome = true →
    ∃ p g, p < q ∧ h[p]? = some ⟨i, .observed g⟩ ∧ NoneBetween h p q Note.isPublication
  one_fetch : ∀ {i j g : Nat} {gi gj : Bool}, ⟨i, .observed g⟩ ∈ h → ⟨j, .observed g⟩ ∈ h →
    ⟨i, .fetched gi⟩ ∈ h → ⟨j, .fetched gj⟩ ∈ h →
    i = j ∨ ⟨i, .dropped⟩ ∈ h ∨ ⟨j, .dropped⟩ ∈ h

theorem Chronicle.singleFlight (hc : Chronicle shelf true h w) : SingleFlightSpec h w := by
  refine ⟨?_, hc.stored_lt_fetched, hc.gate.generation_eq, hc.fetch_unshared, ?_⟩
  · intro i j c d hi hj hci hdj
    have hold := hc.holder_of_isRefreshing hi hci
    exact Option.some.inj (hold.symm.trans (hc.holder_of_isRefreshing hj hdj))
  · intro i j g gi gj hoi hoj hi hj
    obtain ⟨p, hp⟩ := List.mem_iff_getElem?.mp hi
    obtain ⟨q, hq⟩ := List.mem_iff_getElem?.mp hj
    rcases Nat.lt_trichotomy p q with hpq | rfl | hqp
    · exact .inr (.inl (hc.dropped_of_refetched hoi hoj hp hq hpq))
    · exact .inl (Note.mk.inj (Option.some.inj (hp.symm.trans hq))).1
    · exact .inr (.inr (hc.dropped_of_refetched hoj hoi hq hp hqp))

/-- Every run with single flight keeps to the protocol. -/
theorem World.singleFlight_of_run {events : List Event}
    (hr : (World.initial shelf true).run? events = some w) :
    SingleFlightSpec ((World.initial shelf true).history events) w :=
  (Chronicle.of_run hr).singleFlight

/-! ## A contended run -/

/-- Two resolutions miss, and a refresh is queued between them. The first refreshes and fails, the
refresh then fetches anew, and the second resolution takes over what the refresh ended with. -/
def contendedRun : List Event :=
  let advance := List.map fun i => Event.advance i .epoch
  [.begin (.resolve sampleService), .begin .refresh, .begin (.resolve sampleService)] ++
    advance [0, 2, 0, 2, 0, 2, 0, 1, 1, 2, 0] ++
    [.arrive 0 .epoch ⟨.error (.internal "first"), 1, 0, 0⟩] ++ advance [0, 1] ++
    [.arrive 1 .epoch ⟨.error (.internal "second"), 1, 0, 0⟩] ++ advance [1, 2]

def contendedHistory : List Note :=
  (World.initial (.empty .tenHours) true).history contendedRun

theorem singleFlight_contended :
    ∃ w, (World.initial (.empty .tenHours) true).run? contendedRun = some w ∧
      SingleFlightSpec contendedHistory w :=
  ⟨_, rfl, World.singleFlight_of_run rfl⟩

end Signpost.Directory
