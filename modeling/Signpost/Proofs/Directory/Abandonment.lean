import Signpost.Proofs.Directory.Queue
import Signpost.Proofs.Directory.Sharing

/-! # Calls that are dropped

A call may be dropped wherever it waits. It opens the gate if it holds it, and a refresh that is
dropped before it is published has changed nothing that other calls can tell: a listing that is
stored is always published, and only what is published is shared. -/

namespace Signpost.Directory

variable {shelf : Shelf} {single : Bool} {h : List Note} {w : World}

/-! ## Deeds without an effect -/

/-- Whether a deed is one of a refresh that has not taken effect. -/
def Deed.isProvisional : Deed → Bool
  | .fetched _ => true
  | .arrived _ => true
  | .dropped => true
  | _ => false

/-- Two hubs with the same entries, generation and failure. -/
structure Hub.Alike (hub hub' : Hub) : Prop where
  cache_eq : hub'.shelf.cache = hub.shelf.cache
  generation_eq : hub'.generation = hub.generation
  lastFailure_eq : hub'.lastFailure = hub.lastFailure

theorem Act.alike {hub hub' : Hub} {me : Nat} {task : Task} {stage stage' : Stage} {deed : Deed}
    (ha : Act hub me task stage deed hub' stage') (hd : deed.isProvisional = true) :
    hub.Alike hub' := by
  cases ha with
  | fetchAlone | enter | drop => exact ⟨rfl, rfl, rfl⟩
  | @arrive now gated ticket report =>
      cases ho : report.outcome <;> simp only [Hub.arrive, ho] <;> exact ⟨rfl, rfl, rfl⟩
  | _ => cases hd

/-! ## The end of a refresh -/

/-- The refresh of a call has come to its end: it was published, or concluded without the gate. -/
def Concluded (h : List Note) (j : Nat) (outcome : Except Failure Nat) : Prop :=
  ⟨j, .published outcome⟩ ∈ h ∨ ⟨j, .concluded outcome⟩ ∈ h

theorem Concluded.append {j : Nat} {outcome : Except Failure Nat} (he : Concluded h j outcome)
    (l : List Note) : Concluded (h ++ l) j outcome :=
  he.imp (List.mem_append_left l) (List.mem_append_left l)

theorem Note.mem_of_ne {m n : Note} (hm : m ∈ h ++ [n]) (hne : n.call ≠ m.call) : m ∈ h := by
  rcases List.mem_append.mp hm with hm | hm
  · exact hm
  · exact absurd (congrArg Note.call (List.mem_singleton.mp hm)).symm hne

/-- A call that begins has done nothing yet. -/
theorem Chronicle.notMem_of_length_le (hc : Chronicle shelf single h w) {j : Nat}
    (hj : w.calls.length ≤ j) (deed : Deed) : ⟨j, deed⟩ ∉ h := by
  intro hn
  obtain ⟨call, hcall, _⟩ := hc.rank_le hn
  exact absurd (List.getElem?_eq_some_iff.mp hcall).1 hj.not_gt

/-- A call that has asked for a listing still refreshes, has concluded, or was dropped. -/
theorem Chronicle.refreshing_or (hc : Chronicle shelf single h w) {j : Nat} {call : Call}
    (hj : w.calls[j]? = some call) {gated : Bool} (hf : ⟨j, .fetched gated⟩ ∈ h) :
    call.stage.isRefreshing = true ∨ ⟨j, .dropped⟩ ∈ h ∨ ∃ outcome, Concluded h j outcome := by
  have append : ∀ {h : List Note} {j : Nat} (n : Note),
      (⟨j, .dropped⟩ ∈ h ∨ ∃ outcome, Concluded h j outcome) →
      ⟨j, .dropped⟩ ∈ h ++ [n] ∨ ∃ outcome, Concluded (h ++ [n]) j outcome := by
    intro h j n hor
    exact hor.imp (List.mem_append_left _) fun ⟨outcome, he⟩ => ⟨outcome, he.append _⟩
  refine hc.calls (P := fun h j call => ⟨j, .fetched gated⟩ ∈ h →
    call.stage.isRefreshing = true ∨ ⟨j, .dropped⟩ ∈ h ∨ ∃ outcome, Concluded h j outcome)
    ?_ ?_ ?_ hj hf
  · intro h w hc task hf
    exact absurd (by simpa using hf) (hc.notMem_of_length_le le_rfl (.fetched gated))
  · intro h n j call hne hp hf
    exact (hp (Note.mem_of_ne hf hne)).imp_right (append n)
  · intro h w j task stage deed hub stage' hc hj ha hp hf
    have hold : deed ≠ .fetched gated → stage.isRefreshing = false →
        stage'.isRefreshing = true ∨ ⟨j, .dropped⟩ ∈ h ++ [⟨j, deed⟩] ∨
          ∃ outcome, Concluded (h ++ [⟨j, deed⟩]) j outcome := by
      intro hne hs
      have hmem : ⟨j, .fetched gated⟩ ∈ h := by simpa [hne.symm] using hf
      rcases hp hmem with hr | hor
      · exact absurd hr (by simp [hs])
      · exact .inr (append _ hor)
    cases ha with
    | fetchAlone | enter | store => exact .inl rfl
    | @arrive now g ticket report =>
        cases ho : report.outcome <;> exact .inl (by simp [Hub.arrive, ho, Stage.isRefreshing])
    | @publish now outcome => exact .inr (.inr ⟨outcome, .inl (by simp)⟩)
    | @conclude now outcome => exact .inr (.inr ⟨outcome, .inr (by simp)⟩)
    | drop => exact .inr (.inl (by simp))
    | _ => exact hold (by simp) rfl

/-- A listing that is stored is to be published, or its refresh has concluded with it: a call is
never dropped in between. -/
theorem Chronicle.publishing_or (hc : Chronicle shelf single h w) {j : Nat} {call : Call}
    (hj : w.calls[j]? = some call) {entries : List Listing.Entry} {stamp : Time.Instant}
    (hs : ⟨j, .stored entries stamp⟩ ∈ h) :
    (∃ gated, call.stage = .publishing gated (.ok entries.length)) ∨
      Concluded h j (.ok entries.length) := by
  refine hc.calls (P := fun h j call => ⟨j, .stored entries stamp⟩ ∈ h →
    (∃ gated, call.stage = .publishing gated (.ok entries.length)) ∨
      Concluded h j (.ok entries.length)) ?_ ?_ ?_ hj hs
  · intro h w hc task hs
    exact absurd (by simpa using hs) (hc.notMem_of_length_le le_rfl (.stored entries stamp))
  · intro h n j call hne hp hs
    exact (hp (Note.mem_of_ne hs hne)).imp_right (·.append _)
  · intro h w j task stage deed hub stage' hc hj ha hp hs
    by_cases hnew : deed = .stored entries stamp
    · subst hnew
      cases ha with
      | @store gated => exact .inl ⟨gated, rfl⟩
    · have hmem : ⟨j, .stored entries stamp⟩ ∈ h := by simpa [Ne.symm hnew] using hs
      rcases hp hmem with ⟨gated, rfl⟩ | he
      · cases ha with
        | publish => exact .inr (.inl (by simp))
        | conclude => exact .inr (.inr (by simp))
        | drop hsuspended => cases hsuspended
      · exact .inr (he.append _)

/-! ## Refreshes that were dropped -/

/-- A call that is dropped with a refresh that has not concluded has only asked for its listing. -/
theorem Chronicle.isProvisional_of_dropped (hc : Chronicle shelf single h w) {i f d q : Nat}
    {gated : Bool} (hf : h[f]? = some ⟨i, .fetched gated⟩) (hd : h[d]? = some ⟨i, .dropped⟩)
    (hn : ∀ outcome, ¬Concluded h i outcome) {deed : Deed} (hfq : f ≤ q)
    (hq : h[q]? = some ⟨i, deed⟩) : deed.isProvisional = true := by
  have hfd : f < d := hc.lt_of_ceiling hf hd rfl (by simp [Deed.ceiling])
  obtain ⟨w₁, w₂, hc₁, hm, _⟩ := hc.split hd
  cases hm with
  | @act _ task stage _ _ _ hi ha =>
      -- the call waits for its fetch or to store the listing when it is dropped
      have hrank : 5 ≤ stage.rank := by
        have hmem : ⟨i, .fetched gated⟩ ∈ h.take d :=
          List.mem_iff_getElem?.mpr ⟨f, by rw [List.getElem?_take_of_lt hfd, hf]⟩
        rcases hc₁.refreshing_or hi hmem with hr | hdropped | ⟨outcome, he⟩
        · cases ha with
          | drop hs => cases stage <;> simp_all [Stage.isRefreshing, Stage.isSuspended, Stage.rank]
        · have hle := hc₁.rank_le_ceiling hi hdropped
          exact absurd (ha.ceiling.2.trans_le hle) (lt_irrefl _)
        · exact absurd (he.imp List.mem_of_mem_take List.mem_of_mem_take) (hn outcome)
      rcases Nat.lt_trichotomy q d with hqd | rfl | hdq
      · have hmem : ⟨i, deed⟩ ∈ h.take d :=
          List.mem_iff_getElem?.mpr ⟨q, by rw [List.getElem?_take_of_lt hqd, hq]⟩
        have hle := hrank.trans (hc₁.rank_le_ceiling hi hmem)
        rcases hfq.eq_or_lt with rfl | hfq
        · obtain rfl : deed = .fetched gated := by simpa using hq.symm.trans hf
          rfl
        · have hlt : deed.ceiling < 6 := hc.ceiling_lt hf hq rfl hfq
          cases deed with
          | arrived => rfl
          | sawExpired round => cases round <;> simp [Deed.ceiling] at hle hlt
          | looked round => cases round <;> simp [Deed.ceiling] at hle hlt
          | _ => simp [Deed.ceiling] at hle hlt
      · obtain rfl : deed = .dropped := by simpa using hq.symm.trans hd
        rfl
      · exact absurd (hc.ceiling_lt hd hq rfl hdq) (by simp [Deed.ceiling])

/-! ## What is shared -/

/-- Before anything was published no failure is kept. -/
theorem lastFailure_of_publications (hp : publications h = 0) : lastFailure h = none := by
  induction h using List.reverseRecOn with
  | nil => rfl
  | append_singleton h n ih =>
      rw [publications_append] at hp
      have hn : n.isPublication = false := by
        by_contra hn
        simp [hn] at hp
      have hl : lastFailure (h ++ [n]) = n.deed.failureLeft (lastFailure h) := by
        rw [lastFailure, List.foldl_append]
        rfl
      rw [hl, Deed.failureLeft_of_isPublication hn]
      exact ih (by omega)

/-- The failure that is kept is that of the refresh published last. -/
theorem Chronicle.lastFailure_cases (hc : Chronicle shelf single h w) :
    (publications h = 0 ∧ w.hub.lastFailure = none) ∨
      ∃ k j outcome, h[k]? = some ⟨j, .published outcome⟩ ∧
        NoneBetween h k h.length Note.isPublication ∧
        w.hub.lastFailure = Hub.failure? outcome := by
  rw [hc.gate.lastFailure_eq]
  rcases Nat.eq_zero_or_pos (publications h) with hp | hp
  · exact .inl ⟨hp, lastFailure_of_publications hp⟩
  · obtain ⟨k, j, outcome, _, hk, hb, hl⟩ :=
      exists_last_publication (h := h) (p := 0) (by simpa [publications] using hp)
    exact .inr ⟨k, j, outcome, hk, hb, hl⟩

/-- A call that takes an outcome over takes it from a refresh that has come to its end: the one
published last. -/
theorem Chronicle.ended_of_shared (hc : Chronicle shelf single h w) {m i : Nat}
    (hm : h[m]? = some ⟨i, .shared⟩) :
    ∃ k j outcome, k < m ∧ h[k]? = some ⟨j, .published outcome⟩ ∧
      NoneBetween h k m Note.isPublication ∧ Ended (h.take k) j outcome := by
  obtain ⟨w₁, w₂, hc₁, hmove, _⟩ := hc.split hm
  have hpos : 0 < publications (h.take m) := by
    cases hmove with
    | act hi ha =>
        cases ha with
        | @share now seen _ hg =>
            cases seen with
            | none => cases hg
            | some g =>
                have ho := ((hc₁.seen hi rfl).eq_some_iff g).mp rfl
                have hne : g ≠ w₁.hub.generation := by simpa using hg
                rw [← hc₁.gate.generation_eq]
                exact (Nat.zero_le g).trans_lt (lt_of_le_of_ne (hc₁.observed_le ho) hne)
  obtain ⟨k, j, outcome, _, hk, hb, _⟩ :=
    exists_last_publication (h := h.take m) (p := 0) (by simpa [publications] using hpos)
  have hlen : (h.take m).length = m := by
    rw [List.length_take, Nat.min_eq_left (List.getElem?_eq_some_iff.mp hm).1.le]
  have hkm : k < m := hlen ▸ (List.getElem?_eq_some_iff.mp hk).1
  rw [List.getElem?_take_of_lt hkm] at hk
  rw [hlen] at hb
  refine ⟨k, j, outcome, hkm, hk, ?_, hc.ended_of_published hk⟩
  intro p n hkp hpm hp
  exact hb p n hkp hpm (by rw [List.getElem?_take_of_lt hpm, hp])

/-! ## Dropping is safe -/

/-- What a drop leaves: the call is out of the queue, the gate is open if the call held it, and
everything else is as before. -/
structure Released (w : World) (i : Nat) (w' : World) : Prop where
  alike : w.hub.Alike w'.hub
  holder_eq : w'.hub.holder = if w.hub.holder = some i then none else w.hub.holder
  notMem : i ∉ w'.hub.queue

theorem Chronicle.released (hc : Chronicle shelf single h w) {i : Nat} {w' : World}
    (hm : Move w ⟨i, .dropped⟩ w') : Released w i w' := by
  generalize hd : Deed.dropped = deed at hm
  cases hm with
  | begin task => cases hd
  | @act _ task stage _ _ _ hi ha =>
      subst hd
      cases ha with
      | drop hs =>
          have hholds : stage.holdsGate = true ↔ w.hub.holder = some i := by
            simp [hc.gate.holder_iff, hi]
          refine ⟨⟨rfl, rfl, rfl⟩, ?_, by simp [Hub.abandon]⟩
          simp only [Hub.abandon, hholds]

/-- What holds of a run in which calls may be dropped wherever they wait. What the gate keeps is
what was published; a drop releases the gate; a refresh that was dropped before it concluded has
left entries, generation and failure alone since it asked for its listing; a listing that is stored
is about to be published or its refresh has concluded; only refreshes that have come to their end
are shared; and the calls can always go on, until all have finished. -/
structure AbandonmentSpec (start : World) (events : List Event) (w : World) : Prop where
  generation_eq : w.hub.generation = publications (start.history events)
  lastFailure_cases :
    (publications (start.history events) = 0 ∧ w.hub.lastFailure = none) ∨
      ∃ k j outcome, (start.history events)[k]? = some ⟨j, .published outcome⟩ ∧
        NoneBetween (start.history events) k events.length Note.isPublication ∧
        w.hub.lastFailure = Hub.failure? outcome
  released : ∀ {d i : Nat}, (start.history events)[d]? = some ⟨i, .dropped⟩ →
    ∃ w₁ w₂, start.run? (events.take d) = some w₁ ∧
      start.run? (events.take (d + 1)) = some w₂ ∧ Released w₁ i w₂
  alike : ∀ {f d q i : Nat} {gated : Bool} {deed : Deed},
    (start.history events)[f]? = some ⟨i, .fetched gated⟩ →
    (start.history events)[d]? = some ⟨i, .dropped⟩ →
    (∀ outcome, ¬Concluded (start.history events) i outcome) → f ≤ q →
    (start.history events)[q]? = some ⟨i, deed⟩ →
    ∃ w₁ w₂, start.run? (events.take q) = some w₁ ∧
      start.run? (events.take (q + 1)) = some w₂ ∧ w₁.hub.Alike w₂.hub
  publishing_or : ∀ {j : Nat} {call : Call}, w.calls[j]? = some call →
    ∀ {entries : List Listing.Entry} {stamp : Time.Instant},
    ⟨j, .stored entries stamp⟩ ∈ start.history events →
    (∃ gated, call.stage = .publishing gated (.ok entries.length)) ∨
      Concluded (start.history events) j (.ok entries.length)
  shared : ∀ {m i : Nat}, (start.history events)[m]? = some ⟨i, .shared⟩ →
    ∃ k j outcome, k < m ∧ (start.history events)[k]? = some ⟨j, .published outcome⟩ ∧
      NoneBetween (start.history events) k m Note.isPublication ∧
      Ended ((start.history events).take k) j outcome
  progress : ∀ {i : Nat} {call : Call}, w.calls[i]? = some call →
    call.stage.isFinished = false → ∃ j, w.CanGoOn j
  completes : ∀ now reports, ∃ later w', (∀ e ∈ later, Event.GoesOn now reports e) ∧
    w.run? later = some w' ∧ ∀ i, w'.isFinished i = true

/-- Dropping calls is safe in every run. -/
theorem World.abandonment_of_run {events : List Event}
    (hr : (World.initial shelf single).run? events = some w) :
    AbandonmentSpec (World.initial shelf single) events w := by
  have hc := Chronicle.of_run hr
  refine ⟨hc.gate.generation_eq, ?_, ?_, ?_, hc.publishing_or, hc.ended_of_shared, hc.progress,
    hc.completes⟩
  · rw [← World.length_history hr]
    exact hc.lastFailure_cases
  · intro d i hd
    obtain ⟨w₁, w₂, h₁, _, hm, h₂⟩ := World.at_note hr hd
    exact ⟨w₁, w₂, h₁, h₂, (Chronicle.of_run h₁).released hm⟩
  · intro f d q i gated deed hf hd hn hfq hq
    obtain ⟨w₁, w₂, h₁, _, hm, h₂⟩ := World.at_note hr hq
    have hp := hc.isProvisional_of_dropped hf hd hn hfq hq
    refine ⟨w₁, w₂, h₁, h₂, ?_⟩
    cases hm with
    | begin task => cases hp
    | act _ ha => exact ha.alike hp

/-! ### A refresh that is given up -/

/-- Three resolutions miss. The first is dropped while it fetches, the second refreshes in its
place, and the third takes over what the second ended with. -/
def abandonedRun : List Event :=
  let advance := List.map fun i => Event.advance i .epoch
  [.begin (.resolve sampleService), .begin (.resolve sampleService),
      .begin (.resolve sampleService)] ++
    advance [0, 0, 0, 0, 1, 1, 1, 1, 2, 2, 2, 2, 0] ++ [.drop 0] ++ advance [1] ++
    [.arrive 1 .epoch ⟨.error (.internal "offline"), 1, 0, 0⟩] ++ advance [1, 2]

/-- The gate is free again after the drop, and the third resolution shares the outcome of the
second. -/
theorem abandonment_abandoned :
    ∃ w, (World.initial (.empty .tenHours) true).run? abandonedRun = some w ∧
      w.calls.map (·.stage.isFinished) = [true, true, true] ∧
      w.hub.holder = none ∧ w.hub.generation = 1 ∧
      w.hub.lastFailure = some (.internal "offline") ∧
      AbandonmentSpec (World.initial (.empty .tenHours) true) abandonedRun w :=
  ⟨_, rfl, rfl, rfl, rfl, rfl, World.abandonment_of_run rfl⟩

end Signpost.Directory
