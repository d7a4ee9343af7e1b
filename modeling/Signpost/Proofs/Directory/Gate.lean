import Signpost.Proofs.Directory.Chronicle

/-! # The gate and its history

With single flight every fetch runs behind the gate. The gate's holder is the one call that
refreshes, the generation counts the publications, and a waiter that has seen the present
generation has missed none of them. -/

namespace Signpost.Directory

variable {shelf : Shelf} {single : Bool} {h : List Note} {w : World}

/-! ## Publications up to a position -/

theorem publications_append (h : List Note) (n : Note) :
    publications (h ++ [n]) = publications h + if n.isPublication then 1 else 0 := by
  simp [publications, List.countP_append, List.countP_singleton]

theorem publications_take_le (h : List Note) {p q : Nat} (hpq : p ≤ q) :
    publications (h.take p) ≤ publications (h.take q) :=
  (List.take_sublist_take_left hpq).countP_le

theorem publications_take_succ {h : List Note} {k : Nat} {n : Note} (hk : h[k]? = some n) :
    publications (h.take (k + 1)) =
      publications (h.take k) + if n.isPublication then 1 else 0 := by
  rw [List.take_add_one, hk, Option.toList_some, publications_append]

theorem noneBetween_of_publications_eq {h : List Note} {p q : Nat}
    (he : publications (h.take p) = publications (h.take q)) :
    NoneBetween h p q Note.isPublication := by
  intro k n hpk hkq hk
  have h₁ := publications_take_le h hpk.le
  have h₂ := publications_take_le h (show k + 1 ≤ q from hkq)
  have h₃ := publications_take_succ hk
  by_contra hn
  rw [Bool.not_eq_false] at hn
  simp only [hn, ↓reduceIte] at h₃
  omega

/-! ## What the gate knows of the history -/

/-- The failure of the refresh that was published last, if it failed. -/
def lastFailure (h : List Note) : Option Failure :=
  h.foldl (fun last n => n.deed.failureLeft last) none

structure GateInv (single : Bool) (h : List Note) (w : World) : Prop where
  singleFlight_eq : w.hub.singleFlight = single
  generation_eq : w.hub.generation = publications h
  lastFailure_eq : w.hub.lastFailure = lastFailure h
  holder_iff : ∀ i, w.hub.holder = some i ↔
    ∃ call, w.calls[i]? = some call ∧ call.stage.holdsGate = true

theorem GateInv.initial (shelf : Shelf) (single : Bool) :
    GateInv single [] (.initial shelf single) := by
  refine ⟨rfl, rfl, rfl, ?_⟩
  intro i
  simp [World.initial, Hub.initial]

theorem GateInv.begin (hi : GateInv single h w) (task : Task) :
    GateInv single (h ++ [⟨w.calls.length, .begun task⟩]) (w.begin task) := by
  refine ⟨hi.singleFlight_eq, ?_, ?_, ?_⟩
  · rw [publications_append]
    exact hi.generation_eq
  · rw [lastFailure, List.foldl_append]
    exact hi.lastFailure_eq
  · intro i
    refine (hi.holder_iff i).trans ⟨?_, ?_⟩
    · rintro ⟨call, hcall, hh⟩
      have hlt := (List.getElem?_eq_some_iff.mp hcall).1
      exact ⟨call, by rw [World.begin, List.getElem?_append_left hlt, hcall], hh⟩
    · rintro ⟨call, hcall, hh⟩
      obtain ⟨_, _, _, rfl⟩ | ⟨_, hc⟩ | ⟨_, _, _, ha⟩ := (Move.begin task).call_cases hcall
      · cases hh
      · exact ⟨call, hc, hh⟩
      · cases ha

/-- A call that is not concerned by an act holds the gate as before. -/
theorem World.holds_set_iff {i j : Nat} {call : Call} (hij : i ≠ j) :
    (∃ c, (w.calls.set i call)[j]? = some c ∧ c.stage.holdsGate = true) ↔
      ∃ c, w.calls[j]? = some c ∧ c.stage.holdsGate = true := by
  rw [List.getElem?_set_ne hij]

theorem GateInv.act (hi : GateInv single h w) {i : Nat} {task : Task} {stage stage' : Stage}
    {deed : Deed} {hub : Hub} (hc : w.calls[i]? = some ⟨task, stage⟩)
    (ha : Act w.hub i task stage deed hub stage') :
    GateInv single (h ++ [⟨i, deed⟩]) ⟨hub, w.calls.set i ⟨task, stage'⟩⟩ := by
  have hg := ha.gate
  have hlt := (List.getElem?_eq_some_iff.mp hc).1
  have hself : (w.calls.set i ⟨task, stage'⟩)[i]? = some ⟨task, stage'⟩ :=
    List.getElem?_set_self hlt
  refine ⟨hg.singleFlight_eq.trans hi.singleFlight_eq, ?_, ?_, ?_⟩
  · rw [publications_append, hg.generation_eq, hi.generation_eq]
    rfl
  · rw [lastFailure, List.foldl_append, hg.lastFailure_eq, hi.lastFailure_eq]
    rfl
  · intro j
    obtain ⟨_, hn, hs, _, ht⟩ | ⟨_, hn, hs, ht⟩ | ⟨hn, ht⟩ := hg.holder_eq
    · rw [hs]
      by_cases hij : i = j
      · subst hij
        exact ⟨fun _ => ⟨_, hself, ht⟩, fun _ => rfl⟩
      · rw [World.holds_set_iff hij, ← hi.holder_iff j, hn]
        simp [hij]
    · rw [hn]
      by_cases hij : i = j
      · subst hij
        simp [hself, ht]
      · have hme : w.hub.holder = some i := (hi.holder_iff i).mpr ⟨_, hc, hs⟩
        rw [World.holds_set_iff hij, ← hi.holder_iff j, hme]
        simp [hij]
    · rw [hn, hi.holder_iff j]
      by_cases hij : i = j
      · subst hij
        simp [hself, hc, ht]
      · rw [World.holds_set_iff hij]

theorem Chronicle.gate (hc : Chronicle shelf single h w) : GateInv single h w := by
  induction hc with
  | start => exact .initial shelf single
  | move _ hm ih =>
      cases hm with
      | begin task => exact ih.begin task
      | act hcall ha => exact ih.act hcall ha

/-- The generation that a call observes is the number of publications before. -/
theorem Chronicle.observed_eq (hc : Chronicle shelf single h w) {p i g : Nat}
    (hp : h[p]? = some ⟨i, .observed g⟩) : g = publications (h.take p) := by
  obtain ⟨w₁, w₂, hc₁, hm, _⟩ := hc.split hp
  cases hm with
  | act _ ha =>
      cases ha with
      | observe => exact hc₁.gate.generation_eq

theorem Chronicle.observed_le (hc : Chronicle shelf single h w) {i g : Nat}
    (ho : ⟨i, .observed g⟩ ∈ h) : g ≤ w.hub.generation := by
  obtain ⟨p, hp⟩ := List.mem_iff_getElem?.mp ho
  rw [hc.observed_eq hp, hc.gate.generation_eq]
  exact (List.take_sublist _ _).countP_le

/-! ## One refresh at a time -/

/-- Whether a call at this stage fetches, stores what it fetched or publishes. -/
def Stage.isRefreshing : Stage → Bool
  | .fetching _ _ => true
  | .storing _ _ _ => true
  | .publishing _ _ => true
  | _ => false

/-- With single flight a call that refreshes holds the gate. -/
theorem Act.isRefreshing_eq {hub hub' : Hub} {me : Nat} {task : Task} {stage stage' : Stage}
    {deed : Deed} (ha : Act hub me task stage deed hub' stage') (hs : hub.singleFlight = true)
    (he : stage.isRefreshing = stage.holdsGate) : stage'.isRefreshing = stage'.holdsGate := by
  have found := Hub.found_stage (P := fun s => s.isRefreshing = s.holdsGate) rfl (fun _ => rfl)
  have conclude := Hub.conclude_stage (P := fun s => s.isRefreshing = s.holdsGate)
    (fun _ => rfl) (fun _ => rfl)
  cases ha with
  | fresh | absent | settle => exact found _ _ _ _
  | fetchAlone hn => exact absurd hs (by simp [hn])
  | share =>
      rw [Hub.share_eq]
      exact conclude _ _ _ _
  | @arrive now gated ticket report =>
      cases ho : report.outcome <;> simp only [Hub.arrive, ho] <;> exact he
  | store => exact he
  | publish | conclude => exact conclude _ _ _ _
  | _ => rfl

theorem Chronicle.isRefreshing_eq (hc : Chronicle shelf true h w) {j : Nat} {call : Call}
    (hj : w.calls[j]? = some call) : call.stage.isRefreshing = call.stage.holdsGate := by
  refine hc.calls (P := fun _ _ call => call.stage.isRefreshing = call.stage.holdsGate)
    (fun _ _ => rfl) (fun _ he => he) ?_ hj
  intro h w j task stage deed hub stage' hc _ ha he
  exact ha.isRefreshing_eq hc.gate.singleFlight_eq he

theorem Chronicle.holder_of_isRefreshing (hc : Chronicle shelf true h w) {j : Nat} {call : Call}
    (hj : w.calls[j]? = some call) (hr : call.stage.isRefreshing = true) :
    w.hub.holder = some j :=
  (hc.gate.holder_iff j).mpr ⟨call, hj, hc.isRefreshing_eq hj ▸ hr⟩

end Signpost.Directory
