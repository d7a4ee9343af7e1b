import Mathlib.Data.Nat.Basic
import Mathlib.Order.Basic
import Signpost.Proofs.Directory.Act

/-! # Chronicles of a directory

A chronicle is a world together with the notes of the events that led to it. Every run has one,
and what holds of runs is proved by induction on it. The notes of one call stand in the order of
their ceilings, so that each deed of a call has one position. -/

namespace Signpost.Directory

/-! ## Moves of a world -/

/-- One event of a world with its note: a call begins, or one call acts. -/
inductive Move (w : World) : Note → World → Prop where
  | begin (task) : Move w ⟨w.calls.length, .begun task⟩ (w.begin task)
  | act {i task stage deed hub stage'} (hc : w.calls[i]? = some ⟨task, stage⟩)
      (ha : Act w.hub i task stage deed hub stage') :
      Move w ⟨i, deed⟩ ⟨hub, w.calls.set i ⟨task, stage'⟩⟩

theorem Move.of_step {w w' : World} {e : Event} (h : w.step? e = some w') :
    ∃ n, w.note? e = some n ∧ Move w n w' := by
  cases e with
  | begin task =>
      obtain rfl := Option.some.inj h
      exact ⟨_, rfl, .begin task⟩
  | advance i now =>
      obtain ⟨⟨task, stage⟩, hc, h⟩ := Option.bind_eq_some_iff.mp h
      obtain ⟨⟨hub, stage'⟩, ha, h⟩ := Option.bind_eq_some_iff.mp h
      obtain rfl := Option.some.inj h
      obtain ⟨deed, hd, ha⟩ := Act.of_advance ha
      exact ⟨⟨i, deed⟩, by simp [World.note?, hc, hd], .act hc ha⟩
  | arrive i now report =>
      obtain ⟨⟨task, stage⟩, hc, h⟩ := Option.bind_eq_some_iff.mp h
      cases stage with
      | fetching gated ticket =>
          obtain rfl := Option.some.inj h
          exact ⟨_, rfl, .act hc .arrive⟩
      | _ => cases h
  | drop i =>
      obtain ⟨⟨task, stage⟩, hc, h⟩ := Option.bind_eq_some_iff.mp h
      simp only at h
      split at h
      next hs =>
        obtain rfl := Option.some.inj h
        exact ⟨_, rfl, .act hc (.drop hs)⟩
      next => cases h

/-- A call after a move has just begun, was not concerned, or has acted. -/
theorem Move.call_cases {w w' : World} {n : Note} (h : Move w n w') {j : Nat} {call : Call}
    (hj : w'.calls[j]? = some call) :
    (∃ task, n = ⟨j, .begun task⟩ ∧ j = w.calls.length ∧ call = ⟨task, .ready⟩) ∨
    (n.call ≠ j ∧ w.calls[j]? = some call) ∨
    (n.call = j ∧ ∃ stage, w.calls[j]? = some ⟨call.task, stage⟩ ∧
      Act w.hub j call.task stage n.deed w'.hub call.stage) := by
  cases h with
  | begin task =>
      rw [World.begin, List.getElem?_append] at hj
      split at hj
      next hlt => exact .inr (.inl ⟨Nat.ne_of_gt hlt, hj⟩)
      next hle =>
        obtain ⟨hz, rfl⟩ := List.getElem?_eq_some_iff.mp hj
        rw [List.length_singleton] at hz
        have he : j = w.calls.length := by omega
        exact .inl ⟨task, by simp [he], he, by simp⟩
  | @act i task stage deed hub stage' hc ha =>
      by_cases hij : i = j
      · subst hij
        have hlt : i < w.calls.length := (List.getElem?_eq_some_iff.mp hc).1
        simp only [List.getElem?_set_self hlt, Option.some.injEq] at hj
        subst hj
        exact .inr (.inr ⟨rfl, stage, hc, ha⟩)
      · rw [List.getElem?_set_ne hij] at hj
        exact .inr (.inl ⟨hij, hj⟩)

/-! ## Runs -/

/-- A world and the notes of the events that led to it from the initial world. -/
inductive Chronicle (shelf : Shelf) (single : Bool) : List Note → World → Prop where
  | start : Chronicle shelf single [] (.initial shelf single)
  | move {h w n w'} : Chronicle shelf single h w → Move w n w' →
      Chronicle shelf single (h ++ [n]) w'

variable {shelf : Shelf} {single : Bool} {h : List Note} {w : World}

theorem Chronicle.append_history (hc : Chronicle shelf single h w) {events : List Event}
    {w' : World} (hr : w.run? events = some w') :
    Chronicle shelf single (h ++ w.history events) w' := by
  induction events generalizing h w with
  | nil =>
      obtain rfl := Option.some.inj hr
      simpa [World.history] using hc
  | cons e events ih =>
      obtain ⟨next, hs, hr⟩ := Option.bind_eq_some_iff.mp hr
      obtain ⟨n, hn, hm⟩ := Move.of_step hs
      have hh : w.history (e :: events) = n :: next.history events := by
        simp [World.history, hs, hn]
      rw [hh, List.append_cons]
      exact ih (hc.move hm) hr

/-- Every run has a chronicle: its history. -/
theorem Chronicle.of_run {events : List Event}
    (hr : (World.initial shelf single).run? events = some w) :
    Chronicle shelf single ((World.initial shelf single).history events) w := by
  simpa using Chronicle.start.append_history hr

/-- A chronicle passes through the move of each of its notes. -/
theorem Chronicle.split (hc : Chronicle shelf single h w) {q : Nat} {n : Note}
    (hq : h[q]? = some n) :
    ∃ w₁ w₂, Chronicle shelf single (h.take q) w₁ ∧ Move w₁ n w₂ ∧
      Chronicle shelf single (h.take (q + 1)) w₂ := by
  induction hc with
  | start => simp at hq
  | @move h w m w' hc hm ih =>
      have hlt := (List.getElem?_eq_some_iff.mp hq).1
      rw [List.length_append, List.length_singleton] at hlt
      by_cases hl : q < h.length
      · rw [List.getElem?_append_left hl] at hq
        rw [List.take_append_of_le_length hl.le, List.take_append_of_le_length hl]
        exact ih hq
      · obtain rfl : q = h.length := by omega
        obtain rfl : m = n := by simpa using hq
        exact ⟨w, w', by simpa using hc, hm, by simpa [List.take_of_length_le] using hc.move hm⟩

/-- What holds of a call that begins, lasts while others move and is kept by each act of the call
holds of every call. -/
theorem Chronicle.calls {P : List Note → Nat → Call → Prop}
    (begun : ∀ {h w}, Chronicle shelf single h w → ∀ task,
      P (h ++ [⟨w.calls.length, .begun task⟩]) w.calls.length ⟨task, .ready⟩)
    (other : ∀ {h n j call}, n.call ≠ j → P h j call → P (h ++ [n]) j call)
    (own : ∀ {h w j task stage deed hub stage'}, Chronicle shelf single h w →
      w.calls[j]? = some ⟨task, stage⟩ → Act w.hub j task stage deed hub stage' →
      P h j ⟨task, stage⟩ → P (h ++ [⟨j, deed⟩]) j ⟨task, stage'⟩)
    (hc : Chronicle shelf single h w) {j : Nat} {call : Call} (hj : w.calls[j]? = some call) :
    P h j call := by
  induction hc generalizing call with
  | start => simp [World.initial] at hj
  | @move h w n w' hc hm ih =>
      obtain ⟨task, rfl, rfl, rfl⟩ | ⟨hne, hj⟩ | ⟨rfl, stage, hs, ha⟩ := hm.call_cases hj
      · exact begun hc task
      · exact other hne (ih hj)
      · exact own hc hs ha (ih hs)

/-! ## The order of a call's deeds -/

/-- A call is at most as far from its end as its deeds allow. -/
theorem Chronicle.rank_le (hc : Chronicle shelf single h w) {n : Note} (hn : n ∈ h) :
    ∃ call, w.calls[n.call]? = some call ∧ call.stage.rank ≤ n.deed.ceiling := by
  induction hc with
  | start => simp at hn
  | @move h w m w' hc hm ih =>
      rcases List.mem_append.mp hn with hn | hn
      · obtain ⟨call, hcall, hle⟩ := ih hn
        cases hm with
        | begin task =>
            have hlt := (List.getElem?_eq_some_iff.mp hcall).1
            exact ⟨call, by rw [World.begin, List.getElem?_append_left hlt, hcall], hle⟩
        | @act i task stage deed hub stage' hi ha =>
            by_cases hin : i = n.call
            · subst hin
              obtain rfl := Option.some.inj (hcall.symm.trans hi)
              have hlt := (List.getElem?_eq_some_iff.mp hi).1
              refine ⟨⟨task, stage'⟩, List.getElem?_set_self hlt, ?_⟩
              exact (ha.ceiling.1.trans_lt ha.ceiling.2).le.trans hle
            · exact ⟨call, by rw [List.getElem?_set_ne hin, hcall], hle⟩
      · obtain rfl := List.mem_singleton.mp hn
        cases hm with
        | begin task => exact ⟨⟨task, .ready⟩, by simp [World.begin], le_rfl⟩
        | @act i task stage deed hub stage' hi ha =>
            have hlt := (List.getElem?_eq_some_iff.mp hi).1
            exact ⟨⟨task, stage'⟩, List.getElem?_set_self hlt, ha.ceiling.1⟩

theorem Chronicle.rank_le_ceiling (hc : Chronicle shelf single h w) {j : Nat} {call : Call}
    {deed : Deed} (hj : w.calls[j]? = some call) (hn : ⟨j, deed⟩ ∈ h) :
    call.stage.rank ≤ deed.ceiling := by
  obtain ⟨call', hj', hle⟩ := hc.rank_le hn
  obtain rfl := Option.some.inj (hj.symm.trans hj')
  exact hle

/-- The deeds of a call follow each other in the order of their ceilings. -/
theorem Chronicle.ordered (hc : Chronicle shelf single h w) :
    h.Pairwise fun m n => m.call = n.call → n.deed.ceiling < m.deed.ceiling := by
  induction hc with
  | start => exact .nil
  | @move h w n w' hc hm ih =>
      refine List.pairwise_append.mpr ⟨ih, List.pairwise_singleton _ _, ?_⟩
      intro m hmem n' hn' hmn
      obtain rfl := List.mem_singleton.mp hn'
      obtain ⟨call, hcall, hle⟩ := hc.rank_le hmem
      rw [hmn] at hcall
      cases hm with
      | begin task => simp at hcall
      | @act i task stage deed hub stage' hi ha =>
          obtain rfl := Option.some.inj (hcall.symm.trans hi)
          exact ha.ceiling.2.trans_le hle

theorem Chronicle.ceiling_lt (hc : Chronicle shelf single h w) {p q : Nat} {m n : Note}
    (hp : h[p]? = some m) (hq : h[q]? = some n) (hmn : m.call = n.call) (hpq : p < q) :
    n.deed.ceiling < m.deed.ceiling := by
  obtain ⟨hpl, rfl⟩ := List.getElem?_eq_some_iff.mp hp
  obtain ⟨hql, rfl⟩ := List.getElem?_eq_some_iff.mp hq
  exact List.pairwise_iff_getElem.mp hc.ordered p q hpl hql hpq hmn

/-- Of two deeds of a call the one with the higher ceiling is earlier. -/
theorem Chronicle.lt_of_ceiling (hc : Chronicle shelf single h w) {p q : Nat} {m n : Note}
    (hp : h[p]? = some m) (hq : h[q]? = some n) (hmn : m.call = n.call)
    (hlt : n.deed.ceiling < m.deed.ceiling) : p < q := by
  rcases Nat.lt_trichotomy p q with hpq | rfl | hqp
  · exact hpq
  · obtain rfl := Option.some.inj (hp.symm.trans hq)
    exact absurd hlt (lt_irrefl _)
  · exact absurd (hc.ceiling_lt hq hp hmn.symm hqp) hlt.not_gt

/-- The newest note is no deed with a higher ceiling than an earlier one of its call. -/
theorem Chronicle.mem_of_ceiling {n m m' : Note} (hc : Chronicle shelf single (h ++ [n]) w)
    (hm : m ∈ h) (hm' : m' ∈ h ++ [n]) (hcall : m.call = m'.call)
    (hlt : m.deed.ceiling < m'.deed.ceiling) : m' ∈ h := by
  rcases List.mem_append.mp hm' with hm' | hn
  · exact hm'
  · have hle := (List.pairwise_append.mp hc.ordered).2.2 m hm m' hn hcall
    exact absurd hlt hle.not_gt

/-- A call does deeds of one ceiling only once. -/
theorem Chronicle.position_eq (hc : Chronicle shelf single h w) {p q : Nat} {m n : Note}
    (hp : h[p]? = some m) (hq : h[q]? = some n) (hmn : m.call = n.call)
    (he : m.deed.ceiling = n.deed.ceiling) : p = q := by
  rcases Nat.lt_trichotomy p q with hpq | hpq | hqp
  · exact absurd (hc.ceiling_lt hp hq hmn hpq) (by omega)
  · exact hpq
  · exact absurd (hc.ceiling_lt hq hp hmn.symm hqp) (by omega)

/-! ## A service to resolve -/

def sampleService : Identifier :=
  ⟨⟨['a'], by decide, by decide, by decide⟩, ⟨['b'], by decide, by decide, by decide⟩, .service⟩

end Signpost.Directory
