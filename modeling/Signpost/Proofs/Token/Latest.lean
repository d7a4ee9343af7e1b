import Mathlib.Data.List.Induction
import Signpost.Proofs.Token.Grants
import Signpost.Token.Desk

/-! # The latest token

Callers come to the desk in any order and at any times, and requests end in any way. The token that
is stored is always that of the request that brought one last, until its lifetime ends, and a
request that brings none leaves it alone. -/

namespace Signpost.Token

/-! ## Runs of the desk -/

/-- The caller that an event is about. -/
def Event.caller? : Event → Option Nat
  | .come => none
  | .enter i _ => some i
  | .learn i _ _ => some i

namespace Desk

/-- One event of a desk: somebody comes, takes the stored token, begins a request, or learns how
the request ended. -/
inductive Step (d : Desk) : Event → Desk → Prop where
  | come : Step d .come { d with callers := d.callers ++ [.waiting] }
  | take {i now text} (hb : d.isBusy = false) (hi : d.callers[i]? = some .waiting)
      (hv : valid? d.stored now = some text) :
      Step d (.enter i now) { d with callers := d.callers.set i (.served (.stored text)) }
  | request {i now} (hb : d.isBusy = false) (hi : d.callers[i]? = some .waiting)
      (hv : valid? d.stored now = none) :
      Step d (.enter i now) { d with callers := d.callers.set i .requesting }
  | learn {i now exchange} (hi : d.callers[i]? = some .requesting) :
      Step d (.learn i now exchange)
        ⟨(settle d.stored now exchange).1,
          d.callers.set i (.served (.requested (settle d.stored now exchange).2))⟩

theorem getElem?_of_next? {d : Desk} {i : Nat} (h : d.next? = some i) :
    d.callers[i]? = some .waiting := by
  obtain ⟨hlt, hw, _⟩ := List.findIdx?_eq_some_iff_getElem.mp h
  rw [List.getElem?_eq_getElem hlt]
  split at hw
  next hc => rw [hc]
  next => cases hw

theorem Step.of_step? {d d' : Desk} {e : Event} (h : d.step? e = some d') : Step d e d' := by
  cases e with
  | come =>
      obtain rfl := Option.some.inj h
      exact .come
  | enter i now =>
      simp only [step?] at h
      split at h
      next hadmits =>
        rw [Bool.and_eq_true, Bool.not_eq_true', beq_iff_eq] at hadmits
        obtain rfl := Option.some.inj h
        have hi := getElem?_of_next? hadmits.2
        cases hv : valid? d.stored now with
        | some text => simpa only [enter, hv] using Step.take hadmits.1 hi hv
        | none => simpa only [enter, hv] using Step.request hadmits.1 hi hv
      next => cases h
  | learn i now exchange =>
      simp only [step?] at h
      split at h
      next hi =>
        obtain rfl := Option.some.inj h
        exact .learn hi
      next => cases h

/-- A desk and the events that led to it from the empty one. -/
inductive Log : List Event → Desk → Prop where
  | start : Log [] .empty
  | step {events d e d'} : Log events d → Step d e d' → Log (events ++ [e]) d'

@[simp] theorem run?_append (d : Desk) (events later : List Event) :
    d.run? (events ++ later) = (d.run? events).bind fun d => d.run? later := by
  induction events generalizing d with
  | nil => rfl
  | cons e events ih =>
      rw [List.cons_append, run?, run?, Option.bind_assoc]
      exact Option.bind_congr fun next _ => ih next

theorem Log.append {events : List Event} {d : Desk} (hl : Log events d) {later : List Event}
    {d' : Desk} (hr : d.run? later = some d') : Log (events ++ later) d' := by
  induction later generalizing events d with
  | nil =>
      obtain rfl := Option.some.inj hr
      simpa using hl
  | cons e later ih =>
      obtain ⟨next, hs, hr⟩ := Option.bind_eq_some_iff.mp hr
      rw [List.append_cons]
      exact ih (hl.step (.of_step? hs)) hr

/-- Every run has a log: its events. -/
theorem Log.of_run {events : List Event} {d : Desk} (hr : Desk.empty.run? events = some d) :
    Log events d := by
  simpa using Log.start.append hr

/-- A caller after a step has just come, was not concerned, or is the one that the event is
about. -/
theorem Step.caller_cases {d d' : Desk} {e : Event} (h : Step d e d') {j : Nat} {caller : Caller}
    (hj : d'.callers[j]? = some caller) :
    (e = .come ∧ j = d.callers.length ∧ caller = .waiting) ∨
    (e.caller? ≠ some j ∧ d.callers[j]? = some caller) ∨ e.caller? = some j := by
  by_cases he : e.caller? = some j
  · exact .inr (.inr he)
  · cases h with
    | come =>
        rw [List.getElem?_append] at hj
        split at hj
        · exact .inr (.inl ⟨he, hj⟩)
        next hle =>
          obtain ⟨hz, rfl⟩ := List.getElem?_eq_some_iff.mp hj
          rw [List.length_singleton] at hz
          exact .inl ⟨rfl, by omega, by simp⟩
    | take | request | learn =>
        rw [List.getElem?_set_ne fun hij => he (congrArg some hij)] at hj
        exact .inr (.inl ⟨he, hj⟩)

end Desk

/-! ## The latest token -/

/-- Of the requests that brought a token, the last to end did so at this instant and was granted
this. -/
def LastGrant (events : List Event) (s : Time.Instant) (grant : Grant) : Prop :=
  ∃ before i exchange later, events = before ++ .learn i s exchange :: later ∧
    Brings s exchange grant ∧
    ∀ j t other, .learn j t other ∈ later → ∀ grant, ¬Brings t other grant

/-- A text is that of the last token that a request brought, which will last for longer than the
margin. -/
def Reusable (events : List Event) (now : Time.Instant) (text : String) : Prop :=
  ∃ s grant, LastGrant events s grant ∧ grant.text = text ∧ now.ns + marginNs < grant.endNs s

theorem not_lastGrant_nil {s : Time.Instant} {grant : Grant} : ¬LastGrant [] s grant := by
  rintro ⟨before, i, exchange, later, he, _⟩
  simp at he

theorem lastGrant_append_singleton {events : List Event} {e : Event} {s : Time.Instant}
    {grant : Grant} :
    LastGrant (events ++ [e]) s grant ↔
      (∃ i exchange, e = .learn i s exchange ∧ Brings s exchange grant) ∨
      (LastGrant events s grant ∧
        ∀ i t exchange, e = .learn i t exchange → ∀ grant, ¬Brings t exchange grant) := by
  constructor
  · rintro ⟨before, i, exchange, later, he, hb, hl⟩
    cases later using List.reverseRecOn with
    | nil =>
        obtain ⟨rfl, hlearn⟩ := List.append_inj' he rfl
        exact .inl ⟨i, exchange, List.singleton_inj.mp hlearn, hb⟩
    | append_singleton later last =>
        rw [← List.cons_append, ← List.append_assoc] at he
        obtain ⟨rfl, hlast⟩ := List.append_inj' he rfl
        obtain rfl := List.singleton_inj.mp hlast
        refine .inr ⟨⟨before, i, exchange, later, rfl, hb, ?_⟩, ?_⟩
        · intro j t other hm
          exact hl j t other (by simp [hm])
        · rintro j t other rfl
          exact hl j t other (by simp)
  · rintro (⟨i, exchange, rfl, hb⟩ | ⟨⟨before, i, exchange, later, rfl, hb, hl⟩, he⟩)
    · exact ⟨events, i, exchange, [], rfl, hb, by simp⟩
    · refine ⟨before, i, exchange, later ++ [e], by simp, hb, ?_⟩
      intro j t other hm
      rcases List.mem_append.mp hm with hm | hm
      · exact hl j t other hm
      · exact he j t other (List.mem_singleton.mp hm).symm

/-- A request leaves the token that it brings, or the one that was stored before. -/
theorem settle_cases (stored : Option Token) (now : Time.Instant) (exchange : Http.Exchange) :
    (∃ grant token, Brings now exchange grant ∧ token.text = grant.text ∧
      token.expiresAt.ns = grant.endNs now ∧
      settle stored now exchange = (some token, .ok grant.text)) ∨
    ∃ fault, Refused now exchange fault ∧
      settle stored now exchange = (stored, .error fault) := by
  unfold settle
  cases h : ofExchange now exchange with
  | ok token =>
      obtain ⟨grant, hb, htext, hend⟩ := ofExchange_eq_ok_iff.mp h
      exact .inl ⟨grant, token, hb, htext, hend, htext ▸ rfl⟩
  | error fault => exact .inr ⟨fault, ofExchange_eq_error_iff.mp h, rfl⟩

namespace Desk

variable {events : List Event} {d : Desk}

/-- A request that brings no token leaves the stored one alone. -/
theorem Step.stored_eq_of_refused {d d' : Desk} {i : Nat} {t : Time.Instant}
    {exchange : Http.Exchange} (hs : Step d (.learn i t exchange) d') {fault : Fault}
    (hf : Refused t exchange fault) : d'.stored = d.stored := by
  cases hs with
  | learn hi =>
      rcases settle_cases d.stored t exchange with ⟨grant, _, hb, _⟩ | ⟨_, _, hst⟩
      · exact absurd hb (hf.not_brings grant)
      · rw [hst]

/-- The stored token is that of the last request that brought one, and expires where the granted
lifetime ends. -/
theorem Log.stored_iff (hl : Log events d) {token : Token} :
    d.stored = some token ↔
      ∃ s grant, LastGrant events s grant ∧ token.text = grant.text ∧
        token.expiresAt.ns = grant.endNs s := by
  induction hl generalizing token with
  | start => simp [empty, not_lastGrant_nil]
  | @step events d e d' _ hs ih =>
      -- only the end of a request can make a difference
      have hother (he : ∀ i t exchange, e ≠ .learn i t exchange) :
          (∃ s grant, LastGrant (events ++ [e]) s grant ∧ token.text = grant.text ∧
            token.expiresAt.ns = grant.endNs s) ↔ d.stored = some token := by
        simp only [ih, lastGrant_append_singleton, he, false_and, exists_false, false_or,
          false_implies, implies_true, and_true]
      cases hs with
      | come | take | request => exact (hother (by rintro _ _ _ ⟨⟩)).symm
      | @learn i now exchange hi =>
          rcases settle_cases d.stored now exchange with
            ⟨grant, token', hb, htext, hend, hst⟩ | ⟨fault, hf, hst⟩
          · simp only [hst, Option.some.injEq, lastGrant_append_singleton]
            constructor
            · rintro rfl
              exact ⟨now, grant, .inl ⟨i, exchange, rfl, hb⟩, htext, hend⟩
            · rintro ⟨s, grant', ⟨_, _, he, hb'⟩ | ⟨_, hn⟩, htext', hend'⟩
              · cases he
                obtain rfl := hb.grant_eq hb'
                have htoken := Grant.token?_eq_some_iff.mpr ⟨htext, hend⟩
                exact Option.some.inj
                  (htoken.symm.trans (Grant.token?_eq_some_iff.mpr ⟨htext', hend'⟩))
              · exact absurd hb (hn i now exchange rfl grant)
          · simp only [hst, ih, lastGrant_append_singleton]
            constructor
            · rintro ⟨s, grant, hg, ht⟩
              refine ⟨s, grant, .inr ⟨hg, ?_⟩, ht⟩
              rintro j t other ⟨⟩
              exact hf.not_brings
            · rintro ⟨s, grant, ⟨_, _, ⟨⟩, hb⟩ | ⟨hg, _⟩, ht⟩
              · exact absurd hb (hf.not_brings grant)
              · exact ⟨s, grant, hg, ht⟩

/-- Whether there is a token to be given out is told by the last one that a request brought. -/
theorem Log.valid?_eq_some_iff (hl : Log events d) {now : Time.Instant} {text : String} :
    valid? d.stored now = some text ↔ Reusable events now text := by
  have hvalid : valid? d.stored now = some text ↔
      ∃ token, d.stored = some token ∧ now.ns + marginNs < token.expiresAt.ns ∧
        token.text = text := by
    simp [valid?, Option.filter_eq_some_iff, isValid, and_assoc]
  simp only [hvalid, hl.stored_iff, Reusable]
  constructor
  · rintro ⟨token, ⟨s, grant, hg, htext, hend⟩, hlt, rfl⟩
    exact ⟨s, grant, hg, htext.symm, hend ▸ hlt⟩
  · rintro ⟨s, grant, hg, rfl, hlt⟩
    obtain ⟨before, i, exchange, later, he, hb, hlast⟩ := hg
    exact ⟨⟨grant.text, ⟨grant.endNs s, hb.2.1, hb.2.2⟩⟩,
      ⟨s, grant, ⟨before, i, exchange, later, he, hb, hlast⟩, rfl, rfl⟩, hlt, rfl⟩

end Desk

end Signpost.Token
