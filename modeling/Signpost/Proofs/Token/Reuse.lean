import Mathlib.Data.List.Basic
import Signpost.Discovery.Fetch
import Signpost.Proofs.Token.Latest
import Signpost.Token.Issuer

/-! # Reuse of tokens

A caller takes the stored token if it outlasts the margin, and makes exactly one request otherwise,
while nobody else makes any. -/

namespace Signpost.Token

/-! ## Calls -/

/-- No event is about a caller. -/
def Without (i : Nat) (events : List Event) : Prop :=
  ∀ e ∈ events, e.caller? ≠ some i

/-- How a request ended for its caller. -/
inductive Ends (t : Time.Instant) : Http.Exchange → Except Fault String → Prop where
  | brought {exchange grant} (hb : Brings t exchange grant) : Ends t exchange (.ok grant.text)
  | refused {exchange fault} (hf : Refused t exchange fault) : Ends t exchange (.error fault)

/-- What happened to a caller. Who found a token that could be reused took it and made no request;
who found none made exactly one. -/
inductive Visit (events : List Event) (i : Nat) : Caller → Prop where
  | waiting (hw : Without i events) : Visit events i .waiting
  | stored {before now later text} (he : events = before ++ .enter i now :: later)
      (hw : Without i (before ++ later)) (hr : Reusable before now text) :
      Visit events i (.served (.stored text))
  | requesting {before now later} (he : events = before ++ .enter i now :: later)
      (hw : Without i (before ++ later)) (hr : ∀ text, ¬Reusable before now text) :
      Visit events i .requesting
  | requested {before now between t exchange later result}
      (he : events = before ++ .enter i now :: (between ++ .learn i t exchange :: later))
      (hw : Without i (before ++ between ++ later)) (hr : ∀ text, ¬Reusable before now text)
      (ht : Ends t exchange result) :
      Visit events i (.served (.requested result))

theorem without_append {i : Nat} {events later : List Event} :
    Without i (events ++ later) ↔ Without i events ∧ Without i later :=
  List.forall_mem_append

theorem Without.notMem {i : Nat} {events : List Event} (hw : Without i events) {e : Event}
    (he : e.caller? = some i) : e ∉ events :=
  fun hm => hw e hm he

theorem Without.append_singleton {i : Nat} {events : List Event} {e : Event}
    (hw : Without i events) (he : e.caller? ≠ some i) : Without i (events ++ [e]) := by
  intro e' he'
  rcases List.mem_append.mp he' with he' | he'
  · exact hw e' he'
  · obtain rfl := List.mem_singleton.mp he'
    exact he

theorem Visit.append_singleton {events : List Event} {i : Nat} {caller : Caller}
    (hv : Visit events i caller) {e : Event} (he : e.caller? ≠ some i) :
    Visit (events ++ [e]) i caller := by
  cases hv with
  | waiting hw => exact .waiting (hw.append_singleton he)
  | @stored before now later text hs hw hr =>
      subst hs
      have hs : before ++ .enter i now :: later ++ [e] =
          before ++ .enter i now :: (later ++ [e]) := by simp
      refine .stored hs ?_ hr
      rw [← List.append_assoc]
      exact hw.append_singleton he
  | @requesting before now later hs hw hr =>
      subst hs
      have hs : before ++ .enter i now :: later ++ [e] =
          before ++ .enter i now :: (later ++ [e]) := by simp
      refine .requesting hs ?_ hr
      rw [← List.append_assoc]
      exact hw.append_singleton he
  | @requested before now between t exchange later result hs hw hr ht =>
      subst hs
      have hs : before ++ .enter i now :: (between ++ .learn i t exchange :: later) ++ [e] =
          before ++ .enter i now :: (between ++ .learn i t exchange :: (later ++ [e])) := by simp
      refine .requested hs ?_ hr ht
      rw [← List.append_assoc]
      exact hw.append_singleton he

theorem ends_settle (stored : Option Token) (now : Time.Instant) (exchange : Http.Exchange) :
    Ends now exchange (settle stored now exchange).2 := by
  rcases settle_cases stored now exchange with ⟨grant, _, hb, _, _, hst⟩ | ⟨fault, hf, hst⟩
  · rw [hst]
    exact .brought hb
  · rw [hst]
    exact .refused hf

namespace Desk

variable {events : List Event} {d d' : Desk} {e : Event} {i : Nat}

/-- No event is about somebody who has yet to come. -/
theorem Log.without (hl : Log events d) (hi : d.callers.length ≤ i) : Without i events := by
  induction hl with
  | start => simp [Without]
  | @step events d e d' _ hs ih =>
      have hle : d.callers.length ≤ i := by cases hs <;> simp at hi <;> omega
      refine (ih hle).append_singleton ?_
      -- who is waiting or requesting has come
      cases hs with
      | come => simp [Event.caller?]
      | take _ hj _ | request _ hj _ | learn hj =>
          rintro ⟨⟩
          exact absurd (List.getElem?_eq_some_iff.mp hj).1 (by omega)

/-- Every call went as it should. -/
theorem Log.visit (hl : Log events d) {caller : Caller} (hi : d.callers[i]? = some caller) :
    Visit events i caller := by
  induction hl generalizing caller with
  | start => simp [empty] at hi
  | @step events d e d' hl hs ih =>
      rcases hs.caller_cases hi with ⟨rfl, rfl, rfl⟩ | ⟨he, hj⟩ | he
      · exact .waiting ((hl.without (Nat.le_refl _)).append_singleton (by simp [Event.caller?]))
      · exact (ih hj).append_singleton he
      · cases hs with
        | come => cases he
        | @take j now text _ hj hv =>
            cases he
            rw [List.getElem?_set_self (List.getElem?_eq_some_iff.mp hj).1] at hi
            cases hi
            cases ih hj with
            | waiting hw =>
                exact .stored rfl (by simpa using hw) (hl.valid?_eq_some_iff.mp hv)
        | @request j now _ hj hv =>
            cases he
            rw [List.getElem?_set_self (List.getElem?_eq_some_iff.mp hj).1] at hi
            cases hi
            cases ih hj with
            | waiting hw =>
                refine .requesting rfl (by simpa using hw) ?_
                intro text hr
                rw [hl.valid?_eq_some_iff.mpr hr] at hv
                cases hv
        | @learn j now exchange hj =>
            cases he
            rw [List.getElem?_set_self (List.getElem?_eq_some_iff.mp hj).1] at hi
            cases hi
            cases ih hj with
            | @requesting before entered between hs hw hr =>
                subst hs
                have hs : before ++ .enter i entered :: between ++ [.learn i now exchange] =
                    before ++ .enter i entered :: (between ++ .learn i now exchange :: []) := by
                  simp
                exact .requested hs (by simpa using hw) hr (ends_settle d.stored now exchange)

theorem isBusy_eq_false_iff :
    d.isBusy = false ↔ ∀ j : Nat, d.callers[j]? ≠ some .requesting := by
  rw [isBusy, List.any_eq_false]
  constructor
  · intro h j hj
    exact h _ (List.mem_of_getElem? hj) rfl
  · intro h caller hm
    obtain ⟨j, hj⟩ := List.mem_iff_getElem?.mp hm
    cases caller with
    | waiting | served _ => exact Bool.false_ne_true
    | requesting => exact absurd hj (h j)

/-- Who begins a request finds nobody else at it. -/
theorem Step.not_requesting (hs : Step d e d') (he : e.caller? = some i)
    (hi : d'.callers[i]? = some .requesting) (j : Nat) : d.callers[j]? ≠ some .requesting := by
  cases hs with
  | come => cases he
  | request hb => exact isBusy_eq_false_iff.mp hb j
  | take _ hj | learn hj =>
      cases he
      rw [List.getElem?_set_self (List.getElem?_eq_some_iff.mp hj).1] at hi
      cases hi

/-- At most one request is under way. -/
theorem Log.alone (hl : Log events d) {i j : Nat} (hi : d.callers[i]? = some .requesting)
    (hj : d.callers[j]? = some .requesting) : i = j := by
  induction hl with
  | start => simp [empty] at hi
  | @step events d e d' hl hs ih =>
      -- who requests after the step began with it or did before, while nobody else did
      rcases hs.caller_cases hi with ⟨_, _, hc⟩ | ⟨hne, hi'⟩ | hei
      · cases hc
      · rcases hs.caller_cases hj with ⟨_, _, hc⟩ | ⟨_, hj'⟩ | hej
        · cases hc
        · exact ih hi' hj'
        · exact absurd hi' (hs.not_requesting hej hj i)
      · rcases hs.caller_cases hj with ⟨_, _, hc⟩ | ⟨_, hj'⟩ | hej
        · cases hc
        · exact absurd hj' (hs.not_requesting hei hi j)
        · exact Option.some.inj (hei.symm.trans hej)

/-- Whom an event was about has come. -/
theorem Log.exists_caller (hl : Log events d) (he : e ∈ events) (hi : e.caller? = some i) :
    ∃ caller, d.callers[i]? = some caller ∧ Visit events i caller := by
  cases hc : d.callers[i]? with
  | none => exact absurd hi (hl.without (List.getElem?_eq_none_iff.mp hc) e he)
  | some caller => exact ⟨caller, rfl, hl.visit hc⟩

end Desk

/-- Nobody enters twice. -/
theorem Visit.entered {events before later : List Event} {i : Nat} {now : Time.Instant}
    {caller : Caller} (hv : Visit events i caller)
    (he : events = before ++ .enter i now :: later) :
    (∃ text, caller = .served (.stored text) ∧ Reusable before now text) ∨
    ((caller = .requesting ∨ ∃ result, caller = .served (.requested result)) ∧
      ∀ text, ¬Reusable before now text) := by
  have hi : (Event.enter i now).caller? = some i := rfl
  cases hv with
  | waiting hw => exact absurd (he ▸ List.mem_append_cons_self) (hw.notMem hi)
  | @stored before' now' later' text hs hw hr =>
      obtain ⟨hb, hl⟩ := without_append.mp hw
      obtain ⟨rfl, hn, -⟩ :=
        (List.append_cons_inj_of_notMem (hb.notMem hi) (hl.notMem hi)).mp (hs.symm.trans he)
      cases hn
      exact .inl ⟨text, rfl, hr⟩
  | @requesting before' now' later' hs hw hr =>
      obtain ⟨hb, hl⟩ := without_append.mp hw
      obtain ⟨rfl, hn, -⟩ :=
        (List.append_cons_inj_of_notMem (hb.notMem hi) (hl.notMem hi)).mp (hs.symm.trans he)
      cases hn
      exact .inr ⟨.inl rfl, hr⟩
  | @requested before' now' between t exchange later' result hs hw hr ht =>
      simp only [without_append] at hw
      have hl : Event.enter i now ∉ between ++ .learn i t exchange :: later' := by
        simp [hw.1.2.notMem hi, hw.2.notMem hi]
      obtain ⟨rfl, hn, -⟩ :=
        (List.append_cons_inj_of_notMem (hw.1.1.notMem hi) hl).mp (hs.symm.trans he)
      cases hn
      exact .inr ⟨.inr ⟨result, rfl⟩, hr⟩

/-- Nobody learns twice how a request ended. -/
theorem Visit.learned {events before later : List Event} {i : Nat} {t : Time.Instant}
    {exchange : Http.Exchange} {caller : Caller} (hv : Visit events i caller)
    (he : events = before ++ .learn i t exchange :: later) :
    ∃ result, caller = .served (.requested result) ∧ Ends t exchange result := by
  have hi : (Event.learn i t exchange).caller? = some i := rfl
  have hm : Event.learn i t exchange ∈ events := he ▸ List.mem_append_cons_self
  cases hv with
  | waiting hw => exact absurd hm (hw.notMem hi)
  | stored hs hw _ | requesting hs hw _ =>
      obtain ⟨hb, hl⟩ := without_append.mp hw
      simp [hs, hb.notMem hi, hl.notMem hi] at hm
  | @requested before' now' between t' exchange' later' result hs hw hr ht =>
      simp only [without_append] at hw
      have hb : Event.learn i t exchange ∉ before' ++ .enter i now' :: between := by
        simp [hw.1.1.notMem hi, hw.1.2.notMem hi]
      have hs :
          before' ++ .enter i now' :: between ++ .learn i t' exchange' :: later' = events := by
        simp [hs]
      obtain ⟨-, hn, -⟩ := (List.append_cons_inj_of_notMem hb (hw.2.notMem hi)).mp (hs.trans he)
      cases hn
      exact ⟨result, rfl, ht⟩

/-! ## Reuse -/

/-- What a served caller is told. -/
def Service.outcome (service : Service) : Except FetchFault String :=
  service.result.mapError fun fault => .token fault.message

/-- What the caller is told who has been served. -/
def Desk.told? (d : Desk) (i : Nat) : Option (Except Fault String) :=
  match d.callers[i]? with
  | some (.served service) => some service.result
  | _ => none

/-- A caller's visit where the clock and the network run: who begins a request sends it and stays
until it has ended. -/
def Desk.attend {m : Type → Type} [Monad m] (network : Http.Network m) (who : Client) (d : Desk)
    (i : Nat) : m Desk := do
  let d := d.enter i (← network.now)
  match d.callers[i]? with
  | some .requesting =>
    let exchange ← network.send who.request
    return d.learn i (← network.now) exchange
  | _ => return d

/-- To obtain a token is to visit the desk. -/
theorem Issuer.obtain_client {m : Type → Type} [Monad m] [LawfulMonad m]
    (network : Http.Network m) (who : Client) {d : Desk} {i : Nat}
    (hi : d.callers[i]? = some .waiting) :
    (fun r => (some r.1, r.2)) <$> (Issuer.client who d.stored).obtain network =
      (fun d' => (d'.told? i, Issuer.client who d'.stored)) <$> d.attend network who i := by
  have hlt := (List.getElem?_eq_some_iff.mp hi).1
  simp only [obtain, Desk.attend, map_bind]
  refine bind_congr fun now => ?_
  cases hv : valid? d.stored now with
  | some text => simp [Desk.enter, hv, hlt, Desk.told?, Service.result]
  | none => simp [Desk.enter, hv, hlt, Desk.told?, Desk.learn, Service.result]

/-- An attempt to fetch the listing fails as its caller is told, or sends the token. -/
theorem Service.attempt_eq {m : Type → Type} [Monad m] [LawfulMonad m]
    (surroundings : Discovery.Surroundings m) (service : Service) (url : String) :
    Discovery.attempt { surroundings with token := pure service.result } url =
      match service.outcome with
      | .error fault => pure (.error fault)
      | .ok text => Discovery.readListing <$> surroundings.send (Discovery.request url text) := by
  unfold Discovery.attempt outcome
  cases service.result with
  | error fault => simp [Except.mapError]
  | ok text => simp [Except.mapError]

/-- What holds of a run of the desk. At most one request is under way. A caller who is let in takes
the stored token, without a request, if and only if the latest request that brought a token leaves
one that outlasts the margin, and makes a request otherwise, and only that one. The stored token is
the latest one that was brought, and it expires exactly where its lifetime ends. A request that
fails, is answered with another status than success, cannot be read or grants a lifetime that
leads out of range is a fault of the token and leaves the stored one as it is. Validity compares
instants, what a caller does is what the issuer does for it, a fault of the token fails the attempt
to fetch the listing, and the desk can go on until everybody is served. -/
structure ReuseSpec (events : List Event) (d : Desk) : Prop where
  alone : ∀ {i j : Nat}, d.callers[i]? = some .requesting → d.callers[j]? = some .requesting → i = j
  visit : ∀ {i : Nat} {caller : Caller}, d.callers[i]? = some caller → Visit events i caller
  reused_iff : ∀ {before later : List Event} {i : Nat} {now : Time.Instant},
    events = before ++ .enter i now :: later → ∀ text,
      (d.callers[i]? = some (.served (.stored text)) ↔ Reusable before now text)
  requested_iff : ∀ {before later : List Event} {i : Nat} {now : Time.Instant},
    events = before ++ .enter i now :: later →
      ((d.callers[i]? = some .requesting ∨
        ∃ result, d.callers[i]? = some (.served (.requested result))) ↔
        ∀ text, ¬Reusable before now text)
  stored_iff : ∀ {token : Token}, d.stored = some token ↔
    ∃ s grant, LastGrant events s grant ∧ token.text = grant.text ∧
      token.expiresAt.ns = grant.endNs s
  learned : ∀ {before later : List Event} {i : Nat} {t : Time.Instant} {exchange : Http.Exchange},
    events = before ++ .learn i t exchange :: later →
      ∃ service, d.callers[i]? = some (.served service) ∧
        ((∃ grant, Brings t exchange grant ∧ service.outcome = .ok grant.text) ∨
        ∃ fault, Refused t exchange fault ∧ service.outcome = .error (.token fault.message) ∧
          ∃ d₁ d₂, Desk.empty.run? before = some d₁ ∧
            d₁.step? (.learn i t exchange) = some d₂ ∧ d₂.stored = d₁.stored)
  comparable : ∀ {now : Time.Instant}, now.ns + marginNs ≤ Time.latestNs → ∀ token : Token,
    ∃ later, now.add? margin = some later ∧ token.isValid now = decide (later < token.expiresAt)
  issued : ∀ {i : Nat}, d.callers[i]? = some .waiting →
    ∀ {m : Type → Type} [Monad m] [LawfulMonad m] (network : Http.Network m) (who : Client),
      (fun r => (some r.1, r.2)) <$> (Issuer.client who d.stored).obtain network =
        (fun d' => (d'.told? i, Issuer.client who d'.stored)) <$> d.attend network who i
  attempted : ∀ {m : Type → Type} [Monad m] [LawfulMonad m]
    (surroundings : Discovery.Surroundings m) (service : Service) (url : String),
    Discovery.attempt { surroundings with token := pure service.result } url =
      match service.outcome with
      | .error fault => pure (.error fault)
      | .ok text => Discovery.readListing <$> surroundings.send (Discovery.request url text)
  progress : ∀ {i : Nat} {caller : Caller}, d.callers[i]? = some caller →
    (∀ service, caller ≠ .served service) →
      (∃ j, d.callers[j]? = some .requesting ∧
        ∀ t exchange, (d.step? (.learn j t exchange)).isSome) ∨
      ∃ j, d.callers[j]? = some .waiting ∧ ∀ now, (d.step? (.enter j now)).isSome

namespace Desk

variable {d : Desk}

/-- Unless everybody is served, the one who is inside can learn how the request ended, or the first
of those who wait can enter. -/
theorem progress {i : Nat} {caller : Caller} (hi : d.callers[i]? = some caller)
    (hc : ∀ service, caller ≠ .served service) :
    (∃ j : Nat, d.callers[j]? = some .requesting ∧
      ∀ t exchange, (d.step? (.learn j t exchange)).isSome) ∨
    ∃ j : Nat, d.callers[j]? = some .waiting ∧ ∀ now, (d.step? (.enter j now)).isSome := by
  by_cases hr : ∃ j : Nat, d.callers[j]? = some .requesting
  · obtain ⟨j, hj⟩ := hr
    exact .inl ⟨j, hj, fun t exchange => by simp [step?, hj]⟩
  · have hbusy : d.isBusy = false := isBusy_eq_false_iff.mpr (not_exists.mp hr)
    have hw : d.callers[i]? = some .waiting := by
      cases caller with
      | waiting => exact hi
      | requesting => exact absurd ⟨i, hi⟩ hr
      | served service => exact absurd rfl (hc service)
    cases hnext : d.next? with
    | none =>
        have := List.findIdx?_eq_none_iff.mp hnext _ (List.mem_of_getElem? hw)
        cases this
    | some j =>
        exact .inr ⟨j, getElem?_of_next? hnext, fun now => by simp [step?, hbusy, hnext]⟩

/-- Tokens are reused as they should be in every run. -/
theorem reuse_of_run {events : List Event} (hr : Desk.empty.run? events = some d) :
    ReuseSpec events d := by
  have hl := Log.of_run hr
  have hbefore {before later : List Event} (he : events = before ++ later) :
      ∃ mid, Desk.empty.run? before = some mid ∧ mid.run? later = some d := by
    rw [he, run?_append] at hr
    exact Option.bind_eq_some_iff.mp hr
  refine ⟨hl.alone, hl.visit, ?_, ?_, hl.stored_iff, ?_, exists_add_margin, ?_,
    Service.attempt_eq, progress⟩
  · intro before later i now he text
    obtain ⟨mid, hmid, -⟩ := hbefore he
    obtain ⟨caller, hc, hv⟩ := hl.exists_caller (he ▸ List.mem_append_cons_self) rfl
    rw [hc, Option.some.injEq]
    rcases hv.entered he with ⟨text', rfl, hr'⟩ | ⟨hcaller, hn⟩
    · rw [← (Log.of_run hmid).valid?_eq_some_iff,
        (Log.of_run hmid).valid?_eq_some_iff.mpr hr']
      simp
    · refine iff_of_false ?_ (hn text)
      rintro rfl
      rcases hcaller with hcaller | ⟨_, hcaller⟩ <;> cases hcaller
  · intro before later i now he
    obtain ⟨caller, hc, hv⟩ := hl.exists_caller (he ▸ List.mem_append_cons_self) rfl
    simp only [hc, Option.some.injEq]
    rcases hv.entered he with ⟨text, rfl, hr'⟩ | ⟨hcaller, hn⟩
    · exact iff_of_false (by simp) fun hn => hn text hr'
    · exact iff_of_true hcaller hn
  · intro before later i t exchange he
    obtain ⟨caller, hc, hv⟩ := hl.exists_caller (he ▸ List.mem_append_cons_self) rfl
    obtain ⟨result, rfl, ht⟩ := hv.learned he
    refine ⟨.requested result, hc, ?_⟩
    cases ht with
    | brought hb => exact .inl ⟨_, hb, rfl⟩
    | refused hf =>
        obtain ⟨d₁, h₁, hlater⟩ := hbefore he
        obtain ⟨d₂, h₂, -⟩ := Option.bind_eq_some_iff.mp hlater
        exact .inr ⟨_, hf, rfl, d₁, d₂, h₁, h₂, (Step.of_step? h₂).stored_eq_of_refused hf⟩
  · intro i hi m _ _ network who
    exact Issuer.obtain_client network who hi

/-! ### A request that fails, and one that serves two -/

/-- An answer that grants a token for a hundred seconds. -/
def sampleGrant : Http.Exchange :=
  .answered ⟨200⟩ (some (Utf8.encode "[\"t\", 100]".toList))

/-- The request of the first caller fails, the second makes its own, the third takes what that
brought, and for the fourth the margin has begun. -/
def renewedRun : List Event :=
  [.come, .come, .enter 0 .epoch, .learn 0 .epoch (.failed "offline"), .enter 1 .epoch,
    .learn 1 .epoch sampleGrant, .come, .enter 2 (.ofMillis 39999), .come,
    .enter 3 (.ofMillis 40000)]

theorem reuse_renewed :
    ∃ d, Desk.empty.run? renewedRun = some d ∧
      [0, 1, 2, 3].map d.told? =
        [some (.error (.unanswered "offline")), some (.ok "t"), some (.ok "t"), none] ∧
      d.stored = some ⟨"t", .ofMillis 100000⟩ ∧ ReuseSpec renewedRun d := by
  have h : (Desk.empty.run? renewedRun).map (fun d => ([0, 1, 2, 3].map d.told?, d.stored)) =
      some ([some (.error (.unanswered "offline")), some (.ok "t"), some (.ok "t"), none],
        some ⟨"t", .ofMillis 100000⟩) := by
    decide +kernel
  obtain ⟨d, hd, htold⟩ := Option.map_eq_some_iff.mp h
  exact ⟨d, hd, congrArg Prod.fst htold, congrArg Prod.snd htold, reuse_of_run hd⟩

end Desk

end Signpost.Token
