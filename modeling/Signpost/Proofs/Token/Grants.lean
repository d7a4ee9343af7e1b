import Mathlib.Data.Option.Basic
import Signpost.Token.Basic

/-! # What a token request brings

A request brings a token if it is answered with success, the answer reads as a grant, and the
granted lifetime ends at an instant. The token then expires exactly that lifetime after the answer,
whatever the number of seconds. Every other end of a request is refused for one of four reasons. -/

namespace Signpost.Token

/-! ## Grants -/

/-- The request was answered with success, and the body reads as this grant. -/
inductive Grants : Http.Exchange → Grant → Prop where
  | intro {status bytes value grant} (hs : 200 ≤ status.code ∧ status.code < 300)
      (hv : Json.parseBytes bytes = some value) (hg : Grant.ofJson? value = some grant) :
      Grants (.answered status (some bytes)) grant

/-- The end of a granted lifetime in nanoseconds, whether or not there is such an instant. -/
def Grant.endNs (grant : Grant) (now : Time.Instant) : Int :=
  now.ns + grant.seconds * 1000000000

/-- Whether a lifetime that begins now ends at an instant. -/
def Grant.InRange (grant : Grant) (now : Time.Instant) : Prop :=
  Time.earliestNs ≤ grant.endNs now ∧ grant.endNs now ≤ Time.latestNs

/-- An exchange that ended now brings the token of a grant. -/
def Brings (now : Time.Instant) (exchange : Http.Exchange) (grant : Grant) : Prop :=
  Grants exchange grant ∧ grant.InRange now

/-- The four ways in which a request ends without a token. -/
inductive Refused (now : Time.Instant) : Http.Exchange → Fault → Prop where
  | unanswered (text) : Refused now (.failed text) (.unanswered text)
  | status {status body} (hs : ¬(200 ≤ status.code ∧ status.code < 300)) :
      Refused now (.answered status body) (.status status)
  | unreadable {status body} (hs : 200 ≤ status.code ∧ status.code < 300)
      (hg : ∀ grant, ¬Grants (.answered status body) grant) :
      Refused now (.answered status body) .unreadable
  | lifetime {exchange grant} (hg : Grants exchange grant) (hr : ¬grant.InRange now) :
      Refused now exchange (.lifetime grant.seconds)

/-- An answer grants what its body reads as, if its status is a success. -/
theorem grants_answered_iff {status : Http.Status} {body : Option (List UInt8)} {grant : Grant} :
    Grants (.answered status body) grant ↔
      (200 ≤ status.code ∧ status.code < 300) ∧
        (body.bind Json.parseBytes).bind Grant.ofJson? = some grant := by
  constructor
  · rintro ⟨hs, hv, hg⟩
    exact ⟨hs, by simp [hv, hg]⟩
  · rintro ⟨hs, hb⟩
    obtain ⟨value, hv, hg⟩ := Option.bind_eq_some_iff.mp hb
    obtain ⟨bytes, rfl, hv⟩ := Option.bind_eq_some_iff.mp hv
    exact ⟨hs, hv, hg⟩

/-! ## Lifetimes -/

/-- The token of a grant expires exactly where its lifetime ends. No lifetime that ends at an
instant is too long for a span. -/
theorem Grant.token?_eq_some_iff {grant : Grant} {now : Time.Instant} {token : Token} :
    grant.token? now = some token ↔
      token.text = grant.text ∧ token.expiresAt.ns = grant.endNs now := by
  have hlow := now.earliest_le
  have hhigh := now.le_latest
  unfold token? endNs
  constructor
  · intro h
    obtain ⟨lifetime, hl, h⟩ := Option.bind_eq_some_iff.mp h
    obtain ⟨expiresAt, he, h⟩ := Option.bind_eq_some_iff.mp h
    obtain rfl := Option.some.inj h
    rw [Time.Span.ofSeconds?, Time.Span.ofNs?_eq_some_iff] at hl
    rw [Time.Instant.add?, Time.Instant.ofNs?_eq_some_iff, hl] at he
    exact ⟨rfl, he⟩
  · rintro ⟨htext, hend⟩
    have hmin := token.expiresAt.earliest_le
    have hmax := token.expiresAt.le_latest
    obtain ⟨lifetime, hl⟩ : ∃ lifetime : Time.Span,
        lifetime.ns = grant.seconds * 1000000000 := by
      refine ⟨⟨grant.seconds * 1000000000, ?_, ?_⟩, rfl⟩ <;>
        simp only [Time.earliestNs, Time.latestNs, Time.maxSpanMs] at * <;> omega
    refine Option.bind_eq_some_iff.mpr ⟨lifetime, Time.Span.ofNs?_eq_some_iff.mpr hl, ?_⟩
    refine Option.bind_eq_some_iff.mpr ⟨token.expiresAt, ?_, ?_⟩
    · rw [Time.Instant.add?, Time.Instant.ofNs?_eq_some_iff, hl, hend]
    · rw [← htext]

theorem Grant.inRange_iff {grant : Grant} {now : Time.Instant} :
    grant.InRange now ↔ ∃ token, grant.token? now = some token := by
  constructor
  · intro hr
    exact ⟨⟨grant.text, ⟨grant.endNs now, hr.1, hr.2⟩⟩, token?_eq_some_iff.mpr ⟨rfl, rfl⟩⟩
  · rintro ⟨token, ht⟩
    obtain ⟨-, hend⟩ := token?_eq_some_iff.mp ht
    exact ⟨hend ▸ token.expiresAt.earliest_le, hend ▸ token.expiresAt.le_latest⟩

/-! ## The end of a request -/

theorem ofExchange_of_grants {now : Time.Instant} {exchange : Http.Exchange} {grant : Grant}
    (hg : Grants exchange grant) :
    ofExchange now exchange = (grant.token? now).elim (.error (.lifetime grant.seconds)) .ok := by
  cases exchange with
  | failed text => cases hg
  | answered status body =>
      obtain ⟨hs, hb⟩ := grants_answered_iff.mp hg
      have hsuccess : status.isSuccess = true := by simpa [Http.Status.isSuccess] using hs
      simp only [ofExchange, hsuccess, ↓reduceIte, hb]
      cases grant.token? now <;> rfl

/-- A request is refused with the fault of its reason. -/
theorem Refused.ofExchange_eq {now : Time.Instant} {exchange : Http.Exchange} {fault : Fault}
    (h : Refused now exchange fault) : ofExchange now exchange = .error fault := by
  cases h with
  | unanswered text => rfl
  | @status status body hs =>
      have hsuccess : status.isSuccess = false := by
        rw [Bool.eq_false_iff]
        simpa [Http.Status.isSuccess] using hs
      simp [ofExchange, hsuccess]
  | @unreadable status body hs hg =>
      have hsuccess : status.isSuccess = true := by simpa [Http.Status.isSuccess] using hs
      have hb : (body.bind Json.parseBytes).bind Grant.ofJson? = none :=
        Option.eq_none_iff_forall_ne_some.mpr fun grant hb =>
          hg grant (grants_answered_iff.mpr ⟨hs, hb⟩)
      simp [ofExchange, hsuccess, hb]
  | @lifetime _ grant hg hr =>
      have hn : grant.token? now = none :=
        Option.eq_none_iff_forall_ne_some.mpr fun token ht => hr (Grant.inRange_iff.mpr ⟨token, ht⟩)
      rw [ofExchange_of_grants hg, hn]
      rfl

/-- Every request brings a token or is refused. -/
theorem brings_or_refused (now : Time.Instant) (exchange : Http.Exchange) :
    (∃ grant, Brings now exchange grant) ∨ ∃ fault, Refused now exchange fault := by
  by_cases hg : ∃ grant, Grants exchange grant
  · obtain ⟨grant, hg⟩ := hg
    by_cases hr : grant.InRange now
    · exact .inl ⟨grant, hg, hr⟩
    · exact .inr ⟨_, .lifetime hg hr⟩
  · rw [not_exists] at hg
    refine .inr ?_
    cases exchange with
    | failed text => exact ⟨_, .unanswered text⟩
    | answered status body =>
        by_cases hs : 200 ≤ status.code ∧ status.code < 300
        · exact ⟨_, .unreadable hs hg⟩
        · exact ⟨_, .status hs⟩

/-- A token that a request brings has the text and the end of the grant. -/
theorem ofExchange_eq_ok_iff {now : Time.Instant} {exchange : Http.Exchange} {token : Token} :
    ofExchange now exchange = .ok token ↔
      ∃ grant, Brings now exchange grant ∧ token.text = grant.text ∧
        token.expiresAt.ns = grant.endNs now := by
  constructor
  · intro h
    rcases brings_or_refused now exchange with ⟨grant, hb⟩ | ⟨fault, hf⟩
    · obtain ⟨token', ht⟩ := Grant.inRange_iff.mp hb.2
      rw [ofExchange_of_grants hb.1, ht] at h
      obtain rfl : token' = token := Except.ok.inj h
      exact ⟨grant, hb, Grant.token?_eq_some_iff.mp ht⟩
    · rw [hf.ofExchange_eq] at h
      cases h
  · rintro ⟨grant, hb, ht⟩
    rw [ofExchange_of_grants hb.1, Grant.token?_eq_some_iff.mpr ht]
    rfl

theorem ofExchange_eq_error_iff {now : Time.Instant} {exchange : Http.Exchange} {fault : Fault} :
    ofExchange now exchange = .error fault ↔ Refused now exchange fault := by
  refine ⟨?_, Refused.ofExchange_eq⟩
  intro h
  rcases brings_or_refused now exchange with ⟨grant, hb⟩ | ⟨fault', hf⟩
  · obtain ⟨token, ht⟩ := Grant.inRange_iff.mp hb.2
    rw [ofExchange_of_grants hb.1, ht] at h
    cases h
  · rw [hf.ofExchange_eq] at h
    exact Except.error.inj h ▸ hf

theorem Refused.not_brings {now : Time.Instant} {exchange : Http.Exchange} {fault : Fault}
    (hf : Refused now exchange fault) (grant : Grant) : ¬Brings now exchange grant := by
  intro hb
  have herror := hf.ofExchange_eq
  obtain ⟨token, ht⟩ := Grant.inRange_iff.mp hb.2
  rw [ofExchange_of_grants hb.1, ht] at herror
  cases herror

/-- What a request brings is told by how it ended. -/
theorem Brings.grant_eq {now : Time.Instant} {exchange : Http.Exchange} {grant grant' : Grant}
    (hb : Brings now exchange grant) (hb' : Brings now exchange grant') : grant = grant' := by
  obtain ⟨⟨-, hv, hg⟩, -⟩ := hb
  obtain ⟨⟨-, hv', hg'⟩, -⟩ := hb'
  obtain rfl := Option.some.inj (hv.symm.trans hv')
  exact Option.some.inj (hg.symm.trans hg')

/-! ## The margin -/

/-- The margin as a span. -/
def margin : Time.Span :=
  ⟨marginNs, by decide, by decide⟩

/-- Whether a token is still valid is told by comparing instants, unless the latest instant is
nearer than the margin. -/
theorem exists_add_margin {now : Time.Instant} (hnow : now.ns + marginNs ≤ Time.latestNs)
    (token : Token) :
    ∃ later, now.add? margin = some later ∧
      token.isValid now = decide (later < token.expiresAt) := by
  have hlow : Time.earliestNs ≤ now.ns + marginNs := by
    have hmargin : 0 ≤ marginNs := by decide
    have := now.earliest_le
    omega
  exact ⟨⟨now.ns + marginNs, hlow, hnow⟩, Time.Instant.ofNs?_eq_some_iff.mpr rfl, rfl⟩

end Signpost.Token
