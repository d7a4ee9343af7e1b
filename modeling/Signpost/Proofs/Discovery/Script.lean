import Signpost.Proofs.Discovery.Journal
import Signpost.Proofs.Json.Bytes
import Signpost.Proofs.Json.Records
import Signpost.Proofs.Retry.Attempts

/-! # Fetches that follow a script

A script tells what every attempt of a fetch meets: how its token is obtained and how its request
ends. The fetch ends with the first attempt that is served a listing, or with the fault of the last
one; it asks for one token an attempt, sends nothing without a token, and counts every attempt by
how it ended. -/

namespace Signpost.Discovery

open Retry (Course Exhausted IsFirstSuccess Policy Verdict)
open Listing (Record Report)

/-! ## Single attempts -/

/-- What an attempt meets. -/
structure Encounter where
  token : Except Token.Fault String
  exchange : Http.Exchange

/-- Whether a body can be read and is a list of records. -/
def IsListing (body : Option (List UInt8)) (records : List Record) : Prop :=
  ∃ bytes value, body = some bytes ∧ Json.parseBytes bytes = some value ∧
    Listing.recordsOfJson? value = some records

/-- How an attempt ends: the first of token, request, status and body that is amiss decides. -/
inductive Encounter.Ends : Encounter → Except FetchFault (List Record) → Prop where
  | refused (fault exchange) : Ends ⟨.error fault, exchange⟩ (.error (.token fault.message))
  | unanswered (token text) : Ends ⟨.ok token, .failed text⟩ (.error (.transport text))
  | turnedDown (token status body) (hs : ¬(200 ≤ status.code ∧ status.code < 300)) :
      Ends ⟨.ok token, .answered status body⟩ (.error (.status status))
  | garbled (token status body) (hs : 200 ≤ status.code ∧ status.code < 300)
      (hb : ∀ records, ¬IsListing body records) :
      Ends ⟨.ok token, .answered status body⟩
        (.error (.decode "error decoding response body"))
  | served (token status body records) (hs : 200 ≤ status.code ∧ status.code < 300)
      (hb : IsListing body records) : Ends ⟨.ok token, .answered status body⟩ (.ok records)

/-- What an attempt asks for and sends. -/
def Encounter.deeds (url : String) (e : Encounter) : List Deed :=
  match e.token with
  | .error fault => [.asked (.error fault)]
  | .ok token => [.asked (.ok token), .sent (request url token) e.exchange]

/-- The result of an attempt. -/
def Encounter.result (e : Encounter) : Except FetchFault (List Record) :=
  match e.token with
  | .error fault => .error (.token fault.message)
  | .ok _ => readListing e.exchange

theorem isListing_iff {body : Option (List UInt8)} {records : List Record} :
    IsListing body records ↔
      (body.bind Json.parseBytes).bind Listing.recordsOfJson? = some records := by
  simp only [IsListing, Option.bind_eq_some_iff]
  constructor
  · rintro ⟨bytes, value, rfl, hvalue, hrecords⟩
    exact ⟨value, ⟨bytes, rfl, hvalue⟩, hrecords⟩
  · rintro ⟨value, ⟨bytes, rfl, hvalue⟩, hrecords⟩
    exact ⟨bytes, value, rfl, hvalue, hrecords⟩

/-- The bytes of a list of records are read as that list. -/
theorem isListing_encode (records : List Record) :
    IsListing (some (Utf8.encode
      (Json.Value.array (records.map Record.toJson)).toString.toList)) records := by
  rw [isListing_iff, Option.bind_some, Json.parseBytes_encode]
  exact Listing.restores_records records

theorem Encounter.ends_result (e : Encounter) : e.Ends e.result := by
  obtain ⟨token, exchange⟩ := e
  cases token with
  | error fault => exact .refused fault exchange
  | ok token =>
      cases exchange with
      | failed text => exact .unanswered token text
      | answered status body =>
          have hsuccess : status.isSuccess = true ↔ 200 ≤ status.code ∧ status.code < 300 := by
            simp [Http.Status.isSuccess]
          by_cases hs : status.isSuccess = true
          · cases hb : (body.bind Json.parseBytes).bind Listing.recordsOfJson? with
            | none =>
                simp only [result, readListing, hs, hb, ↓reduceIte]
                refine .garbled token status body (hsuccess.mp hs) fun records hr => ?_
                rw [isListing_iff, hb] at hr
                cases hr
            | some records =>
                simp only [result, readListing, hs, hb, ↓reduceIte]
                exact .served token status body records (hsuccess.mp hs) (isListing_iff.mpr hb)
          · simp only [result, readListing, hs]
            exact .turnedDown token status body (mt hsuccess.mpr hs)

/-! ## Whole scripts -/

/-- Surroundings that follow a script. They hold the number of the attempt; what is drawn behind an
attempt is whatever it is. -/
def following (script : Nat → Encounter) (draw : Nat → Nat) : Surroundings (StateM Nat) where
  token n := ((script (n + 1)).token, n + 1)
  send _ n := ((script n).exchange, n)
  draw n := (draw n, n)
  pause _ := pure ()

/-- What a fetch that follows a script ends with and counts, and what it asks for in order. -/
def followed (script : Nat → Encounter) (draw : Nat → Nat) (p : Policy) (url : String) :
    Report × List Deed :=
  let (r, deeds, _) := (fetchAll (following script draw).journaled p url).run ([], 0)
  (r, deeds)

/-- The deeds of the attempts below a number, each with the wait behind it. -/
def deedsBelow (script : Nat → Encounter) (draw : Nat → Nat) (p : Policy) (url : String) (n : Nat) :
    List Deed :=
  (List.range' 1 (n - 1)).flatMap fun k => (script k).deeds url ++ resting p (draw k) k

section

variable {script : Nat → Encounter} {draw : Nat → Nat} {p : Policy} {url : String}

theorem deedsBelow_succ {n : Nat} (hn : 1 ≤ n) :
    deedsBelow script draw p url (n + 1) =
      deedsBelow script draw p url n ++ (script n).deeds url ++ resting p (draw n) n := by
  obtain ⟨n, rfl⟩ := Nat.exists_eq_add_of_le' hn
  simp [deedsBelow, List.range'_1_concat, Nat.add_comm]

theorem exec_attempt_following (before : List Deed) (n : Nat) :
    (noting Nat).exec (attempt (following script draw).journaled url) (before, n) =
      ((script (n + 1)).result, (before ++ (script (n + 1)).deeds url, n + 1)) := by
  have htoken : (noting Nat).exec (following script draw).journaled.token (before, n) =
      ((script (n + 1)).token, (before ++ [.asked (script (n + 1)).token], n + 1)) := rfl
  rw [attempt, (noting Nat).exec_bind_eq htoken, Encounter.result, Encounter.deeds]
  cases (script (n + 1)).token with
  | error fault => rfl
  | ok token =>
      have hsend : (noting Nat).exec
          ((following script draw).journaled.send (request url token))
          (before ++ [.asked (.ok token)], n + 1) = _ :=
        exec_noted (.sent (request url token)) _ _ (n + 1)
      refine ((noting Nat).exec_bind_eq hsend).trans ?_
      rw [List.append_assoc]
      rfl

theorem exec_countedAttempt_following (made : Attempts) (before : List Deed) (n : Nat) :
    (counting Nat).exec (countedAttempt (following script draw).journaled url)
        (made, (before, n)) =
      ((script (n + 1)).result, (made.count (script (n + 1)).result,
        (before ++ (script (n + 1)).deeds url, n + 1))) := by
  have hlift := Execution.exec_lift (noting Nat)
    (attempt (following script draw).journaled url) made (before, n)
  rw [exec_attempt_following] at hlift
  exact (counting Nat).exec_bind_eq hlift

/-- A policy without jitter draws nothing and waits as if it had drawn anything. -/
theorem exec_drawing_following (script : Nat → Encounter) (draw : Nat → Nat) (p : Policy)
    (made : Attempts) (before : List Deed) (n : Nat) :
    ∃ drawn, p.waitAfter drawn n = p.waitAfter (draw n) n ∧
      (counting Nat).exec (p.drawing (following script draw).journaled.counted)
        (made, (before, n)) =
      (drawn, (made, (before ++ (if p.jitter then [.drew (draw n)] else []), n))) := by
  unfold Policy.drawing
  cases hj : p.jitter with
  | true =>
      refine ⟨draw n, rfl, ?_⟩
      exact Execution.exec_lift (noting Nat) (following script draw).journaled.draw made (before, n)
  | false =>
      refine ⟨0, by simp [Policy.waitAfter, hj], ?_⟩
      simp [(counting Nat).exec_pure]

/-- Behind an attempt there is the wait of its draw. -/
theorem exec_rest_following {made : Attempts} {before : List Deed} {n drawn : Nat}
    {w₂ w₃ : Attempts × List Deed × Nat}
    (hd : (counting Nat).exec (p.drawing (following script draw).journaled.counted)
      (made, (before, n)) = (drawn, w₂))
    (hp : (counting Nat).exec
      ((following script draw).journaled.counted.pause (p.waitAfter drawn n)) w₂ = ((), w₃)) :
    w₃ = (made, (before ++ resting p (draw n) n, n)) := by
  obtain ⟨drawn', hwait, hdrew⟩ := exec_drawing_following script draw p made before n
  obtain ⟨rfl, rfl⟩ := Prod.mk.inj (hdrew.symm.trans hd)
  rw [hwait] at hp
  have hpause := Execution.exec_lift (noting Nat)
    ((following script draw).journaled.pause (p.waitAfter (draw n) n)) made
    (before ++ (if p.jitter then [.drew (draw n)] else []), n)
  obtain ⟨-, rfl⟩ := Prod.mk.inj (hpause.symm.trans hp)
  rw [resting, ← List.append_assoc]
  rfl

end

/-! ## Whole fetches -/

/-- The last attempt of a fetch and what is reported. The attempts before it failed, and the fetch
ends at a listing or at the limit. -/
inductive FetchEnds (limit : Nat) (script : Nat → Encounter) : Nat → Report → Prop where
  | success {last records} (hpos : 1 ≤ last) (hle : last ≤ limit)
      (hfailed : ∀ n, 1 ≤ n → n < last → ∃ fault, (script n).Ends (.error fault))
      (hserved : (script last).Ends (.ok records)) :
      FetchEnds limit script last
        ⟨.ok (Listing.entries records), last - 1, 1, Listing.dropped records⟩
  | exhaustion {fault}
      (hfailed : ∀ n, 1 ≤ n → n ≤ limit → ∃ fault, (script n).Ends (.error fault))
      (hlast : (script limit).Ends (.error fault)) :
      FetchEnds limit script limit ⟨.error (.fetch limit fault), limit, 0, 0⟩

theorem FetchEnds.of_verdict {limit last : Nat} {script : Nat → Encounter}
    {outcome : Except (Exhausted FetchFault) (List Record)} (hlimit : 1 ≤ limit)
    (h : Verdict limit (fun n => (script n).result) last outcome) :
    FetchEnds limit script last
      (report outcome (({ failed := last - 1 } : Attempts).count (script last).result)) := by
  have hends {n : Nat} {result} (hr : (script n).result = result) : (script n).Ends result :=
    hr ▸ (script n).ends_result
  cases h with
  | success hfirst hle ha =>
      rw [ha]
      refine .success hfirst.pos hle ?_ (hends ha)
      intro n hn hlt
      obtain ⟨fault, hfault⟩ := hfirst.failed n hn hlt
      exact ⟨fault, hends hfault⟩
  | @exhaustion fault hfailed he =>
      have hreport : report (.error ⟨limit, fault⟩)
          (({ failed := limit - 1 } : Attempts).count (script limit).result) =
          ⟨.error (.fetch limit fault), limit, 0, 0⟩ := by
        simp [he, report, Attempts.count, Nat.sub_add_cancel hlimit]
      rw [hreport]
      refine .exhaustion ?_ (hends he)
      intro n hn hle
      obtain ⟨fault, hfault⟩ := hfailed n hn hle
      exact ⟨fault, hends hfault⟩

/-- Whether a token is asked for. -/
def Deed.isAsked : Deed → Bool
  | .asked _ => true
  | _ => false

@[simp] theorem countP_isAsked_deeds (url : String) (e : Encounter) :
    (e.deeds url).countP Deed.isAsked = 1 := by
  unfold Encounter.deeds
  cases e.token <;> rfl

@[simp] theorem countP_isAsked_resting (p : Policy) (draw n : Nat) :
    (resting p draw n).countP Deed.isAsked = 0 := by
  unfold resting
  cases p.jitter <;> rfl

theorem countP_isAsked_deedsBelow (script : Nat → Encounter) (draw : Nat → Nat) (p : Policy)
    (url : String) (n : Nat) :
    (deedsBelow script draw p url (n + 1)).countP Deed.isAsked = n := by
  induction n with
  | zero => rfl
  | succ n ih =>
      rw [deedsBelow_succ (Nat.le_add_left 1 n), List.countP_append, List.countP_append, ih,
        countP_isAsked_deeds, countP_isAsked_resting]

theorem followed_eq (script : Nat → Encounter) (draw : Nat → Nat) (p : Policy) (url : String) :
    followed script draw p url =
      let run := (counting Nat).exec
        (p.run (following script draw).journaled.counted
          fun _ => countedAttempt (following script draw).journaled url) ({}, ([], 0))
      (report run.1 run.2.1, run.2.2.1) :=
  rfl

/-- What is promised of a fetch that follows a script: how it ends, what it does in which order, and
that it asks for one token an attempt. -/
structure FetchSpec (script : Nat → Encounter) (draw : Nat → Nat) (p : Policy) (url : String)
    (last : Nat) (report : Report) (deeds : List Deed) : Prop where
  ends : FetchEnds (max 1 p.maxAttempts.toNat) script last report
  deeds_eq : deeds = deedsBelow script draw p url last ++ (script last).deeds url
  tokens : deeds.countP Deed.isAsked = last

/-- A fetch makes the attempts of its script up to the first one that is served a listing, but no
more than its policy allows. -/
theorem followed_exact (script : Nat → Encounter) (draw : Nat → Nat) (p : Policy) (url : String) :
    ∃ last, FetchSpec script draw p url last (followed script draw p url).1
      (followed script draw p url).2 := by
  have hlimit : p.attempts = max 1 p.maxAttempts.toNat := Nat.max_comm _ _
  have hpos : 1 ≤ p.attempts := Nat.le_max_right _ _
  have hc := Course.of_run (counting Nat) p (following script draw).journaled.counted
    (fun _ => countedAttempt (following script draw).journaled url) ({}, ([], 0))
  obtain ⟨last, hverdict, hstate⟩ := hc.verdict
    (fun n => (script n).result)
    (fun n w => w = ({ failed := n - 1 }, (deedsBelow script draw p url n, n - 1)))
    (fun n w => w = (({ failed := n - 1 } : Attempts).count (script n).result,
      (deedsBelow script draw p url n ++ (script n).deeds url, n)))
    (by
      rintro n _ hn rfl
      obtain ⟨n, rfl⟩ := Nat.exists_eq_add_of_le' hn
      exact ⟨_, exec_countedAttempt_following _ _ n, rfl⟩)
    (by
      rintro n _ drawn w₂ w₃ fault hn rfl he hd hp
      rw [exec_rest_following hd hp, ← deedsBelow_succ hn, he]
      simp [Attempts.count, Nat.sub_add_cancel hn])
    (Nat.le_refl 1) hpos rfl (fun k hk hlt => by omega)
  have hlast := (hverdict.pos_and_le hpos).1
  rw [followed_eq]
  simp only [hstate]
  refine ⟨last, hlimit ▸ .of_verdict hpos hverdict, rfl, ?_⟩
  obtain ⟨n, rfl⟩ := Nat.exists_eq_add_of_le' hlast
  rw [List.countP_append, countP_isAsked_deedsBelow, countP_isAsked_deeds]

end Signpost.Discovery
