import Signpost.Discovery.Fetch
import Signpost.Proofs.Retry.Course

/-! # The journal of a fetch

A fetch runs in surroundings that may be in any state and answer as they like. Its journal holds
what it asked of them, in order: tokens, requests, draws and waits. -/

namespace Signpost.Discovery

open Retry (Course Exhausted Policy)
open Listing (Record Report)
open Time (Delay)

/-- Something that a fetch asked of its surroundings, with the answer. -/
inductive Deed where
  | asked (result : Except Token.Fault String)
  | sent (request : Http.Request) (exchange : Http.Exchange)
  | drew (draw : Nat)
  | paused (delay : Delay)

variable {σ : Type}

/-- A program that notes its value in a journal. -/
def noted {α : Type} (deed : α → Deed) (x : StateM σ α) : StateM (List Deed × σ) α :=
  fun (journal, w) =>
    let (a, w) := x.run w
    (a, (journal ++ [deed a], w))

/-- Surroundings with a journal of what is asked of them. -/
def Surroundings.journaled (s : Surroundings (StateM σ)) :
    Surroundings (StateM (List Deed × σ)) where
  token := noted .asked s.token
  send request := noted (.sent request) (s.send request)
  draw := noted .drew s.draw
  pause delay := noted (fun _ => .paused delay) (s.pause delay)

/-- The journal of a fetch. -/
def journal (s : Surroundings (StateM σ)) (p : Policy) (url : String) (w : σ) : List Deed :=
  ((fetchAll s.journaled p url).run ([], w)).2.1

/-- The execution of what is noted. -/
def noting (σ : Type) : Execution (StateM (List Deed × σ)) (List Deed × σ) :=
  .ofState _

/-- The execution of what is noted and counted. -/
def counting (σ : Type) :
    Execution (StateT Attempts (StateM (List Deed × σ))) (Attempts × List Deed × σ) :=
  (noting σ).withState Attempts

theorem exec_noted {α : Type} (deed : α → Deed) (x : StateM σ α) (before : List Deed) (w : σ) :
    (noting σ).exec (noted deed x) (before, w) =
      ((x.run w).1, (before ++ [deed (x.run w).1], (x.run w).2)) :=
  rfl

/-! ## Attempts -/

/-- What one attempt does and ends with. Without a token nothing is sent. -/
inductive Visit (url : String) : List Deed → Except FetchFault (List Record) → Prop where
  | refused (fault : Token.Fault) :
      Visit url [.asked (.error fault)] (.error (.token fault.message))
  | answered (token : String) (exchange : Http.Exchange) :
      Visit url [.asked (.ok token), .sent (request url token) exchange] (readListing exchange)

theorem exists_visit (s : Surroundings (StateM σ)) (url : String) (before : List Deed) (w : σ) :
    ∃ deeds outcome w', Visit url deeds outcome ∧
      (noting σ).exec (attempt s.journaled url) (before, w) = (outcome, (before ++ deeds, w')) := by
  have htoken : (noting σ).exec s.journaled.token (before, w) = _ :=
    exec_noted .asked s.token before w
  generalize (s.token.run w).2 = w₁ at htoken
  cases hresult : (s.token.run w).1 with
  | error fault =>
      rw [hresult] at htoken
      refine ⟨_, _, w₁, .refused fault, ?_⟩
      exact (noting σ).exec_bind_eq htoken
  | ok token =>
      rw [hresult] at htoken
      have hsend : (noting σ).exec (s.journaled.send (request url token))
          (before ++ [.asked (.ok token)], w₁) = _ :=
        exec_noted (.sent (request url token)) (s.send (request url token)) _ w₁
      generalize (s.send (request url token)).run w₁ = sent at hsend
      refine ⟨_, _, sent.2, .answered token sent.1, ?_⟩
      rw [attempt, (noting σ).exec_bind_eq htoken]
      refine ((noting σ).exec_bind_eq hsend).trans ?_
      rw [List.append_assoc]
      rfl

/-- An attempt of a fetch is counted by its outcome. -/
theorem exists_countedVisit (s : Surroundings (StateM σ)) (url : String) (made : Attempts)
    (before : List Deed) (w : σ) :
    ∃ deeds outcome w', Visit url deeds outcome ∧
      (counting σ).exec (countedAttempt s.journaled url) (made, (before, w)) =
        (outcome, (made.count outcome, (before ++ deeds, w'))) := by
  obtain ⟨deeds, outcome, w', hv, hexec⟩ := exists_visit s url before w
  refine ⟨deeds, outcome, w', hv, ?_⟩
  have hlift := Execution.exec_lift (noting σ) (attempt s.journaled url) made (before, w)
  rw [hexec] at hlift
  exact (counting σ).exec_bind_eq hlift

/-! ## Waits -/

/-- What is done before an attempt is made again. -/
def resting (p : Policy) (draw n : Nat) : List Deed :=
  (if p.jitter then [.drew draw] else []) ++ [.paused (p.waitAfter draw n)]

theorem exec_drawing (s : Surroundings (StateM σ)) (p : Policy) (made : Attempts)
    (before : List Deed) (w : σ) :
    ∃ draw w', (counting σ).exec (p.drawing s.journaled.counted) (made, (before, w)) =
      (draw, (made, (before ++ (if p.jitter then [.drew draw] else []), w'))) := by
  unfold Policy.drawing
  cases p.jitter with
  | true =>
      refine ⟨(s.draw.run w).1, (s.draw.run w).2, ?_⟩
      exact Execution.exec_lift (noting σ) s.journaled.draw made (before, w)
  | false =>
      refine ⟨0, w, ?_⟩
      simp [(counting σ).exec_pure]

theorem exec_pause (s : Surroundings (StateM σ)) (delay : Delay) (made : Attempts)
    (before : List Deed) (w : σ) :
    ∃ w', (counting σ).exec (s.journaled.counted.pause delay) (made, (before, w)) =
      ((), (made, (before ++ [.paused delay], w'))) :=
  ⟨(s.pause delay).run w |>.2, Execution.exec_lift (noting σ) _ made (before, w)⟩

/-! ## Whole fetches -/

/-- What a fetch does from an attempt on, and what it ends with. -/
inductive Account (p : Policy) (url : String) :
    Nat → List Deed → Except (Exhausted FetchFault) (List Record) → Prop where
  | success {n deeds records} (hv : Visit url deeds (.ok records)) :
      Account p url n deeds (.ok records)
  | exhaustion {deeds fault} (hv : Visit url deeds (.error fault)) :
      Account p url p.attempts deeds (.error ⟨p.attempts, fault⟩)
  | retry {n deeds fault draw later outcome} (hn : n < p.attempts)
      (hv : Visit url deeds (.error fault)) (ha : Account p url (n + 1) later outcome) :
      Account p url n (deeds ++ resting p draw n ++ later) outcome

/-- The journal grows by the account of the attempts that a run makes. -/
theorem Account.of_course {s : Surroundings (StateM σ)} {p : Policy} {url : String} {n : Nat}
    {made : Attempts} {before : List Deed} {w : σ} {state' : Attempts × List Deed × σ}
    {outcome : Except (Exhausted FetchFault) (List Record)}
    (hc : Course (counting σ) p s.journaled.counted (fun _ => countedAttempt s.journaled url) n
      (made, (before, w)) outcome state') :
    ∃ deeds, state'.2.1 = before ++ deeds ∧ Account p url n deeds outcome := by
  generalize hstate : (made, (before, w)) = state at hc
  induction hc generalizing made before w with
  | success hf =>
      obtain rfl := hstate.symm
      obtain ⟨deeds, outcome, w', hv, hexec⟩ := exists_countedVisit s url made before w
      obtain ⟨rfl, rfl⟩ := Prod.mk.inj (hexec.symm.trans hf)
      exact ⟨deeds, rfl, .success hv⟩
  | exhaustion hf =>
      obtain rfl := hstate.symm
      obtain ⟨deeds, outcome, w', hv, hexec⟩ := exists_countedVisit s url made before w
      obtain ⟨rfl, rfl⟩ := Prod.mk.inj (hexec.symm.trans hf)
      exact ⟨deeds, rfl, .exhaustion hv⟩
  | @retry n _ fault w₁ draw w₂ w₃ outcome state' hn hf hd hp _ ih =>
      obtain rfl := hstate.symm
      obtain ⟨deeds, outcome, w', hv, hexec⟩ := exists_countedVisit s url made before w
      obtain ⟨rfl, rfl⟩ := Prod.mk.inj (hexec.symm.trans hf)
      obtain ⟨draw', drawn, hexec⟩ := exec_drawing s p _ _ w'
      obtain ⟨rfl, rfl⟩ := Prod.mk.inj (hexec.symm.trans hd)
      obtain ⟨rested, hexec⟩ := exec_pause s (p.waitAfter draw' n) _ _ drawn
      obtain ⟨-, rfl⟩ := Prod.mk.inj (hexec.symm.trans hp)
      obtain ⟨later, hlater, ha⟩ := ih rfl
      refine ⟨deeds ++ resting p draw' n ++ later, ?_, .retry hn hv ha⟩
      simp [hlater, resting]

/-- The journal of a fetch is the account of its attempts from the first one on. -/
theorem exists_account (s : Surroundings (StateM σ)) (p : Policy) (url : String) (w : σ) :
    ∃ outcome, Account p url 1 (journal s p url w) outcome := by
  obtain ⟨deeds, hdeeds, ha⟩ := Account.of_course
    (Course.of_run (counting σ) p s.journaled.counted (fun _ => countedAttempt s.journaled url)
      ({}, ([], w)))
  obtain rfl : journal s p url w = deeds := hdeeds
  exact ⟨_, ha⟩

end Signpost.Discovery
