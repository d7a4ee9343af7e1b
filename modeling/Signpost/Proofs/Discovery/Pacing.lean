import Mathlib.Algebra.Order.BigOperators.Group.List
import Mathlib.Algebra.Order.Ring.Nat
import Signpost.Proofs.Discovery.Endpoint
import Signpost.Proofs.Discovery.Journal
import Signpost.Proofs.Retry.Delays
import Signpost.Proofs.Settings.Check

/-! # The pace of a fetch

Under checked settings a fetch makes no more attempts than they say and waits once after each failed
attempt but the last. A wait lies between half of a delay and all of it, in whole milliseconds,
where the delay is computed in numbers without bounds. -/

namespace Signpost

open Retry (Exhausted Policy)
open Listing (Record)

/-! ## Delays of settings -/

namespace Settings.Directory

/-- The delay after an attempt in milliseconds, from which the wait is drawn. -/
def backoffMillis (d : Directory) (n : Nat) : Nat :=
  match d.backoff with
  | .fixed => d.delayMillis.toNat
  | .exponential => min d.maxDelayMillis.toNat (d.delayMillis.toNat * 2 ^ (n - 1))

/-- The milliseconds of a wait after an attempt at a draw. -/
def drawnMillis (d : Directory) (draw n : Nat) : Nat :=
  d.backoffMillis n / 2 + draw % (d.backoffMillis n - d.backoffMillis n / 2 + 1)

variable {d : Directory}

theorem attempts_policy (h : 1 ≤ d.attempts.toNat) : d.policy.attempts = d.attempts.toNat :=
  Nat.max_eq_left h

theorem backoffMillis_le (hd : d.delayMillis ≤ d.maxDelayMillis) (n : Nat) :
    d.backoffMillis n ≤ d.maxDelayMillis.toNat := by
  unfold backoffMillis
  cases d.backoff with
  | fixed => exact UInt64.le_iff_toNat_le.mp hd
  | exponential => exact Nat.min_le_left _ _

theorem drawnMillis_range (d : Directory) (draw n : Nat) :
    d.backoffMillis n / 2 ≤ d.drawnMillis draw n ∧ d.drawnMillis draw n ≤ d.backoffMillis n :=
  Policy.drawn_bounds _ _

/-- Within the first thirty-two attempts no limit of a number shows in a delay. -/
theorem delayFor_policy (hd : d.delayMillis ≤ d.maxDelayMillis) {n : Nat} (hn : n ≤ 32) :
    (d.policy.delayFor n).ns = d.backoffMillis n * 1000000 := by
  have hle := UInt64.le_iff_toNat_le.mp hd
  rw [Policy.delayFor_ns]
  unfold backoffMillis policy
  cases d.backoff with
  | fixed =>
      simp only [Time.Delay.ofMillis_ns]
      omega
  | exponential =>
      have hpow : 2 ^ (n - 1) ≤ 2 ^ 31 := Nat.pow_le_pow_right (by decide) (by omega)
      have hfactor : min (2 ^ (n - 1)) (2 ^ 32 - 1) = 2 ^ (n - 1) := by omega
      have hproduct : d.delayMillis.toNat * 1000000 * 2 ^ (n - 1) =
          d.delayMillis.toNat * 2 ^ (n - 1) * 1000000 := Nat.mul_right_comm _ _ _
      simp only [Time.Delay.ofMillis_ns, hfactor, hproduct]
      omega

theorem waitAfter_policy (hd : d.delayMillis ≤ d.maxDelayMillis) {n : Nat} (hn : n ≤ 32)
    (draw : Nat) : (d.policy.waitAfter draw n).ns = d.drawnMillis draw n * 1000000 := by
  have hlt : d.backoffMillis n < 2 ^ 64 :=
    (backoffMillis_le hd n).trans_lt d.maxDelayMillis.toNat_lt
  have hjitter : d.policy.jitter = true := rfl
  rw [Policy.waitAfter, if_pos hjitter, Policy.jittered_ns,
    Time.Delay.millis64_toNat_of_ns (delayFor_policy hd hn) hlt, drawnMillis]

end Settings.Directory

namespace Discovery

/-! ## The waits of a journal -/

/-- A wait, the draw made for it, and the attempt behind which it stands. -/
structure Wait where
  attempt : Nat
  draw : Nat
  delay : Time.Delay

/-- The number of attempts in a journal; each of them asks for one token. -/
def attemptsIn (journal : List Deed) : Nat :=
  journal.countP fun
    | .asked _ => true
    | _ => false

/-- The waits of a journal that goes on behind a number of attempts and a draw. -/
def waitsFrom : Nat → Nat → List Deed → List Wait
  | _, _, [] => []
  | n, draw, .asked _ :: journal => waitsFrom (n + 1) draw journal
  | n, draw, .sent _ _ :: journal => waitsFrom n draw journal
  | n, _, .drew draw :: journal => waitsFrom n draw journal
  | n, draw, .paused delay :: journal => ⟨n, draw, delay⟩ :: waitsFrom n draw journal

def waits (journal : List Deed) : List Wait :=
  waitsFrom 0 0 journal

/-- What settings promise of the journal of a fetch: one wait after every attempt but the last, each
as long as its draw says. -/
structure PacedBy (d : Settings.Directory) (journal : List Deed) : Prop where
  attempts_pos : 1 ≤ attemptsIn journal
  attempts_le : attemptsIn journal ≤ d.attempts.toNat
  waits_eq : (waits journal).map Wait.attempt = List.range' 1 (attemptsIn journal - 1)
  delay_eq : ∀ wait ∈ waits journal,
    wait.delay.ns = d.drawnMillis wait.draw wait.attempt * 1000000
  range : ∀ wait ∈ waits journal,
    d.backoffMillis wait.attempt / 2 * 1000000 ≤ wait.delay.ns ∧
      wait.delay.ns ≤ d.backoffMillis wait.attempt * 1000000
  total : ((waits journal).map (·.delay.ns)).sum ≤
    (d.attempts.toNat - 1) * (d.maxDelayMillis.toNat * 1000000)

variable {p : Policy} {url : String} {n : Nat} {deeds : List Deed}

@[simp] theorem attemptsIn_append (journal later : List Deed) :
    attemptsIn (journal ++ later) = attemptsIn journal + attemptsIn later :=
  List.countP_append

theorem Visit.attemptsIn_eq {outcome : Except FetchFault (List Record)}
    (hv : Visit url deeds outcome) : attemptsIn deeds = 1 := by
  cases hv <;> rfl

@[simp]
theorem attemptsIn_resting (p : Policy) (draw n : Nat) : attemptsIn (resting p draw n) = 0 := by
  unfold resting
  cases p.jitter <;> rfl

/-- An attempt has no waits. -/
theorem Visit.waitsFrom_append {outcome : Except FetchFault (List Record)}
    (hv : Visit url deeds outcome) (n draw : Nat) (later : List Deed) :
    waitsFrom n draw (deeds ++ later) = waitsFrom (n + 1) draw later := by
  cases hv <;> rfl

theorem Visit.waitsFrom_eq_nil {outcome : Except FetchFault (List Record)}
    (hv : Visit url deeds outcome) (n draw : Nat) : waitsFrom n draw deeds = [] := by
  have h := hv.waitsFrom_append n draw []
  rwa [List.append_nil] at h

theorem waitsFrom_resting (hj : p.jitter = true) (attempt draw draw' n : Nat)
    (later : List Deed) :
    waitsFrom attempt draw (resting p draw' n ++ later) =
      ⟨attempt, draw', p.waitAfter draw' n⟩ :: waitsFrom attempt draw' later := by
  simp [resting, hj, waitsFrom]

variable {outcome : Except (Exhausted FetchFault) (List Record)}

theorem Account.attempts_pos (ha : Account p url n deeds outcome) : 1 ≤ attemptsIn deeds := by
  cases ha with
  | success hv | exhaustion hv => exact hv.attemptsIn_eq.ge
  | retry _ hv _ =>
      rw [List.append_assoc, attemptsIn_append, hv.attemptsIn_eq]
      exact Nat.le_add_right _ _

theorem Account.attempts_le (ha : Account p url n deeds outcome) (hn : n ≤ p.attempts) :
    n + attemptsIn deeds ≤ p.attempts + 1 := by
  induction ha with
  | success hv =>
      rw [hv.attemptsIn_eq]
      omega
  | exhaustion hv => rw [hv.attemptsIn_eq]
  | retry hlt hv _ ih =>
      have := ih (by omega)
      rw [attemptsIn_append, attemptsIn_append, attemptsIn_resting, hv.attemptsIn_eq]
      omega

/-- There is one wait behind each attempt of an account but the last. -/
theorem Account.waits_eq (ha : Account p url (n + 1) deeds outcome) (hj : p.jitter = true)
    (draw : Nat) :
    (waitsFrom n draw deeds).map Wait.attempt = List.range' (n + 1) (attemptsIn deeds - 1) := by
  generalize hfrom : n + 1 = next at ha
  induction ha generalizing n draw with
  | success hv | exhaustion hv =>
      rw [hv.waitsFrom_eq_nil, hv.attemptsIn_eq]
      rfl
  | @retry _ deeds _ draw' later _ _ hv ha ih =>
      subst hfrom
      obtain ⟨k, hk⟩ := Nat.exists_eq_add_of_le' ha.attempts_pos
      have hattempts : attemptsIn (deeds ++ resting p draw' (n + 1) ++ later) - 1 = k + 1 := by
        rw [attemptsIn_append, attemptsIn_append, attemptsIn_resting, hv.attemptsIn_eq, hk]
        omega
      rw [hattempts, List.append_assoc, hv.waitsFrom_append, waitsFrom_resting hj, List.map_cons,
        ih draw' rfl, hk, Nat.add_sub_cancel, List.range'_succ]

/-- Every wait of an account is the one that the policy takes at its draw. -/
theorem Account.delay_eq (ha : Account p url (n + 1) deeds outcome) (hj : p.jitter = true)
    (draw : Nat) {wait : Wait} (hw : wait ∈ waitsFrom n draw deeds) :
    wait.attempt < p.attempts ∧ wait.delay = p.waitAfter wait.draw wait.attempt := by
  generalize hfrom : n + 1 = next at ha
  induction ha generalizing n draw with
  | success hv | exhaustion hv =>
      rw [hv.waitsFrom_eq_nil] at hw
      cases hw
  | @retry _ deeds _ draw' later _ hlt hv ha ih =>
      subst hfrom
      rw [List.append_assoc, hv.waitsFrom_append, waitsFrom_resting hj] at hw
      cases hw with
      | head => exact ⟨hlt, rfl⟩
      | tail _ hw => exact ih draw' hw rfl

end Discovery

/-! ## Checked settings -/

open Discovery

/-- Under settings that pass the check every fetch, whatever its surroundings answer and draw, keeps
to the attempts and the waits that the settings promise. -/
theorem Settings.pacedBy_of_check {s : Settings} (hc : s.check = .ok ()) {σ : Type}
    (surroundings : Discovery.Surroundings (StateM σ)) (url : String) (w : σ) :
    PacedBy s.directory (journal surroundings s.directory.policy url w) := by
  obtain ⟨-, hd, -⟩ := check_eq_ok_iff.mp hc
  obtain ⟨hpos, htwenty⟩ := attempts_of_check hc
  have hpolicy := Directory.attempts_policy hpos
  obtain ⟨outcome, ha⟩ := exists_account surroundings s.directory.policy url w
  generalize journal surroundings s.directory.policy url w = journal at ha ⊢
  have hle : attemptsIn journal ≤ s.directory.attempts.toNat := by
    have := ha.attempts_le (by omega)
    omega
  have hwaits : (waits journal).map Wait.attempt = List.range' 1 (attemptsIn journal - 1) :=
    ha.waits_eq rfl 0
  have hdelay : ∀ wait ∈ waits journal,
      wait.delay.ns = s.directory.drawnMillis wait.draw wait.attempt * 1000000 := by
    intro wait hw
    obtain ⟨hlt, hwait⟩ := ha.delay_eq rfl 0 hw
    rw [hwait]
    exact Directory.waitAfter_policy hd (by omega) wait.draw
  refine ⟨ha.attempts_pos, hle, hwaits, hdelay, ?_, ?_⟩
  · intro wait hw
    obtain ⟨hlow, hhigh⟩ := s.directory.drawnMillis_range wait.draw wait.attempt
    rw [hdelay wait hw]
    exact ⟨Nat.mul_le_mul_right _ hlow, Nat.mul_le_mul_right _ hhigh⟩
  · have hcount : (waits journal).length = attemptsIn journal - 1 := by
      simpa using congrArg List.length hwaits
    have hbound : ∀ ns ∈ (waits journal).map (·.delay.ns),
        ns ≤ s.directory.maxDelayMillis.toNat * 1000000 := by
      intro ns hns
      obtain ⟨wait, hw, rfl⟩ := List.mem_map.mp hns
      have hhigh := (s.directory.drawnMillis_range wait.draw wait.attempt).2
      rw [hdelay wait hw]
      exact Nat.mul_le_mul_right _ (hhigh.trans (Directory.backoffMillis_le hd _))
    have hsum := List.sum_le_card_nsmul _ _ hbound
    rw [List.length_map, hcount, nsmul_eq_mul, Nat.cast_id] at hsum
    exact hsum.trans (Nat.mul_le_mul_right _ (by omega))

/-! ### A fetch without a token -/

/-- Surroundings that have no token and draw ever larger numbers. -/
def Discovery.offline : Surroundings (StateM Nat) where
  token := pure (.error (.unanswered "offline"))
  send _ := pure (.failed "offline")
  draw := fun n => (n, n + 1)
  pause _ := pure ()

/-- Three attempts with two waits, one from the upper half of 100 milliseconds and one from that of
200. -/
theorem Settings.pacedBy_offline :
    (sampleSettings "https://host").check = .ok () ∧
      (waits
        (journal offline (sampleSettings "https://host").directory.policy "https://host" 7)).map
        (fun wait => (wait.attempt, wait.draw, wait.delay.ns)) =
          [(1, 7, 57000000), (2, 8, 108000000)] ∧
      PacedBy (sampleSettings "https://host").directory
        (journal offline (sampleSettings "https://host").directory.policy "https://host" 7) := by
  have hc : (sampleSettings "https://host").check = .ok () := eq_ok_of_toOption (by decide +kernel)
  exact ⟨hc, by decide, pacedBy_of_check hc offline "https://host" 7⟩

end Signpost
