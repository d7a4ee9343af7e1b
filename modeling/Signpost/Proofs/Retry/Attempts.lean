import Mathlib.Data.List.Basic
import Mathlib.Data.Nat.Basic
import Mathlib.Logic.Function.Basic
import Mathlib.Order.Basic
import Signpost.Proofs.Retry.Course

/-! # The attempts of a run

A run attempts its operation under the numbers from 1 on, one after the other, until an attempt
succeeds or the last number is reached. It waits once between two attempts and at no other time, and
its numbers fit into 32 bits. -/

namespace Signpost.Retry

open Time (Delay)

variable {m : Type → Type} [Monad m] {S ε α : Type}

/-! ## Where a run ends -/

/-- The first attempt that succeeds. -/
structure IsFirstSuccess (result : Nat → Except ε α) (n : Nat) : Prop where
  pos : 1 ≤ n
  succeeds : ∃ a, result n = .ok a
  failed : ∀ k, 1 ≤ k → k < n → ∃ e, result k = .error e

/-- The last attempt of a run and what the run ends with: the first success within the limit, or
else the error of the attempt at the limit. -/
inductive Verdict (limit : Nat) (result : Nat → Except ε α) :
    Nat → Except (Exhausted ε) α → Prop where
  | success {last a} (hfirst : IsFirstSuccess result last) (hle : last ≤ limit)
      (ha : result last = .ok a) : Verdict limit result last (.ok a)
  | exhaustion {e} (hfailed : ∀ n, 1 ≤ n → n ≤ limit → ∃ e, result n = .error e)
      (he : result limit = .error e) : Verdict limit result limit (.error ⟨limit, e⟩)

theorem Verdict.pos_and_le {limit last : Nat} {result : Nat → Except ε α}
    {outcome : Except (Exhausted ε) α} (h : Verdict limit result last outcome)
    (hlimit : 1 ≤ limit) : 1 ≤ last ∧ last ≤ limit := by
  cases h with
  | success hfirst hle => exact ⟨hfirst.pos, hle⟩
  | exhaustion => exact ⟨hlimit, Nat.le_refl _⟩

/-- What holds before an attempt and after it, and is carried over to the next one by a wait, holds
after the last attempt of a run. -/
theorem Course.verdict {E : Execution m S} {p : Policy} {s : Surroundings m}
    {f : Nat → m (Except ε α)} (result : Nat → Except ε α) (Before After : Nat → S → Prop)
    (attempt : ∀ {n w}, 1 ≤ n → Before n w → ∃ w', E.exec (f n) w = (result n, w') ∧ After n w')
    (wait : ∀ {n w draw w₂ w₃ e}, 1 ≤ n → After n w → result n = .error e →
      E.exec (p.drawing s) w = (draw, w₂) →
      E.exec (s.pause (p.waitAfter draw n)) w₂ = ((), w₃) → Before (n + 1) w₃)
    {n : Nat} {w w' : S} {outcome : Except (Exhausted ε) α} (hc : Course E p s f n w outcome w')
    (hn : 1 ≤ n) (hle : n ≤ p.attempts) (hw : Before n w)
    (hfailed : ∀ k, 1 ≤ k → k < n → ∃ e, result k = .error e) :
    ∃ last, Verdict p.attempts result last outcome ∧ After last w' := by
  induction hc with
  | success hf =>
      obtain ⟨w₁, hexec, hafter⟩ := attempt hn hw
      obtain ⟨ha, rfl⟩ := Prod.mk.inj (hexec.symm.trans hf)
      exact ⟨_, .success ⟨hn, ⟨_, ha⟩, hfailed⟩ hle ha, hafter⟩
  | exhaustion hf =>
      obtain ⟨w₁, hexec, hafter⟩ := attempt hn hw
      obtain ⟨he, rfl⟩ := Prod.mk.inj (hexec.symm.trans hf)
      refine ⟨_, .exhaustion ?_ he, hafter⟩
      intro k hk hkle
      rcases Nat.lt_or_eq_of_le hkle with hlt | rfl
      · exact hfailed k hk hlt
      · exact ⟨_, he⟩
  | @retry n w e w₁ draw w₂ w₃ outcome w' hlt hf hd hp _ ih =>
      obtain ⟨_, hexec, hafter⟩ := attempt hn hw
      obtain ⟨he, rfl⟩ := Prod.mk.inj (hexec.symm.trans hf)
      refine ih (Nat.le_add_left 1 n) hlt (wait hn hafter he hd hp) ?_
      intro k hk hkn
      rcases Nat.lt_or_eq_of_le (Nat.lt_succ_iff.mp hkn) with hk' | rfl
      · exact hfailed k hk hk'
      · exact ⟨e, he⟩

/-! ## Records of runs -/

/-- Something that a run does. -/
inductive Deed where
  | called (attempt : Nat)
  | slept (delay : Delay)
  deriving DecidableEq, Repr

/-- Surroundings that keep a record. What is drawn may depend on all that was done before. -/
def recording (draw : List Deed → Nat) : Surroundings (StateM (List Deed)) where
  pause delay := modify (· ++ [.slept delay])
  draw := do return draw (← get)

/-- An operation with known results, recorded. -/
def scripted (result : Nat → Except ε α) (attempt : Nat) :
    StateM (List Deed) (Except ε α) := do
  modify (· ++ [.called attempt])
  pure (result attempt)

/-- What a run with known results ends with, and its record. -/
def Policy.recorded (p : Policy) (draw : List Deed → Nat) (result : Nat → Except ε α) :
    Except (Exhausted ε) α × List Deed :=
  (p.run (recording draw) (scripted result)).run []

/-- The attempts below a number, each with the wait behind it. -/
def cycles (wait : Nat → Delay) (n : Nat) : List Deed :=
  (List.range' 1 (n - 1)).flatMap fun k => [.called k, .slept (wait k)]

/-- The attempts up to a number, with one wait between each and the next. -/
def alternation (wait : Nat → Delay) (last : Nat) : List Deed :=
  cycles wait last ++ [.called last]

theorem cycles_succ (wait : Nat → Delay) {n : Nat} (hn : 1 ≤ n) :
    cycles wait (n + 1) = alternation wait n ++ [.slept (wait n)] := by
  obtain ⟨n, rfl⟩ := Nat.exists_eq_add_of_le' hn
  simp [cycles, alternation, List.range'_1_concat, Nat.add_comm]

theorem le_of_called_mem {wait : Nat → Delay} {last n : Nat} (hpos : 1 ≤ last)
    (h : .called n ∈ alternation wait last) : n ≤ last := by
  simp only [alternation, cycles, List.mem_append, List.mem_flatMap, List.mem_range'_1,
    List.mem_cons, List.not_mem_nil, or_false, reduceCtorEq] at h
  rcases h with ⟨k, hk, hn⟩ | hn
  · have := Deed.called.inj hn
    omega
  · exact (Deed.called.inj hn).le

theorem cycles_congr {wait wait' : Nat → Delay} {n : Nat} (h : ∀ k < n, wait k = wait' k) :
    cycles wait n = cycles wait' n := by
  unfold cycles
  refine List.flatMap_congr fun k hk => ?_
  rw [List.mem_range'_1] at hk
  rw [h k (by omega)]

/-- The record of a run alternates between attempts and waits, which with jitter are all drawn. -/
theorem exists_alternation (p : Policy) (draw : List Deed → Nat) (result : Nat → Except ε α) :
    ∃ last, Verdict p.attempts result last (p.recorded draw result).1 ∧
      ∃ draws : Nat → Nat, (p.jitter = true → ∀ n, ∃ record, draws n = draw record) ∧
        (p.recorded draw result).2 = alternation (fun n => p.waitAfter (draws n) n) last := by
  have hc := Course.of_run (.ofState (List Deed)) p (recording draw) (scripted result) []
  refine hc.verdict result
    (fun n w => ∃ draws : Nat → Nat, (p.jitter = true → ∀ n, ∃ record, draws n = draw record) ∧
      w = cycles (fun k => p.waitAfter (draws k) k) n)
    (fun n w => ∃ draws : Nat → Nat, (p.jitter = true → ∀ n, ∃ record, draws n = draw record) ∧
      w = alternation (fun k => p.waitAfter (draws k) k) n)
    ?_ ?_ (Nat.le_refl 1) (Nat.le_max_right _ _) ⟨fun _ => draw [], fun _ _ => ⟨[], rfl⟩, rfl⟩
    (fun k hk hlt => by omega)
  · rintro n _ - ⟨draws, hdrawn, rfl⟩
    exact ⟨_, rfl, draws, hdrawn, rfl⟩
  · rintro n _ drawn w₂ w₃ e hn ⟨draws, hdrawn, rfl⟩ - hd hp
    have hsame : w₂ = alternation (fun k => p.waitAfter (draws k) k) n := by
      rw [Policy.drawing] at hd
      split at hd <;> exact (Prod.mk.inj hd).2.symm
    refine ⟨Function.update draws n drawn, fun hj k => ?_, ?_⟩
    · by_cases hk : k = n
      · rw [Policy.drawing, if_pos hj] at hd
        rw [hk, Function.update_self]
        exact ⟨_, (Prod.mk.inj hd).1.symm⟩
      · rw [Function.update_of_ne hk]
        exact hdrawn hj k
    · have hbefore : cycles (fun k => p.waitAfter (Function.update draws n drawn k) k) n =
          cycles (fun k => p.waitAfter (draws k) k) n :=
        cycles_congr fun k hk => by simp [Function.update_of_ne (Nat.ne_of_lt hk)]
      rw [cycles_succ _ hn, alternation, hbefore, Function.update_self, ← (Prod.mk.inj hp).2,
        hsame]
      rfl

/-! ## Attempts numbered in 32 bits -/

@[simp] theorem Policy.toNat_limit (p : Policy) : (max p.maxAttempts 1).toNat = p.attempts := by
  change (if p.maxAttempts ≤ 1 then 1 else p.maxAttempts).toNat = max p.maxAttempts.toNat 1
  have hle : p.maxAttempts ≤ 1 ↔ p.maxAttempts.toNat ≤ 1 := UInt32.le_iff_toNat_le
  split
  next h => exact (Nat.max_eq_right (hle.mp h)).symm
  next h => exact (Nat.max_eq_left (Nat.le_of_not_le (mt hle.mpr h))).symm

theorem Policy.limit_le_iff {p : Policy} {attempt : UInt32} :
    max p.maxAttempts 1 ≤ attempt ↔ p.attempts ≤ attempt.toNat := by
  rw [UInt32.le_iff_toNat_le, p.toNat_limit]

theorem Policy.attempts_lt (p : Policy) : p.attempts < UInt32.size :=
  p.toNat_limit ▸ (max p.maxAttempts 1).toNat_lt

/-- The number behind one below the limit is no smaller. -/
theorem Policy.toNat_add_one {p : Policy} {attempt : UInt32} (h : attempt.toNat < p.attempts) :
    (attempt + 1).toNat = attempt.toNat + 1 := by
  have hlt : attempt.toNat + 1 < UInt32.size := Nat.lt_of_le_of_lt h p.attempts_lt
  rw [UInt32.toNat_add, UInt32.toNat_one]
  exact Nat.mod_eq_of_lt hlt

/-- The attempts from a number on. Numbers have 32 bits, so that zero would come behind the
largest. -/
def Policy.attemptWords (p : Policy) (s : Surroundings m) (f : Nat → m (Except ε α))
    (attempt : UInt32) : m (Except (Exhausted ε) α) := do
  match ← f attempt.toNat with
  | .ok a => pure (.ok a)
  | .error e =>
    if max p.maxAttempts 1 ≤ attempt then pure (.error ⟨attempt.toNat, e⟩)
    else do
      let draw ← p.drawing s
      s.pause (p.waitAfter draw attempt.toNat)
      p.attemptWords s f (attempt + 1)
termination_by p.attempts - attempt.toNat
decreasing_by
  have hlt := Nat.lt_of_not_le (mt Policy.limit_le_iff.mpr ‹_›)
  have hnext := Policy.toNat_add_one hlt
  omega

theorem Policy.attemptFrom_eq_attemptWords (p : Policy) (s : Surroundings m)
    (f : Nat → m (Except ε α)) {left : Nat} {attempt : UInt32}
    (hleft : attempt.toNat + left = p.attempts) :
    p.attemptFrom s f left attempt.toNat = p.attemptWords s f attempt := by
  induction left generalizing attempt with
  | zero =>
      have hlast : max p.maxAttempts 1 ≤ attempt := limit_le_iff.mpr (by omega)
      rw [attemptFrom, attemptWords]
      congr 1
      funext outcome
      cases outcome with
      | ok a => rfl
      | error e => exact (if_pos hlast).symm
  | succ left ih =>
      have hmore : ¬max p.maxAttempts 1 ≤ attempt := mt limit_le_iff.mp (by omega)
      have hnext : (attempt + 1).toNat = attempt.toNat + 1 := toNat_add_one (p := p) (by omega)
      have hrest : p.attemptFrom s f left (attempt + 1).toNat =
          p.attemptWords s f (attempt + 1) := ih (by omega)
      rw [hnext] at hrest
      rw [attemptFrom_succ, attemptWords]
      congr 1
      funext outcome
      cases outcome with
      | ok a => rfl
      | error e => simp only [hrest, if_neg hmore]

/-- No number of an attempt wraps around: a run is the same with numbers of 32 bits. -/
theorem Policy.run_eq_attemptWords (p : Policy) (s : Surroundings m)
    (f : Nat → m (Except ε α)) : p.run s f = p.attemptWords s f 1 := by
  have hpos : 1 ≤ p.attempts := Nat.le_max_right _ _
  have hleft : (1 : UInt32).toNat + (p.attempts - 1) = p.attempts := Nat.add_sub_cancel' hpos
  exact p.attemptFrom_eq_attemptWords s f hleft

/-! ## Whole runs -/

/-- What a policy promises of the record of a run whose attempts have known results. -/
structure RunSpec (p : Policy) (result : Nat → Except ε α) (last : Nat)
    (outcome : Except (Exhausted ε) α) (record : List Deed) : Prop where
  verdict : Verdict (max 1 p.maxAttempts.toNat) result last outcome
  alternates : ∃ draws : Nat → Nat,
    record = alternation (fun n => p.waitAfter (draws n) n) last
  unjittered : p.jitter = false → record = alternation p.delayFor last
  fits : ∀ n, .called n ∈ record → n < UInt32.size

/-- A run calls its operation on 1, 2 and so on up to the first success or the limit, waits once
between two calls and ends with the result of the last one. It is the same with attempts that are
numbered in 32 bits. -/
theorem Policy.run_exact (p : Policy) (draw : List Deed → Nat) (result : Nat → Except ε α) :
    (∃ last, RunSpec p result last (p.recorded draw result).1 (p.recorded draw result).2) ∧
      (p.attemptWords (recording draw) (scripted result) 1).run [] = p.recorded draw result := by
  have hlimit : p.attempts = max 1 p.maxAttempts.toNat := Nat.max_comm _ _
  obtain ⟨last, hverdict, draws, -, halternates⟩ := exists_alternation p draw result
  obtain ⟨hpos, hle⟩ := hverdict.pos_and_le (Nat.le_max_right _ _)
  refine ⟨⟨last, hlimit ▸ hverdict, ⟨draws, halternates⟩, ?_, ?_⟩, ?_⟩
  · intro hj
    have hwait : (fun n => p.waitAfter (draws n) n) = p.delayFor := by
      funext n
      simp [waitAfter, hj]
    rw [halternates, hwait]
  · intro n hn
    rw [halternates] at hn
    exact ((le_of_called_mem hpos hn).trans hle).trans_lt p.attempts_lt
  · rw [recorded, p.run_eq_attemptWords]

example : ({ Policy.standard with jitter := false } : Policy).recorded (fun _ => 0)
      (fun n => if n < 3 then .error n else .ok 'x') =
    (.ok 'x', [.called 1, .slept (.ofMillis 500), .called 2, .slept (.ofMillis 1000),
      .called 3]) := rfl

end Signpost.Retry
