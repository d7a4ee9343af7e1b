import Mathlib.Order.Basic
import Signpost.Proofs.Retry.Attempts
import Signpost.Proofs.Retry.Delays
import Signpost.Settings.Basic

/-! # Jittered waits

With jitter the wait behind a failed attempt is drawn from the upper half of its delay, in whole
milliseconds. It never exceeds the delay. It can fall short of half of it only where the
milliseconds of the delay do not fit into 64 bits, for it is drawn from their lower 64 bits. -/

namespace Signpost

/-! ## Waits drawn from a delay -/

namespace Time.Delay

/-- Half of a delay in nanoseconds, rounded down to whole milliseconds. -/
def half (d : Delay) : Nat :=
  d.ns / 2000000 * 1000000

theorem half_eq (d : Delay) : d.half = d.toMillis / 2 * 1000000 := by
  rw [half, toMillis, Nat.div_div_eq_div_mul]

end Time.Delay

namespace Retry

open Time (Delay)

namespace Policy

/-- Every number of milliseconds from the upper half can be drawn, and no other. -/
theorem exists_jittered_iff {d wait : Delay} :
    (∃ draw, wait = jittered draw d) ↔
      ∃ millis, d.millis64.toNat / 2 ≤ millis ∧ millis ≤ d.millis64.toNat ∧
        wait.ns = millis * 1000000 := by
  constructor
  · intro h
    obtain ⟨draw, rfl⟩ := h
    have hbounds := drawn_bounds d.millis64.toNat draw
    exact ⟨_, hbounds.1, hbounds.2, jittered_ns draw d⟩
  · intro h
    obtain ⟨millis, hlow, hhigh, hwait⟩ := h
    refine ⟨millis - d.millis64.toNat / 2, Delay.eq_of_ns ?_⟩
    rw [hwait, jittered_ns, Nat.mod_eq_of_lt (by omega), Nat.add_sub_cancel' hlow]

/-- The range that a wait is checked against is computed in 64 bits as the wait is, so that the
check passes whatever the delay. -/
@[simp]
theorem isInRange_jittered (draw : Nat) (d : Delay) : isInRange d (jittered draw d) = true := by
  have hbounds := drawn_bounds d.millis64.toNat draw
  simp only [isInRange, Delay.ofMillis_ns, jittered_ns, UInt64.toNat_div, Bool.and_eq_true,
    decide_eq_true_eq]
  exact ⟨Nat.mul_le_mul_right _ hbounds.1, Nat.mul_le_mul_right _ hbounds.2⟩

theorem jittered_le (draw : Nat) (d : Delay) : (jittered draw d).ns ≤ d.ns := by
  have hmillis : d.toMillis * 1000000 ≤ d.ns := Nat.div_mul_le_self _ _
  have hword : d.millis64.toNat ≤ d.toMillis := d.millis64_toNat ▸ Nat.mod_le _ _
  rw [jittered_ns]
  have hhigh := (drawn_bounds d.millis64.toNat draw).2
  exact (Nat.mul_le_mul_right _ (hhigh.trans hword)).trans hmillis

/-- What the lower 64 bits leave of a larger number is less than half of it at the lowest draw. -/
theorem half_le_jittered_iff {d : Delay} :
    (∀ draw, d.half ≤ (jittered draw d).ns) ↔ d.toMillis < 2 ^ 64 := by
  constructor
  · intro h
    by_contra hlarge
    have hlow := h 0
    rw [jittered_ns, Delay.half_eq, Nat.zero_mod, Delay.millis64_toNat] at hlow
    omega
  · intro hfits draw
    rw [jittered_ns, Delay.half_eq, Delay.millis64_toNat, Nat.mod_eq_of_lt hfits]
    exact Nat.mul_le_mul_right _ (drawn_bounds d.toMillis draw).1

theorem toMillis_lt_of_settings (d : Settings.Directory) (n : Nat) :
    (d.policy.delayFor n).toMillis < 2 ^ 64 := by
  have hle : (d.policy.delayFor n).ns ≤ d.maxDelayMillis.toNat * 1000000 :=
    d.policy.delayFor_le n
  have hlt := d.maxDelayMillis.toNat_lt
  rw [Delay.toMillis]
  omega

end Policy

/-! ## Waits of runs -/

variable {ε α : Type}

/-- A run has waited right behind an attempt. -/
def Waited (record : List Deed) (n : Nat) (wait : Delay) : Prop :=
  [.called n, .slept wait] <:+: record

theorem Verdict.last_eq_of_failures {limit last : Nat} {result : Nat → Except ε α}
    {outcome : Except (Exhausted ε) α} (h : Verdict limit result last outcome)
    (hfailed : ∀ n, ∃ e, result n = .error e) : last = limit := by
  cases h with
  | success _ _ ha =>
      obtain ⟨e, he⟩ := hfailed last
      cases ha.symm.trans he
  | exhaustion => rfl

theorem pair_suffix_concat_iff {x y a : Deed} {l : List Deed} :
    [x, y] <:+ l ++ [a] ↔ [x] <:+ l ∧ y = a := by
  have hpair : [x] ++ [y] <:+ l ++ [a] ↔ [x] <:+ l ∧ [y] = [a] :=
    List.suffix_append_inj_of_length_eq rfl
  rwa [List.singleton_inj] at hpair

/-- Behind every attempt but the last there is its wait, and no other. -/
theorem waited_alternation_iff {wait : Nat → Delay} {last n : Nat} {d : Delay}
    (hlast : 1 ≤ last) :
    Waited (alternation wait last) n d ↔ 1 ≤ n ∧ n < last ∧ d = wait n := by
  induction last, hlast using Nat.le_induction with
  | base =>
      refine iff_of_false ?_ (by omega)
      intro h
      exact absurd h.length_le (by simp [alternation, cycles])
  | succ last hpos ih =>
      have hend : [Deed.called n] <:+ alternation wait last ↔ n = last := by
        rw [alternation, List.singleton_suffix_append_singleton_iff, Deed.called.injEq]
      rw [Waited, alternation, cycles_succ wait hpos, List.infix_concat_iff,
        List.infix_concat_iff, pair_suffix_concat_iff, pair_suffix_concat_iff, hend, ← Waited, ih]
      constructor
      · rintro (⟨-, hd⟩ | ⟨rfl, hd⟩ | ⟨hn, hlt, rfl⟩)
        · cases hd
        · exact ⟨hpos, Nat.lt_succ_self _, Deed.slept.inj hd⟩
        · exact ⟨hn, by omega, rfl⟩
      · rintro ⟨hn, hlt, rfl⟩
        rcases Nat.lt_or_eq_of_le (Nat.lt_succ_iff.mp hlt) with hlt | rfl
        · exact .inr (.inr ⟨hn, hlt, rfl⟩)
        · exact .inr (.inl ⟨rfl, rfl⟩)

namespace Policy

variable {p : Policy}

theorem waitAfter_of_jitter (hj : p.jitter = true) (draw n : Nat) :
    p.waitAfter draw n = jittered draw (p.delayFor n) :=
  if_pos hj

/-- A run that fails throughout and draws the same number every time. -/
theorem recorded_of_failures (hj : p.jitter = true) (failure : ε) (drawn : Nat) :
    (p.recorded (fun _ => drawn) fun _ => (.error failure : Except ε α)).2 =
      alternation (p.waitAfter drawn) p.attempts := by
  obtain ⟨last, hverdict, draws, hdrawn, hrecord⟩ :=
    exists_alternation p (fun _ => drawn) fun _ => (.error failure : Except ε α)
  have hwait : (fun n => p.waitAfter (draws n) n) = p.waitAfter drawn := by
    funext n
    obtain ⟨-, hn⟩ := hdrawn hj n
    rw [hn]
  rw [hrecord, hwait, hverdict.last_eq_of_failures fun _ => ⟨failure, rfl⟩]

/-- The waits behind an attempt are those that jitter can draw from its delay, in every run that
goes on behind it. -/
theorem exists_waited_iff (α : Type) (hj : p.jitter = true) (failure : ε) (n : Nat)
    (wait : Delay) :
    (∃ draw, ∃ result : Nat → Except ε α, Waited (p.recorded draw result).2 n wait) ↔
      1 ≤ n ∧ n < p.attempts ∧ ∃ draw, wait = jittered draw (p.delayFor n) := by
  have hattempts : 1 ≤ p.attempts := Nat.le_max_right _ _
  constructor
  · rintro ⟨draw, result, hwaited⟩
    obtain ⟨last, hverdict, draws, -, hrecord⟩ := exists_alternation p draw result
    obtain ⟨hpos, hle⟩ := hverdict.pos_and_le hattempts
    rw [hrecord, waited_alternation_iff hpos, waitAfter_of_jitter hj] at hwaited
    obtain ⟨hn, hlt, hwait⟩ := hwaited
    exact ⟨hn, hlt.trans_le hle, _, hwait⟩
  · rintro ⟨hn, hlt, draw, rfl⟩
    refine ⟨fun _ => draw, fun _ => .error failure, ?_⟩
    rw [recorded_of_failures hj, waited_alternation_iff hattempts, waitAfter_of_jitter hj]
    exact ⟨hn, hlt, rfl⟩

/-- What a policy with jitter promises of the waits behind an attempt. -/
structure JitterSpec (ε α : Type) (p : Policy) (n : Nat) : Prop where
  drawn_iff : ∀ wait : Delay,
    (∃ draw, ∃ result : Nat → Except ε α, Waited (p.recorded draw result).2 n wait) ↔
      1 ≤ n ∧ n < p.attempts ∧ ∃ millis, (p.delayFor n).millis64.toNat / 2 ≤ millis ∧
        millis ≤ (p.delayFor n).millis64.toNat ∧ wait.ns = millis * 1000000
  in_range : ∀ draw (result : Nat → Except ε α) wait,
    Waited (p.recorded draw result).2 n wait → isInRange (p.delayFor n) wait = true
  le_delay : ∀ draw (result : Nat → Except ε α) wait,
    Waited (p.recorded draw result).2 n wait → wait.ns ≤ (p.delayFor n).ns
  half_le_iff : 1 ≤ n → n < p.attempts →
    ((∀ draw (result : Nat → Except ε α) wait,
        Waited (p.recorded draw result).2 n wait → (p.delayFor n).half ≤ wait.ns) ↔
      (p.delayFor n).toMillis < 2 ^ 64)
  fits_of_settings : ∀ d : Settings.Directory, p = d.policy → (p.delayFor n).toMillis < 2 ^ 64

/-- A wait never exceeds its delay, and is at least half of it exactly where the milliseconds of the
delay fit into 64 bits, as they do under every policy that settings give. -/
theorem jitter_exact (α : Type) (hj : p.jitter = true) (failure : ε) (n : Nat) :
    p.JitterSpec ε α n := by
  have hwaits := exists_waited_iff α hj failure n
  refine ⟨fun wait => by rw [hwaits, exists_jittered_iff], ?_, ?_, ?_, ?_⟩
  · intro draw result wait hwaited
    obtain ⟨-, -, drawn, rfl⟩ := (hwaits _).mp ⟨draw, result, hwaited⟩
    exact isInRange_jittered drawn _
  · intro draw result wait hwaited
    obtain ⟨-, -, drawn, rfl⟩ := (hwaits _).mp ⟨draw, result, hwaited⟩
    exact jittered_le drawn _
  · intro hn hlt
    rw [← half_le_jittered_iff]
    constructor
    · intro h drawn
      obtain ⟨draw, result, hwaited⟩ := (hwaits _).mpr ⟨hn, hlt, drawn, rfl⟩
      exact h draw result _ hwaited
    · intro h draw result wait hwaited
      obtain ⟨-, -, drawn, rfl⟩ := (hwaits _).mp ⟨draw, result, hwaited⟩
      exact h drawn
  · rintro d rfl
    exact toMillis_lt_of_settings d n

/-- One wait of 2⁶⁴ milliseconds, one more than 64 bits hold. -/
def overlong : Policy :=
  have hle : 18446744073709551616 * 1000000 ≤ Time.maxDelayNs := by decide
  ⟨2, ⟨_, hle⟩, ⟨_, hle⟩, .fixed, true⟩

theorem jitter_exact_overlong : overlong.jitter = true ∧ overlong.JitterSpec Unit Unit 1 :=
  ⟨rfl, jitter_exact Unit rfl () 1⟩

/-- The lower 64 bits of its milliseconds are zero, so that the wait is over at once. A check of the
range in 64 bits passes all the same. -/
theorem not_half_le_overlong :
    overlong.jitter = true ∧
      Waited (overlong.recorded (fun _ => 7) fun _ => (.error () : Except Unit Unit)).2 1 .zero ∧
      isInRange (overlong.delayFor 1) .zero = true ∧
      ¬(overlong.delayFor 1).half ≤ Delay.zero.ns :=
  ⟨rfl, ⟨[], [.called 2], by decide +kernel⟩, by decide +kernel, by decide⟩

end Policy

end Retry

end Signpost
