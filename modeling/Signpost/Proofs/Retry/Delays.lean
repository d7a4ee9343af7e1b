import Mathlib.Algebra.Order.Ring.Nat
import Signpost.Retry.Policy

/-! # Delays without bounds

The factor of a delay, the product and its milliseconds are each held in a number of limited size.
None of the limits shows in a delay that is at most the longest one of its policy and whose
milliseconds fit into 64 bits. -/

namespace Signpost

namespace Time.Delay

theorem eq_of_ns {d e : Delay} (h : d.ns = e.ns) : d = e := by
  cases d
  cases e
  cases h
  rfl

@[simp] theorem ofNs_ns (n : Nat) : (ofNs n).ns = min n maxDelayNs :=
  rfl

@[simp] theorem ofMillis_ns (millis : UInt64) : (ofMillis millis).ns = millis.toNat * 1000000 :=
  rfl

@[simp] theorem millis64_toNat (d : Delay) : d.millis64.toNat = d.toMillis % 2 ^ 64 :=
  UInt64.toNat_ofNat'

theorem millis64_toNat_of_ns {d : Delay} {millis : Nat} (hd : d.ns = millis * 1000000)
    (hlt : millis < 2 ^ 64) : d.millis64.toNat = millis := by
  rw [millis64_toNat, toMillis, hd, Nat.mul_div_cancel _ (by decide), Nat.mod_eq_of_lt hlt]

@[simp] theorem min_ns (a b : Delay) : (a.min b).ns = min a.ns b.ns := by
  unfold Delay.min
  split <;> omega

@[simp]
theorem scale_ns (d : Delay) (factor : Nat) :
    (d.scale factor).ns = min (d.ns * factor) maxDelayNs :=
  rfl

end Time.Delay

namespace Retry.Policy

open Time

theorem factor_eq (n : Nat) : factor n = min (2 ^ (n - 1)) (2 ^ 32 - 1) := by
  unfold factor
  split
  next hn =>
    have hpow : 2 ^ 32 ≤ 2 ^ (n - 1) := Nat.pow_le_pow_right (by decide) (by omega)
    omega
  next hn =>
    have hpow : 2 ^ (n - 1) ≤ 2 ^ 31 := Nat.pow_le_pow_right (by decide) (by omega)
    rw [Nat.min_eq_left (by omega)]
    rfl

/-- The product of a delay stops growing only where it exceeds every longest delay. -/
theorem delayFor_ns_factor (p : Policy) (n : Nat) :
    (p.delayFor n).ns = match p.backoff with
      | .fixed => min p.initialDelay.ns p.maxDelay.ns
      | .exponential => min (p.initialDelay.ns * factor n) p.maxDelay.ns := by
  have hmax := p.maxDelay.le_max
  unfold delayFor
  cases p.backoff with
  | fixed => exact Delay.min_ns _ _
  | exponential =>
      simp only [Delay.min_ns, Delay.scale_ns]
      omega

theorem delayFor_ns (p : Policy) (n : Nat) :
    (p.delayFor n).ns = match p.backoff with
      | .fixed => min p.initialDelay.ns p.maxDelay.ns
      | .exponential => min (p.initialDelay.ns * min (2 ^ (n - 1)) (2 ^ 32 - 1)) p.maxDelay.ns := by
  rw [delayFor_ns_factor, factor_eq]

theorem delayFor_le (p : Policy) (n : Nat) : (p.delayFor n).ns ≤ p.maxDelay.ns := by
  rw [delayFor_ns]
  cases p.backoff <;> exact Nat.min_le_right _ _

/-- What is drawn from the upper half of a number. -/
theorem drawn_bounds (millis draw : Nat) :
    millis / 2 ≤ millis / 2 + draw % (millis - millis / 2 + 1) ∧
      millis / 2 + draw % (millis - millis / 2 + 1) ≤ millis := by
  have hdraw : draw % (millis - millis / 2 + 1) < millis - millis / 2 + 1 :=
    Nat.mod_lt _ (by omega)
  omega

/-- Drawn in 64 bits, a number from the upper half is the one that is drawn without bounds. -/
theorem drawn_toNat (millis : UInt64) (draw : Nat) :
    (millis / 2 + .ofNat (draw % (millis.toNat - (millis / 2).toNat + 1))).toNat =
      millis.toNat / 2 + draw % (millis.toNat - millis.toNat / 2 + 1) := by
  have hlow : (millis / 2).toNat = millis.toNat / 2 := UInt64.toNat_div millis 2
  have hfits : millis.toNat / 2 + draw % (millis.toNat - millis.toNat / 2 + 1) < 2 ^ 64 :=
    (drawn_bounds millis.toNat draw).2.trans_lt millis.toNat_lt
  have hdrawn := (Nat.le_add_left _ _).trans_lt hfits
  rw [UInt64.toNat_add, hlow, UInt64.toNat_ofNat_of_lt' hdrawn, Nat.mod_eq_of_lt hfits]

/-- A wait is drawn from the upper half of the 64-bit milliseconds of its delay. -/
theorem jittered_ns (draw : Nat) (d : Delay) :
    (jittered draw d).ns = (d.millis64.toNat / 2 +
      draw % (d.millis64.toNat - d.millis64.toNat / 2 + 1)) * 1000000 := by
  unfold jittered
  split
  next hz =>
    have hzero : d.millis64.toNat = 0 := by simp [Delay.millis64, Delay.toMillis, hz]
    rw [hz, hzero]
    simp [Nat.mod_one]
  next hz => rw [Delay.ofMillis_ns, drawn_toNat]

end Retry.Policy

end Signpost
