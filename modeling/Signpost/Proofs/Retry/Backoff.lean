import Mathlib.Algebra.Order.Ring.Nat
import Signpost.Proofs.Retry.Delays

/-! # Backoff in words

A delay is held as seconds in 64 bits and nanoseconds in 32, and the factor of a doubling delay in
32 bits. Carried out on such words, the delay after an attempt is the one that unbounded numbers
give, for every policy and every attempt: what does not fit is longer than any policy waits. -/

namespace Signpost

/-! ## Delays in words -/

namespace Time

/-- A number as a word of 64 bits, if it fits into one. -/
def word? (n : Nat) : Option UInt64 :=
  if n < UInt64.size then some (.ofNat n) else none

theorem exists_word? {n : Nat} (hn : n < UInt64.size) : ∃ w, word? n = some w ∧ w.toNat = n :=
  ⟨.ofNat n, if_pos hn, UInt64.toNat_ofNat_of_lt' hn⟩

theorem word?_eq_none {n : Nat} (hn : UInt64.size ≤ n) : word? n = none :=
  if_neg (Nat.not_lt_of_le hn)

/-- A number that does not fit is not made to fit by what is added to it. -/
theorem word?_bind_add (n m : Nat) :
    ((word? n).bind fun w => word? (w.toNat + m)) = word? (n + m) := by
  by_cases hn : n < UInt64.size
  · obtain ⟨w, hw, hval⟩ := exists_word? hn
    rw [hw, Option.bind_some, hval]
  · have hle := Nat.le_of_not_lt hn
    rw [word?_eq_none hle, word?_eq_none (hle.trans (Nat.le_add_right n m)), Option.bind_none]

namespace Delay

/-- The whole seconds of a delay. -/
def seconds (d : Delay) : UInt64 :=
  .ofNat (d.ns / 1000000000)

/-- The nanoseconds of a delay behind its whole seconds. -/
def nanos (d : Delay) : UInt32 :=
  .ofNat (d.ns % 1000000000)

def longest : Delay :=
  ⟨maxDelayNs, Nat.le_refl _⟩

@[simp] theorem longest_ns : longest.ns = maxDelayNs :=
  rfl

@[simp] theorem toNat_seconds (d : Delay) : d.seconds.toNat = d.ns / 1000000000 := by
  have hmax := d.le_max
  unfold maxDelayNs at hmax
  exact UInt64.toNat_ofNat_of_lt' (by rw [UInt64.size]; omega)

@[simp] theorem toNat_nanos (d : Delay) : d.nanos.toNat = d.ns % 1000000000 :=
  UInt32.toNat_ofNat_of_lt' (by rw [UInt32.size]; omega)

/-- The delay of seconds and nanoseconds, those of a second or more carried over into the seconds,
which have to hold them. -/
def ofWords? (seconds : UInt64) (nanos : UInt32) : Option Delay :=
  let ns := seconds.toNat * 1000000000 + nanos.toNat
  if h : ns ≤ maxDelayNs then some ⟨ns, h⟩ else none

/-- A delay a number of times, in words: the nanoseconds are carried over into the seconds, and the
delay is the longest one where the seconds do not fit. -/
def scaleWords? (d : Delay) (factor : UInt32) : Option Delay := do
  let nanos ← word? (d.nanos.toNat * factor.toNat)
  let seconds? := do
    let seconds ← word? (d.seconds.toNat * factor.toNat)
    word? (seconds.toNat + (nanos / 1000000000).toNat)
  match seconds? with
  | some seconds => ofWords? seconds (nanos % 1000000000).toUInt32
  | none => some longest

/-- The shorter of two delays by their seconds and, where these are the same, their nanoseconds. -/
def minWords (a b : Delay) : Delay :=
  if a.seconds < b.seconds ∨ a.seconds = b.seconds ∧ a.nanos ≤ b.nanos then a else b

theorem ofWords?_eq {seconds : UInt64} {nanos : UInt32} {d : Delay}
    (h : d.ns = seconds.toNat * 1000000000 + nanos.toNat) : ofWords? seconds nanos = some d := by
  have hle : seconds.toNat * 1000000000 + nanos.toNat ≤ maxDelayNs := h ▸ d.le_max
  rw [ofWords?, dif_pos hle]
  exact congrArg some (eq_of_ns h.symm)

/-- The seconds of a time fit into 64 bits exactly where it is no longer than the longest delay, for
that one ends with the last nanosecond of a second. -/
theorem seconds_lt_iff {ns : Nat} : ns / 1000000000 < UInt64.size ↔ ns ≤ maxDelayNs := by
  unfold maxDelayNs
  rw [UInt64.size]
  omega

/-- Neither the nanoseconds nor what they carry over get out of their words. -/
@[simp] theorem scaleWords?_eq (d : Delay) (factor : UInt32) :
    d.scaleWords? factor = some (d.scale factor.toNat) := by
  -- The products are named, so that what remains to be shown of them is linear.
  obtain ⟨s, hs⟩ : ∃ s, s = d.ns / 1000000000 * factor.toNat := ⟨_, rfl⟩
  obtain ⟨n, hn⟩ : ∃ n, n = d.ns % 1000000000 * factor.toNat := ⟨_, rfl⟩
  obtain ⟨total, htotal⟩ : ∃ total, total = d.ns * factor.toNat := ⟨_, rfl⟩
  have hsplit : total = s * 1000000000 + n := by
    rw [htotal, hs, hn, Nat.mul_right_comm, ← Nat.add_mul, Nat.div_add_mod']
  have hquotient : s + n / 1000000000 = total / 1000000000 := by omega
  have hremainder : n % 1000000000 = total % 1000000000 := by omega
  have hbound : n < 1000000000 * 4294967296 :=
    hn ▸ Nat.mul_lt_mul'' (Nat.mod_lt _ (by decide)) factor.toNat_lt
  obtain ⟨nanos, hnanos, hval⟩ := exists_word? (n := n) (by rw [UInt64.size]; omega)
  have hcarry : (nanos / 1000000000).toNat = n / 1000000000 := by
    rw [UInt64.toNat_div, hval]
    rfl
  have hrest : (nanos % 1000000000).toUInt32.toNat = n % 1000000000 := by
    rw [UInt64.toNat_toUInt32, UInt64.toNat_mod, hval]
    change n % 1000000000 % 4294967296 = _
    omega
  simp only [scaleWords?, toNat_nanos, toNat_seconds, ← hn, ← hs, hnanos, hcarry,
    Option.bind_eq_bind, Option.bind_some, word?_bind_add, hquotient]
  by_cases hfits : total / 1000000000 < UInt64.size
  · obtain ⟨seconds, hseconds, hsum⟩ := exists_word? hfits
    have hle : total ≤ maxDelayNs := seconds_lt_iff.mp hfits
    rw [hseconds]
    refine ofWords?_eq ?_
    rw [scale_ns, ← htotal, Nat.min_eq_left hle, hsum, hrest, hremainder, Nat.div_add_mod']
  · have hle : maxDelayNs ≤ total := Nat.le_of_not_le (mt seconds_lt_iff.mpr hfits)
    rw [word?_eq_none (Nat.le_of_not_lt hfits)]
    refine congrArg some (eq_of_ns ?_)
    rw [longest_ns, scale_ns, ← htotal, Nat.min_eq_right hle]

@[simp] theorem minWords_eq (a b : Delay) : a.minWords b = a.min b := by
  unfold minWords Delay.min
  refine if_congr ?_ rfl rfl
  rw [UInt64.lt_iff_toNat_lt, ← UInt64.toNat_inj, UInt32.le_iff_toNat_le, toNat_seconds,
    toNat_seconds, toNat_nanos, toNat_nanos]
  omega

end Delay

end Time

namespace Retry.Policy

open Time (Delay)

/-- The factor of an attempt, a word of 32 bits that stays at the largest one. The first attempt
has the number 1, and no number is taken below zero. -/
def factorWord (attempt : UInt32) : UInt32 :=
  let doublings := if attempt = 0 then 0 else attempt - 1
  .ofNat (min (2 ^ doublings.toNat) (UInt32.size - 1))

/-- The delay after an attempt in words; there is none if a number gets out of its word. -/
def delayWords? (p : Policy) (attempt : UInt32) : Option Delay := do
  let base ← match p.backoff with
    | .fixed => some p.initialDelay
    | .exponential => p.initialDelay.scaleWords? (factorWord attempt)
  some (base.minWords p.maxDelay)

@[simp] theorem toNat_factorWord (attempt : UInt32) :
    (factorWord attempt).toNat = factor attempt.toNat := by
  have hdoublings : (if attempt = 0 then 0 else attempt - 1).toNat = attempt.toNat - 1 := by
    split
    next h => rw [h]; rfl
    next h =>
      have hne : attempt.toNat ≠ 0 := mt (UInt32.toNat_inj (b := 0)).mp h
      have hpos : 1 ≤ attempt := UInt32.le_iff_toNat_le.mpr (Nat.one_le_iff_ne_zero.mpr hne)
      exact UInt32.toNat_sub_of_le _ _ hpos
  have hfits : min (2 ^ (attempt.toNat - 1)) (UInt32.size - 1) < UInt32.size :=
    Nat.lt_of_le_of_lt (Nat.min_le_right _ _) (by decide)
  simp only [factorWord, hdoublings]
  rw [UInt32.toNat_ofNat_of_lt' hfits, factor_eq]
  rfl

/-- In words there is a delay after every attempt, and it is the same. -/
theorem delayWords?_eq (p : Policy) (attempt : UInt32) :
    p.delayWords? attempt = some (p.delayFor attempt.toNat) := by
  unfold delayWords? delayFor
  cases p.backoff with
  | fixed => exact congrArg some (Delay.minWords_eq _ _)
  | exponential =>
      rw [Delay.scaleWords?_eq, toNat_factorWord]
      exact congrArg some (Delay.minWords_eq _ _)

/-! ## Growth from attempt to attempt -/

theorem factor_mono {n m : Nat} (h : n ≤ m) : factor n ≤ factor m := by
  have hpow : 2 ^ (n - 1) ≤ 2 ^ (m - 1) := Nat.pow_le_pow_right (by decide) (by omega)
  rw [factor_eq, factor_eq]
  exact min_le_min_right _ hpow

/-- A later attempt, a longer first delay and a longer limit never make a delay shorter. -/
theorem delayFor_mono {p q : Policy} (hbackoff : q.backoff = p.backoff)
    (hinitial : p.initialDelay.ns ≤ q.initialDelay.ns) (hmax : p.maxDelay.ns ≤ q.maxDelay.ns)
    {n m : Nat} (h : n ≤ m) : (p.delayFor n).ns ≤ (q.delayFor m).ns := by
  rw [delayFor_ns_factor, delayFor_ns_factor, hbackoff]
  cases p.backoff with
  | fixed => exact min_le_min hinitial hmax
  | exponential => exact min_le_min (Nat.mul_le_mul hinitial (factor_mono h)) hmax

/-- The delay after the next attempt is twice as long, up to the limit. -/
def Doubles (p : Policy) (n : Nat) : Prop :=
  (p.delayFor (n + 1)).ns = min p.maxDelay.ns (2 * (p.delayFor n).ns)

theorem factor_succ {n : Nat} (hpos : 1 ≤ n) (hle : n ≤ 31) : factor (n + 1) = 2 * factor n := by
  unfold factor
  rw [if_neg (by omega), if_neg (by omega), Nat.add_sub_cancel]
  change 2 ^ n = 2 * 2 ^ (n - 1)
  rw [Nat.mul_comm, Nat.pow_pred_mul (by omega)]

/-- Doubling is what tells the two kinds of backoff apart, unless the limit or a first delay of zero
hides it. -/
theorem doubles_iff {p : Policy} {n : Nat} (hpos : 1 ≤ n) (hle : n ≤ 31) :
    p.Doubles n ↔ p.backoff = .exponential ∨ p.initialDelay.ns = 0 ∨
      p.maxDelay.ns ≤ p.initialDelay.ns := by
  unfold Doubles
  rw [delayFor_ns_factor, delayFor_ns_factor, factor_succ hpos hle]
  cases p.backoff with
  | fixed =>
      simp only [reduceCtorEq, false_or]
      omega
  | exponential =>
      refine iff_of_true ?_ (.inl rfl)
      rw [Nat.mul_left_comm]
      change min _ _ = min _ (2 * min _ _)
      omega

/-! ## Backoff as a whole -/

/-- What a policy promises of the delays after its attempts, which have numbers of 32 bits. -/
structure BackoffSpec (p : Policy) : Prop where
  fixed : p.backoff = .fixed → ∀ attempt : UInt32,
    (p.delayFor attempt.toNat).ns = min p.maxDelay.ns p.initialDelay.ns
  exponential : p.backoff = .exponential → ∀ attempt : UInt32,
    (p.delayFor attempt.toNat).ns = min p.maxDelay.ns
      (p.initialDelay.ns * min (2 ^ (max attempt.toNat 1 - 1)) (2 ^ 32 - 1))
  in_words : ∀ attempt : UInt32, p.delayWords? attempt = some (p.delayFor attempt.toNat)
  le_max : ∀ attempt : UInt32, (p.delayFor attempt.toNat).ns ≤ p.maxDelay.ns
  mono : ∀ (q : Policy) (attempt later : UInt32), q.backoff = p.backoff →
    p.initialDelay.ns ≤ q.initialDelay.ns → p.maxDelay.ns ≤ q.maxDelay.ns → attempt ≤ later →
    (p.delayFor attempt.toNat).ns ≤ (q.delayFor later.toNat).ns
  doubles_iff : ∀ n, 1 ≤ n → n ≤ 31 →
    (p.Doubles n ↔ p.backoff = .exponential ∨ p.initialDelay.ns = 0 ∨
      p.maxDelay.ns ≤ p.initialDelay.ns)

/-- The delays of a policy are those of unbounded numbers, also when they are computed in words.
They never exceed the limit, never shrink, and double up to attempt 32 under exponential backoff. -/
theorem backoff_exact (p : Policy) : p.BackoffSpec := by
  refine ⟨?_, ?_, p.delayWords?_eq, fun attempt => p.delayFor_le attempt.toNat, ?_, ?_⟩
  · intro hfixed attempt
    rw [delayFor_ns, hfixed]
    exact Nat.min_comm _ _
  · intro hexponential attempt
    have hexponent : max attempt.toNat 1 - 1 = attempt.toNat - 1 := by omega
    rw [delayFor_ns, hexponential, hexponent]
    exact Nat.min_comm _ _
  · intro q attempt later hbackoff hinitial hmax hle
    exact delayFor_mono hbackoff hinitial hmax (UInt32.le_iff_toNat_le.mp hle)
  · intro n hpos hle
    exact doubles_iff hpos hle

example :
    let p := { standard with initialDelay := .ofNs 1, maxDelay := .longest }
    [0, 1, 2, 32, 33, 4294967295].map (fun n => (p.delayFor n).ns) =
      [1, 1, 2, 2147483648, 4294967295, 4294967295] := by
  decide

/-- A quarter of a second after every attempt. -/
def steady : Policy :=
  { standard with initialDelay := .ofMillis 250, backoff := .fixed }

/-- Its delay stays the same, far below the limit. -/
theorem not_doubles_steady : ¬∀ n, 1 ≤ n → n ≤ 31 → steady.Doubles n := by
  intro h
  have hdoubles : steady.Doubles 1 := h 1 (by decide) (by decide)
  exact absurd hdoubles (by unfold Doubles; decide)

end Retry.Policy

end Signpost
