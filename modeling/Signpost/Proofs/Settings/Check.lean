import Signpost.Settings.Check

/-! # Settings that pass the check

Passing the check is the same as keeping every rule of a field, having delays in order, and having
credentials that can be used. -/

namespace Signpost.Settings

theorem violations_isEmpty_iff {s : Settings} :
    s.violations.isEmpty = true ↔ ∀ field ∈ s.fields, field.rule.holds field.value = true := by
  simp [violations, List.filter_eq_nil_iff]

theorem check_eq_ok_iff {s : Settings} :
    s.check = .ok () ↔
      (∀ field ∈ s.fields, field.rule.holds field.value = true) ∧
      s.directory.delayMillis ≤ s.directory.maxDelayMillis ∧
      checkCredentials s.credentials = .ok () := by
  rw [← violations_isEmpty_iff, check]
  by_cases hv : s.violations.isEmpty = true
  · by_cases hd : s.directory.maxDelayMillis < s.directory.delayMillis
    · simp [hv, hd, UInt64.not_le.mpr hd]
    · simp [hv, hd, UInt64.not_lt.mp hd]
  · simp [hv]

theorem holds_of_check {s : Settings} (hc : s.check = .ok ()) {field : Field}
    (hf : field ∈ s.fields) : field.rule.holds field.value = true :=
  (check_eq_ok_iff.mp hc).1 field hf

/-- Checked settings make at least one attempt and at most twenty. -/
theorem attempts_of_check {s : Settings} (hc : s.check = .ok ()) :
    1 ≤ s.directory.attempts.toNat ∧ s.directory.attempts.toNat ≤ 20 := by
  have hmem : ⟨"directory.retry_attempts", .range (some 1) (some 20),
      .number s.directory.attempts.toNat⟩ ∈ s.fields := by
    simp [fields]
  simpa [Rule.holds] using holds_of_check hc hmem

end Signpost.Settings
