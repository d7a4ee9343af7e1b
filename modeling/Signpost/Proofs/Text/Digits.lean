import Signpost.Text.Blank
import Signpost.Text.Numeral

/-! # Digits

What distinguishes the digits of a decimal numeral from other characters. -/

namespace Signpost

namespace Text

theorem toNat_of_isDigit {c : Char} (h : c.isDigit = true) : 48 ≤ c.toNat ∧ c.toNat ≤ 57 := by
  simp only [Char.isDigit, Bool.and_eq_true, decide_eq_true_eq, ge_iff_le,
    UInt32.le_iff_toNat_le] at h
  exact h

theorem isBlank_of_isDigit {c : Char} (h : c.isDigit = true) : isBlank c = false := by
  have hc := toNat_of_isDigit h
  simp [isBlank]
  omega

end Text

namespace Decimal

theorem isDigit_of_mem_render {n : Nat} {c : Char} (h : c ∈ render n) : c.isDigit = true :=
  Nat.isDigit_of_mem_toDigits (by decide) (by decide) h

theorem render_ne_nil (n : Nat) : render n ≠ [] :=
  Nat.toDigits_ne_nil

theorem isDigit_of_render_append {n : Nat} {rest cs : List Char} {c : Char}
    (h : render n ++ rest = c :: cs) : c.isDigit = true := by
  obtain ⟨d, ds, hds⟩ := List.exists_cons_of_ne_nil (render_ne_nil n)
  rw [hds] at h
  exact (List.cons.inj h).1 ▸ isDigit_of_mem_render (hds ▸ List.mem_cons_self)

/-- A numeral does not begin with a zero, unless it is one. -/
theorem head?_render_ne_zero {n : Nat} (h : 0 < n) : (render n).head? ≠ some '0' := by
  induction n using Nat.strongRecOn with
  | ind n ih =>
      rw [render, Nat.toDigits_eq_if (by decide)]
      split
      next hlt =>
        have hdigit : ∀ m : Fin 10, 0 < m.val → m.val.digitChar ≠ '0' := by decide
        simpa using hdigit ⟨n, hlt⟩ h
      next hge =>
        have ih := ih (n / 10) (by omega) (by omega)
        obtain ⟨c, cs, hcs⟩ := List.exists_cons_of_ne_nil (render_ne_nil (n / 10))
        rw [hcs] at ih
        change (render (n / 10) ++ _).head? ≠ _
        rw [hcs]
        exact ih

@[simp] theorem toList_toString (n : Nat) : (toString n).toList = render n := by
  rw [Nat.toString_eq_ofList_toDigits, String.toList_ofList, render]

end Decimal

end Signpost
