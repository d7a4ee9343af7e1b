/-!
# Numerals

Natural numbers as decimal digits, and single hexadecimal digits. Every written numeral reads back
as its number. Hexadecimal digits of either case are read; the case of a written digit is the
writer's choice.
-/

namespace Signpost

namespace Decimal

def render (n : Nat) : List Char :=
  Nat.toDigits 10 n

/-- The number of a non-empty row of digits. -/
def read? (cs : List Char) : Option Nat :=
  if !cs.isEmpty && cs.all Char.isDigit then some (Nat.ofDigitChars 10 cs 0) else none

@[simp] theorem read?_render (n : Nat) : read? (render n) = some n := by
  have hall : (Nat.toDigits 10 n).all Char.isDigit = true :=
    List.all_eq_true.2 fun _ hc => Nat.isDigit_of_mem_toDigits (by decide) (by decide) hc
  have hne : (Nat.toDigits 10 n).isEmpty = false := by
    cases h : Nat.toDigits 10 n with
    | nil => exact absurd h Nat.toDigits_ne_nil
    | cons => rfl
  simp [read?, render, hall, hne, Nat.ofDigitChars_toDigits]

end Decimal

namespace Hex

/-- A digit in upper case. -/
def upper (n : Nat) : Char :=
  if n < 10 then Char.ofNat (0x30 + n) else Char.ofNat (0x37 + n)

/-- A digit in lower case. -/
def lower (n : Nat) : Char :=
  if n < 10 then Char.ofNat (0x30 + n) else Char.ofNat (0x57 + n)

/-- The value of a digit of either case. -/
def value? (c : Char) : Option Nat :=
  if '0' ≤ c && c ≤ '9' then some (c.toNat - 0x30)
  else if 'a' ≤ c && c ≤ 'f' then some (c.toNat - 0x57)
  else if 'A' ≤ c && c ≤ 'F' then some (c.toNat - 0x37)
  else none

theorem value?_upper {n : Nat} (h : n < 16) : value? (upper n) = some n := by
  have : ∀ n : Fin 16, value? (upper n) = some n.val := by decide
  exact this ⟨n, h⟩

theorem value?_lower {n : Nat} (h : n < 16) : value? (lower n) = some n := by
  have : ∀ n : Fin 16, value? (lower n) = some n.val := by decide
  exact this ⟨n, h⟩

end Hex

end Signpost
