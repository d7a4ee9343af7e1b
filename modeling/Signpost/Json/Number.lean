import Signpost.Text.Numeral

/-!
# JSON numbers

A number is kept as it is written, so that no digit is lost. As a double it is the product of a
significand, which is as many of its leading digits as fit into 64 bits, and a power of ten, each
rounded before they are multiplied.
-/

namespace Signpost.Json

/-- The digits before the point as one number, the digits behind it, and the exponent. -/
structure Number where
  negative : Bool
  whole : Nat
  fraction : Option (List Char)
  exponent : Option Int
  deriving DecidableEq, Repr

namespace Number

def ofNat (n : Nat) : Number :=
  ⟨false, n, none, none⟩

/-- Whether a number is written as digits alone. -/
def isNatural (n : Number) : Bool :=
  !n.negative && n.fraction.isNone && n.exponent.isNone

/-- Appends digits to a significand while it fits into 64 bits, and keeps those that are left. -/
def fit : Nat → List Char → Nat × List Char
  | n, [] => (n, [])
  | n, c :: cs =>
    let m := n * 10 + (c.toNat - '0'.toNat)
    if m < 18446744073709551616 then fit m cs else (n, c :: cs)

/-- The significand, and the power of ten that it stands before. A digit of the fraction may fit
where one before the point did not. -/
def parts (n : Number) : Nat × Int :=
  let fraction := n.fraction.getD []
  let (whole, left) := fit 0 (Decimal.render n.whole)
  let (significand, dropped) := fit whole fraction
  (significand, left.length - (fraction.length - dropped.length) + n.exponent.getD 0)

/-- A number rounded to 53 significant bits, a tie to its even neighbour. -/
def roundBits (n : Nat) : Nat :=
  let unit := Nat.pow 2 (n.log2 - 52)
  let floor := n / unit
  let rest := 2 * (n % unit)
  let up := unit < rest || (rest == unit && floor % 2 == 1)
  (if up then floor + 1 else floor) * unit

/-- The least product that rounds to infinity. -/
def overflow : Nat := Nat.pow 2 1024 - Nat.pow 2 970

/-- Whether a number is finite as a double. -/
def isFinite (n : Number) : Bool :=
  let (significand, exponent) := n.parts
  significand == 0 || exponent < 0 ||
    (exponent ≤ 308 && roundBits significand * roundBits (Nat.pow 10 exponent.toNat) < overflow)

end Signpost.Json.Number
