import Signpost.Text.Cut

/-!
# Punycode

The ASCII form of a label with characters outside ASCII: the basic characters, then the others in
the order of their code points as differences written in base 36. Reading takes the digits one by
one and puts a character in its place at the end of every difference.
-/

namespace Signpost.Url.Punycode

/-- The digits `a` to `z`, then `0` to `9`. -/
def digit (d : Nat) : Char :=
  if d < 26 then Char.ofNat (0x61 + d) else Char.ofNat (0x16 + d)

/-- The value of a digit. -/
def value? (c : Char) : Option Nat :=
  if c.isLower then some (c.toNat - 0x61)
  else if c.isDigit then some (c.toNat - 0x16)
  else none

/-- The value from which the digit at position `k` is not the last one. -/
def threshold (bias k : Nat) : Nat :=
  if k ≤ bias then 1 else if bias + 26 ≤ k then 26 else k - bias

theorem threshold_bounds (bias k : Nat) : 1 ≤ threshold bias k ∧ threshold bias k ≤ 26 := by
  unfold threshold; split
  · omega
  · split <;> omega

/-- A difference as digits, the least significant first. -/
def writeDelta (bias k n : Nat) : List Char :=
  let t := threshold bias k
  if n < t then [digit n]
  else digit (t + (n - t) % (36 - t)) :: writeDelta bias (k + 36) ((n - t) / (36 - t))
termination_by n
decreasing_by
  have := threshold_bounds bias k
  exact Nat.lt_of_le_of_lt (Nat.div_le_self _ _) (by omega)

def adaptSteps (delta k : Nat) : Nat :=
  if 455 < delta then adaptSteps (delta / 35) (k + 36) else k + 36 * delta / (delta + 38)
termination_by delta
decreasing_by exact Nat.div_lt_self (by omega) (by omega)

/-- The bias for the next difference. -/
def adapt (delta count : Nat) (first : Bool) : Nat :=
  let delta := if first then delta / 700 else delta / 2
  adaptSteps (delta + delta / count) 0

/-! ### Writing -/

structure Progress where
  output : List Char
  delta : Nat
  bias : Nat
  count : Nat

/-- Passes one character while the code point `m` is being placed. -/
def place (basic m : Nat) (p : Progress) (c : Char) : Progress :=
  if c.toNat < m then { p with delta := p.delta + 1 }
  else if c.toNat = m then
    { output := p.output ++ writeDelta p.bias 36 p.delta
      delta := 0
      bias := adapt p.delta (p.count + 1) (p.count == basic)
      count := p.count + 1 }
  else p

/-- Places the given code points, which ascend, into the label. -/
def placeAll (label : List Char) (basic : Nat) : Nat → Progress → List Nat → Progress
  | _, p, [] => p
  | next, p, m :: rest =>
    let p := { p with delta := p.delta + (m - next) * (p.count + 1) }
    let p := label.foldl (place basic m) p
    placeAll label basic (m + 1) { p with delta := p.delta + 1 } rest

def encode (label : List Char) : List Char :=
  let basic := label.filter (·.toNat < 0x80)
  let others := ((label.filter (0x80 ≤ ·.toNat)).map Char.toNat).mergeSort (· ≤ ·)
  let stem := if basic.isEmpty then [] else basic ++ ['-']
  stem ++ (placeAll label basic.length 0x80 ⟨[], 0, 72, basic.length⟩ others.eraseDups).output

/-! ### Reading -/

/-- Sums and weights stay below this limit. -/
def limit : Nat := 4294967296

/-- A label being read: its characters, the code point and the bias reached, where the difference
under way started, its sum so far, and the weight and the position of its next digit. -/
structure Reading where
  output : List Char
  point : Nat
  bias : Nat
  start : Nat
  sum : Nat
  weight : Nat
  position : Nat

/-- Puts in the character that a finished difference leads to. -/
def Reading.insert (r : Reading) : Option Reading :=
  let count := r.output.length + 1
  let point := r.point + r.sum / count
  let place := r.sum % count
  if point.isValidChar then
    some
      { output := r.output.take place ++ Char.ofNat point :: r.output.drop place
        point
        bias := adapt (r.sum - r.start) count (r.start == 0)
        start := place + 1
        sum := place + 1
        weight := 1
        position := 36 }
  else none

def Reading.step (r : Reading) (c : Char) : Option Reading := do
  let d ← value? c
  let t := threshold r.bias r.position
  let r := { r with sum := r.sum + d * r.weight }
  if limit ≤ r.sum then none
  else if d < t then r.insert
  else
    let weight := r.weight * (36 - t)
    if limit ≤ weight then none else some { r with weight, position := r.position + 36 }

/-- The basic characters of a form, and its digits behind the last hyphen. -/
def cutBasic (cs : List Char) : List Char × List Char :=
  match Text.cut (· == '-') cs.reverse with
  | (digits, some (c :: before)) => ((c :: before).reverse, digits.reverse)
  | _ => ([], cs)

/-- The label of a form; no difference is left unfinished. -/
def decode? (cs : List Char) : Option (List Char) := do
  let (basic, digits) := cutBasic cs
  let r ← digits.foldlM Reading.step ⟨basic, 0x80, 72, 0, 0, 1, 36⟩
  if r.position = 36 then some r.output else none

end Signpost.Url.Punycode
