/-!
# Cutting a text at separators

`cut` divides a text at the first separator and `pieces` divides it into at most a given number of
parts, the last of which keeps the separators that are left.
-/

namespace Signpost.Text

/-- What stands before the first separator, and what stands behind it if there is one. -/
def cut (sep : Char → Bool) : List Char → List Char × Option (List Char)
  | [] => ([], none)
  | c :: cs =>
    if sep c then ([], some cs)
    else
      let (before, after) := cut sep cs
      (c :: before, after)

/-- The parts of a text between separators, at most `limit + 1` of them. -/
def pieces (sep : Char → Bool) : Nat → List Char → List (List Char)
  | 0, cs => [cs]
  | limit + 1, cs =>
    match cut sep cs with
    | (before, none) => [before]
    | (before, some after) => before :: pieces sep limit after

/-- All parts of a text between separators. -/
def split (sep : Char → Bool) : List Char → List (List Char)
  | [] => [[]]
  | c :: cs =>
    if sep c then [] :: split sep cs
    else
      match split sep cs with
      | [] => [[c]]
      | part :: parts => (c :: part) :: parts

/-- Parts joined by a separator. -/
def join (sep : List Char) : List (List Char) → List Char
  | [] => []
  | [part] => part
  | part :: parts => part ++ sep ++ join sep parts

theorem cut_of_forall {sep : Char → Bool} {cs : List Char} (h : ∀ c ∈ cs, sep c = false) :
    cut sep cs = (cs, none) := by
  induction cs with
  | nil => rfl
  | cons c cs ih =>
    simp only [List.mem_cons, forall_eq_or_imp] at h
    simp [cut, h.1, ih h.2]

theorem cut_append {sep : Char → Bool} {before after : List Char} {c : Char}
    (h : ∀ x ∈ before, sep x = false) (hc : sep c = true) :
    cut sep (before ++ c :: after) = (before, some after) := by
  induction before with
  | nil => simp [cut, hc]
  | cons x before ih =>
    simp only [List.mem_cons, forall_eq_or_imp] at h
    simp [cut, h.1, ih h.2]

/-- A cut loses nothing but the separator. -/
@[simp] theorem join_cut (c : Char) (cs : List Char) :
    (cut (· == c) cs).1 ++ ((cut (· == c) cs).2.map (c :: ·)).getD [] = cs := by
  induction cs with
  | nil => rfl
  | cons d cs ih =>
    by_cases hd : d = c
    · simp [cut, hd]
    · simpa [cut, hd] using ih

/-! ### Pieces -/

theorem pieces_ne_nil (sep : Char → Bool) (limit : Nat) (cs : List Char) :
    pieces sep limit cs ≠ [] := by
  cases limit with
  | zero => simp [pieces]
  | succ limit =>
    unfold pieces
    split <;> simp

theorem length_pieces_le (sep : Char → Bool) (limit : Nat) (cs : List Char) :
    (pieces sep limit cs).length ≤ limit + 1 := by
  induction limit generalizing cs with
  | zero => simp [pieces]
  | succ limit ih =>
    unfold pieces
    split
    · simp
    · next after _ =>
      have := ih after
      simpa using this

theorem join_cons (sep part : List Char) {parts : List (List Char)} (h : parts ≠ []) :
    join sep (part :: parts) = part ++ sep ++ join sep parts := by
  cases parts with
  | nil => exact absurd rfl h
  | cons => rfl

/-- The pieces of a text joined again are the text. -/
@[simp] theorem join_pieces (c : Char) (limit : Nat) (cs : List Char) :
    join [c] (pieces (· == c) limit cs) = cs := by
  induction limit generalizing cs with
  | zero => rfl
  | succ limit ih =>
    have hcut := join_cut c cs
    unfold pieces
    split
    · next before h =>
      rw [h] at hcut
      simpa [join] using hcut
    · next before after h =>
      rw [h] at hcut
      rw [join_cons _ _ (pieces_ne_nil _ _ _), ih]
      simpa using hcut

/-- A part without separators in front of a separator is the first piece. -/
theorem pieces_append {sep : Char → Bool} {before after : List Char} {c : Char}
    (h : ∀ x ∈ before, sep x = false) (hc : sep c = true) (limit : Nat) :
    pieces sep (limit + 1) (before ++ c :: after) = before :: pieces sep limit after := by
  rw [pieces, cut_append h hc]

/-- A text without separators is its only piece. -/
theorem pieces_of_forall {sep : Char → Bool} {cs : List Char} (h : ∀ x ∈ cs, sep x = false)
    (limit : Nat) : pieces sep limit cs = [cs] := by
  cases limit with
  | zero => rfl
  | succ limit => rw [pieces, cut_of_forall h]

end Signpost.Text
