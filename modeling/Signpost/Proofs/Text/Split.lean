import Signpost.Text.Cut

/-! # Splitting and joining

The parts of a text stand between its separators and hold none. Parts without separators that are
joined by one are the parts of what they make. -/

namespace Signpost.Text

theorem split_ne_nil (sep : Char → Bool) (cs : List Char) : split sep cs ≠ [] := by
  cases cs with
  | nil => simp [split]
  | cons c cs =>
      unfold split
      split
      · simp
      · split <;> simp

theorem split_cons_of_sep {sep : Char → Bool} {c : Char} (hc : sep c = true) (cs : List Char) :
    split sep (c :: cs) = [] :: split sep cs := by
  simp [split, hc]

theorem split_cons_of_not_sep {sep : Char → Bool} {c : Char} (hc : sep c = false)
    {cs part : List Char} {parts : List (List Char)} (hs : split sep cs = part :: parts) :
    split sep (c :: cs) = (c :: part) :: parts := by
  simp [split, hc, hs]

/-- No part holds a separator. -/
theorem not_sep_of_mem_split {sep : Char → Bool} {cs : List Char} :
    ∀ part ∈ split sep cs, ∀ c ∈ part, sep c = false := by
  induction cs with
  | nil => simp [split]
  | cons c cs ih =>
      by_cases hc : sep c = true
      · rw [split_cons_of_sep hc]
        intro part hpart
        rcases List.mem_cons.mp hpart with rfl | hpart
        · simp
        · exact ih part hpart
      · rw [Bool.not_eq_true] at hc
        obtain ⟨first, parts, hs⟩ := List.exists_cons_of_ne_nil (split_ne_nil sep cs)
        rw [split_cons_of_not_sep hc hs]
        rw [hs] at ih
        intro part hpart
        rcases List.mem_cons.mp hpart with rfl | hpart
        · intro d hd
          rcases List.mem_cons.mp hd with rfl | hd
          · exact hc
          · exact ih first List.mem_cons_self d hd
        · exact ih part (List.mem_cons_of_mem _ hpart)

/-- Text without separators goes to the first part of what stands behind it. -/
theorem split_append {sep : Char → Bool} {before : List Char} (hb : ∀ c ∈ before, sep c = false)
    {cs part : List Char} {parts : List (List Char)} (hs : split sep cs = part :: parts) :
    split sep (before ++ cs) = (before ++ part) :: parts := by
  induction before with
  | nil => exact hs
  | cons c before ih =>
      have hc := hb c List.mem_cons_self
      exact split_cons_of_not_sep hc (ih fun x hx => hb x (List.mem_cons_of_mem _ hx))

/-- A separator divides the parts before it from those behind it. -/
theorem split_append_sep {sep : Char → Bool} {c : Char} (hc : sep c = true)
    (before after : List Char) :
    split sep (before ++ c :: after) = split sep before ++ split sep after := by
  induction before with
  | nil => exact split_cons_of_sep hc after
  | cons d before ih =>
      by_cases hd : sep d = true
      · rw [List.cons_append, split_cons_of_sep hd, split_cons_of_sep hd, ih]
        rfl
      · rw [Bool.not_eq_true] at hd
        obtain ⟨part, parts, hs⟩ := List.exists_cons_of_ne_nil (split_ne_nil sep before)
        rw [hs] at ih
        rw [List.cons_append, split_cons_of_not_sep hd ih, split_cons_of_not_sep hd hs]
        rfl

theorem split_of_forall {sep : Char → Bool} {cs : List Char} (h : ∀ c ∈ cs, sep c = false) :
    split sep cs = [cs] := by
  have hnil : split sep [] = [[]] := rfl
  simpa using split_append h hnil

theorem exists_mem_split {c : Char} {cs : List Char} (hc : c ∈ cs) {sep : Char → Bool}
    (hsep : sep c = false) : ∃ part ∈ split sep cs, c ∈ part := by
  induction cs with
  | nil => cases hc
  | cons d cs ih =>
      by_cases hd : sep d = true
      · have hne : c ≠ d := by
          rintro rfl
          rw [hsep] at hd
          cases hd
        obtain ⟨part, hpart, hmem⟩ := ih ((List.mem_cons.mp hc).resolve_left hne)
        rw [split_cons_of_sep hd]
        exact ⟨part, List.mem_cons_of_mem _ hpart, hmem⟩
      · rw [Bool.not_eq_true] at hd
        obtain ⟨first, parts, hs⟩ := List.exists_cons_of_ne_nil (split_ne_nil sep cs)
        rw [split_cons_of_not_sep hd hs]
        rcases List.mem_cons.mp hc with rfl | hc
        · exact ⟨_, List.mem_cons_self, List.mem_cons_self⟩
        · obtain ⟨part, hpart, hmem⟩ := ih hc
          rw [hs] at hpart
          rcases List.mem_cons.mp hpart with rfl | hpart
          · exact ⟨_, List.mem_cons_self, List.mem_cons_of_mem _ hmem⟩
          · exact ⟨part, List.mem_cons_of_mem _ hpart, hmem⟩

theorem mem_of_mem_split {sep : Char → Bool} {cs part : List Char} (hp : part ∈ split sep cs)
    {c : Char} (hc : c ∈ part) : c ∈ cs := by
  induction cs generalizing part with
  | nil =>
      obtain rfl := List.mem_singleton.mp hp
      exact hc
  | cons d cs ih =>
      by_cases hd : sep d = true
      · rw [split_cons_of_sep hd] at hp
        rcases List.mem_cons.mp hp with rfl | hp
        · cases hc
        · exact List.mem_cons_of_mem _ (ih hp hc)
      · rw [Bool.not_eq_true] at hd
        obtain ⟨first, parts, hs⟩ := List.exists_cons_of_ne_nil (split_ne_nil sep cs)
        rw [split_cons_of_not_sep hd hs] at hp
        rw [hs] at ih
        rcases List.mem_cons.mp hp with rfl | hp
        · rcases List.mem_cons.mp hc with rfl | hc
          · exact List.mem_cons_self
          · exact List.mem_cons_of_mem _ (ih List.mem_cons_self hc)
        · exact List.mem_cons_of_mem _ (ih (List.mem_cons_of_mem _ hp) hc)

/-! ## Joined parts -/

/-- The parts of a text joined again are the text. -/
@[simp] theorem join_split (c : Char) (cs : List Char) : join [c] (split (· == c) cs) = cs := by
  induction cs with
  | nil => rfl
  | cons d cs ih =>
      by_cases hd : d = c
      · subst hd
        have hsep := @split_cons_of_sep (· == d) d (beq_self_eq_true d) cs
        rw [hsep, join_cons _ _ (split_ne_nil _ cs), ih]
        rfl
      · obtain ⟨first, parts, hs⟩ := List.exists_cons_of_ne_nil (split_ne_nil (· == c) cs)
        have hsep := @split_cons_of_not_sep (· == c) d (beq_eq_false_iff_ne.mpr hd) cs _ _ hs
        rw [hs] at ih
        rw [hsep]
        cases parts with
        | nil => exact congrArg (d :: ·) ih
        | cons next parts =>
            rw [join_cons _ _ (by simp)] at ih ⊢
            exact congrArg (d :: ·) ih

theorem mem_join {sep part : List Char} {parts : List (List Char)} (hp : part ∈ parts) {c : Char}
    (hc : c ∈ part) : c ∈ join sep parts := by
  induction parts with
  | nil => cases hp
  | cons first parts ih =>
      cases parts with
      | nil =>
          obtain rfl := List.mem_singleton.mp hp
          exact hc
      | cons next parts =>
          rw [join_cons _ _ (by simp)]
          rcases List.mem_cons.mp hp with rfl | hp
          · simp [hc]
          · exact List.mem_append_right _ (ih hp)

theorem mem_sep_or_of_mem_join {sep : List Char} {parts : List (List Char)} {c : Char}
    (hc : c ∈ join sep parts) : c ∈ sep ∨ ∃ part ∈ parts, c ∈ part := by
  induction parts with
  | nil => cases hc
  | cons part parts ih =>
      cases parts with
      | nil => exact .inr ⟨part, List.mem_cons_self, hc⟩
      | cons next parts =>
          rw [join_cons _ _ (by simp)] at hc
          rcases List.mem_append.mp hc with hc | hc
          · rcases List.mem_append.mp hc with hc | hc
            · exact .inr ⟨part, List.mem_cons_self, hc⟩
            · exact .inl hc
          · rcases ih hc with hc | ⟨part, hpart, hc⟩
            · exact .inl hc
            · exact .inr ⟨part, List.mem_cons_of_mem _ hpart, hc⟩

/-- Parts that hold no separator are read back. -/
theorem split_join {c : Char} {parts : List (List Char)} (hp : parts ≠ [])
    (h : ∀ part ∈ parts, ∀ x ∈ part, x ≠ c) : split (· == c) (join [c] parts) = parts := by
  induction parts with
  | nil => exact absurd rfl hp
  | cons part parts ih =>
      have hpart : ∀ x ∈ part, (x == c) = false := fun x hx =>
        beq_eq_false_iff_ne.mpr (h part List.mem_cons_self x hx)
      cases parts with
      | nil => exact split_of_forall hpart
      | cons next parts =>
          have hsplit := @split_append_sep (· == c) c (beq_self_eq_true c) part
            (join [c] (next :: parts))
          rw [join_cons _ _ (by simp), List.append_assoc, List.singleton_append, hsplit,
            split_of_forall hpart, ih (by simp) fun part hm => h part (List.mem_cons_of_mem _ hm)]
          rfl

end Signpost.Text
