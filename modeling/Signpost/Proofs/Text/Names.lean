import Mathlib.Data.List.Nodup

/-! # Distinct names

Values that are listed under names of their own. -/

namespace Signpost.Text

/-- No other value is listed under the name of one. -/
theorem exists_append_of_nodup_names {α : Type} {fields : List (String × α)} {name : String}
    {a : α} (hnames : (fields.map Prod.fst).Nodup) (h : (name, a) ∈ fields) :
    ∃ before later, fields = before ++ (name, a) :: later ∧
      (∀ field ∈ before, field.1 ≠ name) ∧ ∀ field ∈ later, field.1 ≠ name := by
  obtain ⟨before, later, rfl⟩ := List.append_of_mem h
  rw [List.map_append, List.map_cons, List.nodup_append, List.nodup_cons] at hnames
  obtain ⟨-, ⟨hlater, -⟩, hbefore⟩ := hnames
  dsimp only at hlater
  refine ⟨before, later, rfl, ?_, ?_⟩
  · intro field hfield
    exact hbefore field.1 (List.mem_map_of_mem hfield) name List.mem_cons_self
  · rintro field hfield rfl
    exact hlater (List.mem_map_of_mem (f := Prod.fst) hfield)

theorem lookup_eq_some_of_mem {α : Type} {fields : List (String × α)} {name : String} {a : α}
    (hnames : (fields.map Prod.fst).Nodup) (h : (name, a) ∈ fields) :
    fields.lookup name = some a := by
  obtain ⟨before, later, rfl, hbefore, -⟩ := exists_append_of_nodup_names hnames h
  refine List.lookup_eq_some_iff.mpr ⟨before, later, rfl, ?_⟩
  intro field hfield
  simpa using (hbefore field hfield).symm

end Signpost.Text
