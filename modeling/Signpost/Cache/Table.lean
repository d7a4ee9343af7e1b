/-!
# Tables

Finite maps from keys to values, as pairs whose keys differ. Every operation is stated by what
`get?` reads afterwards.
-/

namespace Signpost

structure Table (α : Type) where
  entries : List (String × α)
  nodup : (entries.map Prod.fst).Nodup

namespace Table

variable {α : Type}

def empty : Table α :=
  ⟨[], by simp⟩

def get? (t : Table α) (key : String) : Option α :=
  t.entries.lookup key

def size (t : Table α) : Nat :=
  t.entries.length

/-- The pairs that pass a test. -/
def filter (t : Table α) (p : String × α → Bool) : Table α :=
  ⟨t.entries.filter p, t.nodup.sublist (List.filter_sublist.map _)⟩

def erase (t : Table α) (key : String) : Table α :=
  t.filter fun pair => pair.1 != key

def insert (t : Table α) (key : String) (value : α) : Table α :=
  ⟨(key, value) :: (t.erase key).entries, by
    refine List.nodup_cons.2 ⟨?_, (t.erase key).nodup⟩
    simp [erase, filter]⟩

@[simp] theorem get?_empty (key : String) : (empty : Table α).get? key = none :=
  rfl

theorem lookup_filter_ne (pairs : List (String × α)) (key other : String) :
    (pairs.filter fun pair => pair.1 != key).lookup other =
      if other = key then none else pairs.lookup other := by
  induction pairs with
  | nil => simp
  | cons pair pairs ih =>
    obtain ⟨k, v⟩ := pair
    by_cases hk : k = key
    · rw [List.filter_cons_of_neg (by simp [hk]), ih, List.lookup_cons]
      by_cases ho : other = key
      · simp [ho]
      · have : (other == k) = false := by simp [hk, ho]
        simp [this]
    · rw [List.filter_cons_of_pos (by simp [hk]), List.lookup_cons, List.lookup_cons, ih]
      by_cases ho : other = key
      · have : (other == k) = false := by simp [ho, Ne.symm hk]
        rw [if_pos ho, if_pos ho, this]
      · simp [ho]

@[simp] theorem get?_erase (t : Table α) (key other : String) :
    (t.erase key).get? other = if other = key then none else t.get? other :=
  lookup_filter_ne t.entries key other

@[simp] theorem get?_insert (t : Table α) (key other : String) (value : α) :
    (t.insert key value).get? other = if other = key then some value else t.get? other := by
  simp only [get?, insert, List.lookup_cons]
  by_cases h : other = key
  · simp [h]
  · have hb : (other == key) = false := by simp [h]
    have := get?_erase t key other
    simp only [get?] at this
    simp [hb, this, h]

end Signpost.Table
