import Mathlib.Data.List.Induction
import Mathlib.Data.Option.Basic
import Signpost.Cache.Shelf

/-! # The entries of a cache

Every operation on a cache is told by the entry that each key has afterwards. An entry is fresh
while less than the lifetime has passed since it was stored. -/

namespace Signpost

/-! ## Filtered tables -/

namespace Table

variable {α : Type}

theorem lookup_filter {pairs : List (String × α)} (hn : (pairs.map Prod.fst).Nodup)
    (p : String × α → Bool) (key : String) :
    (pairs.filter p).lookup key = (pairs.lookup key).filter fun value => p (key, value) := by
  induction pairs with
  | nil => rfl
  | cons pair pairs ih =>
      obtain ⟨k, v⟩ := pair
      rw [List.map_cons, List.nodup_cons] at hn
      have ih := ih hn.2
      by_cases hk : key = k
      · subst hk
        have hnone : pairs.lookup key = none := by
          rw [List.lookup_eq_none_iff]
          intro pair hpair
          have hne : key ≠ pair.1 := fun he => hn.1 (List.mem_map.mpr ⟨pair, hpair, he.symm⟩)
          simpa using hne
        rw [hnone] at ih
        by_cases hp : p (key, v) = true
        · simp [List.filter_cons_of_pos hp, Option.filter_some, hp]
        · simp [List.filter_cons_of_neg hp, Option.filter_some, hp, ih]
      · have hb : (key == k) = false := by simpa using hk
        by_cases hp : p (k, v) = true
        · simp only [List.filter_cons_of_pos hp, List.lookup_cons, hb, ih]
        · simp only [List.filter_cons_of_neg hp, List.lookup_cons, hb, ih]

@[simp] theorem get?_filter (t : Table α) (p : String × α → Bool) (key : String) :
    (t.filter p).get? key = (t.get? key).filter fun value => p (key, value) :=
  lookup_filter t.nodup p key

end Table

/-! ## Listings -/

/-- The URL of the last entry of a listing under a key. -/
def Listing.lastUrl? (key : String) (entries : List Listing.Entry) : Option Url :=
  ((entries.filter (·.urn == key)).getLast?).map (·.url)

@[simp] theorem Listing.lastUrl?_append (key : String) (entries : List Listing.Entry)
    (entry : Listing.Entry) :
    lastUrl? key (entries ++ [entry]) =
      if entry.urn = key then some entry.url else lastUrl? key entries := by
  by_cases hk : entry.urn = key <;> simp [lastUrl?, hk]

namespace Cache

/-! ## What the operations leave -/

/-- An entry depends on its cache only through the lifetime. -/
theorem stored_congr {c c' : Cache} (h : c'.ttl = c.ttl) : c'.stored = c.stored := by
  funext url now
  rw [stored, stored, h]

@[simp] theorem putAll_ttl (c : Cache) (entries : List Listing.Entry) (now : Time.Instant) :
    (c.putAll entries now).ttl = c.ttl := by
  induction entries using List.reverseRecOn with
  | nil => rfl
  | append_singleton entries entry ih =>
      rw [putAll, List.foldl_append]
      exact ih

@[simp] theorem settle_ttl (c : Cache) (key : String) (now : Time.Instant) :
    (c.settle key now).2.ttl = c.ttl := by
  unfold settle
  split
  · rfl
  · split <;> rfl

@[simp]
theorem get?_put (c : Cache) (key : String) (url : Url) (now : Time.Instant) (other : String) :
    (c.put key url now).table.get? other =
      if other = key then some (c.stored url now) else c.table.get? other :=
  c.table.get?_insert key other (c.stored url now)

/-- Of a listing that is stored each key gets its last entry. -/
@[simp] theorem get?_putAll (c : Cache) (entries : List Listing.Entry) (now : Time.Instant)
    (key : String) :
    (c.putAll entries now).table.get? key =
      ((Listing.lastUrl? key entries).map (c.stored · now)).or (c.table.get? key) := by
  induction entries using List.reverseRecOn with
  | nil => rfl
  | append_singleton entries entry ih =>
      have hstored := stored_congr (c.putAll_ttl entries now)
      have hput : c.putAll (entries ++ [entry]) now =
          (c.putAll entries now).put entry.urn entry.url now := by
        rw [putAll, List.foldl_append]
        rfl
      rw [hput, get?_put, hstored, ih, Listing.lastUrl?_append]
      by_cases hk : key = entry.urn
      · simp [hk]
      · simp [hk, Ne.symm hk]

@[simp] theorem get?_invalidate (c : Cache) (key other : String) :
    (c.invalidate key).2.table.get? other = if other = key then none else c.table.get? other :=
  c.table.get?_erase key other

@[simp] theorem get?_clear (c : Cache) (key : String) : c.clear.table.get? key = none :=
  Table.get?_empty key

@[simp] theorem get?_sweep (c : Cache) (now : Time.Instant) (key : String) :
    (c.sweep now).2.table.get? key = (c.table.get? key).filter (·.isFresh now) :=
  c.table.get?_filter _ key

/-- A settled look-up leaves every entry but an expired one of its key. -/
@[simp] theorem get?_settle (c : Cache) (key : String) (now : Time.Instant) (other : String) :
    (c.settle key now).2.table.get? other =
      if other = key then (c.table.get? other).filter (·.isFresh now)
      else c.table.get? other := by
  unfold settle
  split
  next hnone => by_cases ho : other = key <;> simp [ho, hnone]
  next entry hsome =>
    split
    next hf => by_cases ho : other = key <;> simp [ho, hsome, Option.filter_some, hf]
    next hf =>
      rw [Table.get?_erase]
      by_cases ho : other = key <;> simp [ho, hsome, Option.filter_some, hf]

/-! ## What look-ups see -/

theorem peek_eq_fresh_iff {c : Cache} {key : String} {now : Time.Instant} {url : Url} :
    c.peek key now = .fresh url ↔
      ∃ entry, c.table.get? key = some entry ∧ entry.isFresh now = true ∧ entry.url = url := by
  unfold peek
  cases hg : c.table.get? key with
  | none => simp
  | some entry => by_cases hf : entry.isFresh now = true <;> simp [hf]

/-- A settled look-up finds what a fresh entry holds. -/
theorem settle_eq_some_iff {c : Cache} {key : String} {now : Time.Instant} {url : Url} :
    (c.settle key now).1 = some url ↔
      ∃ entry, c.table.get? key = some entry ∧ entry.isFresh now = true ∧ entry.url = url := by
  unfold settle
  cases hg : c.table.get? key with
  | none => simp
  | some entry => by_cases hf : entry.isFresh now = true <;> simp [hf]

/-! ## Lifetimes -/

/-- From when on an entry stored at an instant is expired, in nanoseconds: a lifetime later, or at
the latest instant if there is none then. -/
def expiryNs (ttl : Time.Span) (t : Time.Instant) : Int :=
  if Time.earliestNs ≤ t.ns + ttl.ns ∧ t.ns + ttl.ns ≤ Time.latestNs then t.ns + ttl.ns
  else Time.latestNs

theorem stored_isFresh_iff_lt {c : Cache} {url : Url} {t now : Time.Instant} :
    (c.stored url t).isFresh now = true ↔ now.ns < expiryNs c.ttl t := by
  have hlt : (c.stored url t).isFresh now = true ↔
      now.ns < ((t.add? c.ttl).getD .latest).ns := decide_eq_true_iff
  rw [hlt, Time.Instant.add?, Time.Instant.ofNs?, expiryNs]
  split <;> rfl

/-- With a lifetime that is not negative an entry is fresh for as long, but not at the latest
instant there is. -/
theorem stored_isFresh_iff {c : Cache} (hc : 0 ≤ c.ttl.ns) (url : Url)
    (now later : Time.Instant) :
    (c.stored url now).isFresh later = true ↔
      later.ns < now.ns + c.ttl.ns ∧ later.ns < Time.latestNs := by
  have hlow := now.earliest_le
  rw [stored_isFresh_iff_lt, expiryNs]
  split <;> omega

end Cache

/-! ## Counted look-ups -/

namespace Shelf

theorem settle_fst (s : Shelf) (key : String) (now : Time.Instant) :
    (s.settle key now).1 = (s.cache.settle key now).1 := by
  unfold settle Cache.peek Cache.settle
  cases s.cache.table.get? key with
  | none => rfl
  | some entry => by_cases hf : entry.isFresh now = true <;> simp [hf]

theorem settle_cache (s : Shelf) (key : String) (now : Time.Instant) :
    (s.settle key now).2.cache = (s.cache.settle key now).2 := by
  unfold settle Cache.peek Cache.settle
  cases s.cache.table.get? key with
  | none => rfl
  | some entry => by_cases hf : entry.isFresh now = true <;> simp [hf, replace]

end Shelf

end Signpost
