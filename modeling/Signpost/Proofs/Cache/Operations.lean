import Signpost.Proofs.Cache.Entries

/-! # Operations on a cache

The operations of the counted cache as data, so that sequences of them can be spoken of. Of each
key an operation may write the entry, remove it, or remove it if it has expired, and leaves it
otherwise. -/

namespace Signpost.Shelf

inductive Operation where
  | get (key : String) (now : Time.Instant)
  | put (key : String) (url : Url) (now : Time.Instant)
  | putAll (entries : List Listing.Entry) (now : Time.Instant)
  | invalidate (key : String)
  | clear
  | sweep (now : Time.Instant)

inductive Reply where
  | found (url : Option Url)
  | stored
  | invalidated (present : Bool)
  | swept (count : Nat)

def perform (s : Shelf) : Operation → Reply × Shelf
  | .get key now => (.found (s.get key now).1, (s.get key now).2)
  | .put key url now => (.stored, s.put key url now)
  | .putAll entries now => (.stored, s.putAll entries now)
  | .invalidate key => (.invalidated (s.invalidate key).1, (s.invalidate key).2)
  | .clear => (.stored, s.clear)
  | .sweep now => (.swept (s.sweep now).1, (s.sweep now).2)

/-- Operations one after the other, with their replies. -/
def performAll (s : Shelf) : List Operation → List Reply × Shelf
  | [] => ([], s)
  | op :: ops =>
    let rest := (s.perform op).2.performAll ops
    ((s.perform op).1 :: rest.1, rest.2)

theorem performAll_append (s : Shelf) (ops more : List Operation) :
    s.performAll (ops ++ more) =
      ((s.performAll ops).1 ++ ((s.performAll ops).2.performAll more).1,
        ((s.performAll ops).2.performAll more).2) := by
  induction ops generalizing s with
  | nil => rfl
  | cons op ops ih => simp only [List.cons_append, performAll, ih]

@[simp] theorem length_performAll (s : Shelf) (ops : List Operation) :
    (s.performAll ops).1.length = ops.length := by
  induction ops generalizing s with
  | nil => rfl
  | cons op ops ih => simp only [performAll, List.length_cons, ih]

/-! ## What an operation does to a key -/

namespace Operation

/-- The URL that an operation writes under a key, and when. -/
def writes? (key : String) : Operation → Option (Url × Time.Instant)
  | .put k url now => if k = key then some (url, now) else none
  | .putAll entries now => (Listing.lastUrl? key entries).map (·, now)
  | _ => none

/-- Whether an operation removes a key, fresh or expired. -/
def removes (key : String) : Operation → Bool
  | .invalidate k => k == key
  | .clear => true
  | _ => false

/-- The instant at which an operation removes a key that has expired. -/
def purges? (key : String) : Operation → Option Time.Instant
  | .get k now => if k = key then some now else none
  | .sweep now => some now
  | _ => none

end Operation

/-! ## Look-ups -/

/-- The writing phase of a look-up looks again, so that alone it is a whole look-up. -/
theorem settle_eq_get (s : Shelf) (key : String) (now : Time.Instant) :
    s.settle key now = s.get key now := by
  unfold get peek
  cases hp : s.cache.peek key now <;> simp [settle, hp]

theorem get_fst_eq_some_iff {s : Shelf} {key : String} {now : Time.Instant} {url : Url} :
    (s.get key now).1 = some url ↔
      ∃ entry, s.cache.table.get? key = some entry ∧ entry.isFresh now = true ∧
        entry.url = url := by
  rw [← settle_eq_get, settle_fst, Cache.settle_eq_some_iff]

/-- A look-up finds the URL of an entry that is fresh. -/
theorem get_fst (s : Shelf) (key : String) (now : Time.Instant) :
    (s.get key now).1 = ((s.cache.table.get? key).filter (·.isFresh now)).map (·.url) := by
  ext url
  simp [get_fst_eq_some_iff, Option.filter_eq_some_iff, and_assoc]

@[simp] theorem get?_get (s : Shelf) (key : String) (now : Time.Instant) (other : String) :
    (s.get key now).2.cache.table.get? other =
      if other = key then (s.cache.table.get? other).filter (·.isFresh now)
      else s.cache.table.get? other := by
  rw [← settle_eq_get, settle_cache, Cache.get?_settle]

/-! ## Entries after an operation -/

@[simp] theorem perform_ttl (s : Shelf) (op : Operation) :
    (s.perform op).2.cache.ttl = s.cache.ttl := by
  cases op with
  | get key now =>
      rw [perform, ← settle_eq_get]
      exact (congrArg Cache.ttl (s.settle_cache key now)).trans (Cache.settle_ttl _ _ _)
  | putAll entries now => exact Cache.putAll_ttl _ _ _
  | _ => rfl

/-- Each key after an operation. -/
theorem get?_perform (s : Shelf) (op : Operation) (key : String) :
    (s.perform op).2.cache.table.get? key =
      match op.writes? key with
      | some (url, t) => some (s.cache.stored url t)
      | none =>
        if op.removes key then none
        else (op.purges? key).elim (s.cache.table.get? key) fun t =>
          (s.cache.table.get? key).filter (·.isFresh t) := by
  cases op with
  | get k now =>
      refine (get?_get s k now key).trans ?_
      by_cases hk : key = k
      · simp [Operation.writes?, Operation.removes, Operation.purges?, hk]
      · simp [Operation.writes?, Operation.removes, Operation.purges?, hk, Ne.symm hk]
  | put k url now =>
      refine (s.cache.get?_put k url now key).trans ?_
      by_cases hk : key = k
      · simp [Operation.writes?, hk]
      · simp [Operation.writes?, Operation.removes, Operation.purges?, hk, Ne.symm hk]
  | putAll entries now =>
      refine (s.cache.get?_putAll entries now key).trans ?_
      cases hu : Listing.lastUrl? key entries <;>
        simp [Operation.writes?, Operation.removes, Operation.purges?, hu]
  | invalidate k =>
      refine (s.cache.get?_invalidate k key).trans ?_
      by_cases hk : key = k
      · simp [Operation.writes?, Operation.removes, hk]
      · simp [Operation.writes?, Operation.removes, Operation.purges?, hk, Ne.symm hk]
  | clear => exact s.cache.get?_clear key
  | sweep now => exact s.cache.get?_sweep now key

/-- An entry after an operation has been written by it, or was there before and was neither
removed nor found expired. -/
theorem get?_perform_eq_some_iff {s : Shelf} {op : Operation} {key : String} {entry : Stored} :
    (s.perform op).2.cache.table.get? key = some entry ↔
      (∃ url t, op.writes? key = some (url, t) ∧ entry = s.cache.stored url t) ∨
      (op.writes? key = none ∧ op.removes key = false ∧
        (∀ seen, op.purges? key = some seen → entry.isFresh seen = true) ∧
        s.cache.table.get? key = some entry) := by
  rw [get?_perform]
  cases hw : op.writes? key with
  | some pair =>
      obtain ⟨url, t⟩ := pair
      constructor
      · intro h
        exact .inl ⟨url, t, rfl, (Option.some.inj h).symm⟩
      · rintro (⟨url', t', he, rfl⟩ | ⟨hn, _⟩)
        · obtain ⟨rfl, rfl⟩ := Prod.mk.inj (Option.some.inj he)
          rfl
        · cases hn
  | none =>
      cases hr : op.removes key with
      | true => simp
      | false =>
          cases hp : op.purges? key with
          | none => simp
          | some seen => simp [Option.filter_eq_some_iff, and_comm]

end Signpost.Shelf
