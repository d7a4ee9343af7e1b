import Signpost.Proofs.Cache.Operations

/-! # Answers of a cache

What a look-up finds is told by the operations before it: the last write of its key, unless the key
was removed since or the entry had expired, be it now or at an instant at which an operation looked
at it. As long as the clock does not run backwards, looking early makes no difference. -/

namespace Signpost.Shelf

/-! ## Entries that stand -/

/-- An operation that leaves an entry stored at an instant where it is. -/
structure Operation.Spares (ttl : Time.Span) (key : String) (t : Time.Instant)
    (op : Operation) : Prop where
  unwritten : op.writes? key = none
  unremoved : op.removes key = false
  unpurged : ∀ seen, op.purges? key = some seen → seen.ns < Cache.expiryNs ttl t

/-- The last write of a key wrote this URL at this instant, and what followed spared it. -/
def Stands (ttl : Time.Span) (ops : List Operation) (key : String) (url : Url)
    (t : Time.Instant) : Prop :=
  ∃ before op later, ops = before ++ op :: later ∧ op.writes? key = some (url, t) ∧
    ∀ next ∈ later, next.Spares ttl key t

variable {ttl : Time.Span} {ops : List Operation} {key : String}

theorem not_stands_nil {url : Url} {t : Time.Instant} : ¬Stands ttl [] key url t := by
  rintro ⟨before, op, later, he, _⟩
  simp at he

theorem stands_append_singleton {op : Operation} {url : Url} {t : Time.Instant} :
    Stands ttl (ops ++ [op]) key url t ↔
      op.writes? key = some (url, t) ∨ (op.Spares ttl key t ∧ Stands ttl ops key url t) := by
  constructor
  · rintro ⟨before, written, later, he, hw, hl⟩
    cases later using List.reverseRecOn with
    | nil =>
        obtain ⟨rfl, hop⟩ := List.append_inj' he rfl
        obtain rfl := List.singleton_inj.mp hop
        exact .inl hw
    | append_singleton later last =>
        rw [← List.cons_append, ← List.append_assoc] at he
        obtain ⟨rfl, hop⟩ := List.append_inj' he rfl
        obtain rfl := List.singleton_inj.mp hop
        refine .inr ⟨hl op (by simp), before, written, later, rfl, hw, ?_⟩
        intro next hnext
        exact hl next (by simp [hnext])
  · rintro (hw | ⟨hop, before, written, later, rfl, hw, hl⟩)
    · exact ⟨ops, op, [], rfl, hw, by simp⟩
    · refine ⟨before, written, later ++ [op], by simp, hw, ?_⟩
      intro next hnext
      rcases List.mem_append.mp hnext with hnext | hnext
      · exact hl next hnext
      · obtain rfl := List.mem_singleton.mp hnext
        exact hop

/-! ## Entries and the operations before -/

@[simp] theorem performAll_ttl (s : Shelf) (ops : List Operation) :
    (s.performAll ops).2.cache.ttl = s.cache.ttl := by
  induction ops generalizing s with
  | nil => rfl
  | cons op ops ih => exact (ih _).trans (s.perform_ttl op)

theorem performAll_append_singleton (s : Shelf) (ops : List Operation) (op : Operation) :
    (s.performAll (ops ++ [op])).2 = ((s.performAll ops).2.perform op).2 := by
  rw [performAll_append]
  rfl

/-- The entries after operations are those that stand. -/
theorem get?_performAll_iff {entry : Stored} :
    ((empty ttl).performAll ops).2.cache.table.get? key = some entry ↔
      ∃ url t, Stands ttl ops key url t ∧ entry = (empty ttl).cache.stored url t := by
  induction ops using List.reverseRecOn with
  | nil =>
      simp only [not_stands_nil, false_and, exists_false, iff_false]
      exact fun he => nomatch he
  | append_singleton ops op ih =>
      have hstored := Cache.stored_congr ((empty ttl).performAll_ttl ops)
      simp only [performAll_append_singleton, get?_perform_eq_some_iff, stands_append_singleton,
        ih, hstored]
      constructor
      · rintro (⟨url, t, hw, rfl⟩ | ⟨hw, hr, hp, url, t, hs, rfl⟩)
        · exact ⟨url, t, .inl hw, rfl⟩
        · refine ⟨url, t, .inr ⟨⟨hw, hr, ?_⟩, hs⟩, rfl⟩
          exact fun seen hseen => Cache.stored_isFresh_iff_lt.mp (hp seen hseen)
      · rintro ⟨url, t, hw | ⟨hop, hs⟩, rfl⟩
        · exact .inl ⟨url, t, hw, rfl⟩
        · refine .inr ⟨hop.unwritten, hop.unremoved, ?_, url, t, hs, rfl⟩
          exact fun seen hseen => Cache.stored_isFresh_iff_lt.mpr (hop.unpurged seen hseen)

/-- A look-up finds the URL of the write that stands, if that has not expired. -/
theorem get_performAll_iff {now : Time.Instant} {url : Url} :
    (((empty ttl).performAll ops).2.get key now).1 = some url ↔
      ∃ t, Stands ttl ops key url t ∧ now.ns < Cache.expiryNs ttl t := by
  rw [get_fst_eq_some_iff]
  constructor
  · rintro ⟨entry, he, hf, rfl⟩
    obtain ⟨url, t, hs, rfl⟩ := get?_performAll_iff.mp he
    exact ⟨t, hs, Cache.stored_isFresh_iff_lt.mp hf⟩
  · rintro ⟨t, hs, hlt⟩
    exact ⟨_, get?_performAll_iff.mpr ⟨url, t, hs, rfl⟩, Cache.stored_isFresh_iff_lt.mpr hlt, rfl⟩

/-! ## Looking early -/

/-- The instant that an operation takes for the present. -/
def Operation.time? : Operation → Option Time.Instant
  | .get _ now => some now
  | .put _ _ now => some now
  | .putAll _ now => some now
  | .sweep now => some now
  | _ => none

/-- Whether an operation changes nothing but that it removes what has expired. -/
def Operation.isCheck : Operation → Bool
  | .get _ _ => true
  | .sweep _ => true
  | _ => false

/-- What a reply tells of a look-up. -/
def Reply.found? : Reply → Option (Option Url)
  | .found url => some url
  | _ => none

/-- Two shelves that hold the same entries as far as these are fresh at an instant or later. -/
structure AlikeFrom (t : Time.Instant) (s s' : Shelf) : Prop where
  ttl_eq : s.cache.ttl = s'.cache.ttl
  fresh_eq : ∀ key now, t ≤ now →
    (s.cache.table.get? key).filter (·.isFresh now) =
      (s'.cache.table.get? key).filter (·.isFresh now)

/-- What is fresh at an instant was fresh before. -/
theorem filter_isFresh_of_le {t now : Time.Instant} (hle : t ≤ now) (entry : Option Stored) :
    (entry.filter (·.isFresh t)).filter (·.isFresh now) = entry.filter (·.isFresh now) ∧
      (entry.filter (·.isFresh now)).filter (·.isFresh t) = entry.filter (·.isFresh now) := by
  have hmono (entry : Stored) (hf : entry.isFresh now = true) : entry.isFresh t = true :=
    decide_eq_true (Int.lt_of_le_of_lt hle (of_decide_eq_true hf))
  cases entry with
  | none => exact ⟨rfl, rfl⟩
  | some entry =>
      cases hf : entry.isFresh now with
      | false => cases ht : entry.isFresh t <;> simp [Option.filter_some, hf, ht]
      | true => simp [Option.filter_some, hf, hmono entry hf]

theorem Operation.time?_of_purges? {op : Operation} {seen : Time.Instant}
    (h : op.purges? key = some seen) : op.time? = some seen := by
  cases op with
  | get k now =>
      simp only [purges?, Option.ite_none_right_eq_some] at h
      exact h.2
  | sweep now => exact h
  | _ => cases h

/-- What has expired at an instant makes no difference from then on. -/
theorem AlikeFrom.check {s : Shelf} {op : Operation} {t : Time.Instant}
    (hop : op.isCheck = true) (ht : op.time? = some t) : AlikeFrom t (s.perform op).2 s := by
  have hw (key : String) : op.writes? key = none := by cases op <;> first | rfl | cases hop
  have hr (key : String) : op.removes key = false := by cases op <;> first | rfl | cases hop
  refine ⟨s.perform_ttl op, ?_⟩
  intro key now hnow
  rw [get?_perform, hw, hr]
  cases hp : op.purges? key with
  | none => rfl
  | some seen =>
      obtain rfl := Option.some.inj (ht.symm.trans (Operation.time?_of_purges? hp))
      exact (filter_isFresh_of_le hnow _).1

theorem AlikeFrom.perform {t : Time.Instant} {s s' : Shelf} (h : AlikeFrom t s s')
    {op : Operation} (hop : ∀ now, op.time? = some now → t ≤ now) :
    AlikeFrom t (s.perform op).2 (s'.perform op).2 ∧
      (s.perform op).1.found? = (s'.perform op).1.found? := by
  refine ⟨⟨?_, ?_⟩, ?_⟩
  · rw [perform_ttl, perform_ttl, h.ttl_eq]
  · intro key now hnow
    have hfresh := h.fresh_eq key
    rw [get?_perform, get?_perform]
    cases hw : op.writes? key with
    | some pair => simp [Cache.stored, h.ttl_eq]
    | none =>
        cases hr : op.removes key with
        | true => rfl
        | false =>
            cases hp : op.purges? key with
            | none => exact hfresh now hnow
            | some seen =>
                have hseen := hop seen (Operation.time?_of_purges? hp)
                simp only [Bool.false_eq_true, ↓reduceIte, Option.elim_some]
                -- Of the two instants the later one decides, since what is fresh then was before.
                rcases Int.le_total seen.ns now.ns with hle | hle
                · rw [(filter_isFresh_of_le hle _).1, (filter_isFresh_of_le hle _).1,
                    hfresh now hnow]
                · rw [(filter_isFresh_of_le hle _).2, (filter_isFresh_of_le hle _).2,
                    hfresh seen hseen]
  · cases op with
    | get key now =>
        have hfresh := h.fresh_eq key now (hop now rfl)
        simp only [Shelf.perform, Reply.found?, get_fst, hfresh]
    | _ => rfl

theorem AlikeFrom.performAll {t : Time.Instant} {s s' : Shelf} (h : AlikeFrom t s s')
    {ops : List Operation} (hops : ∀ op ∈ ops, ∀ now, op.time? = some now → t ≤ now) :
    (s.performAll ops).1.map Reply.found? = (s'.performAll ops).1.map Reply.found? := by
  induction ops generalizing s s' with
  | nil => rfl
  | cons op ops ih =>
      simp only [List.mem_cons, forall_eq_or_imp] at hops
      obtain ⟨hs, hr⟩ := h.perform hops.1
      simp only [Shelf.performAll, List.map_cons, hr, ih hs hops.2]

theorem Operation.exists_time_of_isCheck {op : Operation} (h : op.isCheck = true) :
    ∃ t, op.time? = some t := by
  cases op with
  | get key now => exact ⟨now, rfl⟩
  | sweep now => exact ⟨now, rfl⟩
  | _ => cases h

theorem exists_append_cons_of_getElem? {α : Type} {l : List α} {k : Nat} {a : α}
    (h : l[k]? = some a) : ∃ before later, l = before ++ a :: later ∧ k = before.length := by
  obtain ⟨hk, rfl⟩ := List.getElem?_eq_some_iff.mp h
  exact ⟨l.take k, l.drop (k + 1), by simp, by rw [List.length_take]; omega⟩

/-- If the clock does not run backwards, a check can be left out. -/
theorem found?_eraseIdx (htimes : (ops.filterMap Operation.time?).Pairwise (· ≤ ·)) {k : Nat}
    {op : Operation} (hk : ops[k]? = some op) (hop : op.isCheck = true) :
    (((empty ttl).performAll ops).1.eraseIdx k).map Reply.found? =
      ((empty ttl).performAll (ops.eraseIdx k)).1.map Reply.found? := by
  obtain ⟨before, later, rfl, rfl⟩ := exists_append_cons_of_getElem? hk
  obtain ⟨t, ht⟩ := Operation.exists_time_of_isCheck hop
  have hlater : ∀ next ∈ later, ∀ now, next.time? = some now → t ≤ now := by
    intro next hnext now hnow
    rw [List.filterMap_append, List.filterMap_cons_some ht] at htimes
    have hcons := (List.pairwise_append.mp htimes).2.1
    exact List.rel_of_pairwise_cons hcons (List.mem_filterMap.mpr ⟨next, hnext, hnow⟩)
  have hlength := length_performAll (empty ttl) before
  have halike := AlikeFrom.check (s := ((empty ttl).performAll before).2) hop ht
  rw [List.eraseIdx_append_of_length_le (Nat.le_refl _), performAll_append, performAll_append,
    List.eraseIdx_append_of_length_le (Nat.le_of_eq hlength), hlength]
  simp only [Nat.sub_self, List.eraseIdx_cons_zero, performAll, List.map_append,
    halike.performAll hlater]

/-! ## The law of answers -/

/-- What a cache answers after operations, and when one of them makes no difference. -/
structure AnswerSpec (ttl : Time.Span) (ops : List Operation) : Prop where
  get_iff : ∀ key now url, (((empty ttl).performAll ops).2.get key now).1 = some url ↔
    ∃ t, Stands ttl ops key url t ∧ now.ns < Cache.expiryNs ttl t
  early : (ops.filterMap Operation.time?).Pairwise (· ≤ ·) → ∀ k op, ops[k]? = some op →
    op.isCheck = true →
    (((empty ttl).performAll ops).1.eraseIdx k).map Reply.found? =
      ((empty ttl).performAll (ops.eraseIdx k)).1.map Reply.found?

theorem answers (ttl : Time.Span) (ops : List Operation) : AnswerSpec ttl ops := by
  refine ⟨?_, ?_⟩
  · intro key now url
    exact get_performAll_iff
  · intro htimes k op hk hop
    exact found?_eraseIdx htimes hk hop

/-- Where the clock runs backwards a look-up finds nothing because another one looked early. -/
example :
    let url : Url := ⟨"data".toList, .unrooted [], none, none⟩
    let expiry := Time.Instant.ofMillis 36000000
    let ops (looks : List Operation) : List Operation :=
      .put "key" url .epoch :: looks ++ [.get "key" .epoch]
    let last (ops : List Operation) := ((empty .tenHours).performAll ops).1.getLast?.bind (·.found?)
    last (ops [.get "key" expiry]) = some none ∧ last (ops []) = some (some url) :=
  ⟨rfl, rfl⟩

end Signpost.Shelf
