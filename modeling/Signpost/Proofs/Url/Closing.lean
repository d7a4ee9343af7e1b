import Signpost.Proofs.Url.Paths

/-! # Paths that are closed

A slash behind a path closes it: its last segment is taken up like those before. Segments that are
written behind a path come behind it as it is closed, and the path itself has at most an empty
segment more. -/

namespace Signpost

namespace Url

/-! ## Paths that are closed by a slash -/

/-- Segments taken up one by one, each with a slash behind it. -/
def closed (path written : List Segment) : List Segment :=
  written.foldl (fun path s => extend path false (withoutSkipped s)) path

theorem closed_append_of_isNormal (path written : List Segment) {suffix : List Segment}
    (hs : ∀ s ∈ suffix, Segment.IsNormal s) :
    closed path (written ++ suffix) = closed path written ++ suffix := by
  induction suffix using List.reverseRecOn with
  | nil => simp
  | append_singleton suffix s ih =>
      have ih := ih fun x hx => hs x (List.mem_append_left _ hx)
      have hnormal := hs s (by simp)
      unfold closed at ih ⊢
      rw [← List.append_assoc, List.foldl_append, ih, List.foldl_cons, List.foldl_nil,
        extend_of_isNormal hnormal, List.append_assoc]

/-- The last segment of a path is taken up with no slash behind it. -/
theorem Trail.takeAll_concat (t : Trail) (written : List Segment) (s : Segment) :
    (t.takeAll false (written ++ [s])).path =
      extend (closed t.path written) true (withoutSkipped s) := by
  induction written generalizing t with
  | nil => exact Trail.take_path t true s
  | cons w written ih =>
      rw [List.cons_append, Trail.takeAll_cons t w (by simp), ih, Trail.take_path]
      rfl

theorem extend_last (path : List Segment) (s : Segment) :
    ∃ m, extend path true s = extend path false s ++ List.replicate m [] := by
  unfold extend ending
  split
  · exact ⟨1, by simp⟩
  · split
    · exact ⟨1, by simp⟩
    · exact ⟨0, by simp⟩

/-- A path that is not closed has one empty segment more or none. -/
theorem Trail.takeAll_closed (t : Trail) {written : List Segment} (hw : written ≠ []) :
    ∃ m, (t.takeAll false written).path = closed t.path written ++ List.replicate m [] := by
  obtain ⟨front, s, rfl⟩ := (List.eq_nil_or_concat' written).resolve_left hw
  obtain ⟨m, hm⟩ := extend_last (closed t.path front) (withoutSkipped s)
  refine ⟨m, ?_⟩
  rw [Trail.takeAll_concat, hm]
  simp [closed]

/-- Normal segments come behind the closed path. -/
theorem Trail.takeAll_append_of_isNormal (t : Trail) (written : List Segment)
    {suffix : List Segment} (hne : suffix ≠ []) (hs : ∀ s ∈ suffix, Segment.IsNormal s) :
    (t.takeAll false (written ++ suffix)).path = closed t.path written ++ suffix := by
  obtain ⟨front, s, rfl⟩ := (List.eq_nil_or_concat' suffix).resolve_left hne
  rw [← List.append_assoc, Trail.takeAll_concat, extend_of_isNormal (hs s (by simp)),
    closed_append_of_isNormal _ _ fun x hx => hs x (List.mem_append_left _ hx),
    List.append_assoc]

theorem split_append_renderSegments (cs : List Char) {suffix : List Segment}
    (hs : ∀ s ∈ suffix, Segment.IsNormal s) :
    Text.split PathRules.special.isSlash (cs ++ renderSegments suffix) =
      Text.split PathRules.special.isSlash cs ++ suffix := by
  induction suffix generalizing cs with
  | nil => simp [renderSegments]
  | cons s suffix ih =>
      have ih := ih s fun x hx => hs x (List.mem_cons_of_mem _ hx)
      have htext : cs ++ renderSegments (s :: suffix) = cs ++ '/' :: (s ++ renderSegments suffix) :=
        rfl
      rw [htext, Text.split_append_sep rfl, ih,
        Text.split_of_forall (hs s List.mem_cons_self).not_slash]
      rfl

theorem not_isSkipped_of_isSlash {c : Char} (hc : PathRules.special.isSlash c = true) :
    isSkipped c = false := by
  simp only [PathRules.isSlash, Bool.or_eq_true, Bool.and_eq_true, beq_iff_eq] at hc
  rcases hc with rfl | ⟨_, rfl⟩ <;> decide

theorem readPath_cons {c : Char} (hc : PathRules.special.isSlash c = true) (cs : List Char) :
    readPath .special (c :: cs) =
      ((⟨[], false⟩ : Trail).takeAll false (Text.split PathRules.special.isSlash cs)).path := by
  simp only [readPath, resolvePath, List.dropWhile_cons, not_isSkipped_of_isSlash hc,
    Bool.false_eq_true, ↓reduceIte, afterRoot, hc]
  rfl

/-- The path of a web URL and the path with segments written behind it have the same front: the
path as it is once it is closed. -/
theorem readPath_append_segments {cs : List Char}
    (hcs : ∀ c, cs.head? = some c → PathRules.special.isSlash c = true) :
    ∃ kept : List Segment, (∃ m, readPath .special cs = kept ++ List.replicate m []) ∧
      ∀ suffix : List Segment, suffix ≠ [] → (∀ s ∈ suffix, Segment.IsNormal s) →
        readPath .special (cs ++ renderSegments suffix) = kept ++ suffix := by
  cases cs with
  | nil =>
      refine ⟨[], ⟨1, rfl⟩, ?_⟩
      intro suffix hne hs
      obtain ⟨s, rest, rfl⟩ := List.exists_cons_of_ne_nil hne
      have hrest := fun x hx => hs x (List.mem_cons_of_mem _ hx)
      have htext : [] ++ renderSegments (s :: rest) = '/' :: (s ++ renderSegments rest) := rfl
      rw [htext, readPath_cons rfl, split_append_renderSegments s hrest,
        Text.split_of_forall (hs s List.mem_cons_self).not_slash]
      exact Trail.takeAll_append_of_isNormal ⟨[], false⟩ [] hne hs
  | cons c cs =>
      have hc := hcs c rfl
      refine ⟨closed [] (Text.split PathRules.special.isSlash cs), ?_, ?_⟩
      · rw [readPath_cons hc]
        exact Trail.takeAll_closed ⟨[], false⟩ (Text.split_ne_nil _ cs)
      · intro suffix hne hs
        rw [List.cons_append, readPath_cons hc, split_append_renderSegments cs hs]
        exact Trail.takeAll_append_of_isNormal ⟨[], false⟩ _ hne hs

end Url

end Signpost
