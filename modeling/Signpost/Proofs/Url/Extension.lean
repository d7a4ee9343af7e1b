import Signpost.Proofs.Except
import Signpost.Proofs.Url.Closing
import Signpost.Compose

/-! # URLs whose text goes on

Where segments are written behind the text of a web URL, the authority stays as it is. The segments
come behind the path as it is once a slash has closed it, or, where the text has a query or a
fragment, do not reach the path at all. -/

namespace Signpost

/-! ## Cutting longer texts -/

namespace Text

theorem cut_eq_none {sep : Char → Bool} {cs before : List Char}
    (h : cut sep cs = (before, none)) : before = cs ∧ ∀ c ∈ cs, sep c = false := by
  induction cs generalizing before with
  | nil => exact ⟨(Prod.mk.inj h).1.symm, by simp⟩
  | cons c cs ih =>
      by_cases hc : sep c = true
      · simp [cut, hc] at h
      · cases hcut : cut sep cs with
        | mk front after =>
            simp only [cut, hc, hcut, Bool.false_eq_true, ↓reduceIte, Prod.mk.injEq] at h
            obtain ⟨rfl, rfl⟩ := h
            obtain ⟨rfl, hcs⟩ := ih hcut
            exact ⟨rfl, by simpa [hc] using hcs⟩

theorem cut_append_of_some {sep : Char → Bool} {cs before after : List Char}
    (h : cut sep cs = (before, some after)) (l : List Char) :
    cut sep (cs ++ l) = (before, some (after ++ l)) := by
  induction cs generalizing before with
  | nil => cases h
  | cons c cs ih =>
      by_cases hc : sep c = true
      · simp only [cut, hc, ↓reduceIte, Prod.mk.injEq, Option.some.injEq] at h
        obtain ⟨rfl, rfl⟩ := h
        simp [cut, hc]
      · cases hcut : cut sep cs with
        | mk front rest =>
            simp only [cut, hc, hcut, Bool.false_eq_true, ↓reduceIte, Prod.mk.injEq] at h
            obtain ⟨rfl, rfl⟩ := h
            simp [cut, hc, ih hcut]

end Text

theorem ResourceParts.ofText_append_of_bare {cs l : List Char}
    (hl : ∀ c ∈ l, c ≠ '#' ∧ c ≠ '?') (hq : (ofText cs).query = none)
    (hf : (ofText cs).fragment = none) : ofText (cs ++ l) = ⟨cs ++ l, none, none⟩ := by
  cases hhash : Text.cut (· == '#') cs with
  | mk before fragment =>
      cases hmark : Text.cut (· == '?') before with
      | mk path query =>
          simp only [ofText, hhash, hmark] at hq hf
          subst hq hf
          obtain ⟨rfl, hcs⟩ := Text.cut_eq_none hhash
          obtain ⟨rfl, hcs'⟩ := Text.cut_eq_none hmark
          have hnohash : ∀ c ∈ path ++ l, (c == '#') = false := by
            intro c hc
            rcases List.mem_append.mp hc with hc | hc
            · exact hcs c hc
            · simp [(hl c hc).1]
          have hnomark : ∀ c ∈ path ++ l, (c == '?') = false := by
            intro c hc
            rcases List.mem_append.mp hc with hc | hc
            · exact hcs' c hc
            · simp [(hl c hc).2]
          simp only [ofText, Text.cut_of_forall hnohash, Text.cut_of_forall hnomark]

/-- Whether a text has a query or a fragment. -/
def ResourceParts.followed (parts : ResourceParts) : Bool :=
  parts.query.isSome || parts.fragment.isSome

theorem ResourceParts.ofText_append_of_followed {cs l : List Char}
    (hl : ∀ c ∈ l, c ≠ '#' ∧ c ≠ '?') (hf : (ofText cs).followed = true) :
    (ofText (cs ++ l)).path = (ofText cs).path ∧ (ofText (cs ++ l)).followed = true := by
  cases hhash : Text.cut (· == '#') cs with
  | mk before fragment =>
      cases fragment with
      | some fragment =>
          have happend := Text.cut_append_of_some hhash l
          simp [ofText, followed, hhash, happend]
      | none =>
          obtain ⟨rfl, hcs⟩ := Text.cut_eq_none hhash
          have hnohash : ∀ c ∈ before ++ l, (c == '#') = false := by
            intro c hc
            rcases List.mem_append.mp hc with hc | hc
            · exact hcs c hc
            · simp [(hl c hc).1]
          have happend := Text.cut_of_forall hnohash
          cases hmark : Text.cut (· == '?') before with
          | mk path query =>
              cases query with
              | some query =>
                  simp [ofText, followed, hhash, hmark, happend, Text.cut_append_of_some hmark l]
              | none => simp [ofText, followed, hhash, hmark] at hf

namespace Url

/-! ## Authorities -/

/-- What a port leaves for the path begins with a backslash. -/
theorem readPort_left {family : Family} {cs left : List Char} {port : Option UInt16}
    (h : readPort family cs = .ok (port, left)) : ∀ c, left.head? = some c → c = '\\' := by
  unfold readPort at h
  dsimp only at h
  split at h
  next => cases h
  next hcond =>
    have hleft : left = cs.dropWhile Char.isDigit := by
      split at h <;> exact (Prod.mk.inj (Except.ok.inj h)).2.symm
    simp only [Bool.or_eq_true, not_or, Bool.not_eq_true] at hcond
    intro c hc
    rw [hleft] at hc
    simpa [hc] using hcond.2

theorem readHostPort_left {family : Family} {hasUser : Bool} {cs left : List Char}
    {host : Option Host} {port : Option UInt16}
    (h : readHostPort family hasUser cs = .ok (host, port, left)) :
    ∀ c, left.head? = some c → c = '\\' := by
  have nothing : left = [] → ∀ c, left.head? = some c → c = '\\' := by
    rintro rfl c hc
    cases hc
  unfold readHostPort at h
  dsimp only at h
  split at h
  next =>
    split at h
    · cases h
    · exact nothing (Prod.mk.inj (Prod.mk.inj (Except.ok.inj h)).2).2.symm
  next =>
    obtain ⟨host', _, h⟩ := bind_eq_ok_iff.mp h
    split at h
    next => exact nothing (Prod.mk.inj (Prod.mk.inj (Except.ok.inj h)).2).2.symm
    next text _ =>
      obtain ⟨⟨port', rest⟩, hport, h⟩ := bind_eq_ok_iff.mp h
      obtain rfl := (Prod.mk.inj (Prod.mk.inj (Except.ok.inj h)).2).2
      exact readPort_left hport

theorem readAuthority_left {family : Family} {followed : Bool} {cs left : List Char}
    {a : Authority} (h : readAuthority family followed cs = .ok (a, left)) :
    ∀ c, left.head? = some c → c = '\\' := by
  unfold readAuthority at h
  dsimp only at h
  split at h
  next => cases h
  next =>
    obtain ⟨⟨host, port, rest⟩, hhost, h⟩ := bind_eq_ok_iff.mp h
    obtain rfl := (Prod.mk.inj (Except.ok.inj h)).2
    exact readHostPort_left hhost

/-- A web URL without a host is none. -/
theorem readHostPort_nil (port : Nat) (hasUser : Bool) :
    readHostPort (.web port) hasUser [] = .error .emptyHost := rfl

/-- What is read as the authority of a web URL is read so where the URL goes on. -/
theorem readAuthority_followed {port : Nat} {followed : Bool} {cs : List Char}
    {r : Authority × List Char} (h : readAuthority (.web port) followed cs = .ok r) :
    readAuthority (.web port) true cs = .ok r := by
  unfold readAuthority at h ⊢
  dsimp only at h ⊢
  split at h
  next => cases h
  next hcond =>
    have hrest : (cutUser cs).2.isEmpty = false := by
      rw [Bool.eq_false_iff]
      intro hempty
      rw [List.isEmpty_iff.mp hempty, readHostPort_nil] at h
      cases h
    rw [if_neg (by simp [hrest])]
    exact h

/-! ## Hierarchies -/

/-- An authority and the path behind it. -/
theorem readAuthorityPath_eq_ok_iff {family : Family} {followed : Bool} {cs : List Char}
    {hierarchy : Hierarchy} :
    readAuthorityPath family followed cs = .ok hierarchy ↔
      ∃ a left, readAuthority family
          (followed || !(spanAuthority family.pathRules cs).2.isEmpty)
          (spanAuthority family.pathRules cs).1 = .ok (a, left) ∧
        .authority a
          (readPath family.pathRules (left ++ (spanAuthority family.pathRules cs).2)) =
            hierarchy := by
  simp only [readAuthorityPath, bind_eq_ok_iff, Prod.exists, Except.ok.injEq]

@[simp] theorem renderSegments_replicate (k : Nat) :
    renderSegments (List.replicate k []) = List.replicate k '/' := by
  induction k with
  | zero => rfl
  | succ k ih => rw [List.replicate_succ, List.replicate_succ, ← ih]; rfl

theorem isNormal_of_mem_replicate {k : Nat} : ∀ s ∈ List.replicate k [], Segment.IsNormal s := by
  intro s hs
  rw [List.eq_of_mem_replicate hs]
  exact Segment.isNormal_nil

/-- Segments behind a text do not reach its authority. -/
theorem spanAuthority_append (cs : List Char) (suffix : List Segment) :
    spanAuthority .special (cs ++ renderSegments suffix) =
      ((spanAuthority .special cs).1,
        (spanAuthority .special cs).2 ++ renderSegments suffix) := by
  induction cs with
  | nil => cases suffix <;> rfl
  | cons c cs ih =>
      simp only [spanAuthority, Prod.mk.injEq] at ih
      by_cases hc : PathRules.special.isSlash c = true
      · simp [spanAuthority, hc]
      · simp [spanAuthority, hc, ih.1, ih.2]

theorem withoutSkipped_renderSegments {suffix : List Segment}
    (hs : ∀ s ∈ suffix, Segment.IsNormal s) :
    withoutSkipped (renderSegments suffix) = renderSegments suffix := by
  induction suffix with
  | nil => rfl
  | cons s suffix ih =>
      have ih := ih fun x hx => hs x (List.mem_cons_of_mem _ hx)
      have htext : renderSegments (s :: suffix) = '/' :: (s ++ renderSegments suffix) := rfl
      have hself := (hs s List.mem_cons_self).withoutSkipped_eq
      unfold withoutSkipped at ih hself ⊢
      rw [htext, List.filter_cons_of_pos (by decide), List.filter_append, hself, ih]

theorem withoutSkipped_append (cs : List Char) {suffix : List Segment}
    (hs : ∀ s ∈ suffix, Segment.IsNormal s) :
    withoutSkipped (cs ++ renderSegments suffix) = withoutSkipped cs ++ renderSegments suffix := by
  have hself := withoutSkipped_renderSegments hs
  unfold withoutSkipped at hself ⊢
  rw [List.filter_append, hself]

/-- What stands behind an authority is empty or begins with a slash. -/
theorem isSlash_of_head?_spanAuthority {cs left : List Char}
    (hleft : ∀ c, left.head? = some c → c = '\\') {c : Char}
    (hc : (left ++ (spanAuthority .special cs).2).head? = some c) :
    PathRules.special.isSlash c = true := by
  cases left with
  | cons d left =>
      obtain rfl : d = c := Option.some.inj hc
      rw [hleft d rfl]
      rfl
  | nil =>
      have hhead := List.head?_dropWhile_not (!PathRules.special.isSlash ·) cs
      change (cs.dropWhile (!PathRules.special.isSlash ·)).head? = some c at hc
      rw [hc] at hhead
      simpa using hhead

/-- Where segments are written behind the authority and the path of a web URL, the authority stays
and the paths have the same front. -/
theorem readAuthorityPath_append {port k : Nat} {cs : List Char} {hierarchy : Hierarchy}
    (h : readAuthorityPath (.web port) false (cs ++ List.replicate k '/') = .ok hierarchy)
    {suffix : List Segment} (hne : suffix ≠ []) (hs : ∀ s ∈ suffix, Segment.IsNormal s) :
    ∃ a kept m, hierarchy = .authority a (kept ++ List.replicate m []) ∧
      readAuthorityPath (.web port) false (cs ++ renderSegments suffix) =
        .ok (.authority a (kept ++ suffix)) := by
  have hrules : (Family.web port).pathRules = .special := rfl
  rw [← renderSegments_replicate, readAuthorityPath_eq_ok_iff, hrules, spanAuthority_append] at h
  obtain ⟨a, left, ha, rfl⟩ := h
  have hslash : ∀ c, (left ++ (spanAuthority .special cs).2).head? = some c →
      PathRules.special.isSlash c = true :=
    fun _ => isSlash_of_head?_spanAuthority (readAuthority_left ha)
  obtain ⟨kept, ⟨m₀, hm₀⟩, hsegments⟩ := readPath_append_segments hslash
  obtain ⟨m, hm⟩ : ∃ m, readPath .special (left ++ (spanAuthority .special cs).2 ++
      renderSegments (List.replicate k [])) = kept ++ List.replicate m [] := by
    cases k with
    | zero => exact ⟨m₀, by simpa [renderSegments] using hm₀⟩
    | succ k => exact ⟨k + 1, hsegments _ (by simp) isNormal_of_mem_replicate⟩
  refine ⟨a, kept, m, ?_, ?_⟩
  · rw [← List.append_assoc, hm]
  · have hfollowed :
        ((spanAuthority .special cs).2 ++ renderSegments suffix).isEmpty = false := by
      obtain ⟨s, rest, rfl⟩ := List.exists_cons_of_ne_nil hne
      simp [renderSegments]
    rw [readAuthorityPath_eq_ok_iff, hrules, spanAuthority_append]
    refine ⟨a, left, ?_, ?_⟩
    · rw [hfollowed]
      exact readAuthority_followed ha
    · rw [← List.append_assoc, hsegments suffix hne hs]

/-- The text of the authority and the path of a web URL, without the slashes at its front. -/
def hierarchyText (cs : List Char) : List Char :=
  (withoutSkipped cs).dropWhile PathRules.special.isSlash

theorem readHierarchy_web (port : Nat) (followed : Bool) (cs : List Char) :
    readHierarchy (.web port) followed cs =
      readAuthorityPath (.web port) followed (hierarchyText cs) := rfl

theorem hierarchyText_ne_nil {port : Nat} {followed : Bool} {cs : List Char}
    {hierarchy : Hierarchy} (h : readHierarchy (.web port) followed cs = .ok hierarchy) :
    hierarchyText cs ≠ [] := by
  intro hnil
  rw [readHierarchy_web, hnil] at h
  cases followed <;> cases h

theorem hierarchyText_append {cs : List Char} (h : hierarchyText cs ≠ []) (l : List Char) :
    hierarchyText (cs ++ l) = hierarchyText cs ++ withoutSkipped l := by
  have happend : withoutSkipped (cs ++ l) = withoutSkipped cs ++ withoutSkipped l :=
    List.filter_append _ _
  unfold hierarchyText at h ⊢
  rw [happend, List.dropWhile_append, if_neg (by simpa using h)]

theorem readHierarchy_append {port k : Nat} {cs : List Char} {hierarchy : Hierarchy}
    (h : readHierarchy (.web port) false (cs ++ List.replicate k '/') = .ok hierarchy)
    {skipped : List Char} (hskipped : withoutSkipped skipped = []) {suffix : List Segment}
    (hne : suffix ≠ []) (hs : ∀ s ∈ suffix, Segment.IsNormal s) :
    ∃ a kept m, hierarchy = .authority a (kept ++ List.replicate m []) ∧
      readHierarchy (.web port) false (cs ++ (skipped ++ renderSegments suffix)) =
        .ok (.authority a (kept ++ suffix)) := by
  have hslashes : withoutSkipped (List.replicate k '/') = List.replicate k '/' := by
    simp [withoutSkipped, isSkipped]
  have hcs : hierarchyText cs ≠ [] := by
    have htext := hierarchyText_ne_nil h
    contrapose! htext
    have happend : withoutSkipped (cs ++ List.replicate k '/') =
        withoutSkipped cs ++ withoutSkipped (List.replicate k '/') := List.filter_append _ _
    unfold hierarchyText at htext ⊢
    rw [happend, List.dropWhile_append, htext, hslashes]
    simp [PathRules.isSlash]
  rw [readHierarchy_web, hierarchyText_append hcs, hslashes] at h
  rw [readHierarchy_web, hierarchyText_append hcs, withoutSkipped_append _ hs, hskipped]
  exact readAuthorityPath_append h hne hs

/-! ## Whole URLs -/

theorem readScheme_append {cs scheme rest : List Char} (h : readScheme cs = some (scheme, rest))
    (l : List Char) : readScheme (cs ++ l) = some (scheme, rest ++ l) := by
  rcases hcut : Text.cut (· == ':') cs with ⟨before, none | after⟩
  · simp [readScheme, hcut] at h
  · simp only [readScheme, hcut, Text.cut_append_of_some hcut, Option.bind_eq_bind,
      Option.bind_some] at h ⊢
    split at h
    next hscheme =>
      rw [if_pos hscheme]
      obtain ⟨rfl, rfl⟩ := Prod.mk.inj (Option.some.inj h)
      rfl
    next => cases h

theorem colon_mem_of_readScheme {cs scheme rest : List Char}
    (h : readScheme cs = some (scheme, rest)) : ':' ∈ cs := by
  by_contra hc
  have hnone : ∀ c ∈ cs, (c == ':') = false := by
    intro c hmem
    rw [beq_eq_false_iff_ne]
    rintro rfl
    exact hc hmem
  simp [readScheme, Text.cut_of_forall hnone] at h

/-- A scheme ends before whatever has no colon. -/
theorem readScheme_of_append {cs l scheme rest : List Char}
    (h : readScheme (cs ++ l) = some (scheme, rest)) (hl : ∀ c ∈ l, c ≠ ':') :
    ∃ rest', readScheme cs = some (scheme, rest') ∧ rest = rest' ++ l := by
  rcases hcut : Text.cut (· == ':') cs with ⟨before, none | after⟩
  · have hnone : ∀ c ∈ cs ++ l, (c == ':') = false := by
      intro c hc
      rcases List.mem_append.mp hc with hc | hc
      · exact (Text.cut_eq_none hcut).2 c hc
      · simpa using hl c hc
    simp [readScheme, Text.cut_of_forall hnone] at h
  · simp only [readScheme, hcut, Text.cut_append_of_some hcut, Option.bind_eq_bind,
      Option.bind_some] at h ⊢
    split at h
    next hscheme =>
      rw [if_pos hscheme]
      obtain ⟨rfl, rfl⟩ := Prod.mk.inj (Option.some.inj h)
      exact ⟨after, rfl, rfl⟩
    next => cases h

/-- A URL is read from its scheme and from the parts of the text behind it. -/
theorem parse_eq_ok_iff {s : String} {u : Url} :
    parse s = .ok u ↔
      ∃ rest, readScheme (Text.trim (·.toNat ≤ 0x20) s.toList) = some (u.scheme, rest) ∧
        readHierarchy u.family (ResourceParts.ofText rest).followed
          (ResourceParts.ofText rest).path = .ok u.hierarchy ∧
        (ResourceParts.ofText rest).query.map (readPart (queryEscape u.family)) = u.query ∧
        (ResourceParts.ofText rest).fragment.map (readPart Escape.fragment) = u.fragment := by
  unfold parse
  cases hscheme : readScheme (Text.trim (·.toNat ≤ 0x20) s.toList) with
  | none => simp
  | some pair =>
      obtain ⟨scheme, rest⟩ := pair
      simp only [bind_eq_ok_iff, Except.ok.injEq]
      constructor
      · rintro ⟨hierarchy, hread, rfl⟩
        exact ⟨rest, rfl, hread, rfl, rfl⟩
      · rintro ⟨rest', hpair, hread, hquery, hfragment⟩
        obtain ⟨rfl, rfl⟩ := Prod.mk.inj (Option.some.inj hpair)
        exact ⟨u.hierarchy, hread, congrArg₂ (Url.mk u.scheme u.hierarchy) hquery hfragment⟩

/-- Behind a query or a fragment nothing reaches the hierarchy. -/
theorem parse_of_followed {s : String} {scheme front l : List Char} {hierarchy : Hierarchy}
    (hscheme : readScheme (Text.trim (·.toNat ≤ 0x20) s.toList) = some (scheme, front ++ l))
    (hl : ∀ c ∈ l, c ≠ '#' ∧ c ≠ '?') (hf : (ResourceParts.ofText front).followed = true)
    (hread : readHierarchy (Family.ofScheme scheme) true (ResourceParts.ofText front).path =
      .ok hierarchy) :
    ∃ v, parse s = .ok v ∧ v.scheme = scheme ∧ v.hierarchy = hierarchy := by
  obtain ⟨hpath, hfollowed⟩ := ResourceParts.ofText_append_of_followed hl hf
  refine ⟨⟨scheme, hierarchy, (ResourceParts.ofText (front ++ l)).query.map
      (readPart (queryEscape (Family.ofScheme scheme))),
    (ResourceParts.ofText (front ++ l)).fragment.map (readPart Escape.fragment)⟩,
    parse_eq_ok_iff.mpr ⟨_, hscheme, ?_, rfl, rfl⟩, rfl, rfl⟩
  rw [hpath, hfollowed]
  exact hread

/-- A web URL and the one whose text goes on with segments. They have scheme and authority in
common. The segments come behind a front of the path that only slashes follow, and reach the query
or the fragment instead where there is one. -/
structure Extended (suffix : List Segment) (u v : Url) : Prop where
  scheme_eq : v.scheme = u.scheme
  authority_eq : v.authority? = u.authority?
  path_eq : u.query = none → u.fragment = none →
    v.query = none ∧ v.fragment = none ∧ ∃ front m,
      u.path = front ++ List.replicate m '/' ∧ v.path = front ++ renderSegments suffix
  hierarchy_eq : u.query.isSome = true ∨ u.fragment.isSome = true → v.hierarchy = u.hierarchy

theorem not_mark_of_mem_renderSegments {suffix : List Segment}
    (hs : ∀ s ∈ suffix, Segment.IsNormal s) {c : Char} (hc : c ∈ renderSegments suffix) :
    c ≠ '#' ∧ c ≠ '?' := by
  obtain ⟨s, hmem, hc⟩ := List.mem_flatMap.mp hc
  rcases List.mem_cons.mp hc with rfl | hc
  · decide
  · have hplain := (hs s hmem).plain c hc
    constructor <;> rintro rfl <;> cases hplain

theorem not_mark_of_blank {c : Char} (hc : c.toNat ≤ 0x20) : c ≠ '#' ∧ c ≠ '?' := by
  constructor <;> rintro rfl <;> exact absurd hc (by decide)

theorem toNat_le_of_isSkipped {c : Char} (hc : isSkipped c = true) : c.toNat ≤ 0x20 := by
  simp only [isSkipped, Bool.or_eq_true, beq_iff_eq] at hc
  rcases hc with (rfl | rfl) | rfl <;> decide

/-- Where a text is read as a web URL, the text without slashes at its end, with segments behind it
and nothing but tabs and line breaks in between, is read as one too. -/
theorem parse_append {s s' : String} {u : Url} (h : parse s = .ok u) {port : Nat}
    (hw : u.family = .web port) {cs skipped : List Char} {k : Nat}
    (hcs : Text.trim (·.toNat ≤ 0x20) s.toList = cs ++ List.replicate k '/')
    {suffix : List Segment} (hne : suffix ≠ []) (hs : ∀ s ∈ suffix, Segment.IsNormal s)
    (hskipped : withoutSkipped skipped = [])
    (hcs' : Text.trim (·.toNat ≤ 0x20) s'.toList = cs ++ (skipped ++ renderSegments suffix)) :
    ∃ v, parse s' = .ok v ∧ Extended suffix u v := by
  obtain ⟨rest, hscheme, hread, hquery, hfragment⟩ := parse_eq_ok_iff.mp h
  rw [hcs] at hscheme
  obtain ⟨front, hfront, rfl⟩ := readScheme_of_append hscheme (by simp [List.mem_replicate])
  have hscheme' := readScheme_append hfront (skipped ++ renderSegments suffix)
  rw [← hcs'] at hscheme'
  have hslashes : ∀ c ∈ List.replicate k '/', c ≠ '#' ∧ c ≠ '?' := by
    simp [List.mem_replicate]
  have hsuffix : ∀ c ∈ skipped ++ renderSegments suffix, c ≠ '#' ∧ c ≠ '?' := by
    intro c hc
    rcases List.mem_append.mp hc with hc | hc
    · have hall : ∀ c ∈ skipped, isSkipped c = true := by
        simpa [withoutSkipped, List.filter_eq_nil_iff] using hskipped
      exact not_mark_of_blank (toNat_le_of_isSkipped (hall c hc))
    · exact not_mark_of_mem_renderSegments hs hc
  cases hparts : (ResourceParts.ofText front).followed with
  | true =>
      -- the segments become part of the query or the fragment
      obtain ⟨hpath, hfollowed⟩ := ResourceParts.ofText_append_of_followed hslashes hparts
      rw [hpath, hfollowed] at hread
      obtain ⟨v, hv, hvscheme, hvhierarchy⟩ :=
        parse_of_followed hscheme' hsuffix hparts hread
      refine ⟨v, hv, hvscheme, ?_, ?_, fun _ => hvhierarchy⟩
      · rw [authority?, authority?, hvhierarchy]
      · intro hq hf
        rw [← hquery] at hq
        rw [← hfragment] at hf
        simp [ResourceParts.followed, Option.map_eq_none_iff.mp hq,
          Option.map_eq_none_iff.mp hf] at hfollowed
  | false =>
      obtain ⟨hq, hf⟩ : (ResourceParts.ofText front).query = none ∧
          (ResourceParts.ofText front).fragment = none := by
        simpa [ResourceParts.followed] using hparts
      have hsuffixed := ResourceParts.ofText_append_of_bare hsuffix hq hf
      rw [ResourceParts.ofText_append_of_bare hslashes hq hf] at hread hquery hfragment
      rw [hw] at hread
      obtain ⟨a, kept, m, hh, hread'⟩ := readHierarchy_append hread hskipped hne hs
      have hpath : u.path = renderSegments kept ++ List.replicate m '/' := by
        rw [path, hh, Hierarchy.renderPath, renderSegments_append, renderSegments_replicate]
      refine ⟨⟨u.scheme, .authority a (kept ++ suffix), none, none⟩,
        parse_eq_ok_iff.mpr ⟨_, hscheme', ?_, ?_, ?_⟩, rfl, ?_, ?_, ?_⟩
      · rw [hsuffixed]
        exact hw ▸ hread'
      · rw [hsuffixed]
        rfl
      · rw [hsuffixed]
        rfl
      · rw [authority?, authority?, hh]
      · intro _ _
        exact ⟨rfl, rfl, renderSegments kept, m, hpath, renderSegments_append kept suffix⟩
      · simp [← hquery, ← hfragment]

end Url

end Signpost
