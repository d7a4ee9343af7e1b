import Mathlib.Data.List.DropRight
import Signpost.Proofs.Url.Segments
import Signpost.Url.Edit

/-! # Paths of web URLs

The path of a web URL that was read or edited consists of normal segments, and a path that is
written behind normal segments is resolved from them on. -/

namespace Signpost.Url

/-! ## Taking up one segment -/

/-- What a dot segment at the end of a path leaves behind its slash. -/
def ending (last : Bool) : List Segment :=
  if last then [[]] else []

/-- A path with one more segment taken up, tabs and line breaks left out. -/
def extend (path : List Segment) (last : Bool) (s : Segment) : List Segment :=
  if isDoubleDot s then dropLastSegment path ++ ending last
  else if isSingleDot s then path ++ ending last
  else path ++ [Percent.encode Escape.path s]

@[simp] theorem Trail.add_path (t : Trail) (s : Segment) :
    (t.add false s).path = t.path ++ [Percent.encode Escape.path s] := by
  unfold Trail.add
  split <;> rfl

@[simp] theorem Trail.take_path (t : Trail) (last : Bool) (written : Segment) :
    (t.take false last written).path = extend t.path last (withoutSkipped written) := by
  simp only [Trail.take, Bool.false_and, Bool.false_eq_true, ↓reduceIte, extend, ending]
  split
  · rfl
  · split
    · rfl
    · exact Trail.add_path t _

theorem Trail.takeAll_cons (t : Trail) (s : Segment) {segments : List Segment}
    (hs : segments ≠ []) :
    t.takeAll false (s :: segments) = (t.take false false s).takeAll false segments := by
  cases segments with
  | nil => exact absurd rfl hs
  | cons => rfl

theorem prefix_of_dropLastSegment (path : List Segment) : dropLastSegment path <+: path := by
  unfold dropLastSegment
  split
  · exact List.prefix_rfl
  · exact List.dropLast_prefix path

/-- A normal segment is taken up as it is. -/
theorem extend_of_isNormal {s : Segment} (hs : Segment.IsNormal s) (path : List Segment)
    (last : Bool) : extend path last (withoutSkipped s) = path ++ [s] := by
  simp [extend, hs.withoutSkipped_eq, hs.not_double, hs.not_single, hs.encode_eq]

theorem extend_isNormal {path : List Segment} (hp : ∀ s ∈ path, Segment.IsNormal s)
    {written : Segment} (hw : ∀ c ∈ written, PathRules.special.isSlash c = false) (last : Bool) :
    ∀ s ∈ extend path last (withoutSkipped written), Segment.IsNormal s := by
  have hending : ∀ s ∈ ending last, Segment.IsNormal s := by
    intro s hs
    cases last with
    | false => cases hs
    | true =>
        obtain rfl := List.mem_singleton.mp hs
        exact Segment.isNormal_nil
  unfold extend
  split
  next =>
    intro s hs
    rcases List.mem_append.mp hs with hs | hs
    · exact hp s ((prefix_of_dropLastSegment path).subset hs)
    · exact hending s hs
  next h₂ =>
    split
    next =>
      intro s hs
      rcases List.mem_append.mp hs with hs | hs
      · exact hp s hs
      · exact hending s hs
    next h₁ =>
      intro s hs
      rcases List.mem_append.mp hs with hs | hs
      · exact hp s hs
      · obtain rfl := List.mem_singleton.mp hs
        refine Segment.isNormal_encode ?_ (by simpa using h₁) (by simpa using h₂)
        intro c hc
        exact hw c (List.mem_of_mem_filter hc)

theorem Trail.takeAll_isNormal {segments : List Segment}
    (hs : ∀ s ∈ segments, ∀ c ∈ s, PathRules.special.isSlash c = false) {t : Trail}
    (ht : ∀ s ∈ t.path, Segment.IsNormal s) :
    ∀ s ∈ (t.takeAll false segments).path, Segment.IsNormal s := by
  induction segments generalizing t with
  | nil => exact ht
  | cons written segments ih =>
      have hw := hs written List.mem_cons_self
      have htake : ∀ last, ∀ s ∈ (t.take false last written).path, Segment.IsNormal s := by
        intro last
        rw [Trail.take_path]
        exact extend_isNormal ht hw last
      by_cases hnil : segments = []
      · subst hnil
        exact htake true
      · rw [Trail.takeAll_cons t written hnil]
        exact ih (fun s hmem => hs s (List.mem_cons_of_mem _ hmem)) (htake false)

/-- Normal segments in front are taken up as they are. -/
theorem Trail.takeAll_append {base segments : List Segment}
    (hb : ∀ s ∈ base, Segment.IsNormal s) (hs : segments ≠ []) (t : Trail) :
    ∃ hasDrive, t.takeAll false (base ++ segments) =
      (⟨t.path ++ base, hasDrive⟩ : Trail).takeAll false segments := by
  induction base generalizing t with
  | nil => exact ⟨t.hasDrive, by simp⟩
  | cons s base ih =>
      obtain ⟨hasDrive, he⟩ := ih (fun x hx => hb x (List.mem_cons_of_mem _ hx))
        (t.take false false s)
      have hpath : (t.take false false s).path = t.path ++ [s] := by
        rw [Trail.take_path, extend_of_isNormal (hb s List.mem_cons_self)]
      refine ⟨hasDrive, ?_⟩
      rw [List.cons_append, Trail.takeAll_cons t s (by simp [hs]), he, hpath]
      simp

/-! ## Reading a path -/

/-- Reading the path of a web URL leaves normal segments. -/
theorem readPath_isNormal (cs : List Char) :
    ∀ s ∈ readPath .special cs, Segment.IsNormal s :=
  Trail.takeAll_isNormal Text.not_sep_of_mem_split (by simp)

theorem split_renderSegments {base : List Segment}
    (hb : ∀ s ∈ base, ∀ c ∈ s, PathRules.special.isSlash c = false) (suffix : List Char) :
    Text.split PathRules.special.isSlash (renderSegments base ++ '/' :: suffix) =
      [] :: (base ++ Text.split PathRules.special.isSlash suffix) := by
  have hslash : PathRules.special.isSlash '/' = true := rfl
  induction base with
  | nil => exact Text.split_cons_of_sep hslash suffix
  | cons s base ih =>
      have ih := ih fun x hx => hb x (List.mem_cons_of_mem _ hx)
      have htext : renderSegments (s :: base) ++ '/' :: suffix =
          '/' :: (s ++ (renderSegments base ++ '/' :: suffix)) := by
        simp [renderSegments]
      rw [htext, Text.split_cons_of_sep hslash, Text.split_append (hb s List.mem_cons_self) ih]
      simp

/-- A path behind normal segments is resolved from them on. -/
theorem readPath_append {base : List Segment} (hb : ∀ s ∈ base, Segment.IsNormal s)
    (suffix : List Char) :
    ∃ hasDrive, readPath .special (renderSegments base ++ '/' :: suffix) =
      ((⟨base, hasDrive⟩ : Trail).takeAll false
        (Text.split PathRules.special.isSlash suffix)).path := by
  have hslash : ∀ s ∈ base, ∀ c ∈ s, PathRules.special.isSlash c = false :=
    fun s hs => (hb s hs).not_slash
  obtain ⟨rest, hrest⟩ : ∃ rest, renderSegments base ++ '/' :: suffix = '/' :: rest := by
    cases base with
    | nil => exact ⟨suffix, rfl⟩
    | cons s base => exact ⟨_, rfl⟩
  have hsplit := split_renderSegments hslash suffix
  rw [hrest, Text.split_cons_of_sep rfl] at hsplit
  have hread : readPath .special ('/' :: rest) =
      ((⟨[], false⟩ : Trail).takeAll false (Text.split PathRules.special.isSlash rest)).path :=
    rfl
  obtain ⟨hasDrive, he⟩ := Trail.takeAll_append hb (Text.split_ne_nil _ suffix) ⟨[], false⟩
  refine ⟨hasDrive, ?_⟩
  rw [hrest, hread, (List.cons.inj hsplit).2, he]
  rfl

/-! ## Trailing slashes -/

@[simp] theorem renderSegments_append (path path' : List Segment) :
    renderSegments (path ++ path') = renderSegments path ++ renderSegments path' := by
  simp [renderSegments]

/-- The text of a path without its trailing slashes is that of the path without the empty segments
at its end. -/
theorem trimEnd_renderSegments {path : List Segment} (hp : ∀ s ∈ path, '/' ∉ s) :
    Text.trimEnd (· == '/') (renderSegments path) =
      renderSegments (path.rdropWhile List.isEmpty) := by
  change List.rdropWhile (· == '/') (renderSegments path) = _
  induction path using List.reverseRecOn with
  | nil => rfl
  | append_singleton path s ih =>
      have ih := ih fun x hx => hp x (List.mem_append_left _ hx)
      rw [renderSegments_append]
      by_cases hs : s = []
      · subst hs
        have hlast : renderSegments [[]] = ['/'] := rfl
        rw [hlast, List.rdropWhile_concat_pos _ _ _ (by simp), ih,
          List.rdropWhile_concat_pos _ _ _ (by simp)]
      · obtain ⟨front, c, rfl⟩ := (List.eq_nil_or_concat' s).resolve_left hs
        have hc : c ≠ '/' := fun he => hp (front ++ [c]) (by simp) (by simp [he])
        have hrender : renderSegments path ++ renderSegments [front ++ [c]] =
            (renderSegments path ++ '/' :: front) ++ [c] := by
          simp [renderSegments]
        rw [List.rdropWhile_concat_neg _ _ _ (by simp), renderSegments_append, hrender,
          List.rdropWhile_concat_neg _ _ _ (by simpa using hc)]

/-! ## URLs that were read or edited -/

/-- The URLs that there are: read from a text, or edited part by part. -/
inductive Made : Url → Prop where
  | parsed {s : String} {u : Url} (h : parse s = .ok u) : Made u
  | path {u : Url} (h : Made u) (cs : List Char) : Made (u.withPath cs)
  | query {u : Url} (h : Made u) (cs : List Char) : Made (u.withQuery cs)
  | fragment {u : Url} (h : Made u) (cs : List Char) : Made (u.withFragment cs)

/-- An authority and normal segments below it. -/
def Hierarchy.IsNormal (hierarchy : Hierarchy) : Prop :=
  ∃ a path, hierarchy = .authority a path ∧ ∀ s ∈ path, Segment.IsNormal s

theorem readHierarchy_isNormal {port : Nat} {followed : Bool} {cs : List Char}
    {hierarchy : Hierarchy} (h : readHierarchy (.web port) followed cs = .ok hierarchy) :
    hierarchy.IsNormal := by
  simp only [readHierarchy, readAuthorityPath] at h
  cases ha : readAuthority (.web port)
      (followed || !(spanAuthority (Family.web port).pathRules
        ((withoutSkipped cs).dropWhile PathRules.special.isSlash)).2.isEmpty)
      (spanAuthority (Family.web port).pathRules
        ((withoutSkipped cs).dropWhile PathRules.special.isSlash)).1 with
  | error f =>
      rw [ha] at h
      cases h
  | ok pair =>
      rw [ha] at h
      obtain rfl := Except.ok.inj h
      exact ⟨_, _, rfl, readPath_isNormal _⟩

/-- What a text is read as has the hierarchy that is read behind its scheme. -/
theorem parse_hierarchy {s : String} {u : Url} (h : parse s = .ok u) :
    ∃ followed cs, readHierarchy u.family followed cs = .ok u.hierarchy := by
  unfold parse at h
  split at h
  next => cases h
  next scheme rest hscheme =>
    dsimp only at h
    generalize hf : ((Text.cut (· == '?') (Text.cut (· == '#') rest).1).2.isSome ||
      (Text.cut (· == '#') rest).2.isSome) = followed at h
    cases hr : readHierarchy (Family.ofScheme scheme) followed
        (Text.cut (· == '?') (Text.cut (· == '#') rest).1).1 with
    | error f =>
        rw [hr] at h
        cases h
    | ok hierarchy =>
        rw [hr] at h
        obtain rfl := Except.ok.inj h
        exact ⟨followed, _, hr⟩

/-- Every web URL there is has an authority and normal segments below it. -/
theorem Made.isNormal {u : Url} (hu : u.Made) {port : Nat} (hw : u.family = .web port) :
    u.hierarchy.IsNormal := by
  induction hu with
  | parsed h =>
      obtain ⟨followed, cs, hr⟩ := parse_hierarchy h
      rw [hw] at hr
      exact readHierarchy_isNormal hr
  | @path u _ cs ih =>
      have hfamily : u.family = .web port := by
        cases hh : u.hierarchy <;> simpa [withPath, hh, family] using hw
      obtain ⟨a, path, hh, _⟩ := ih hfamily
      refine ⟨a, readPath .special cs, ?_, readPath_isNormal cs⟩
      simp only [withPath, hh, hfamily]
      rfl
  | query _ cs ih => exact ih hw
  | fragment _ cs ih => exact ih hw

end Signpost.Url
