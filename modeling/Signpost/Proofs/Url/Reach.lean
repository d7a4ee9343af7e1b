import Signpost.Compose
import Signpost.Identifier.Build
import Signpost.Proofs.Except
import Signpost.Proofs.Url.Paths

/-! # How far a resource reaches

A resource is resolved behind the path of its API, so that its `..` segments take segments of that
path back once its own are used up. The resource stays under the API exactly if it adds again what
it took back. -/

namespace Signpost.Url

/-! ## Texts of paths -/

/-- A text without slashes and the slash behind it are found again in front of a path. -/
theorem prefix_slash_iff {s t : List Char} (hs : '/' ∉ s) (ht : '/' ∉ t) {path : List Segment}
    (rest : List Char) :
    s ++ '/' :: rest <+: t ++ renderSegments path ↔
      s = t ∧ '/' :: rest <+: renderSegments path := by
  induction s generalizing t with
  | nil =>
      cases t with
      | nil => simp
      | cons d t =>
          have hd : '/' ≠ d := by
            rintro rfl
            exact ht List.mem_cons_self
          simp [List.cons_prefix_cons, hd]
  | cons c s ih =>
      have hs' : '/' ∉ s := fun hm => hs (List.mem_cons_of_mem _ hm)
      cases t with
      | nil =>
          have hc : c ≠ '/' := fun he => hs (by simp [he])
          cases path with
          | nil => simp [renderSegments]
          | cons p path => simp [renderSegments, List.cons_prefix_cons, hc]
      | cons d t =>
          have ht' : '/' ∉ t := fun hm => ht (List.mem_cons_of_mem _ hm)
          rw [List.cons_append, List.cons_append, List.cons_prefix_cons, ih hs' ht']
          simp [and_assoc]

/-- The text of a path begins with that of another and a slash where there is a segment more. -/
theorem renderSegments_prefix_iff {base path : List Segment} (hb : ∀ s ∈ base, '/' ∉ s)
    (hp : ∀ s ∈ path, '/' ∉ s) :
    renderSegments base ++ ['/'] <+: renderSegments path ↔
      ∃ s rest, path = base ++ s :: rest := by
  induction base generalizing path with
  | nil =>
      cases path with
      | nil => simp [renderSegments]
      | cons p path => simp [renderSegments, List.cons_prefix_cons]
  | cons b base ih =>
      cases path with
      | nil => simp [renderSegments]
      | cons p path =>
          have ih : renderSegments base ++ ['/'] <+: renderSegments path ↔
              ∃ s rest, path = base ++ s :: rest :=
            ih (fun s hs => hb s (List.mem_cons_of_mem _ hs))
              (fun s hs => hp s (List.mem_cons_of_mem _ hs))
          obtain ⟨rest, hrest⟩ : ∃ rest, renderSegments base ++ ['/'] = '/' :: rest := by
            cases base <;> exact ⟨_, rfl⟩
          have hleft : renderSegments (b :: base) ++ ['/'] = '/' :: (b ++ '/' :: rest) := by
            rw [← hrest]
            simp [renderSegments]
          have hright : renderSegments (p :: path) = '/' :: (p ++ renderSegments path) := by
            simp [renderSegments]
          rw [hleft, hright, List.cons_prefix_cons,
            prefix_slash_iff (hb b List.mem_cons_self) (hp p List.mem_cons_self), ← hrest, ih]
          simp [eq_comm]

/-! ## What is kept and what is added -/

/-- A path that was extended: what is left of its base, and what was added behind. -/
structure Reach where
  kept : List Segment
  added : List Segment

namespace Reach

def path (r : Reach) : List Segment :=
  r.kept ++ r.added

/-- Takes up a segment; `..` takes from the base only where nothing is added. -/
def take (r : Reach) (last : Bool) (written : Segment) : Reach :=
  let s := withoutSkipped written
  if isDoubleDot s && r.added.isEmpty then ⟨dropLastSegment r.kept, ending last⟩
  else ⟨r.kept, extend r.added last s⟩

def takeAll (r : Reach) : List Segment → Reach
  | [] => r
  | [s] => r.take true s
  | s :: segments => (r.take false s).takeAll segments

/-- A reach returns to its base if it has added again all that it took back, and a segment more. -/
def Returns (r : Reach) (base : List Segment) : Prop :=
  ∃ s rest, r.added = base.drop r.kept.length ++ s :: rest

theorem takeAll_cons (r : Reach) (s : Segment) {segments : List Segment} (hs : segments ≠ []) :
    r.takeAll (s :: segments) = (r.take false s).takeAll segments := by
  cases segments with
  | nil => exact absurd rfl hs
  | cons => rfl

@[simp] theorem take_path (r : Reach) (last : Bool) (written : Segment) :
    (r.take last written).path = extend r.path last (withoutSkipped written) := by
  obtain ⟨kept, added⟩ := r
  unfold take extend path
  dsimp only
  by_cases hd : isDoubleDot (withoutSkipped written) = true
  · cases hadded : added.reverse with
    | nil =>
        obtain rfl : added = [] := List.reverse_eq_nil_iff.mp hadded
        simp [hd]
    | cons s rest =>
        obtain rfl : added = rest.reverse ++ [s] := by
          rw [← List.reverse_reverse added, hadded, List.reverse_cons]
        have hdrop : dropLastSegment (kept ++ (rest.reverse ++ [s])) =
            kept ++ dropLastSegment (rest.reverse ++ [s]) := by
          unfold dropLastSegment
          by_cases hs : isDrive s = true <;> simp [← List.append_assoc, hs]
        simp [hd, hdrop]
  · rw [Bool.not_eq_true] at hd
    simp only [hd, Bool.false_and, Bool.false_eq_true, ↓reduceIte]
    split <;> simp

/-- A trail that starts from a base arrives where its reach ends. -/
theorem takeAll_path (r : Reach) (hasDrive : Bool) (segments : List Segment) :
    ((⟨r.path, hasDrive⟩ : Trail).takeAll false segments).path = (r.takeAll segments).path := by
  induction segments generalizing r hasDrive with
  | nil => rfl
  | cons s segments ih =>
      have htake : ∀ last, ((⟨r.path, hasDrive⟩ : Trail).take false last s).path =
          (r.take last s).path := by
        intro last
        rw [Trail.take_path, take_path]
      by_cases hnil : segments = []
      · subst hnil
        exact htake true
      · rw [Trail.takeAll_cons _ s hnil, takeAll_cons r s hnil,
          ← ih (r.take false s) ((⟨r.path, hasDrive⟩ : Trail).take false false s).hasDrive,
          ← htake false]

/-- What every segment keeps, all of them keep. -/
theorem takeAll_of_take {P : Reach → Prop} {segments : List Segment}
    (step : ∀ r last, ∀ s ∈ segments, P r → P (r.take last s)) {r : Reach} (hr : P r) :
    P (r.takeAll segments) := by
  induction segments generalizing r with
  | nil => exact hr
  | cons s segments ih =>
      have htake : ∀ last, P (r.take last s) :=
        fun last => step r last s List.mem_cons_self hr
      by_cases hnil : segments = []
      · subst hnil
        exact htake true
      · rw [takeAll_cons r s hnil]
        exact ih (fun r last x hx => step r last x (List.mem_cons_of_mem _ hx)) (htake false)

theorem prefix_of_take (r : Reach) (last : Bool) (written : Segment) :
    (r.take last written).kept <+: r.kept := by
  unfold take
  dsimp only
  split
  · exact prefix_of_dropLastSegment r.kept
  · exact List.prefix_rfl

/-- What is kept is the front of the base. -/
theorem prefix_of_takeAll (r : Reach) (segments : List Segment) :
    (r.takeAll segments).kept <+: r.kept := by
  refine takeAll_of_take (P := fun r' => r'.kept <+: r.kept) ?_ List.prefix_rfl
  intro r' last s _ hr'
  exact (prefix_of_take r' last s).trans hr'

/-- A reach returns to its base where its path goes on from it. -/
theorem returns_iff {r : Reach} {base : List Segment} (hk : r.kept <+: base) :
    r.Returns base ↔ ∃ s rest, r.path = base ++ s :: rest := by
  obtain ⟨taken, rfl⟩ := hk
  simp [Returns, path]

/-! ### Resources that do not climb -/

theorem extend_last_ne_nil (path : List Segment) (s : Segment) : extend path true s ≠ [] := by
  unfold extend
  split
  · simp [ending]
  · split <;> simp [ending]

theorem takeAll_added_ne_nil (r : Reach) {segments : List Segment} (hs : segments ≠ []) :
    (r.takeAll segments).added ≠ [] := by
  induction segments generalizing r with
  | nil => exact absurd rfl hs
  | cons s segments ih =>
      by_cases hnil : segments = []
      · subst hnil
        change (r.take true s).added ≠ []
        unfold take
        dsimp only
        split
        · simp [ending]
        · exact extend_last_ne_nil _ _
      · rw [takeAll_cons r s hnil]
        exact ih _ hnil

theorem takeAll_kept_of_not_double (r : Reach) {segments : List Segment}
    (hs : ∀ s ∈ segments, isDoubleDot (withoutSkipped s) = false) :
    (r.takeAll segments).kept = r.kept := by
  refine takeAll_of_take (P := fun r' => r'.kept = r.kept) ?_ rfl
  intro r' last s hmem hr'
  simp [take, hs s hmem, hr']

/-- A reach that has kept its whole base returns to it. -/
theorem returns_of_kept {r : Reach} (hr : r.added ≠ []) : r.Returns r.kept := by
  obtain ⟨s, rest, he⟩ := List.exists_cons_of_ne_nil hr
  exact ⟨s, rest, by simp [he]⟩

end Reach

/-! ## Resources under an API -/

def segments (u : Url) : List Segment :=
  match u.hierarchy with
  | .authority _ path => path
  | .rooted _ path => path
  | .unrooted _ => []

/-- The path that resources are written behind: it has no empty segment at its end. -/
def baseSegments (api : Url) : List Segment :=
  api.segments.rdropWhile List.isEmpty

/-- The segments of a resource as they are written. -/
def resourceSegments (resource : String) : List Segment :=
  Text.split PathRules.special.isSlash
    (Text.trimStart (· == '/') (ResourceParts.ofText resource.toList).path)

/-- What a resource keeps of the path of its API and what it adds. -/
def reach (api : Url) (resource : String) : Reach :=
  Reach.takeAll ⟨api.baseSegments, []⟩ (resourceSegments resource)

/-- A URL that stands under an API: its path begins with that of the API and one slash. -/
def IsUnder (u api : Url) : Prop :=
  Text.trimEnd (· == '/') api.path ++ ['/'] <+: u.path

instance (u api : Url) : Decidable (u.IsUnder api) :=
  inferInstanceAs (Decidable (_ <+: _))

theorem compose_hierarchy (api : Url) (resource : String) :
    (api.compose resource).hierarchy =
      (api.withPath
        (joinPaths api.path (ResourceParts.ofText resource.toList).path)).hierarchy := by
  unfold compose
  dsimp only
  cases (ResourceParts.ofText resource.toList).fragment <;>
    cases (ResourceParts.ofText resource.toList).query <;> rfl

theorem segments_of_authority {u : Url} {a : Authority} {path : List Segment}
    (h : u.hierarchy = .authority a path) : u.segments = path := by
  rw [segments, h]

theorem path_of_authority {u : Url} {a : Authority} {path : List Segment}
    (h : u.hierarchy = .authority a path) : u.path = renderSegments path := by
  rw [Url.path, h, Hierarchy.renderPath]

theorem baseSegments_isNormal {api : Url} (hm : api.Made) {port : Nat}
    (hw : api.family = .web port) : ∀ s ∈ api.baseSegments, Segment.IsNormal s := by
  obtain ⟨a, path, hh, hn⟩ := hm.isNormal hw
  rw [← segments_of_authority hh] at hn
  intro s hs
  exact hn s ((List.rdropWhile_prefix List.isEmpty api.segments).subset hs)

/-- The base is the path without the slashes at its end. -/
theorem renderSegments_baseSegments {api : Url} (hm : api.Made) {port : Nat}
    (hw : api.family = .web port) :
    renderSegments api.baseSegments = Text.trimEnd (· == '/') api.path := by
  obtain ⟨a, path, hh, hn⟩ := hm.isNormal hw
  rw [path_of_authority hh, trimEnd_renderSegments fun s hs => (hn s hs).not_mem_slash,
    baseSegments, segments_of_authority hh]

/-- The path of a composed URL is what is kept of the path of the API and what is added. -/
theorem compose_segments {api : Url} (hm : api.Made) {port : Nat} (hw : api.family = .web port)
    (resource : String) : ∃ a, (api.compose resource).hierarchy =
      .authority a (api.reach resource).path := by
  obtain ⟨a, path, hh, -⟩ := hm.isNormal hw
  have hjoin : joinPaths api.path (ResourceParts.ofText resource.toList).path =
      renderSegments api.baseSegments ++
        '/' :: Text.trimStart (· == '/') (ResourceParts.ofText resource.toList).path := by
    rw [joinPaths, renderSegments_baseSegments hm hw]
  obtain ⟨hasDrive, hread⟩ := readPath_append (baseSegments_isNormal hm hw)
    (Text.trimStart (· == '/') (ResourceParts.ofText resource.toList).path)
  have hreach : (⟨api.baseSegments, []⟩ : Reach).path = api.baseSegments := by
    simp [Reach.path]
  refine ⟨a, ?_⟩
  rw [compose_hierarchy, hjoin, withPath, hh]
  dsimp only
  rw [hw, show (Family.web port).pathRules = .special from rfl, hread, ← hreach,
    Reach.takeAll_path]
  rfl

@[simp] theorem withPath_scheme (u : Url) (cs : List Char) : (u.withPath cs).scheme = u.scheme := by
  unfold withPath
  split <;> rfl

@[simp] theorem compose_scheme (api : Url) (resource : String) :
    (api.compose resource).scheme = api.scheme := by
  unfold compose
  dsimp only
  cases (ResourceParts.ofText resource.toList).fragment <;>
    cases (ResourceParts.ofText resource.toList).query <;> exact withPath_scheme _ _

theorem Made.compose {api : Url} (hm : api.Made) (resource : String) :
    (api.compose resource).Made := by
  have hpath := hm.path (joinPaths api.path (ResourceParts.ofText resource.toList).path)
  unfold Url.compose
  dsimp only
  cases (ResourceParts.ofText resource.toList).query with
  | none =>
      cases (ResourceParts.ofText resource.toList).fragment with
      | none => exact hpath
      | some fragment => exact hpath.fragment fragment
  | some query =>
      cases (ResourceParts.ofText resource.toList).fragment with
      | none => exact hpath.query _
      | some fragment => exact (hpath.query _).fragment fragment

/-- A composed URL is under its API where its resource returns to the base. -/
theorem isUnder_iff_returns {api : Url} (hm : api.Made) {port : Nat} (hw : api.family = .web port)
    (resource : String) :
    (api.compose resource).IsUnder api ↔ (api.reach resource).Returns api.baseSegments := by
  obtain ⟨a, hcomposed⟩ := compose_segments hm hw resource
  have hreach : ∀ s ∈ (api.reach resource).path, Segment.IsNormal s := by
    have hfamily : (api.compose resource).family = .web port := by
      rw [family, compose_scheme]
      exact hw
    obtain ⟨a', path', hh', hn'⟩ := (hm.compose resource).isNormal hfamily
    obtain ⟨_, rfl⟩ := Hierarchy.authority.inj (hcomposed.symm.trans hh')
    exact hn'
  have hbase := baseSegments_isNormal hm hw
  have hkept : (api.reach resource).kept <+: api.baseSegments :=
    Reach.prefix_of_takeAll ⟨api.baseSegments, []⟩ _
  rw [IsUnder, ← renderSegments_baseSegments hm hw, path_of_authority hcomposed]
  exact (renderSegments_prefix_iff (fun s hs => (hbase s hs).not_mem_slash)
    (fun s hs => (hreach s hs).not_mem_slash)).trans (Reach.returns_iff hkept).symm

/-- A resource is composed under its API exactly if it adds again what it took back of the path of
the API, and so always if it has no `..` segment. -/
theorem compose_isUnder_iff {api : Url} (hm : api.Made) {port : Nat} (hw : api.family = .web port)
    (resource : String) :
    ((api.compose resource).IsUnder api ↔
      (api.reach resource).Returns api.baseSegments) ∧
    ((∀ s ∈ resourceSegments resource, isDoubleDot (withoutSkipped s) = false) →
      (api.compose resource).IsUnder api) := by
  have hiff := isUnder_iff_returns hm hw resource
  refine ⟨hiff, ?_⟩
  intro hs
  have hkept : (api.reach resource).kept = api.baseSegments :=
    Reach.takeAll_kept_of_not_double ⟨api.baseSegments, []⟩ hs
  have hadded : (api.reach resource).added ≠ [] :=
    Reach.takeAll_added_ne_nil _ (Text.split_ne_nil _ _)
  have hreturns := Reach.returns_of_kept hadded
  rw [hkept] at hreturns
  exact hiff.mpr hreturns

/-! ### Resources of one API -/

def sampleApi : Url :=
  ⟨"https".toList, .authority ⟨[], [], some (.name "host".toList), none⟩
    ["application".toList, "v2".toList], none, none⟩

theorem parse_sampleApi : parse "https://host/application/v2" = .ok sampleApi :=
  eq_ok_of_toOption (by decide +kernel)

/-- A resource that takes a segment back and adds it again. -/
theorem compose_isUnder_sampleApi :
    sampleApi.Made ∧ sampleApi.family = .web 443 ∧
      ((sampleApi.compose "../v2/x").IsUnder sampleApi ↔
        (sampleApi.reach "../v2/x").Returns sampleApi.baseSegments) ∧
      ((∀ s ∈ resourceSegments "../v2/x", isDoubleDot (withoutSkipped s) = false) →
        (sampleApi.compose "../v2/x").IsUnder sampleApi) :=
  ⟨.parsed parse_sampleApi, rfl, compose_isUnder_iff (.parsed parse_sampleApi) rfl _⟩

/-- A resource that takes a segment back and does not add it again leaves its API. -/
theorem compose_leaves_api :
    ∃ id resource, Identifier.parse "urn:ads:platform:s:v2:../x" = .ok id ∧
      id.resource? = some resource ∧ parse "https://host/application/v2" = .ok sampleApi ∧
      ¬(sampleApi.compose resource.text).IsUnder sampleApi := by
  let space : Identifier.Label := ⟨"platform".toList, by decide, by decide, by decide⟩
  let service : Identifier.Label := ⟨"s".toList, by decide, by decide, by decide⟩
  let api : Identifier.Label := ⟨"v2".toList, by decide, by decide, by decide⟩
  let resource : Identifier.Resource := ⟨"../x".toList, by decide, by decide, by decide⟩
  exact ⟨⟨space, service, .resource api resource⟩, resource, eq_ok_of_toOption (by decide +kernel),
    rfl, parse_sampleApi, by decide +kernel⟩

end Signpost.Url
