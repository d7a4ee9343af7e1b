import Signpost.Proofs.Url.Origin

/-! # The parts of a composed URL

A resource is cut into a path, a query and a fragment. Its query and its fragment are escaped and
come behind those of the API or in their place, and where its path has no dot segment it comes
behind the path of the API in the same way. Nothing that the API has is escaped a second time, and
slashes between the two paths make no difference. -/

namespace Signpost

/-! ## Cut texts -/

theorem Text.not_sep_of_cut {sep : Char → Bool} {cs before : List Char} {after : Option (List Char)}
    (h : cut sep cs = (before, after)) : ∀ c ∈ before, sep c = false := by
  induction cs generalizing before with
  | nil =>
      obtain ⟨rfl, -⟩ := Prod.mk.inj h
      simp
  | cons d cs ih =>
      by_cases hd : sep d = true
      · rw [cut, if_pos hd] at h
        obtain ⟨rfl, -⟩ := Prod.mk.inj h
        simp
      · rw [cut, if_neg hd] at h
        obtain ⟨rfl, rfl⟩ := Prod.mk.inj h
        exact List.forall_mem_cons.mpr ⟨by simpa using hd, ih rfl⟩

/-- The parts of a text: its fragment stands behind the first `#`, and the query behind the first
`?` before that. -/
structure ResourceParts.IsCutOf (parts : ResourceParts) (cs : List Char) : Prop where
  text_eq : cs = parts.path ++ Url.renderPart '?' parts.query ++ Url.renderPart '#' parts.fragment
  path : ∀ c ∈ parts.path, c ≠ '#' ∧ c ≠ '?'
  query : ∀ q, parts.query = some q → ∀ c ∈ q, c ≠ '#'

/-- A text has its parts and no others. -/
theorem ResourceParts.isCutOf_iff {parts : ResourceParts} {cs : List Char} :
    parts.IsCutOf cs ↔ ofText cs = parts := by
  constructor
  · rintro ⟨rfl, hpath, hquery⟩
    exact ofText_render hpath hquery parts.fragment
  · rintro rfl
    rcases hhash : Text.cut (· == '#') cs with ⟨rest, fragment⟩
    rcases hmark : Text.cut (· == '?') rest with ⟨path, query⟩
    have hparts : ofText cs = ⟨path, query, fragment⟩ := by simp only [ofText, hhash, hmark]
    have hcs : rest ++ Url.renderPart '#' fragment = cs := by
      have hjoin := Text.join_cut '#' cs
      rwa [hhash] at hjoin
    have hrest : path ++ Url.renderPart '?' query = rest := by
      have hjoin := Text.join_cut '?' rest
      rwa [hmark] at hjoin
    have hnohash : ∀ c ∈ path ++ Url.renderPart '?' query, c ≠ '#' := by
      simpa [hrest] using Text.not_sep_of_cut hhash
    have hnomark : ∀ c ∈ path, c ≠ '?' := by simpa using Text.not_sep_of_cut hmark
    rw [List.forall_mem_append] at hnohash
    rw [hparts]
    refine ⟨by rw [hrest, hcs], fun c hc => ⟨hnohash.1 c hc, hnomark c hc⟩, ?_⟩
    rintro q rfl c hc
    exact hnohash.2 c (List.mem_cons_of_mem _ hc)

/-- What holds of the characters of a text holds of those of its parts. -/
theorem ResourceParts.IsCutOf.forall_parts {parts : ResourceParts} {cs : List Char}
    (h : parts.IsCutOf cs) {P : Char → Prop} (hcs : ∀ c ∈ cs, P c) :
    (∀ c ∈ parts.path, P c) ∧ (∀ q, parts.query = some q → ∀ c ∈ q, P c) ∧
      ∀ f, parts.fragment = some f → ∀ c ∈ f, P c := by
  rw [h.text_eq] at hcs
  simp only [List.forall_mem_append] at hcs
  obtain ⟨⟨hpath, hquery⟩, hfragment⟩ := hcs
  refine ⟨hpath, ?_, ?_⟩
  · intro q hq c hc
    rw [hq] at hquery
    exact hquery c (List.mem_cons_of_mem _ hc)
  · intro f hf c hc
    rw [hf] at hfragment
    exact hfragment c (List.mem_cons_of_mem _ hc)

namespace Url

/-! ## Dot segments in every spelling -/

/-- The spellings of a dot. -/
def dotSpellings : List Segment :=
  [".".toList, "%2e".toList, "%2E".toList]

/-- The segments `.` and `..`, each dot in any spelling. -/
def Segment.IsDots (s : Segment) : Prop :=
  s ∈ dotSpellings ∨ ∃ a ∈ dotSpellings, ∃ b ∈ dotSpellings, s = a ++ b

theorem afterDot_eq_some_iff {s rest : Segment} :
    afterDot s = some rest ↔ ∃ dot ∈ dotSpellings, s = dot ++ rest := by
  constructor
  · intro h
    unfold afterDot at h
    split at h
    next =>
      obtain rfl := Option.some.inj h
      exact ⟨".".toList, by decide, rfl⟩
    next e _ =>
      split at h
      next he =>
        obtain rfl := Option.some.inj h
        simp only [Bool.or_eq_true, beq_iff_eq] at he
        rcases he with rfl | rfl
        · exact ⟨"%2e".toList, by decide, rfl⟩
        · exact ⟨"%2E".toList, by decide, rfl⟩
      next => cases h
    next => cases h
  · rintro ⟨dot, hdot, rfl⟩
    simp only [dotSpellings, List.mem_cons, List.not_mem_nil, or_false] at hdot
    rcases hdot with rfl | rfl | rfl <;> rfl

theorem isSingleDot_iff {s : Segment} : isSingleDot s = true ↔ s ∈ dotSpellings := by
  rw [isSingleDot, beq_iff_eq, afterDot_eq_some_iff]
  simp

theorem isDoubleDot_iff {s : Segment} :
    isDoubleDot s = true ↔ ∃ a ∈ dotSpellings, ∃ b ∈ dotSpellings, s = a ++ b := by
  rw [isDoubleDot, beq_iff_eq, Option.bind_eq_some_iff]
  constructor
  · rintro ⟨rest, hrest, hnil⟩
    obtain ⟨a, ha, rfl⟩ := afterDot_eq_some_iff.mp hrest
    obtain ⟨b, hb, rfl⟩ := afterDot_eq_some_iff.mp hnil
    exact ⟨a, ha, b, hb, by rw [List.append_nil]⟩
  · rintro ⟨a, ha, b, hb, rfl⟩
    exact ⟨b, afterDot_eq_some_iff.mpr ⟨a, ha, rfl⟩,
      afterDot_eq_some_iff.mpr ⟨b, hb, (List.append_nil b).symm⟩⟩

theorem Segment.isDots_iff {s : Segment} :
    Segment.IsDots s ↔ isSingleDot s = true ∨ isDoubleDot s = true := by
  rw [isSingleDot_iff, isDoubleDot_iff]
  rfl

/-! ## Paths without dot segments -/

/-- A segment that is no dot segment is escaped and added. -/
theorem extend_of_not_isDots {s : Segment} (hs : ¬Segment.IsDots s) (path : List Segment)
    (last : Bool) : extend path last s = path ++ [Percent.encode Escape.path s] := by
  rw [Segment.isDots_iff, not_or] at hs
  rw [extend, if_neg hs.2, if_neg hs.1]

/-- A text without tabs and line breaks. -/
def IsUnbroken (cs : List Char) : Prop :=
  ∀ c ∈ cs, isSkipped c = false

instance (cs : List Char) : Decidable (IsUnbroken cs) :=
  decidable_of_iff (cs.all (!isSkipped ·) = true) (by simp [IsUnbroken])

theorem IsUnbroken.withoutSkipped_eq {cs : List Char} (h : IsUnbroken cs) :
    withoutSkipped cs = cs :=
  List.filter_eq_self.mpr fun c hc => by simp [h c hc]

theorem Reach.take_of_not_isDots {s : Segment} (hs : ¬Segment.IsDots s) (hu : IsUnbroken s)
    (r : Reach) (last : Bool) :
    r.take last s = ⟨r.kept, r.added ++ [Percent.encode Escape.path s]⟩ := by
  have hdouble : isDoubleDot s = false := by
    rw [Segment.isDots_iff, not_or, Bool.not_eq_true, Bool.not_eq_true] at hs
    exact hs.2
  simp [Reach.take, hu.withoutSkipped_eq, hdouble, extend_of_not_isDots hs]

/-- Segments none of which is a dot segment are escaped and added one by one. -/
theorem Reach.takeAll_of_not_isDots {segments : List Segment}
    (hs : ∀ s ∈ segments, ¬Segment.IsDots s ∧ IsUnbroken s) (r : Reach) :
    r.takeAll segments = ⟨r.kept, r.added ++ segments.map (Percent.encode Escape.path)⟩ := by
  induction segments generalizing r with
  | nil => simp [Reach.takeAll]
  | cons s segments ih =>
      rw [List.forall_mem_cons] at hs
      have htake := Reach.take_of_not_isDots hs.1.1 hs.1.2 r
      by_cases hnil : segments = []
      · subst hnil
        exact htake true
      · rw [Reach.takeAll_cons r s hnil, ih hs.2, htake false]
        simp

/-- A text with slashes for its backslashes. -/
def slashed (cs : List Char) : List Char :=
  cs.map fun c => if c = '\\' then '/' else c

theorem slashed_cons_of_isSlash {c : Char} (hc : PathRules.special.isSlash c = true)
    (cs : List Char) : slashed (c :: cs) = '/' :: slashed cs := by
  simp only [PathRules.isSlash, Bool.or_eq_true, Bool.and_eq_true, beq_iff_eq] at hc
  rcases hc with rfl | ⟨-, rfl⟩ <;> rfl

theorem slashed_cons_of_not_isSlash {c : Char} (hc : PathRules.special.isSlash c = false)
    (cs : List Char) : slashed (c :: cs) = c :: slashed cs := by
  have hne : c ≠ '\\' := by
    rintro rfl
    cases hc
  simp [slashed, hne]

/-- The segments of a text, each escaped, are written as the text escaped as a whole. -/
theorem renderSegments_map_encode (cs : List Char) :
    renderSegments ((Text.split PathRules.special.isSlash cs).map (Percent.encode Escape.path)) =
      '/' :: Percent.encode Escape.path (slashed cs) := by
  induction cs with
  | nil => rfl
  | cons c cs ih =>
      by_cases hc : PathRules.special.isSlash c = true
      · have hslash : Percent.encode Escape.path ('/' :: slashed cs) =
            '/' :: Percent.encode Escape.path (slashed cs) := by
          rw [encode_path_of_plain (by decide)]
        rw [Text.split_cons_of_sep hc, slashed_cons_of_isSlash hc, hslash, ← ih]
        rfl
      · rw [Bool.not_eq_true] at hc
        obtain ⟨part, parts, hparts⟩ := List.exists_cons_of_ne_nil (Text.split_ne_nil _ cs)
        rw [hparts] at ih
        have hencode : Percent.encode Escape.path part ++
            renderSegments (parts.map (Percent.encode Escape.path)) =
              Percent.encode Escape.path (slashed cs) := (List.cons.inj ih).2
        rw [Text.split_cons_of_not_sep hc hparts, slashed_cons_of_not_isSlash hc,
          Percent.encode_cons, ← hencode, List.map_cons, renderSegments, List.flatMap_cons,
          Percent.encode_cons]
        simp [renderSegments]

/-- A slash at the front of a text adds an empty segment. -/
theorem mem_split_trimStart {cs : List Char} {s : Segment}
    (hs : s ∈ Text.split PathRules.special.isSlash (Text.trimStart (· == '/') cs)) :
    s ∈ Text.split PathRules.special.isSlash cs := by
  induction cs with
  | nil => exact hs
  | cons c cs ih =>
      by_cases hc : c = '/'
      · subst hc
        rw [Text.split_cons_of_sep rfl]
        exact List.mem_cons_of_mem _ (ih hs)
      · rwa [Text.trimStart, List.dropWhile_cons_of_neg (by simpa using hc)] at hs

/-! ## Queries and fragments -/

theorem readPart_append (escape : Char → Bool) (cs l : List Char) :
    readPart escape (cs ++ l) = readPart escape cs ++ readPart escape l := by
  rw [readPart, withoutSkipped, List.filter_append, Percent.encode_append]
  rfl

theorem readPart_of_isUnbroken {cs : List Char} (h : IsUnbroken cs) (escape : Char → Bool) :
    readPart escape cs = Percent.encode escape cs := by
  rw [readPart, h.withoutSkipped_eq]

/-- A query that comes behind another is escaped, and the other one is left as it is. -/
theorem readPart_merged {base q : List Char} (hbase : ∀ c ∈ base, Escape.specialQuery c = false)
    (hq : IsUnbroken q) :
    readPart Escape.specialQuery (base ++ '&' :: q) =
      base ++ '&' :: Percent.encode Escape.specialQuery q := by
  have hmark : IsUnbroken ('&' :: q) := List.forall_mem_cons.mpr ⟨by decide, hq⟩
  have hplain : Escape.specialQuery '&' = false := by decide
  rw [readPart_append, readPart_eq_self hbase fun c hc => (of_specialQuery (hbase c hc)).1,
    readPart_of_isUnbroken hmark, Percent.encode_cons, hplain]
  rfl

@[simp] theorem withPath_query (u : Url) (cs : List Char) : (u.withPath cs).query = u.query := by
  unfold withPath
  split <;> rfl

@[simp]
theorem withPath_fragment (u : Url) (cs : List Char) : (u.withPath cs).fragment = u.fragment := by
  unfold withPath
  split <;> rfl

theorem compose_query (api : Url) (resource : String) :
    (api.compose resource).query =
      (((ResourceParts.ofText resource.toList).query.map fun q =>
        readPart (queryEscape api.family) (mergeQueries api.query q)).or api.query) := by
  unfold compose
  dsimp only
  cases (ResourceParts.ofText resource.toList).query <;>
    cases (ResourceParts.ofText resource.toList).fragment <;>
    simp [withQuery, withFragment, family]

theorem compose_fragment (api : Url) (resource : String) :
    (api.compose resource).fragment =
      (((ResourceParts.ofText resource.toList).fragment.map (readPart Escape.fragment)).or
        api.fragment) := by
  unfold compose
  dsimp only
  cases (ResourceParts.ofText resource.toList).query <;>
    cases (ResourceParts.ofText resource.toList).fragment <;>
    simp [withQuery, withFragment]

/-! ## Composed paths -/

section

variable {api : Url} {port : Nat}

/-- A resource path without dot segments comes escaped behind the path of its API. -/
theorem compose_path_of_not_isDots (hm : api.Made) (hw : api.family = .web port)
    {resource : String} {parts : ResourceParts}
    (hparts : ResourceParts.ofText resource.toList = parts) (hu : IsUnbroken parts.path)
    (hdots : ∀ s ∈ Text.split PathRules.special.isSlash parts.path, ¬Segment.IsDots s) :
    (api.compose resource).path = Text.trimEnd (· == '/') api.path ++
      '/' :: Percent.encode Escape.path (slashed (Text.trimStart (· == '/') parts.path)) := by
  obtain ⟨a, hcomposed⟩ := compose_segments hm hw resource
  have hsegments : ∀ s ∈ resourceSegments resource, ¬Segment.IsDots s ∧ IsUnbroken s := by
    intro s hs
    rw [resourceSegments, hparts] at hs
    have hmem := mem_split_trimStart hs
    exact ⟨hdots s hmem, fun c hc => hu c (Text.mem_of_mem_split hmem hc)⟩
  rw [path_of_authority hcomposed, reach, Reach.takeAll_of_not_isDots hsegments, Reach.path,
    renderSegments_append, renderSegments_baseSegments hm hw, List.nil_append,
    resourceSegments, renderSegments_map_encode, hparts]

/-! ## Slashes between the paths -/

/-- Composing tells resources apart by their parts, and by their paths only as they are joined. -/
theorem compose_congr {api' : Url} {resource resource' : String}
    (hpath : api'.withPath (joinPaths api'.path (ResourceParts.ofText resource'.toList).path) =
      api.withPath (joinPaths api.path (ResourceParts.ofText resource.toList).path))
    (hquery : (ResourceParts.ofText resource'.toList).query =
      (ResourceParts.ofText resource.toList).query)
    (hfragment : (ResourceParts.ofText resource'.toList).fragment =
      (ResourceParts.ofText resource.toList).fragment) (hapi : api'.query = api.query) :
    api'.compose resource' = api.compose resource := by
  unfold compose
  dsimp only
  rw [hpath, hquery, hfragment, hapi]

/-- Slashes in front of a resource are slashes in front of its path. -/
theorem ofText_slashes_append (k : Nat) (cs : List Char) :
    ResourceParts.ofText (List.replicate k '/' ++ cs) =
      { ResourceParts.ofText cs with
        path := List.replicate k '/' ++ (ResourceParts.ofText cs).path } := by
  have hcut : (ResourceParts.ofText cs).IsCutOf cs := ResourceParts.isCutOf_iff.mpr rfl
  have hslashes : ∀ c ∈ List.replicate k '/', c ≠ '#' ∧ c ≠ '?' := by simp [List.mem_replicate]
  refine ResourceParts.isCutOf_iff.mp
    ⟨?_, List.forall_mem_append.mpr ⟨hslashes, hcut.path⟩, hcut.query⟩
  simpa using hcut.text_eq

theorem compose_slashes_append (api : Url) (resource : String) (k : Nat) :
    api.compose (String.ofList (List.replicate k '/' ++ resource.toList)) =
      api.compose resource := by
  have hjoin (cs : List Char) :
      joinPaths api.path (List.replicate k '/' ++ cs) = joinPaths api.path cs := by
    rw [joinPaths, Text.trimStart, List.dropWhile_append_of_pos (by simp [List.mem_replicate])]
    rfl
  refine compose_congr ?_ ?_ ?_ rfl <;> rw [String.toList_ofList, ofText_slashes_append]
  rw [hjoin]

/-- A URL with slashes added at the end of the path of another. -/
structure Lengthened (k : Nat) (u v : Url) : Prop where
  scheme_eq : v.scheme = u.scheme
  authority_eq : v.authority? = u.authority?
  path_eq : v.path = u.path ++ List.replicate k '/'
  query_eq : v.query = u.query
  fragment_eq : v.fragment = u.fragment

theorem authority?_eq_some_iff {u : Url} {a : Authority} :
    u.authority? = some a ↔ ∃ path, u.hierarchy = .authority a path := by
  unfold authority?
  cases u.hierarchy <;> simp

theorem Lengthened.compose_eq {api' : Url} {k : Nat} (h : Lengthened k api api') (hm : api.Made)
    (hw : api.family = .web port) (resource : String) :
    api'.compose resource = api.compose resource := by
  obtain ⟨a, path, hh, -⟩ := hm.isNormal hw
  obtain ⟨path', hh'⟩ : ∃ path', api'.hierarchy = .authority a path' :=
    authority?_eq_some_iff.mp (h.authority_eq.trans (authority?_eq_some_iff.mpr ⟨path, hh⟩))
  have hw' : api'.family = .web port := by
    rw [family, h.scheme_eq]
    exact hw
  have hjoin (cs : List Char) : joinPaths api'.path cs = joinPaths api.path cs := by
    rw [joinPaths, h.path_eq, Text.trimEnd_append_of_forall (by simp [List.mem_replicate])]
    rfl
  refine compose_congr ?_ rfl rfl h.query_eq
  rw [hjoin, withPath, withPath, hh, hh']
  simp only [hw, hw', h.scheme_eq, h.query_eq, h.fragment_eq]

/-- Slashes can be added to every path. -/
theorem exists_lengthened (hm : api.Made) (hw : api.family = .web port) (k : Nat) :
    ∃ api', api'.Made ∧ Lengthened k api api' := by
  obtain ⟨-, ⟨a, path, hh, -, hne, hn⟩, -, -⟩ := hm.isNormal_url hw
  have hpath := path_of_authority hh
  have hread : readPath .special (api.path ++ List.replicate k '/') =
      path ++ List.replicate k [] := by
    rw [hpath, ← renderSegments_replicate, ← renderSegments_append]
    exact readPath_renderSegments (by simp [hne])
      (List.forall_mem_append.mpr ⟨hn, isNormal_of_mem_replicate⟩)
  have hhierarchy := withPath_hierarchy hw hh (api.path ++ List.replicate k '/')
  rw [hread] at hhierarchy
  refine ⟨_, hm.path (api.path ++ List.replicate k '/'), withPath_scheme _ _, ?_, ?_,
    withPath_query _ _, withPath_fragment _ _⟩
  · rw [authority?, authority?, hhierarchy, hh]
  · rw [path_of_authority hhierarchy, renderSegments_append, renderSegments_replicate, hpath]

end

/-! ## Composed URLs part by part -/

/-- What the parts of a resource make of the parts of its API. -/
structure CompositionSpec (api : Url) (parts : ResourceParts) (u : Url) : Prop where
  query_kept : parts.query = none → u.query = api.query
  query_merged : ∀ q base, parts.query = some q → api.query = some base → base ≠ [] →
    u.query = some (base ++ '&' :: Percent.encode Escape.specialQuery q)
  query_new : ∀ q, parts.query = some q → api.query = none ∨ api.query = some [] →
    u.query = some (Percent.encode Escape.specialQuery q)
  fragment_kept : parts.fragment = none → u.fragment = api.fragment
  fragment_new : ∀ f, parts.fragment = some f →
    u.fragment = some (Percent.encode Escape.fragment f)
  path_eq : (∀ s ∈ Text.split PathRules.special.isSlash parts.path, ¬Segment.IsDots s) →
    u.path = Text.trimEnd (· == '/') api.path ++
      '/' :: Percent.encode Escape.path (slashed (Text.trimStart (· == '/') parts.path))

theorem compositionSpec {api : Url} (hm : api.Made) {port : Nat} (hw : api.family = .web port)
    {resource : String} {parts : ResourceParts} (hcut : parts.IsCutOf resource.toList)
    (hu : IsUnbroken resource.toList) : CompositionSpec api parts (api.compose resource) := by
  have hparts := ResourceParts.isCutOf_iff.mp hcut
  have hnormal := hm.isNormal_url hw
  obtain ⟨hpath, hquery, hfragment⟩ := hcut.forall_parts hu
  refine ⟨?_, ?_, ?_, ?_, ?_, compose_path_of_not_isDots hm hw hparts hpath⟩
  · intro hnone
    simp [compose_query, hparts, hnone]
  · intro q base hq hbase hne
    obtain ⟨c, cs, rfl⟩ := List.exists_cons_of_ne_nil hne
    rw [compose_query, hparts, hq, hbase, hw, queryEscape_web, Option.map_some, Option.some_or,
      mergeQueries, readPart_merged (hnormal.query _ hbase) (hquery q hq)]
  · intro q hq hbase
    have hmerged : mergeQueries api.query q = q := by
      rcases hbase with hbase | hbase <;> rw [hbase] <;> rfl
    rw [compose_query, hparts, hq, hw, queryEscape_web, Option.map_some, Option.some_or, hmerged,
      readPart_of_isUnbroken (hquery q hq)]
  · intro hnone
    simp [compose_fragment, hparts, hnone]
  · intro f hf
    rw [compose_fragment, hparts, hf, Option.map_some, Option.some_or,
      readPart_of_isUnbroken (hfragment f hf)]

/-- Every part of a composed URL is that of the API, that of the resource escaped, or the one behind
the other, as long as the resource has neither tabs nor line breaks, which would be left out.
Slashes added at the front of the resource or at the end of the path of the API change nothing. -/
theorem compose_parts {api : Url} (hm : api.Made) {port : Nat} (hw : api.family = .web port)
    (resource : String) :
    (IsUnbroken resource.toList → ∃ parts : ResourceParts, parts.IsCutOf resource.toList ∧
      CompositionSpec api parts (api.compose resource)) ∧
    (∀ k, api.compose (String.ofList (List.replicate k '/' ++ resource.toList)) =
      api.compose resource) ∧
    ∀ k, (∃ api', api'.Made ∧ Lengthened k api api') ∧
      ∀ api', Lengthened k api api' → api'.compose resource = api.compose resource := by
  refine ⟨fun hu => ?_, compose_slashes_append api resource, fun k => ?_⟩
  · have hcut : (ResourceParts.ofText resource.toList).IsCutOf resource.toList :=
      ResourceParts.isCutOf_iff.mpr rfl
    exact ⟨_, hcut, compositionSpec hm hw hcut hu⟩
  · exact ⟨exists_lengthened hm hw k, fun api' h => h.compose_eq hm hw resource⟩

/-- An API with a query, a fragment and a slash at the end of its path. -/
def searchApi : Url :=
  ⟨"https".toList, .authority ⟨[], [], some (.name "host".toList), none⟩
    ["file%20s".toList, "v1".toList, []], some "t=%27a%27".toList, some "top".toList⟩

theorem parse_searchApi : parse "https://host/file s/v1/?t='a'#top" = .ok searchApi :=
  eq_ok_of_toOption (by decide +kernel)

/-- A resource with marks behind one another, backslashes, and text that is escaped already. -/
def mixedResource : String :=
  "//a\\\"b%22/...?'q?&#é#"

/-- The parts of the mixed resource come behind those of the API or in their place, with slashes
between the paths or without. -/
theorem compose_parts_searchApi :
    searchApi.Made ∧ searchApi.family = .web 443 ∧ IsUnbroken mixedResource.toList ∧
      (∃ parts : ResourceParts, parts.IsCutOf mixedResource.toList ∧
        CompositionSpec searchApi parts (searchApi.compose mixedResource)) ∧
      searchApi.compose (String.ofList (List.replicate 2 '/' ++ mixedResource.toList)) =
        searchApi.compose mixedResource ∧
      ∃ api', api'.Made ∧ Lengthened 3 searchApi api' ∧
        api'.compose mixedResource = searchApi.compose mixedResource := by
  have hunbroken : IsUnbroken mixedResource.toList := by decide +kernel
  obtain ⟨hparts, hfront, hback⟩ := compose_parts (.parsed parse_searchApi) rfl mixedResource
  obtain ⟨⟨api', hmade, hlengthened⟩, hsame⟩ := hback 3
  exact ⟨.parsed parse_searchApi, rfl, hunbroken, hparts hunbroken, hfront 2, api', hmade,
    hlengthened, hsame api' hlengthened⟩

example : Url.toString (searchApi.compose mixedResource) =
    "https://host/file%20s/v1/a/%22b%22/...?t=%27a%27&%27q?&#%C3%A9#" := by
  decide +kernel

end Url

end Signpost
