import Signpost.Proofs.Text.Trim
import Signpost.Proofs.Url.Authorities
import Signpost.Proofs.Url.Blanks
import Signpost.Proofs.Url.Reach

/-! # The origin of a URL

A web URL that was read or edited is read back from its text. Composing it with a resource only
edits its path, its query and its fragment, so that the text of the composed URL is that of a URL
with the same scheme and authority, whatever the resource is. -/

namespace Signpost

/-! ## Texts of parts -/

@[simp] theorem Url.renderPart_none (mark : Char) : renderPart mark none = [] := rfl

@[simp] theorem Url.renderPart_some (mark : Char) (part : List Char) :
    renderPart mark (some part) = mark :: part := rfl

theorem Url.forall_mem_renderPart {P : Char → Prop} {mark : Char} {part : Option (List Char)}
    (hmark : P mark) (hpart : ∀ cs, part = some cs → ∀ c ∈ cs, P c) :
    ∀ c ∈ renderPart mark part, P c := by
  cases part with
  | none => simp
  | some cs =>
      rw [renderPart_some, List.forall_mem_cons]
      exact ⟨hmark, hpart cs rfl⟩

/-- A part is cut off at its mark, if the mark does not stand before it. -/
theorem Url.cut_renderPart {mark : Char} {front : List Char} (h : ∀ c ∈ front, c ≠ mark)
    (part : Option (List Char)) :
    Text.cut (· == mark) (front ++ renderPart mark part) = (front, part) := by
  have hmark : ∀ c ∈ front, (c == mark) = false := fun c hc => beq_eq_false_iff_ne.mpr (h c hc)
  cases part with
  | none =>
      rw [renderPart_none, List.append_nil]
      exact Text.cut_of_forall hmark
  | some cs => exact Text.cut_append hmark (beq_self_eq_true mark)

theorem ResourceParts.ofText_render {body : List Char} {query : Option (List Char)}
    (hbody : ∀ c ∈ body, c ≠ '#' ∧ c ≠ '?') (hquery : ∀ q, query = some q → ∀ c ∈ q, c ≠ '#')
    (fragment : Option (List Char)) :
    ofText (body ++ Url.renderPart '?' query ++ Url.renderPart '#' fragment) =
      ⟨body, query, fragment⟩ := by
  have hfront : ∀ c ∈ body ++ Url.renderPart '?' query, c ≠ '#' :=
    List.forall_mem_append.mpr
      ⟨fun c hc => (hbody c hc).1, Url.forall_mem_renderPart (by decide) hquery⟩
  simp only [ofText, Url.cut_renderPart hfront, Url.cut_renderPart fun c hc => (hbody c hc).2]

namespace Url

theorem withoutSkipped_eq_self {cs : List Char} (h : ∀ c ∈ cs, 0x20 < c.toNat) :
    withoutSkipped cs = cs := by
  refine List.filter_eq_self.mpr fun c hc => ?_
  cases hskipped : isSkipped c with
  | false => rfl
  | true => exact absurd (toNat_le_of_isSkipped hskipped) (Nat.not_le.mpr (h c hc))

/-- A part that holds nothing to escape is read as it is. -/
theorem readPart_eq_self {escape : Char → Bool} {cs : List Char}
    (hplain : ∀ c ∈ cs, escape c = false) (hlt : ∀ c ∈ cs, 0x20 < c.toNat) :
    readPart escape cs = cs := by
  rw [readPart, withoutSkipped_eq_self hlt, Percent.encode_eq_self hplain]

theorem of_fragment {c : Char} (h : Escape.fragment c = false) : 0x20 < c.toNat := by
  simp only [Escape.fragment, Bool.or_eq_false_iff, beq_eq_false_iff_ne] at h
  exact lt_toNat_of_control h.1.1.1.1.1 h.1.1.1.1.2

theorem of_specialQuery {c : Char} (h : Escape.specialQuery c = false) :
    0x20 < c.toNat ∧ c ≠ '#' := by
  simp only [Escape.specialQuery, Escape.query, Bool.or_eq_false_iff, beq_eq_false_iff_ne] at h
  exact ⟨lt_toNat_of_control h.1.1.1.1.1.1 h.1.1.1.1.1.2, h.1.1.1.2⟩

theorem of_mem_renderSegments {path : List Segment} (hn : ∀ s ∈ path, Segment.IsNormal s)
    {c : Char} (hc : c ∈ renderSegments path) : 0x20 < c.toNat := by
  obtain ⟨s, hs, hc⟩ := List.mem_flatMap.mp hc
  rcases List.mem_cons.mp hc with rfl | hc
  · decide
  · exact of_fragment (Escape.fragment_of_path ((hn s hs).plain c hc))

/-! ## Paths that are read back -/

theorem extend_true_ne_nil (path : List Segment) (s : Segment) : extend path true s ≠ [] := by
  unfold extend ending
  split
  · simp
  · split <;> simp

/-- The path of a web URL has a segment, if only an empty one. -/
theorem readPath_ne_nil (cs : List Char) : readPath .special cs ≠ [] := by
  have hread : readPath .special cs = ((⟨[], false⟩ : Trail).takeAll false
      (Text.split PathRules.special.isSlash
        (afterRoot .special (cs.dropWhile isSkipped)))).path := rfl
  obtain ⟨front, s, hsplit⟩ := (List.eq_nil_or_concat' _).resolve_left
    (Text.split_ne_nil PathRules.special.isSlash (afterRoot .special (cs.dropWhile isSkipped)))
  rw [hread, hsplit, Trail.takeAll_concat]
  exact extend_true_ne_nil _ _

/-- Normal segments are read back from their text. -/
theorem readPath_renderSegments {path : List Segment} (hne : path ≠ [])
    (hn : ∀ s ∈ path, Segment.IsNormal s) : readPath .special (renderSegments path) = path := by
  obtain ⟨s, rest, rfl⟩ := List.exists_cons_of_ne_nil hne
  have hrest := fun x hx => hn x (List.mem_cons_of_mem _ hx)
  have htext : renderSegments (s :: rest) = '/' :: (s ++ renderSegments rest) := rfl
  rw [htext, readPath_cons rfl, split_append_renderSegments s hrest,
    Text.split_of_forall (hn s List.mem_cons_self).not_slash]
  exact Trail.takeAll_append_of_isNormal ⟨[], false⟩ [] hne hn

/-! ## Web URLs as they are left -/

/-- A web URL as it is left by reading and editing. -/
structure IsNormal (port : Nat) (u : Url) : Prop where
  family_eq : u.family = .web port
  hierarchy : ∃ a path, u.hierarchy = .authority a path ∧ a.IsNormal port ∧ path ≠ [] ∧
    ∀ s ∈ path, Segment.IsNormal s
  query : ∀ q, u.query = some q → ∀ c ∈ q, Escape.specialQuery c = false
  fragment : ∀ f, u.fragment = some f → ∀ c ∈ f, Escape.fragment c = false

@[simp] theorem queryEscape_web (port : Nat) : queryEscape (.web port) = Escape.specialQuery := rfl

theorem specialQuery_of_mem_readPart {family : Family} {port : Nat} (hw : family = .web port)
    {cs : List Char} : ∀ c ∈ readPart (queryEscape family) cs, Escape.specialQuery c = false := by
  rw [hw, queryEscape_web]
  exact fun _ => Percent.plain_of_mem_encode (by decide) (by decide)

theorem fragment_of_mem_readPart {cs : List Char} :
    ∀ c ∈ readPart Escape.fragment cs, Escape.fragment c = false :=
  fun _ => Percent.plain_of_mem_encode (by decide) (by decide)

theorem IsNormal.of_parse {s : String} {u : Url} (h : parse s = .ok u) {port : Nat}
    (hw : u.family = .web port) : u.IsNormal port := by
  obtain ⟨rest, -, hread, hquery, hfragment⟩ := parse_eq_ok_iff.mp h
  rw [hw, readHierarchy_web, readAuthorityPath_eq_ok_iff] at hread
  obtain ⟨a, left, ha, hhierarchy⟩ := hread
  refine ⟨hw, ⟨a, _, hhierarchy.symm, readAuthority_isNormal ha, readPath_ne_nil _,
    readPath_isNormal _⟩, ?_, ?_⟩
  · intro q hq
    rw [← hquery] at hq
    obtain ⟨cs, -, rfl⟩ := Option.map_eq_some_iff.mp hq
    exact specialQuery_of_mem_readPart hw
  · intro f hf
    rw [← hfragment] at hf
    obtain ⟨cs, -, rfl⟩ := Option.map_eq_some_iff.mp hf
    exact fragment_of_mem_readPart

theorem withPath_hierarchy {u : Url} {port : Nat} (hw : u.family = .web port) {a : Authority}
    {path : List Segment} (hh : u.hierarchy = .authority a path) (cs : List Char) :
    (u.withPath cs).hierarchy = .authority a (readPath .special cs) := by
  simp only [withPath, hh, hw]
  rfl

/-- Every web URL there is is normal. -/
theorem Made.isNormal_url {u : Url} (hu : u.Made) {port : Nat} (hw : u.family = .web port) :
    u.IsNormal port := by
  induction hu with
  | parsed h => exact .of_parse h hw
  | @path u hu cs ih =>
      have hfamily : u.family = .web port := by
        rw [family, ← withPath_scheme u cs]
        exact hw
      obtain ⟨-, ⟨a, path, hh, ha, -, -⟩, hquery, hfragment⟩ := ih hfamily
      have hparts : (u.withPath cs).query = u.query ∧ (u.withPath cs).fragment = u.fragment := by
        simp [withPath, hh]
      exact ⟨hw, ⟨a, _, withPath_hierarchy hfamily hh cs, ha, readPath_ne_nil cs,
        readPath_isNormal cs⟩, hparts.1 ▸ hquery, hparts.2 ▸ hfragment⟩
  | query _ cs ih =>
      obtain ⟨-, hhierarchy, -, hfragment⟩ := ih hw
      refine ⟨hw, hhierarchy, ?_, hfragment⟩
      rintro _ hq
      obtain rfl := Option.some.inj hq
      exact specialQuery_of_mem_readPart hw
  | fragment _ cs ih =>
      obtain ⟨-, hhierarchy, hquery, -⟩ := ih hw
      refine ⟨hw, hhierarchy, hquery, ?_⟩
      rintro _ hf
      obtain rfl := Option.some.inj hf
      exact fragment_of_mem_readPart

/-! ## Reading back -/

/-- The schemes of web URLs. -/
def webSchemes : List (List Char) :=
  ["http", "ws", "https", "wss", "ftp"].map String.toList

theorem mem_webSchemes {scheme : List Char} {port : Nat} (h : Family.ofScheme scheme = .web port) :
    scheme ∈ webSchemes := by
  unfold Family.ofScheme at h
  split at h
  next hs =>
    simp only [Bool.or_eq_true, decide_eq_true_eq] at hs
    rcases hs with rfl | rfl <;> decide
  next =>
    split at h
    next hs =>
      simp only [Bool.or_eq_true, decide_eq_true_eq] at hs
      rcases hs with rfl | rfl <;> decide
    next =>
      split at h
      next hs =>
        subst hs
        decide
      next => split at h <;> cases h

theorem readScheme_web {scheme : List Char} {port : Nat} (h : Family.ofScheme scheme = .web port)
    (rest : List Char) : readScheme (scheme ++ ':' :: rest) = some (scheme, rest) := by
  have hall : ∀ scheme ∈ webSchemes, readScheme (scheme ++ [':']) = some (scheme, []) := by decide
  have hsplit : scheme ++ ':' :: rest = (scheme ++ [':']) ++ rest := by simp
  rw [hsplit]
  exact readScheme_append (hall scheme (mem_webSchemes h)) rest

namespace IsNormal

variable {port : Nat} {u : Url}

/-- The text of a web URL behind its scheme: the authority and the path behind two slashes. -/
theorem render_eq {a : Authority} {path : List Segment} (hh : u.hierarchy = .authority a path) :
    u.render = u.scheme ++ ':' :: ('/' :: '/' :: (a.render ++ renderSegments path) ++
      renderPart '?' u.query ++ renderPart '#' u.fragment) := by
  simp [render, hh, Hierarchy.renderStem, Hierarchy.renderPath]

theorem hierarchyText_render {a : Authority} {path : List Segment} (ha : a.IsNormal port)
    (hn : ∀ s ∈ path, Segment.IsNormal s) :
    hierarchyText ('/' :: '/' :: (a.render ++ renderSegments path)) =
      a.render ++ renderSegments path := by
  have hlt : ∀ c ∈ '/' :: '/' :: (a.render ++ renderSegments path), 0x20 < c.toNat := by
    simp only [List.forall_mem_cons, List.forall_mem_append]
    exact ⟨by decide, by decide, fun c hc => (ha.solid c hc).1,
      fun c hc => of_mem_renderSegments hn hc⟩
  obtain ⟨c, cs, hcs⟩ := List.exists_cons_of_ne_nil ha.render_ne_nil
  have hc : PathRules.special.isSlash c = false := (ha.solid c (hcs ▸ List.mem_cons_self)).2.2.2
  have hslash : PathRules.special.isSlash '/' = true := rfl
  rw [hierarchyText, withoutSkipped_eq_self hlt, List.dropWhile_cons_of_pos hslash,
    List.dropWhile_cons_of_pos hslash, hcs, List.cons_append,
    List.dropWhile_cons_of_neg (by simp [hc])]

theorem readHierarchy_render {a : Authority} {path : List Segment} (ha : a.IsNormal port)
    (hne : path ≠ []) (hn : ∀ s ∈ path, Segment.IsNormal s) (followed : Bool) :
    readHierarchy (.web port) followed ('/' :: '/' :: (a.render ++ renderSegments path)) =
      .ok (.authority a path) := by
  have hrules : (Family.web port).pathRules = .special := rfl
  have hsolid : ∀ c ∈ a.render, PathRules.special.isSlash c = false := fun c hc =>
    (ha.solid c hc).2.2.2
  rw [readHierarchy_web, hierarchyText_render ha hn, readAuthorityPath_eq_ok_iff, hrules,
    spanAuthority_append, spanAuthority_of_forall hsolid]
  refine ⟨a, [], ha.readAuthority_render _, ?_⟩
  rw [List.nil_append, List.nil_append, readPath_renderSegments hne hn]

/-- Nothing in the text of a web URL is left out or trimmed. -/
theorem lt_toNat_of_mem_render (hu : u.IsNormal port) : ∀ c ∈ u.render, 0x20 < c.toNat := by
  obtain ⟨a, path, hh, ha, -, hn⟩ := hu.hierarchy
  have hscheme : ∀ c ∈ u.scheme, 0x20 < c.toNat := by
    have hall : ∀ scheme ∈ webSchemes, scheme.all (0x20 < ·.toNat) = true := by decide
    intro c hc
    simpa using List.all_eq_true.mp (hall u.scheme (mem_webSchemes hu.family_eq)) c hc
  have hquery : ∀ c ∈ renderPart '?' u.query, 0x20 < c.toNat :=
    forall_mem_renderPart (by decide) fun q hq c hc => (of_specialQuery (hu.query q hq c hc)).1
  have hfragment : ∀ c ∈ renderPart '#' u.fragment, 0x20 < c.toNat :=
    forall_mem_renderPart (by decide) fun f hf c hc => of_fragment (hu.fragment f hf c hc)
  rw [render_eq hh]
  simp only [List.forall_mem_append, List.forall_mem_cons]
  exact ⟨hscheme, by decide, ⟨⟨by decide, by decide, fun c hc => (ha.solid c hc).1,
    fun c hc => of_mem_renderSegments hn hc⟩, hquery⟩, hfragment⟩

/-- A normal web URL is read back from its text. -/
theorem parse_toString (hu : u.IsNormal port) : parse (Url.toString u) = .ok u := by
  obtain ⟨a, path, hh, ha, hne, hn⟩ := hu.hierarchy
  have htrim : Text.trim (·.toNat ≤ 0x20) u.render = u.render :=
    Text.trim_eq_self fun c hc => by simpa using hu.lt_toNat_of_mem_render c hc
  have hquery : ∀ q, u.query = some q → ∀ c ∈ q, 0x20 < c.toNat ∧ c ≠ '#' := fun q hq c hc =>
    of_specialQuery (hu.query q hq c hc)
  have hbody : ∀ c ∈ '/' :: '/' :: (a.render ++ renderSegments path), c ≠ '#' ∧ c ≠ '?' := by
    simp only [List.forall_mem_cons, List.forall_mem_append]
    exact ⟨by decide, by decide, fun c hc => ⟨(ha.solid c hc).2.1, (ha.solid c hc).2.2.1⟩,
      fun c hc => not_mark_of_mem_renderSegments hn hc⟩
  have hparts := ResourceParts.ofText_render hbody (fun q hq c hc => (hquery q hq c hc).2)
    u.fragment
  rw [parse_eq_ok_iff, Url.toString, String.toList_ofList, htrim, render_eq hh]
  refine ⟨_, readScheme_web hu.family_eq _, ?_, ?_, ?_⟩
  · rw [hparts, hu.family_eq, hh]
    exact readHierarchy_render ha hne hn _
  · rw [hparts, hu.family_eq, queryEscape_web]
    cases hq : u.query with
    | none => rfl
    | some q =>
        exact congrArg some (readPart_eq_self (hu.query q hq) fun c hc => (hquery q hq c hc).1)
  · rw [hparts]
    cases hf : u.fragment with
    | none => rfl
    | some f =>
        exact congrArg some (readPart_eq_self (hu.fragment f hf) fun c hc =>
          of_fragment (hu.fragment f hf c hc))

end IsNormal

/-! ## Composed URLs -/

theorem compose_authority {api : Url} {port : Nat} (hw : api.family = .web port) {a : Authority}
    {path : List Segment} (hh : api.hierarchy = .authority a path) (resource : String) :
    (api.compose resource).authority? = some a := by
  have hhierarchy := compose_hierarchy api resource
  rw [withPath_hierarchy hw hh] at hhierarchy
  rw [authority?, hhierarchy]

/-- A web URL that is composed with a resource keeps its scheme and its authority: user name,
password, host and port. It is read back from its text, and so the text leads to the same host. -/
theorem compose_keeps_origin {api : Url} (hm : api.Made) {port : Nat} (hw : api.family = .web port)
    (resource : String) :
    (api.compose resource).scheme = api.scheme ∧
    (∃ a, api.authority? = some a ∧ (api.compose resource).authority? = some a) ∧
    parse (Url.toString (api.compose resource)) = .ok (api.compose resource) := by
  have hscheme := compose_scheme api resource
  have hw' : (api.compose resource).family = .web port := by
    rw [family, hscheme]
    exact hw
  obtain ⟨a, path, hh, -⟩ := (hm.isNormal_url hw).hierarchy
  refine ⟨hscheme, ⟨a, by rw [authority?, hh], compose_authority hw hh resource⟩, ?_⟩
  exact ((hm.compose resource).isNormal_url hw').parse_toString

/-- An API on a port of the local machine, with a user name and a password. -/
def localApi : Url :=
  ⟨"http".toList, .authority ⟨"u".toList, "p".toList, some (.ipv6 ⟨[0, 0, 0, 0, 0, 0, 0, 1], rfl⟩),
    some 81⟩ ["a".toList], none, none⟩

theorem parse_localApi : parse "http://u:p@[::1]:81/a" = .ok localApi :=
  eq_ok_of_toOption (by decide +kernel)

/-- A resource that looks like another host comes below the API all the same. -/
theorem compose_keeps_origin_localApi :
    localApi.Made ∧ localApi.family = .web 80 ∧
      (localApi.compose "//\\v@host:9/%2E./..\\x").scheme = localApi.scheme ∧
      (∃ a, localApi.authority? = some a ∧
        (localApi.compose "//\\v@host:9/%2E./..\\x").authority? = some a) ∧
      parse (Url.toString (localApi.compose "//\\v@host:9/%2E./..\\x")) =
        .ok (localApi.compose "//\\v@host:9/%2E./..\\x") :=
  ⟨.parsed parse_localApi, rfl, compose_keeps_origin (.parsed parse_localApi) rfl _⟩

example :
    Url.toString (localApi.compose "//\\v@host:9/%2E./..\\x") = "http://u:p@[::1]:81/a/x" := by
  decide +kernel

end Url

end Signpost
