import Signpost.Proofs.Url.Extension
import Signpost.Proofs.Url.Hosts

/-! # Authorities that end in a blank

A blank stays in a domain name as it is read: it belongs to no escape and to no longer scalar, has
no lower case and takes no mark, and the ASCII form of a label keeps it. Such a name is refused, and
so are an address in brackets and a port that a blank stands behind. -/

namespace Signpost

/-! ## Characters that stay -/

namespace Utf8

theorem not_isTail {b : UInt8} (hb : b.toNat < 0x80) : isTail b = false := by
  simp [isTail]
  omega

/-- A byte below 0x80 is a character of its own. -/
theorem mem_decodeUnits {b : UInt8} (hb : b.toNat < 0x80) {bytes : List UInt8} (h : b ∈ bytes) :
    some (Char.ofNat b.toNat) ∈ decodeUnits bytes := by
  have htail : ∀ {x : UInt8}, isTail x = true → b ≠ x := by
    rintro x hx rfl
    rw [not_isTail hb] at hx
    cases hx
  have hsecond : ∀ {a x : UInt8}, isSecond a x = true → b ≠ x := by
    intro a x hx
    simp only [isSecond, Bool.and_eq_true] at hx
    exact htail hx.1
  fun_induction decodeUnits bytes <;> grind

theorem mem_decode? {bytes : List UInt8} {name : List Char} (h : decode? bytes = some name)
    {b : UInt8} (hb : b.toNat < 0x80) (hmem : b ∈ bytes) : Char.ofNat b.toNat ∈ name := by
  have hunit := mem_decodeUnits hb hmem
  unfold decode? at h
  generalize decodeUnits bytes = units at h hunit
  induction units generalizing name with
  | nil => cases hunit
  | cons unit units ih =>
      rw [List.mapM_cons, Option.bind_eq_bind, Option.bind_eq_some_iff] at h
      obtain ⟨c, hc, h⟩ := h
      rw [Option.bind_eq_bind, Option.bind_eq_some_iff] at h
      obtain ⟨rest, hrest, h⟩ := h
      obtain rfl := Option.some.inj h
      rcases List.mem_cons.mp hunit with hself | hunit
      · rw [← hself] at hc
        exact List.mem_cons.mpr (.inl (Option.some.inj hc))
      · exact List.mem_cons_of_mem _ (ih hrest hunit)

end Utf8

namespace Url

/-! ## Names -/

theorem Punycode.mem_encode {c : Char} (hlt : c.toNat < 0x80) {label : List Char}
    (hc : c ∈ label) : c ∈ encode label := by
  have hbasic : c ∈ label.filter (·.toNat < 0x80) := List.mem_filter.mpr ⟨hc, by simpa using hlt⟩
  have hne : (label.filter (·.toNat < 0x80)).isEmpty = false := by
    rw [Bool.eq_false_iff, ne_eq, List.isEmpty_iff]
    exact List.ne_nil_of_mem hbasic
  simp only [encode, hne, Bool.false_eq_true, ↓reduceIte]
  exact List.mem_append_left _ (List.mem_append_left _ hbasic)

theorem mem_asciiLabel {c : Char} (hlt : c.toNat < 0x80) {label : List Char} (hc : c ∈ label) :
    c ∈ asciiLabel label := by
  unfold asciiLabel
  split
  · exact hc
  · exact List.mem_append_right _ (Punycode.mem_encode hlt hc)

theorem mem_asciiDomain {c : Char} (hblank : c.toNat ≤ 0x20) (hlower : c.toLower = c)
    (hdot : c ≠ '.') {name : List Char} (hc : c ∈ name) : c ∈ asciiDomain name := by
  have hmapped : c ∈ name.flatMap Mapping.replace := by
    refine List.mem_flatMap.mpr ⟨c, hc, ?_⟩
    rw [Mapping.replace_eq_self (by omega) hlower]
    exact List.mem_singleton_self c
  have hmem := Normal.mem_normalize_of_blank hblank hmapped
  obtain ⟨label, hlabel, hc⟩ :
      ∃ label ∈ Text.split (· == '.') (Normal.normalize (name.flatMap Mapping.replace)),
        c ∈ label :=
    Text.exists_mem_split hmem (by simpa using hdot)
  exact Text.mem_join (List.mem_map.mpr ⟨label, hlabel, rfl⟩) (mem_asciiLabel (by omega) hc)

/-- A host and a port are cut apart at a colon. -/
theorem cutPort_text (inside : Bool) (cs : List Char) :
    (cutPort inside cs).1 ++ ((cutPort inside cs).2.map (':' :: ·)).getD [] = cs := by
  fun_induction cutPort inside cs with
  | case1 => rfl
  | case2 inside c cs hc => simp_all
  | case3 inside c cs hc inside' host port heq ih => simp_all

/-! ## Blanks -/

/-- A character that is no digit, no upper case letter and no delimiter. -/
structure IsBare (c : Char) : Prop where
  hex_eq : Hex.value? c = none
  isDigit_eq : c.isDigit = false
  toLower_eq : c.toLower = c
  ne_delimiter : ∀ d ∈ ['%', '.', '/', ':', '@', '[', ']', '\\'], c ≠ d

theorem isBare_of_blank {c : Char} (hc : c.toNat ≤ 0x20) : IsBare c := by
  have h : ∀ n : Fin 33, Hex.value? (Char.ofNat n) = none ∧
      (Char.ofNat n).isDigit = false ∧ (Char.ofNat n).toLower = Char.ofNat n ∧
      ['%', '.', '/', ':', '@', '[', ']', '\\'].all (Char.ofNat n != ·) = true := by decide
  obtain ⟨hhex, hdigit, hlower, hdelimiter⟩ := h ⟨c.toNat, by omega⟩
  rw [Char.ofNat_toNat] at hhex hdigit hlower hdelimiter
  exact ⟨hhex, hdigit, hlower, fun d hd => by simpa using List.all_eq_true.mp hdelimiter d hd⟩

theorem not_isSlash_of_blank {c : Char} (hc : c.toNat ≤ 0x20) :
    PathRules.special.isSlash c = false := by
  have hne := (isBare_of_blank hc).ne_delimiter
  simp [PathRules.isSlash, hne '/' (by simp), hne '\\' (by simp)]

section Blank

variable {c : Char} (hc : c.toNat ≤ 0x20)

include hc

theorem readDomain_of_mem_blank {cs : List Char} (hmem : c ∈ cs) (host : Host) :
    readDomain cs ≠ .ok host := by
  have hbare := isBare_of_blank hc
  intro h
  unfold readDomain at h
  split at h
  next => cases h
  next name hname =>
    have hbyte : (Utf8.byteOf c.toNat).toNat = c.toNat :=
      UInt8.toNat_ofNat_of_lt' (Nat.lt_of_le_of_lt hc (by decide))
    have hdecoded := Percent.byteOf_mem_decode (by omega)
      (hbare.ne_delimiter '%' (by simp)) hbare.hex_eq hmem
    have hread := Utf8.mem_decode? hname (by omega) hdecoded
    rw [hbyte, Char.ofNat_toNat] at hread
    have hdomain := mem_asciiDomain hc hbare.toLower_eq
      (hbare.ne_delimiter '.' (by simp)) hread
    have hallowed := (hostOfDomain_eq_ok h).2.1 c hdomain
    simp [isForbiddenInDomain, hc] at hallowed

theorem readHost_concat_blank (port : Nat) (cs : List Char) (host : Host) :
    readHost (.web port) (cs ++ [c]) ≠ .ok host := by
  have hbare := isBare_of_blank hc
  unfold readHost
  split
  next rest htext =>
    intro h
    cases cs with
    | nil => exact hbare.ne_delimiter '[' (by simp) (List.cons.inj htext).1
    | cons d cs =>
        obtain ⟨-, rfl⟩ := List.cons.inj htext
        have hreverse : (cs ++ [c]).reverse = c :: cs.reverse := List.reverse_concat
        change readBracketed (cs ++ [c]) = .ok host at h
        rw [readBracketed, hreverse] at h
        split at h
        next heq => exact hbare.ne_delimiter ']' (by simp) (List.cons.inj heq).1
        next => cases h
  next => exact readDomain_of_mem_blank hc (by simp) host

theorem readPort_concat_blank (family : Family) {cs : List Char} (hcs : '\\' ∉ cs)
    (r : Option UInt16 × List Char) : readPort family (cs ++ [c]) ≠ .ok r := by
  have hbare := isBare_of_blank hc
  intro h
  have hleft : (cs ++ [c]).dropWhile Char.isDigit ≠ [] := by
    rw [ne_eq, List.dropWhile_eq_nil_iff]
    intro hall
    have hdigit := hall c (by simp)
    rw [hbare.isDigit_eq] at hdigit
    cases hdigit
  obtain ⟨d, left, hd⟩ := List.exists_cons_of_ne_nil hleft
  have hne : d ≠ '\\' := by
    rintro rfl
    have hmem : '\\' ∈ cs ++ [c] := (List.dropWhile_suffix _).mem (hd ▸ List.mem_cons_self)
    rcases List.mem_append.mp hmem with hmem | hmem
    · exact hcs hmem
    · exact hbare.ne_delimiter '\\' (by simp) (List.mem_singleton.mp hmem).symm
  unfold readPort at h
  simp [hd, hne] at h

/-- No host with a blank at its end is read, and no port. -/
theorem readHostPort_concat_blank (port : Nat) (hasUser : Bool) {cs : List Char}
    (hcs : '\\' ∉ cs) (r : Option Host × Option UInt16 × List Char) :
    readHostPort (.web port) hasUser (cs ++ [c]) ≠ .ok r := by
  have hbare := isBare_of_blank hc
  have htext := cutPort_text false (cs ++ [c])
  intro h
  unfold readHostPort at h
  rcases hcut : cutPort false (cs ++ [c]) with ⟨text, none | digits⟩
  all_goals
    rw [hcut] at htext h
    dsimp only at htext h
    split at h
  · cases h
  · obtain rfl : text = cs ++ [c] := by simpa using htext
    obtain ⟨host, hhost, _⟩ := bind_eq_ok_iff.mp h
    exact readHost_concat_blank hc port cs host hhost
  · cases h
  · obtain ⟨host, _, h⟩ := bind_eq_ok_iff.mp h
    obtain ⟨left, hport, _⟩ := bind_eq_ok_iff.mp h
    have hend : text ++ ':' :: digits = cs ++ [c] := htext
    rcases List.eq_nil_or_concat' digits with rfl | ⟨front, d, rfl⟩
    · obtain ⟨-, hcolon⟩ := List.append_inj' hend rfl
      exact hbare.ne_delimiter ':' (by simp) (List.cons.inj hcolon).1.symm
    · rw [← List.cons_append, ← List.append_assoc] at hend
      obtain ⟨rfl, hlast⟩ := List.append_inj' hend rfl
      obtain rfl := (List.cons.inj hlast).1
      exact readPort_concat_blank hc (.web port) (fun hmem => hcs (by simp [hmem])) left hport

/-- A blank at the end of an authority is behind the name and the password in it. -/
theorem cutUser_concat_blank (cs : List Char) :
    ∃ rest, (cutUser (cs ++ [c])).2 = rest ++ [c] ∧ rest ⊆ cs := by
  have hat : (c == '@') = false := by
    simpa using (isBare_of_blank hc).ne_delimiter '@' (by simp)
  rcases hcut : Text.cut (· == '@') cs.reverse with ⟨after, none | before⟩
  · refine ⟨cs, ?_, fun _ hmem => hmem⟩
    simp [cutUser, Text.cut, hat, hcut]
  · refine ⟨after.reverse, ?_, ?_⟩
    · simp [cutUser, Text.cut, hat, hcut]
    · have hjoin := Text.join_cut '@' cs.reverse
      rw [hcut] at hjoin
      intro d hd
      rw [← List.mem_reverse, ← hjoin]
      exact List.mem_append_left _ (List.mem_reverse.mp hd)

/-- No authority of a web URL with a blank at its end is read. -/
theorem readAuthority_concat_blank (port : Nat) (followed : Bool) {cs : List Char}
    (hcs : '\\' ∉ cs) (r : Authority × List Char) :
    readAuthority (.web port) followed (cs ++ [c]) ≠ .ok r := by
  obtain ⟨rest, hrest, hsub⟩ := cutUser_concat_blank hc cs
  intro h
  unfold readAuthority at h
  dsimp only at h
  rw [hrest] at h
  split at h
  next => cases h
  next =>
    obtain ⟨parts, hparts, _⟩ := bind_eq_ok_iff.mp h
    exact readHostPort_concat_blank hc port _ (fun hmem => hcs (hsub hmem)) parts hparts

end Blank

/-! ## Text behind a URL -/

/-- Whether a text goes on behind its authority: with a path, a query or a fragment. -/
def goesOn (s : String) : Bool :=
  (readScheme (Text.trim (·.toNat ≤ 0x20) s.toList)).any fun (_, rest) =>
    (ResourceParts.ofText rest).followed ||
      !(spanAuthority .special (hierarchyText (ResourceParts.ofText rest).path)).2.isEmpty

theorem spanAuthority_append_of_ne_nil {cs : List Char} (h : (spanAuthority .special cs).2 ≠ [])
    (l : List Char) :
    spanAuthority .special (cs ++ l) =
      ((spanAuthority .special cs).1, (spanAuthority .special cs).2 ++ l) := by
  induction cs with
  | nil => exact absurd rfl h
  | cons c cs ih =>
      by_cases hc : PathRules.special.isSlash c = true
      · simp [spanAuthority, hc]
      · have ih := ih (by simpa [spanAuthority, hc] using h)
        simp only [spanAuthority, Prod.mk.injEq] at ih
        simp [spanAuthority, hc, ih.1, ih.2]

/-- Text behind a path does not reach the authority before it. -/
theorem readHierarchy_append_of_ne_nil {port : Nat} {cs : List Char} {hierarchy : Hierarchy}
    (h : readHierarchy (.web port) false cs = .ok hierarchy)
    (hne : (spanAuthority .special (hierarchyText cs)).2 ≠ []) (l : List Char) :
    ∃ a path path', hierarchy = .authority a path ∧
      readHierarchy (.web port) false (cs ++ l) = .ok (.authority a path') := by
  have hrules : (Family.web port).pathRules = .special := rfl
  have htext := hierarchyText_append (hierarchyText_ne_nil h) l
  rw [readHierarchy_web, readAuthorityPath_eq_ok_iff, hrules] at h
  obtain ⟨a, left, ha, rfl⟩ := h
  refine ⟨a, _, readPath .special
    (left ++ ((spanAuthority .special (hierarchyText cs)).2 ++ withoutSkipped l)), rfl, ?_⟩
  rw [readHierarchy_web, readAuthorityPath_eq_ok_iff, hrules, htext,
    spanAuthority_append_of_ne_nil hne]
  refine ⟨a, left, ?_, rfl⟩
  have hfollowed : ((spanAuthority .special (hierarchyText cs)).2 ++
      withoutSkipped l).isEmpty = false := by
    simp [hne]
  rw [hfollowed]
  exact readAuthority_followed ha

/-- Whatever is written behind a web URL that goes on behind its authority, scheme and authority
stay. -/
theorem parse_append_of_goesOn {s s' : String} {u : Url} (h : parse s = .ok u) {port : Nat}
    (hw : u.family = .web port) (hg : goesOn s = true) {l : List Char}
    (hl : ∀ c ∈ l, c ≠ '#' ∧ c ≠ '?')
    (hs' : Text.trim (·.toNat ≤ 0x20) s'.toList = Text.trim (·.toNat ≤ 0x20) s.toList ++ l) :
    ∃ v, parse s' = .ok v ∧ v.scheme = u.scheme ∧ v.authority? = u.authority? := by
  obtain ⟨rest, hscheme, hread, hquery, hfragment⟩ := parse_eq_ok_iff.mp h
  have hscheme' := readScheme_append hscheme l
  rw [← hs'] at hscheme'
  cases hparts : (ResourceParts.ofText rest).followed with
  | true =>
      rw [hparts] at hread
      obtain ⟨v, hv, hvscheme, hvhierarchy⟩ := parse_of_followed hscheme' hl hparts hread
      exact ⟨v, hv, hvscheme, by rw [authority?, authority?, hvhierarchy]⟩
  | false =>
      obtain ⟨hq, hf⟩ : (ResourceParts.ofText rest).query = none ∧
          (ResourceParts.ofText rest).fragment = none := by
        simpa [ResourceParts.followed] using hparts
      have hne : (spanAuthority .special
          (hierarchyText (ResourceParts.ofText rest).path)).2 ≠ [] := by
        simpa [goesOn, hscheme, hparts] using hg
      have hbare := ResourceParts.ofText_append_of_bare (l := []) (by simp) hq hf
      rw [List.append_nil] at hbare
      rw [hbare] at hne
      rw [hparts, hbare, hw] at hread
      obtain ⟨a, path, path', hh, hread'⟩ := readHierarchy_append_of_ne_nil hread hne l
      refine ⟨⟨u.scheme, .authority a path', none, none⟩,
        parse_eq_ok_iff.mpr ⟨_, hscheme', ?_, ?_, ?_⟩, rfl, by rw [authority?, authority?, hh]⟩
      all_goals rw [ResourceParts.ofText_append_of_bare hl hq hf]
      · exact hw ▸ hread'
      · rfl
      · rfl

theorem spanAuthority_of_forall {cs : List Char}
    (h : ∀ c ∈ cs, PathRules.special.isSlash c = false) : spanAuthority .special cs = (cs, []) := by
  have hnot : ∀ c ∈ cs, (!PathRules.special.isSlash c) = true := by simpa using h
  rw [spanAuthority, List.takeWhile_eq_self_iff.mpr hnot, List.dropWhile_eq_nil_iff.mpr hnot]

/-- Where nothing stands behind the authority, a blank behind it becomes its end. -/
theorem readHierarchy_append_blank {port : Nat} {followed : Bool} {cs gap : List Char}
    (hne : hierarchyText cs ≠ []) (hnil : (spanAuthority .special (hierarchyText cs)).2 = [])
    (hgap : ∀ c ∈ gap, c.toNat ≤ 0x20) (hkept : withoutSkipped gap ≠ []) {suffix : List Segment}
    (hs : ∀ s ∈ suffix, Segment.IsNormal s) (hierarchy : Hierarchy) :
    readHierarchy (.web port) followed (cs ++ (gap ++ renderSegments suffix)) ≠
      .ok hierarchy := by
  obtain ⟨front, c, hconcat⟩ := (List.eq_nil_or_concat' _).resolve_left hkept
  have hblank : ∀ d ∈ front ++ [c], d.toNat ≤ 0x20 := by
    intro d hd
    rw [← hconcat] at hd
    exact hgap d (List.mem_of_mem_filter hd)
  have hplain : ∀ d ∈ hierarchyText cs ++ front ++ [c], PathRules.special.isSlash d = false := by
    intro d hd
    rw [List.append_assoc] at hd
    rcases List.mem_append.mp hd with hd | hd
    · simpa using List.dropWhile_eq_nil_iff.mp hnil d hd
    · exact not_isSlash_of_blank (hblank d hd)
  have hslash : '\\' ∉ hierarchyText cs ++ front := by
    intro hmem
    cases hplain '\\' (List.mem_append_left _ hmem)
  intro h
  have hrules : (Family.web port).pathRules = .special := rfl
  rw [readHierarchy_web, hierarchyText_append hne, withoutSkipped_append _ hs, hconcat,
    ← List.append_assoc, ← List.append_assoc, readAuthorityPath_eq_ok_iff, hrules,
    spanAuthority_append, spanAuthority_of_forall hplain] at h
  obtain ⟨a, left, ha, _⟩ := h
  exact readAuthority_concat_blank (hblank c (by simp)) port _ hslash _ ha

/-- No text of a web URL that ends behind its authority is a URL with a blank and a path behind. -/
theorem parse_append_blank {s s' : String} {u : Url} (h : parse s = .ok u) {port : Nat}
    (hw : u.family = .web port) (hg : goesOn s = false) {gap : List Char}
    (hgap : ∀ c ∈ gap, c.toNat ≤ 0x20) (hkept : withoutSkipped gap ≠ []) {suffix : List Segment}
    (hs : ∀ s ∈ suffix, Segment.IsNormal s)
    (hs' : Text.trim (·.toNat ≤ 0x20) s'.toList =
      Text.trim (·.toNat ≤ 0x20) s.toList ++ (gap ++ renderSegments suffix)) (v : Url) :
    parse s' ≠ .ok v := by
  intro hv
  obtain ⟨rest, hscheme, hread, -⟩ := parse_eq_ok_iff.mp h
  obtain ⟨rest', hscheme', hread', -⟩ := parse_eq_ok_iff.mp hv
  rw [hs', readScheme_append hscheme] at hscheme'
  obtain ⟨hsame, rfl⟩ := Prod.mk.inj (Option.some.inj hscheme')
  have hw' : v.family = .web port := by
    rw [← hw, family, family, hsame]
  simp only [goesOn, hscheme, Option.any_some, Bool.or_eq_false_iff, Bool.not_eq_false',
    List.isEmpty_iff] at hg
  obtain ⟨hfollowed, hnil⟩ := hg
  obtain ⟨hq, hf⟩ : (ResourceParts.ofText rest).query = none ∧
      (ResourceParts.ofText rest).fragment = none := by
    simpa [ResourceParts.followed] using hfollowed
  have hmarks : ∀ c ∈ gap ++ renderSegments suffix, c ≠ '#' ∧ c ≠ '?' := by
    intro c hc
    rcases List.mem_append.mp hc with hc | hc
    · exact not_mark_of_blank (hgap c hc)
    · exact not_mark_of_mem_renderSegments hs hc
  have hbare := ResourceParts.ofText_append_of_bare (l := []) (by simp) hq hf
  rw [List.append_nil] at hbare
  rw [hbare] at hread hnil
  rw [hw', ResourceParts.ofText_append_of_bare hmarks hq hf] at hread'
  rw [hw] at hread
  exact readHierarchy_append_blank (hierarchyText_ne_nil hread) hnil hgap hkept hs _ hread'

end Url

end Signpost
