import Signpost.Discovery.Fetch
import Signpost.Proofs.Settings.Check
import Signpost.Proofs.Text.Trim
import Signpost.Proofs.Url.Blanks

/-! # The endpoint of checked settings

Settings are checked by reading the URL of the directory, while the endpoint is made from its text.
The two agree on scheme, host and port, and on a front of the path, unless the text ends in a blank:
the check leaves it out, and the endpoint has it in the middle. -/

namespace Signpost

namespace Discovery

open Url (Segment)

/-- Whether a text ends in a blank or a control character, tabs and line breaks left out. -/
def endsInBlank (base : String) : Bool :=
  (Url.withoutSkipped base.toList).getLast?.any (·.toNat ≤ 0x20)

/-- A text ends in a blank exactly if not only tabs and line breaks are trimmed at its end. -/
theorem endsInBlank_iff {base : String} {text back : List Char} {d : Char}
    (hbase : base.toList = text ++ [d] ++ back) (hd : 0x20 < d.toNat)
    (hback : ∀ c ∈ back, c.toNat ≤ 0x20) :
    endsInBlank base = true ↔ Url.withoutSkipped back ≠ [] := by
  have happend : Url.withoutSkipped base.toList =
      Url.withoutSkipped text ++ Url.withoutSkipped [d] ++ Url.withoutSkipped back := by
    rw [hbase]
    simp only [Url.withoutSkipped, List.filter_append]
  have hkept : Url.withoutSkipped [d] = [d] := by
    refine List.filter_eq_self.mpr fun c hc => ?_
    obtain rfl := List.mem_singleton.mp hc
    rw [Bool.not_eq_true', Bool.eq_false_iff]
    intro hskipped
    have := Url.toNat_le_of_isSkipped hskipped
    omega
  rw [endsInBlank, happend, hkept]
  rcases List.eq_nil_or_concat' (Url.withoutSkipped back) with hnil | ⟨kept, c, hconcat⟩
  · rw [hnil]
    simp [hd]
  · have hc : c ∈ Url.withoutSkipped back := by simp [hconcat]
    rw [hconcat, ← List.append_assoc, List.getLast?_concat]
    simpa using hback c (List.mem_of_mem_filter hc)

/-- The path of the endpoint is not trimmed. -/
theorem trim_append_path {front cs : List Char}
    (hfront : ∀ c ∈ front, decide (c.toNat ≤ 0x20) = true) (hne : cs ≠ [])
    (hhead : ∀ c, cs.head? = some c → decide (c.toNat ≤ 0x20) = false) :
    Text.trim (·.toNat ≤ 0x20) (front ++ cs ++ path) = cs ++ path := by
  rw [List.append_assoc]
  refine Text.trim_append_of_forall hfront ?_ ?_
  · intro c hc
    obtain ⟨d, rest, rfl⟩ := List.exists_cons_of_ne_nil hne
    exact hhead c hc
  · intro c hc
    rw [List.getLast?_append] at hc
    obtain rfl : '1' = c := Option.some.inj hc
    rfl

@[simp] theorem toList_endpoint (base : String) :
    (endpoint base).toList = Text.trimEnd (· == '/') base.toList ++ path :=
  String.toList_ofList

theorem exists_trimEnd_slashes (cs : List Char) :
    ∃ k, cs = Text.trimEnd (· == '/') cs ++ List.replicate k '/' := by
  obtain ⟨back, hback, hall⟩ := Text.exists_trimEnd_append (· == '/') cs
  refine ⟨back.length, hback.trans (congrArg _ ?_)⟩
  exact List.eq_replicate_of_mem fun c hc => by simpa using hall c hc

/-- The text of the endpoint is that of the base with the path behind it. A blank at the end of the
base stays in between, and slashes are left out only where there is none. -/
theorem trim_endpoint {base : String}
    (hbase : ∃ c ∈ Text.trim (·.toNat ≤ 0x20) base.toList, c ≠ '/') :
    ∃ cs gap k,
      Text.trim (·.toNat ≤ 0x20) base.toList = cs ++ List.replicate k '/' ∧
      Text.trim (·.toNat ≤ 0x20) (endpoint base).toList = cs ++ (gap ++ path) ∧
      (k = 0 ∨ gap = []) ∧ (∀ c ∈ gap, c.toNat ≤ 0x20) ∧
      (endsInBlank base = true ↔ Url.withoutSkipped gap ≠ []) := by
  obtain ⟨front, gap, hraw, hfront, hgap⟩ :=
    Text.exists_trim_append (fun c => decide (c.toNat ≤ 0x20)) base.toList
  have hhead := Text.not_of_head?_trim (fun c => decide (c.toNat ≤ 0x20)) base.toList
  have hlast := Text.not_of_getLast?_trimEnd (fun c => decide (c.toNat ≤ 0x20))
    (Text.trimStart (fun c => decide (c.toNat ≤ 0x20)) base.toList)
  rw [← Text.trim] at hlast
  generalize Text.trim (·.toNat ≤ 0x20) base.toList = text at hraw hhead hlast hbase ⊢
  obtain ⟨c, hc, hne⟩ := hbase
  have htext : text ≠ [] := List.ne_nil_of_mem hc
  have hblank : ∀ c ∈ gap, c.toNat ≤ 0x20 := by simpa using hgap
  have hends : endsInBlank base = true ↔ Url.withoutSkipped gap ≠ [] := by
    obtain ⟨init, d, rfl⟩ := (List.eq_nil_or_concat' text).resolve_left htext
    have hd := hlast d List.getLast?_concat
    have hbase : base.toList = front ++ init ++ [d] ++ gap := by simpa using hraw
    exact endsInBlank_iff hbase (by simpa using hd) hblank
  rw [toList_endpoint, hraw]
  rcases List.eq_nil_or_concat' gap with rfl | ⟨blanks, b, rfl⟩
  · -- the slashes stand at the end of the text
    obtain ⟨k, hslashes⟩ := exists_trimEnd_slashes text
    have hend := Text.not_of_getLast?_trimEnd (· == '/') text
    generalize Text.trimEnd (· == '/') text = cs at hslashes hend
    subst hslashes
    have hcs : cs ≠ [] := by
      rintro rfl
      exact hne (List.eq_of_mem_replicate hc)
    have htrimmed : Text.trimEnd (· == '/') (front ++ (cs ++ List.replicate k '/' ++ [])) =
        front ++ cs := by
      rw [List.append_nil, ← List.append_assoc, Text.trimEnd_append_of_forall (by simp)]
      refine Text.trimEnd_eq_self fun c hc => hend c ?_
      rwa [List.getLast?_append_of_ne_nil _ hcs] at hc
    refine ⟨cs, [], k, rfl, ?_, .inr rfl, hblank, hends⟩
    rw [htrimmed, List.nil_append]
    refine trim_append_path hfront hcs fun c hc => hhead c ?_
    rw [List.head?_append_of_ne_nil _ hcs, hc]
  · -- a blank stands at the end of the text, so that no slash is trimmed
    have hb : b ≠ '/' := by
      rintro rfl
      exact absurd (hblank '/' (by simp)) (by decide)
    have htrimmed : Text.trimEnd (· == '/') (front ++ (text ++ (blanks ++ [b]))) =
        front ++ (text ++ (blanks ++ [b])) := by
      refine Text.trimEnd_eq_self fun c hc => ?_
      obtain rfl : b = c := by simpa using hc
      simpa using hb
    refine ⟨text, blanks ++ [b], 0, by simp, ?_, .inl rfl, hblank, hends⟩
    rw [htrimmed, trim_append_path hfront (by simp), List.append_assoc]
    intro c hc
    rw [List.head?_append_of_ne_nil _ htext] at hc
    exact hhead c hc

/-! ## The endpoint of a URL -/

def segments : List Segment :=
  ["api".toList, "discovery".toList, "v1".toList]

theorem isNormal_of_mem_segments : ∀ s ∈ segments, Segment.IsNormal s := by
  have hplain : segments.all (·.all fun c =>
      !Url.PathRules.special.isSlash c && !Url.Escape.path c) = true := by decide
  have hdots : segments.all (fun s => !Url.isSingleDot s && !Url.isDoubleDot s) = true := by decide
  intro s hs
  have hclean : ∀ c ∈ s, Url.PathRules.special.isSlash c = false ∧ Url.Escape.path c = false := by
    intro c hc
    simpa using List.all_eq_true.mp (List.all_eq_true.mp hplain s hs) c hc
  obtain ⟨hsingle, hdouble⟩ : Url.isSingleDot s = false ∧ Url.isDoubleDot s = false := by
    simpa using List.all_eq_true.mp hdots s hs
  exact ⟨fun c hc => (hclean c hc).1, fun c hc => (hclean c hc).2, hsingle, hdouble⟩

/-- The endpoint of a base URL with this text. Where the base has no query or fragment and its text
does not end in a blank, the path is that of the base without slashes at its end and the path of
the endpoint: without all of them exactly if no slash stands before the path of the endpoint but
its own. -/
structure IsEndpoint (base : String) (u v : Url) : Prop where
  scheme_eq : v.scheme = u.scheme
  host_eq : v.host? = u.host?
  port_eq : v.port? = u.port?
  path_eq : endsInBlank base = false → u.query = none → u.fragment = none →
    v.query = none ∧ v.fragment = none ∧ ∃ front m,
      u.path = front ++ List.replicate m '/' ∧ v.path = front ++ path
  path_eq_iff : endsInBlank base = false → u.query = none → u.fragment = none →
    (v.path = Text.trimEnd (· == '/') u.path ++ path ↔ ¬ '/' :: path <:+ v.path)

/-- The slashes of a front are all trimmed exactly if it does not end in one. -/
theorem append_path_eq_iff (front : List Char) (m : Nat) :
    front ++ path = Text.trimEnd (· == '/') (front ++ List.replicate m '/') ++ path ↔
      ¬ '/' :: path <:+ front ++ path := by
  rw [Text.trimEnd_append_of_forall (by simp), List.append_left_inj]
  constructor
  · rintro hfront ⟨rest, hrest⟩
    have happend : rest ++ ['/'] = front := by
      rw [← List.append_left_inj path, ← hrest]
      simp
    have hlast := Text.not_of_getLast?_trimEnd (· == '/') front '/'
    rw [← hfront, ← happend] at hlast
    simp at hlast
  · intro hnot
    refine (Text.trimEnd_eq_self fun c hc => ?_).symm
    obtain ⟨rest, rfl⟩ : ∃ rest, front = rest ++ [c] := by
      obtain ⟨rest, d, rfl⟩ := (List.eq_nil_or_concat' front).resolve_left (by rintro rfl; cases hc)
      obtain rfl : d = c := by simpa using hc
      exact ⟨rest, rfl⟩
    rw [beq_eq_false_iff_ne]
    rintro rfl
    exact hnot ⟨rest, by simp⟩

theorem path_eq_renderSegments : path = Url.renderSegments segments := by
  decide

theorem isEndpoint_of_extended {u v : Url} (h : Url.Extended segments u v) (base : String) :
    IsEndpoint base u v := by
  refine ⟨h.scheme_eq, ?_, ?_, ?_, ?_⟩
  · rw [Url.host?, Url.host?, h.authority_eq]
  · rw [Url.port?, Url.port?, h.authority_eq]
  · rw [path_eq_renderSegments]
    exact fun _ => h.path_eq
  · intro _ hq hf
    obtain ⟨_, _, front, m, hu, hv⟩ := h.path_eq hq hf
    rw [hu, hv, ← path_eq_renderSegments]
    exact append_path_eq_iff front m

/-- Of a base that ends in a blank the endpoint keeps scheme and authority. -/
theorem isEndpoint_of_endsInBlank {base : String} (hb : endsInBlank base = true) {u v : Url}
    (hscheme : v.scheme = u.scheme) (hauthority : v.authority? = u.authority?) :
    IsEndpoint base u v := by
  refine ⟨hscheme, ?_, ?_, fun hb' => ?_, fun hb' => ?_⟩
  · rw [Url.host?, Url.host?, hauthority]
  · rw [Url.port?, Url.port?, hauthority]
  all_goals simp [hb] at hb'

/-- The text of a web URL has an endpoint exactly if it goes on behind its authority or does not end
in a blank. -/
theorem exists_endpoint_iff {base : String} {u : Url} (hu : Url.parse base = .ok u) {port : Nat}
    (hw : u.family = .web port) :
    ((∃ v, Url.parse (endpoint base) = .ok v) ↔
      endsInBlank base = false ∨ Url.goesOn base = true) ∧
    ∀ v, Url.parse (endpoint base) = .ok v → IsEndpoint base u v := by
  obtain ⟨rest, hscheme, _⟩ := Url.parse_eq_ok_iff.mp hu
  obtain ⟨cs, gap, k, hcs, hcs', hk, hblank, hends⟩ :=
    trim_endpoint ⟨':', Url.colon_mem_of_readScheme hscheme, by decide⟩
  rw [path_eq_renderSegments] at hcs'
  by_cases hgap : Url.withoutSkipped gap = []
  · have hb : endsInBlank base = false := by
      rw [Bool.eq_false_iff]
      exact fun hb => hends.mp hb hgap
    obtain ⟨v, hv, hextended⟩ :=
      Url.parse_append hu hw hcs (by decide) isNormal_of_mem_segments hgap hcs'
    refine ⟨iff_of_true ⟨v, hv⟩ (.inl hb), ?_⟩
    intro v' hv'
    obtain rfl := Except.ok.inj (hv.symm.trans hv')
    exact isEndpoint_of_extended hextended base
  · -- the blanks in the gap stay in the text
    have hb := hends.mpr hgap
    obtain rfl : k = 0 := hk.resolve_right fun hnil => hgap (by rw [hnil]; rfl)
    rw [List.replicate_zero, List.append_nil] at hcs
    rw [← hcs] at hcs'
    cases hg : Url.goesOn base with
    | false =>
        have hnone :=
          Url.parse_append_blank hu hw hg hblank hgap isNormal_of_mem_segments hcs'
        exact ⟨iff_of_false (fun ⟨v, hv⟩ => hnone v hv) (by simp [hb]),
          fun v hv => absurd hv (hnone v)⟩
    | true =>
        have hmarks : ∀ c ∈ gap ++ Url.renderSegments segments, c ≠ '#' ∧ c ≠ '?' := by
          intro c hc
          rcases List.mem_append.mp hc with hc | hc
          · exact Url.not_mark_of_blank (hblank c hc)
          · exact Url.not_mark_of_mem_renderSegments isNormal_of_mem_segments hc
        obtain ⟨v, hv, hvscheme, hvauthority⟩ :=
          Url.parse_append_of_goesOn hu hw hg hmarks hcs'
        refine ⟨iff_of_true ⟨v, hv⟩ (.inr rfl), ?_⟩
        intro v' hv'
        obtain rfl := Except.ok.inj (hv.symm.trans hv')
        exact isEndpoint_of_endsInBlank hb hvscheme hvauthority

end Discovery

namespace Settings

/-! ## Settings that were checked -/

/-- The URL of the directory is one in settings that pass the check. -/
theorem parse_of_check {s : Settings} (hc : s.check = .ok ()) :
    ∃ u, Url.parse s.directory.url = .ok u := by
  have hmem : ⟨"directory.directory_url", .url, .text s.directory.url⟩ ∈ s.fields := by
    simp [fields]
  obtain ⟨u, hu⟩ := Option.isSome_iff_exists.mp (holds_of_check hc hmem)
  exact ⟨u, eq_ok_of_toOption hu⟩

/-- Settings that pass the check have a URL for the directory. Where that is a web URL there is an
endpoint, unless its text ends in a blank right behind the authority. -/
theorem endpoint_of_check {s : Settings} (hc : s.check = .ok ()) :
    ∃ u, Url.parse s.directory.url = .ok u ∧ ∀ port, u.family = .web port →
      ((∃ v, Url.parse (Discovery.endpoint s.directory.url) = .ok v) ↔
        Discovery.endsInBlank s.directory.url = false ∨ Url.goesOn s.directory.url = true) ∧
      ∀ v, Url.parse (Discovery.endpoint s.directory.url) = .ok v →
        Discovery.IsEndpoint s.directory.url u v := by
  obtain ⟨u, hu⟩ := parse_of_check hc
  exact ⟨u, hu, fun port hw => Discovery.exists_endpoint_iff hu hw⟩

/-! ### Bases with a blank at the end -/

def sampleSettings (base : String) : Settings :=
  ⟨⟨base, 36000, 300, 3, 100, 1000, .exponential, 30, true⟩, .fixed "token", ⟨"0.0.0.0", 8080⟩,
    "info"⟩

def samplePorted : Settings :=
  sampleSettings "https://host:8443/base//"

/-- Settings with a base that has a port and slashes at its end pass the check. -/
theorem endpoint_of_check_ported :
    samplePorted.check = .ok () ∧
      ∃ u v, Url.parse samplePorted.directory.url = .ok u ∧ u.family = .web 443 ∧
        Discovery.endsInBlank samplePorted.directory.url = false ∧
        Url.parse (Discovery.endpoint samplePorted.directory.url) = .ok v ∧
        Discovery.IsEndpoint samplePorted.directory.url u v := by
  have hc : samplePorted.check = .ok () := eq_ok_of_toOption (by decide +kernel)
  have hb : Discovery.endsInBlank samplePorted.directory.url = false := by decide
  obtain ⟨u, hu, hendpoint⟩ := endpoint_of_check hc
  have hfamily : (Url.parse samplePorted.directory.url).toOption.map Url.family =
      some (.web 443) := by decide +kernel
  rw [hu] at hfamily
  have hw : u.family = .web 443 := Option.some.inj hfamily
  obtain ⟨hiff, hbelow⟩ := hendpoint 443 hw
  obtain ⟨v, hv⟩ := hiff.mpr (.inl hb)
  exact ⟨hc, u, v, hu, hw, hb, hv, hbelow v hv⟩

def sampleBlank : Settings :=
  sampleSettings "https://host "

/-- Settings with a base that has a blank at its end pass the check, and no endpoint is read. -/
theorem check_without_endpoint :
    sampleBlank.check = .ok () ∧
      (∃ u, Url.parse sampleBlank.directory.url = .ok u ∧ u.scheme = "https".toList) ∧
      ∀ v, Url.parse (Discovery.endpoint sampleBlank.directory.url) ≠ .ok v := by
  let base : Url :=
    ⟨"https".toList, .authority ⟨[], [], some (.name "host".toList), none⟩ [[]], none, none⟩
  have hu : Url.parse sampleBlank.directory.url = .ok base :=
    eq_ok_of_toOption (by decide +kernel)
  have hnone : (Url.parse (Discovery.endpoint sampleBlank.directory.url)).toOption = none := by
    decide +kernel
  refine ⟨eq_ok_of_toOption (by decide +kernel), ⟨base, hu, rfl⟩, ?_⟩
  intro v hv
  rw [hv] at hnone
  cases hnone

end Settings

end Signpost
