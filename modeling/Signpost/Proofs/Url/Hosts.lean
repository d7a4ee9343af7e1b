import Mathlib
import Signpost.Proofs.Text.Percent
import Signpost.Proofs.Text.Utf8
import Signpost.Proofs.Url.Addresses
import Signpost.Proofs.Url.Normal
import Signpost.Url.Parser

/-! # Hosts as they are written

The ASCII form of a domain name is in lower case and is its own ASCII form. So every host that a
web URL can have is read back from its text, which stands in an authority without being taken for
anything else. -/

namespace Signpost.Url

/-! ## Names in lower case -/

/-- A character that a domain name can have in its ASCII form. -/
def IsLowered (c : Char) : Prop :=
  c.toNat < 0x80 ∧ c.toLower = c

instance (c : Char) : Decidable (IsLowered c) :=
  inferInstanceAs (Decidable (_ ∧ _))

namespace Punycode

theorem digit_lt : ∀ d < 36, (digit d).toNat < 0x80 := by
  decide

theorem lt_of_mem_writeDelta {bias k n : Nat} {c : Char} (hc : c ∈ writeDelta bias k n) :
    c.toNat < 0x80 := by
  fun_induction writeDelta bias k n with
  | case1 k n t hlt =>
      obtain rfl := List.mem_singleton.mp hc
      have ht := (threshold_bounds bias k).2
      exact digit_lt n (by omega)
  | case2 k n t hge ih =>
      rcases List.mem_cons.mp hc with rfl | hc
      · have ht := threshold_bounds bias k
        have hmod : (n - t) % (36 - t) < 36 - t := Nat.mod_lt _ (by omega)
        exact digit_lt _ (by omega)
      · exact ih hc

theorem lt_place {basic m : Nat} {p : Progress} (hp : ∀ x ∈ p.output, x.toNat < 0x80)
    (c : Char) : ∀ x ∈ (place basic m p c).output, x.toNat < 0x80 := by
  unfold place
  split
  next => exact hp
  next =>
    split
    next =>
      intro x hx
      rcases List.mem_append.mp hx with hx | hx
      · exact hp x hx
      · exact lt_of_mem_writeDelta hx
    next => exact hp

theorem lt_foldl_place {basic m : Nat} (label : List Char) {p : Progress}
    (hp : ∀ x ∈ p.output, x.toNat < 0x80) :
    ∀ x ∈ (label.foldl (place basic m) p).output, x.toNat < 0x80 := by
  induction label generalizing p with
  | nil => exact hp
  | cons c label ih => exact ih (lt_place hp c)

theorem lt_placeAll (label : List Char) (basic : Nat) (points : List Nat) {next : Nat}
    {p : Progress} (hp : ∀ x ∈ p.output, x.toNat < 0x80) :
    ∀ x ∈ (placeAll label basic next p points).output, x.toNat < 0x80 := by
  induction points generalizing next p with
  | nil => exact hp
  | cons m points ih => exact ih (lt_foldl_place label hp)

/-- A label is written in ASCII. -/
theorem lt_of_mem_encode {label : List Char} {c : Char} (hc : c ∈ encode label) :
    c.toNat < 0x80 := by
  unfold encode at hc
  rcases List.mem_append.mp hc with hc | hc
  · split at hc
    next => cases hc
    next =>
      rcases List.mem_append.mp hc with hc | hc
      · simpa using (List.mem_filter.mp hc).2
      · obtain rfl := List.mem_singleton.mp hc
        decide
  · exact lt_placeAll label _ _ (by simp) c hc

end Punycode

theorem lt_of_mem_asciiLabel {label : List Char} {c : Char} (hc : c ∈ asciiLabel label) :
    c.toNat < 0x80 := by
  unfold asciiLabel at hc
  split at hc
  next hascii => simpa using List.all_eq_true.mp hascii c hc
  next =>
    rcases List.mem_append.mp hc with hc | hc
    · have hprefix : "xn--".toList.all (·.toNat < 0x80) = true := by decide
      exact of_decide_eq_true (List.all_eq_true.mp hprefix c hc)
    · exact Punycode.lt_of_mem_encode hc

theorem lt_of_mem_asciiDomain {name : List Char} {c : Char} (hc : c ∈ asciiDomain name) :
    c.toNat < 0x80 := by
  rcases Text.mem_sep_or_of_mem_join hc with hc | ⟨part, hpart, hc⟩
  · obtain rfl := List.mem_singleton.mp hc
    decide
  · obtain ⟨label, -, rfl⟩ := List.mem_map.mp hpart
    exact lt_of_mem_asciiLabel hc

/-- A name that has its ASCII form keeps it. -/
theorem asciiDomain_eq_self {cs : List Char} (h : ∀ c ∈ cs, IsLowered c) : asciiDomain cs = cs := by
  have hmapped : cs.flatMap Mapping.replace = cs := by
    rw [List.flatMap_congr fun c hc => Mapping.replace_eq_self (h c hc).1 (h c hc).2]
    exact List.flatMap_singleton' cs
  have hlabels : (Text.split (· == '.') cs).map asciiLabel = Text.split (· == '.') cs := by
    refine (List.map_congr_left fun label hlabel => ?_).trans (List.map_id _)
    refine if_pos (List.all_eq_true.mpr fun c hc => ?_)
    simpa using (h c (Text.mem_of_mem_split hlabel hc)).1
  rw [asciiDomain, hmapped, Normal.normalize_eq_self fun c hc => (h c hc).1, hlabels,
    Text.join_split]

/-! ## Names and what they stand for -/

theorem readDomain_eq (cs : List Char) :
    readDomain cs = match Utf8.decode? (Percent.decode cs) with
      | none => .error .invalidDomain
      | some name => hostOfDomain (asciiDomain name) := rfl

theorem not_forbidden_of_isDomain {domain : List Char} (h : isDomain domain = true) :
    ∀ c ∈ domain, isForbiddenInDomain c = false := by
  simp only [isDomain, Bool.and_eq_true, Bool.not_eq_true', List.any_eq_false] at h
  simpa using h.1.1

theorem hostOfDomain_eq_ok {domain : List Char} {host : Host} (h : hostOfDomain domain = .ok host) :
    domain ≠ [] ∧ (∀ c ∈ domain, isForbiddenInDomain c = false) ∧
      (host = .name domain ∨ ∃ address, host = .ipv4 address) := by
  unfold hostOfDomain at h
  split at h
  next => cases h
  next hdomain =>
    split at h
    next => cases h
    next hne =>
      refine ⟨by simpa using hne, not_forbidden_of_isDomain (by simpa using hdomain), ?_⟩
      split at h
      next =>
        split at h
        next address _ => exact .inr ⟨address, (Except.ok.inj h).symm⟩
        next => cases h
      next => exact .inl (Except.ok.inj h).symm

/-- A name in ASCII that a host has is in lower case. -/
theorem isLowered_of_not_forbidden {c : Char} (hlt : c.toNat < 0x80)
    (hc : isForbiddenInDomain c = false) : IsLowered c := by
  have hupper : c.isUpper = false := by
    simp only [isForbiddenInDomain, Bool.or_eq_false_iff] at hc
    exact hc.1.2
  exact ⟨hlt, dif_neg (of_decide_eq_false hupper)⟩

theorem readDomain_of_isLowered {domain : List Char} (hl : ∀ c ∈ domain, IsLowered c)
    (hp : ∀ c ∈ domain, isForbiddenInDomain c = false) :
    readDomain domain = hostOfDomain domain := by
  have hpercent : ∀ c ∈ domain, c ≠ '%' := by
    rintro c hc rfl
    cases hp _ hc
  rw [readDomain_eq, Percent.decode_of_forall_ne hpercent, Utf8.decode?_encode]
  exact congrArg hostOfDomain (asciiDomain_eq_self hl)

/-! ### Numbers with dots -/

theorem of_mem_renderIpv4 {address : UInt32} {c : Char} (hc : c ∈ renderIpv4 address) :
    IsLowered c ∧ isForbiddenInDomain c = false ∧ c ≠ 'x' := by
  have hdigits : ∀ d < 10, IsLowered d.digitChar ∧ isForbiddenInDomain d.digitChar = false ∧
      d.digitChar ≠ 'x' := by decide
  rcases Text.mem_sep_or_of_mem_join hc with hc | ⟨part, hpart, hc⟩
  · obtain rfl := List.mem_singleton.mp hc
    decide
  · obtain ⟨n, -, rfl⟩ := List.mem_map.mp hpart
    obtain ⟨d, hd, rfl⟩ := exists_digit_of_mem_toDigits (by decide) hc
    exact hdigits d hd

theorem renderIpv4_ne_nil (address : UInt32) : renderIpv4 address ≠ [] := by
  intro h
  have hnumber := endsInNumber_renderIpv4 address
  rw [h] at hnumber
  cases hnumber

theorem isLabel_of_forall_ne {label : List Char} (h : ∀ c ∈ label, c ≠ 'x') :
    isLabel label = true := by
  unfold isLabel
  split
  next => exact absurd rfl (h 'x' List.mem_cons_self)
  next => rfl

theorem readLabel_of_forall_ne {label : List Char} (h : ∀ c ∈ label, c ≠ 'x') :
    readLabel label = label := by
  unfold readLabel
  split
  next => exact absurd rfl (h 'x' List.mem_cons_self)
  next => rfl

/-- Nothing in ASCII is written from right to left. -/
theorem Label.areOneWay_of_lt {labels : List (List Char)}
    (h : ∀ label ∈ labels, ∀ c ∈ label, c.toNat < 0x80) : areOneWay labels = true := by
  have hnone : (labels.any (·.any fun c => (direction c).isRightToLeft)) = false := by
    rw [List.any_eq_false]
    intro label hlabel
    rw [Bool.not_eq_true, List.any_eq_false]
    intro c hc
    rw [Bool.not_eq_true]
    simp only [direction, h label hlabel c hc, if_true]
    split
    · rfl
    · split <;> rfl
  simp [areOneWay, hnone]

theorem isDomain_renderIpv4 (address : UInt32) : isDomain (renderIpv4 address) = true := by
  have hparts : ∀ label ∈ Text.split (· == '.') (renderIpv4 address), ∀ c ∈ label,
      IsLowered c ∧ isForbiddenInDomain c = false ∧ c ≠ 'x' := fun label hlabel c hc =>
    of_mem_renderIpv4 (Text.mem_of_mem_split hlabel hc)
  have hplain : (renderIpv4 address).any isForbiddenInDomain = false := by
    rw [List.any_eq_false]
    intro c hc
    simp [(of_mem_renderIpv4 hc).2.1]
  have hlabels : (Text.split (· == '.') (renderIpv4 address)).all isLabel = true := by
    rw [List.all_eq_true]
    intro label hlabel
    exact isLabel_of_forall_ne fun c hc => (hparts label hlabel c hc).2.2
  have hread : (Text.split (· == '.') (renderIpv4 address)).map readLabel =
      Text.split (· == '.') (renderIpv4 address) := by
    refine (List.map_congr_left fun label hlabel => ?_).trans (List.map_id _)
    exact readLabel_of_forall_ne fun c hc => (hparts label hlabel c hc).2.2
  have hways := Label.areOneWay_of_lt fun label hlabel c hc => (hparts label hlabel c hc).1.1
  simp only [isDomain, hplain, hlabels, hread, hways, Bool.not_false, Bool.and_self]

theorem hostOfDomain_renderIpv4 (address : UInt32) :
    hostOfDomain (renderIpv4 address) = .ok (.ipv4 address) := by
  have hne : (renderIpv4 address).isEmpty = false := by simpa using renderIpv4_ne_nil address
  simp only [hostOfDomain, isDomain_renderIpv4, hne, endsInNumber_renderIpv4, ipv4?_renderIpv4]
  rfl

/-! ## Texts of hosts -/

/-- A character of a URL that neither ends its authority nor is left out or trimmed. -/
def IsSolid (c : Char) : Prop :=
  0x20 < c.toNat ∧ c ≠ '#' ∧ c ≠ '?' ∧ PathRules.special.isSlash c = false

instance (c : Char) : Decidable (IsSolid c) :=
  inferInstanceAs (Decidable (_ ∧ _))

/-- A host that is read back from its text, also in front of a port. -/
structure Host.IsNormal (host : Host) : Prop where
  read : ∀ port, readHost (.web port) host.render = .ok host
  ne_nil : host.render ≠ []
  solid : ∀ c ∈ host.render, IsSolid c
  ne_at : ∀ c ∈ host.render, c ≠ '@'
  cut : ∀ rest, cutPort false (host.render ++ rest) =
    (host.render ++ (cutPort false rest).1, (cutPort false rest).2)

/-- Text without colons and brackets is in front of the port. -/
theorem cutPort_append {front : List Char} (h : ∀ c ∈ front, c ≠ ':' ∧ c ≠ '[' ∧ c ≠ ']')
    (rest : List Char) :
    cutPort false (front ++ rest) =
      (front ++ (cutPort false rest).1, (cutPort false rest).2) := by
  induction front with
  | nil => rfl
  | cons c front ih =>
      rw [List.forall_mem_cons] at h
      obtain ⟨⟨hcolon, hopen, hclose⟩, h⟩ := h
      simp [cutPort, hcolon, hopen, hclose, ih h]

/-- So is what stands in brackets. -/
theorem cutPort_append_bracket {inner : List Char} (h : ∀ c ∈ inner, c ≠ '[' ∧ c ≠ ']')
    (rest : List Char) :
    cutPort true (inner ++ ']' :: rest) =
      (inner ++ ']' :: (cutPort false rest).1, (cutPort false rest).2) := by
  induction inner with
  | nil => simp [cutPort]
  | cons c inner ih =>
      rw [List.forall_mem_cons] at h
      obtain ⟨⟨hopen, hclose⟩, h⟩ := h
      simp [cutPort, hopen, hclose, ih h]

theorem ne_of_not_forbidden {c : Char} (h : isForbiddenInDomain c = false) :
    0x20 < c.toNat ∧ ∀ d ∈ ['#', '/', ':', '?', '@', '[', '\\', ']'], c ≠ d := by
  simp only [isForbiddenInDomain, Bool.or_eq_false_iff, decide_eq_false_iff_not,
    Nat.not_le] at h
  refine ⟨h.1.1.1, ?_⟩
  rintro d hd rfl
  have hforbidden : ['#', '/', ':', '?', '@', '[', '\\', ']'].all
      "#/:<>?@[\\]^|%".toList.contains = true := by decide
  rw [List.all_eq_true.mp hforbidden c hd] at h
  cases h.2

theorem isSolid_of_not_forbidden {c : Char} (h : isForbiddenInDomain c = false) : IsSolid c := by
  obtain ⟨hlt, hne⟩ := ne_of_not_forbidden h
  refine ⟨hlt, hne '#' (by simp), hne '?' (by simp), ?_⟩
  simp [PathRules.isSlash, hne '/' (by simp), hne '\\' (by simp)]

/-- A host whose text is a domain name in its ASCII form. -/
theorem Host.isNormal_of_domain {host : Host} (hascii : ∀ c ∈ host.render, c.toNat < 0x80)
    (hread : hostOfDomain host.render = .ok host) : host.IsNormal := by
  obtain ⟨hne, hplain, -⟩ := hostOfDomain_eq_ok hread
  have hl : ∀ c ∈ host.render, IsLowered c := fun c hc =>
    isLowered_of_not_forbidden (hascii c hc) (hplain c hc)
  have hnot {c : Char} (hc : c ∈ host.render) := (ne_of_not_forbidden (hplain c hc)).2
  refine ⟨fun port => ?_, hne, fun c hc => isSolid_of_not_forbidden (hplain c hc),
    fun c hc => hnot hc '@' (by simp), cutPort_append fun c hc =>
      ⟨hnot hc ':' (by simp), hnot hc '[' (by simp), hnot hc ']' (by simp)⟩⟩
  rw [← hread, ← readDomain_of_isLowered hl hplain]
  unfold readHost
  split
  next rest heq => exact absurd rfl (hnot (heq ▸ List.mem_cons_self) '[' (by simp))
  next => rfl

theorem Host.isNormal_ipv4 (address : UInt32) : (Host.ipv4 address).IsNormal :=
  isNormal_of_domain (fun _ hc => (of_mem_renderIpv4 hc).1.1) (hostOfDomain_renderIpv4 address)

theorem of_mem_renderGroups {groups : List UInt16} {c : Char} (hc : c ∈ renderGroups groups) :
    IsSolid c ∧ c ≠ '@' ∧ c ≠ '[' ∧ c ≠ ']' := by
  have hdigits : ∀ d < 16, IsSolid d.digitChar ∧ d.digitChar ≠ '@' ∧ d.digitChar ≠ '[' ∧
      d.digitChar ≠ ']' := by decide
  rcases Text.mem_sep_or_of_mem_join hc with hc | ⟨part, hpart, hc⟩
  · obtain rfl := List.mem_singleton.mp hc
    decide
  · obtain ⟨g, -, rfl⟩ := List.mem_map.mp hpart
    obtain ⟨d, hd, rfl⟩ := exists_digit_of_mem_toDigits (by decide) hc
    exact hdigits d hd

theorem of_mem_renderIpv6 {address : Ipv6} {c : Char} (hc : c ∈ address.render) :
    IsSolid c ∧ c ≠ '@' ∧ c ≠ '[' ∧ c ≠ ']' := by
  unfold Ipv6.render at hc
  dsimp only at hc
  split at hc
  next =>
    rcases List.mem_append.mp hc with hc | hc
    · rcases List.mem_append.mp hc with hc | hc
      · exact of_mem_renderGroups hc
      · obtain rfl : c = ':' := by simpa using hc
        decide
    · exact of_mem_renderGroups hc
  next => exact of_mem_renderGroups hc

theorem readBracketed_render (address : Ipv6) :
    readBracketed (address.render ++ [']']) = .ok (.ipv6 address) := by
  simp [readBracketed]

theorem Host.isNormal_ipv6 (address : Ipv6) : (Host.ipv6 address).IsNormal := by
  have hrender : (Host.ipv6 address).render = '[' :: (address.render ++ [']']) := rfl
  have hsides : ∀ c ∈ (Host.ipv6 address).render,
      c = '[' ∨ c = ']' ∨ (IsSolid c ∧ c ≠ '@' ∧ c ≠ '[' ∧ c ≠ ']') := by
    intro c hc
    simp only [hrender, List.mem_cons, List.mem_append, List.not_mem_nil, or_false] at hc
    rcases hc with hc | hc | hc
    · exact .inl hc
    · exact .inr (.inr (of_mem_renderIpv6 hc))
    · exact .inr (.inl hc)
  refine ⟨fun port => readBracketed_render address, by simp [hrender], ?_, ?_, ?_⟩
  · intro c hc
    rcases hsides c hc with rfl | rfl | hc
    · decide
    · decide
    · exact hc.1
  · intro c hc
    rcases hsides c hc with rfl | rfl | hc
    · decide
    · decide
    · exact hc.2.1
  · intro rest
    have hbracket := cutPort_append_bracket
      (fun c (hc : c ∈ address.render) => (of_mem_renderIpv6 hc).2.2) rest
    rw [hrender, List.cons_append, List.append_assoc, List.singleton_append]
    simp [cutPort, hbracket]

/-- Every host of a web URL is read back from its text. -/
theorem readHost_isNormal {port : Nat} {cs : List Char} {host : Host}
    (h : readHost (.web port) cs = .ok host) : host.IsNormal := by
  unfold readHost at h
  split at h
  next =>
    unfold readBracketed at h
    split at h
    next =>
      split at h
      next address _ =>
        obtain rfl := Except.ok.inj h
        exact Host.isNormal_ipv6 address
      next => cases h
    next => cases h
  next =>
    change readDomain cs = .ok host at h
    rw [readDomain_eq] at h
    split at h
    next => cases h
    next name _ =>
      obtain ⟨-, -, rfl | ⟨address, rfl⟩⟩ := hostOfDomain_eq_ok h
      · exact Host.isNormal_of_domain (fun _ hc => lt_of_mem_asciiDomain hc) h
      · exact Host.isNormal_ipv4 address

end Signpost.Url
