import Signpost.Proofs.Except
import Signpost.Proofs.Url.Hosts

/-! # Authorities as they are written

An authority that was read is read back from its text: the user name and the password hold none of
the characters that would divide them, the host is read back from its own text, and a port is only
written where it is not the one of the scheme. -/

namespace Signpost.Url

/-! ## What reading an authority leaves -/

/-- An authority of a web URL as it is left by reading one. -/
structure Authority.IsNormal (port : Nat) (a : Authority) : Prop where
  username : ∀ c ∈ a.username, Escape.userinfo c = false
  password : ∀ c ∈ a.password, Escape.userinfo c = false
  host : ∃ host, a.host = some host ∧ host.IsNormal
  port : ∀ written, a.port = some written → written.toNat ≠ port

theorem userinfo_of_mem_encode {cs : List Char} :
    ∀ c ∈ Percent.encode Escape.userinfo cs, Escape.userinfo c = false :=
  fun _ => Percent.plain_of_mem_encode (by decide) (by decide)

/-- A port that is read is not the one of the scheme. -/
theorem readPort_toNat_ne {port : Nat} {cs left : List Char} {written : UInt16}
    (h : readPort (.web port) cs = .ok (some written, left)) : written.toNat ≠ port := by
  unfold readPort at h
  dsimp only at h
  generalize Nat.ofDigitChars 10 (cs.takeWhile Char.isDigit) 0 = n at h
  split at h
  next => cases h
  next hcond =>
    split at h
    next => cases h
    next hwritten =>
      have hn : n < UInt16.size := by
        simp only [Bool.or_eq_true, decide_eq_true_eq, not_or, Nat.not_lt] at hcond
        exact Nat.lt_succ_of_le hcond.1
      obtain rfl : UInt16.ofNat n = written := Option.some.inj (Prod.mk.inj (Except.ok.inj h)).1
      rw [UInt16.toNat_ofNat_of_lt' hn]
      rintro rfl
      simp at hwritten

theorem readHostPort_normal {port : Nat} {hasUser : Bool} {cs left : List Char}
    {host : Option Host} {written : Option UInt16}
    (h : readHostPort (.web port) hasUser cs = .ok (host, written, left)) :
    (∃ h, host = some h ∧ h.IsNormal) ∧ ∀ p, written = some p → p.toNat ≠ port := by
  unfold readHostPort at h
  dsimp only at h
  split at h
  next =>
    have hspecial : (Family.web port).isSpecial = true := rfl
    rw [hspecial, Bool.true_or, Bool.true_or, if_pos rfl] at h
    cases h
  next =>
    obtain ⟨named, hnamed, h⟩ := bind_eq_ok_iff.mp h
    have hnormal := readHost_isNormal hnamed
    split at h
    next =>
      obtain ⟨rfl, hrest⟩ := Prod.mk.inj (Except.ok.inj h)
      obtain ⟨rfl, -⟩ := Prod.mk.inj hrest
      exact ⟨⟨named, rfl, hnormal⟩, by simp⟩
    next text _ =>
      obtain ⟨⟨read, rest⟩, hport, h⟩ := bind_eq_ok_iff.mp h
      obtain ⟨rfl, hrest⟩ := Prod.mk.inj (Except.ok.inj h)
      obtain ⟨rfl, -⟩ := Prod.mk.inj hrest
      refine ⟨⟨named, rfl, hnormal⟩, ?_⟩
      rintro p rfl
      exact readPort_toNat_ne hport

/-- Reading the authority of a web URL leaves a normal one. -/
theorem readAuthority_isNormal {port : Nat} {followed : Bool} {cs left : List Char} {a : Authority}
    (h : readAuthority (.web port) followed cs = .ok (a, left)) : a.IsNormal port := by
  unfold readAuthority at h
  dsimp only at h
  split at h
  next => cases h
  next =>
    obtain ⟨⟨host, written, rest⟩, hhost, h⟩ := bind_eq_ok_iff.mp h
    obtain ⟨rfl, -⟩ := Prod.mk.inj (Except.ok.inj h)
    obtain ⟨hnormal, hport⟩ := readHostPort_normal hhost
    exact ⟨userinfo_of_mem_encode, userinfo_of_mem_encode, hnormal, hport⟩

/-! ## Reading what is written -/

theorem cutUser_of_forall {cs : List Char} (h : ∀ c ∈ cs, c ≠ '@') : cutUser cs = (none, cs) := by
  have hcut : Text.cut (· == '@') cs.reverse = (cs.reverse, none) :=
    Text.cut_of_forall (by simpa using h)
  rw [cutUser, hcut]

theorem cutUser_append (user : List Char) {rest : List Char} (h : ∀ c ∈ rest, c ≠ '@') :
    cutUser (user ++ '@' :: rest) = (some user, rest) := by
  have hreverse : (user ++ '@' :: rest).reverse = rest.reverse ++ '@' :: user.reverse := by simp
  have hcut := @Text.cut_append (· == '@') rest.reverse user.reverse '@' (by simpa using h) rfl
  rw [cutUser, hreverse, hcut]
  simp

/-- A port that is written is read back. -/
theorem readPort_render {port : Nat} {written : UInt16} (h : written.toNat ≠ port) :
    readPort (.web port) (Decimal.render written.toNat) = .ok (some written, []) := by
  have hdigits : ∀ c ∈ Decimal.render written.toNat, c.isDigit = true :=
    fun _ => Decimal.isDigit_of_mem_render
  have htake : (Decimal.render written.toNat).takeWhile Char.isDigit =
      Decimal.render written.toNat := List.takeWhile_eq_self_iff.mpr hdigits
  have hdrop : (Decimal.render written.toNat).dropWhile Char.isDigit = [] :=
    List.dropWhile_eq_nil_iff.mpr hdigits
  have hvalue : Nat.ofDigitChars 10 (Decimal.render written.toNat) 0 = written.toNat :=
    Nat.ofDigitChars_toDigits (by decide) (by decide)
  have hsmall : ¬65535 < written.toNat := by
    have := written.toNat_lt
    omega
  have hfamily : (Family.web port == Family.web written.toNat) = false := by
    simpa using fun he => h he.symm
  have hne : (Decimal.render written.toNat).isEmpty = false := by
    simpa using Decimal.render_ne_nil _
  simp [readPort, htake, hdrop, hvalue, hsmall, hfamily, hne]

/-- The text of a port behind its colon. -/
def portText (written : Option UInt16) : List Char :=
  (written.map fun port => ':' :: Decimal.render port.toNat).getD []

theorem readHostPort_render {port : Nat} {host : Host} (hh : host.IsNormal)
    {written : Option UInt16} (hp : ∀ p, written = some p → p.toNat ≠ port) (hasUser : Bool) :
    readHostPort (.web port) hasUser (host.render ++ portText written) =
      .ok (some host, written, []) := by
  have hne : host.render.isEmpty = false := by simpa using hh.ne_nil
  unfold readHostPort
  rw [hh.cut]
  cases written with
  | none =>
      have hcut : cutPort false (portText none) = ([], none) := rfl
      simp only [hcut, List.append_nil, hne, hh.read port]
      rfl
  | some p =>
      have hcut : cutPort false (portText (some p)) = ([], some (Decimal.render p.toNat)) := rfl
      simp only [hcut, List.append_nil, hne, hh.read port]
      refine bind_eq_ok_iff.mpr ⟨host, rfl, ?_⟩
      exact bind_eq_ok_iff.mpr ⟨(some p, []), readPort_render (hp p rfl), rfl⟩

/-! ### Whole authorities -/

/-- What is neither a control character nor a space is behind the space. -/
theorem lt_toNat_of_control {c : Char} (h : Escape.control c = false) (hspace : c ≠ ' ') :
    0x20 < c.toNat := by
  have hlow : ¬c.toNat < 0x20 := by
    intro hlt
    simp [Escape.control, hlt] at h
  have hne : c.toNat ≠ 0x20 := fun he => hspace (Char.toNat_inj.mp he)
  omega

theorem isSolid_of_userinfo {c : Char} (h : Escape.userinfo c = false) :
    IsSolid c ∧ c ≠ '@' ∧ c ≠ ':' := by
  have hne (d : Char) (hd : Escape.userinfo d = true) : c ≠ d := by
    rintro rfl
    rw [h] at hd
    cases hd
  have hpath : Escape.path c = false := by
    simp only [Escape.userinfo, Bool.or_eq_false_iff] at h
    exact h.1.1.1.1.1.1.1.1.1.1
  refine ⟨⟨lt_toNat_of_control (Escape.control_of_path hpath) (hne ' ' rfl), hne '#' rfl,
    hne '?' rfl, ?_⟩, hne '@' rfl, hne ':' rfl⟩
  simp [PathRules.isSlash, hne '/' rfl, hne '\\' rfl]

theorem of_mem_portText {written : Option UInt16} {c : Char} (hc : c ∈ portText written) :
    IsSolid c ∧ c ≠ '@' := by
  have hdigits : ∀ d < 10, IsSolid d.digitChar ∧ d.digitChar ≠ '@' := by decide
  cases written with
  | none => cases hc
  | some p =>
      rcases List.mem_cons.mp hc with rfl | hc
      · decide
      · obtain ⟨d, hd, rfl⟩ := exists_digit_of_mem_toDigits (by decide) hc
        exact hdigits d hd

namespace Authority

/-- User name and password with a colon between them. -/
def userText (a : Authority) : List Char :=
  a.username ++ if a.password.isEmpty then [] else ':' :: a.password

theorem render_eq {a : Authority} {host : Host} (hh : a.host = some host) :
    a.render = (if a.username.isEmpty && a.password.isEmpty then [] else a.userText ++ ['@']) ++
      (host.render ++ portText a.port) := by
  rw [render, hh, List.append_assoc]
  rfl

namespace IsNormal

variable {port : Nat} {a : Authority}

theorem solid_userText (ha : a.IsNormal port) : ∀ c ∈ a.userText, IsSolid c := by
  intro c hc
  rcases List.mem_append.mp hc with hc | hc
  · exact (isSolid_of_userinfo (ha.username c hc)).1
  · split at hc
    next => cases hc
    next =>
      rcases List.mem_cons.mp hc with rfl | hc
      · decide
      · exact (isSolid_of_userinfo (ha.password c hc)).1

/-- What stands in an authority ends it nowhere. -/
theorem solid (ha : a.IsNormal port) : ∀ c ∈ a.render, IsSolid c := by
  obtain ⟨host, hh, hnormal⟩ := ha.host
  intro c hc
  rw [render_eq hh] at hc
  rcases List.mem_append.mp hc with hc | hc
  · split at hc
    next => cases hc
    next =>
      rcases List.mem_append.mp hc with hc | hc
      · exact ha.solid_userText c hc
      · obtain rfl := List.mem_singleton.mp hc
        decide
  · rcases List.mem_append.mp hc with hc | hc
    · exact hnormal.solid c hc
    · exact (of_mem_portText hc).1

theorem render_ne_nil (ha : a.IsNormal port) : a.render ≠ [] := by
  obtain ⟨host, hh, hnormal⟩ := ha.host
  simp [render_eq hh, hnormal.ne_nil]

theorem cut_userText (ha : a.IsNormal port) :
    (Text.cut (· == ':') a.userText).1 = a.username ∧
      (Text.cut (· == ':') a.userText).2.getD [] = a.password := by
  have hcolon : ∀ c ∈ a.username, (c == ':') = false := fun c hc => by
    simpa using (isSolid_of_userinfo (ha.username c hc)).2.2
  unfold userText
  split
  next hempty =>
    rw [List.append_nil, Text.cut_of_forall hcolon]
    exact ⟨rfl, (List.isEmpty_iff.mp hempty).symm⟩
  next =>
    have hcut := @Text.cut_append (· == ':') a.username a.password ':' hcolon rfl
    rw [hcut]
    exact ⟨rfl, rfl⟩

theorem readAuthority_of_cutUser (ha : a.IsNormal port) {host : Host} (hh : a.host = some host)
    {cs : List Char} {user : Option (List Char)}
    (hcut : cutUser cs = (user, host.render ++ portText a.port))
    (hname : (Text.cut (· == ':') (user.getD [])).1 = a.username)
    (hpassword : (Text.cut (· == ':') (user.getD [])).2.getD [] = a.password) (followed : Bool) :
    readAuthority (.web port) followed cs = .ok (a, []) := by
  obtain ⟨_, hsome, hnormal⟩ := ha.host
  obtain rfl := Option.some.inj (hh.symm.trans hsome)
  have hrest : (host.render ++ portText a.port).isEmpty = false := by simp [hnormal.ne_nil]
  unfold readAuthority
  simp only [hcut, hrest, Bool.and_false, Bool.false_and, Bool.false_eq_true, ↓reduceIte, hname,
    hpassword, Percent.encode_eq_self ha.username, Percent.encode_eq_self ha.password,
    readHostPort_render hnormal ha.port]
  rw [← hh]
  rfl

/-- A normal authority is read back from its text, whatever follows. -/
theorem readAuthority_render (ha : a.IsNormal port) (followed : Bool) :
    readAuthority (.web port) followed a.render = .ok (a, []) := by
  obtain ⟨host, hh, hnormal⟩ := ha.host
  have hat : ∀ c ∈ host.render ++ portText a.port, c ≠ '@' := by
    intro c hc
    rcases List.mem_append.mp hc with hc | hc
    · exact hnormal.ne_at c hc
    · exact (of_mem_portText hc).2
  by_cases hempty : (a.username.isEmpty && a.password.isEmpty) = true
  · obtain ⟨hname, hpassword⟩ : a.username = [] ∧ a.password = [] := by simpa using hempty
    rw [render_eq hh, if_pos hempty, List.nil_append]
    exact ha.readAuthority_of_cutUser hh (cutUser_of_forall hat) hname.symm hpassword.symm followed
  · rw [render_eq hh, if_neg hempty, List.append_assoc, List.singleton_append]
    exact ha.readAuthority_of_cutUser hh (cutUser_append _ hat) ha.cut_userText.1
      ha.cut_userText.2 followed

end IsNormal

end Signpost.Url.Authority
