import Mathlib.Data.List.Basic
import Signpost.Proofs.Text.Percent
import Signpost.Proofs.Text.Split
import Signpost.Url.Path

/-! # Segments as they are read

Reading the path of a web URL leaves normal segments: no slash is left in them, no character that
would have to be escaped, and none is a dot segment in any spelling. A normal segment is read as
itself. -/

namespace Signpost

/-! ## Escaped text -/

namespace Percent

/-- Only a dot is written with the byte of a dot in front. -/
theorem encodeChar_cons {c : Char} (hc : c ≠ '.') :
    ∃ b cs, b.toNat ≠ 0x2E ∧ encodeChar c = encodeByte b ++ cs := by
  have hne : c.toNat ≠ 0x2E := fun h => hc (Char.toNat_inj.mp h)
  have hbyte : ∀ n, n < 256 → (Utf8.byteOf n).toNat = n := fun n hn =>
    UInt8.toNat_ofNat_of_lt' hn
  have hlt : c.toNat < 0x110000 := by
    have hvalid : c.toNat < 0xD800 ∨ 0xDFFF < c.toNat ∧ c.toNat < 0x110000 := c.valid
    omega
  unfold encodeChar Utf8.encodeChar
  dsimp only
  split
  next h => exact ⟨_, [], by rwa [hbyte _ (by omega)], rfl⟩
  next h =>
    split
    next => exact ⟨_, _, by rw [hbyte _ (by omega)]; omega, rfl⟩
    next =>
      split
      next => exact ⟨_, _, by rw [hbyte _ (by omega)]; omega, rfl⟩
      next => exact ⟨_, _, by rw [hbyte _ (by omega)]; omega, rfl⟩

theorem encodeChar_ne_nil (c : Char) : encodeChar c ≠ [] := by
  by_cases hc : c = '.'
  · subst hc
    decide
  · obtain ⟨b, cs, _, he⟩ := encodeChar_cons hc
    simp [he, encodeByte]

theorem encode_eq_nil {p : Char → Bool} {cs : List Char} : encode p cs = [] ↔ cs = [] := by
  cases cs with
  | nil => simp [encode]
  | cons c cs =>
      rw [encode_cons]
      split <;> simp [encodeChar_ne_nil]

end Percent

namespace Url

/-! ## Dots and escapes -/

theorem afterDot_of_ne {c : Char} (hd : c ≠ '.') (hp : c ≠ '%') (cs : List Char) :
    afterDot (c :: cs) = none := by
  unfold afterDot
  split
  next he => exact absurd (List.cons.inj he).1 hd
  next he => exact absurd (List.cons.inj he).1 hp
  next => rfl

/-- An escaped byte reads as a dot only if it is one. -/
theorem afterDot_encodeByte {b : UInt8} (hb : b.toNat ≠ 0x2E) (cs : List Char) :
    afterDot (Percent.encodeByte b ++ cs) = none := by
  have hlt := UInt8.toNat_lt b
  have h₁ := Hex.value?_upper (n := b.toNat / 16) (by omega)
  have h₂ := Hex.value?_upper (n := b.toNat % 16) (by omega)
  simp only [Percent.encodeByte, List.cons_append, List.nil_append]
  unfold afterDot
  split
  next he => cases he
  next e rest he =>
    obtain ⟨h2, rfl, rfl⟩ : Hex.upper (b.toNat / 16) = '2' ∧ Hex.upper (b.toNat % 16) = e ∧
      cs = rest := by simpa using he
    have hhigh : b.toNat / 16 = 2 := by
      rw [h2] at h₁
      exact (Option.some.inj h₁).symm
    refine if_neg ?_
    intro hlow
    have hlow : b.toNat % 16 = 14 := by
      simp only [Bool.or_eq_true, beq_iff_eq] at hlow
      rcases hlow with hlow | hlow <;> rw [hlow] at h₂ <;> exact (Option.some.inj h₂).symm
    omega
  next => rfl

theorem afterDot_percent_of_ne {d : Char} (hd : d ≠ '2') (cs : List Char) :
    afterDot ('%' :: d :: cs) = none := by
  unfold afterDot
  split
  next he => cases he
  next he => exact absurd (List.cons.inj (List.cons.inj he).2).1 hd
  next => rfl

theorem encode_path_of_plain {c : Char} (hc : Escape.path c = false) (cs : List Char) :
    Percent.encode Escape.path (c :: cs) = c :: Percent.encode Escape.path cs := by
  simp [hc]

/-- An escaped character is written with a percent sign and a byte that is no dot. -/
theorem encode_path_of_escaped {c : Char} (hc : Escape.path c = true) (cs : List Char) :
    ∃ b rest, b.toNat ≠ 0x2E ∧
      Percent.encode Escape.path (c :: cs) = Percent.encodeByte b ++ rest := by
  have hdot : c ≠ '.' := by
    rintro rfl
    cases hc
  obtain ⟨b, rest, hb, he⟩ := Percent.encodeChar_cons hdot
  exact ⟨b, rest ++ Percent.encode Escape.path cs, hb, by simp [hc, he]⟩

theorem afterDot_encode_percent (cs : List Char) :
    afterDot ('%' :: Percent.encode Escape.path cs) =
      (afterDot ('%' :: cs)).map (Percent.encode Escape.path) := by
  cases cs with
  | nil => rfl
  | cons d cs =>
      by_cases hd : Escape.path d = true
      · obtain ⟨b, rest, _, he⟩ := encode_path_of_escaped hd cs
        have htwo : d ≠ '2' := by
          rintro rfl
          cases hd
        rw [he, afterDot_percent_of_ne htwo]
        exact afterDot_percent_of_ne (by decide) _
      · rw [Bool.not_eq_true] at hd
        rw [encode_path_of_plain hd]
        by_cases htwo : d = '2'
        · subst htwo
          cases cs with
          | nil => rfl
          | cons e cs =>
              by_cases he : Escape.path e = true
              · obtain ⟨b, rest, _, hb⟩ := encode_path_of_escaped he cs
                rw [hb]
                have hne : (e == 'e' || e == 'E') = false := by
                  rw [Bool.or_eq_false_iff, beq_eq_false_iff_ne, beq_eq_false_iff_ne]
                  constructor <;> rintro rfl <;> cases he
                simp [afterDot, hne, Percent.encodeByte]
              · rw [Bool.not_eq_true] at he
                rw [encode_path_of_plain he]
                simp only [afterDot]
                split <;> rfl
        · rw [afterDot_percent_of_ne htwo, afterDot_percent_of_ne htwo]
          rfl

/-- Escaping a path neither makes nor hides a dot. -/
@[simp] theorem afterDot_encode (cs : List Char) :
    afterDot (Percent.encode Escape.path cs) =
      (afterDot cs).map (Percent.encode Escape.path) := by
  cases cs with
  | nil => rfl
  | cons c cs =>
      by_cases hc : Escape.path c = true
      · obtain ⟨b, rest, hb, he⟩ := encode_path_of_escaped hc cs
        have hdot : c ≠ '.' := by
          rintro rfl
          cases hc
        have hpercent : c ≠ '%' := by
          rintro rfl
          cases hc
        rw [he, afterDot_encodeByte hb, afterDot_of_ne hdot hpercent]
        rfl
      · rw [Bool.not_eq_true] at hc
        rw [encode_path_of_plain hc]
        by_cases hdot : c = '.'
        · subst hdot
          rfl
        · by_cases hpercent : c = '%'
          · subst hpercent
            exact afterDot_encode_percent cs
          · rw [afterDot_of_ne hdot hpercent, afterDot_of_ne hdot hpercent]
            rfl

@[simp] theorem isSingleDot_encode (s : Segment) :
    isSingleDot (Percent.encode Escape.path s) = isSingleDot s := by
  unfold isSingleDot
  rw [afterDot_encode, Bool.eq_iff_iff, beq_iff_eq, beq_iff_eq]
  cases afterDot s <;> simp [Percent.encode_eq_nil]

@[simp] theorem isDoubleDot_encode (s : Segment) :
    isDoubleDot (Percent.encode Escape.path s) = isDoubleDot s := by
  unfold isDoubleDot
  rw [afterDot_encode, Bool.eq_iff_iff, beq_iff_eq, beq_iff_eq]
  cases afterDot s with
  | none => simp
  | some rest =>
      simp only [Option.map_some, Option.bind_some, afterDot_encode]
      cases afterDot rest <;> simp [Percent.encode_eq_nil]

/-! ## Normal segments -/

/-- A segment as it is left by reading the path of a web URL. -/
structure Segment.IsNormal (s : Segment) : Prop where
  not_slash : ∀ c ∈ s, PathRules.special.isSlash c = false
  plain : ∀ c ∈ s, Escape.path c = false
  not_single : isSingleDot s = false
  not_double : isDoubleDot s = false

theorem Segment.isNormal_nil : Segment.IsNormal [] :=
  ⟨by simp, by simp, rfl, rfl⟩

theorem Segment.IsNormal.not_mem_slash {s : Segment} (hs : Segment.IsNormal s) : '/' ∉ s := by
  intro hmem
  have := hs.not_slash '/' hmem
  simp [PathRules.isSlash] at this

theorem Segment.IsNormal.encode_eq {s : Segment} (hs : Segment.IsNormal s) :
    Percent.encode Escape.path s = s :=
  Percent.encode_eq_self hs.plain

/-- What is skipped is escaped in a path. -/
theorem path_of_isSkipped {c : Char} (hc : isSkipped c = true) : Escape.path c = true := by
  simp only [isSkipped, Bool.or_eq_true, beq_iff_eq] at hc
  rcases hc with (rfl | rfl) | rfl <;> decide

theorem Segment.IsNormal.withoutSkipped_eq {s : Segment} (hs : Segment.IsNormal s) :
    withoutSkipped s = s := by
  refine List.filter_eq_self.mpr ?_
  intro c hc
  cases hk : isSkipped c with
  | false => rfl
  | true => exact absurd (path_of_isSkipped hk) (by simp [hs.plain c hc])

theorem not_slash_upper : ∀ n < 16, PathRules.special.isSlash (Hex.upper n) = false ∧
    Escape.path (Hex.upper n) = false := by
  decide

/-- Escaping a text without slashes that is no dot segment makes it normal. -/
theorem Segment.isNormal_encode {s : Segment}
    (hs : ∀ c ∈ s, PathRules.special.isSlash c = false) (h₁ : isSingleDot s = false)
    (h₂ : isDoubleDot s = false) : Segment.IsNormal (Percent.encode Escape.path s) := by
  refine ⟨?_, ?_, (isSingleDot_encode s).trans h₁, (isDoubleDot_encode s).trans h₂⟩
  · intro c hc
    rcases Percent.mem_encode hc with ⟨hc, _⟩ | rfl | ⟨n, hn, rfl⟩
    · exact hs c hc
    · decide
    · exact (not_slash_upper n hn).1
  · intro c hc
    rcases Percent.mem_encode hc with ⟨_, hp⟩ | rfl | ⟨n, hn, rfl⟩
    · exact hp
    · decide
    · exact (not_slash_upper n hn).2

end Url

end Signpost
