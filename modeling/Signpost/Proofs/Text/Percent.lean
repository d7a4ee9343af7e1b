import Signpost.Text.Percent

/-! # Escapes

What an escaped text is made of, and which bytes it stands for. -/

namespace Signpost.Percent

/-! ## Writing -/

@[simp] theorem encode_cons (p : Char → Bool) (c : Char) (cs : List Char) :
    encode p (c :: cs) = (if p c then encodeChar c else [c]) ++ encode p cs := by
  simp [encode]

/-- Escaping writes plain characters, percent signs and digits. -/
theorem mem_encode {p : Char → Bool} {cs : List Char} {c : Char} (hc : c ∈ encode p cs) :
    (c ∈ cs ∧ p c = false) ∨ c = '%' ∨ ∃ n < 16, c = Hex.upper n := by
  obtain ⟨d, hd, hc⟩ := List.mem_flatMap.mp hc
  by_cases hp : p d = true
  · rw [if_pos hp] at hc
    obtain ⟨b, _, hc⟩ := List.mem_flatMap.mp hc
    have hb := UInt8.toNat_lt b
    simp only [encodeByte, List.mem_cons, List.not_mem_nil, or_false] at hc
    rcases hc with rfl | rfl | rfl
    · exact .inr (.inl rfl)
    · exact .inr (.inr ⟨b.toNat / 16, by omega, rfl⟩)
    · exact .inr (.inr ⟨b.toNat % 16, by omega, rfl⟩)
  · rw [if_neg hp, List.mem_singleton] at hc
    subst hc
    exact .inl ⟨hd, by simpa using hp⟩

/-- What was escaped holds nothing more to escape, as long as escapes themselves are plain. -/
theorem plain_of_mem_encode {p : Char → Bool} (hmark : p '%' = false)
    (hdigits : ∀ n < 16, p (Hex.upper n) = false) {cs : List Char} {c : Char}
    (hc : c ∈ encode p cs) : p c = false := by
  rcases mem_encode hc with ⟨-, hp⟩ | rfl | ⟨n, hn, rfl⟩
  · exact hp
  · exact hmark
  · exact hdigits n hn

/-! ## Reading -/

theorem decode_cons_of_ne {c : Char} (hc : c ≠ '%') (rest : List Char) :
    decode (c :: rest) = Utf8.encodeChar c ++ decode rest := by
  rw [decode.eq_def]
  split
  next => contradiction
  next h => exact absurd (List.cons.inj h).1 hc
  next h =>
    obtain ⟨rfl, rfl⟩ := List.cons.inj h
    rfl

/-- A text without percent signs stands for its own bytes. -/
theorem decode_of_forall_ne {cs : List Char} (h : ∀ c ∈ cs, c ≠ '%') :
    decode cs = Utf8.encode cs := by
  induction cs with
  | nil => rfl
  | cons c cs ih =>
      rw [List.forall_mem_cons] at h
      rw [decode_cons_of_ne h.1, ih h.2]
      rfl

/-- An escape is read as its byte. -/
@[simp] theorem decode_encodeByte_append (b : UInt8) (rest : List Char) :
    decode (encodeByte b ++ rest) = b :: decode rest := by
  have hb := b.toNat_lt
  have hbyte : Utf8.byteOf (b.toNat / 16 * 16 + b.toNat % 16) = b := by
    rw [Nat.div_add_mod']
    exact UInt8.ofNat_toNat
  simp [encodeByte, decode, Hex.value?_upper (show b.toNat / 16 < 16 by omega),
    Hex.value?_upper (show b.toNat % 16 < 16 by omega), hbyte]

@[simp] theorem decode_flatMap_encodeByte_append (bytes : List UInt8) (rest : List Char) :
    decode (bytes.flatMap encodeByte ++ rest) = bytes ++ decode rest := by
  induction bytes with
  | nil => rfl
  | cons b bytes ih =>
      rw [List.flatMap_cons, List.append_assoc, decode_encodeByte_append, ih, List.cons_append]

/-- A character that is no part of an escape stands for its own byte. -/
theorem byteOf_mem_decode {c : Char} (hlt : c.toNat < 0x80) (hmark : c ≠ '%')
    (hdigit : Hex.value? c = none) {cs : List Char} (hc : c ∈ cs) :
    Utf8.byteOf c.toNat ∈ decode cs := by
  have hself : Utf8.encodeChar c = [Utf8.byteOf c.toNat] := by
    rw [Utf8.encodeChar, if_pos hlt]
  fun_induction decode cs with
  | case1 => cases hc
  | case2 a b rest x y hy hx ih =>
      refine List.mem_cons_of_mem _ (ih ?_)
      simp only [List.mem_cons] at hc
      rcases hc with rfl | rfl | rfl | hc
      · exact absurd rfl hmark
      · rw [hx] at hdigit
        cases hdigit
      · rw [hy] at hdigit
        cases hdigit
      · exact hc
  | case3 a b rest _ ih =>
      exact List.mem_append_right _ (ih ((List.mem_cons.mp hc).resolve_left hmark))
  | case4 d rest _ ih =>
      rcases List.mem_cons.mp hc with rfl | hc
      · simp [hself]
      · exact List.mem_append_right _ (ih hc)

end Signpost.Percent
