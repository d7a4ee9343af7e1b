import Mathlib.Tactic.SplitIfs
import Signpost.Text.Utf8

/-! # Scalars and their bytes

The bytes of a scalar are read as that scalar, whatever follows them. So every text is read back
from its bytes, with no U+FFFD in the place of anything. -/

namespace Signpost.Utf8

theorem toNat_byteOf {n : Nat} (h : n < 256) : (byteOf n).toNat = n :=
  UInt8.toNat_ofNat_of_lt' h

/-- The numbers of scalars leave out the surrogates. -/
theorem toNat_valid (c : Char) : c.toNat < 0xD800 ∨ 0xDFFF < c.toNat ∧ c.toNat < 0x110000 :=
  c.valid

/-! ## One scalar

A scalar takes as many bytes as its number needs; each of the four lengths has a first byte of its
own. -/

theorem decodeUnits_one {n : Nat} (h : n < 0x80) (rest : List UInt8) :
    decodeUnits (byteOf n :: rest) = some (Char.ofNat n) :: decodeUnits rest := by
  rw [decodeUnits.eq_def]
  simp [toNat_byteOf (show n < 256 by omega), h]

theorem decodeUnits_two {n : Nat} (hlow : 0x80 ≤ n) (hhigh : n < 0x800) (rest : List UInt8) :
    decodeUnits (byteOf (0xC0 + n / 64) :: byteOf (0x80 + n % 64) :: rest) =
      some (Char.ofNat n) :: decodeUnits rest := by
  have ha : (byteOf (0xC0 + n / 64)).toNat = 0xC0 + n / 64 := toNat_byteOf (by omega)
  have hb : (byteOf (0x80 + n % 64)).toNat = 0x80 + n % 64 := toNat_byteOf (by omega)
  have htail : isTail (byteOf (0x80 + n % 64)) = true := by simp [isTail, hb]; omega
  have hn : (0xC0 + n / 64 - 0xC0) * 64 + (0x80 + n % 64 - 0x80) = n := by omega
  rw [decodeUnits.eq_def]
  simp only [ha, hb, htail, hn]
  simp [show ¬0xC0 + n / 64 < 0x80 by omega, show 0xC2 ≤ 0xC0 + n / 64 by omega,
    show 0xC0 + n / 64 < 0xE0 by omega]

theorem decodeUnits_three {n : Nat} (hlow : 0x800 ≤ n) (hhigh : n < 0x10000)
    (hvalid : n < 0xD800 ∨ 0xDFFF < n) (rest : List UInt8) :
    decodeUnits (byteOf (0xE0 + n / 4096) :: byteOf (0x80 + n / 64 % 64) ::
        byteOf (0x80 + n % 64) :: rest) =
      some (Char.ofNat n) :: decodeUnits rest := by
  have ha : (byteOf (0xE0 + n / 4096)).toNat = 0xE0 + n / 4096 := toNat_byteOf (by omega)
  have hb : (byteOf (0x80 + n / 64 % 64)).toNat = 0x80 + n / 64 % 64 := toNat_byteOf (by omega)
  have hc : (byteOf (0x80 + n % 64)).toNat = 0x80 + n % 64 := toNat_byteOf (by omega)
  -- no overlong form and no surrogate
  have hsecond : isSecond (byteOf (0xE0 + n / 4096)) (byteOf (0x80 + n / 64 % 64)) = true := by
    simp only [isSecond, isTail, ha, hb, Bool.and_eq_true, decide_eq_true_eq]
    refine ⟨by omega, ?_⟩
    split_ifs <;> simp <;> omega
  have htail : isTail (byteOf (0x80 + n % 64)) = true := by simp [isTail, hc]; omega
  have hn : (0xE0 + n / 4096 - 0xE0) * 4096 + (0x80 + n / 64 % 64 - 0x80) * 64 +
      (0x80 + n % 64 - 0x80) = n := by omega
  rw [decodeUnits.eq_def]
  simp only [ha, hb, hc, hsecond, htail, hn]
  simp [show ¬0xE0 + n / 4096 < 0x80 by omega, show ¬0xE0 + n / 4096 < 0xE0 by omega,
    show 0xE0 + n / 4096 < 0xF0 by omega]

theorem decodeUnits_four {n : Nat} (hlow : 0x10000 ≤ n) (hhigh : n < 0x110000)
    (rest : List UInt8) :
    decodeUnits (byteOf (0xF0 + n / 262144) :: byteOf (0x80 + n / 4096 % 64) ::
        byteOf (0x80 + n / 64 % 64) :: byteOf (0x80 + n % 64) :: rest) =
      some (Char.ofNat n) :: decodeUnits rest := by
  have ha : (byteOf (0xF0 + n / 262144)).toNat = 0xF0 + n / 262144 := toNat_byteOf (by omega)
  have hb : (byteOf (0x80 + n / 4096 % 64)).toNat = 0x80 + n / 4096 % 64 :=
    toNat_byteOf (by omega)
  have hc : (byteOf (0x80 + n / 64 % 64)).toNat = 0x80 + n / 64 % 64 := toNat_byteOf (by omega)
  have hd : (byteOf (0x80 + n % 64)).toNat = 0x80 + n % 64 := toNat_byteOf (by omega)
  -- no overlong form and nothing beyond the last scalar
  have hsecond : isSecond (byteOf (0xF0 + n / 262144)) (byteOf (0x80 + n / 4096 % 64)) = true := by
    simp only [isSecond, isTail, ha, hb, Bool.and_eq_true, decide_eq_true_eq]
    refine ⟨by omega, ?_⟩
    split_ifs <;> simp <;> omega
  have htail₁ : isTail (byteOf (0x80 + n / 64 % 64)) = true := by simp [isTail, hc]; omega
  have htail₂ : isTail (byteOf (0x80 + n % 64)) = true := by simp [isTail, hd]; omega
  have hn : (0xF0 + n / 262144 - 0xF0) * 262144 + (0x80 + n / 4096 % 64 - 0x80) * 4096 +
      (0x80 + n / 64 % 64 - 0x80) * 64 + (0x80 + n % 64 - 0x80) = n := by omega
  rw [decodeUnits.eq_def]
  simp only [ha, hb, hc, hd, hsecond, htail₁, htail₂, hn]
  simp [show ¬0xF0 + n / 262144 < 0x80 by omega, show ¬0xF0 + n / 262144 < 0xE0 by omega,
    show ¬0xF0 + n / 262144 < 0xF0 by omega, show 0xF0 + n / 262144 < 0xF5 by omega]

@[simp] theorem decodeUnits_encodeChar_append (c : Char) (rest : List UInt8) :
    decodeUnits (encodeChar c ++ rest) = some c :: decodeUnits rest := by
  have hvalid := toNat_valid c
  suffices h : decodeUnits (encodeChar c ++ rest) =
      some (Char.ofNat c.toNat) :: decodeUnits rest by rwa [Char.ofNat_toNat] at h
  simp only [encodeChar]
  split_ifs with h₁ h₂ h₃
  · exact decodeUnits_one h₁ rest
  · exact decodeUnits_two (by omega) h₂ rest
  · exact decodeUnits_three (by omega) h₃ (by omega) rest
  · have hlow : 0x10000 ≤ c.toNat := by omega
    exact decodeUnits_four hlow (by omega) rest

/-! ## Texts -/

@[simp] theorem decodeUnits_encode (cs : List Char) : decodeUnits (encode cs) = cs.map some := by
  induction cs with
  | nil => rfl
  | cons c cs ih =>
      have hcons : encode (c :: cs) = encodeChar c ++ encode cs := rfl
      rw [hcons, decodeUnits_encodeChar_append, ih, List.map_cons]

/-- A text is read back from its bytes. -/
@[simp] theorem decodeLossy_encode (cs : List Char) : decodeLossy (encode cs) = cs := by
  rw [decodeLossy, decodeUnits_encode, List.map_map]
  exact List.map_id cs

@[simp] theorem decode?_encode (cs : List Char) : decode? (encode cs) = some cs := by
  have hsome : cs.mapM (id ∘ some) = some (cs.map id) := List.mapM_pure
  rw [decode?, decodeUnits_encode, List.mapM_map, hsome, List.map_id]

end Signpost.Utf8
