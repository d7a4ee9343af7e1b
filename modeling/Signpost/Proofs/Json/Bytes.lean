import Signpost.Proofs.Json.RoundTrip
import Signpost.Proofs.Text.Utf8

/-! # Reading JSON from bytes

Bytes that are a text are read as that text. A string may hold other bytes too and is read to its
end, but then it is no text: an item or a member that nobody looks at may hold such a string. -/

namespace Signpost.Json

/-! ## Texts -/

theorem flatMap_spell_map_some (cs : List Char) : (cs.map some).flatMap spell = cs := by
  induction cs with
  | nil => rfl
  | cons c cs ih => exact congrArg (List.cons c) ih

/-- A text is read from its bytes. -/
theorem parseBytes_encode (cs : List Char) : parseBytes (Utf8.encode cs) = read cs := by
  rw [parseBytes, Utf8.decodeUnits_encode, flatMap_spell_map_some]

theorem Text.toString?_eq_none_iff {t : Text} : t.toString? = none ↔ none ∈ t := by
  induction t with
  | nil => simp [toString?]
  | cons scalar t ih =>
      cases scalar with
      | none => simp [toString?]
      | some c => cases h : t.mapM id <;> simp_all [toString?]

/-! ## Strings that are no text -/

/-- The scalars that are read of a spelled one. -/
def spelled : Option Char → Text
  | some c => [some c]
  | none => [some '?', none, some '?']

/-- A character that stands for itself inside a string. -/
def IsPlain (c : Char) : Prop :=
  c ≠ '"' ∧ c ≠ '\\' ∧ 0x20 ≤ c.toNat

/-- Each unit is read as it was spelled. -/
theorem readString_spell {unit : Option Char} (h : ∀ c, unit = some c → IsPlain c) {fuel : Nat}
    (hfuel : (spelled unit).length ≤ fuel) (rest : List Char) :
    readString fuel (spell unit ++ rest) =
      (readString (fuel - (spelled unit).length) rest).map
        fun (t, rest) => (spelled unit ++ t, rest) := by
  obtain ⟨fuel, rfl⟩ := Nat.exists_eq_add_of_le' hfuel
  rw [Nat.add_sub_cancel]
  cases unit with
  | some c =>
      obtain ⟨hquote, hslash, hc⟩ := h c rfl
      exact readString_plain fuel hquote hslash hc rest
  | none =>
      have hunit : unit? ('\\' :: 'u' :: ("D800?".toList ++ rest)) = some (0xD800, '?' :: rest) :=
        rfl
      have hspell : spell none ++ rest = '?' :: '\\' :: 'u' :: ("D800?".toList ++ rest) := rfl
      have hplain (fuel : Nat) :=
        readString_plain fuel (c := '?') (by decide) (by decide) (by decide)
      rw [hspell]
      change readString (fuel + 2 + 1) _ = _
      rw [hplain, readString_unit _ hunit rfl, hplain]
      cases readString fuel rest <;> rfl

/-- A string is read to its end whatever bytes it holds, and is a text only if they all are. -/
theorem readString_flatMap_spell {units : List (Option Char)}
    (h : ∀ c, some c ∈ units → IsPlain c) (rest : List Char) {fuel : Nat}
    (hfuel : (units.flatMap spelled).length < fuel) :
    readString fuel (units.flatMap spell ++ '"' :: rest) = some (units.flatMap spelled, rest) := by
  induction units generalizing fuel with
  | nil =>
      cases fuel with
      | zero => cases hfuel
      | succ fuel => rfl
  | cons unit units ih =>
      have hunit : ∀ c, unit = some c → IsPlain c := fun c hc => h c (hc ▸ List.mem_cons_self)
      have hunits : ∀ c, some c ∈ units → IsPlain c := fun c hc => h c (List.mem_cons_of_mem _ hc)
      rw [List.flatMap_cons, List.length_append] at hfuel
      rw [List.flatMap_cons, List.flatMap_cons, List.append_assoc,
        readString_spell hunit (by omega), ih hunits (by omega)]
      rfl

theorem toString?_flatMap_spelled {units : List (Option Char)} :
    Text.toString? (units.flatMap spelled) = none ↔ none ∈ units := by
  rw [Text.toString?_eq_none_iff, List.mem_flatMap]
  constructor
  · intro h
    obtain ⟨unit, hunit, hnone⟩ := h
    cases unit with
    | none => exact hunit
    | some c => simp [spelled] at hnone
  · intro h
    exact ⟨none, h, by decide⟩

/-- A lone continuation byte stands in an item that is no text. -/
example : parseBytes [0x5B, 0x22, 0x80, 0x22, 0x5D] =
    some (.array [.string [some '?', none, some '?']]) := rfl

end Signpost.Json
