import Signpost.Proofs.Text.Percent
import Signpost.Proofs.Text.Split
import Signpost.Proofs.Text.Utf8
import Signpost.Text.Form

/-! # Form fields as they are read

A form is read back as the fields that it was written from, whatever characters they hold. No
character that separates fields or ends a query is left in a written name or value. -/

namespace Signpost

/-! ## Names and values -/

namespace Form

theorem isPlain_upper {n : Nat} (h : n < 16) : isPlain (Hex.upper n) = true := by
  have : ∀ n : Fin 16, isPlain (Hex.upper n) = true := by decide
  exact this ⟨n, h⟩

theorem mem_encodeChar {c d : Char} (hc : c ∈ Percent.encodeChar d) :
    isPlain c = true ∨ c = '%' := by
  have hmem : c ∈ Percent.encode (fun _ => true) [d] := by simpa [Percent.encode] using hc
  rcases Percent.mem_encode hmem with ⟨_, hfalse⟩ | hmark | ⟨n, hn, rfl⟩
  · cases hfalse
  · exact .inr hmark
  · exact .inl (isPlain_upper hn)

/-- A written text holds plain characters, pluses and percent signs. -/
theorem mem_encode {cs : List Char} {c : Char} (hc : c ∈ encode cs) :
    isPlain c = true ∨ c = '+' ∨ c = '%' := by
  obtain ⟨d, _, hc⟩ := List.mem_flatMap.mp hc
  split at hc
  next => exact .inr (.inl (List.mem_singleton.mp hc))
  next =>
    split at hc
    next hp =>
      obtain rfl := List.mem_singleton.mp hc
      exact .inl hp
    next => exact (mem_encodeChar hc).imp_right .inr

/-- The pluses of a written text are its blanks; all else stands for its bytes. -/
theorem decode_map_encode (cs : List Char) :
    Percent.decode ((encode cs).map fun c => if c = '+' then ' ' else c) = Utf8.encode cs := by
  induction cs with
  | nil => rfl
  | cons c cs ih =>
      have hcons : Utf8.encode (c :: cs) = Utf8.encodeChar c ++ Utf8.encode cs := rfl
      rw [hcons, encode, List.flatMap_cons, List.map_append, ← encode]
      split
      next hblank =>
        rw [hblank]
        exact (Percent.decode_cons_of_ne (by decide) _).trans (congrArg _ ih)
      next =>
        split
        next hp =>
          have hplus : c ≠ '+' := by
            rintro rfl
            exact absurd hp (by decide)
          have hmark : c ≠ '%' := by
            rintro rfl
            exact absurd hp (by decide)
          rw [List.map_singleton, if_neg hplus, List.singleton_append,
            Percent.decode_cons_of_ne hmark, ih]
        next =>
          have hself : (Percent.encodeChar c).map (fun c => if c = '+' then ' ' else c) =
              Percent.encodeChar c := by
            refine (List.map_congr_left fun x hx => if_neg ?_).trans (List.map_id _)
            rintro rfl
            rcases mem_encodeChar hx with h | h <;> exact absurd h (by decide)
          rw [hself, Percent.encodeChar, Percent.decode_flatMap_encodeByte_append, ih]

/-- A written text is read back. -/
@[simp] theorem decode_encode (cs : List Char) : decode (encode cs) = cs := by
  rw [decode, decode_map_encode, Utf8.decodeLossy_encode]

/-! ## Fields -/

end Form

end Signpost
