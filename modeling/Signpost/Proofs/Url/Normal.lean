import Mathlib.Data.List.Basic
import Signpost.Url.Mapping
import Signpost.Url.Normal

/-! # Mapped names in normal form

Text in ASCII without capitals is mapped to itself and is in normal form. No mark changes a blank,
so that a name with one keeps it. -/

namespace Signpost.Url

theorem Mapping.replace_eq_self {c : Char} (hlt : c.toNat < 0x80) (hlower : c.toLower = c) :
    replace c = [c] := by
  rw [replace, if_pos hlt, hlower]

namespace Normal

variable {c base mark whole : Char} {cs : List Char}

/-! ## Characters before the marks -/

theorem markClass_of_lt (hc : c.toNat < 0x300) : markClass c = 0 := by
  simp [markClass, hc]

theorem takeApart_of_lt (hc : c.toNat < 0x80) (depth : Nat) : takeApart depth c = [c] := by
  cases depth <;> simp [takeApart, composite?, hc]

theorem fuse?_of_lt (base : Char) (hmark : mark.toNat < 0x300) : fuse? base mark = none := by
  simp [fuse?, hmark]

theorem bounds_of_fuse? (h : fuse? base mark = some whole) :
    0x20 < base.toNat ∧ 0x300 ≤ mark.toNat := by
  by_contra hbounds
  rw [fuse?, if_pos (by simp only [Bool.or_eq_true, decide_eq_true_eq]; omega)] at h
  cases h

/-! ## Ordering -/

/-- A mark only changes places. -/
theorem sink_perm (c : Char) (cs : List Char) : (sink c cs).Perm (c :: cs) := by
  induction cs with
  | nil => exact .refl _
  | cons d cs ih =>
      unfold sink
      split
      · exact (ih.cons d).trans (.swap c d cs)
      · exact .refl _

theorem order_perm (cs : List Char) : (order cs).Perm cs := by
  induction cs with
  | nil => exact .refl _
  | cons c cs ih => exact (sink_perm c (order cs)).trans (ih.cons c)

theorem order_eq_self (h : ∀ c ∈ cs, markClass c = 0) : order cs = cs := by
  induction cs with
  | nil => rfl
  | cons c cs ih =>
      rw [List.forall_mem_cons] at h
      change sink c (order cs) = c :: cs
      rw [ih h.2]
      cases cs <;> simp [sink, h.1]

/-! ## Putting together -/

theorem fuseFrom_eq_self (h : ∀ c ∈ cs, c.toNat < 0x300) (base : Char) :
    fuseFrom base [] 0 cs = base :: cs := by
  induction cs generalizing base with
  | nil => rfl
  | cons c cs ih =>
      rw [List.forall_mem_cons] at h
      simp [fuseFrom, fuse?_of_lt base h.1, markClass_of_lt h.1, ih h.2]

theorem fuse_eq_self (h : ∀ c ∈ cs, c.toNat < 0x300) : fuse cs = cs := by
  cases cs with
  | nil => rfl
  | cons c cs =>
      rw [List.forall_mem_cons] at h
      simp [fuse, markClass_of_lt h.1, fuseFrom_eq_self h.2]

section Blank

variable (hc : c.toNat ≤ 0x20)

include hc

/-- A blank is neither the base nor the mark of a composite. -/
theorem mem_fuseFrom_of_blank (base : Char) (marks : List Char) (last : Nat)
    (hmem : c ∈ base :: marks ++ cs) : c ∈ fuseFrom base marks last cs := by
  induction cs generalizing base marks last with
  | nil => simpa [fuseFrom] using hmem
  | cons d cs ih =>
      unfold fuseFrom
      split
      next whole hwhole =>
        have hfuse : fuse? base d = some whole := by
          split at hwhole
          · exact hwhole
          · cases hwhole
        obtain ⟨hbase, hmark⟩ := bounds_of_fuse? hfuse
        have hneBase : c ≠ base := by
          rintro rfl
          omega
        have hneMark : c ≠ d := by
          rintro rfl
          omega
        apply ih
        simp only [List.cons_append, List.mem_cons, List.mem_append, hneBase, hneMark, false_or]
          at hmem ⊢
        exact .inr hmem
      next =>
        split
        · simp only [List.cons_append, List.mem_cons, List.mem_append] at hmem ⊢
          rcases hmem with hmem | hmem | hmem
          · exact .inl hmem
          · exact .inr (.inl hmem)
          · exact .inr (.inr (ih _ _ _ (by simpa using hmem)))
        · apply ih
          simpa [or_assoc] using hmem

theorem mem_fuse_of_blank (hmem : c ∈ cs) : c ∈ fuse cs := by
  induction cs with
  | nil => cases hmem
  | cons d cs ih =>
      unfold fuse
      split
      · exact mem_fuseFrom_of_blank hc d [] 0 hmem
      · exact List.mem_cons.mpr ((List.mem_cons.mp hmem).imp_right ih)

/-- A blank stays in a text that is brought into normal form. -/
theorem mem_normalize_of_blank (hmem : c ∈ cs) : c ∈ normalize cs := by
  apply mem_fuse_of_blank hc
  rw [(order_perm _).mem_iff]
  refine List.mem_flatMap.mpr ⟨c, hmem, ?_⟩
  rw [takeApart_of_lt (by omega)]
  exact List.mem_singleton_self c

end Blank

/-- Text in ASCII is in normal form. -/
theorem normalize_eq_self (h : ∀ c ∈ cs, c.toNat < 0x80) : normalize cs = cs := by
  have hbefore : ∀ c ∈ cs, c.toNat < 0x300 := fun c hc => Nat.lt_trans (h c hc) (by decide)
  have happart : cs.flatMap (takeApart 2) = cs := by
    rw [List.flatMap_congr fun c hc => takeApart_of_lt (h c hc) 2]
    exact List.flatMap_singleton' cs
  rw [normalize, happart, order_eq_self fun c hc => markClass_of_lt (hbefore c hc),
    fuse_eq_self hbefore]

end Normal

end Signpost.Url
