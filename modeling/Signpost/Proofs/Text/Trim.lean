import Mathlib.Data.List.DropRight
import Signpost.Text.Blank

/-! # Trimmed texts

A trimmed text neither begins nor ends in a character of the class that is trimmed, and what is
trimmed are such characters only. -/

namespace Signpost.Text

variable {p : Char → Bool}

theorem trimEnd_eq_rdropWhile (cs : List Char) : trimEnd p cs = cs.rdropWhile p := rfl

/-- What is trimmed at the end. -/
theorem exists_trimEnd_append (p : Char → Bool) (cs : List Char) :
    ∃ back, cs = trimEnd p cs ++ back ∧ ∀ c ∈ back, p c = true :=
  ⟨cs.rtakeWhile p, List.rdropWhile_append_rtakeWhile.symm, fun _ => List.mem_rtakeWhile_imp⟩

theorem trimEnd_append_of_forall {back : List Char} (h : ∀ c ∈ back, p c = true)
    (cs : List Char) : trimEnd p (cs ++ back) = trimEnd p cs := by
  induction back using List.reverseRecOn with
  | nil => simp
  | append_singleton back c ih =>
      have ih := ih fun x hx => h x (List.mem_append_left _ hx)
      rw [trimEnd_eq_rdropWhile, trimEnd_eq_rdropWhile] at ih ⊢
      rw [← List.append_assoc, List.rdropWhile_concat_pos _ _ _ (h c (by simp)), ih]

/-- A trimmed text does not end in a character of the class. -/
theorem not_of_getLast?_trimEnd (p : Char → Bool) (cs : List Char) (c : Char)
    (hc : (trimEnd p cs).getLast? = some c) : p c = false := by
  have hhead := List.head?_dropWhile_not p cs.reverse
  rw [trimEnd, List.getLast?_reverse] at hc
  simpa [hc] using hhead

/-- What is trimmed at both ends. -/
theorem exists_trim_append (p : Char → Bool) (cs : List Char) :
    ∃ front back, cs = front ++ (trim p cs ++ back) ∧ (∀ c ∈ front, p c = true) ∧
      ∀ c ∈ back, p c = true := by
  obtain ⟨back, hback, hall⟩ := exists_trimEnd_append p (trimStart p cs)
  refine ⟨cs.takeWhile p, back, ?_, fun c hc => List.mem_takeWhile_imp hc, hall⟩
  rw [trim, ← hback]
  exact List.takeWhile_append_dropWhile.symm

theorem not_of_head?_trim (p : Char → Bool) (cs : List Char) (c : Char)
    (hc : (trim p cs).head? = some c) : p c = false := by
  obtain ⟨back, hback, _⟩ := exists_trimEnd_append p (trimStart p cs)
  have hhead := List.head?_dropWhile_not p cs
  have hstart : (cs.dropWhile p).head? = some c := by
    change (trimStart p cs).head? = some c
    rw [hback, List.head?_append]
    exact congrArg (Option.or · back.head?) hc
  simpa [hstart] using hhead

/-- A text that neither begins nor ends in a character of the class, behind such characters. -/
theorem trim_append_of_forall {front cs : List Char} (hf : ∀ c ∈ front, p c = true)
    (hhead : ∀ c, cs.head? = some c → p c = false)
    (hlast : ∀ c, cs.getLast? = some c → p c = false) : trim p (front ++ cs) = cs := by
  have hstart : trimStart p (front ++ cs) = trimStart p cs :=
    List.dropWhile_append_of_pos hf
  rw [trim, hstart, trimStart_eq_self hhead, trimEnd_eq_self hlast]

theorem trim_eq_self {cs : List Char} (h : ∀ c ∈ cs, p c = false) : trim p cs = cs :=
  trim_append_of_forall (List.forall_mem_nil _) (fun c hc => h c (List.mem_of_mem_head? hc))
    fun c hc => h c (List.mem_of_mem_getLast? hc)

/-- Trimming a second time changes nothing. -/
@[simp] theorem trim_trim (p : Char → Bool) (cs : List Char) : trim p (trim p cs) = trim p cs :=
  trim_append_of_forall (List.forall_mem_nil _) (not_of_head?_trim p cs)
    (not_of_getLast?_trimEnd p (trimStart p cs))

end Signpost.Text
