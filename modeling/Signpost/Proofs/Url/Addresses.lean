import Mathlib.Data.List.TakeDrop
import Mathlib.Data.List.TakeWhile
import Signpost.Proofs.Text.Digits
import Signpost.Proofs.Text.Split
import Signpost.Url.Basic
import Signpost.Url.Host

/-! # Addresses as they are written

An address is read back from its text. The four bytes of an IPv4 address are decimal numbers without
leading zeros. Of an IPv6 address the groups are read back between their colons, and those that `::`
stands for are the zeros that it was written for. -/

namespace Signpost.Url

/-! ## Rows of digits -/

theorem value?_digitChar : ∀ d < 16, Hex.value? (Nat.digitChar d) = some d := by
  decide

theorem digits?_concat (base : Nat) (cs : List Char) (c : Char) :
    digits? base (cs ++ [c]) = (digits? base cs).bind fun n => (Hex.value? c).bind fun d =>
      if d < base then some (n * base + d) else none := by
  simp [digits?, List.foldlM_append]

/-- A number is read back from its digits. -/
theorem digits?_toDigits {base : Nat} (hone : 1 < base) (hbase : base ≤ 16) (n : Nat) :
    digits? base (Nat.toDigits base n) = some n := by
  induction n using Nat.strongRecOn with
  | ind n ih =>
      rw [Nat.toDigits_eq_if hone]
      split
      next hlt =>
        have hconcat := digits?_concat base [] n.digitChar
        rw [value?_digitChar n (Nat.lt_of_lt_of_le hlt hbase)] at hconcat
        simpa [digits?, hlt] using hconcat
      next hge =>
        have hmod : n % base < base := Nat.mod_lt n (by omega)
        have hdiv : n / base < n := Nat.div_lt_self (by omega) hone
        rw [digits?_concat, ih _ hdiv, value?_digitChar _ (Nat.lt_of_lt_of_le hmod hbase)]
        simp [hmod, Nat.div_add_mod']

theorem exists_digit_of_mem_toDigits {base n : Nat} (hone : 1 < base) {c : Char}
    (hc : c ∈ Nat.toDigits base n) : ∃ d < base, c = d.digitChar := by
  induction n using Nat.strongRecOn with
  | ind n ih =>
      rw [Nat.toDigits_eq_if hone] at hc
      split at hc
      next hlt => exact ⟨n, hlt, List.mem_singleton.mp hc⟩
      next hge =>
        rcases List.mem_append.mp hc with hc | hc
        · exact ih _ (Nat.div_lt_self (by omega) hone) hc
        · exact ⟨_, Nat.mod_lt n (by omega), List.mem_singleton.mp hc⟩

/-! ## IPv4 -/

/-- A number without a zero at its front is read as a decimal one. -/
@[simp] theorem ipv4Number?_render (n : Nat) : ipv4Number? (Decimal.render n) = some n := by
  have hdecimal : digits? 10 (Decimal.render n) = some n :=
    digits?_toDigits (by decide) (by decide) n
  rcases Nat.eq_zero_or_pos n with rfl | hpos
  · exact hdecimal
  · have hhead := Decimal.head?_render_ne_zero hpos
    have hne := Decimal.render_ne_nil n
    generalize Decimal.render n = cs at hdecimal hhead hne
    unfold ipv4Number?
    split
    next => exact absurd rfl hne
    next => exact absurd rfl hhead
    next => exact absurd rfl hhead
    next => exact absurd rfl hhead
    next => exact hdecimal

@[simp] theorem mapM_ipv4Number? (numbers : List Nat) :
    (numbers.map Decimal.render).mapM ipv4Number? = some numbers := by
  induction numbers with
  | nil => rfl
  | cons n numbers ih => simp [ih]

/-- The labels of a name are what stands between its dots. -/
theorem labels_join {parts : List (List Char)} (hne : parts ≠ [])
    (hdot : ∀ part ∈ parts, ∀ c ∈ part, c ≠ '.') (hempty : ∀ part ∈ parts, part ≠ []) :
    labels (Text.join ['.'] parts) = parts := by
  rw [labels, Text.split_join hne hdot]
  refine if_neg ?_
  cases hlast : parts.getLast? with
  | none => simp
  | some last => simpa using hempty last (List.mem_of_getLast? hlast)

theorem labels_renderNumbers {numbers : List Nat} (hne : numbers ≠ []) :
    labels (Text.join ['.'] (numbers.map Decimal.render)) = numbers.map Decimal.render := by
  refine labels_join (by simpa using hne) ?_ ?_
  · intro part hpart c hc
    obtain ⟨n, _, rfl⟩ := List.mem_map.mp hpart
    rintro rfl
    cases Decimal.isDigit_of_mem_render hc
  · intro part hpart
    obtain ⟨n, _, rfl⟩ := List.mem_map.mp hpart
    exact Decimal.render_ne_nil n

/-- An IPv4 address is read back from its four bytes. -/
@[simp]
theorem ipv4?_renderIpv4 (address : UInt32) : ipv4? (renderIpv4 address) = some address := by
  have hlt := address.toNat_lt
  rw [renderIpv4, ipv4?, labels_renderNumbers (by simp), mapM_ipv4Number?]
  have hbytes : ((address.toNat / 16777216 * 256 + address.toNat / 65536 % 256) * 256 +
      address.toNat / 256 % 256) * 256 + address.toNat % 256 = address.toNat := by omega
  have hsmall : ¬255 < address.toNat / 16777216 := by omega
  have hmiddle (n : Nat) : ¬255 < n % 256 := by omega
  have hlast (n : Nat) : ¬256 ≤ n % 256 := by omega
  simp [hsmall, hmiddle, hlast, hbytes, -UInt32.ofNat_add, -UInt32.ofNat_mul]

@[simp]
theorem endsInNumber_renderIpv4 (address : UInt32) : endsInNumber (renderIpv4 address) = true := by
  rw [renderIpv4, endsInNumber, labels_renderNumbers (by simp)]
  simp

/-! ## The groups of an IPv6 address -/

def groupText (g : UInt16) : List Char :=
  Nat.toDigits 16 g.toNat

theorem renderGroups_eq (groups : List UInt16) :
    renderGroups groups = Text.join [':'] (groups.map groupText) := rfl

theorem groupText_ne_nil (g : UInt16) : groupText g ≠ [] :=
  Nat.toDigits_ne_nil

theorem ne_of_mem_groupText {g : UInt16} {c : Char} (hc : c ∈ groupText g) : c ≠ ':' ∧ c ≠ '.' := by
  have hdigits : ∀ d < 16, Nat.digitChar d ≠ ':' ∧ Nat.digitChar d ≠ '.' := by decide
  obtain ⟨d, hd, rfl⟩ := exists_digit_of_mem_toDigits (by decide) hc
  exact hdigits d hd

@[simp] theorem ipv6Group?_groupText (g : UInt16) : ipv6Group? (groupText g) = some g := by
  have hempty : (groupText g).isEmpty = false := by simpa using groupText_ne_nil g
  have hlength : (groupText g).length ≤ 4 :=
    (Nat.length_toDigits_le_iff (by decide) (by decide)).mpr g.toNat_lt
  have hvalue : digits? 16 (groupText g) = some g.toNat :=
    digits?_toDigits (by decide) (by decide) _
  rw [ipv6Group?, hempty, hvalue, Bool.false_or, if_neg (by simpa using hlength), Option.map_some,
    UInt16.ofNat_toNat]

theorem ipv6Pieces?_groupTexts (atEnd : Bool) (groups : List UInt16) :
    ipv6Pieces? atEnd (groups.map groupText) = some groups := by
  induction groups with
  | nil => rfl
  | cons g groups ih =>
      cases groups with
      | nil =>
          have hdot : '.' ∉ groupText g := fun hc => (ne_of_mem_groupText hc).2 rfl
          simp [ipv6Pieces?, hdot]
      | cons next groups =>
          rw [List.map_cons] at ih ⊢
          rw [List.map_cons, ipv6Pieces?, ipv6Group?_groupText, ih]
          · rfl
          · simp

theorem renderGroups_cons (g next : UInt16) (groups : List UInt16) :
    renderGroups (g :: next :: groups) = groupText g ++ ':' :: renderGroups (next :: groups) := by
  rw [renderGroups_eq, List.map_cons, Text.join_cons _ _ (by simp), List.append_assoc]
  rfl

theorem exists_renderGroups_cons (g : UInt16) (groups : List UInt16) :
    ∃ c cs, renderGroups (g :: groups) = c :: cs ∧ c ≠ ':' := by
  obtain ⟨c, cs, hcs⟩ := List.exists_cons_of_ne_nil (groupText_ne_nil g)
  have hc : c ≠ ':' := (ne_of_mem_groupText (hcs ▸ List.mem_cons_self)).1
  cases groups with
  | nil => exact ⟨c, cs, hcs, hc⟩
  | cons next groups =>
      rw [renderGroups_cons, hcs]
      exact ⟨c, _, rfl, hc⟩

theorem ipv6Groups?_renderGroups (atEnd : Bool) {groups : List UInt16} (hne : groups ≠ []) :
    ipv6Groups? atEnd (renderGroups groups) = some groups := by
  have hcolon : ∀ text ∈ groups.map groupText, ∀ c ∈ text, c ≠ ':' := by
    intro text htext c hc
    obtain ⟨g, _, rfl⟩ := List.mem_map.mp htext
    exact (ne_of_mem_groupText hc).1
  rw [ipv6Groups?, renderGroups_eq, Text.split_join (by simpa using hne) hcolon,
    ipv6Pieces?_groupTexts]

/-- What goes on from the groups on one side of a double colon goes on from those that were written
there, or from none where none were. -/
theorem ipv6Side_renderGroups (atEnd : Bool) (groups : List UInt16)
    (k : List UInt16 → Option Ipv6) :
    (if (renderGroups groups).isEmpty = true then some [] >>= k
      else ipv6Groups? atEnd (renderGroups groups) >>= k) = k groups := by
  cases groups with
  | nil => rfl
  | cons g groups =>
      obtain ⟨c, cs, hcs, -⟩ := exists_renderGroups_cons g groups
      rw [ipv6Groups?_renderGroups atEnd (by simp), hcs]
      rfl

/-! ### Double colons -/

theorem cutDoubleColon_cons_of_ne {c : Char} (hc : c ≠ ':') (cs : List Char) :
    cutDoubleColon (c :: cs) =
      (cutDoubleColon cs).map fun (before, after) => (c :: before, after) := by
  rw [cutDoubleColon.eq_def]
  split
  next heq => exact absurd (List.cons.inj heq).1 hc
  next heq =>
    obtain ⟨rfl, rfl⟩ := List.cons.inj heq
    rfl
  next heq => cases heq

theorem cutDoubleColon_colon {c : Char} (hc : c ≠ ':') (cs : List Char) :
    cutDoubleColon (':' :: c :: cs) =
      (cutDoubleColon (c :: cs)).map fun (before, after) => (':' :: before, after) := by
  rw [cutDoubleColon.eq_def]
  split
  next heq => exact absurd (List.cons.inj (List.cons.inj heq).2).1 hc
  next heq =>
    obtain ⟨rfl, rfl⟩ := List.cons.inj heq
    rfl
  next heq => cases heq

theorem cutDoubleColon_append {front : List Char} (h : ∀ c ∈ front, c ≠ ':') (cs : List Char) :
    cutDoubleColon (front ++ cs) =
      (cutDoubleColon cs).map fun (before, after) => (front ++ before, after) := by
  induction front with
  | nil => simp
  | cons c front ih =>
      rw [List.forall_mem_cons] at h
      rw [List.cons_append, cutDoubleColon_cons_of_ne h.1, ih h.2, Option.map_map]
      rfl

/-- Between groups there is no double colon. -/
theorem cutDoubleColon_renderGroups (groups : List UInt16) (cs : List Char) :
    cutDoubleColon (renderGroups groups ++ cs) =
      (cutDoubleColon cs).map fun (before, after) => (renderGroups groups ++ before, after) := by
  have hcolon (g : UInt16) : ∀ c ∈ groupText g, c ≠ ':' := fun c hc => (ne_of_mem_groupText hc).1
  induction groups with
  | nil => simp [renderGroups, Text.join]
  | cons g groups ih =>
      cases groups with
      | nil => exact cutDoubleColon_append (hcolon g) cs
      | cons next groups =>
          obtain ⟨c, rest, hrest, hc⟩ := exists_renderGroups_cons next groups
          rw [renderGroups_cons, List.append_assoc, cutDoubleColon_append (hcolon g)]
          rw [hrest] at ih ⊢
          rw [List.cons_append, List.cons_append] at *
          rw [cutDoubleColon_colon hc, ih, Option.map_map, Option.map_map]
          congr 1
          funext pair
          simp

/-! ### Runs of zeros -/

/-- Around the longest run of zeros stands the rest of the groups. -/
theorem longestZeroRun_spec (groups : List UInt16) :
    ∃ left right, groups = left ++ List.replicate (longestZeroRun groups).2 0 ++ right ∧
      left.length = (longestZeroRun groups).1 := by
  induction groups with
  | nil => exact ⟨[], [], rfl, rfl⟩
  | cons g groups ih =>
      obtain ⟨left, right, hgroups, hleft⟩ := ih
      rw [longestZeroRun]
      dsimp only
      split
      next =>
        have hzeros : (g :: groups).takeWhile (· == 0) =
            List.replicate (zeroRun (g :: groups)) 0 :=
          List.eq_replicate_iff.mpr ⟨rfl, fun x hx => by simpa using List.mem_takeWhile_imp hx⟩
        refine ⟨[], (g :: groups).dropWhile (· == 0), ?_, rfl⟩
        rw [List.nil_append, ← hzeros, List.takeWhile_append_dropWhile]
      next =>
        refine ⟨g :: left, right, ?_, congrArg (· + 1) hleft⟩
        rw [List.cons_append, List.cons_append, ← hgroups]

/-- An IPv6 address is read back from its text. -/
@[simp] theorem ipv6?_render (address : Ipv6) : ipv6? address.render = some address := by
  obtain ⟨groups, hlength⟩ := address
  obtain ⟨left, right, hgroups, hleft⟩ := longestZeroRun_spec groups
  rw [Ipv6.render]
  dsimp only
  obtain ⟨start, length, hrun⟩ : ∃ start length, longestZeroRun groups = (start, length) :=
    ⟨_, _, rfl⟩
  rw [hrun] at hgroups hleft ⊢
  dsimp only at hgroups hleft ⊢
  split
  next hlong =>
    obtain rfl := hleft
    have htake : groups.take left.length = left := by
      rw [hgroups, List.append_assoc, List.take_left]
    have hdrop : groups.drop (left.length + length) = right := by
      rw [hgroups, List.drop_left' (by simp)]
    have hcut : cutDoubleColon (renderGroups left ++ [':', ':'] ++ renderGroups right) =
        some (renderGroups left, renderGroups right) := by
      rw [List.append_assoc, cutDoubleColon_renderGroups]
      simp [cutDoubleColon]
    have hmissing : 8 - (left.length + right.length) = length := by
      have := congrArg List.length hgroups
      simp only [List.length_append, List.length_replicate] at this
      omega
    rw [htake, hdrop, ipv6?, hcut]
    dsimp only
    rw [ipv6Side_renderGroups, ipv6Side_renderGroups, hmissing, if_neg (by omega), ← hgroups]
    exact dif_pos hlength
  next =>
    have hne : groups ≠ [] := by
      rintro rfl
      cases hlength
    have hcut : cutDoubleColon (renderGroups groups) = none := by
      simpa [cutDoubleColon] using cutDoubleColon_renderGroups groups []
    rw [ipv6?, hcut]
    simp [ipv6Groups?_renderGroups true hne, hlength]

end Signpost.Url
