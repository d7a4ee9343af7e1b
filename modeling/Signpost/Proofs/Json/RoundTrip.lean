import Signpost.Json.Printer
import Signpost.Json.Reader
import Signpost.Proofs.Text.Digits

/-! # Reading what was written

A value that was written is read from the front of a text, whatever follows it, as long as that does
not continue a number. -/

namespace Signpost.Json

/-! ## Strings -/

/-- How a character is written inside a string. -/
inductive RenderedChar (c : Char) : List Char → Prop where
  | short {letter : Char} (hu : letter ≠ 'u') (he : shortEscape? letter = some c) :
      RenderedChar c ['\\', letter]
  | unit (h : c.toNat < 0x20) : RenderedChar c (renderUnit c.toNat)
  | plain (hquote : c ≠ '"') (hslash : c ≠ '\\') (h : 0x20 ≤ c.toNat) : RenderedChar c [c]

theorem exists_renderedChar (c : Char) : ∃ cs, renderChar c = cs ∧ RenderedChar c cs := by
  refine ⟨_, rfl, ?_⟩
  unfold renderChar
  split
  next h =>
    subst h
    exact .short (by decide) rfl
  next hquote =>
  split
  next h =>
    subst h
    exact .short (by decide) rfl
  next hslash =>
  split
  next h =>
    subst h
    exact .short (by decide) rfl
  split
  next h =>
    subst h
    exact .short (by decide) rfl
  split
  next h =>
    subst h
    exact .short (by decide) rfl
  split
  next h =>
    subst h
    exact .short (by decide) rfl
  split
  next h =>
    subst h
    exact .short (by decide) rfl
  split
  next h => exact .unit h
  next h => exact .plain hquote hslash (by omega)

theorem unit?_renderUnit {n : Nat} (h : n < 0x10000) (rest : List Char) :
    unit? (renderUnit n ++ rest) = some (n, rest) := by
  have hdigit (m : Nat) : Hex.value? (Hex.lower (m % 16)) = some (m % 16) :=
    Hex.value?_lower (Nat.mod_lt m (by decide))
  simp only [renderUnit, List.cons_append, List.nil_append, unit?, hex4?, hdigit]
  simp
  omega

/-- The text of a string is not continued by half of a surrogate pair. -/
theorem not_isLowSurrogate_of_unit? {t : Text} {rest rest' : List Char} {n : Nat}
    (h : unit? (t.flatMap renderScalar ++ '"' :: rest) = some (n, rest')) :
    isLowSurrogate n = false := by
  cases t with
  | nil => cases h
  | cons scalar t =>
      rw [List.flatMap_cons, List.append_assoc] at h
      cases scalar with
      | none =>
          rw [renderScalar, unit?_renderUnit (by decide)] at h
          cases h
          rfl
      | some c =>
          obtain ⟨cs, hcs, hc⟩ := exists_renderedChar c
          rw [renderScalar, hcs] at h
          cases hc with
          | short hu he =>
              unfold unit? at h
              split at h
              next heq => exact absurd (List.cons.inj (List.cons.inj heq).2).1 hu
              next => cases h
          | unit hc =>
              rw [unit?_renderUnit (by omega)] at h
              cases h
              simp [isLowSurrogate]
              omega
          | plain hquote hslash hc =>
              unfold unit? at h
              split at h
              next heq => exact absurd (List.cons.inj heq).1 hslash
              next => cases h

theorem readString_unit {cs rest : List Char} {n : Nat} (fuel : Nat)
    (hunit : unit? ('\\' :: 'u' :: cs) = some (n, rest))
    (hpair :
      (if isHighSurrogate n then (unit? rest).filter (isLowSurrogate ·.1) else none) = none) :
    readString (fuel + 1) ('\\' :: 'u' :: cs) = (readString fuel rest).map fun (t, rest) =>
      ((if isHighSurrogate n || isLowSurrogate n then none else some (Char.ofNat n)) :: t,
        rest) := by
  rw [readString]
  simp only [hunit, hpair]
  cases readString fuel rest <;> rfl

theorem readString_short {letter c : Char} (fuel : Nat) (hu : letter ≠ 'u')
    (he : shortEscape? letter = some c) (cs : List Char) :
    readString (fuel + 1) ('\\' :: letter :: cs) =
      (readString fuel cs).map fun (t, rest) => (some c :: t, rest) := by
  rw [readString]
  · simp only [he]
    cases readString fuel cs <;> rfl
  · exact hu

theorem readString_plain {c : Char} (fuel : Nat) (hquote : c ≠ '"') (hslash : c ≠ '\\')
    (hc : 0x20 ≤ c.toNat) (cs : List Char) :
    readString (fuel + 1) (c :: cs) =
      (readString fuel cs).map fun (t, rest) => (some c :: t, rest) := by
  rw [readString]
  · have hescaped : (c.toNat < 0x20 || c == '\\') = false := by
      simp [hslash]
      omega
    simp only [hescaped]
    cases readString fuel cs <;> rfl
  · exact hquote
  · exact fun _ h _ => hslash h
  · exact fun _ _ h _ => hslash h

/-- A scalar of a string is read as it was written. -/
theorem readString_renderScalar (scalar : Option Char) (t : Text) (rest : List Char) (fuel : Nat) :
    readString (fuel + 1) (renderScalar scalar ++ (t.flatMap renderScalar ++ '"' :: rest)) =
      (readString fuel (t.flatMap renderScalar ++ '"' :: rest)).map
        fun (t, rest) => (scalar :: t, rest) := by
  cases scalar with
  | none =>
      refine readString_unit fuel (unit?_renderUnit (by decide) _) ?_
      have hlow : (unit? (t.flatMap renderScalar ++ '"' :: rest)).filter (isLowSurrogate ·.1) =
          none := by
        refine Option.filter_eq_none_iff.mpr fun unit h => ?_
        simp [not_isLowSurrogate_of_unit? h]
      rw [hlow]
      rfl
  | some c =>
      generalize t.flatMap renderScalar ++ '"' :: rest = back
      obtain ⟨cs, hcs, hc⟩ := exists_renderedChar c
      rw [renderScalar, hcs]
      cases hc with
      | short hu he => exact readString_short fuel hu he back
      | unit hc =>
          have hhigh : isHighSurrogate c.toNat = false := by
            simp [isHighSurrogate]
            omega
          have hlow : isLowSurrogate c.toNat = false := by
            simp [isLowSurrogate]
            omega
          have hunit := unit?_renderUnit (Nat.lt_trans hc (by decide)) back
          have hread := readString_unit fuel hunit (by rw [hhigh]; rfl)
          rw [hhigh, hlow, Char.ofNat_toNat] at hread
          exact hread
      | plain hquote hslash hc => exact readString_plain fuel hquote hslash hc back

theorem readString_flatMap (t : Text) (rest : List Char) {fuel : Nat} (h : t.length < fuel) :
    readString fuel (t.flatMap renderScalar ++ '"' :: rest) = some (t, rest) := by
  induction t generalizing fuel with
  | nil =>
      cases fuel with
      | zero => cases h
      | succ fuel => rfl
  | cons scalar t ih =>
      cases fuel with
      | zero => cases h
      | succ fuel =>
          rw [List.flatMap_cons, List.append_assoc, readString_renderScalar,
            ih (Nat.lt_of_succ_lt_succ h)]
          rfl

theorem length_le_flatMap (t : Text) : t.length ≤ (t.flatMap renderScalar).length := by
  have hscalar (scalar : Option Char) : 1 ≤ (renderScalar scalar).length := by
    cases scalar with
    | none => decide
    | some c =>
        obtain ⟨cs, hcs, hc⟩ := exists_renderedChar c
        rw [renderScalar, hcs]
        cases hc <;> simp [renderUnit]
  induction t with
  | nil => exact Nat.le_refl 0
  | cons scalar t ih =>
      have hs := hscalar scalar
      rw [List.flatMap_cons, List.length_append, List.length_cons]
      omega

/-- A string is read up to its closing quote. -/
theorem readString_render (t : Text) (rest : List Char) :
    readString ((t.flatMap renderScalar ++ '"' :: rest).length + 1)
      (t.flatMap renderScalar ++ '"' :: rest) = some (t, rest) := by
  have hlength := length_le_flatMap t
  refine readString_flatMap t rest ?_
  rw [List.length_append]
  omega

/-! ## Numbers -/

/-- The text of a number does not go on. -/
def Number.Ends (rest : List Char) : Prop :=
  ∀ c, rest.head? = some c → c.isDigit = false ∧ c ≠ '.' ∧ c ≠ 'e' ∧ c ≠ 'E'

/-- A fraction has digits. -/
def Number.Written (n : Number) : Prop :=
  ∀ digits, n.fraction = some digits → digits ≠ [] ∧ ∀ c ∈ digits, c.isDigit = true

theorem readDigits_append {digits rest : List Char} (hne : digits ≠ [])
    (hall : ∀ c ∈ digits, c.isDigit = true) (hrest : ∀ c, rest.head? = some c → c.isDigit = false) :
    readDigits (digits ++ rest) = some (digits, rest) := by
  have htake : rest.takeWhile Char.isDigit = [] := by
    cases rest with
    | nil => rfl
    | cons c rest => exact List.takeWhile_cons_of_neg (by simp [hrest c rfl])
  have hdrop : rest.dropWhile Char.isDigit = rest := by
    cases rest with
    | nil => rfl
    | cons c rest => exact List.dropWhile_cons_of_neg (by simp [hrest c rfl])
  simp only [readDigits, List.takeWhile_append_of_pos hall, List.dropWhile_append_of_pos hall,
    htake, hdrop, List.append_nil, List.isEmpty_eq_false_iff.mpr hne]
  rfl

theorem readDigits_render (n : Nat) {rest : List Char}
    (hrest : ∀ c, rest.head? = some c → c.isDigit = false) :
    readDigits (Decimal.render n ++ rest) = some (Decimal.render n, rest) :=
  readDigits_append (Decimal.render_ne_nil n) (fun _ => Decimal.isDigit_of_mem_render) hrest

@[simp] theorem ofDigitChars_render (n : Nat) : Nat.ofDigitChars 10 (Decimal.render n) 0 = n :=
  Nat.ofDigitChars_toDigits (by decide) (by decide)

theorem readWhole_render (n : Nat) {rest : List Char}
    (hrest : ∀ c, rest.head? = some c → c.isDigit = false) :
    readWhole (Decimal.render n ++ rest) = some (n, rest) := by
  rcases Nat.eq_zero_or_pos n with rfl | hn
  · rfl
  · unfold readWhole
    split
    next back heq =>
      obtain ⟨c, cs, hcs⟩ := List.exists_cons_of_ne_nil (Decimal.render_ne_nil n)
      have hhead := Decimal.head?_render_ne_zero hn
      rw [hcs] at heq hhead
      exact absurd (congrArg List.head? heq) hhead
    next =>
      rw [readDigits_render n hrest]
      exact congrArg (fun m => some (m, rest)) (ofDigitChars_render n)

theorem readFraction_render (f : Option (List Char))
    (hf : ∀ digits, f = some digits → digits ≠ [] ∧ ∀ c ∈ digits, c.isDigit = true)
    {rest : List Char} (hrest : ∀ c, rest.head? = some c → c.isDigit = false ∧ c ≠ '.') :
    readFraction ((f.map ('.' :: ·)).getD [] ++ rest) = some (f, rest) := by
  cases f with
  | none =>
      change readFraction rest = _
      unfold readFraction
      split
      next back => exact absurd rfl (hrest '.' rfl).2
      next => rfl
  | some digits =>
      change (readDigits (digits ++ rest)).map _ = _
      rw [readDigits_append (hf digits rfl).1 (hf digits rfl).2 fun c hc => (hrest c hc).1]
      rfl

theorem readSign_render (e : Int) (rest : List Char) :
    readSign ((if e < 0 then ['-'] else []) ++ (Decimal.render e.natAbs ++ rest)) =
      (decide (e < 0), Decimal.render e.natAbs ++ rest) := by
  by_cases he : e < 0
  · simp only [he, if_true, decide_true]
    rfl
  · simp only [he, if_false, decide_false, List.nil_append]
    unfold readSign
    split
    next back heq => cases Decimal.isDigit_of_render_append heq
    next back heq => cases Decimal.isDigit_of_render_append heq
    next => rfl

theorem readExponent_render (e : Option Int) {rest : List Char} (hrest : Number.Ends rest) :
    readExponent ((e.map renderExponent).getD [] ++ rest) = some (e, rest) := by
  cases e with
  | none =>
      change readExponent rest = _
      cases rest with
      | nil => rfl
      | cons c rest =>
          obtain ⟨-, -, he, hE⟩ := hrest c rfl
          simp [readExponent, he, hE]
  | some e =>
      have htext : ((some e).map renderExponent).getD [] ++ rest =
          'e' :: ((if e < 0 then ['-'] else []) ++ (Decimal.render e.natAbs ++ rest)) := by
        simp [renderExponent]
      rw [htext]
      have hvalue : (if decide (e < 0) then -(e.natAbs : Int) else (e.natAbs : Int)) = e := by
        by_cases h : e < 0
        · rw [if_pos (by simpa using h), Int.ofNat_natAbs_of_nonpos (by omega), Int.neg_neg]
        · rw [if_neg (by simpa using h), Int.natAbs_of_nonneg (by omega)]
      simp only [readExponent, readSign_render, readDigits_render _ fun c hc => (hrest c hc).1]
      simp only [ofDigitChars_render, Option.map_some, hvalue]
      rfl

theorem readNumber_eq {whole : Nat} {fraction : Option (List Char)} {exponent : Option Int}
    {front back₁ back₂ back : List Char} (negative : Bool)
    (hfront : ∀ cs, front ≠ '-' :: cs) (hwhole : readWhole front = some (whole, back₁))
    (hfraction : readFraction back₁ = some (fraction, back₂))
    (hexponent : readExponent back₂ = some (exponent, back)) :
    readNumber ((if negative then ['-'] else []) ++ front) =
      some (⟨negative, whole, fraction, exponent⟩, back) := by
  unfold readNumber
  cases negative with
  | true => simp [hwhole, hfraction, hexponent]
  | false => simp [hwhole, hfraction, hexponent]

/-- A number is read as it was written. -/
theorem readNumber_render {n : Number} (hn : n.Written) {rest : List Char}
    (hrest : Number.Ends rest) : readNumber (n.render ++ rest) = some (n, rest) := by
  obtain ⟨negative, whole, fraction, exponent⟩ := n
  have hexponent := readExponent_render exponent hrest
  have hback : ∀ c, ((exponent.map renderExponent).getD [] ++ rest).head? = some c →
      c.isDigit = false ∧ c ≠ '.' := by
    intro c hc
    cases exponent with
    | none => exact ⟨(hrest c hc).1, (hrest c hc).2.1⟩
    | some e =>
        obtain rfl := Option.some.inj hc
        decide
  have hfraction := readFraction_render fraction hn hback
  have hfront : ∀ c, ((fraction.map ('.' :: ·)).getD [] ++
      ((exponent.map renderExponent).getD [] ++ rest)).head? = some c → c.isDigit = false := by
    intro c hc
    cases fraction with
    | none => exact (hback c hc).1
    | some digits =>
        obtain rfl := Option.some.inj hc
        decide
  have hread := readNumber_eq negative (fun cs h => by cases Decimal.isDigit_of_render_append h)
    (readWhole_render whole hfront) hfraction hexponent
  simpa [Number.render] using hread

/-! ## Values -/

/-- Every number of a value has digits behind its point. -/
inductive Value.Written : Value → Prop where
  | null : Written .null
  | bool (b : Bool) : Written (.bool b)
  | number {n : Number} (h : n.Written) : Written (.number n)
  | string (t : Text) : Written (.string t)
  | array {items : List Value} (h : ∀ item ∈ items, Written item) : Written (.array items)
  | object {members : List (Text × Value)} (h : ∀ m ∈ members, Written m.2) :
      Written (.object members)

theorem skipBlank_cons {c : Char} (h : isBlank c = false) (cs : List Char) :
    skipBlank (c :: cs) = c :: cs :=
  List.dropWhile_cons_of_neg (by simp [h])

/-- What the text of a number begins with. -/
def Number.Begins (c : Char) : Prop :=
  c = '-' ∨ c.isDigit = true

theorem Number.Begins.isBlank_eq {c : Char} (h : Begins c) : isBlank c = false := by
  rcases h with rfl | h
  · decide
  · have hc := Text.toNat_of_isDigit h
    simp only [isBlank, Bool.or_eq_false_iff, beq_eq_false_iff_ne]
    refine ⟨⟨⟨?_, ?_⟩, ?_⟩, ?_⟩ <;> rintro rfl <;> revert hc <;> decide

theorem Number.exists_render_eq_cons (n : Number) : ∃ c cs, n.render = c :: cs ∧ Begins c := by
  obtain ⟨d, ds, hds⟩ := List.exists_cons_of_ne_nil (Decimal.render_ne_nil n.whole)
  unfold Number.render
  rw [hds]
  cases n.negative with
  | true => exact ⟨_, _, rfl, .inl rfl⟩
  | false => exact ⟨_, _, rfl, .inr (Decimal.isDigit_of_mem_render (hds ▸ List.mem_cons_self))⟩

/-- What the text of a value begins with. -/
theorem Value.exists_render_eq_cons (v : Value) :
    ∃ c cs, v.render = c :: cs ∧ isBlank c = false ∧ c ≠ ']' := by
  cases v with
  | null => exact ⟨_, _, rfl, by decide⟩
  | bool b =>
      cases b with
      | true => exact ⟨_, _, rfl, by decide⟩
      | false => exact ⟨_, _, rfl, by decide⟩
  | number n =>
      obtain ⟨c, cs, hcs, hc⟩ := n.exists_render_eq_cons
      refine ⟨c, cs, hcs, hc.isBlank_eq, ?_⟩
      rintro rfl
      rcases hc with hc | hc <;> cases hc
  | string t => exact ⟨_, _, rfl, by decide⟩
  | array items => exact ⟨_, _, rfl, by decide⟩
  | object members => exact ⟨_, _, rfl, by decide⟩

theorem readValue_of_begins {c : Char} (hc : Number.Begins c) (fuel : Nat) (cs : List Char) :
    readValue (fuel + 1) (c :: cs) =
      (readNumber (c :: cs)).map fun (n, rest) => (.number n, rest) := by
  rw [readValue, skipBlank_cons hc.isBlank_eq]
  rcases hc with rfl | hc
  · rfl
  · split
    next heq => cases heq; cases hc
    next heq => cases heq; cases hc
    next heq => cases heq; cases hc
    next heq => cases heq; cases hc
    next heq => cases heq; cases hc
    next heq => cases heq; cases hc
    next => rfl

/-- What was written within the fuel is read. -/
structure ReadsBack (fuel : Nat) : Prop where
  value : ∀ {v : Value} {rest : List Char}, v.Written → v.render.length < fuel →
    Number.Ends rest → readValue fuel (v.render ++ rest) = some (v, rest)
  items : ∀ {items : List Value} {rest : List Char}, items ≠ [] → (∀ item ∈ items, item.Written) →
    (renderItems items).length + 1 < fuel →
    readItems fuel (renderItems items ++ ']' :: rest) = some (items, rest)
  members : ∀ {members : List (Text × Value)} {rest : List Char}, members ≠ [] →
    (∀ m ∈ members, m.2.Written) → (renderMembers members).length + 1 < fuel →
    readMembers fuel (renderMembers members ++ '\x7D' :: rest) = some (members, rest)

theorem Number.ends_cons {c : Char} (h : c = ',' ∨ c = ']' ∨ c = '\x7D') (rest : List Char) :
    Number.Ends (c :: rest) := by
  intro d hd
  obtain rfl := Option.some.inj hd
  rcases h with rfl | rfl | rfl <;> decide

theorem renderItems_cons_cons (item next : Value) (items : List Value) :
    renderItems (item :: next :: items) = item.render ++ ',' :: renderItems (next :: items) := by
  rw [renderItems]
  exact List.cons_ne_nil next items

theorem renderMembers_cons_cons (key : Text) (value : Value) (next : Text × Value)
    (members : List (Text × Value)) :
    renderMembers ((key, value) :: next :: members) =
      renderText key ++ ':' :: value.render ++ ',' :: renderMembers (next :: members) := by
  rw [renderMembers]
  exact List.cons_ne_nil next members

theorem exists_renderItems_eq_cons {items : List Value} (h : items ≠ []) :
    ∃ c cs, renderItems items = c :: cs ∧ isBlank c = false ∧ c ≠ ']' := by
  obtain ⟨item, items, rfl⟩ := List.exists_cons_of_ne_nil h
  obtain ⟨c, cs, hcs, hc⟩ := item.exists_render_eq_cons
  cases items with
  | nil => exact ⟨c, cs, hcs, hc⟩
  | cons next items =>
      rw [renderItems_cons_cons, hcs]
      exact ⟨c, _, rfl, hc⟩

theorem exists_renderMembers_eq_cons {members : List (Text × Value)} (h : members ≠ []) :
    ∃ cs, renderMembers members = '"' :: cs := by
  obtain ⟨⟨key, value⟩, members, rfl⟩ := List.exists_cons_of_ne_nil h
  cases members with
  | nil => exact ⟨_, rfl⟩
  | cons next members =>
      rw [renderMembers_cons_cons]
      exact ⟨_, rfl⟩

variable {fuel : Nat}

theorem ReadsBack.readItems_succ (h : ReadsBack fuel) {items : List Value} {rest : List Char}
    (hne : items ≠ []) (hitems : ∀ item ∈ items, item.Written)
    (hfuel : (renderItems items).length + 1 < fuel + 1) :
    readItems (fuel + 1) (renderItems items ++ ']' :: rest) = some (items, rest) := by
  obtain ⟨item, items, rfl⟩ := List.exists_cons_of_ne_nil hne
  obtain ⟨hitem, hitems⟩ := List.forall_mem_cons.mp hitems
  cases items with
  | nil =>
      rw [renderItems] at hfuel ⊢
      rw [readItems, h.value hitem (by omega) (Number.ends_cons (by simp) rest)]
      rfl
  | cons next items =>
      rw [renderItems_cons_cons, List.length_append, List.length_cons] at hfuel
      rw [renderItems_cons_cons, List.append_assoc, List.cons_append, readItems,
        h.value hitem (by omega) (Number.ends_cons (by simp) _)]
      have hread : readItems fuel (renderItems (next :: items) ++ ']' :: rest) =
          some (next :: items, rest) := h.items (by simp) hitems (by omega)
      change (readItems fuel _).bind _ = _
      rw [hread]
      rfl

theorem renderText_append (t : Text) (rest : List Char) :
    renderText t ++ rest = '"' :: (t.flatMap renderScalar ++ '"' :: rest) := by
  simp [renderText]

theorem readMembers_key (key : Text) (back : List Char) :
    readMembers (fuel + 1) (renderText key ++ ':' :: back) = (do
      let (value, rest) ← readValue fuel back
      match skipBlank rest with
      | '\x7D' :: rest => some ([(key, value)], rest)
      | ',' :: rest =>
        let (members, rest) ← readMembers fuel rest
        some ((key, value) :: members, rest)
      | _ => none) := by
  rw [readMembers, renderText_append, skipBlank_cons (by decide)]
  simp only [readString_render]
  rfl

theorem ReadsBack.readMembers_succ (h : ReadsBack fuel) {members : List (Text × Value)}
    {rest : List Char} (hne : members ≠ []) (hmembers : ∀ m ∈ members, m.2.Written)
    (hfuel : (renderMembers members).length + 1 < fuel + 1) :
    readMembers (fuel + 1) (renderMembers members ++ '\x7D' :: rest) = some (members, rest) := by
  obtain ⟨⟨key, value⟩, members, rfl⟩ := List.exists_cons_of_ne_nil hne
  obtain ⟨hvalue, hmembers⟩ := List.forall_mem_cons.mp hmembers
  dsimp only at hvalue
  cases members with
  | nil =>
      rw [renderMembers, List.length_append, List.length_cons] at hfuel
      rw [renderMembers, List.append_assoc, List.cons_append, readMembers_key,
        h.value hvalue (by omega) (Number.ends_cons (by simp) rest)]
      rfl
  | cons next members =>
      have hread : readMembers fuel (renderMembers (next :: members) ++ '\x7D' :: rest) =
          some (next :: members, rest) := by
        refine h.members (by simp) hmembers ?_
        simp only [renderMembers_cons_cons, List.length_append, List.length_cons] at hfuel
        omega
      simp only [renderMembers_cons_cons, List.length_append, List.length_cons] at hfuel
      rw [renderMembers_cons_cons, List.append_assoc, List.append_assoc, List.cons_append,
        readMembers_key, List.cons_append,
        h.value hvalue (by omega) (Number.ends_cons (by simp) _)]
      change (readMembers fuel _).bind _ = _
      rw [hread]
      rfl

theorem readValue_items {c : Char} (hblank : isBlank c = false) (hc : c ≠ ']') (cs : List Char) :
    readValue (fuel + 1) ('[' :: c :: cs) =
      (readItems fuel (c :: cs)).map fun (items, rest) => (.array items, rest) := by
  rw [readValue, skipBlank_cons (by decide)]
  simp only [skipBlank_cons hblank]
  split
  next heq => exact absurd (List.cons.inj heq).1 hc
  next => rfl

theorem readValue_members (cs : List Char) :
    readValue (fuel + 1) ('\x7B' :: '"' :: cs) =
      (readMembers fuel ('"' :: cs)).map fun (members, rest) => (.object members, rest) := by
  rw [readValue, skipBlank_cons (by decide)]
  rfl

theorem ReadsBack.readValue_succ (h : ReadsBack fuel) {v : Value} {rest : List Char}
    (hv : v.Written) (hfuel : v.render.length < fuel + 1) (hrest : Number.Ends rest) :
    readValue (fuel + 1) (v.render ++ rest) = some (v, rest) := by
  cases hv with
  | null => rfl
  | bool b => cases b <;> rfl
  | @number n hn =>
      obtain ⟨c, cs, hcs, hc⟩ := n.exists_render_eq_cons
      have hread := readNumber_render hn hrest
      rw [hcs] at hread
      rw [Value.render, hcs, List.cons_append, readValue_of_begins hc, ← List.cons_append, hread]
      rfl
  | string t =>
      rw [Value.render, renderText_append, readValue, skipBlank_cons (by decide)]
      simp only [readString_render]
      rfl
  | @array items hitems =>
      rw [Value.render, List.length_append, List.length_cons, List.length_singleton] at hfuel
      rw [Value.render, List.append_assoc, List.cons_append, List.singleton_append]
      by_cases hne : items = []
      · rw [hne]
        rfl
      · have hread : readItems fuel (renderItems items ++ ']' :: rest) = some (items, rest) :=
          h.items hne hitems (by omega)
        obtain ⟨c, cs, hcs, hblank, hc⟩ := exists_renderItems_eq_cons hne
        rw [hcs, List.cons_append] at hread ⊢
        rw [readValue_items hblank hc, hread]
        rfl
  | @object members hmembers =>
      rw [Value.render, List.length_append, List.length_cons, List.length_singleton] at hfuel
      rw [Value.render, List.append_assoc, List.cons_append, List.singleton_append]
      by_cases hne : members = []
      · rw [hne]
        rfl
      · have hread : readMembers fuel (renderMembers members ++ '\x7D' :: rest) =
            some (members, rest) := h.members hne hmembers (by omega)
        obtain ⟨cs, hcs⟩ := exists_renderMembers_eq_cons hne
        rw [hcs, List.cons_append] at hread ⊢
        rw [readValue_members, hread]
        rfl

theorem readsBack (fuel : Nat) : ReadsBack fuel := by
  induction fuel with
  | zero =>
      constructor
      case value => intro v rest _ h; cases h
      case items => intro items rest _ _ h; cases h
      case members => intro members rest _ _ h; cases h
  | succ fuel ih =>
      constructor
      case value => exact fun hv hfuel hrest => ih.readValue_succ hv hfuel hrest
      case items => exact fun hne hitems hfuel => ih.readItems_succ hne hitems hfuel
      case members => exact fun hne hmembers hfuel => ih.readMembers_succ hne hmembers hfuel

/-- A value is read from the front of a text as it was written. -/
theorem readFront_render {v : Value} (hv : v.Written) {rest : List Char}
    (hrest : Number.Ends rest) : readFront (v.render ++ rest) = some (v, rest) := by
  refine (readsBack _).value hv ?_ hrest
  rw [List.length_append]
  omega

theorem parse_eq_some_iff {s : String} {v : Value} :
    parse s = some v ↔ ∃ rest, readFront s.toList = some (v, rest) ∧ (skipBlank rest).isEmpty := by
  unfold parse read
  simp only [Option.bind_eq_bind, Option.bind_eq_some_iff]
  constructor
  · rintro ⟨⟨value, rest⟩, hread, h⟩
    dsimp only at h
    split at h
    next hrest =>
      obtain rfl := Option.some.inj h
      exact ⟨rest, hread, hrest⟩
    next => cases h
  · rintro ⟨rest, hread, hrest⟩
    exact ⟨(v, rest), hread, if_pos hrest⟩

/-- The text of a value is read as that value. -/
theorem parse_toString {v : Value} (hv : v.Written) : parse v.toString = some v := by
  have hread : readFront (v.render ++ []) = some (v, []) :=
    readFront_render hv fun c hc => by cases hc
  rw [List.append_nil] at hread
  refine parse_eq_some_iff.mpr ⟨[], ?_, rfl⟩
  rw [Value.toString, String.toList_ofList, hread]

end Signpost.Json
