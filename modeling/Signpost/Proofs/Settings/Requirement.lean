import Signpost.Proofs.Text.Trim
import Signpost.Settings.Variables

/-! # Requirements of variables

What settings require of variables, and computations that look at requirements in order and fail
with the first one that is not met. A variable that is read fails exactly if its value is not one of
its type. -/

namespace Signpost.Settings

/-! ## Requirements -/

/-- The type of a value that a variable holds. -/
inductive ValueType where
  | natural (bound : Nat)
  | bool
  | backoff

/-- What a value of a type is written as. -/
def ValueType.Holds : ValueType → List Char → Prop
  | .natural bound, cs => ∃ digits, (cs = digits ∨ cs = '+' :: digits) ∧ digits ≠ [] ∧
      (∀ c ∈ digits, c.isDigit = true) ∧ Nat.ofDigitChars 10 digits 0 < bound
  | .bool, cs => cs = "true".toList ∨ cs = "false".toList
  | .backoff, cs => ∃ b : Retry.Backoff, cs.map Char.toLower = b.name.toList

/-- What settings require of variables: one is there, one has a value of a type if it is there, or
one is there unless there is a token. -/
inductive Requirement where
  | present (name : String)
  | typed (name : String) (type : ValueType)
  | credential (name : String) (fault : VariableFault)

namespace Requirement

def name : Requirement → String
  | present name => name
  | typed name _ => name
  | credential name _ => name

def Met (lookup : Lookup) : Requirement → Prop
  | present name => (lookup name).isSome
  | typed name type => ∀ raw, lookup name = some raw →
      type.Holds (Text.trim Text.isBlank raw.toList)
  | credential name _ => (lookup Variable.token).isSome ∨ (lookup name).isSome

/-- What is reported of a requirement that is not met. -/
def fault (lookup : Lookup) : Requirement → VariableFault
  | present name => .missing name
  | typed name _ => .invalid name ((lookup name).getD "")
  | credential _ fault => fault

end Requirement

def directoryVariables : List (String × ValueType) :=
  [ (Variable.ttl, .natural UInt64.size), (Variable.cleanup, .natural UInt64.size),
    (Variable.attempts, .natural UInt32.size), (Variable.delay, .natural UInt64.size),
    (Variable.maxDelay, .natural UInt64.size), (Variable.backoff, .backoff),
    (Variable.timeout, .natural UInt64.size), (Variable.singleFlight, .bool) ]

def serverVariables : List (String × ValueType) :=
  [(Variable.port, .natural UInt16.size)]

/-- The variables of a client, and what is reported if there is neither one of them nor a token. -/
def clientVariables : List (String × VariableFault) :=
  [ (Variable.tokenUrl, .missingCredentials),
    (Variable.clientId, .missing Variable.clientId),
    (Variable.clientSecret, .missing Variable.clientSecret) ]

def directoryRequirements : List Requirement :=
  .present Variable.url :: directoryVariables.map fun (name, type) => .typed name type

def credentialRequirements : List Requirement :=
  clientVariables.map fun (name, fault) => .credential name fault

def serverRequirements : List Requirement :=
  serverVariables.map fun (name, type) => .typed name type

/-- The requirements in the order in which they are looked at. -/
def readingOrder : List Requirement :=
  directoryRequirements ++ (credentialRequirements ++ serverRequirements)

/-- A requirement that is not met, behind others that are. -/
def FirstUnmet (lookup : Lookup) (rs : List Requirement) (r : Requirement) : Prop :=
  ∃ before later, rs = before ++ r :: later ∧ (∀ q ∈ before, q.Met lookup) ∧ ¬r.Met lookup

/-! ## Reading in order -/

/-- A computation that succeeds if requirements are met and otherwise fails with the first one that
is not. -/
inductive Follows {α : Type} (lookup : Lookup) :
    List Requirement → Except VariableFault α → Prop where
  | met {rs a} (h : ∀ r ∈ rs, r.Met lookup) : Follows lookup rs (.ok a)
  | unmet {rs r} (h : FirstUnmet lookup rs r) : Follows lookup rs (.error (r.fault lookup))

variable {lookup : Lookup} {rs rs' : List Requirement} {α β : Type}

theorem FirstUnmet.append_right {r : Requirement} (h : FirstUnmet lookup rs r)
    (rs' : List Requirement) : FirstUnmet lookup (rs ++ rs') r := by
  obtain ⟨before, later, rfl, hb, hr⟩ := h
  exact ⟨before, later ++ rs', by simp, hb, hr⟩

theorem FirstUnmet.append_left {r : Requirement} (h : FirstUnmet lookup rs' r)
    (hrs : ∀ q ∈ rs, q.Met lookup) : FirstUnmet lookup (rs ++ rs') r := by
  obtain ⟨before, later, rfl, hb, hr⟩ := h
  refine ⟨rs ++ before, later, by simp, ?_, hr⟩
  intro q hq
  rcases List.mem_append.mp hq with hq | hq
  · exact hrs q hq
  · exact hb q hq

/-- There is only one first requirement that is not met. -/
theorem FirstUnmet.unique {r r' : Requirement} (h : FirstUnmet lookup rs r)
    (h' : FirstUnmet lookup rs r') : r = r' := by
  obtain ⟨before, later, rfl, hb, hr⟩ := h
  obtain ⟨before', later', he, hb', hr'⟩ := h'
  rcases List.append_eq_append_iff.mp he with ⟨gap, rfl, hgap⟩ | ⟨gap, rfl, hgap⟩
  · cases gap with
    | nil => exact (List.cons.inj hgap).1
    | cons q gap =>
        obtain rfl := (List.cons.inj hgap).1
        exact absurd (hb' r (by simp)) hr
  · cases gap with
    | nil => exact (List.cons.inj hgap).1.symm
    | cons q gap =>
        obtain rfl := (List.cons.inj hgap).1
        exact absurd (hb r' (by simp)) hr'

theorem Follows.bind {x : Except VariableFault α} {f : α → Except VariableFault β}
    (hx : Follows lookup rs x) (hf : ∀ a, Follows lookup rs' (f a)) :
    Follows lookup (rs ++ rs') (x >>= f) := by
  cases hx with
  | unmet h => exact .unmet (h.append_right rs')
  | @met a h =>
      change Follows lookup (rs ++ rs') (f a)
      generalize f a = y, hf a = hy
      cases hy with
      | met h' => exact .met (List.forall_mem_append.mpr ⟨h, h'⟩)
      | unmet h' => exact .unmet (h'.append_left h)

theorem Follows.bind_cons {r : Requirement} {x : Except VariableFault α}
    {f : α → Except VariableFault β} (hx : Follows lookup [r] x)
    (hf : ∀ a, Follows lookup rs (f a)) : Follows lookup (r :: rs) (x >>= f) :=
  hx.bind hf

theorem Follows.exists_ok_iff {x : Except VariableFault α} (hx : Follows lookup rs x) :
    (∃ a, x = .ok a) ↔ ∀ r ∈ rs, r.Met lookup := by
  cases hx with
  | met h => exact iff_of_true ⟨_, rfl⟩ h
  | unmet h =>
      obtain ⟨before, later, rfl, -, hr⟩ := h
      exact iff_of_false (by simp) fun hall => hr (hall _ (by simp))

theorem Follows.eq_error_iff {x : Except VariableFault α} (hx : Follows lookup rs x)
    {fault : VariableFault} :
    x = .error fault ↔ ∃ r, FirstUnmet lookup rs r ∧ fault = r.fault lookup := by
  cases hx with
  | met h =>
      refine iff_of_false (by simp) ?_
      rintro ⟨r, ⟨before, later, rfl, -, hr⟩, -⟩
      exact hr (h r (by simp))
  | @unmet r h =>
      constructor
      · intro he
        exact ⟨r, h, (Except.error.inj he).symm⟩
      · rintro ⟨r', h', rfl⟩
        rw [h.unique h']

/-! ## Single variables -/

theorem follows_required (lookup : Lookup) (name : String) :
    Follows lookup [.present name] (required lookup name (.missing name)) := by
  unfold required
  cases h : lookup name with
  | some raw => exact .met (by simp [Requirement.Met, h])
  | none => exact .unmet ⟨[], [], rfl, by simp, by simp [Requirement.Met, h]⟩

theorem follows_credential (ht : lookup Variable.token = none) (name : String)
    (fault : VariableFault) :
    Follows lookup [.credential name fault] (required lookup name fault) := by
  unfold required
  cases h : lookup name with
  | some raw => exact .met (by simp [Requirement.Met, h])
  | none => exact .unmet ⟨[], [], rfl, by simp, by simp [Requirement.Met, h, ht]⟩

/-- A variable that is there must be read, without the blanks around its value. -/
theorem follows_readOr {type : ValueType} {read? : List Char → Option α}
    (hread : ∀ cs, (read? (Text.trim Text.isBlank cs)).isSome ↔
      type.Holds (Text.trim Text.isBlank cs)) (lookup : Lookup) (name : String) (default : α) :
    Follows lookup [.typed name type] (readOr lookup name read? default) := by
  unfold readOr
  cases h : lookup name with
  | none => exact .met (by simp [Requirement.Met, h])
  | some raw =>
      have hraw := hread raw.toList
      cases ha : read? (Text.trim Text.isBlank raw.toList) with
      | some a =>
          simp only [ha]
          refine .met ?_
          simpa [Requirement.Met, h, ha] using hraw
      | none =>
          have hfault : VariableFault.invalid name raw =
              (Requirement.typed name type).fault lookup := by simp [Requirement.fault, h]
          simp only [ha, hfault]
          refine .unmet ⟨[], [], rfl, by simp, ?_⟩
          simpa [Requirement.Met, h, ha] using hraw

/-! ## Values of types -/

theorem read?_eq_some_iff {cs : List Char} {n : Nat} :
    Decimal.read? cs = some n ↔
      cs ≠ [] ∧ (∀ c ∈ cs, c.isDigit = true) ∧ Nat.ofDigitChars 10 cs 0 = n := by
  simp [Decimal.read?, and_assoc]

/-- A number is written in digits, perhaps behind a plus sign. -/
theorem natural?_eq_some_iff {bound n : Nat} {cs : List Char} :
    natural? bound cs = some n ↔
      ∃ digits, (cs = digits ∨ cs = '+' :: digits) ∧ Decimal.read? digits = some n ∧ n < bound := by
  unfold natural?
  constructor
  · intro h
    obtain ⟨hread, hlt⟩ := Option.filter_eq_some_iff.mp h
    split at hread
    next rest => exact ⟨rest, .inr rfl, hread, by simpa using hlt⟩
    next => exact ⟨cs, .inl rfl, hread, by simpa using hlt⟩
  · rintro ⟨digits, rfl | rfl, hread, hlt⟩
    · split
      next rest =>
        -- a row of digits does not begin with a plus sign
        have hplus := (read?_eq_some_iff.mp hread).2.1 '+' (by simp)
        cases hplus
      next => simp [hread, hlt]
    · simp [hread, hlt]

theorem natural?_isSome_iff {bound : Nat} {cs : List Char} :
    (natural? bound cs).isSome ↔ (ValueType.natural bound).Holds cs := by
  simp only [Option.isSome_iff_exists, natural?_eq_some_iff, read?_eq_some_iff, ValueType.Holds]
  constructor
  · rintro ⟨n, digits, hcs, ⟨hne, hall, rfl⟩, hlt⟩
    exact ⟨digits, hcs, hne, hall, hlt⟩
  · rintro ⟨digits, hcs, hne, hall, hlt⟩
    exact ⟨_, digits, hcs, ⟨hne, hall, rfl⟩, hlt⟩

theorem bool?_isSome_iff {cs : List Char} : (bool? cs).isSome ↔ ValueType.bool.Holds cs := by
  unfold bool? ValueType.Holds
  split
  next h => exact iff_of_true rfl (.inl h)
  next h =>
    split
    next h' => exact iff_of_true rfl (.inr h')
    next h' => exact iff_of_false (by simp) (not_or.mpr ⟨h, h'⟩)

/-- A backoff is named in any case. -/
theorem backoff?_eq_some_iff {cs : List Char} {b : Retry.Backoff} :
    backoff? (Text.trim Text.isBlank cs) = some b ↔
      (Text.trim Text.isBlank cs).map Char.toLower = b.name.toList := by
  have hname (b : Retry.Backoff) :
      String.ofList ((Text.trim Text.isBlank cs).map Char.toLower) = b.name ↔
        (Text.trim Text.isBlank cs).map Char.toLower = b.name.toList := by
    rw [← String.toList_inj, String.toList_ofList]
  unfold backoff? Retry.Backoff.parse
  rw [← hname, String.toList_ofList, Text.trim_trim]
  generalize String.ofList ((Text.trim Text.isBlank cs).map Char.toLower) = name
  dsimp only
  split
  next h =>
    subst h
    cases b with
    | fixed => exact iff_of_true rfl rfl
    | exponential => exact iff_of_false (by rintro ⟨⟩) (by decide)
  next h =>
    split
    next h' =>
      subst h'
      cases b with
      | fixed => exact iff_of_false (by rintro ⟨⟩) (by decide)
      | exponential => exact iff_of_true rfl rfl
    next h' =>
      refine iff_of_false (by rintro ⟨⟩) ?_
      cases b with
      | fixed => exact h
      | exponential => exact h'

theorem backoff?_isSome_iff {cs : List Char} :
    (backoff? (Text.trim Text.isBlank cs)).isSome ↔
      ValueType.backoff.Holds (Text.trim Text.isBlank cs) := by
  simp only [Option.isSome_iff_exists, backoff?_eq_some_iff, ValueType.Holds]

theorem word64?_isSome_iff {cs : List Char} :
    (word64? cs).isSome ↔ (ValueType.natural UInt64.size).Holds cs := by
  rw [word64?, Option.isSome_map, natural?_isSome_iff]

theorem word32?_isSome_iff {cs : List Char} :
    (word32? cs).isSome ↔ (ValueType.natural UInt32.size).Holds cs := by
  rw [word32?, Option.isSome_map, natural?_isSome_iff]

theorem word16?_isSome_iff {cs : List Char} :
    (word16? cs).isSome ↔ (ValueType.natural UInt16.size).Holds cs := by
  rw [word16?, Option.isSome_map, natural?_isSome_iff]

end Signpost.Settings
