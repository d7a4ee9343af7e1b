import Signpost.Proofs.Identifier.Reading

/-! # The grammar of identifiers

An identifier is written as `urn:ads:` and a namespace, a service, an API and a resource between
colons, of which the last two may be missing. The parser accepts exactly these texts, each of
which is made of such pieces in one way. -/

namespace Signpost.Identifier

/-! ## Forms -/

/-- The ASCII letters, the digits and the hyphen. -/
def IsNameChar (c : Char) : Prop :=
  ('a' ≤ c ∧ c ≤ 'z') ∨ ('A' ≤ c ∧ c ≤ 'Z') ∨ ('0' ≤ c ∧ c ≤ '9') ∨ c = '-'

/-- What may stand for a namespace, a service or an API. -/
structure IsName (s : String) : Prop where
  pos : 1 ≤ s.length
  length_le : s.length ≤ 50
  chars : ∀ c ∈ s.toList, IsNameChar c

/-- What may stand for a resource. Its size is counted in bytes of UTF-8. -/
structure IsRest (s : String) : Prop where
  pos : 1 ≤ s.utf8ByteSize
  size_le : s.utf8ByteSize ≤ 1000
  chars : ∀ c ∈ s.toList, Text.isControl c = false ∧ Text.isBlank c = false

/-- The pieces between the colons of a text. -/
inductive Form where
  | ofService (space service : String)
  | ofApi (space service api : String)
  | ofResource (space service api rest : String)

def Form.Valid : Form → Prop
  | .ofService space service => IsName space ∧ IsName service
  | .ofApi space service api => IsName space ∧ IsName service ∧ IsName api
  | .ofResource space service api rest =>
    IsName space ∧ IsName service ∧ IsName api ∧ IsRest rest

def Form.text : Form → String
  | .ofService space service => "urn:ads:" ++ space ++ ":" ++ service
  | .ofApi space service api => "urn:ads:" ++ space ++ ":" ++ service ++ ":" ++ api
  | .ofResource space service api rest =>
    "urn:ads:" ++ space ++ ":" ++ service ++ ":" ++ api ++ ":" ++ rest

/-- The pieces of an identifier. -/
def form (id : Identifier) : Form :=
  match id.locator with
  | .service => .ofService id.space.text id.service.text
  | .api api => .ofApi id.space.text id.service.text api.text
  | .resource api rest => .ofResource id.space.text id.service.text api.text rest.text

/-! ## Names -/

theorem isLabelChar_iff {c : Char} : isLabelChar c = true ↔ IsNameChar c := by
  have hclasses : isLabelChar c = (decide ('A' ≤ c ∧ c ≤ 'Z') ||
      (decide ('a' ≤ c) && decide (c ≤ 'z')) || (decide ('0' ≤ c) && decide (c ≤ '9')) ||
      c == '-') := rfl
  rw [hclasses]
  simp only [Bool.or_eq_true, Bool.and_eq_true, decide_eq_true_eq, beq_iff_eq, IsNameChar]
  grind

theorem IsNameChar.toNat_lt {c : Char} (h : IsNameChar c) : c.toNat < 0x80 := by
  simp only [IsNameChar, Char.le_def, UInt32.le_iff_toNat_le] at h
  rcases h with ⟨_, h⟩ | ⟨_, h⟩ | ⟨_, h⟩ | rfl
  · exact Nat.lt_of_le_of_lt h (by decide)
  · exact Nat.lt_of_le_of_lt h (by decide)
  · exact Nat.lt_of_le_of_lt h (by decide)
  · decide

/-- Of a name characters are counted as well as bytes. -/
theorem isName_iff {cs : List Char} :
    IsName (String.ofList cs) ↔
      cs ≠ [] ∧ Utf8.size cs ≤ 50 ∧ cs.all isLabelChar = true := by
  have hpos : 1 ≤ cs.length ↔ cs ≠ [] := List.length_pos_iff
  rw [List.all_eq_true]
  constructor
  · intro h
    have hchars : ∀ c ∈ cs, IsNameChar c := by simpa using h.chars
    have hsize := Utf8.size_eq_length fun c hc => (hchars c hc).toNat_lt
    refine ⟨hpos.mp (by simpa using h.pos), ?_, fun c hc => isLabelChar_iff.mpr (hchars c hc)⟩
    rw [hsize]
    simpa using h.length_le
  · rintro ⟨hne, hle, hall⟩
    have hchars : ∀ c ∈ cs, IsNameChar c := fun c hc => isLabelChar_iff.mp (hall c hc)
    have hsize := Utf8.size_eq_length fun c hc => (hchars c hc).toNat_lt
    rw [hsize] at hle
    exact ⟨by simpa using hpos.mpr hne, by simpa using hle, by simpa using hchars⟩

theorem Label.isName (label : Label) : IsName label.text :=
  isName_iff.mpr ⟨label.ne_nil, label.size_le, label.all⟩

theorem IsName.exists_label {s : String} (h : IsName s) : ∃ label : Label, label.text = s := by
  rw [← String.ofList_toList (s := s), isName_iff] at h
  exact ⟨⟨s.toList, h.1, h.2.1, h.2.2⟩, String.ofList_toList⟩

/-! ## Resources -/

theorem isRest_iff {cs : List Char} :
    IsRest (String.ofList cs) ↔
      cs ≠ [] ∧ Utf8.size cs ≤ 1000 ∧ cs.all isResourceChar = true := by
  have hpos : 1 ≤ (String.ofList cs).utf8ByteSize ↔ cs ≠ [] := by
    rw [Nat.one_le_iff_ne_zero, Ne, String.utf8ByteSize_eq_zero_iff, String.ofList_eq_empty_iff]
  have hchars : (∀ c ∈ cs, Text.isControl c = false ∧ Text.isBlank c = false) ↔
      cs.all isResourceChar = true := by
    simp [isResourceChar]
  rw [Utf8.size_eq_utf8ByteSize, ← hpos, ← hchars]
  constructor
  · intro h
    exact ⟨h.pos, h.size_le, by simpa using h.chars⟩
  · rintro ⟨hp, hle, hall⟩
    exact ⟨hp, hle, by simpa using hall⟩

theorem Resource.isRest (resource : Resource) : IsRest resource.text :=
  isRest_iff.mpr ⟨resource.ne_nil, resource.size_le, resource.all⟩

theorem IsRest.exists_resource {s : String} (h : IsRest s) :
    ∃ resource : Resource, resource.text = s := by
  rw [← String.ofList_toList (s := s), isRest_iff] at h
  exact ⟨⟨s.toList, h.1, h.2.1, h.2.2⟩, String.ofList_toList⟩

/-! ## Forms of identifiers -/

theorem form_text (id : Identifier) : id.form.text = id.canonical := by
  obtain ⟨space, service, locator⟩ := id
  rw [← String.toList_inj, canonical, String.toList_ofList, render_eq]
  cases locator <;> simp [form, Form.text, Locator.render, Label.text, Resource.text]

theorem form_valid (id : Identifier) : id.form.Valid := by
  obtain ⟨space, service, locator⟩ := id
  cases locator with
  | service => exact ⟨space.isName, service.isName⟩
  | api api => exact ⟨space.isName, service.isName, api.isName⟩
  | resource api rest => exact ⟨space.isName, service.isName, api.isName, rest.isRest⟩

/-- A valid form is that of an identifier. -/
theorem Form.Valid.exists_identifier {form : Form} (h : form.Valid) :
    ∃ id : Identifier, id.form = form := by
  cases form with
  | ofService space service =>
      obtain ⟨space, rfl⟩ := h.1.exists_label
      obtain ⟨service, rfl⟩ := h.2.exists_label
      exact ⟨⟨space, service, .service⟩, rfl⟩
  | ofApi space service api =>
      obtain ⟨space, rfl⟩ := h.1.exists_label
      obtain ⟨service, rfl⟩ := h.2.1.exists_label
      obtain ⟨api, rfl⟩ := h.2.2.exists_label
      exact ⟨⟨space, service, .api api⟩, rfl⟩
  | ofResource space service api rest =>
      obtain ⟨space, rfl⟩ := h.1.exists_label
      obtain ⟨service, rfl⟩ := h.2.1.exists_label
      obtain ⟨api, rfl⟩ := h.2.2.1.exists_label
      obtain ⟨rest, rfl⟩ := h.2.2.2.exists_resource
      exact ⟨⟨space, service, .resource api rest⟩, rfl⟩

/-- The text of a valid form is read as the identifier of that form. -/
theorem Form.Valid.exists_parse {form : Form} (h : form.Valid) :
    ∃ id, parse form.text = .ok id ∧ id.form = form := by
  obtain ⟨id, rfl⟩ := h.exists_identifier
  exact ⟨id, parse_eq_ok_iff.mpr id.form_text, rfl⟩

/-! ## The language of the parser -/

/-- What the parser makes of a text: it is accepted exactly if it is that of a valid form, of
which there is only one, the pieces of the identifier are those of the form, and a text that is
refused is reported unchanged. -/
structure GrammarSpec (s : String) : Prop where
  accepts_iff : (∃ id, parse s = .ok id) ↔ ∃ form : Form, form.Valid ∧ s = form.text
  unique : ∀ {form form' : Form}, form.Valid → form'.Valid → s = form.text → s = form'.text →
    form = form'
  pieces : ∀ {id form}, parse s = .ok id → form.Valid → s = form.text → id.form = form
  refused : ∀ {failure}, parse s = .error failure → ∃ reason, failure = .malformed s reason

theorem parse_grammar (s : String) : GrammarSpec s := by
  have pieces : ∀ {id form}, parse s = .ok id → form.Valid → s = form.text → id.form = form := by
    intro id form hid hform hs
    obtain ⟨other, hother, rfl⟩ := hform.exists_parse
    rw [← hs, hid] at hother
    rw [Except.ok.inj hother]
  refine ⟨⟨?_, ?_⟩, ?_, pieces, ?_⟩
  · rintro ⟨id, hid⟩
    exact ⟨id.form, id.form_valid, by rw [form_text, parse_eq_ok_iff.mp hid]⟩
  · rintro ⟨form, hform, rfl⟩
    obtain ⟨id, hid, _⟩ := hform.exists_parse
    exact ⟨id, hid⟩
  · intro form form' hform hform' hs hs'
    obtain ⟨id, hid, hid'⟩ := hform.exists_parse
    rw [← hs] at hid
    rw [← hid', pieces hid hform' hs']
  · intro failure h
    obtain ⟨fault, rfl⟩ := parse_eq_error h
    exact ⟨_, rfl⟩

end Signpost.Identifier
