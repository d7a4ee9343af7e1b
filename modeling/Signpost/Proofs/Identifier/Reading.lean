import Signpost.Identifier.Build
import Signpost.Proofs.Except

/-! # Reading identifiers

Reading and writing undo each other: a text is read as an identifier exactly if it is the text
of that identifier. What is no text of an identifier is refused with the text and a reason. -/

namespace Signpost.Identifier

/-! ## Names and resources -/

theorem Label.read_eq_ok_iff {part : Part} {cs : List Char} {label : Label} :
    Label.read part cs = .ok label ↔ cs = label.chars := by
  constructor
  · intro h
    unfold Label.read at h
    split at h
    · cases h
    · split at h
      · split at h
        · exact congrArg Label.chars (Except.ok.inj h)
        · cases h
      · cases h
  · rintro rfl
    simp [Label.read, label.ne_nil, label.size_le, label.all]

theorem Resource.read_eq_ok_iff {cs : List Char} {resource : Resource} :
    Resource.read cs = .ok resource ↔ cs = resource.chars := by
  constructor
  · intro h
    unfold Resource.read at h
    split at h
    · cases h
    · split at h
      · split at h
        · exact congrArg Resource.chars (Except.ok.inj h)
        · cases h
      · cases h
  · rintro rfl
    simp [Resource.read, resource.ne_nil, resource.size_le, resource.all]

/-- A name holds no separator, so that it is a piece of its own. -/
theorem Label.not_colon (label : Label) : ∀ c ∈ label.chars, (c == ':') = false := by
  intro c hc
  have hl := List.all_eq_true.mp label.all c hc
  rw [beq_eq_false_iff_ne]
  rintro rfl
  exact absurd hl (by decide)

/-! ## Locators -/

/-- The pieces of a text that stand for a locator. -/
def Locator.pieces : Locator → List (List Char)
  | .service => []
  | .api name => [name.chars]
  | .resource name rest => [name.chars, rest.chars]

theorem Locator.join_pieces (locator : Locator) (front : List Char) :
    Text.join [':'] (front :: locator.pieces) = front ++ locator.render := by
  cases locator <;> simp [Locator.pieces, Locator.render, Text.join]

/-- At most two pieces are read as a locator exactly if they are those of the locator. -/
theorem Locator.read_eq_ok_iff {below : List (List Char)} (hl : below.length ≤ 2)
    {locator : Locator} : Locator.read below = .ok locator ↔ below = locator.pieces := by
  match below, hl with
  | [], _ => cases locator <;> simp [Locator.read, Locator.pieces]
  | [name], _ =>
      simp only [Locator.read, bind_eq_ok_iff, Label.read_eq_ok_iff]
      cases locator <;> simp [Locator.pieces]
  | [name, rest], _ =>
      simp only [Locator.read, bind_eq_ok_iff, Label.read_eq_ok_iff, Resource.read_eq_ok_iff]
      cases locator <;> simp [Locator.pieces]

/-! ## Identifiers -/

/-- The pieces of an identifier's text. -/
def pieces (id : Identifier) : List (List Char) :=
  "urn".toList :: "ads".toList :: id.space.chars :: id.service.chars :: id.locator.pieces

/-- Written out, the text of an identifier is its pieces between colons. -/
theorem render_eq (id : Identifier) :
    id.render = "urn".toList ++ ':' :: ("ads".toList ++ ':' ::
      (id.space.chars ++ ':' :: (id.service.chars ++ id.locator.render))) := by
  unfold render renderService
  simp

@[simp] theorem join_pieces (id : Identifier) : Text.join [':'] id.pieces = id.render := by
  rw [render_eq, ← Locator.join_pieces]
  simp only [pieces, Text.join, List.append_assoc, List.cons_append, List.nil_append]

theorem Locator.pieces_render (locator : Locator) (service : Label) :
    Text.pieces (· == ':') 2 (service.chars ++ locator.render) =
      service.chars :: locator.pieces := by
  have hservice := service.not_colon
  cases locator with
  | service => simpa [render, pieces] using Text.pieces_of_forall hservice 2
  | api name =>
      rw [render, Text.pieces_append hservice rfl, Text.pieces_of_forall name.not_colon]
      rfl
  | resource name rest =>
      have hname : ':' :: name.chars ++ ':' :: rest.chars =
          ':' :: (name.chars ++ ':' :: rest.chars) := rfl
      rw [render, hname, Text.pieces_append hservice rfl, Text.pieces_append name.not_colon rfl]
      rfl

/-- A text is cut into the pieces of an identifier exactly if it is its text. -/
theorem pieces_eq_iff {cs : List Char} {id : Identifier} :
    Text.pieces (· == ':') 5 cs = id.pieces ↔ cs = id.render := by
  constructor
  · intro h
    rw [← join_pieces, ← h, Text.join_pieces]
  · rintro rfl
    rw [render_eq, Text.pieces_append (by simp) rfl, Text.pieces_append (by simp) rfl,
      Text.pieces_append id.space.not_colon rfl, Locator.pieces_render]
    rfl

theorem read_eq_ok_iff {cs : List Char} {id : Identifier} :
    read cs = .ok id ↔ cs = id.render := by
  rw [← pieces_eq_iff]
  have hlength := Text.length_pieces_le (· == ':') 5 cs
  unfold read
  split
  next scheme kind space service below hp =>
    rw [hp] at hlength ⊢
    simp only [List.length_cons] at hlength
    have hbelow : below.length ≤ 2 := by omega
    split
    next hstart =>
      simp only [bind_eq_ok_iff, Label.read_eq_ok_iff, Locator.read_eq_ok_iff hbelow]
      constructor
      · rintro ⟨name, rfl, label, rfl, locator, rfl, he⟩
        obtain rfl := Except.ok.inj he
        rw [hstart.1, hstart.2, pieces]
      · intro he
        obtain ⟨-, -, rfl, rfl, rfl⟩ := by simpa only [pieces, List.cons.injEq] using he
        exact ⟨_, rfl, _, rfl, _, rfl, rfl⟩
    next hstart =>
      refine iff_of_false (by simp) ?_
      intro he
      obtain ⟨rfl, rfl, _⟩ := by simpa [pieces] using he
      exact hstart ⟨rfl, rfl⟩
  next hp =>
    simp only [reduceCtorEq, false_iff]
    exact fun he => hp _ _ _ _ _ he

/-! ## Texts -/

theorem parse_eq_ok_iff {s : String} {id : Identifier} :
    parse s = .ok id ↔ s = id.canonical := by
  rw [parse, mapError_eq_ok_iff, read_eq_ok_iff, canonical]
  constructor
  · intro h
    rw [← h, String.ofList_toList]
  · rintro rfl
    rw [String.toList_ofList]

theorem parse_eq_error {s : String} {failure : Failure} (h : parse s = .error failure) :
    ∃ fault : Fault, failure = .malformed s fault.message := by
  obtain ⟨fault, _, rfl⟩ := mapError_eq_error_iff.mp h
  exact ⟨fault, rfl⟩

end Signpost.Identifier
