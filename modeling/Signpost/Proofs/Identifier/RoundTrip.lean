import Signpost.Directory.Call
import Signpost.Identifier.Json
import Signpost.Proofs.Identifier.Reading

/-! # Identifiers and their texts

However an identifier was made, its text is read back as the same identifier. Texts therefore
tell identifiers apart, and so do the keys of the cache as far as the listing does. -/

namespace Signpost.Identifier

/-! ## Ways of making an identifier -/

/-- What can be had by reading texts, by building from parts, by going up to an API and by
decoding JSON, in any order. -/
inductive Made : Identifier → Prop where
  | parse {s id} (h : parse s = .ok id) : Made id
  | ofService {space service id} (h : ofService space service = .ok id) : Made id
  | withApi {id api made} (hid : Made id) (h : id.withApi api = .ok made) : Made made
  | withResource {id resource made} (hid : Made id) (h : id.withResource resource = .ok made) :
      Made made
  | owningApi {id made} (hid : Made id) (h : id.owningApi = .ok made) : Made made
  | ofJson {value id} (h : ofJson value = .ok id) : Made id
  | parseJson {s id} (h : parseJson s = .ok id) : Made id
  | parseJsonList {s ids id} (h : parseJsonList s = .ok ids) (hid : id ∈ ids) : Made id

/-! ## Texts and keys -/

@[simp] theorem parse_canonical (id : Identifier) : parse id.canonical = .ok id :=
  parse_eq_ok_iff.mpr rfl

theorem canonical_injective {id other : Identifier} (h : id.canonical = other.canonical) :
    id = other := by
  have hid := id.parse_canonical
  rw [h, other.parse_canonical] at hid
  exact (Except.ok.inj hid).symm

/-- What holds of an identifier and its text. -/
structure RoundTripSpec (id : Identifier) : Prop where
  made : Made id
  parse_canonical : parse id.canonical = .ok id
  canonical_inj : ∀ {other : Identifier}, id.canonical = other.canonical → id = other
  key_inj : ∀ {other : Identifier}, id.key = other.key → id.listed = other.listed
  canonical_of_parse : ∀ {s : String}, parse s = .ok id → id.canonical = s

theorem roundTrip (id : Identifier) : RoundTripSpec id := by
  refine ⟨.parse id.parse_canonical, id.parse_canonical, canonical_injective, ?_, ?_⟩
  · intro other h
    exact canonical_injective h
  · intro s h
    exact (parse_eq_ok_iff.mp h).symm

end Signpost.Identifier
