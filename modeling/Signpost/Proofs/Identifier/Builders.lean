import Signpost.Proofs.Identifier.Reading

/-! # Builders and the parser

Building an identifier from its parts gives what the parser makes of the text of these parts, the
same identifier or the same failure. Only a name that holds a colon tells the two apart: the
parser sees two pieces in it, and a builder refuses it. -/

namespace Signpost.Identifier

/-! ## Reading the text of parts -/

theorem not_colon_of_notMem {cs : List Char} (h : ':' ∉ cs) : ∀ c ∈ cs, (c == ':') = false := by
  intro c hc
  exact beq_eq_false_iff_ne.mpr fun he => h (he ▸ hc)

/-- The pieces of a text behind the start and the namespace. -/
theorem pieces_renderService {space : List Char} (hspace : ':' ∉ space)
    (service below : List Char) :
    Text.pieces (· == ':') 5 (renderService space service ++ below) =
      "urn".toList :: "ads".toList :: space :: Text.pieces (· == ':') 2 (service ++ below) := by
  have htext : renderService space service ++ below = "urn".toList ++ ':' :: ("ads".toList ++ ':' ::
      (space ++ ':' :: (service ++ below))) := by
    unfold renderService
    simp
  calc Text.pieces (· == ':') 5 (renderService space service ++ below)
      = "urn".toList :: Text.pieces (· == ':') 4
          ("ads".toList ++ ':' :: (space ++ ':' :: (service ++ below))) := by
        rw [htext]
        exact Text.pieces_append (by simp) rfl 4
    _ = "urn".toList :: "ads".toList :: Text.pieces (· == ':') 3
          (space ++ ':' :: (service ++ below)) := by
        rw [Text.pieces_append (by simp) rfl 3]
    _ = _ := by rw [Text.pieces_append (not_colon_of_notMem hspace) rfl 2]

/-- A text with the fixed start is read piece by piece. -/
theorem read_of_pieces {cs space service : List Char} {below : List (List Char)}
    (hp : Text.pieces (· == ':') 5 cs =
      "urn".toList :: "ads".toList :: space :: service :: below) :
    read cs = (do
      let space ← Label.read .space space
      let service ← Label.read .service service
      let locator ← Locator.read below
      .ok ⟨space, service, locator⟩) := by
  rw [read, hp]
  simp

theorem read_renderService {space service : List Char} (hspace : ':' ∉ space)
    (hservice : ':' ∉ service) :
    read (renderService space service) = (do
      let space ← Label.read .space space
      let service ← Label.read .service service
      .ok ⟨space, service, .service⟩) := by
  have hp := pieces_renderService hspace service []
  rw [List.append_nil, List.append_nil,
    Text.pieces_of_forall (not_colon_of_notMem hservice)] at hp
  exact read_of_pieces hp

/-- Behind a service stands an API, up to the next colon, and a resource. -/
theorem read_renderService_append {space service : List Char} (hspace : ':' ∉ space)
    (hservice : ':' ∉ service) (below : List Char) :
    read (renderService space service ++ ':' :: below) = (do
      let space ← Label.read .space space
      let service ← Label.read .service service
      let locator ← Locator.read (Text.pieces (· == ':') 1 below)
      .ok ⟨space, service, locator⟩) := by
  have hp := pieces_renderService hspace service (':' :: below)
  rw [Text.pieces_append (not_colon_of_notMem hservice) rfl] at hp
  exact read_of_pieces hp

/-! ## Building and parsing -/

theorem toList_ofParts (space service : String) :
    ("urn:ads:" ++ space ++ ":" ++ service).toList =
      renderService space.toList service.toList := by
  unfold renderService
  simp

theorem ofService_eq_parse {space service : String} (hspace : ':' ∉ space.toList)
    (hservice : ':' ∉ service.toList) :
    ofService space service = parse ("urn:ads:" ++ space ++ ":" ++ service) := by
  rw [parse, toList_ofParts, read_renderService hspace hservice, ofService, ← toList_ofParts,
    String.ofList_toList]

/-- A name is read as itself. -/
@[simp] theorem Label.read_chars (part : Part) (label : Label) :
    Label.read part label.chars = .ok label :=
  Label.read_eq_ok_iff.mpr rfl

theorem Label.notMem_colon (label : Label) : ':' ∉ label.chars :=
  fun hc => absurd (label.not_colon _ hc) (by simp)

/-- Below the service of an identifier only what follows can be wrong. -/
theorem parse_below (id : Identifier) (below : String) :
    parse ("urn:ads:" ++ id.space.text ++ ":" ++ id.service.text ++ ":" ++ below) =
      (do
        let locator ← Locator.read (Text.pieces (· == ':') 1 below.toList)
        .ok ⟨id.space, id.service, locator⟩ : Except Fault Identifier).mapError
      (Failure.ofFault
        ("urn:ads:" ++ id.space.text ++ ":" ++ id.service.text ++ ":" ++ below)) := by
  have htext : ("urn:ads:" ++ id.space.text ++ ":" ++ id.service.text ++ ":" ++ below).toList =
      renderService id.space.chars id.service.chars ++ ':' :: below.toList := by
    rw [String.toList_append, String.toList_append, toList_ofParts]
    simp [Label.text]
  rw [parse, htext, read_renderService_append id.space.notMem_colon id.service.notMem_colon,
    Label.read_chars, Label.read_chars]
  rfl

theorem withApi_eq_parse (id : Identifier) {api : String} (hapi : ':' ∉ api.toList) :
    id.withApi api =
      parse ("urn:ads:" ++ id.space.text ++ ":" ++ id.service.text ++ ":" ++ api) := by
  have htext : String.ofList (id.servicePrefix ++ ':' :: api.toList) =
      "urn:ads:" ++ id.space.text ++ ":" ++ id.service.text ++ ":" ++ api := by
    rw [← String.toList_inj, String.toList_append, String.toList_append, toList_ofParts]
    simp [servicePrefix, Label.text]
  rw [parse_below, Text.pieces_of_forall (not_colon_of_notMem hapi), withApi, htext]
  simp only [Locator.read]
  cases Label.read .api api.toList <;> rfl

/-- All that follows on an API is its resource, colons included. -/
theorem withResource_eq_parse {id : Identifier} {api : Label} (hid : id.locator = .api api)
    (resource : String) :
    id.withResource resource = parse (id.canonical ++ ":" ++ resource) := by
  have hcanonical : id.canonical =
      "urn:ads:" ++ id.space.text ++ ":" ++ id.service.text ++ ":" ++ api.text := by
    rw [← String.toList_inj, String.toList_append, String.toList_append, toList_ofParts]
    simp [canonical, render, hid, Locator.render, Label.text]
  have htext : id.canonical ++ ":" ++ resource = "urn:ads:" ++ id.space.text ++ ":" ++
      id.service.text ++ ":" ++ (api.text ++ ":" ++ resource) := by
    simp only [hcanonical, String.append_assoc]
  have hpieces : Text.pieces (· == ':') 1 (api.text ++ ":" ++ resource).toList =
      [api.chars, resource.toList] := by
    have happ : (api.text ++ ":" ++ resource).toList = api.chars ++ ':' :: resource.toList := by
      simp [Label.text]
    rw [happ, Text.pieces_append api.not_colon rfl]
    rfl
  have hrender : String.ofList (id.render ++ ':' :: resource.toList) =
      id.canonical ++ ":" ++ resource := by
    rw [← String.toList_inj]
    simp [canonical]
  rw [htext, parse_below, hpieces, ← htext, withResource, hid]
  simp only [hrender, Locator.read, Label.read_chars]
  cases Resource.read resource.toList <;> rfl

/-! ## Names with colons -/

theorem Label.read_of_colon (part : Part) {cs : List Char} (hc : ':' ∈ cs) :
    ∃ fault, Label.read part cs = .error fault := by
  cases hr : Label.read part cs with
  | error fault => exact ⟨fault, rfl⟩
  | ok label =>
      obtain rfl := Label.read_eq_ok_iff.mp hr
      exact absurd hc label.notMem_colon

theorem ofService_of_colon {space service : String}
    (hc : ':' ∈ space.toList ∨ ':' ∈ service.toList) :
    ∃ failure, ofService space service = .error failure := by
  cases hr : ofService space service with
  | error failure => exact ⟨failure, rfl⟩
  | ok id =>
      obtain ⟨label, hspace, name, hservice, _⟩ := by
        simpa only [ofService, mapError_eq_ok_iff, bind_eq_ok_iff] using hr
      rcases hc with hc | hc
      · obtain ⟨fault, hf⟩ := Label.read_of_colon .space hc
        cases hf.symm.trans hspace
      · obtain ⟨fault, hf⟩ := Label.read_of_colon .service hc
        cases hf.symm.trans hservice

theorem withApi_of_colon (id : Identifier) {api : String} (hc : ':' ∈ api.toList) :
    ∃ failure, id.withApi api = .error failure := by
  obtain ⟨fault, hf⟩ := Label.read_of_colon .api hc
  exact ⟨_, by rw [withApi, hf]; rfl⟩

/-! ## Up to the API and down again -/

theorem owningApi_withResource {id : Identifier} {api : Label} {resource : Resource}
    (hid : id.locator = .resource api resource) :
    ∃ above, id.owningApi = .ok above ∧ above.withResource resource.text = .ok id := by
  obtain ⟨space, service, locator⟩ := id
  obtain rfl : locator = .resource api resource := hid
  refine ⟨⟨space, service, .api api⟩, rfl, ?_⟩
  rw [withResource_eq_parse rfl, parse_eq_ok_iff, ← String.toList_inj]
  simp [canonical, render, Locator.render, Resource.text]

/-! ## Builders against the parser -/

/-- How the builders and the parser go together: on names without colons, and on any resource, a
builder gives the result of the parser; a name with a colon is refused; and a resource is built
again from the API that it stands under. -/
structure BuilderSpec : Prop where
  ofService_eq : ∀ {space service : String}, ':' ∉ space.toList → ':' ∉ service.toList →
    ofService space service = parse ("urn:ads:" ++ space ++ ":" ++ service)
  withApi_eq : ∀ (id : Identifier) {api : String}, ':' ∉ api.toList →
    id.withApi api =
      parse ("urn:ads:" ++ id.space.text ++ ":" ++ id.service.text ++ ":" ++ api)
  withResource_eq : ∀ {id : Identifier}, id.kind = .api → ∀ resource : String,
    id.withResource resource = parse (id.canonical ++ ":" ++ resource)
  ofService_refuses : ∀ {space service : String},
    ':' ∈ space.toList ∨ ':' ∈ service.toList →
    ∃ failure, ofService space service = .error failure
  withApi_refuses : ∀ (id : Identifier) {api : String}, ':' ∈ api.toList →
    ∃ failure, id.withApi api = .error failure
  rebuilt : ∀ {id : Identifier}, id.kind = .resource →
    ∃ api resource, id.owningApi = .ok api ∧ id.resource? = some resource ∧
      api.withResource resource.text = .ok id

theorem builders_agree : BuilderSpec := by
  refine ⟨ofService_eq_parse, withApi_eq_parse, ?_, ofService_of_colon, withApi_of_colon, ?_⟩
  · intro id hkind resource
    cases hid : id.locator with
    | api api => exact withResource_eq_parse hid resource
    | service | resource => simp [kind, hid] at hkind
  · intro id hkind
    cases hid : id.locator with
    | resource api resource =>
        obtain ⟨above, habove, hrebuilt⟩ := owningApi_withResource hid
        exact ⟨above, resource, habove, by simp [resource?, hid], hrebuilt⟩
    | service | api => simp [kind, hid] at hkind

end Signpost.Identifier
