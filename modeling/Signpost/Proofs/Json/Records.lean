import Signpost.Api.Messages
import Signpost.Listing
import Signpost.Proofs.Identifier.RoundTrip
import Signpost.Proofs.Json.RoundTrip
import Signpost.Proofs.Text.Names
import Signpost.Settings.Json

/-! # Records in JSON

What is written of identifiers, settings and records is read as the value that it was written of. -/

namespace Signpost.Json

namespace Value

/-! ## Shapes -/

@[simp]
theorem text?_ofString (s : String) : (ofString s).text? = some s :=
  Text.toString?_ofString s

theorem natural?_ofNat {bound n : Nat} (h : n < bound) : (ofNat n).natural? bound = some n := by
  simp [ofNat, natural?, Number.ofNat, Number.isNatural, h]

@[simp] theorem members?_map (fields : List (String × Value)) :
    members? (fields.map fun (name, value) => (Text.ofString name, value)) = some fields := by
  induction fields with
  | nil => rfl
  | cons field fields ih =>
      rw [members?] at ih ⊢
      simp [ih]

theorem unique?_of_mem {members : List (String × Value)} {name : String} {value : Value}
    (hnames : (members.map Prod.fst).Nodup) (h : (name, value) ∈ members) :
    unique? members name = some value := by
  obtain ⟨before, later, rfl, hbefore, hlater⟩ := Text.exists_append_of_nodup_names hnames h
  have hnone : ∀ members : List (String × Value), (∀ m ∈ members, m.1 ≠ name) →
      members.filter (·.1 == name) = [] := by
    intro members hne
    exact List.filter_eq_nil_iff.mpr fun m hm => by simpa using hne m hm
  simp [unique?, List.filter_append, hnone before hbefore, hnone later hlater]

/-- Fields of an object, in any order. -/
theorem fields?_ofFields {members fields : List (String × Value)}
    (hnames : (members.map Prod.fst).Nodup) (h : fields ⊆ members) :
    (ofFields members).fields? (fields.map Prod.fst) = some (fields.map Prod.snd) := by
  have hread : ∀ fields ⊆ members,
      (fields.map Prod.fst).mapM (unique? members) = some (fields.map Prod.snd) := by
    intro fields h
    induction fields with
    | nil => rfl
    | cons field fields ih =>
        obtain ⟨hfield, hfields⟩ := List.cons_subset.mp h
        simp [unique?_of_mem hnames hfield, ih hfields]
  rw [ofFields, fields?, members?_map]
  exact hread fields h

theorem tagged?_ofFields {α : Type} {tag name : String} {fields : List (String × Value)}
    {choices : List (String × (List String × (List Value → Option α)))}
    {build : List Value → Option α}
    (hnames : (((tag, ofString name) :: fields).map Prod.fst).Nodup)
    (hchoice : choices.lookup name = some (fields.map Prod.fst, build)) :
    (ofFields ((tag, ofString name) :: fields)).tagged? tag choices =
      build (fields.map Prod.snd) := by
  have hfields := fields?_ofFields hnames (List.subset_cons_self _ fields)
  have htag := unique?_of_mem hnames List.mem_cons_self
  rw [ofFields] at hfields ⊢
  rw [tagged?]
  simp only [members?_map, htag, text?_ofString, hchoice, hfields, Option.bind_eq_bind,
    Option.bind_some]

/-! ## Values that are held -/

@[simp] theorem isHeld_ofString (limit : Nat) (s : String) : (ofString s).isHeld limit = true := by
  simp [ofString, isHeld]

theorem isHeld_ofFields {limit : Nat} {fields : List (String × Value)} (hlimit : 0 < limit)
    (h : ∀ field ∈ fields, field.2.isHeld (limit - 1) = true) :
    (ofFields fields).isHeld limit = true := by
  have hheld : membersHeld (limit - 1)
      (fields.map fun (name, value) => (Text.ofString name, value)) = true := by
    induction fields with
    | nil => rfl
    | cons field fields ih =>
        obtain ⟨hfield, hfields⟩ := List.forall_mem_cons.mp h
        simp [membersHeld, hfield, ih hfields]
  simp [ofFields, isHeld, hlimit, hheld]

/-! ## Values that are written -/

theorem written_ofString (s : String) : (ofString s).Written :=
  .string _

theorem written_ofNat (n : Nat) : (ofNat n).Written :=
  .number fun _ h => by cases h

theorem written_ofFields {fields : List (String × Value)}
    (h : ∀ field ∈ fields, field.2.Written) : (ofFields fields).Written := by
  refine .object fun m hm => ?_
  obtain ⟨field, hfield, rfl⟩ := List.mem_map.mp hm
  exact h field hfield

end Value

/-! ## Writing and reading -/

/-- What is written of a value is read as that value. -/
def Restores {α : Type} (write : α → Value) (read? : Value → Option α) : Prop :=
  ∀ a, (parse (write a).toString).bind read? = some a

theorem restores_of_read {α : Type} {write : α → Value} {read? : Value → Option α}
    (hwrite : ∀ a, (write a).Written) (hread : ∀ a, read? (write a) = some a) :
    Restores write read? := by
  intro a
  rw [parse_toString (hwrite a), Option.bind_some, hread]

end Signpost.Json

namespace Signpost

open Json Json.Value

/-! ## Choices -/

@[simp] theorem Identifier.Kind.ofJson?_toJson (kind : Kind) : ofJson? kind.toJson = some kind := by
  have hread : ofJson? kind.toJson =
      (Kind.all.map fun kind => (kind.name, kind)).lookup kind.name := by
    simp [ofJson?, toJson, ofString, choice?]
  rw [hread]
  cases kind <;> decide

@[simp]
theorem Retry.Backoff.ofJson?_toJson (backoff : Backoff) :
    ofJson? backoff.toJson = some backoff := by
  have hread : ofJson? backoff.toJson =
      [("fixed", Backoff.fixed), ("exponential", .exponential)].lookup backoff.name := by
    simp [ofJson?, toJson, ofString, choice?]
  rw [hread]
  cases backoff <;> decide

/-! ## Records -/

namespace Listing.Record

theorem written_toJson (record : Record) : record.toJson.Written :=
  written_ofFields (by simp [written_ofString])

@[simp] theorem ofJson?_toJson (record : Record) : ofJson? record.toJson = some record := by
  have hfields : record.toJson.fields? ["urn", "url"] =
      some [.ofString record.urn, .ofString record.url] :=
    fields?_ofFields (by simp) (List.Subset.refl _)
  simp [ofJson?, hfields]

end Listing.Record

namespace Listing

theorem written_records (records : List Record) :
    (Value.array (records.map Record.toJson)).Written := by
  refine .array fun item hitem => ?_
  obtain ⟨record, -, rfl⟩ := List.mem_map.mp hitem
  exact record.written_toJson

@[simp] theorem recordsOfJson?_toJson (records : List Record) :
    recordsOfJson? (.array (records.map Record.toJson)) = some records := by
  have hread : (records.map Record.toJson).mapM Record.ofJson? = some records := by
    induction records with
    | nil => rfl
    | cons record records ih => simp [ih]
  simp [recordsOfJson?, array?, hread]

/-- A list of records is read as it was written, in its order and with its duplicates. -/
theorem restores_records :
    Restores (fun records => .array (records.map Record.toJson)) recordsOfJson? :=
  restores_of_read written_records recordsOfJson?_toJson

end Listing

namespace Api

theorem ErrorBody.written_toJson (b : ErrorBody) : b.toJson.Written :=
  written_ofFields (by simp [written_ofString])

@[simp] theorem ErrorBody.ofJson?_toJson (b : ErrorBody) : ofJson? b.toJson = some b := by
  have hfields : b.toJson.fields? ["error", "message"] =
      some [.ofString b.error, .ofString b.message] :=
    fields?_ofFields (by simp) (List.Subset.refl _)
  simp [ofJson?, hfields]

theorem Health.written_toJson (h : Health) : h.toJson.Written :=
  written_ofFields (by simp [written_ofString, written_ofNat])

theorem Health.ofJson?_toJson (h : Health) : ofJson? h.toJson = some h := by
  have hfields : h.toJson.fields? ["status", "version", "cachedEntries"] =
      some [.ofString h.status, .ofString h.version, .ofNat h.cachedEntries.toNat] :=
    fields?_ofFields (by simp) (List.Subset.refl _)
  simp [ofJson?, hfields, natural?_ofNat h.cachedEntries.toNat_lt_size]

theorem Resolved.written_toJson (r : Resolved) : r.toJson.Written :=
  written_ofFields (by simp [written_ofString, Identifier.Kind.toJson])

@[simp] theorem Resolved.ofJson?_toJson (r : Resolved) : ofJson? r.toJson = some r := by
  have hfields : r.toJson.fields? ["urn", "kind", "url"] =
      some [.ofString r.urn, r.kind.toJson, .ofString r.url] :=
    fields?_ofFields (by simp) (List.Subset.refl _)
  simp [ofJson?, hfields]

end Api

/-! ## Settings -/

namespace Settings

theorem Credentials.written_toJson (c : Credentials) : c.toJson.Written := by
  cases c <;> exact written_ofFields (by simp [written_ofString])

theorem Credentials.ofJsonWithin?_toJson {depth : Nat} (h : depth < maxNesting)
    (c : Credentials) : ofJsonWithin? depth c.toJson = some c := by
  have hheld : c.toJson.isHeld (maxNesting - depth) = true := by
    cases c <;> exact isHeld_ofFields (by omega) (by simp)
  rw [ofJsonWithin?, if_pos hheld]
  cases c with
  | fixed token =>
      refine (tagged?_ofFields (by simp) rfl).trans ?_
      simp [tokenOfFields?]
  | client url id secret =>
      refine (tagged?_ofFields (by simp) rfl).trans ?_
      simp [clientOfFields?]

@[simp] theorem word64OfJson?_ofNat (n : UInt64) : word64OfJson? (.ofNat n.toNat) = some n := by
  rw [word64OfJson?, natural?_ofNat n.toNat_lt_size, Option.map_some, UInt64.ofNat_toNat]

@[simp] theorem word32OfJson?_ofNat (n : UInt32) : word32OfJson? (.ofNat n.toNat) = some n := by
  rw [word32OfJson?, natural?_ofNat n.toNat_lt_size, Option.map_some, UInt32.ofNat_toNat]

@[simp] theorem word16OfJson?_ofNat (n : UInt16) : word16OfJson? (.ofNat n.toNat) = some n := by
  rw [word16OfJson?, natural?_ofNat n.toNat_lt_size, Option.map_some, UInt16.ofNat_toNat]

theorem Directory.written_toJson (d : Directory) : d.toJson.Written :=
  written_ofFields (by
    simp [written_ofString, written_ofNat, Retry.Backoff.toJson, Value.Written.bool])

@[simp] theorem Directory.ofJson?_toJson (d : Directory) : ofJson? d.toJson = some d := by
  have hfields : d.toJson.fields?
      [ "directory_url", "cache_ttl_secs", "cache_cleanup_secs", "retry_attempts",
        "retry_delay_ms", "retry_max_delay_ms", "retry_backoff", "request_timeout_secs",
        "single_flight" ] =
      some
        [ .ofString d.url, .ofNat d.ttlSeconds.toNat, .ofNat d.cleanupSeconds.toNat,
          .ofNat d.attempts.toNat, .ofNat d.delayMillis.toNat, .ofNat d.maxDelayMillis.toNat,
          d.backoff.toJson, .ofNat d.timeoutSeconds.toNat, .bool d.singleFlight ] :=
    fields?_ofFields (by simp) (List.Subset.refl _)
  simp [ofJson?, hfields, Json.Value.bool?]

theorem Server.written_toJson (s : Server) : s.toJson.Written :=
  written_ofFields (by simp [written_ofString, written_ofNat])

@[simp] theorem Server.ofJson?_toJson (s : Server) : ofJson? s.toJson = some s := by
  have hfields : s.toJson.fields? ["host", "port"] =
      some [.ofString s.host, .ofNat s.port.toNat] :=
    fields?_ofFields (by simp) (List.Subset.refl _)
  simp [ofJson?, hfields]

theorem written_toJson (s : Settings) : s.toJson.Written :=
  written_ofFields (by
    simp [s.directory.written_toJson, s.credentials.written_toJson, s.server.written_toJson,
      written_ofFields, written_ofString])

@[simp] theorem ofJson?_toJson (s : Settings) : ofJson? s.toJson = some s := by
  have hfields : s.toJson.fields? ["directory", "token", "server", "logging"] =
      some
        [ s.directory.toJson, s.credentials.toJson, s.server.toJson,
          .ofFields [("level", .ofString s.logLevel)] ] :=
    fields?_ofFields (by simp) (List.Subset.refl _)
  have hlogging : (Value.ofFields [("level", .ofString s.logLevel)]).fields? ["level"] =
      some [.ofString s.logLevel] :=
    fields?_ofFields (by simp) (List.Subset.refl _)
  simp [ofJson?, hfields, hlogging,
    s.credentials.ofJsonWithin?_toJson (show 1 < maxNesting by decide)]

end Settings

/-! ## Identifiers -/

namespace Identifier

theorem ofJson_eq_ok_iff {value : Value} {id : Identifier} :
    ofJson value = .ok id ↔ value.text? = some id.canonical := by
  unfold ofJson
  split
  next h => simp [h]
  next text h => rw [mapError_eq_ok_iff, parse_eq_ok_iff, h, Option.some.injEq]

theorem readFront_eq_ok_iff {cs rest : List Char} {id : Identifier} :
    readFront cs = .ok (id, rest) ↔
      ∃ value, Json.readFront cs = some (value, rest) ∧ value.text? = some id.canonical := by
  unfold readFront
  split
  next h => simp [h]
  next value rest' h =>
    rw [h, map_eq_ok_iff]
    constructor
    · rintro ⟨other, hother, he⟩
      cases he
      exact ⟨value, rfl, ofJson_eq_ok_iff.mp hother⟩
    · rintro ⟨value', he, hid⟩
      cases he
      exact ⟨id, ofJson_eq_ok_iff.mpr hid, rfl⟩

theorem whole_eq_ok_iff {α : Type} {reading : Except JsonFault (α × List Char)} {a : α} :
    whole reading = .ok a ↔ ∃ rest, reading = .ok (a, rest) ∧ (skipBlank rest).isEmpty := by
  unfold whole
  rw [bind_eq_ok_iff]
  constructor
  · rintro ⟨⟨b, rest⟩, hreading, h⟩
    dsimp only at h
    split at h
    next hrest =>
      obtain rfl := Except.ok.inj h
      exact ⟨rest, hreading, hrest⟩
    next => cases h
  · rintro ⟨rest, hreading, hrest⟩
    exact ⟨(a, rest), hreading, if_pos hrest⟩

/-- A text is read as an identifier exactly if it is a string that is the text of that
identifier. -/
theorem parseJson_eq_ok_iff {s : String} {id : Identifier} :
    parseJson s = .ok id ↔
      ∃ value, Json.parse s = some value ∧ value.text? = some id.canonical := by
  simp only [parseJson, whole_eq_ok_iff, readFront_eq_ok_iff, parse_eq_some_iff]
  constructor
  · rintro ⟨rest, ⟨value, hread, hid⟩, hrest⟩
    exact ⟨value, ⟨rest, hread, hrest⟩, hid⟩
  · rintro ⟨value, ⟨rest, hread, hrest⟩, hid⟩
    exact ⟨rest, ⟨value, hread, hid⟩, hrest⟩

theorem parseJson_toString (id : Identifier) : parseJson id.toJson.toString = .ok id :=
  parseJson_eq_ok_iff.mpr ⟨id.toJson, parse_toString (written_ofString _), text?_ofString _⟩

theorem readFront_render (id : Identifier) {rest : List Char} (hrest : Number.Ends rest) :
    readFront (id.toJson.render ++ rest) = .ok (id, rest) :=
  readFront_eq_ok_iff.mpr
    ⟨id.toJson, Json.readFront_render (written_ofString _) hrest, text?_ofString _⟩

theorem readItems_render {ids : List Identifier} (hne : ids ≠ []) {fuel : Nat}
    (hfuel : ids.length ≤ fuel) (rest : List Char) :
    readItems fuel (renderItems (ids.map toJson) ++ ']' :: rest) = .ok (ids, rest) := by
  induction ids generalizing fuel with
  | nil => exact absurd rfl hne
  | cons id ids ih =>
      cases fuel with
      | zero => cases hfuel
      | succ fuel =>
          cases ids with
          | nil =>
              rw [List.map_cons, List.map_nil, renderItems, readItems,
                id.readFront_render (Number.ends_cons (by simp) rest)]
              rfl
          | cons next ids =>
              have hread := ih (List.cons_ne_nil next ids) (Nat.le_of_succ_le_succ hfuel)
              rw [List.map_cons] at hread
              rw [List.map_cons, List.map_cons, renderItems_cons_cons, List.append_assoc,
                List.cons_append, readItems, id.readFront_render (Number.ends_cons (by simp) _)]
              change (readItems fuel _ >>= _) = _
              rw [hread]
              rfl

theorem length_le_renderItems (ids : List Identifier) :
    ids.length ≤ (renderItems (ids.map toJson)).length + 1 := by
  induction ids with
  | nil => exact Nat.zero_le _
  | cons id ids ih =>
      cases ids with
      | nil => exact Nat.succ_le_succ (Nat.zero_le _)
      | cons next ids =>
          rw [List.map_cons] at ih
          rw [List.map_cons, List.map_cons, renderItems_cons_cons, List.length_append]
          simp only [List.length_cons] at ih ⊢
          omega

theorem readList_items {c : Char} (hblank : isBlank c = false) (hc : c ≠ ']') (cs : List Char) :
    readList ('[' :: c :: cs) = readItems ((c :: cs).length + 1) (c :: cs) := by
  rw [readList, skipBlank_cons (by decide)]
  simp only [skipBlank_cons hblank]
  split
  next heq => exact absurd (List.cons.inj heq).1 hc
  next => rfl

theorem parseJsonList_toString (ids : List Identifier) :
    parseJsonList (Value.array (ids.map toJson)).toString = .ok ids := by
  refine whole_eq_ok_iff.mpr ⟨[], ?_, rfl⟩
  rw [Value.toString, String.toList_ofList, Value.render]
  by_cases hne : ids = []
  · rw [hne]
    rfl
  · have hlength := length_le_renderItems ids
    have hread (fuel : Nat) (hfuel : ids.length ≤ fuel) := readItems_render hne hfuel []
    obtain ⟨c, cs, hcs, hblank, hc⟩ :=
      exists_renderItems_eq_cons (fun h => hne (List.map_eq_nil_iff.mp h))
    rw [hcs] at hlength hread ⊢
    rw [List.cons_append, List.cons_append, readList_items hblank hc]
    refine hread _ ?_
    simp only [List.length_cons, List.length_append] at hlength ⊢
    omega

end Identifier

/-! ## Everything that is written -/

namespace Json

/-- What is written of the values that the program exchanges is read as it was, and only the texts
of identifiers are read as identifiers. -/
structure Restoration : Prop where
  identifier : ∀ id : Identifier, Identifier.parseJson id.toJson.toString = .ok id
  identifiers : ∀ ids : List Identifier,
    Identifier.parseJsonList (Value.array (ids.map Identifier.toJson)).toString = .ok ids
  settings : Restores Settings.toJson Settings.ofJson?
  credentials : Restores Settings.Credentials.toJson Settings.Credentials.ofJson?
  record : Restores Listing.Record.toJson Listing.Record.ofJson?
  errorBody : Restores Api.ErrorBody.toJson Api.ErrorBody.ofJson?
  health : Restores Api.Health.toJson Api.Health.ofJson?
  resolved : Restores Api.Resolved.toJson Api.Resolved.ofJson?
  admitted : ∀ (s : String) (id : Identifier), Identifier.parseJson s = .ok id →
    ∃ value, parse s = some value ∧ value.text? = some id.canonical ∧
      Identifier.parse id.canonical = .ok id

theorem restoration : Restoration where
  identifier := Identifier.parseJson_toString
  identifiers := Identifier.parseJsonList_toString
  settings := restores_of_read Settings.written_toJson Settings.ofJson?_toJson
  credentials := restores_of_read Settings.Credentials.written_toJson
    (Settings.Credentials.ofJsonWithin?_toJson (by decide))
  record := restores_of_read Listing.Record.written_toJson Listing.Record.ofJson?_toJson
  errorBody := restores_of_read Api.ErrorBody.written_toJson Api.ErrorBody.ofJson?_toJson
  health := restores_of_read Api.Health.written_toJson Api.Health.ofJson?_toJson
  resolved := restores_of_read Api.Resolved.written_toJson Api.Resolved.ofJson?_toJson
  admitted := by
    intro s id h
    obtain ⟨value, hvalue, hid⟩ := Identifier.parseJson_eq_ok_iff.mp h
    exact ⟨value, hvalue, hid, id.parse_canonical⟩

end Json

end Signpost
