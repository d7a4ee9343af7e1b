import Signpost.Proofs.Except
import Signpost.Proofs.Settings.Requirement
import Signpost.Proofs.Text.Digits
import Signpost.Proofs.Text.Names
import Signpost.Startup

/-! # Loading settings

Variables give settings exactly if they meet the requirements, and otherwise the first requirement
that is not met is complained about. Settings that are written as variables are loaded as they
were. -/

namespace Signpost.Settings

variable {lookup : Lookup} {α : Type}

/-! ## Settings -/

theorem follows_loadDirectory (lookup : Lookup) :
    Follows lookup directoryRequirements (loadDirectory lookup) := by
  unfold loadDirectory
  apply Follows.bind_cons (follows_required lookup Variable.url)
  intro url
  apply Follows.bind_cons (follows_readOr (fun _ => word64?_isSome_iff) ..)
  intro ttlSeconds
  apply Follows.bind_cons (follows_readOr (fun _ => word64?_isSome_iff) ..)
  intro cleanupSeconds
  apply Follows.bind_cons (follows_readOr (fun _ => word32?_isSome_iff) ..)
  intro attempts
  apply Follows.bind_cons (follows_readOr (fun _ => word64?_isSome_iff) ..)
  intro delayMillis
  apply Follows.bind_cons (follows_readOr (fun _ => word64?_isSome_iff) ..)
  intro maxDelayMillis
  apply Follows.bind_cons (follows_readOr (fun _ => backoff?_isSome_iff) ..)
  intro backoff
  apply Follows.bind_cons (follows_readOr (fun _ => word64?_isSome_iff) ..)
  intro timeoutSeconds
  apply Follows.bind_cons (follows_readOr (fun _ => bool?_isSome_iff) ..)
  intro singleFlight
  exact .met (by simp)

theorem follows_loadCredentials (lookup : Lookup) :
    Follows lookup credentialRequirements (loadCredentials lookup) := by
  unfold loadCredentials
  cases ht : lookup Variable.token with
  | some token =>
      refine .met ?_
      simp [credentialRequirements, clientVariables, Requirement.Met, ht]
  | none =>
      apply Follows.bind_cons (follows_credential ht Variable.tokenUrl .missingCredentials)
      intro url
      apply Follows.bind_cons (follows_credential ht Variable.clientId _)
      intro id
      apply Follows.bind_cons (follows_credential ht Variable.clientSecret _)
      intro secret
      exact .met (by simp)

theorem follows_load (lookup : Lookup) : Follows lookup readingOrder (load lookup) := by
  unfold load
  apply Follows.bind (follows_loadDirectory lookup)
  intro directory
  apply Follows.bind (follows_loadCredentials lookup)
  intro credentials
  apply Follows.bind_cons (follows_readOr (fun _ => word16?_isSome_iff) ..)
  intro port
  exact .met (by simp)

/-! ## Settings written as variables -/

theorem nodup_names_toVariables (s : Settings) : (s.toVariables.map Prod.fst).Nodup := by
  unfold toVariables
  cases s.credentials with
  | fixed token =>
      simp only [Credentials.toVariables, List.cons_append, List.nil_append, List.map_cons,
        List.map_nil]
      decide
  | client url id secret =>
      simp only [Credentials.toVariables, List.cons_append, List.nil_append, List.map_cons,
        List.map_nil]
      decide

theorem lookup_toVariables (s : Settings) {name raw : String} (h : (name, raw) ∈ s.toVariables) :
    s.toVariables.lookup name = some raw :=
  Text.lookup_eq_some_of_mem (nodup_names_toVariables s) h

theorem required_eq_ok {name raw : String} {fault : VariableFault} (h : lookup name = some raw) :
    required lookup name fault = .ok raw := by
  rw [required, h]

theorem readOr_eq_ok {read? : List Char → Option α} {name raw : String} {default a : α}
    (h : lookup name = some raw)
    (hread : read? (Text.trim Text.isBlank raw.toList) = some a) :
    readOr lookup name read? default = .ok a := by
  simp [readOr, h, hread]

theorem natural?_toString {bound n : Nat} (h : n < bound) :
    natural? bound (Text.trim Text.isBlank (toString n).toList) = some n := by
  have hblank : ∀ c ∈ Decimal.render n, Text.isBlank c = false := fun c hc =>
    Text.isBlank_of_isDigit (Decimal.isDigit_of_mem_render hc)
  rw [Decimal.toList_toString, Text.trim_eq_self hblank]
  exact natural?_eq_some_iff.mpr ⟨_, .inl rfl, Decimal.read?_render n, h⟩

@[simp] theorem word64?_toString (n : UInt64) :
    word64? (Text.trim Text.isBlank (toString n.toNat).toList) = some n := by
  rw [word64?, natural?_toString n.toNat_lt_size, Option.map_some, UInt64.ofNat_toNat]

@[simp] theorem word32?_toString (n : UInt32) :
    word32? (Text.trim Text.isBlank (toString n.toNat).toList) = some n := by
  rw [word32?, natural?_toString n.toNat_lt_size, Option.map_some, UInt32.ofNat_toNat]

@[simp] theorem word16?_toString (n : UInt16) :
    word16? (Text.trim Text.isBlank (toString n.toNat).toList) = some n := by
  rw [word16?, natural?_toString n.toNat_lt_size, Option.map_some, UInt16.ofNat_toNat]

@[simp] theorem bool?_toString (b : Bool) :
    bool? (Text.trim Text.isBlank (toString b).toList) = some b := by
  cases b <;> rfl

@[simp] theorem backoff?_name (b : Retry.Backoff) :
    backoff? (Text.trim Text.isBlank b.name.toList) = some b := by
  cases b <;> decide

/-- A lookup finds the variables of settings as they are written. -/
def Finds (lookup : Lookup) (s : Settings) : Prop :=
  ∀ name raw, (name, raw) ∈ s.toVariables → lookup name = some raw

theorem Finds.readOr {s : Settings} {name raw : String} {read? : List Char → Option α}
    {default a : α} (h : Finds lookup s)
    (hread : read? (Text.trim Text.isBlank raw.toList) = some a)
    (hmem : (name, raw) ∈ s.toVariables) : readOr lookup name read? default = .ok a :=
  readOr_eq_ok (h name raw hmem) hread

theorem loadDirectory_of_finds {s : Settings} (h : Finds lookup s) :
    loadDirectory lookup = .ok s.directory := by
  refine bind_eq_ok_iff.mpr ⟨_, required_eq_ok (h _ s.directory.url (by simp [toVariables])), ?_⟩
  refine bind_eq_ok_iff.mpr
    ⟨_, h.readOr (word64?_toString s.directory.ttlSeconds) (by simp [toVariables]), ?_⟩
  refine bind_eq_ok_iff.mpr
    ⟨_, h.readOr (word64?_toString s.directory.cleanupSeconds) (by simp [toVariables]), ?_⟩
  refine bind_eq_ok_iff.mpr
    ⟨_, h.readOr (word32?_toString s.directory.attempts) (by simp [toVariables]), ?_⟩
  refine bind_eq_ok_iff.mpr
    ⟨_, h.readOr (word64?_toString s.directory.delayMillis) (by simp [toVariables]), ?_⟩
  refine bind_eq_ok_iff.mpr
    ⟨_, h.readOr (word64?_toString s.directory.maxDelayMillis) (by simp [toVariables]), ?_⟩
  refine bind_eq_ok_iff.mpr
    ⟨_, h.readOr (backoff?_name s.directory.backoff) (by simp [toVariables]), ?_⟩
  refine bind_eq_ok_iff.mpr
    ⟨_, h.readOr (word64?_toString s.directory.timeoutSeconds) (by simp [toVariables]), ?_⟩
  refine bind_eq_ok_iff.mpr
    ⟨_, h.readOr (bool?_toString s.directory.singleFlight) (by simp [toVariables]), ?_⟩
  rfl

theorem loadCredentials_toVariables (s : Settings) :
    loadCredentials (fun name => s.toVariables.lookup name) = .ok s.credentials := by
  cases hc : s.credentials with
  | fixed token =>
      have ht : s.toVariables.lookup Variable.token = some token :=
        lookup_toVariables s (by simp [toVariables, hc, Credentials.toVariables])
      simp only [loadCredentials, ht]
  | client url id secret =>
      have hnames : Variable.token ∉ s.toVariables.map Prod.fst := by
        simp only [toVariables, hc, Credentials.toVariables, List.cons_append, List.nil_append,
          List.map_cons, List.map_nil]
        decide
      have ht : s.toVariables.lookup Variable.token = none := by
        refine List.lookup_eq_none_iff.mpr fun v hv => ?_
        have hne : v.1 ≠ Variable.token := fun he => hnames (he ▸ List.mem_map_of_mem hv)
        simpa using hne.symm
      have hmem : ∀ v ∈ (Credentials.client url id secret).toVariables, v ∈ s.toVariables := by
        intro v hv
        simp [toVariables, hc, hv]
      simp only [loadCredentials, ht]
      refine bind_eq_ok_iff.mpr ⟨_, required_eq_ok (lookup_toVariables s (hmem _ (.head _))), ?_⟩
      refine bind_eq_ok_iff.mpr
        ⟨_, required_eq_ok (lookup_toVariables s (hmem _ (.tail _ (.head _)))), ?_⟩
      refine bind_eq_ok_iff.mpr
        ⟨_, required_eq_ok (lookup_toVariables s (hmem _ (.tail _ (.tail _ (.head _))))), ?_⟩
      rfl

theorem load_toVariables (s : Settings) :
    load (fun name => s.toVariables.lookup name) = .ok s := by
  have hfinds : Finds (fun name => s.toVariables.lookup name) s :=
    fun name raw => lookup_toVariables s
  refine bind_eq_ok_iff.mpr ⟨_, loadDirectory_of_finds hfinds, ?_⟩
  refine bind_eq_ok_iff.mpr ⟨_, loadCredentials_toVariables s, ?_⟩
  refine bind_eq_ok_iff.mpr
    ⟨_, hfinds.readOr (word16?_toString s.server.port) (by simp [toVariables]), ?_⟩
  have hhost : s.toVariables.lookup Variable.host = some s.server.host :=
    lookup_toVariables s (by simp [toVariables])
  have hlevel : s.toVariables.lookup Variable.logLevel = some s.logLevel :=
    lookup_toVariables s (by simp [toVariables])
  simp only [hhost, hlevel, Option.getD_some]

/-! ## The settings of variables -/

theorem met_readingOrder_iff (lookup : Lookup) :
    (∀ r ∈ readingOrder, r.Met lookup) ↔
      (lookup Variable.url).isSome ∧
      (∀ v ∈ directoryVariables ++ serverVariables, ∀ raw, lookup v.1 = some raw →
        v.2.Holds (Text.trim Text.isBlank raw.toList)) ∧
      ((lookup Variable.token).isSome ∨ ∀ v ∈ clientVariables, (lookup v.1).isSome) := by
  have hclient : (∀ r ∈ credentialRequirements, r.Met lookup) ↔
      (lookup Variable.token).isSome ∨ ∀ v ∈ clientVariables, (lookup v.1).isSome := by
    simp only [credentialRequirements, List.forall_mem_map, Requirement.Met]
    by_cases ht : (lookup Variable.token).isSome <;> simp [ht]
  rw [readingOrder, List.forall_mem_append, List.forall_mem_append, hclient]
  simp only [directoryRequirements, serverRequirements, List.forall_mem_cons, List.forall_mem_map,
    List.forall_mem_append, Requirement.Met]
  tauto

/-- What is reported names the variable of the requirement. -/
theorem exists_message_eq {r : Requirement} (hr : r ∈ readingOrder) (lookup : Lookup) :
    ∃ front back, (r.fault lookup).message = front ++ r.name ++ back := by
  have hmissing (name : String) : ∃ front back,
      (VariableFault.missing name).message = front ++ name ++ back := by
    refine ⟨"", " is required", ?_⟩
    change name ++ " is required" = _
    rw [String.empty_append (s := name)]
  cases r with
  | present name => exact hmissing name
  | typed name type =>
      refine ⟨"Invalid value for ", ": '" ++ (lookup name).getD "" ++ "'", ?_⟩
      change "Invalid value for " ++ name ++ ": '" ++ (lookup name).getD "" ++ "'" = _
      simp only [Requirement.name, String.append_assoc]
  | credential name fault =>
      have hmem : (name, fault) ∈ clientVariables := by
        simpa [readingOrder, directoryRequirements, credentialRequirements, serverRequirements]
          using hr
      simp only [clientVariables, List.mem_cons, Prod.mk.injEq, List.not_mem_nil, or_false] at hmem
      rcases hmem with ⟨rfl, rfl⟩ | ⟨rfl, rfl⟩ | ⟨rfl, rfl⟩
      · refine ⟨"", " or DIRECTORY_ACCESS_TOKEN is required", ?_⟩
        change "ACCESS_TOKEN_URL or DIRECTORY_ACCESS_TOKEN is required" = _
        simp only [Requirement.name, Variable.tokenUrl, String.reduceAppend]
      · exact hmissing Variable.clientId
      · exact hmissing Variable.clientSecret

/-- With a token, the variables of a client are not looked at. -/
theorem load_eq_of_token {other : Lookup} (ht : (lookup Variable.token).isSome)
    (hother : ∀ name, (∀ v ∈ clientVariables, name ≠ v.1) → other name = lookup name) :
    load other = load lookup := by
  obtain ⟨token, ht⟩ := Option.isSome_iff_exists.mp ht
  have hcredentials : loadCredentials other = loadCredentials lookup := by
    have ht' : other Variable.token = some token := by rw [hother _ (by decide), ht]
    simp only [loadCredentials, ht, ht']
  have hdirectory : loadDirectory other = loadDirectory lookup := by
    simp only [loadDirectory, required, readOr, hother Variable.url (by decide),
      hother Variable.ttl (by decide), hother Variable.cleanup (by decide),
      hother Variable.attempts (by decide), hother Variable.delay (by decide),
      hother Variable.maxDelay (by decide), hother Variable.backoff (by decide),
      hother Variable.timeout (by decide), hother Variable.singleFlight (by decide)]
  simp only [load, hdirectory, hcredentials, readOr, hother Variable.host (by decide),
    hother Variable.port (by decide), hother Variable.logLevel (by decide)]

/-- What loading comes to, whatever the variables are. -/
structure LoadSpec (lookup : Lookup) : Prop where
  loaded_iff : (∃ s, Startup.load lookup = .ok s) ↔
    (lookup Variable.url).isSome ∧
    (∀ v ∈ directoryVariables ++ serverVariables, ∀ raw, lookup v.1 = some raw →
      v.2.Holds (Text.trim Text.isBlank raw.toList)) ∧
    ((lookup Variable.token).isSome ∨ ∀ v ∈ clientVariables, (lookup v.1).isSome)
  refused_iff : ∀ failure, Startup.load lookup = .error failure ↔
    ∃ r, FirstUnmet lookup readingOrder r ∧ failure = .config (r.fault lookup).message
  named : ∀ r ∈ readingOrder, ∃ front back,
    (r.fault lookup).message = front ++ r.name ++ back
  idle : ∀ other : Lookup, (lookup Variable.token).isSome →
    (∀ name, (∀ v ∈ clientVariables, name ≠ v.1) → other name = lookup name) →
    Startup.load other = Startup.load lookup

/-- Settings are loaded exactly if the requirements are met, the first that is not is reported, and
settings that are written as variables are loaded as they were. -/
theorem loadSpec_and_load_toVariables :
    (∀ lookup : Lookup, LoadSpec lookup) ∧
    ∀ s : Settings, Startup.load (fun name => s.toVariables.lookup name) = .ok s := by
  constructor
  · intro lookup
    constructor
    case loaded_iff =>
      rw [← met_readingOrder_iff, ← (follows_load lookup).exists_ok_iff]
      exact exists_congr fun s => mapError_eq_ok_iff
    case refused_iff =>
      intro failure
      unfold Startup.load
      rw [mapError_eq_error_iff]
      constructor
      · rintro ⟨fault, hfault, rfl⟩
        obtain ⟨r, hr, rfl⟩ := (follows_load lookup).eq_error_iff.mp hfault
        exact ⟨r, hr, rfl⟩
      · rintro ⟨r, hr, rfl⟩
        exact ⟨_, (follows_load lookup).eq_error_iff.mpr ⟨r, hr, rfl⟩, rfl⟩
    case named =>
      intro r hr
      exact exists_message_eq hr lookup
    case idle =>
      intro other ht hother
      rw [Startup.load, load_eq_of_token ht hother, Startup.load]
  · intro s
    rw [Startup.load, load_toVariables]
    rfl

end Signpost.Settings
