import Mathlib.Data.List.Induction
import Signpost.Proofs.Directory.SingleFlight

/-! # Shared outcomes

With single flight one published refresh decides each resolution that missed: its own, or the one
published last when it enters the gate. The refresh is newer than what the resolution observed,
so that no resolution takes over an outcome from before its miss. -/

namespace Signpost.Directory

variable {shelf : Shelf} {single : Bool} {h : List Note} {w : World}

/-! ## The publication before a position -/

theorem Note.eq_published {n : Note} (hn : n.isPublication = true) :
    ∃ j outcome, n = ⟨j, .published outcome⟩ := by
  obtain ⟨j, deed⟩ := n
  cases deed with
  | published outcome => exact ⟨j, outcome, rfl⟩
  | _ => cases hn

/-- Where more is published than at an earlier position, some publication since is the last one,
and the failure that is kept is the one it ended with. -/
theorem exists_last_publication {p : Nat}
    (hlt : publications (h.take p) < publications h) :
    ∃ k j outcome, p ≤ k ∧ h[k]? = some ⟨j, .published outcome⟩ ∧
      NoneBetween h k h.length Note.isPublication ∧ lastFailure h = Hub.failure? outcome := by
  induction h using List.reverseRecOn with
  | nil => simp at hlt
  | append_singleton h n ih =>
      have hp : p ≤ h.length := by
        by_contra hp
        rw [List.take_of_length_le (by simp; omega)] at hlt
        exact absurd hlt (lt_irrefl _)
      rw [List.take_append_of_le_length hp, publications_append] at hlt
      have hl : lastFailure (h ++ [n]) = n.deed.failureLeft (lastFailure h) := by
        rw [lastFailure, List.foldl_append]
        rfl
      by_cases hn : n.isPublication = true
      · obtain ⟨j, outcome, rfl⟩ := Note.eq_published hn
        refine ⟨h.length, j, outcome, hp, by simp, ?_, hl⟩
        intro k m hk hkl
        rw [List.length_append, List.length_singleton] at hkl
        omega
      · rw [Bool.not_eq_true] at hn
        obtain ⟨k, j, outcome, hpk, hk, hb, hf⟩ := ih (by simpa [hn] using hlt)
        refine ⟨k, j, outcome, hpk, getElem?_append_of_some hk _, hb.snoc hn, ?_⟩
        rw [hl, Deed.failureLeft_of_isPublication hn, hf]

/-! ## What decides a resolution -/

/-- The refresh published at position `k` decides call `i`: the call published it itself, or took
its outcome over when it entered the gate, where it was the last one published. -/
inductive DecidedBy (h : List Note) (i k : Nat) (outcome : Except Failure Nat) : Prop where
  | own (hk : h[k]? = some ⟨i, .published outcome⟩)
  | shared {j m : Nat} (hk : h[k]? = some ⟨j, .published outcome⟩) (hkm : k < m)
      (hm : h[m]? = some ⟨i, .shared⟩) (hb : NoneBetween h k m Note.isPublication)

theorem DecidedBy.lt_length {i k : Nat} {outcome : Except Failure Nat}
    (hd : DecidedBy h i k outcome) : k < h.length := by
  cases hd with
  | own hk => exact (List.getElem?_eq_some_iff.mp hk).1
  | shared hk => exact (List.getElem?_eq_some_iff.mp hk).1

theorem DecidedBy.append {i k : Nat} {outcome : Except Failure Nat}
    (hd : DecidedBy h i k outcome) (l : List Note) : DecidedBy (h ++ l) i k outcome := by
  cases hd with
  | own hk => exact .own (getElem?_append_of_some hk l)
  | shared hk hkm hm hb =>
      have hml := (List.getElem?_eq_some_iff.mp hm).1
      exact .shared (getElem?_append_of_some hk l) hkm (getElem?_append_of_some hm l)
        (hb.append hml.le l)

/-- One refresh decides a call. -/
theorem Chronicle.decidedBy_unique (hc : Chronicle shelf single h w) {i k k' : Nat}
    {o o' : Except Failure Nat} (hd : DecidedBy h i k o) (hd' : DecidedBy h i k' o') :
    k' = k := by
  cases hd with
  | own hk =>
      cases hd' with
      | own hk' => exact hc.position_eq hk' hk rfl rfl
      | shared _ _ hm' =>
          obtain rfl := hc.position_eq hk hm' rfl rfl
          simp [hk] at hm'
  | shared hk hkm hm hb =>
      cases hd' with
      | own hk' =>
          obtain rfl := hc.position_eq hk' hm rfl rfl
          simp [hk'] at hm
      | shared hk' hkm' hm' hb' =>
          obtain rfl := hc.position_eq hm hm' rfl rfl
          rcases Nat.lt_trichotomy k k' with hlt | he | hlt
          · exact absurd (hb k' _ hlt hkm' hk') (by simp [Note.isPublication, Deed.isPublication])
          · exact he.symm
          · exact absurd (hb' k _ hlt hkm hk) (by simp [Note.isPublication, Deed.isPublication])

/-- A refresh that decides a call was published after the call observed the generation. -/
structure DecidedAfter (h : List Note) (i k : Nat) (outcome : Except Failure Nat) : Prop where
  decided : DecidedBy h i k outcome
  observed : ∃ p g, p < k ∧ h[p]? = some ⟨i, .observed g⟩

theorem DecidedAfter.append {i k : Nat} {outcome : Except Failure Nat}
    (hd : DecidedAfter h i k outcome) (l : List Note) : DecidedAfter (h ++ l) i k outcome := by
  obtain ⟨p, g, hpk, hp⟩ := hd.observed
  exact ⟨hd.decided.append l, p, g, hpk, getElem?_append_of_some hp l⟩

/-! ## The answer of a decided resolution -/

/-- The result of a look-up that no refresh follows. -/
def lookedUp (id : Identifier) : Option Url → Except Failure Url
  | some url => .ok (id.locate url)
  | none => .error (.notFound id.key)

/-- The answer that follows on a refresh: its failure, or what a look-up after it gave. -/
def AnswersFrom (h : List Note) (i : Nat) (id : Identifier) (k : Nat) (answer : Answer) :
    Except Failure Nat → Prop
  | .error f => answer = .url (.error f)
  | .ok _ => ∃ m stamp url, k < m ∧ h[m]? = some ⟨i, .looked .second stamp url⟩ ∧
      answer = .url (lookedUp id url)

theorem AnswersFrom.append {i k : Nat} {id : Identifier} {answer : Answer}
    {outcome : Except Failure Nat} (ha : AnswersFrom h i id k answer outcome) (l : List Note) :
    AnswersFrom (h ++ l) i id k answer outcome := by
  cases outcome with
  | error f => exact ha
  | ok _ =>
      obtain ⟨m, stamp, url, hkm, hm, ha⟩ := ha
      exact ⟨m, stamp, url, hkm, getElem?_append_of_some hm l, ha⟩

/-- The answer of a call follows on a refresh that decides it. -/
def Decision (h : List Note) (i : Nat) (id : Identifier) (answer : Answer) : Prop :=
  ∃ k outcome, DecidedAfter h i k outcome ∧ AnswersFrom h i id k answer outcome

/-- What is known of a resolution at each stage. -/
def Standing (h : List Note) (i : Nat) (id : Identifier) : Stage → Prop
  | .fetching _ _ | .storing _ _ _ | .publishing _ _ => ∃ g, ⟨i, .observed g⟩ ∈ h
  | .peeking .second _ | .settling .second _ => ∃ k n, DecidedAfter h i k (.ok n)
  | .writing _ => False
  | .done answer => (∃ stamp, ⟨i, .looked .first stamp none⟩ ∈ h) → Decision h i id answer
  | _ => True

theorem Standing.append {i : Nat} {id : Identifier} {stage : Stage}
    (hs : Standing h i id stage) {n : Note} (hn : ∀ stamp, n ≠ ⟨i, .looked .first stamp none⟩) :
    Standing (h ++ [n]) i id stage := by
  have decided : (∃ k n, DecidedAfter h i k (.ok n)) →
      ∃ k m, DecidedAfter (h ++ [n]) i k (.ok m) := by
    rintro ⟨k, m, hd⟩
    exact ⟨k, m, hd.append _⟩
  have observed : (∃ g, ⟨i, .observed g⟩ ∈ h) → ∃ g, ⟨i, .observed g⟩ ∈ h ++ [n] := by
    rintro ⟨g, ho⟩
    exact ⟨g, List.mem_append_left _ ho⟩
  cases stage with
  | fetching | storing | publishing => exact observed hs
  | peeking round | settling round =>
      cases round with
      | first => trivial
      | second => exact decided hs
  | done answer =>
      rintro ⟨stamp, hmem⟩
      have hmem : ⟨i, .looked .first stamp none⟩ ∈ h := by
        simpa [(hn stamp).symm] using hmem
      obtain ⟨k, outcome, hd, ha⟩ := hs ⟨stamp, hmem⟩
      exact ⟨k, outcome, hd.append _, ha.append _⟩
  | writing => exact hs
  | _ => trivial

/-! ## The steps of a resolution -/

/-- A call that has not missed its first look-up. -/
theorem Chronicle.not_missed (hc : Chronicle shelf single h w) {j : Nat} {call : Call}
    (hj : w.calls[j]? = some call) (hr : 9 < call.stage.rank) (stamp : Time.Instant) :
    ⟨j, .looked .first stamp none⟩ ∉ h :=
  fun hn => absurd (hc.rank_le_ceiling hj hn) hr.not_ge

/-- The end of a look-up. -/
theorem Standing.found {hub : Hub} {i : Nat} {task : Task} {id : Identifier}
    {kinds : List Identifier.Kind} (ht : task.resolution? = some (id, kinds)) {round : Round}
    {stamp : Time.Instant} {url : Option Url}
    (first : round = .first → ∀ stamp, ⟨i, .looked .first stamp none⟩ ∉ h)
    (second : round = .second → ∃ k n, DecidedAfter h i k (.ok n)) :
    Standing (h ++ [⟨i, .looked round stamp url⟩]) i id (hub.found task round url).2 := by
  rw [Hub.found_of_resolution ht]
  cases round with
  | first =>
      cases url with
      | none => trivial
      | some url =>
          rintro ⟨stamp', hmem⟩
          exact absurd (by simpa using hmem) (first rfl stamp')
  | second =>
      obtain ⟨k, n, hd⟩ := second rfl
      have ha : AnswersFrom (h ++ [⟨i, .looked .second stamp url⟩]) i id k
          (.url (lookedUp id url)) (.ok n) :=
        ⟨h.length, stamp, url, hd.decided.lt_length, by simp, rfl⟩
      cases url with
      | none => exact fun _ => ⟨k, .ok n, hd.append _, ha⟩
      | some url => exact fun _ => ⟨k, .ok n, hd.append _, ha⟩

/-- What follows on a refresh that decides a call. -/
theorem Standing.conclude {hub : Hub} {now : Time.Instant} {i k : Nat} {task : Task}
    {id : Identifier} {kinds : List Identifier.Kind}
    (ht : task.resolution? = some (id, kinds)) {outcome : Except Failure Nat}
    (hd : DecidedAfter h i k outcome) :
    Standing h i id (hub.conclude now task outcome).2 := by
  rw [Hub.conclude_of_resolution ht]
  cases outcome with
  | ok n => exact ⟨k, n, hd⟩
  | error f => exact fun _ => ⟨k, .error f, hd, rfl⟩

/-- A call whose observed generation is past shares the outcome that was published last. -/
theorem Chronicle.decided_of_share (hc : Chronicle shelf single h w) {i : Nat} {g : Nat}
    (ho : ⟨i, .observed g⟩ ∈ h) (hg : g ≠ w.hub.generation) :
    ∃ k outcome, DecidedAfter (h ++ [⟨i, .shared⟩]) i k outcome ∧
      w.hub.lastFailure = Hub.failure? outcome := by
  have hlt := lt_of_le_of_ne (hc.observed_le ho) hg
  obtain ⟨p, hp⟩ := List.mem_iff_getElem?.mp ho
  rw [hc.observed_eq hp, hc.gate.generation_eq] at hlt
  obtain ⟨k, j, outcome, hpk, hk, hb, hf⟩ := exists_last_publication hlt
  have hne : p ≠ k := by
    rintro rfl
    simp [hp] at hk
  refine ⟨k, outcome, ⟨?_, p, g, lt_of_le_of_ne hpk hne, getElem?_append_of_some hp _⟩, ?_⟩
  · exact .shared (getElem?_append_of_some hk _) (List.getElem?_eq_some_iff.mp hk).1 (by simp)
      (hb.append le_rfl _)
  · exact hc.gate.lastFailure_eq.trans hf

/-- Taking an outcome over is concluding with it. -/
theorem Hub.share_of_resolution (hub : Hub) {task : Task} {id : Identifier}
    {kinds : List Identifier.Kind} (ht : task.resolution? = some (id, kinds))
    (now : Time.Instant) {outcome : Except Failure Nat}
    (ho : hub.lastFailure = Hub.failure? outcome) :
    (hub.share now task).2 = (hub.conclude now task outcome).2 := by
  rw [Hub.share_eq, Hub.conclude_of_resolution ht, Hub.conclude_of_resolution ht, ho]
  cases outcome <;> rfl

theorem Chronicle.standing_act (hc : Chronicle shelf true h w) {j : Nat} {task : Task}
    {stage stage' : Stage} {deed : Deed} {hub : Hub} {id : Identifier}
    {kinds : List Identifier.Kind} (hj : w.calls[j]? = some ⟨task, stage⟩)
    (ha : Act w.hub j task stage deed hub stage') (ht : task.resolution? = some (id, kinds))
    (hs : Standing h j id stage) : Standing (h ++ [⟨j, deed⟩]) j id stage' := by
  have missed := hc.not_missed hj
  cases ha with
  | refuse =>
      rintro ⟨stamp, hmem⟩
      exact absurd (by simpa using hmem) (missed (by simp [Stage.rank]) stamp)
  | get htask | refresh htask | invalidate htask | clear htask =>
      simp [htask, Task.resolution?] at ht
  | prepare htask =>
      obtain rfl | ⟨key, url, rfl⟩ := htask <;> simp [Task.resolution?] at ht
  | @fresh round | @absent round | @settle round =>
      refine .found ht ?_ ?_
      · rintro rfl
        exact missed (by simp [Stage.rank])
      · rintro rfl
        exact hs
  | @expired round stamp =>
      cases round with
      | first => trivial
      | second =>
          have hsettle : Standing h j id (.settling .second stamp) := hs
          exact hsettle.append (by simp)
  | fetchAlone hn => exact absurd hc.gate.singleFlight_eq (by simp [hn])
  | enter =>
      obtain ⟨g, rfl⟩ := Option.isSome_iff_exists.mp ((hc.seen hj rfl).isSome (by simp [ht]))
      exact ⟨g, List.mem_append_left _ (((hc.seen hj rfl).eq_some_iff g).mp rfl)⟩
  | @share now seen _ hg =>
      obtain ⟨g, rfl⟩ := Option.isSome_iff_exists.mp ((hc.seen hj rfl).isSome (by simp [ht]))
      have ho := ((hc.seen hj rfl).eq_some_iff g).mp rfl
      obtain ⟨k, outcome, hd, hf⟩ := hc.decided_of_share ho (by simpa using hg)
      rw [Hub.share_of_resolution { w.hub with queue := w.hub.queue.tail } ht now hf]
      exact .conclude ht hd
  | @arrive now gated ticket report =>
      obtain ⟨g, ho⟩ := hs
      cases hr : report.outcome <;> simp only [Hub.arrive, hr] <;>
        exact ⟨g, List.mem_append_left _ ho⟩
  | store =>
      obtain ⟨g, ho⟩ := hs
      exact ⟨g, List.mem_append_left _ ho⟩
  | @publish now outcome =>
      obtain ⟨g, ho⟩ := hs
      obtain ⟨p, hp⟩ := List.mem_iff_getElem?.mp ho
      refine .conclude (k := h.length) ht ⟨.own (by simp), p, g, ?_, ?_⟩
      · exact (List.getElem?_eq_some_iff.mp hp).1
      · exact getElem?_append_of_some hp _
  | conclude => exact absurd (hc.isRefreshing_eq hj) (by simp [Stage.isRefreshing, Stage.holdsGate])
  | put | sweep => exact hs.elim
  | _ => trivial

theorem Chronicle.standing (hc : Chronicle shelf true h w) {j : Nat} {call : Call}
    {id : Identifier} {kinds : List Identifier.Kind} (hj : w.calls[j]? = some call)
    (ht : call.task.resolution? = some (id, kinds)) : Standing h j id call.stage := by
  refine hc.calls (P := fun h j call => ∀ id kinds, call.task.resolution? = some (id, kinds) →
    Standing h j id call.stage) ?_ ?_ ?_ hj id kinds ht
  · intro h w _ task id kinds _
    trivial
  · intro h n j call hne hp id kinds ht
    exact (hp id kinds ht).append fun stamp hn => hne (congrArg Note.call hn)
  · intro h w j task stage deed hub stage' hc hj ha hp id kinds ht
    exact hc.standing_act hj ha ht (hp id kinds ht)

/-! ## Outcomes are shared but never replayed -/

/-- With single flight the answer of a resolution that missed its first look-up follows on the one
refresh that decides it, published after the resolution observed the generation. -/
theorem World.decision_of_run {events : List Event} {w : World}
    (hr : (World.initial shelf true).run? events = some w) {i : Nat} {task : Task}
    {answer : Answer} (hi : w.calls[i]? = some ⟨task, .done answer⟩) {id : Identifier}
    {kinds : List Identifier.Kind} (ht : task.resolution? = some (id, kinds))
    {stamp : Time.Instant}
    (hm : ⟨i, .looked .first stamp none⟩ ∈ (World.initial shelf true).history events) :
    ∃ k outcome, DecidedAfter ((World.initial shelf true).history events) i k outcome ∧
      (∀ k' outcome', DecidedBy ((World.initial shelf true).history events) i k' outcome' →
        k' = k) ∧
      AnswersFrom ((World.initial shelf true).history events) i id k answer outcome := by
  have hc := Chronicle.of_run hr
  obtain ⟨k, outcome, hd, ha⟩ := hc.standing hi ht ⟨stamp, hm⟩
  refine ⟨k, outcome, hd, ?_, ha⟩
  intro k' outcome' hd'
  exact hc.decidedBy_unique hd.decided hd'

/-- In the contended run the second resolution missed and shares the failure of the refresh. -/
theorem decision_contended :
    ∃ w, (World.initial (.empty .tenHours) true).run? contendedRun = some w ∧
      w.calls[2]? =
        some ⟨.resolve sampleService, .done (.url (.error (.internal "second")))⟩ ∧
      ⟨2, .looked .first .epoch none⟩ ∈ contendedHistory ∧
      ∃ k outcome, DecidedAfter contendedHistory 2 k outcome ∧
        (∀ k' outcome', DecidedBy contendedHistory 2 k' outcome' → k' = k) ∧
        AnswersFrom contendedHistory 2 sampleService k
          (.url (.error (.internal "second"))) outcome := by
  have hm : ⟨2, .looked .first .epoch none⟩ ∈ contendedHistory :=
    List.mem_of_getElem? (i := 6) rfl
  exact ⟨_, rfl, rfl, hm, World.decision_of_run rfl rfl rfl hm⟩

end Signpost.Directory
