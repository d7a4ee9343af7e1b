import Signpost.Proofs.Directory.Provenance
import Signpost.Proofs.Directory.Refresh
import Signpost.Proofs.Directory.Sharing

/-! # Failures of a waiter

A resolution that waits may sleep through several refreshes, of which some fail. The one that is
published last before the call returns decides it: the call fails only if that one did, even
where an earlier one has left an entry in the cache. -/

namespace Signpost

namespace Cache

theorem peek_eq_absent_iff {c : Cache} {key : String} {now : Time.Instant} :
    c.peek key now = .absent ↔ c.table.get? key = none := by
  unfold peek
  cases hg : c.table.get? key with
  | none => simp
  | some entry => by_cases hf : entry.isFresh now = true <;> simp [hf]

/-- A settled look-up gives the URL of the entry that it leaves. -/
theorem settle_fst (c : Cache) (key : String) (now : Time.Instant) :
    (c.settle key now).1 = ((c.settle key now).2.table.get? key).map (·.url) := by
  rw [get?_settle, if_pos rfl]
  unfold settle
  cases hg : c.table.get? key with
  | none => rfl
  | some entry => by_cases hf : entry.isFresh now = true <;> simp [hf, Option.filter_some]

end Cache

namespace Directory

variable {shelf : Shelf} {single : Bool} {h : List Note} {w : World}

/-! ## The last step of a resolution -/

/-- A look-up gives the URL of the entry that it leaves. -/
theorem Act.looked_eq {hub hub' : Hub} {me : Nat} {task : Task} {stage stage' : Stage}
    {round : Round} {stamp : Time.Instant} {url : Option Url}
    (ha : Act hub me task stage (.looked round stamp url) hub' stage') :
    url = (hub'.shelf.cache.table.get? (Hub.lookupKey task)).map (·.url) := by
  generalize hd : Deed.looked round stamp url = deed at ha
  cases ha with
  | fresh hp =>
      obtain ⟨rfl, rfl, rfl⟩ := Deed.looked.inj hd
      obtain ⟨entry, he, _, rfl⟩ := Cache.peek_eq_fresh_iff.mp hp
      simp [Hub.found_cache, Hub.withTally, he]
  | absent hp =>
      obtain ⟨rfl, rfl, rfl⟩ := Deed.looked.inj hd
      simp [Hub.found_cache, Hub.withTally, Cache.peek_eq_absent_iff.mp hp]
  | settle =>
      obtain ⟨rfl, rfl, rfl⟩ := Deed.looked.inj hd
      rw [Hub.settle_cache, Shelf.settle_fst, Cache.settle_fst]
  | _ => cases hd

/-- A resolution that ends with a look-up answers with what it gave. -/
theorem Act.answer_of_looked {hub hub' : Hub} {me : Nat} {task : Task} {stage : Stage}
    {round : Round} {stamp : Time.Instant} {url : Option Url} {answer : Answer}
    (ha : Act hub me task stage (.looked round stamp url) hub' (.done answer)) {id : Identifier}
    {kinds : List Identifier.Kind} (ht : task.resolution? = some (id, kinds)) :
    answer = .url (lookedUp id url) := by
  have found : ∀ (hub : Hub) (round : Round) (url : Option Url),
      Stage.done answer = (hub.found task round url).2 → answer = .url (lookedUp id url) := by
    intro hub round url hs
    rw [Hub.found_of_resolution ht] at hs
    cases url with
    | some url => cases round <;> exact Stage.done.inj hs
    | none =>
        cases round with
        | first => cases hs
        | second => exact Stage.done.inj hs
  generalize hd : Deed.looked round stamp url = deed at ha
  generalize hs : Stage.done answer = stage' at ha
  cases ha with
  | fresh | absent =>
      obtain ⟨rfl, rfl, rfl⟩ := Deed.looked.inj hd
      exact found _ _ _ hs
  | settle =>
      obtain ⟨rfl, rfl, rfl⟩ := Deed.looked.inj hd
      exact found _ _ _ hs
  | _ => cases hd

/-- A resolution with single flight that ends neither at its start nor with a look-up takes over
the failure of a refresh that decides it. -/
theorem Chronicle.failed_of_done (hc : Chronicle shelf true h w) {i : Nat} {task : Task}
    {stage : Stage} {deed : Deed} {hub : Hub} {answer : Answer}
    (hi : w.calls[i]? = some ⟨task, stage⟩) (ha : Act w.hub i task stage deed hub (.done answer))
    {id : Identifier} {kinds : List Identifier.Kind} (ht : task.resolution? = some (id, kinds))
    (hs : ∀ now, deed ≠ .started now) (hl : ∀ round stamp url, deed ≠ .looked round stamp url) :
    ∃ k f, DecidedAfter (h ++ [⟨i, deed⟩]) i k (.error f) ∧
      deed.ceiling = Deed.shared.ceiling ∧ answer = .url (.error f) := by
  have conclude : ∀ (hub : Hub) (now : Time.Instant) (outcome : Except Failure Nat),
      Stage.done answer = (hub.conclude now task outcome).2 →
      ∃ f, outcome = .error f ∧ answer = .url (.error f) := by
    intro hub now outcome hs
    rw [Hub.conclude_of_resolution ht] at hs
    cases outcome with
    | ok n => cases hs
    | error f => exact ⟨f, rfl, Stage.done.inj hs⟩
  generalize hstage : Stage.done answer = stage' at ha
  cases ha with
  | refuse => exact absurd rfl (hs _)
  | invalidate htask | clear htask => simp [htask, Task.resolution?] at ht
  | fresh | absent | settle => exact absurd rfl (hl _ _ _)
  | @share now seen _ hg =>
      obtain ⟨g, rfl⟩ := Option.isSome_iff_exists.mp ((hc.seen hi rfl).isSome (by simp [ht]))
      have ho := ((hc.seen hi rfl).eq_some_iff g).mp rfl
      obtain ⟨k, outcome, hd, hf⟩ := hc.decided_of_share ho (by simpa using hg)
      rw [Hub.share_of_resolution { w.hub with queue := w.hub.queue.tail } ht now hf] at hstage
      obtain ⟨f, rfl, hanswer⟩ := conclude _ _ _ hstage
      exact ⟨k, f, hd, rfl, hanswer⟩
  | @publish now outcome =>
      obtain ⟨f, rfl, hanswer⟩ := conclude _ _ _ hstage
      have hs : Standing h i id (.publishing true (.error f)) := hc.standing hi ht
      obtain ⟨g, ho⟩ := hs
      obtain ⟨p, hp⟩ := List.mem_iff_getElem?.mp ho
      refine ⟨h.length, f, ⟨.own (by simp), p, g, ?_, getElem?_append_of_some hp _⟩, rfl, hanswer⟩
      exact (List.getElem?_eq_some_iff.mp hp).1
  | conclude => exact absurd (hc.isRefreshing_eq hi) (by simp [Stage.isRefreshing, Stage.holdsGate])
  | @arrive now gated ticket report =>
      cases ho : report.outcome <;> simp [Hub.arrive, ho] at hstage
  | put htask => simp [htask, Task.resolution?] at ht
  | sweep => exact (hc.standing hi ht).elim
  | _ => cases hstage

theorem DecidedBy.published {i k : Nat} {outcome : Except Failure Nat}
    (hd : DecidedBy h i k outcome) : ∃ j, h[k]? = some ⟨j, .published outcome⟩ := by
  cases hd with
  | own hk => exact ⟨_, hk⟩
  | shared hk => exact ⟨_, hk⟩

/-- What decides a call at its newest note was published last. -/
theorem Chronicle.none_since_decided {i : Nat} {deed : Deed}
    (hc : Chronicle shelf single (h ++ [⟨i, deed⟩]) w)
    (hceil : deed.ceiling = Deed.shared.ceiling) {k : Nat} {outcome : Except Failure Nat}
    (hd : DecidedBy (h ++ [⟨i, deed⟩]) i k outcome) :
    NoneBetween (h ++ [⟨i, deed⟩]) k (h.length + 1) Note.isPublication := by
  have hlast : (h ++ [⟨i, deed⟩])[h.length]? = some ⟨i, deed⟩ := by simp
  intro m n hkm hml hn
  cases hd with
  | own hk =>
      obtain rfl := hc.position_eq hk hlast rfl hceil.symm
      omega
  | shared hk _ hshared hb =>
      obtain rfl := hc.position_eq hshared hlast rfl hceil.symm
      rcases Nat.lt_succ_iff_lt_or_eq.mp hml with hlt | rfl
      · exact hb m n hkm hlt hn
      · obtain rfl := Option.some.inj (hn.symm.trans hshared)
        rfl

/-! ## The answer of a waiter -/

/-- With single flight a resolution fails only with the refresh that decides it, and that one was
published last: every refresh that succeeded was published before it. Otherwise a resolution whose
key has an entry when it returns answers with the URL of that entry. -/
theorem Chronicle.answer_cases (hc : Chronicle shelf true h w) {i : Nat} {task : Task}
    {stage : Stage} {deed : Deed} {hub : Hub} {answer : Answer}
    (hi : w.calls[i]? = some ⟨task, stage⟩) (ha : Act w.hub i task stage deed hub (.done answer))
    {id : Identifier} {kinds : List Identifier.Kind} (ht : task.resolution? = some (id, kinds))
    (hs : ∀ now, deed ≠ .started now) {entry : Stored}
    (he : hub.shelf.cache.table.get? id.key = some entry) :
    answer = .url (.ok (id.locate entry.url)) ∨
      ∃ k f, DecidedAfter (h ++ [⟨i, deed⟩]) i k (.error f) ∧
        NoneBetween (h ++ [⟨i, deed⟩]) k (h.length + 1) Note.isPublication ∧
        answer = .url (.error f) := by
  by_cases hl : ∃ round stamp url, deed = .looked round stamp url
  · obtain ⟨round, stamp, url, rfl⟩ := hl
    have hurl := ha.looked_eq
    rw [Hub.lookupKey_of_resolution ht, he] at hurl
    left
    rw [ha.answer_of_looked ht, hurl]
    rfl
  · push Not at hl
    obtain ⟨k, f, hd, hceil, hanswer⟩ := hc.failed_of_done hi ha ht hs hl
    have hc' := hc.move (.act hi ha)
    exact .inr ⟨k, f, hd, hc'.none_since_decided hceil hd.decided, hanswer⟩

/-- A resolution with single flight that had started before its last step, and whose key has an
entry when it returns, answers with the URL of that entry or with the failure of the refresh that
decides it. That refresh was published last, after every refresh that succeeded. -/
theorem World.url_or_failed_of_run {events : List Event} {w₀ : World}
    (hr : (World.initial shelf true).run? events = some w₀) {event : Event}
    (hstep : w₀.step? event = some w) {i : Nat} (hunfinished : w₀.isFinished i = false)
    {task : Task} {answer : Answer} (hi : w.calls[i]? = some ⟨task, .done answer⟩)
    {id : Identifier} {kinds : List Identifier.Kind} (ht : task.resolution? = some (id, kinds))
    {now : Time.Instant} (hb : ⟨i, .started now⟩ ∈ (World.initial shelf true).history events)
    {entry : Stored} (he : w.hub.shelf.cache.table.get? id.key = some entry) :
    answer = .url (.ok (id.locate entry.url)) ∨
      ∃ k f, DecidedAfter ((World.initial shelf true).history (events ++ [event])) i k
          (.error f) ∧
        (∀ r j n, ((World.initial shelf true).history (events ++ [event]))[r]? =
          some ⟨j, .published (.ok n)⟩ → r < k) ∧ answer = .url (.error f) := by
  have hc := Chronicle.of_run hr
  obtain ⟨m, hm, hmove⟩ := Move.of_step hstep
  have hhistory : (World.initial shelf true).history (events ++ [event]) =
      (World.initial shelf true).history events ++ [m] := by
    rw [World.history_append hr]
    simp [World.history, hstep, hm]
  rw [hhistory]
  generalize (World.initial shelf true).history events = h at *
  obtain ⟨_, _, _, hready⟩ | ⟨_, hdone⟩ | ⟨hcall, stage, hj, ha⟩ := hmove.call_cases hi
  · cases hready
  · simp [World.isFinished, hdone, Stage.isFinished] at hunfinished
  · obtain ⟨_, deed⟩ := m
    obtain rfl : _ = i := hcall
    have hstarted : ∀ now, deed ≠ .started now := by
      rintro now rfl
      exact absurd ha.ceiling.2 (hc.rank_le_ceiling hj hb).not_gt
    rcases hc.answer_cases hj ha ht hstarted he with hurl | ⟨k, f, hd, hnone, hf⟩
    · exact .inl hurl
    · refine .inr ⟨k, f, hd, ?_, hf⟩
      intro r j n hok
      obtain ⟨j', hk⟩ := hd.decided.published
      rcases Nat.lt_trichotomy r k with hlt | rfl | hlt
      · exact hlt
      · exact absurd (hok.symm.trans hk) (by simp)
      · have hrl : r < h.length + 1 := by simpa using (List.getElem?_eq_some_iff.mp hok).1
        exact absurd (hnone r _ hlt hrl hok) (by simp [Note.isPublication, Deed.isPublication])

/-! ### A waiter that sleeps through a success and a failure -/

/-- A resolution misses and waits behind two refreshes. The first stores a listing with its key,
the second fails. -/
def outvotedRun : List Event :=
  let advance := List.map fun i => Event.advance i .epoch
  [.begin .refresh] ++ advance [0, 0, 0] ++ [.begin .refresh] ++ advance [1, 1] ++
    [.begin (.resolveService sampleService)] ++ advance [2, 2, 2, 2] ++
    [.arrive 0 .epoch ⟨.ok [⟨sampleService.key, sampleUrl 'x'⟩], 0, 1, 0⟩] ++
    advance [0, 0, 1] ++
    [.arrive 1 .epoch ⟨.error (.fetch 1 (.token "offline")), 1, 0, 0⟩] ++ advance [1]

def outvotedHistory : List Note :=
  (World.initial (.empty .tenHours) true).history (outvotedRun ++ [.advance 2 .epoch])

/-- The waiter fails with the second refresh, which was published after the first. -/
theorem url_or_failed_outvoted :
    ∃ w₀ w, (World.initial (.empty .tenHours) true).run? outvotedRun = some w₀ ∧
      w₀.step? (.advance 2 .epoch) = some w ∧ w₀.isFinished 2 = false ∧
      w.calls[2]? = some ⟨.resolveService sampleService,
        .done (.url (.error (.fetch 1 (.token "offline"))))⟩ ∧
      ⟨2, .started .epoch⟩ ∈ (World.initial (.empty .tenHours) true).history outvotedRun ∧
      ∃ entry, w.hub.shelf.cache.table.get? sampleService.key = some entry ∧
        (Answer.url (.error (.fetch 1 (.token "offline"))) =
            .url (.ok (sampleService.locate entry.url)) ∨
          ∃ k f, DecidedAfter outvotedHistory 2 k (.error f) ∧
            (∀ r j n, outvotedHistory[r]? = some ⟨j, .published (.ok n)⟩ → r < k) ∧
            Answer.url (.error (.fetch 1 (.token "offline"))) = .url (.error f)) := by
  have hb : ⟨2, .started .epoch⟩ ∈
      (World.initial (.empty .tenHours) true).history outvotedRun :=
    List.mem_of_getElem? (i := 8) rfl
  exact ⟨_, _, rfl, rfl, rfl, rfl, hb, _, rfl,
    World.url_or_failed_of_run rfl rfl rfl rfl rfl hb rfl⟩

/-- The first refresh succeeded during the resolution and its entry is fresh when the resolution
returns, which yet fails. -/
theorem failed_outvoted :
    ∃ w, (World.initial (.empty .tenHours) true).run?
        (outvotedRun ++ [.advance 2 .epoch]) = some w ∧
      outvotedHistory[8]? = some ⟨2, .started .epoch⟩ ∧
      outvotedHistory[13]? =
        some ⟨0, .stored [⟨sampleService.key, sampleUrl 'x'⟩] .epoch⟩ ∧
      outvotedHistory[14]? = some ⟨0, .published (.ok 1)⟩ ∧
      outvotedHistory[18]? = some ⟨2, .shared⟩ ∧
      w.hub.shelf.cache.peek sampleService.key .epoch = .fresh (sampleUrl 'x') ∧
      w.calls[2]? = some ⟨.resolveService sampleService,
        .done (.url (.error (.fetch 1 (.token "offline"))))⟩ :=
  ⟨_, rfl, rfl, rfl, rfl, rfl, rfl, rfl⟩

end Directory

end Signpost
