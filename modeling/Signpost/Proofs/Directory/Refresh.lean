import Signpost.Proofs.Directory.Chronicle

/-! # The course of a refresh

A refresh asks for a listing, learns how the fetch ended, stores the listing if there is one and is
published. What has come before is known at each stage of the call that refreshes, and a run can
be taken up again at each of its moments. -/

namespace Signpost.Directory

variable {shelf : Shelf} {single : Bool} {h : List Note} {w : World}

/-! ## Moments of a run -/

@[simp] theorem World.run?_append (w : World) (events later : List Event) :
    w.run? (events ++ later) = (w.run? events).bind fun w => w.run? later := by
  induction events generalizing w with
  | nil => rfl
  | cons e events ih =>
      simp only [List.cons_append, World.run?, Option.bind_assoc, ih]

theorem World.history_append {w' : World} {events : List Event} (hr : w.run? events = some w')
    (later : List Event) :
    w.history (events ++ later) = w.history events ++ w'.history later := by
  induction events generalizing w with
  | nil =>
      obtain rfl := Option.some.inj hr
      rfl
  | cons e events ih =>
      obtain ⟨next, hs, hr⟩ := Option.bind_eq_some_iff.mp hr
      obtain ⟨n, hn, _⟩ := Move.of_step hs
      simp [World.history, hs, hn, ih hr]

theorem World.length_history {w' : World} {events : List Event} (hr : w.run? events = some w') :
    (w.history events).length = events.length := by
  induction events generalizing w with
  | nil => rfl
  | cons e events ih =>
      obtain ⟨next, hs, hr⟩ := Option.bind_eq_some_iff.mp hr
      obtain ⟨n, hn, _⟩ := Move.of_step hs
      simp [World.history, hs, hn, ih hr]

/-- The world in which a run makes a note, and what was noted before. -/
theorem World.at_note {w' : World} {events : List Event} (hr : w.run? events = some w') {q : Nat}
    {n : Note} (hq : (w.history events)[q]? = some n) :
    ∃ w₁ w₂, w.run? (events.take q) = some w₁ ∧
      w.history (events.take q) = (w.history events).take q ∧ Move w₁ n w₂ ∧
      w.run? (events.take (q + 1)) = some w₂ := by
  have hlt : q < events.length := by
    rw [← World.length_history hr]
    exact (List.getElem?_eq_some_iff.mp hq).1
  have hsplit : events = events.take q ++ events[q] :: events.drop (q + 1) := by
    rw [List.getElem_cons_drop, List.take_append_drop]
  have hrun := hr
  rw [hsplit, World.run?_append] at hrun
  obtain ⟨w₁, h₁, hrest⟩ := Option.bind_eq_some_iff.mp hrun
  obtain ⟨w₂, hs, _⟩ := Option.bind_eq_some_iff.mp hrest
  obtain ⟨m, hm, hmove⟩ := Move.of_step hs
  have hlen : (w.history (events.take q)).length = q := by
    rw [World.length_history h₁, List.length_take, Nat.min_eq_left hlt.le]
  have hhist : w.history events =
      w.history (events.take q) ++ m :: w₂.history (events.drop (q + 1)) :=
    calc w.history events
        = w.history (events.take q ++ events[q] :: events.drop (q + 1)) :=
          congrArg w.history hsplit
      _ = w.history (events.take q) ++ w₁.history (events[q] :: events.drop (q + 1)) :=
          World.history_append h₁ _
      _ = w.history (events.take q) ++ m :: w₂.history (events.drop (q + 1)) := by
          simp [World.history, hs, hm]
  obtain rfl : m = n := by
    rw [hhist, List.getElem?_append_right hlen.le, hlen] at hq
    simpa using hq
  refine ⟨w₁, w₂, h₁, ?_, hmove, ?_⟩
  · rw [hhist, List.take_left' hlen]
  · rw [List.take_add_one, List.getElem?_eq_getElem hlt, World.run?_append, h₁]
    simp [World.run?, hs]

/-! ## The way of a call -/

/-- A call stays as it is where another begins. -/
theorem World.getElem?_begin {j : Nat} {call : Call} (hj : w.calls[j]? = some call)
    (task : Task) : (w.begin task).calls[j]? = some call := by
  rw [World.begin, List.getElem?_append_left (List.getElem?_eq_some_iff.mp hj).1, hj]

/-- No move takes a call further from its end. -/
theorem Move.rank_le {w' : World} {n : Note} (hm : Move w n w') {j : Nat} {call : Call}
    (hj : w.calls[j]? = some call) :
    ∃ call', w'.calls[j]? = some call' ∧ call'.stage.rank ≤ call.stage.rank := by
  have hlt := (List.getElem?_eq_some_iff.mp hj).1
  cases hm with
  | begin task =>
      exact ⟨call, World.getElem?_begin hj task, le_rfl⟩
  | @act i task stage deed hub stage' hi ha =>
      by_cases hij : i = j
      · subst hij
        obtain rfl := Option.some.inj (hj.symm.trans hi)
        exact ⟨⟨task, stage'⟩, List.getElem?_set_self hlt, (ha.ceiling.1.trans_lt ha.ceiling.2).le⟩
      · exact ⟨call, by rw [List.getElem?_set_ne hij, hj], le_rfl⟩

theorem World.rank_le_of_run {w' : World} {events : List Event} (hr : w.run? events = some w')
    {j : Nat} {call : Call} (hj : w.calls[j]? = some call) :
    ∃ call', w'.calls[j]? = some call' ∧ call'.stage.rank ≤ call.stage.rank := by
  induction events generalizing w call with
  | nil =>
      obtain rfl := Option.some.inj hr
      exact ⟨call, hj, le_rfl⟩
  | cons e events ih =>
      obtain ⟨next, hs, hr⟩ := Option.bind_eq_some_iff.mp hr
      obtain ⟨n, _, hm⟩ := Move.of_step hs
      obtain ⟨call₁, h₁, hle₁⟩ := hm.rank_le hj
      obtain ⟨call₂, h₂, hle₂⟩ := ih hr h₁
      exact ⟨call₂, h₂, hle₂.trans hle₁⟩

/-- Between two moments of a run no call gets further from its end. -/
theorem World.rank_le_of_take {events : List Event} {p q : Nat} (hpq : p ≤ q) {w₁ w₂ : World}
    (h₁ : w.run? (events.take p) = some w₁) (h₂ : w.run? (events.take q) = some w₂) {j : Nat}
    {c d : Call} (hc : w₁.calls[j]? = some c) (hd : w₂.calls[j]? = some d) :
    d.stage.rank ≤ c.stage.rank := by
  have hsplit : events.take q = events.take p ++ (events.take q).drop p := by
    have := List.take_append_drop p (events.take q)
    rwa [List.take_take, Nat.min_eq_left hpq, eq_comm] at this
  rw [hsplit, World.run?_append, h₁] at h₂
  obtain ⟨d', hd', hle⟩ := World.rank_le_of_run h₂ hc
  obtain rfl := Option.some.inj (hd.symm.trans hd')
  exact hle

/-! ## Fetching, storing, publishing -/

/-- The end of a refresh: its listing is stored, or its fetch has failed. -/
inductive Ended (h : List Note) (j : Nat) : Except Failure Nat → Prop where
  | listed {entries stamp} (hs : ⟨j, .stored entries stamp⟩ ∈ h) :
      Ended h j (.ok entries.length)
  | failed {f} (ha : ⟨j, .arrived (.error f)⟩ ∈ h) : Ended h j (.error f)

/-- What a call that refreshes has behind it at each stage. -/
def Course (h : List Note) (j : Nat) : Stage → Prop
  | .fetching gated _ => ⟨j, .fetched gated⟩ ∈ h
  | .storing gated entries _ => ⟨j, .fetched gated⟩ ∈ h ∧ ⟨j, .arrived (.ok entries)⟩ ∈ h
  | .publishing gated outcome => ⟨j, .fetched gated⟩ ∈ h ∧ Ended h j outcome
  | _ => True

theorem Ended.mono {l : List Note} (hl : h ⊆ l) {j : Nat} {outcome : Except Failure Nat}
    (he : Ended h j outcome) : Ended l j outcome := by
  cases he with
  | listed hs => exact .listed (hl hs)
  | failed ha => exact .failed (hl ha)

theorem Course.mono {l : List Note} (hl : h ⊆ l) {j : Nat} {stage : Stage}
    (hs : Course h j stage) : Course l j stage := by
  cases stage with
  | fetching => exact hl hs
  | storing => exact ⟨hl hs.1, hl hs.2⟩
  | publishing => exact ⟨hl hs.1, hs.2.mono hl⟩
  | _ => trivial

theorem Course.act {hub hub' : Hub} {j : Nat} {task : Task} {stage stage' : Stage} {deed : Deed}
    (ha : Act hub j task stage deed hub' stage') (hs : Course h j stage) :
    Course (h ++ [⟨j, deed⟩]) j stage' := by
  have found := Hub.found_stage (P := Course (h ++ [⟨j, deed⟩]) j) trivial fun _ => trivial
  have conclude := Hub.conclude_stage (P := Course (h ++ [⟨j, deed⟩]) j) (fun _ => trivial)
    fun _ => trivial
  have hold : h ⊆ h ++ [⟨j, deed⟩] := List.subset_append_left _ _
  cases ha with
  | fresh | absent | settle => exact found _ _ _ _
  | share =>
      rw [Hub.share_eq]
      exact conclude _ _ _ _
  | publish | conclude => exact conclude _ _ _ _
  | fetchAlone | enter => simp [Course]
  | @arrive now gated ticket report =>
      have hf : ⟨j, .fetched gated⟩ ∈ h := hs
      cases hr : report.outcome <;> rw [hr] at hold <;> simp only [Hub.arrive, hr]
      · exact ⟨hold hf, .failed (by simp)⟩
      · exact ⟨hold hf, by simp⟩
  | store =>
      exact ⟨hold hs.1, .listed (List.mem_append_right _ (List.mem_singleton_self _))⟩
  | _ => trivial

theorem Chronicle.course (hc : Chronicle shelf single h w) {j : Nat} {call : Call}
    (hj : w.calls[j]? = some call) : Course h j call.stage := by
  refine hc.calls (P := fun h j call => Course h j call.stage) ?_ ?_ ?_ hj
  · intro h w _ task
    trivial
  · intro h n j call _ hs
    exact hs.mono (List.subset_append_left _ _)
  · intro h w j task stage deed hub stage' _ _ ha hs
    exact hs.act ha

/-- A listing that is stored was asked for before by the same call, and has arrived since. -/
theorem Chronicle.of_stored (hc : Chronicle shelf single h w) {s j : Nat}
    {entries : List Listing.Entry} {stamp : Time.Instant}
    (hs : h[s]? = some ⟨j, .stored entries stamp⟩) :
    ∃ f a gated, f < a ∧ a < s ∧ h[f]? = some ⟨j, .fetched gated⟩ ∧
      h[a]? = some ⟨j, .arrived (.ok entries)⟩ := by
  obtain ⟨w₁, w₂, hc₁, hm, _⟩ := hc.split hs
  cases hm with
  | act hj ha =>
      cases ha with
      | @store gated =>
          have hcourse : Course (h.take s) j (.storing gated entries stamp) := hc₁.course hj
          obtain ⟨f, hf⟩ := List.mem_iff_getElem?.mp (List.mem_of_mem_take hcourse.1)
          obtain ⟨a, har⟩ := List.mem_iff_getElem?.mp (List.mem_of_mem_take hcourse.2)
          refine ⟨f, a, gated, ?_, ?_, hf, har⟩
          · exact hc.lt_of_ceiling hf har rfl (by simp [Deed.ceiling])
          · exact hc.lt_of_ceiling har hs rfl (by simp [Deed.ceiling])

/-- A refresh that is published has come to its end before. -/
theorem Chronicle.ended_of_published (hc : Chronicle shelf single h w) {k j : Nat}
    {outcome : Except Failure Nat} (hk : h[k]? = some ⟨j, .published outcome⟩) :
    Ended (h.take k) j outcome := by
  obtain ⟨w₁, w₂, hc₁, hm, _⟩ := hc.split hk
  cases hm with
  | act hj ha =>
      cases ha with
      | publish =>
          have hcourse : Course (h.take k) j (.publishing true outcome) := hc₁.course hj
          exact hcourse.2

end Signpost.Directory
