import Signpost.Proofs.Cache.Operations

/-! # Concurrent operations on a cache

Calls of the operations run at once and lock the cache in any order. A look-up that sees an expired
entry lets go of the cache and locks it again, and others may run in between; every other operation
locks it once. Still each call can be placed at one moment at which it had the cache locked. -/

namespace Signpost.Shelf

/-! ## Calls and their locks -/

/-- Where a call stands. Between its two locks a look-up has seen an expired entry. -/
inductive Phase where
  | waiting
  | sawExpired
  | done (reply : Reply)

structure Call where
  op : Operation
  phase : Phase

/-- What a call does the next time that it has the cache locked. -/
def Call.locked? (s : Shelf) : Call → Option (Phase × Shelf)
  | ⟨.get key now, .waiting⟩ =>
    match s.peek key now with
    | (.fresh url, s) => some (.done (.found (some url)), s)
    | (.absent, s) => some (.done (.found none), s)
    | (.expired, s) => some (.sawExpired, s)
  | ⟨.get key now, .sawExpired⟩ =>
    some (.done (.found (s.settle key now).1), (s.settle key now).2)
  | ⟨op, .waiting⟩ => some (.done (s.perform op).1, (s.perform op).2)
  | ⟨_, _⟩ => none

/-- A cache and the calls made so far. A task that makes several calls makes each when it has the
reply to the one before. -/
structure Pool where
  shelf : Shelf
  calls : List Call

inductive Event where
  | call (op : Operation)
  | lock (i : Nat)

namespace Pool

def step? (p : Pool) : Event → Option Pool
  | .call op => some { p with calls := p.calls ++ [⟨op, .waiting⟩] }
  | .lock i => do
    let call ← p.calls[i]?
    let (phase, shelf) ← call.locked? p.shelf
    some ⟨shelf, p.calls.set i { call with phase }⟩

/-- The pool after events in order, if each can happen. -/
def run? (p : Pool) (events : List Event) : Option Pool :=
  events.foldlM step? p

@[simp] theorem run?_append (p : Pool) (events more : List Event) :
    p.run? (events ++ more) = (p.run? events).bind (·.run? more) :=
  List.foldlM_append

@[simp] theorem run?_nil (p : Pool) : p.run? [] = some p :=
  rfl

@[simp] theorem run?_cons (p : Pool) (e : Event) (events : List Event) :
    p.run? (e :: events) = (p.step? e).bind (·.run? events) :=
  List.foldlM_cons

theorem run?_append_singleton_eq_some_iff {p next : Pool} {events : List Event} {e : Event} :
    p.run? (events ++ [e]) = some next ↔
      ∃ mid, p.run? events = some mid ∧ mid.step? e = some next := by
  simp [Option.bind_eq_some_iff]

theorem step?_lock_eq_some_iff {p next : Pool} {i : Nat} :
    p.step? (.lock i) = some next ↔ ∃ call phase shelf, p.calls[i]? = some call ∧
      call.locked? p.shelf = some (phase, shelf) ∧
      next = ⟨shelf, p.calls.set i { call with phase }⟩ := by
  simp only [step?, Option.bind_eq_bind, Option.bind_eq_some_iff, Prod.exists, Option.some.injEq]
  grind

end Pool

/-- A look-up that is told at its first lock has done all of it there. -/
theorem peek_eq_get (s : Shelf) (key : String) (now : Time.Instant) :
    match s.peek key now with
    | (.fresh url, s') => s.get key now = (some url, s')
    | (.absent, s') => s.get key now = (none, s')
    | (.expired, s') => s' = s := by
  unfold get peek
  cases s.cache.peek key now <;> rfl

/-- Under a lock a call that has no reply yet does its whole operation, or sees an expired entry
and leaves the cache alone. -/
theorem Call.of_locked? {c : Call} {s s' : Shelf} {phase : Phase}
    (h : c.locked? s = some (phase, s')) :
    (∀ reply, c.phase ≠ .done reply) ∧
      ((phase = .sawExpired ∧ s' = s) ∨
        ∃ reply, phase = .done reply ∧ s.perform c.op = (reply, s')) := by
  obtain ⟨op, ph⟩ := c
  -- A look-up is done under its first lock unless it sees an expired entry, and under its second
  -- lock always, because there it looks again.
  cases ph with
  | done reply => cases op <;> cases h
  | sawExpired =>
      cases op with
      | get key now =>
          obtain ⟨rfl, rfl⟩ := Prod.mk.inj (Option.some.inj h)
          refine ⟨fun _ => nofun, .inr ⟨_, rfl, ?_⟩⟩
          rw [settle_eq_get]
          rfl
      | _ => cases h
  | waiting =>
      refine ⟨fun _ => nofun, ?_⟩
      cases op with
      | get key now =>
          have hget := s.peek_eq_get key now
          rcases hp : s.peek key now with ⟨sight, s₁⟩
          simp only [locked?, hp] at h hget
          cases sight with
          | fresh url =>
              obtain ⟨rfl, rfl⟩ := Prod.mk.inj (Option.some.inj h)
              exact .inr ⟨_, rfl, by simp only [perform, hget]⟩
          | expired =>
              obtain ⟨rfl, rfl⟩ := Prod.mk.inj (Option.some.inj h)
              exact .inl ⟨rfl, hget⟩
          | absent =>
              obtain ⟨rfl, rfl⟩ := Prod.mk.inj (Option.some.inj h)
              exact .inr ⟨_, rfl, by simp only [perform, hget]⟩
      | _ =>
          obtain ⟨rfl, rfl⟩ := Prod.mk.inj (Option.some.inj h)
          exact .inr ⟨_, rfl, rfl⟩

/-! ## Sequential orders -/

/-- The turn of a call in a sequential order. -/
structure Turn where
  call : Nat
  op : Operation
  reply : Reply

/-- A sequential order of the calls that have their reply. It gives the same replies, entries and
counters, and places each call at one of its own locks. -/
structure Linearization (start : Shelf) (events : List Event) (p : Pool)
    (turns : List Turn) : Prop where
  performed : start.performAll (turns.map (·.op)) = (turns.map (·.reply), p.shelf)
  placed : (turns.map fun turn => Event.lock turn.call).Sublist events
  nodup : (turns.map (·.call)).Nodup
  mem_iff : ∀ turn, turn ∈ turns ↔ p.calls[turn.call]? = some ⟨turn.op, .done turn.reply⟩

namespace Linearization

variable {start : Shelf} {events : List Event} {p : Pool} {turns : List Turn}

theorem initial (start : Shelf) : Linearization start [] ⟨start, []⟩ [] :=
  ⟨rfl, .slnil, .nil, by simp⟩

/-- A call that is made has no turn yet. -/
theorem call (hl : Linearization start events p turns) (op : Operation) :
    Linearization start (events ++ [.call op])
      { p with calls := p.calls ++ [⟨op, .waiting⟩] } turns := by
  refine ⟨hl.performed, hl.placed.trans (List.sublist_append_left _ _), hl.nodup, ?_⟩
  intro turn
  rw [hl.mem_iff]
  rcases Nat.lt_trichotomy turn.call p.calls.length with hlt | heq | hgt
  · rw [List.getElem?_append_left hlt]
  · simp [heq]
  · rw [List.getElem?_eq_none (Nat.le_of_lt hgt), List.getElem?_eq_none (by simp; omega)]

/-- A call that has no reply has no turn. -/
theorem not_mem (hl : Linearization start events p turns) {i : Nat} {c : Call}
    (hi : p.calls[i]? = some c) (hc : ∀ reply, c.phase ≠ .done reply) :
    ∀ turn ∈ turns, i ≠ turn.call := by
  rintro turn ht rfl
  have hdone := hi.symm.trans ((hl.mem_iff turn).mp ht)
  exact hc _ (congrArg Call.phase (Option.some.inj hdone))

/-- A look-up that sees an expired entry has no turn yet. -/
theorem sawExpired (hl : Linearization start events p turns) {i : Nat} {c : Call}
    (hi : p.calls[i]? = some c) (hc : ∀ reply, c.phase ≠ .done reply) :
    Linearization start (events ++ [.lock i])
      { p with calls := p.calls.set i { c with phase := .sawExpired } } turns := by
  refine ⟨hl.performed, hl.placed.trans (List.sublist_append_left _ _), hl.nodup, ?_⟩
  intro turn
  by_cases ht : i = turn.call
  · have hnot : turn ∉ turns := fun hm => hl.not_mem hi hc turn hm ht
    simp [← ht, hnot, List.getElem?_set_self', hi]
  · rw [hl.mem_iff, List.getElem?_set_ne ht]

/-- A call that gets its reply takes the next turn. -/
theorem reply (hl : Linearization start events p turns) {i : Nat} {c : Call} {reply : Reply}
    {shelf : Shelf} (hi : p.calls[i]? = some c) (hc : ∀ reply, c.phase ≠ .done reply)
    (hp : p.shelf.perform c.op = (reply, shelf)) :
    Linearization start (events ++ [.lock i])
      ⟨shelf, p.calls.set i { c with phase := .done reply }⟩ (turns ++ [⟨i, c.op, reply⟩]) := by
  have hnew := hl.not_mem hi hc
  refine ⟨?_, ?_, ?_, ?_⟩
  · rw [List.map_append, performAll_append, hl.performed]
    simp [performAll, hp]
  · rw [List.map_append]
    exact hl.placed.append (.refl _)
  · rw [List.map_append, List.nodup_append]
    refine ⟨hl.nodup, by simp, ?_⟩
    simp only [List.mem_map, List.map_cons, List.map_nil, List.mem_singleton]
    rintro _ ⟨turn, ht, rfl⟩ _ rfl
    exact (hnew turn ht).symm
  · rintro ⟨j, op, r⟩
    rw [List.mem_append, List.mem_singleton]
    by_cases hj : i = j
    · subst hj
      have hnot : ⟨i, op, r⟩ ∉ turns := fun hm => hnew _ hm rfl
      simp [hnot, List.getElem?_set_self', hi, eq_comm]
    · simp [hl.mem_iff, List.getElem?_set_ne hj, Ne.symm hj]

/-- Whatever happens next, at most one call takes a turn, and it is the last one. -/
theorem step (hl : Linearization start events p turns) {e : Event} {next : Pool}
    (h : p.step? e = some next) :
    ∃ more, Linearization start (events ++ [e]) next (turns ++ more) := by
  cases e with
  | call op =>
      obtain rfl := Option.some.inj h
      exact ⟨[], by simpa using hl.call op⟩
  | lock i =>
      obtain ⟨c, phase, shelf, hi, hlock, rfl⟩ := Pool.step?_lock_eq_some_iff.mp h
      obtain ⟨hc, ⟨rfl, rfl⟩ | ⟨reply, rfl, hp⟩⟩ := Call.of_locked? hlock
      · exact ⟨[], by simpa using hl.sawExpired hi hc⟩
      · exact ⟨_, hl.reply hi hc hp⟩

end Linearization

namespace Pool

theorem exists_linearization {start : Shelf} {events : List Event} {p : Pool}
    (h : (Pool.mk start []).run? events = some p) :
    ∃ turns, Linearization start events p turns := by
  -- By the newest event, since an order only grows at its end.
  induction events using List.reverseRecOn generalizing p with
  | nil =>
      obtain rfl := Option.some.inj h
      exact ⟨[], .initial start⟩
  | append_singleton events e ih =>
      obtain ⟨mid, hmid, hstep⟩ := run?_append_singleton_eq_some_iff.mp h
      obtain ⟨turns, hl⟩ := ih hmid
      obtain ⟨more, hl⟩ := hl.step hstep
      exact ⟨_, hl⟩

/-! ## Look-ups with others in between -/

theorem getElem?_of_step? {p next : Pool} {e : Event} (h : p.step? e = some next) {i : Nat}
    {op : Operation} {reply : Reply} (hi : p.calls[i]? = some ⟨op, .done reply⟩) :
    next.calls[i]? = some ⟨op, .done reply⟩ := by
  cases e with
  | call op =>
      obtain rfl := Option.some.inj h
      exact (List.getElem?_append_left (List.getElem?_eq_some_iff.mp hi).1).trans hi
  | lock j =>
      obtain ⟨c, phase, shelf, hj, hlock, rfl⟩ := step?_lock_eq_some_iff.mp h
      have hne : j ≠ i := by
        rintro rfl
        obtain rfl := Option.some.inj (hi.symm.trans hj)
        exact (Call.of_locked? hlock).1 reply rfl
      exact (List.getElem?_set_ne hne).trans hi

/-- A reply stays the reply. -/
theorem getElem?_of_run? {p last : Pool} {events : List Event} (h : p.run? events = some last)
    {i : Nat} {op : Operation} {reply : Reply} (hi : p.calls[i]? = some ⟨op, .done reply⟩) :
    last.calls[i]? = some ⟨op, .done reply⟩ := by
  induction events generalizing p with
  | nil =>
      obtain rfl := Option.some.inj h
      exact hi
  | cons e events ih =>
      rw [run?_cons] at h
      obtain ⟨next, hstep, hrun⟩ := Option.bind_eq_some_iff.mp h
      exact ih hrun (getElem?_of_step? hstep hi)

end Pool

/-- A look-up that has seen an expired entry has its reply from the entry that is there when it
locks the cache again, and leaves all entries but an expired one of its key. -/
structure SecondLook (i : Nat) (key : String) (now : Time.Instant) (mid next last : Pool) :
    Prop where
  found : last.calls[i]? = some ⟨.get key now,
    .done (.found (((mid.shelf.cache.table.get? key).filter (·.isFresh now)).map (·.url)))⟩
  kept : ∀ other entry, mid.shelf.cache.table.get? other = some entry →
    (other = key → entry.isFresh now = true) →
    next.shelf.cache.table.get? other = some entry

theorem Pool.secondLook {i : Nat} {key : String} {now : Time.Instant} {mid next last : Pool}
    {later : List Event} (hi : mid.calls[i]? = some ⟨.get key now, .sawExpired⟩)
    (hstep : mid.step? (.lock i) = some next) (hrun : next.run? later = some last) :
    SecondLook i key now mid next last := by
  obtain ⟨c, phase, shelf, hc, hlock, rfl⟩ := step?_lock_eq_some_iff.mp hstep
  obtain rfl := Option.some.inj (hi.symm.trans hc)
  obtain ⟨rfl, rfl⟩ := Prod.mk.inj (Option.some.inj hlock)
  refine ⟨getElem?_of_run? hrun ?_, ?_⟩
  · rw [List.getElem?_set_self', hi, settle_eq_get, get_fst]
    rfl
  · intro other entry hentry hfresh
    rw [settle_eq_get, get?_get, hentry]
    split
    next ho => exact Option.filter_eq_some_iff.mpr ⟨rfl, hfresh ho⟩
    next => rfl

/-- The promises of a cache to concurrent calls. The gap is the one in a look-up between its two
locks. -/
structure ConcurrentSpec (start : Shelf) (events : List Event) (last : Pool) : Prop where
  linearizable : ∃ turns, Linearization start events last turns
  gap : ∀ before i later mid key now, events = before ++ .lock i :: later →
    (Pool.mk start []).run? before = some mid →
    mid.calls[i]? = some ⟨.get key now, .sawExpired⟩ →
    ∃ next, mid.step? (.lock i) = some next ∧ SecondLook i key now mid next last

theorem Pool.concurrent_of_run {start : Shelf} {events : List Event} {last : Pool}
    (h : (Pool.mk start []).run? events = some last) : ConcurrentSpec start events last := by
  refine ⟨exists_linearization h, ?_⟩
  rintro before i later mid key now rfl hmid hi
  rw [run?_append, hmid, Option.bind_some, run?_cons] at h
  obtain ⟨next, hstep, hrun⟩ := Option.bind_eq_some_iff.mp h
  exact ⟨next, hstep, secondLook hi hstep hrun⟩

/-- An entry expires, and a look-up sees that. Before it locks the cache again another call has
stored the key anew. -/
def refilledRun : List Event :=
  let url c : Url := ⟨"data".toList, .unrooted [c], none, none⟩
  let later := Time.Instant.ofMillis 36000000
  [.call (.put "key" (url 'x') .epoch), .lock 0, .call (.get "key" later), .lock 1,
    .call (.put "key" (url 'y') later), .lock 2, .lock 1]

/-- The look-up finds the new entry. -/
theorem concurrent_refilled :
    ∃ last, (Pool.mk (empty .tenHours) []).run? refilledRun = some last ∧
      last.calls[1]? = some ⟨.get "key" (.ofMillis 36000000),
        .done (.found (some ⟨"data".toList, .unrooted ['y'], none, none⟩))⟩ ∧
      ConcurrentSpec (empty .tenHours) refilledRun last :=
  ⟨_, rfl, rfl, Pool.concurrent_of_run rfl⟩

end Signpost.Shelf
