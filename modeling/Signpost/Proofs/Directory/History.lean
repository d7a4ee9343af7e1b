import Signpost.Directory.World

/-! # Histories of a directory

Every event of a run is noted with its call and with what it did, in the terms that other calls
can tell. Histories list these notes in the order of the run, so that what holds between two
moments is said of the positions of two notes. -/

namespace Signpost.Directory

/-! ## Deeds and notes -/

/-- What an event did. A look-up is noted when its result is known, a fetch when it starts and
when its listing is stored, a refresh when it is published. -/
inductive Deed where
  | begun (task : Task)
  | started (now : Time.Instant)
  | looked (round : Round) (stamp : Time.Instant) (url : Option Url)
  | sawExpired (round : Round)
  | observed (generation : Nat)
  | joined
  | fetched (gated : Bool)
  | shared
  | arrived (outcome : Except Failure (List Listing.Entry))
  | stored (entries : List Listing.Entry) (stamp : Time.Instant)
  | published (outcome : Except Failure Nat)
  | concluded (outcome : Except Failure Nat)
  | put (key : String) (url : Url) (stamp : Time.Instant)
  | swept (stamp : Time.Instant)
  | invalidated (key : String)
  | cleared
  | dropped

structure Note where
  call : Nat
  deed : Deed

namespace Hub

/-- The deed of the first step of a task. -/
def startDeed (now : Time.Instant) : Task → Deed
  | .invalidate id => .invalidated id.key
  | .clear => .cleared
  | _ => .started now

/-- The deed of the single locked section of a task that writes once. -/
def writeDeed (stamp : Time.Instant) : Task → Deed
  | .put key url => .put key url stamp
  | _ => .swept stamp

/-- The deed of a call's step by itself, `none` where it waits for a fetch or has ended. -/
def deed? (hub : Hub) (now : Time.Instant) (task : Task) : Stage → Option Deed
  | .ready => some (startDeed now task)
  | .peeking round stamp =>
    match (hub.shelf.peek (lookupKey task) stamp).1 with
    | .fresh url => some (.looked round stamp (some url))
    | .absent => some (.looked round stamp none)
    | .expired => some (.sawExpired round)
  | .settling round stamp =>
    some (.looked round stamp (hub.shelf.settle (lookupKey task) stamp).1)
  | .missed =>
    some (if hub.singleFlight then .observed hub.generation else .fetched false)
  | .joining _ => some .joined
  | .queued seen => some (if seen.all (· == hub.generation) then .fetched true else .shared)
  | .storing _ entries stamp => some (.stored entries stamp)
  | .publishing gated outcome =>
    some (if gated then .published outcome else .concluded outcome)
  | .writing stamp => some (writeDeed stamp task)
  | _ => none

end Hub

namespace World

/-- The note of an event, `none` for a call that there is not. -/
def note? (w : World) : Event → Option Note
  | .begin task => some ⟨w.calls.length, .begun task⟩
  | .advance i now => do
    let call ← w.calls[i]?
    let deed ← w.hub.deed? now call.task call.stage
    some ⟨i, deed⟩
  | .arrive i _ report => some ⟨i, .arrived report.outcome⟩
  | .drop i => some ⟨i, .dropped⟩

/-- The notes of events in order, as far as they can happen. -/
def history (w : World) : List Event → List Note
  | [] => []
  | e :: events =>
    match w.step? e, w.note? e with
    | some next, some note => note :: next.history events
    | _, _ => []

end World

/-! ## Reading a history -/

def Deed.isPublication : Deed → Bool
  | .published _ => true
  | _ => false

def Note.isPublication (n : Note) : Bool :=
  n.deed.isPublication

/-- How many refreshes were published. -/
def publications (h : List Note) : Nat :=
  h.countP Note.isPublication

/-- No note strictly between two positions passes a test. -/
def NoneBetween (h : List Note) (p q : Nat) (test : Note → Bool) : Prop :=
  ∀ k n, p < k → k < q → h[k]? = some n → test n = false

variable {h : List Note} {p : Nat}

theorem getElem?_append_of_some {n : Note} (hp : h[p]? = some n) (l : List Note) :
    (h ++ l)[p]? = some n := by
  rw [List.getElem?_append_left (List.getElem?_eq_some_iff.mp hp).1, hp]

theorem NoneBetween.append {q : Nat} {test : Note → Bool} (hb : NoneBetween h p q test)
    (hq : q ≤ h.length) (l : List Note) : NoneBetween (h ++ l) p q test := by
  intro k n hpk hkq hk
  rw [List.getElem?_append_left (Nat.lt_of_lt_of_le hkq hq)] at hk
  exact hb k n hpk hkq hk

/-- The newest note comes in between once the history has grown by it. -/
theorem NoneBetween.snoc {test : Note → Bool}
    (hb : NoneBetween h p h.length test) {n : Note} (hn : test n = false) :
    NoneBetween (h ++ [n]) p (h ++ [n]).length test := by
  intro k m hpk hkl hk
  rw [List.length_append, List.length_singleton] at hkl
  by_cases hlt : k < h.length
  · rw [List.getElem?_append_left hlt] at hk
    exact hb k m hpk hlt hk
  · obtain rfl : k = h.length := by omega
    obtain rfl : n = m := by simpa using hk
    exact hn

end Signpost.Directory
