/-!
# Counters

What the program counts: look-ups of the cache and its size, attempts of fetches, dropped records,
the outcomes of resolutions and the runs of background jobs.
-/

namespace Signpost

/-- How a resolution ended. -/
inductive Outcome where
  | hit
  | refreshed
  | notFound
  | error
  deriving DecidableEq, Repr

structure Resolutions where
  hit : Nat := 0
  refreshed : Nat := 0
  notFound : Nat := 0
  error : Nat := 0
  deriving DecidableEq, Repr

def Resolutions.count (r : Resolutions) : Outcome → Resolutions
  | .hit => { r with hit := r.hit + 1 }
  | .refreshed => { r with refreshed := r.refreshed + 1 }
  | .notFound => { r with notFound := r.notFound + 1 }
  | .error => { r with error := r.error + 1 }

structure Tally where
  hits : Nat := 0
  misses : Nat := 0
  cacheSize : Nat := 0
  failedAttempts : Nat := 0
  successfulAttempts : Nat := 0
  dropped : Nat := 0
  resolutions : Resolutions := {}
  failedWarmups : Nat := 0
  successfulWarmups : Nat := 0
  cleanups : Nat := 0
  deriving DecidableEq, Repr

namespace Tally

def countHit (t : Tally) : Tally :=
  { t with hits := t.hits + 1 }

def countMiss (t : Tally) : Tally :=
  { t with misses := t.misses + 1 }

def setSize (t : Tally) (size : Nat) : Tally :=
  { t with cacheSize := size }

def countResolution (t : Tally) (outcome : Outcome) : Tally :=
  { t with resolutions := t.resolutions.count outcome }

def countWarmup (t : Tally) (success : Bool) : Tally :=
  if success then { t with successfulWarmups := t.successfulWarmups + 1 }
  else { t with failedWarmups := t.failedWarmups + 1 }

def countCleanup (t : Tally) : Tally :=
  { t with cleanups := t.cleanups + 1 }

/-- Adds the attempts and the dropped records of a fetch. -/
def countFetch (t : Tally) (failed successful dropped : Nat) : Tally :=
  { t with
    failedAttempts := t.failedAttempts + failed
    successfulAttempts := t.successfulAttempts + successful
    dropped := t.dropped + dropped }

end Signpost.Tally
