import Signpost.Metrics.Tally

/-!
# Exposing the counters

The text format in which counters are scraped: each family with its help, its type and its series,
families by name and series by the values of their labels. A labelled series exists from its first
count on, and a family without series is left out.
-/

namespace Signpost.Metrics

inductive Kind where
  | counter
  | gauge
  deriving DecidableEq, Repr

def Kind.name : Kind → String
  | .counter => "counter"
  | .gauge => "gauge"

structure Series where
  labels : List (String × String)
  value : Nat
  deriving DecidableEq, Repr

structure Family where
  name : String
  help : String
  kind : Kind
  series : List Series
  deriving DecidableEq, Repr

/-- A family of one series without labels. -/
def Family.plain (name help : String) (kind : Kind) (value : Nat) : Family :=
  ⟨name, help, kind, [⟨[], value⟩]⟩

/-- A family of counters with labels, those left out that never counted. -/
def Family.labelled (name help : String) (series : List Series) : Family :=
  ⟨name, help, .counter, series.filter (0 < ·.value)⟩

def families (t : Tally) : List Family :=
  [ .labelled "background_jobs_total" "Total number of background job executions"
      [ ⟨[("job_type", "directory_cache_cleanup"), ("status", "success")], t.cleanups⟩,
        ⟨[("job_type", "directory_warmup"), ("status", "failure")], t.failedWarmups⟩,
        ⟨[("job_type", "directory_warmup"), ("status", "success")], t.successfulWarmups⟩ ],
    .plain "directory_cache_hits_total" "Total number of directory cache hits" .counter t.hits,
    .plain "directory_cache_misses_total" "Total number of directory cache misses" .counter
      t.misses,
    .plain "directory_cache_size" "Number of entries in the directory cache" .gauge t.cacheSize,
    .plain "directory_entries_dropped_total"
      "Total number of fetched directory entries dropped as invalid" .counter t.dropped,
    .labelled "directory_fetch_attempts_total" "Total number of directory fetch attempts"
      [⟨[("outcome", "failure")], t.failedAttempts⟩,
        ⟨[("outcome", "success")], t.successfulAttempts⟩],
    .labelled "directory_resolutions_total" "Total number of identifier resolutions"
      [ ⟨[("outcome", "error")], t.resolutions.error⟩,
        ⟨[("outcome", "hit")], t.resolutions.hit⟩,
        ⟨[("outcome", "not_found")], t.resolutions.notFound⟩,
        ⟨[("outcome", "refreshed")], t.resolutions.refreshed⟩ ] ]

def Series.name (family : String) (series : Series) : String :=
  if series.labels.isEmpty then family
  else
    family ++ "\x7B" ++
      ",".intercalate (series.labels.map fun (label, value) => label ++ "=\"" ++ value ++ "\"") ++
      "\x7D"

def Series.line (family : String) (series : Series) : String :=
  series.name family ++ " " ++ toString series.value

def Family.lines (family : Family) : List String :=
  if family.series.isEmpty then []
  else
    ("# HELP " ++ family.name ++ " " ++ family.help) ::
      ("# TYPE " ++ family.name ++ " " ++ family.kind.name) ::
      family.series.map (Series.line family.name)

def lines (t : Tally) : List String :=
  (families t).flatMap Family.lines

/-- The page that is scraped, every line ended. -/
def page (t : Tally) : String :=
  String.join ((lines t).map (· ++ "\n"))

/-- The series that are exposed, by name. -/
def values (t : Tally) : List (String × Nat) :=
  (families t).flatMap fun family =>
    family.series.map fun series => (series.name family.name, series.value)

end Signpost.Metrics
