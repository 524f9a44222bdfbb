/-!
# Metrics

What the cache counts. Each metric has the name under which it is exported and a description; a
labelled metric is a family with one member for each value of its label.
-/

namespace PageCache

/-- The path a lookup was served by. -/
inductive LookupOutcome where
  | hit | stale | miss | expired | degraded | error
deriving DecidableEq, Inhabited

/-- How a regeneration ended. -/
inductive RegenerationResult where
  | committed | conflict | failed | superseded
deriving DecidableEq, Inhabited

/-- What is counted. -/
inductive Metric where
  /-- lookups by served path -/
  | lookup (outcome : LookupOutcome)
  /-- regenerations by result -/
  | regeneration (result : RegenerationResult)
  /-- lookups that attached to a running regeneration -/
  | joined
  /-- samples of the render latency -/
  | renderTime
  /-- entries pushed out of the memory store -/
  | evicted
  /-- entries removed by tag invalidation -/
  | purged
deriving DecidableEq, Inhabited

/-- The value of the label of a lookup's outcome. -/
def LookupOutcome.label : LookupOutcome → String
  | .hit => "hit"
  | .stale => "stale"
  | .miss => "miss"
  | .expired => "expired"
  | .degraded => "degraded"
  | .error => "error"

/-- The value of the label of a regeneration's result. -/
def RegenerationResult.label : RegenerationResult → String
  | .committed => "committed"
  | .conflict => "conflict"
  | .failed => "failed"
  | .superseded => "superseded"

namespace Metric

/-- The exported name, without label. -/
def family : Metric → String
  | lookup _ => "render_cache_lookup_total"
  | regeneration _ => "render_cache_regeneration_total"
  | joined => "render_cache_flight_joined_total"
  | renderTime => "render_cache_render_ms"
  | evicted => "render_cache_store_evict_total"
  | purged => "render_cache_purged_keys_total"

/-- The exported name, the label in braces. -/
def name (m : Metric) : String :=
  match m with
  | lookup o => m.family ++ "\x7boutcome=" ++ o.label ++ "\x7d"
  | regeneration r => m.family ++ "\x7bresult=" ++ r.label ++ "\x7d"
  | _ => m.family

/-- All metrics. -/
def all : List Metric :=
  [.lookup .hit, .lookup .stale, .lookup .miss, .lookup .expired, .lookup .degraded, .lookup .error,
   .regeneration .committed, .regeneration .conflict, .regeneration .failed,
   .regeneration .superseded, .joined, .renderTime, .evicted, .purged]

end Metric

/-- What is said about a family of metrics. -/
structure MetricDescription where
  /-- the exported name -/
  name : String
  /-- counter or histogram -/
  kind : String
  /-- the unit of its values -/
  unit : String
  /-- its description -/
  text : String
deriving DecidableEq, Inhabited

/-- The descriptions of all families. -/
def metricDescriptions : List MetricDescription := [
  ⟨"render_cache_lookup_total", "counter", "count",
    "Cache lookups by served path (hit, stale, miss, expired, degraded, error)."⟩,
  ⟨"render_cache_regeneration_total", "counter", "count",
    "Regenerations by result (committed, conflict, failed, superseded)."⟩,
  ⟨"render_cache_flight_joined_total", "counter", "count",
    "Lookups that attached to an in-flight regeneration."⟩,
  ⟨"render_cache_store_evict_total", "counter", "count",
    "Entries evicted from the memory store due to capacity."⟩,
  ⟨"render_cache_purged_keys_total", "counter", "count",
    "Entries removed by tag invalidation."⟩,
  ⟨"render_cache_render_ms", "histogram", "milliseconds", "Render latency in milliseconds."⟩]

/-- The counts so far. -/
structure Metrics where
  /-- the count of each metric -/
  count : Metric → Nat

namespace Metrics

/-- Nothing counted yet. -/
def zero : Metrics := ⟨fun _ => 0⟩

instance : Inhabited Metrics := ⟨zero⟩

/-- Count `n` more of a metric. -/
def add (s : Metrics) (m : Metric) (n : Nat) : Metrics :=
  ⟨fun x => if x = m then s.count x + n else s.count x⟩

/-- Count one more of a metric. -/
def bump (s : Metrics) (m : Metric) : Metrics := s.add m 1

@[simp] theorem count_zero (m : Metric) : zero.count m = 0 := rfl

@[simp] theorem count_add (s : Metrics) (m x : Metric) (n : Nat) :
    (s.add m n).count x = if x = m then s.count x + n else s.count x := rfl

@[simp] theorem count_bump (s : Metrics) (m x : Metric) :
    (s.bump m).count x = if x = m then s.count x + 1 else s.count x := rfl

end Metrics

end PageCache
