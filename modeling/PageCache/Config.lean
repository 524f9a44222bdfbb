import PageCache.Policy

/-!
# Cache configuration

The settings that decide which store backs a cache, how large it is, how long renders may take and
how long stale entries are served.
-/

namespace PageCache

/-- Which store backs the cache. -/
inductive StoreBackend where
  /-- a store in memory -/
  | memory
  /-- a store in a folder -/
  | disk
deriving DecidableEq, Inhabited

/-- The word for a backend. -/
def StoreBackend.name : StoreBackend → String
  | .memory => "memory"
  | .disk => "disk"

/-- The backend that a word names. -/
def StoreBackend.ofName? : String → Option StoreBackend
  | "memory" => some .memory
  | "disk" => some .disk
  | _ => none

/-- The settings of a cache. -/
structure CacheConfig where
  /-- which store backs it -/
  backend : StoreBackend
  /-- the grace window in seconds; if none is set, each entry's own revalidation time -/
  staleGraceSeconds : Option Nat
  /-- how long a render may take, in milliseconds -/
  renderTimeoutMs : Nat
  /-- how many entries the memory store holds -/
  memoryCapacity : Nat
  /-- the folder of the disk store -/
  directory : String
deriving DecidableEq

namespace CacheConfig

/-- The settings where nothing is set. -/
def default : CacheConfig where
  backend := .memory
  staleGraceSeconds := none
  renderTimeoutMs := 10000
  memoryCapacity := 1000
  directory := ".render-cache"

instance : Inhabited CacheConfig := ⟨default⟩

/-- The names of the settings, in order. -/
def fieldNames : List String :=
  ["backend", "stale_grace_seconds", "render_timeout_ms", "memory_capacity", "directory"]

/-- Read the value of a setting, or take the default if it is absent. -/
def orDefault {α β : Type} (value : Option β) (default : α) (read : β → Option α) : Option α :=
  match value with
  | none => some default
  | some v => read v

/-- The grace window. -/
def staleGrace (c : CacheConfig) : Option Duration := c.staleGraceSeconds.map .ofSecs

/-- The time a render may take. -/
def renderTimeout (c : CacheConfig) : Duration := .ofMillis c.renderTimeoutMs

/-- The number of entries the memory store holds: at least one. -/
def capacity (c : CacheConfig) : Nat := max c.memoryCapacity 1

/-- The freshness policy. -/
def policy (c : CacheConfig) : Policy := ⟨c.staleGrace⟩

end CacheConfig

end PageCache
