import PageCache.Entry

/-!
# Freshness

What a lookup may do with the entry it read depends on the entry's age alone. An entry that is
revalidated after some time is fresh before that time, may be served stale through a grace window
after it, and is expired when the window ends. `Policy.classify` decides; it touches no store.
-/

namespace PageCache

/-- The verdict on what a store answered. -/
inductive Freshness where
  /-- there is no entry -/
  | miss
  /-- serve it as it is -/
  | fresh
  /-- serve it at once and refresh it behind the request -/
  | stale
  /-- past its grace window: refresh it before answering -/
  | hardExpired
deriving DecidableEq, Inhabited

namespace Freshness

/-- Whether a regeneration is due. -/
def needsRegeneration : Freshness → Bool
  | .fresh => false
  | _ => true

/-- Whether the request has to wait for the regeneration. -/
def blocks : Freshness → Bool
  | .miss | .hardExpired => true
  | _ => false

/-- The word for a verdict. -/
def name : Freshness → String
  | .miss => "miss"
  | .fresh => "fresh"
  | .stale => "stale"
  | .hardExpired => "hard_expired"

end Freshness

/-- How long past its time an entry may still be served stale. -/
structure Policy where
  /-- the window; if none is set, each entry's own revalidation time -/
  staleGrace : Option Duration
deriving DecidableEq, Inhabited

namespace Policy

/-- The grace window of an entry that is revalidated after `after`. -/
def graceFor (p : Policy) (after : Duration) : Duration := p.staleGrace.getD after

/-- The verdict on what the store answered, at the time `now`. -/
def classify (p : Policy) (entry : Option Entry) (now : Instant) : Freshness :=
  match entry with
  | none => .miss
  | some e =>
    match e.revalidate with
    | .never => .fresh
    | .always => .stale
    | .after d =>
      if e.age now < d then .fresh
      else if e.age now < d + p.graceFor d then .stale
      else .hardExpired

end Policy

end PageCache
