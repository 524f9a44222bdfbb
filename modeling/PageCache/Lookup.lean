import PageCache.Render
import PageCache.Store

/-!
# Results of lookups

What a lookup gives to its caller: a body with the path it was served by, or the one error that kept
the cache from serving anything.
-/

namespace PageCache

/-- Why a lookup or a regeneration gave nothing. -/
inductive LookupError where
  /-- the store did not answer -/
  | store (e : StoreError)
  /-- the render gave nothing -/
  | render (e : RenderError)
deriving DecidableEq, Inhabited

namespace LookupError

/-- The text of a lookup's error: that of its cause. -/
def message : LookupError → String
  | store e => e.message
  | render e => e.message

/-- Whether the render is to blame. -/
def isRenderFailure : LookupError → Bool
  | store _ => false
  | render _ => true

end LookupError

/-- The path a lookup took. -/
inductive CacheStatus where
  /-- a fresh entry was served -/
  | hit
  /-- a stale entry was served, and a regeneration runs behind it -/
  | stale
  /-- there was no entry, and the lookup waited for the first render -/
  | miss
  /-- the entry was past its grace window, and the lookup waited for a regeneration -/
  | expired
deriving DecidableEq, Inhabited

/-- The word for a path. -/
def CacheStatus.name : CacheStatus → String
  | .hit => "HIT"
  | .stale => "STALE"
  | .miss => "MISS"
  | .expired => "EXPIRED"

/-- What a lookup serves. -/
structure Served where
  /-- the bytes -/
  body : ByteArray
  /-- the generation they belong to -/
  generation : Generation
  /-- the path they were served by -/
  status : CacheStatus
  /-- whether a regeneration was started or joined behind the answer -/
  revalidating : Bool
  /-- the error that made an expired body be served -/
  degraded : Option LookupError
deriving DecidableEq, Inhabited

namespace Served

/-- An entry served by a path. -/
def ofEntry (e : Entry) (status : CacheStatus) : Served :=
  ⟨e.body, e.generation, status, false, none⟩

/-- Whether an expired body had to be served. -/
def isDegraded (s : Served) : Bool := s.degraded.isSome

end Served

end PageCache
