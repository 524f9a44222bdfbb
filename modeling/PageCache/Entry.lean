import PageCache.Bytes
import PageCache.Key
import PageCache.SortedSet
import PageCache.Time

/-!
# Cached entries

An entry is one rendered unit with all that decides how long it may be served. It is never changed
in place: a newer generation replaces it whole. How it ages is its `Revalidate` mode, whose
persisted form is a number of milliseconds or none.
-/

namespace PageCache

/-- How an entry ages. -/
inductive Revalidate where
  /-- it never expires, only an invalidation removes it -/
  | never
  /-- it is stale at every access -/
  | always
  /-- it is stale when it has reached this age -/
  | after (d : Duration)
deriving DecidableEq, Inhabited

namespace Revalidate

/-- The mode that a duration asks for: none at all means always. -/
def ofDuration (d : Duration) : Revalidate := if d.nanos = 0 then .always else .after d

/-- The mode that an optional duration asks for: an absent one means never. -/
def ofDuration? : Option Duration → Revalidate
  | none => .never
  | some d => ofDuration d

/-- The mode of so many seconds. -/
def afterSecs (n : Nat) : Revalidate := ofDuration (.ofSecs n)

/-- The greatest number of milliseconds that is persisted. -/
def maxMillis : Nat := 18446744073709551615

/-- The persisted form: nothing for never, `0` for always, else the whole milliseconds, at most
`maxMillis`. -/
def toMillis : Revalidate → Option Nat
  | .never => none
  | .always => some 0
  | .after d => some (min d.millis maxMillis)

/-- The mode whose persisted form this is. -/
def ofMillis (ms : Option Nat) : Revalidate := ofDuration? (ms.map Duration.ofMillis)

end Revalidate

/-- The version number of an entry under its key, counted from 1. A machine counts in sixty-four bits,
and after the last of these it has no next one; here the numbers go on. -/
abbrev Generation := Nat

/-- A label that invalidates all entries that carry it. -/
abbrev Tag := String

/-- One cached unit. -/
structure Entry where
  /-- the key it is stored under -/
  key : Key
  /-- the rendered bytes -/
  body : ByteArray
  /-- when it was rendered -/
  created : Instant
  /-- how it ages -/
  revalidate : Revalidate
  /-- the labels it is invalidated by -/
  tags : SortedSet Tag
  /-- its version under the key -/
  generation : Generation
deriving DecidableEq, Inhabited

namespace Entry

/-- The time since the entry was created; none for one from the future. -/
def age (e : Entry) (now : Instant) : Duration := now.since e.created

/-- Whether the entry carries a tag. -/
def hasTag (e : Entry) (t : Tag) : Bool := e.tags.contains t

end Entry

end PageCache
