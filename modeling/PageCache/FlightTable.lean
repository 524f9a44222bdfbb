import PageCache.Key
import PageCache.SortedMap

/-!
# Single flight

At most one regeneration runs for a key. The table holds a record for each key whose regeneration is
running: who asks for a key with a record joins that flight, who asks for one without starts a
flight and leads it. The record is cleared by the flight itself, when it ends.
-/

namespace PageCache

/-- The number of a flight. -/
abbrev FlightId := Nat

/-- What a caller gets: the flight it waits for, and whether it started it. -/
structure Ticket where
  /-- the flight -/
  flight : FlightId
  /-- whether this caller started it -/
  leader : Bool
deriving DecidableEq, Inhabited

/-- The flights under way, one a key. -/
structure FlightTable where
  /-- the flight of each key -/
  records : SortedMap Key FlightId
deriving DecidableEq, Inhabited

namespace FlightTable

/-- No flight under way. -/
def empty : FlightTable := ⟨∅⟩

/-- Join the flight of a key, or start one under the number `fresh`. -/
def board (x : FlightTable) (k : Key) (fresh : FlightId) : Ticket × FlightTable :=
  match x.records.get? k with
  | some f => (⟨f, false⟩, x)
  | none => (⟨fresh, true⟩, ⟨x.records.insert k fresh⟩)

/-- Clear the record of a flight, unless the key has another one. -/
def clear (x : FlightTable) (k : Key) (f : FlightId) : FlightTable :=
  if x.records.get? k = some f then ⟨x.records.erase k⟩ else x

/-- Whether a key has a flight under way. -/
def isInFlight (x : FlightTable) (k : Key) : Bool := x.records.contains k

/-- The number of flights under way. -/
def size (x : FlightTable) : Nat := x.records.size

end FlightTable

end PageCache
