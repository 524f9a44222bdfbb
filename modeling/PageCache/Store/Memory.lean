import PageCache.Store

/-!
# The memory store

A store in memory is the list of its entries, the one used last in front. A read or a write of a
key moves its entry to the front; a new key in a full store pushes the last entry out:

* **read** — `get` moves what it finds to the front and changes nothing else;
* **write** — `put` answers by `checkGeneration`, and an accepted one evicts only for a new key;
* **listing** — `list` and `delete` leave the order of the other entries as it is.
-/

namespace PageCache

/-- A store of at most `capacity` entries. -/
structure MemoryStore where
  /-- how many entries it holds at most; no limit if none is given -/
  capacity : Option Nat
  /-- the entries, the one used last first -/
  entries : List Entry
  /-- how many entries have been pushed out so far -/
  evictions : Nat
deriving DecidableEq, Inhabited

namespace MemoryStore

/-- An empty store of so many entries. -/
def bounded (capacity : Nat) : MemoryStore := ⟨some capacity, [], 0⟩

/-- An empty store without a limit. -/
def unbounded : MemoryStore := ⟨none, [], 0⟩

/-- The number of entries. -/
def size (m : MemoryStore) : Nat := m.entries.length

/-- The entry of a key. -/
def find (m : MemoryStore) (k : Key) : Option Entry := m.entries.find? (·.key = k)

/-- The entries of the other keys, in order. -/
def others (m : MemoryStore) (k : Key) : List Entry := m.entries.filter (·.key ≠ k)

/-- Whether one more key would be one too many. -/
def full (m : MemoryStore) : Bool :=
  match m.capacity with
  | some c => c ≤ m.size
  | none => false

/-- The entry of a key, which becomes the one used last. -/
def get (m : MemoryStore) (k : Key) : Option Entry × MemoryStore :=
  match m.find k with
  | some e => (some e, { m with entries := e :: m.others k })
  | none => (none, m)

/-- The store with an entry in front, over the old entry of its key or, for a new key in a full
store, in place of the last one. -/
def push (m : MemoryStore) (e : Entry) : MemoryStore :=
  if (m.find e.key).isNone && m.full then
    { m with entries := e :: m.entries.dropLast, evictions := m.evictions + 1 }
  else { m with entries := e :: m.others e.key }

/-- Write an entry if the generation observed is the one stored. -/
def put (m : MemoryStore) (e : Entry) (observed : Option Generation) : PutOutcome × MemoryStore :=
  match checkGeneration ((m.find e.key).map (·.generation)) observed e.generation with
  | .stored => (.stored, m.push e)
  | .conflict current => (.conflict current, m)

/-- Remove a key's entry. -/
def delete (m : MemoryStore) (k : Key) : Bool × MemoryStore :=
  ((m.find k).isSome, { m with entries := m.others k })

/-- The keys that start with a text, in order. -/
def list (m : MemoryStore) (start : String) : List Key :=
  ((m.entries.map (·.key)).filter (·.startsWith start)).mergeSort (fun a b => a ≤ b)

instance : Store MemoryStore where
  get m k := let (r, m) := m.get k; (.ok r, m)
  put m e observed := let (r, m) := m.put e observed; (.ok r, m)
  delete m k := let (r, m) := m.delete k; (.ok r, m)
  list m start := (.ok (m.list start), m)

end MemoryStore

end PageCache
