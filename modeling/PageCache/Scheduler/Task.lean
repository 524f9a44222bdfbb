import PageCache.FlightTable
import PageCache.Lookup
import PageCache.TagIndex.Sweep

/-!
# Tasks

Everything that goes on in a scheduler is a task, given as the phase it is in. A task gives way to
others at its store calls, while it renders and while it waits for a flight, so these are where one
phase ends and the next begins:

* a **call** of a lookup reads the store, then decides by what it read: serve, serve and start a
  flight, or wait for one;
* a **flight** reads the store again, renders unless it has been superseded, writes the new entry
  against the generation it was started for, then links the entry's tags, and ends;
* a **removal** unlinks a key, deletes it, and links it again if the store failed;
* the **sweeps** over the tag index are as given with it.
-/

namespace PageCache

/-- The number of a task, which is the number of its flight if it is one. -/
abbrev TaskId := Nat

/-- How a lookup's call stands. -/
inductive Call where
  /-- the store is still to be read -/
  | reading
  /-- the store has answered -/
  | read (found : Option Entry)
  /-- it waits for a flight, holding what it read -/
  | waiting (found : Option Entry) (flight : FlightId)
  /-- its caller has given up -/
  | abandoned
  /-- it is over -/
  | finished (result : Except LookupError Served)

/-- How a flight stands. -/
inductive Flight where
  /-- the store is still to be read -/
  | checking
  /-- the store has answered -/
  | checked (found : Option Entry)
  /-- the renderer is at work -/
  | rendering
  /-- an entry is still to be written -/
  | committing (entry : Entry)
  /-- the entry is written, and its tags are still to be linked -/
  | committed (entry : Entry)
  /-- the result is there, and the flight is still to end -/
  | ending (result : Except LookupError Entry)
  /-- it is over -/
  | finished (result : Except LookupError Entry)

/-- How the removal of a key stands. -/
inductive Removal where
  /-- the key is unlinked from these tags and still to be deleted -/
  | deleting (unlinked : SortedSet Tag)
  /-- the store has answered the deletion -/
  | answered (unlinked : SortedSet Tag) (answer : Except StoreError Bool)
  /-- it is over -/
  | finished (result : Except StoreError Bool)

/-- A task; `ρ` is what a renderer is handed. -/
inductive Task (ρ : Type) where
  /-- a lookup of a key, which would render from `source` -/
  | call (key : Key) (source : ρ) (phase : Call)
  /-- the regeneration of a key, started for what was observed of it -/
  | flight (key : Key) (observed : Option Generation) (source : ρ) (phase : Flight)
  /-- the removal of a key -/
  | removal (key : Key) (phase : Removal)
  /-- the purge of a tag -/
  | purge (phase : Purge)
  /-- the survey of a tag's live keys -/
  | survey (phase : Survey)
  /-- a compaction of the tag index -/
  | compaction (phase : Compaction)
  /-- a rebuild of the tag index -/
  | rebuild (phase : Rebuild)

/-- A call on the store. -/
inductive StoreCall where
  /-- read a key -/
  | get (key : Key)
  /-- write an entry -/
  | put (entry : Entry) (observed : Option Generation)
  /-- delete a key -/
  | delete (key : Key)
  /-- list all keys -/
  | list
deriving DecidableEq, Inhabited

namespace Task

variable {ρ : Type}

/-- The store call a task is about to make; a sweep makes it for any key that is due. -/
def storeCalls : Task ρ → List StoreCall
  | call k _ .reading => [.get k]
  | flight k _ _ .checking => [.get k]
  | flight _ observed _ (.committing e) => [.put e observed]
  | removal k (.deleting _) => [.delete k]
  | purge p => p.due.toList.map .delete
  | survey s => s.due.toList.map .get
  | compaction c => c.due.toList.map .get
  | rebuild .listing => [.list]
  | rebuild (.reading (k :: _) _) => [.get k]
  | _ => []

/-- Whether the task will do nothing more. -/
def isOver : Task ρ → Bool
  | call _ _ (.finished _) | call _ _ .abandoned => true
  | flight _ _ _ (.finished _) => true
  | removal _ (.finished _) => true
  | purge (.finished _) => true
  | survey (.finished _) => true
  | compaction (.finished _) => true
  | rebuild (.finished _) => true
  | _ => false

/-- The result of a flight that is over. -/
def flightResult? : Task ρ → Option (Except LookupError Entry)
  | flight _ _ _ (.finished r) => some r
  | _ => none

end Task

end PageCache
