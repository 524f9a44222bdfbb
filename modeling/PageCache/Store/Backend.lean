import PageCache.Store.Disk
import PageCache.Store.Memory

/-!
# Stores by configuration

A store that is in memory or in a folder, behind the one contract. A disk store is taken together
with the file tree it lies in, and numbers its staging files so that no two share a name.
-/

namespace PageCache

/-- The token of the `n`-th staging file, in the form of a random identifier of version 4. Tokens
come again after `16 ^ 12` files. -/
def stagingToken (n : Nat) : String :=
  let hex := Hex.ofNat (n % 281474976710656)
  let tail := String.ofList (List.replicate (12 - hex.length) '0') ++ hex
  "00000000-0000-4000-8000-" ++ tail

/-- A store and where its contents are. -/
inductive Backend where
  /-- in memory -/
  | memory (m : MemoryStore)
  /-- in a folder of a file tree; `serial` counts the staging files -/
  | disk (d : DiskStore) (files : FileTree) (serial : Nat)

namespace Backend

/-- An operation on a store: in memory, or as a program over files. -/
def use {α : Type} (b : Backend) (inMemory : MemoryStore → α × MemoryStore)
    (onDisk : DiskStore → Nat → FileProgram (Except StoreError α)) : Except StoreError α × Backend :=
  match b with
  | memory m =>
    let (a, m) := inMemory m
    (.ok a, memory m)
  | disk d files serial =>
    let (a, files) := (onDisk d serial).run files
    (a, disk d files (serial + 2))

instance : Store Backend where
  get b k := b.use (·.get k) fun d _ => d.get k
  put b e observed := b.use (·.put e observed) fun d n =>
    d.put (stagingToken n) (stagingToken (n + 1)) e observed
  delete b k := b.use (·.delete k) fun d _ => d.delete k
  list b start := b.use (fun m => (m.list start, m)) fun d _ => d.list start

/-- The number of entries pushed out so far. -/
def evictions : Backend → Nat
  | memory m => m.evictions
  | disk .. => 0

/-- A bound on the number of keys. -/
def sizeBound : Backend → Nat
  | memory m => m.size
  | disk _ files _ => files.nodes.size

end Backend

end PageCache
