import PageCache.Store
import PageCache.TagIndex

/-!
# Sweeps over the tag index

Operations that walk over keys of the index and ask the store about each. Between two of their store
calls anything else may happen, so each is given as the phases it goes through, with the step from
one phase to the next:

* **purge** — delete all keys of a tag. The keys are unlinked before the first deletion, so that a
  key committed meanwhile stays linked; if a deletion fails, those not yet done are linked again.
* **survey** — the keys of a tag whose stored entry still carries it.
* **compaction** — drop the links of keys that have left the store.
* **rebuild** — replace the index by the tags recorded in the store.

Keys are visited in any order: a step names the key it visits, which has to be one still due.
-/

namespace PageCache

/-! ## Purge -/

/-- How the purge of a tag stands. -/
inductive Purge where
  /-- these keys are still to be deleted -/
  | deleting (tag : Tag) (due : SortedSet Key) (purged : Nat)
  /-- the store has answered the deletion of a key -/
  | answered (tag : Tag) (due : SortedSet Key) (purged : Nat) (key : Key)
      (answer : Except StoreError Bool)
  /-- it is over -/
  | finished (result : Except StoreError Nat)

namespace Purge

/-- Begin: unlink the tag and remember its keys. -/
def start (x : TagIndex) (t : Tag) : Purge × TagIndex :=
  let (keys, x) := x.detach t
  (.deleting t keys 0, x)

/-- Take the store's answer to the deletion of a key that is due. -/
def visit (p : Purge) (k : Key) (answer : Except StoreError Bool) : Option Purge :=
  match p with
  | deleting t due n => if k ∈ due then some (.answered t (due.erase k) n k answer) else none
  | _ => none

/-- Go on after an answer, or end when no key is due. The second component says how many keys the
purge reports as removed when it ends well. -/
def proceed (p : Purge) (x : TagIndex) : Option (Purge × TagIndex × Nat) :=
  match p with
  | answered t due n _ (.ok removed) => some (.deleting t due (if removed then n + 1 else n), x, 0)
  | answered t due _ k (.error e) =>
    some (.finished (.error e), x.linkKeys t (due.insert k).toList, 0)
  | deleting _ due n => if due.isEmpty then some (.finished (.ok n), x, n) else none
  | finished _ => none

/-- The keys still to be deleted. -/
def due : Purge → SortedSet Key
  | deleting _ due _ => due
  | _ => ∅

end Purge

/-! ## Survey -/

/-- How the survey of a tag's live keys stands. -/
inductive Survey where
  /-- these keys are still to be read -/
  | reading (tag : Tag) (due live : SortedSet Key)
  /-- it is over -/
  | finished (result : Except StoreError (SortedSet Key))

namespace Survey

/-- Begin with the keys linked to the tag. -/
def start (x : TagIndex) (t : Tag) : Survey := .reading t (x.keysForTag t) ∅

/-- Take the store's answer to the reading of a key that is due. -/
def visit (s : Survey) (k : Key) (answer : Except StoreError (Option Entry)) : Option Survey :=
  match s with
  | reading t due live =>
    if k ∈ due then
      some (match answer with
        | .ok (some e) => .reading t (due.erase k) (if e.hasTag t then live.insert k else live)
        | .ok none => .reading t (due.erase k) live
        | .error e => .finished (.error e))
    else none
  | finished _ => none

/-- End when no key is due. -/
def proceed : Survey → Option Survey
  | reading _ due live => if due.isEmpty then some (.finished (.ok live)) else none
  | finished _ => none

/-- The keys still to be read. -/
def due : Survey → SortedSet Key
  | reading _ due _ => due
  | finished _ => ∅

end Survey

/-! ## Compaction -/

/-- How a compaction stands. -/
inductive Compaction where
  /-- these keys are still to be read -/
  | reading (due : SortedSet Key) (removed : Nat)
  /-- the store had no entry for a key, whose links are to be dropped -/
  | missing (key : Key) (due : SortedSet Key) (removed : Nat)
  /-- it is over -/
  | finished (result : Except StoreError Nat)

namespace Compaction

/-- Begin with all keys that have a link. -/
def start (x : TagIndex) : Compaction := .reading (.ofList x.tagsOf.keys) 0

/-- Take the store's answer to the reading of a key that is due. -/
def visit (c : Compaction) (k : Key) (answer : Except StoreError (Option Entry)) :
    Option Compaction :=
  match c with
  | reading due n =>
    if k ∈ due then
      some (match answer with
        | .ok (some _) => .reading (due.erase k) n
        | .ok none => .missing k (due.erase k) n
        | .error e => .finished (.error e))
    else none
  | _ => none

/-- Drop the links of a missing key, or end when no key is due. -/
def proceed (c : Compaction) (x : TagIndex) : Option (Compaction × TagIndex) :=
  match c with
  | missing k due n => some (.reading due (n + 1), (x.forget k).2)
  | reading due n => if due.isEmpty then some (.finished (.ok n), x) else none
  | finished _ => none

/-- The keys still to be read. -/
def due : Compaction → SortedSet Key
  | reading due _ => due
  | _ => ∅

end Compaction

/-! ## Rebuild -/

/-- How a rebuild stands. -/
inductive Rebuild where
  /-- the keys of the store are still to be listed -/
  | listing
  /-- these keys are still to be read, and this is the index of those read -/
  | reading (due : List Key) (built : TagIndex)
  /-- it is over -/
  | finished (result : Except StoreError Nat)

namespace Rebuild

/-- Take the store's list of keys. -/
def listed (r : Rebuild) (answer : Except StoreError (List Key)) : Option Rebuild :=
  match r with
  | listing =>
    some (match answer with
      | .ok keys => .reading keys ∅
      | .error e => .finished (.error e))
  | _ => none

/-- Take the store's answer to the reading of the next key. -/
def visit (r : Rebuild) (answer : Except StoreError (Option Entry)) : Option Rebuild :=
  match r with
  | reading (k :: due) built =>
    some (match answer with
      | .ok (some e) => .reading due (built.addEntry k e.tags)
      | .ok none => .reading due built
      | .error e => .finished (.error e))
  | _ => none

/-- Put the built index in place when no key is due. -/
def proceed (r : Rebuild) : Option (Rebuild × TagIndex) :=
  match r with
  | reading [] built => some (.finished (.ok built.keyCount), built)
  | _ => none

end Rebuild

end PageCache
