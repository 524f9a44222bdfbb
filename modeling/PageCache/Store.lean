import PageCache.Entry

/-!
# The store contract

A store keeps at most one entry a key. The rest of the cache only uses the operations of `Store`,
so that backends can be exchanged. Writing is by compare and swap: a write says which generation it
saw, and `checkGeneration` is the one rule by which every backend decides whether it still holds.
-/

namespace PageCache

/-- Why a store did not answer. -/
inductive StoreError where
  /-- the backend is out of reach -/
  | unavailable (message : String)
deriving DecidableEq, Inhabited

/-- The text of a store's error. -/
def StoreError.message : StoreError → String
  | .unavailable m => "cache store unavailable: " ++ m

/-- The answer to a conditional write. -/
inductive PutOutcome where
  /-- the entry is in the store -/
  | stored
  /-- the write saw another generation than the one stored, and nothing was written -/
  | conflict (current : Option Generation)
deriving DecidableEq, Inhabited

/-- Whether the entry was written. -/
def PutOutcome.isStored : PutOutcome → Bool
  | .stored => true
  | .conflict _ => false

/-- The rule of a conditional write: the generation seen is still the stored one, and the new one is
above it (above `0` where none was seen). -/
def checkGeneration (current observed : Option Generation) (incoming : Generation) : PutOutcome :=
  if current ≠ observed ∨ incoming ≤ observed.getD 0 then .conflict current else .stored

/-- The operations of a store. Each takes the store as it is and gives its answer and the store as
it is afterwards. -/
class Store (σ : Type) where
  /-- the entry of a key; a key without one is no error -/
  get : σ → Key → Except StoreError (Option Entry) × σ
  /-- write an entry if the generation observed is the one stored -/
  put : σ → Entry → Option Generation → Except StoreError PutOutcome × σ
  /-- remove a key's entry; says whether there was one -/
  delete : σ → Key → Except StoreError Bool × σ
  /-- the keys that start with a text, in order -/
  list : σ → String → Except StoreError (List Key) × σ

end PageCache
