import PageCache.Entry
import PageCache.SortedMap
import PageCache.SortedSet

/-!
# The tag index

Which keys a tag invalidates, and which tags a key carries, as two maps that are kept in step: a key
is among the keys of a tag exactly when the tag is among the tags of the key, and neither map keeps
an empty set. The index refers to keys only; the entries are in a store, and a key may have left it.
-/

namespace PageCache

/-! ## Maps of sets -/

namespace SortedMap

variable {α β : Type} [LT α] [DecidableEq α] [LT β]

/-- The set bound to `a`, which is empty if none is bound. -/
def bucket (m : SortedMap α (SortedSet β)) (a : α) : SortedSet β := (m.get? a).getD ∅

variable [DecidableLT α] [LE α] [Std.IsLinearOrder α] [Std.LawfulOrderLT α] [DecidableEq β]

/-- The map without `b` in the set bound to `a`, and without this set if nothing else is in it. -/
def dropFrom (m : SortedMap α (SortedSet β)) (a : α) (b : β) : SortedMap α (SortedSet β) :=
  match m.get? a with
  | none => m
  | some s => if (s.erase b).isEmpty then m.erase a else m.insert a (s.erase b)

variable [DecidableLT β] [LE β] [Std.IsLinearOrder β] [Std.LawfulOrderLT β]

/-- The map with `b` in the set bound to `a`. -/
def addTo (m : SortedMap α (SortedSet β)) (a : α) (b : β) : SortedMap α (SortedSet β) :=
  m.insert a ((m.bucket a).insert b)

end SortedMap

/-! ## Links -/

/-- Tags and keys, linked both ways. -/
structure TagIndex where
  /-- the keys of each tag -/
  keysOf : SortedMap Tag (SortedSet Key)
  /-- the tags of each key -/
  tagsOf : SortedMap Key (SortedSet Tag)
deriving DecidableEq, Inhabited

namespace TagIndex

/-- The index without links. -/
def empty : TagIndex := ⟨∅, ∅⟩

instance : EmptyCollection TagIndex := ⟨empty⟩

/-- The keys linked to a tag. -/
def keysForTag (x : TagIndex) (t : Tag) : SortedSet Key := x.keysOf.bucket t

/-- The tags linked to a key. -/
def tagsForKey (x : TagIndex) (k : Key) : SortedSet Tag := x.tagsOf.bucket k

/-- The number of tags with a link. -/
def tagCount (x : TagIndex) : Nat := x.keysOf.size

/-- The number of keys with a link. -/
def keyCount (x : TagIndex) : Nat := x.tagsOf.size

/-- Link a tag and a key. -/
def link (x : TagIndex) (t : Tag) (k : Key) : TagIndex where
  keysOf := x.keysOf.addTo t k
  tagsOf := x.tagsOf.addTo k t

/-- Link each of some tags to a key. -/
def linkTags (x : TagIndex) (ts : List Tag) (k : Key) : TagIndex :=
  ts.foldl (fun x t => x.link t k) x

/-- Link a tag to each of some keys. -/
def linkKeys (x : TagIndex) (t : Tag) (ks : List Key) : TagIndex :=
  ks.foldl (fun x k => x.link t k) x

/-- Make some tags the only ones of a key. -/
def replaceTags (x : TagIndex) (k : Key) (tags : SortedSet Tag) : TagIndex :=
  let gone := (x.tagsForKey k).toList.filter (fun t => !tags.contains t)
  let keysOf := gone.foldl (fun m t => m.dropFrom t k) x.keysOf
  { keysOf := tags.toList.foldl (fun m t => m.addTo t k) keysOf
    tagsOf := if tags.isEmpty then x.tagsOf.erase k else x.tagsOf.insert k tags }

/-- Drop every link of a key; gives the tags it was linked to. -/
def forget (x : TagIndex) (k : Key) : SortedSet Tag × TagIndex :=
  let tags := x.tagsForKey k
  (tags, { keysOf := tags.toList.foldl (fun m t => m.dropFrom t k) x.keysOf
           tagsOf := x.tagsOf.erase k })

/-- Drop every link of a tag; gives the keys it was linked to. -/
def detach (x : TagIndex) (t : Tag) : SortedSet Key × TagIndex :=
  let keys := x.keysForTag t
  (keys, { keysOf := x.keysOf.erase t
           tagsOf := keys.toList.foldl (fun m k => m.dropFrom k t) x.tagsOf })

/-- Record the tags of one more stored entry, whose key has no link yet. -/
def addEntry (x : TagIndex) (k : Key) (tags : SortedSet Tag) : TagIndex where
  keysOf := tags.toList.foldl (fun m t => m.addTo t k) x.keysOf
  tagsOf := if tags.isEmpty then x.tagsOf else x.tagsOf.insert k tags

end TagIndex

end PageCache
