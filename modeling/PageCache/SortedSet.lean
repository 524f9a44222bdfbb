import PageCache.SortedMap

/-!
# Finite sets in order

A `SortedSet α` lists its members in strictly increasing order, so a set has one representation and
`toList` needs no sorting. It is the key set of a `SortedMap` that binds nothing of interest:
`mem_insert`, `mem_erase` and `SortedSet.ext` follow from the laws of the map.
-/

namespace PageCache

universe u

/-- A finite set, listed in increasing order. -/
structure SortedSet (α : Type u) [LT α] where
  /-- the members, bound to nothing -/
  toMap : SortedMap α Unit
deriving DecidableEq

namespace SortedSet

variable {α : Type u} [LT α]

/-- The set without members. -/
def empty : SortedSet α := ⟨∅⟩

instance : EmptyCollection (SortedSet α) := ⟨empty⟩
instance : Inhabited (SortedSet α) := ⟨empty⟩

/-- The members, in increasing order. -/
def toList (s : SortedSet α) : List α := s.toMap.keys

/-- The number of members. -/
def size (s : SortedSet α) : Nat := s.toMap.size

/-- Whether there is no member. -/
def isEmpty (s : SortedSet α) : Bool := s.toMap.isEmpty

/-- No member is listed twice. -/
theorem nodup_toList [LE α] [Std.LawfulOrderLT α] (s : SortedSet α) : s.toList.Nodup :=
  s.toMap.nodup_keys

variable [DecidableEq α]

/-- Whether `a` is a member. -/
def contains (s : SortedSet α) (a : α) : Bool := s.toMap.contains a

instance : Membership α (SortedSet α) := ⟨fun s a => s.contains a = true⟩
instance (a : α) (s : SortedSet α) : Decidable (a ∈ s) :=
  inferInstanceAs (Decidable (s.contains a = true))

/-- The set without `a`. -/
def erase (s : SortedSet α) (a : α) : SortedSet α := ⟨s.toMap.erase a⟩

theorem mem_iff_get? {s : SortedSet α} {a : α} : a ∈ s ↔ s.toMap.get? a = some () := by
  show (s.toMap.get? a).isSome = true ↔ _
  cases s.toMap.get? a <;> simp

@[simp] theorem not_mem_empty (a : α) : ¬ a ∈ (∅ : SortedSet α) := by
  intro h
  exact absurd (mem_iff_get?.mp h) (Option.some_ne_none ()).symm

/-- **Erasing.** The erased member is gone and nothing else is. -/
@[simp] theorem mem_erase {s : SortedSet α} {a b : α} : b ∈ s.erase a ↔ b ≠ a ∧ b ∈ s := by
  simp only [mem_iff_get?, erase, SortedMap.get?_erase]
  by_cases h : a = b
  · subst h; simp
  · simp [h, Ne.symm h]

/-- A set that shows no member has none. -/
theorem not_mem_of_isEmpty {s : SortedSet α} (h : s.isEmpty = true) (a : α) : ¬ a ∈ s := by
  have hl : s.toMap.toList = [] := List.isEmpty_iff.mp h
  rw [mem_iff_get?, SortedMap.get?, hl]
  exact (Option.some_ne_none ()).symm

variable [LE α] [Std.LawfulOrderLT α]

/-- The listing shows exactly the members. -/
@[simp] theorem mem_toList {s : SortedSet α} {a : α} : a ∈ s.toList ↔ a ∈ s := by
  rw [toList, SortedMap.mem_keys_iff]; rfl

/-- A set that does not show itself empty has a member. -/
theorem exists_mem_of_isEmpty {s : SortedSet α} (h : s.isEmpty = false) : ∃ a, a ∈ s := by
  obtain ⟨p, hp⟩ := List.isEmpty_eq_false_iff_exists_mem.mp h
  exact ⟨p.1, mem_iff_get?.mpr (SortedMap.mem_toList_iff.mp hp)⟩

/-- A set gets smaller when a member is erased. -/
theorem size_erase_lt {s : SortedSet α} {a : α} (h : a ∈ s) : (s.erase a).size < s.size := by
  have hmem : (a, ()) ∈ s.toMap.toList := SortedMap.mem_toList_iff.mpr (mem_iff_get?.mp h)
  refine List.length_filter_lt_length_iff_exists.mpr ⟨(a, ()), hmem, ?_⟩
  simp

variable [Std.IsLinearOrder α]

/-- **Extensionality.** Sets with the same members are equal. -/
theorem ext {s t : SortedSet α} (h : ∀ a, a ∈ s ↔ a ∈ t) : s = t := by
  have hm : s.toMap = t.toMap := by
    refine SortedMap.ext fun k => ?_
    have := h k
    simp only [mem_iff_get?] at this
    rcases hs : s.toMap.get? k with _ | ⟨⟩ <;> rcases ht : t.toMap.get? k with _ | ⟨⟩ <;> simp_all
  cases s; cases t; simp_all

variable [DecidableLT α]

/-- The set with `a`. -/
def insert (s : SortedSet α) (a : α) : SortedSet α := ⟨s.toMap.insert a ()⟩

/-- The set with all of a list. -/
def insertAll (s : SortedSet α) (l : List α) : SortedSet α := l.foldl insert s

/-- The set of a list's elements. -/
def ofList (l : List α) : SortedSet α := insertAll ∅ l

/-- **Inserting.** The members are the old ones and the inserted one. -/
@[simp] theorem mem_insert {s : SortedSet α} {a b : α} : b ∈ s.insert a ↔ b = a ∨ b ∈ s := by
  simp only [mem_iff_get?, insert, SortedMap.get?_insert]
  by_cases h : a = b
  · simp [h]
  · simp [h, Ne.symm h]

@[simp] theorem mem_insertAll {l : List α} {s : SortedSet α} {b : α} :
    b ∈ s.insertAll l ↔ b ∈ l ∨ b ∈ s := by
  induction l generalizing s with
  | nil => simp [insertAll]
  | cons a l ih =>
    have : insertAll s (a :: l) = insertAll (s.insert a) l := rfl
    rw [this, ih, mem_insert, List.mem_cons]
    grind

@[simp] theorem mem_ofList {l : List α} {b : α} : b ∈ ofList l ↔ b ∈ l := by
  simp [ofList]

end SortedSet

end PageCache
