import Mathlib.Tactic.Common
import PageCache.TagIndex

/-!
# Links

A tag index is two maps that show the same links from both ends. `TagIndex.Coherent` says that they
do, and for a coherent index one relation, `TagIndex.Linked`, says everything: each operation keeps
the index coherent, and its law says which links it adds and which it takes away.

* **buckets** — both maps bind a set to each name, and an empty set is not bound; `mem_dropFrom` and
  `mem_addTo` say what taking one member out and putting one in do to all sets at once;
* **operations** — `linked_replaceTags`, `linked_forget`, `linked_detach`, `linked_linkTags`,
  `linked_linkKeys` and `linked_addEntry`, each beside the lemma that its result is coherent.
-/

namespace PageCache

/-! ## Buckets -/

namespace SortedMap

variable {α β : Type} [LT α] [DecidableEq α] [LT β]

theorem bucket_erase (m : SortedMap α (SortedSet β)) (a x : α) :
    (m.erase a).bucket x = if a = x then ∅ else m.bucket x := by
  unfold bucket
  rw [get?_erase]
  split <;> rfl

variable [DecidableLT α] [LE α] [Std.IsLinearOrder α] [Std.LawfulOrderLT α]

theorem bucket_insert (m : SortedMap α (SortedSet β)) (a x : α) (s : SortedSet β) :
    (m.insert a s).bucket x = if a = x then s else m.bucket x := by
  unfold bucket
  rw [get?_insert]
  split <;> rfl

variable [DecidableEq β] [LE β] [Std.IsLinearOrder β] [Std.LawfulOrderLT β]

/-- **Taking out.** Only `b` leaves, and only the set of `a`. -/
theorem mem_dropFrom {m : SortedMap α (SortedSet β)} {a x : α} {b y : β} :
    y ∈ (m.dropFrom a b).bucket x ↔ y ∈ m.bucket x ∧ ¬ (x = a ∧ y = b) := by
  unfold dropFrom
  cases hs : m.get? a with
  | none =>
    have hempty : m.bucket a = ∅ := by rw [bucket, hs]; rfl
    refine ⟨fun hy => ⟨hy, ?_⟩, fun hy => hy.1⟩
    rintro ⟨rfl, rfl⟩
    rw [hempty] at hy
    exact SortedSet.not_mem_empty _ hy
  | some s =>
    have hbucket : m.bucket a = s := by rw [bucket, hs]; rfl
    have hnew : (if (s.erase b).isEmpty then m.erase a else m.insert a (s.erase b)).bucket x =
        if a = x then s.erase b else m.bucket x := by
      split
      · rename_i he
        -- a set that gets empty is not bound any more, which shows as the empty set
        rw [bucket_erase]
        split
        · refine SortedSet.ext fun z => ?_
          exact ⟨fun hz => absurd hz (SortedSet.not_mem_empty z),
            fun hz => absurd hz (SortedSet.not_mem_of_isEmpty he z)⟩
        · rfl
      · rw [bucket_insert]
    show y ∈ (if (s.erase b).isEmpty then m.erase a else m.insert a (s.erase b)).bucket x ↔ _
    rw [hnew]
    by_cases hx : a = x
    · subst hx
      rw [if_pos rfl, SortedSet.mem_erase, hbucket]
      constructor
      · rintro ⟨hne, hy⟩
        exact ⟨hy, fun h => hne h.2⟩
      · rintro ⟨hy, hne⟩
        exact ⟨fun h => hne ⟨rfl, h⟩, hy⟩
    · rw [if_neg hx]
      exact ⟨fun hy => ⟨hy, fun h => hx h.1.symm⟩, fun hy => hy.1⟩

theorem mem_foldl_dropFrom {l : List α} {m : SortedMap α (SortedSet β)} {x : α} {b y : β} :
    y ∈ (l.foldl (fun m a => m.dropFrom a b) m).bucket x ↔ y ∈ m.bucket x ∧ ¬ (x ∈ l ∧ y = b) := by
  induction l generalizing m with
  | nil => simp
  | cons a l ih =>
    rw [List.foldl_cons, ih, mem_dropFrom, List.mem_cons]
    tauto

variable [DecidableLT β]

/-- **Putting in.** Only `b` comes in, and only into the set of `a`. -/
theorem mem_addTo {m : SortedMap α (SortedSet β)} {a x : α} {b y : β} :
    y ∈ (m.addTo a b).bucket x ↔ (x = a ∧ y = b) ∨ y ∈ m.bucket x := by
  unfold addTo
  rw [bucket_insert]
  by_cases hx : a = x
  · subst hx
    rw [if_pos rfl, SortedSet.mem_insert]
    simp
  · rw [if_neg hx]
    exact ⟨.inr, fun h => h.resolve_left fun h => hx h.1.symm⟩

theorem mem_foldl_addTo {l : List α} {m : SortedMap α (SortedSet β)} {x : α} {b y : β} :
    y ∈ (l.foldl (fun m a => m.addTo a b) m).bucket x ↔ (x ∈ l ∧ y = b) ∨ y ∈ m.bucket x := by
  induction l generalizing m with
  | nil => simp
  | cons a l ih =>
    rw [List.foldl_cons, ih, mem_addTo, List.mem_cons]
    tauto

end SortedMap

/-! ## Links -/

namespace TagIndex

/-- The key is among the keys of the tag. -/
def Linked (x : TagIndex) (t : Tag) (k : Key) : Prop := k ∈ x.keysForTag t

/-- Both maps show the same links. -/
def Coherent (x : TagIndex) : Prop := ∀ t k, t ∈ x.tagsForKey k ↔ x.Linked t k

theorem linked_iff_mem_bucket {x : TagIndex} {t : Tag} {k : Key} :
    x.Linked t k ↔ k ∈ x.keysOf.bucket t := Iff.rfl

theorem mem_tagsForKey_iff {x : TagIndex} {t : Tag} {k : Key} :
    t ∈ x.tagsForKey k ↔ t ∈ x.tagsOf.bucket k := Iff.rfl

/-- The index without links is coherent. -/
theorem coherent_empty : (∅ : TagIndex).Coherent := fun t k =>
  ⟨fun h => absurd h (SortedSet.not_mem_empty t), fun h => absurd h (SortedSet.not_mem_empty k)⟩

/-! ### Linking -/

theorem linked_link {x : TagIndex} {t u : Tag} {k j : Key} :
    (x.link t k).Linked u j ↔ (u = t ∧ j = k) ∨ x.Linked u j :=
  SortedMap.mem_addTo (m := x.keysOf)

theorem Coherent.link {x : TagIndex} (h : x.Coherent) (t : Tag) (k : Key) :
    (x.link t k).Coherent := by
  intro u j
  rw [linked_link, ← h u j]
  refine (SortedMap.mem_addTo (m := x.tagsOf)).trans ?_
  rw [and_comm]
  exact Iff.rfl

/-- **Linking tags** adds the links of these tags to the key. -/
theorem linked_linkTags {x : TagIndex} {ts : List Tag} {u : Tag} {k j : Key} :
    (x.linkTags ts k).Linked u j ↔ (u ∈ ts ∧ j = k) ∨ x.Linked u j := by
  unfold linkTags
  induction ts generalizing x with
  | nil => simp
  | cons t ts ih =>
    rw [List.foldl_cons, ih, linked_link, List.mem_cons]
    tauto

theorem Coherent.linkTags {x : TagIndex} (h : x.Coherent) (ts : List Tag) (k : Key) :
    (x.linkTags ts k).Coherent := by
  unfold TagIndex.linkTags
  induction ts generalizing x with
  | nil => exact h
  | cons t ts ih => exact ih (h.link t k)

/-- **Linking keys** adds the links of the tag to these keys. -/
theorem linked_linkKeys {x : TagIndex} {t u : Tag} {ks : List Key} {j : Key} :
    (x.linkKeys t ks).Linked u j ↔ (u = t ∧ j ∈ ks) ∨ x.Linked u j := by
  unfold linkKeys
  induction ks generalizing x with
  | nil => simp
  | cons k ks ih =>
    rw [List.foldl_cons, ih, linked_link, List.mem_cons]
    tauto

theorem Coherent.linkKeys {x : TagIndex} (h : x.Coherent) (t : Tag) (ks : List Key) :
    (x.linkKeys t ks).Coherent := by
  unfold TagIndex.linkKeys
  induction ks generalizing x with
  | nil => exact h
  | cons k ks ih => exact ih (h.link t k)

/-! ### Unlinking -/

/-- Forgetting a key takes away the links of which the key itself knows. -/
theorem linked_forget_iff {x : TagIndex} {k j : Key} {u : Tag} :
    (x.forget k).2.Linked u j ↔ x.Linked u j ∧ ¬ (u ∈ x.tagsForKey k ∧ j = k) := by
  rw [linked_iff_mem_bucket, linked_iff_mem_bucket]
  simp only [TagIndex.forget]
  rw [SortedMap.mem_foldl_dropFrom, SortedSet.mem_toList]

/-- **Forgetting** a key takes away its links. -/
theorem linked_forget {x : TagIndex} (h : x.Coherent) {k j : Key} {u : Tag} :
    (x.forget k).2.Linked u j ↔ j ≠ k ∧ x.Linked u j := by
  rw [linked_forget_iff, h u k]
  constructor
  · rintro ⟨hj, hn⟩
    refine ⟨?_, hj⟩
    rintro rfl
    exact hn ⟨hj, rfl⟩
  · rintro ⟨hne, hj⟩
    exact ⟨hj, fun hn => hne hn.2⟩

theorem Coherent.forget {x : TagIndex} (h : x.Coherent) (k : Key) : (x.forget k).2.Coherent := by
  intro u j
  rw [linked_forget h, mem_tagsForKey_iff]
  show u ∈ (x.tagsOf.erase k).bucket j ↔ _
  rw [SortedMap.bucket_erase]
  by_cases hj : k = j
  · subst hj
    simp
  · rw [if_neg hj, ← h u j]
    exact ⟨fun hu => ⟨Ne.symm hj, hu⟩, fun hu => hu.2⟩

/-- **Detaching** a tag takes away its links. -/
theorem linked_detach {x : TagIndex} {t u : Tag} {j : Key} :
    (x.detach t).2.Linked u j ↔ u ≠ t ∧ x.Linked u j := by
  show j ∈ (x.keysOf.erase t).bucket u ↔ _
  rw [SortedMap.bucket_erase]
  by_cases hu : t = u
  · subst hu
    simp
  · rw [if_neg hu]
    exact ⟨fun hj => ⟨Ne.symm hu, hj⟩, fun hj => hj.2⟩

theorem Coherent.detach {x : TagIndex} (h : x.Coherent) (t : Tag) : (x.detach t).2.Coherent := by
  intro u j
  rw [linked_detach, mem_tagsForKey_iff]
  simp only [TagIndex.detach]
  rw [SortedMap.mem_foldl_dropFrom, SortedSet.mem_toList, ← mem_tagsForKey_iff, h u j]
  constructor
  · rintro ⟨hj, hn⟩
    refine ⟨?_, hj⟩
    rintro rfl
    exact hn ⟨hj, rfl⟩
  · rintro ⟨hne, hj⟩
    exact ⟨hj, fun hn => hne hn.2⟩

/-! ### Replacing -/

/-- Replacing the tags of a key takes away the links to old tags of which the key itself knows, and
adds those to the new ones. -/
theorem linked_replaceTags_iff {x : TagIndex} {k j : Key} {ts : SortedSet Tag} {u : Tag} :
    (x.replaceTags k ts).Linked u j ↔
      (u ∈ ts ∧ j = k) ∨ x.Linked u j ∧ ¬ ((u ∈ x.tagsForKey k ∧ ¬ u ∈ ts) ∧ j = k) := by
  have hu : u ∈ ts ↔ ts.contains u = true := Iff.rfl
  rw [linked_iff_mem_bucket]
  simp only [TagIndex.replaceTags]
  rw [SortedMap.mem_foldl_addTo, SortedMap.mem_foldl_dropFrom, SortedSet.mem_toList,
    List.mem_filter, SortedSet.mem_toList, ← linked_iff_mem_bucket, hu]
  simp

/-- **Replacing** the tags of a key leaves it linked to exactly the new ones. -/
theorem linked_replaceTags {x : TagIndex} (h : x.Coherent) {k j : Key} {ts : SortedSet Tag}
    {u : Tag} :
    (x.replaceTags k ts).Linked u j ↔ (j = k ∧ u ∈ ts) ∨ (j ≠ k ∧ x.Linked u j) := by
  rw [linked_replaceTags_iff, h u k]
  by_cases hj : j = k
  · subst hj
    tauto
  · simp [hj]

theorem Coherent.replaceTags {x : TagIndex} (h : x.Coherent) (k : Key) (ts : SortedSet Tag) :
    (x.replaceTags k ts).Coherent := by
  intro u j
  rw [linked_replaceTags h, mem_tagsForKey_iff]
  show u ∈ (if ts.isEmpty then x.tagsOf.erase k else x.tagsOf.insert k ts).bucket j ↔ _
  by_cases hj : j = k
  · subst hj
    split
    · rename_i he
      rw [SortedMap.bucket_erase, if_pos rfl]
      have hn := SortedSet.not_mem_of_isEmpty he u
      simp [hn]
    · rw [SortedMap.bucket_insert, if_pos rfl]
      simp
  · have hbucket : (if ts.isEmpty then x.tagsOf.erase k else x.tagsOf.insert k ts).bucket j =
        x.tagsOf.bucket j := by
      split
      · rw [SortedMap.bucket_erase, if_neg (Ne.symm hj)]
      · rw [SortedMap.bucket_insert, if_neg (Ne.symm hj)]
    rw [hbucket, ← mem_tagsForKey_iff, h u j]
    simp [hj]

/-! ### Recording -/

/-- **Recording** an entry adds the links of its tags to its key. -/
theorem linked_addEntry {x : TagIndex} {k j : Key} {ts : SortedSet Tag} {u : Tag} :
    (x.addEntry k ts).Linked u j ↔ (u ∈ ts ∧ j = k) ∨ x.Linked u j := by
  rw [linked_iff_mem_bucket]
  simp only [TagIndex.addEntry]
  rw [SortedMap.mem_foldl_addTo, SortedSet.mem_toList, ← linked_iff_mem_bucket]

/-- The index with what has been read of a key. -/
def record (built : TagIndex) (k : Key) : Option Entry → TagIndex
  | some e => built.addEntry k e.tags
  | none => built

/-- What has been read of a key is linked to it, and nothing else is new. -/
theorem linked_record {built : TagIndex} {k j : Key} {found : Option Entry} {t : Tag} :
    (built.record k found).Linked t j ↔
      (j = k ∧ ∃ e, found = some e ∧ t ∈ e.tags) ∨ built.Linked t j := by
  cases found with
  | none => simp [record]
  | some e => simp [record, linked_addEntry, and_comm]

theorem Coherent.addEntry {x : TagIndex} (h : x.Coherent) {k : Key} (hk : ∀ t, ¬ x.Linked t k)
    (ts : SortedSet Tag) : (x.addEntry k ts).Coherent := by
  intro u j
  rw [linked_addEntry, mem_tagsForKey_iff]
  show u ∈ (if ts.isEmpty then x.tagsOf else x.tagsOf.insert k ts).bucket j ↔ _
  split
  · rename_i he
    have hn := SortedSet.not_mem_of_isEmpty he u
    rw [← mem_tagsForKey_iff, h u j]
    simp [hn]
  · rw [SortedMap.bucket_insert]
    by_cases hj : k = j
    · subst hj
      have hn := hk u
      simp [hn]
    · rw [if_neg hj, ← mem_tagsForKey_iff, h u j]
      simp [Ne.symm hj]

end TagIndex

end PageCache
