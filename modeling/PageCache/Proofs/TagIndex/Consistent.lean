import PageCache.Proofs.Run
import PageCache.Proofs.TagIndex.Links

/-!
# Consistent indexes

A consistent index keeps no empty set in either of its maps, beside showing the same links in both.
Then it is known by its links alone (`TagIndex.Consistent.ext`): whatever way two indexes have gone,
over buckets that were dropped and made again, if they have the same links they are the same.
-/

namespace PageCache

/-- A set with a member does not show itself empty. -/
theorem SortedSet.isEmpty_of_mem {α : Type} [LT α] [DecidableEq α] {s : SortedSet α} {a : α}
    (h : a ∈ s) : s.isEmpty = false := by
  cases hs : s.isEmpty with
  | false => rfl
  | true => exact absurd h (not_mem_of_isEmpty hs a)

namespace SortedMap

variable {α β : Type} [LT α] [DecidableEq α] [LT β]

/-- No name is bound to an empty set. -/
def Tidy (m : SortedMap α (SortedSet β)) : Prop := ∀ a s, m.get? a = some s → s.isEmpty = false

namespace Tidy

variable {m n : SortedMap α (SortedSet β)}

theorem empty : (∅ : SortedMap α (SortedSet β)).Tidy := by
  intro a s hs
  cases hs

theorem erase (h : m.Tidy) (a : α) : (m.erase a).Tidy := by
  intro x s hs
  rw [get?_erase] at hs
  split at hs
  · cases hs
  · exact h x s hs

section

variable [LE α] [Std.LawfulOrderLT α] [DecidableEq β] [LE β] [Std.LawfulOrderLT β]

/-- The names that are bound in a tidy map are those whose set has a member. -/
theorem mem_keys_iff (h : m.Tidy) {a : α} : a ∈ m.keys ↔ ∃ b, b ∈ m.bucket a := by
  rw [SortedMap.mem_keys_iff, bucket]
  cases hs : m.get? a with
  | none => simp
  | some s =>
    refine ⟨fun _ => ?_, fun _ => rfl⟩
    exact SortedSet.exists_mem_of_isEmpty (h a s hs)

/-- A tidy map binds as many names as have a member in their set. -/
theorem encard_names (h : m.Tidy) : {a | ∃ b, b ∈ m.bucket a}.encard = m.size := by
  have hset : {a | ∃ b, b ∈ m.bucket a} = {a | a ∈ m.keys} := Set.ext fun a => h.mem_keys_iff.symm
  rw [hset, encard_of_nodup m.nodup_keys]
  exact congrArg _ (List.length_map _)

variable [Std.IsLinearOrder α] [Std.IsLinearOrder β]

/-- Tidy maps with the same members in the set of each name are the same. -/
theorem ext (hm : m.Tidy) (hn : n.Tidy) (h : ∀ a b, b ∈ m.bucket a ↔ b ∈ n.bucket a) : m = n := by
  -- a name that is bound has a member in its set, so it is bound in the other map too
  have hbound : ∀ {m n : SortedMap α (SortedSet β)}, m.Tidy →
      (∀ a b, b ∈ m.bucket a ↔ b ∈ n.bucket a) → ∀ a s, m.get? a = some s → n.get? a = some s := by
    intro m n hm h a s hs
    have hbucket : m.bucket a = s := by rw [bucket, hs]; rfl
    obtain ⟨b, hb⟩ := SortedSet.exists_mem_of_isEmpty (hm a s hs)
    have hb' := (h a b).mp (hbucket.symm ▸ hb)
    cases hn : n.get? a with
    | none =>
      rw [bucket, hn] at hb'
      exact absurd hb' (SortedSet.not_mem_empty b)
    | some u =>
      have hbucket' : n.bucket a = u := by rw [bucket, hn]; rfl
      refine congrArg some (SortedSet.ext fun c => ?_)
      rw [← hbucket', ← h a c, hbucket]
  refine SortedMap.ext fun a => ?_
  cases hs : m.get? a with
  | some s => exact (hbound hm h a s hs).symm
  | none =>
    cases hu : n.get? a with
    | none => rfl
    | some u =>
      rw [hbound hn (fun a b => (h a b).symm) a u hu] at hs
      cases hs

end

variable [DecidableLT α] [LE α] [Std.IsLinearOrder α] [Std.LawfulOrderLT α]

theorem insert (h : m.Tidy) (a : α) {s : SortedSet β} (hs : s.isEmpty = false) :
    (m.insert a s).Tidy := by
  intro x u hu
  rw [get?_insert] at hu
  split at hu
  · exact Option.some.inj hu ▸ hs
  · exact h x u hu

variable [DecidableEq β]

theorem dropFrom (h : m.Tidy) (a : α) (b : β) : (m.dropFrom a b).Tidy := by
  unfold SortedMap.dropFrom
  split
  · exact h
  · split
    · exact h.erase a
    · rename_i hs
      exact h.insert a (by simpa using hs)

theorem foldl_dropFrom (h : m.Tidy) (l : List α) (b : β) :
    (l.foldl (fun m a => m.dropFrom a b) m).Tidy := by
  induction l generalizing m with
  | nil => exact h
  | cons a l ih => exact ih (h.dropFrom a b)

variable [DecidableLT β] [LE β] [Std.IsLinearOrder β] [Std.LawfulOrderLT β]

theorem addTo (h : m.Tidy) (a : α) (b : β) : (m.addTo a b).Tidy :=
  h.insert a (SortedSet.isEmpty_of_mem (SortedSet.mem_insert.mpr (.inl rfl)))

theorem foldl_addTo (h : m.Tidy) (l : List α) (b : β) :
    (l.foldl (fun m a => m.addTo a b) m).Tidy := by
  induction l generalizing m with
  | nil => exact h
  | cons a l ih => exact ih (h.addTo a b)

end Tidy

end SortedMap

namespace TagIndex

/-- Both maps show the same links, and neither keeps an empty set. -/
structure Consistent (x : TagIndex) : Prop where
  /-- both maps show the same links -/
  coherent : x.Coherent
  /-- no tag is kept without keys -/
  keysOf : x.keysOf.Tidy
  /-- no key is kept without tags -/
  tagsOf : x.tagsOf.Tidy

namespace Consistent

variable {x y : TagIndex}

theorem empty : (∅ : TagIndex).Consistent := ⟨coherent_empty, .empty, .empty⟩

/-- **One index for the same links.** -/
theorem ext (hx : x.Consistent) (hy : y.Consistent) (h : ∀ t k, x.Linked t k ↔ y.Linked t k) :
    x = y := by
  have hkeys : x.keysOf = y.keysOf := hx.keysOf.ext hy.keysOf h
  have htags : x.tagsOf = y.tagsOf := by
    refine hx.tagsOf.ext hy.tagsOf fun k t => ?_
    rw [← mem_tagsForKey_iff, ← mem_tagsForKey_iff, hx.coherent t k, hy.coherent t k]
    exact h t k
  cases x
  cases y
  exact congrArg₂ _ hkeys htags

theorem link (h : x.Consistent) (t : Tag) (k : Key) : (x.link t k).Consistent :=
  ⟨h.coherent.link t k, h.keysOf.addTo t k, h.tagsOf.addTo k t⟩

theorem linkTags (h : x.Consistent) (ts : List Tag) (k : Key) : (x.linkTags ts k).Consistent := by
  unfold TagIndex.linkTags
  induction ts generalizing x with
  | nil => exact h
  | cons t ts ih => exact ih (h.link t k)

theorem linkKeys (h : x.Consistent) (t : Tag) (ks : List Key) : (x.linkKeys t ks).Consistent := by
  unfold TagIndex.linkKeys
  induction ks generalizing x with
  | nil => exact h
  | cons k ks ih => exact ih (h.link t k)

theorem detach (h : x.Consistent) (t : Tag) : (x.detach t).2.Consistent where
  coherent := h.coherent.detach t
  keysOf := h.keysOf.erase t
  tagsOf := by
    simp only [TagIndex.detach]
    exact h.tagsOf.foldl_dropFrom _ t

theorem forget (h : x.Consistent) (k : Key) : (x.forget k).2.Consistent where
  coherent := h.coherent.forget k
  keysOf := by
    simp only [TagIndex.forget]
    exact h.keysOf.foldl_dropFrom _ k
  tagsOf := h.tagsOf.erase k

theorem replaceTags (h : x.Consistent) (k : Key) (ts : SortedSet Tag) :
    (x.replaceTags k ts).Consistent where
  coherent := h.coherent.replaceTags k ts
  keysOf := by
    simp only [TagIndex.replaceTags]
    exact (h.keysOf.foldl_dropFrom _ k).foldl_addTo _ k
  tagsOf := by
    show (if ts.isEmpty then x.tagsOf.erase k else x.tagsOf.insert k ts).Tidy
    split
    · exact h.tagsOf.erase k
    · rename_i hts
      exact h.tagsOf.insert k (by simpa using hts)

theorem addEntry (h : x.Consistent) {k : Key} (hk : ∀ t, ¬ x.Linked t k) (ts : SortedSet Tag) :
    (x.addEntry k ts).Consistent where
  coherent := h.coherent.addEntry hk ts
  keysOf := by
    simp only [TagIndex.addEntry]
    exact h.keysOf.foldl_addTo _ k
  tagsOf := by
    show (if ts.isEmpty then x.tagsOf else x.tagsOf.insert k ts).Tidy
    split
    · exact h.tagsOf
    · rename_i hts
      exact h.tagsOf.insert k (by simpa using hts)

/-- The number of keys that an index gives is the number of keys with a link. -/
theorem encard_linked (h : x.Consistent) : {k | ∃ t, x.Linked t k}.encard = x.keyCount := by
  have hset : {k | ∃ t, x.Linked t k} = {k | ∃ t, t ∈ x.tagsOf.bucket k} :=
    Set.ext fun k => exists_congr fun t => (h.coherent t k).symm
  rw [hset]
  exact h.tagsOf.encard_names

/-- Linking what a forgotten key was linked to brings the index back. -/
theorem linkTags_forget (h : x.Consistent) (k : Key) :
    (x.forget k).2.linkTags (x.tagsForKey k).toList k = x := by
  refine ((h.forget k).linkTags _ k).ext h fun t j => ?_
  rw [linked_linkTags, linked_forget h.coherent, SortedSet.mem_toList, h.coherent t k]
  constructor
  · rintro (⟨ht, rfl⟩ | ⟨-, ht⟩)
    · exact ht
    · exact ht
  · intro ht
    by_cases hj : j = k
    · exact .inl ⟨hj ▸ ht, hj⟩
    · exact .inr ⟨hj, ht⟩

end Consistent

end TagIndex

end PageCache
