import PageCache.Proofs.TagIndex.Links

/-!
# One key of the index

What a tag index says of one key does not depend on what it says of the others: `x.CutTo k x'` says
that `x'` has the links of the key `k` as they are in `x`, and no others, and each operation keeps
it. An operation on `k` is made on both, an operation on another key on `x` alone, and detaching a
tag, which is an operation on all keys at once, on both.
-/

namespace PageCache

/-! ## Sets of keys -/

namespace SortedSet

variable {k j : Key} {s s' : SortedSet Key}

/-- The set `s'` is `s` cut down to the one member `k`. -/
def CutTo (k : Key) (s s' : SortedSet Key) : Prop := ∀ j, j ∈ s' ↔ j = k ∧ j ∈ s

theorem cutTo_empty (k : Key) : CutTo k ∅ ∅ := by
  intro j
  simp

theorem CutTo.erase (h : s.CutTo k s') : (s.erase k).CutTo k (s'.erase k) := by
  intro j
  simp only [mem_erase, h j]
  tauto

/-- Whether another key is there makes no difference. -/
theorem CutTo.erase_of_ne (h : s.CutTo k s') (hj : j ≠ k) : (s.erase j).CutTo k s' := by
  intro i
  rw [mem_erase, h i]
  constructor
  · rintro ⟨rfl, hi⟩
    exact ⟨rfl, Ne.symm hj, hi⟩
  · rintro ⟨rfl, -, hi⟩
    exact ⟨rfl, hi⟩

theorem CutTo.insert (h : s.CutTo k s') : (s.insert k).CutTo k (s'.insert k) := by
  intro j
  simp only [mem_insert, h j]
  tauto

/-- Whether another key is there makes no difference. -/
theorem CutTo.insert_of_ne (h : s.CutTo k s') (hj : j ≠ k) : (s.insert j).CutTo k s' := by
  intro i
  rw [mem_insert, h i]
  constructor
  · rintro ⟨rfl, hi⟩
    exact ⟨rfl, .inr hi⟩
  · rintro ⟨rfl, hi⟩
    exact ⟨rfl, hi.resolve_left (Ne.symm hj)⟩

theorem CutTo.isEmpty (h : s.CutTo k s') (hs : s.isEmpty = true) : s'.isEmpty = true := by
  cases he : s'.isEmpty with
  | true => rfl
  | false =>
    obtain ⟨j, hj⟩ := exists_mem_of_isEmpty he
    exact absurd ((h j).mp hj).2 (not_mem_of_isEmpty hs j)

end SortedSet

/-! ## The index -/

namespace TagIndex

variable {x x' : TagIndex} {k j : Key} {t : Tag} {ts : SortedSet Tag}

/-- The index `x'` has the links of `x` that are of the key, and no others. -/
structure CutTo (k : Key) (x x' : TagIndex) : Prop where
  /-- in the keys of each tag -/
  keys : ∀ t, (x.keysForTag t).CutTo k (x'.keysForTag t)
  /-- in the tags of each key -/
  tags : ∀ j, x'.tagsOf.get? j = if j = k then x.tagsOf.get? k else none

theorem cutTo_empty (k : Key) : (∅ : TagIndex).CutTo k ∅ where
  keys _ := SortedSet.cutTo_empty k
  tags j := by
    show (∅ : SortedMap Key (SortedSet Tag)).get? j = if _ then SortedMap.get? ∅ k else none
    simp

theorem CutTo.linked (h : x.CutTo k x') : x'.Linked t j ↔ j = k ∧ x.Linked t j := h.keys t j

/-- Both know the same tags of the key. -/
theorem CutTo.tagsForKey (h : x.CutTo k x') : x'.tagsForKey k = x.tagsForKey k := by
  simp only [TagIndex.tagsForKey, SortedMap.bucket, h.tags k, if_pos]

/-- Both know whether the key has tags. -/
theorem CutTo.tagged (h : x.CutTo k x') :
    (SortedSet.ofList x.tagsOf.keys).CutTo k (SortedSet.ofList x'.tagsOf.keys) := by
  intro j
  rw [SortedSet.mem_ofList, SortedSet.mem_ofList, SortedMap.mem_keys_iff, SortedMap.mem_keys_iff,
    h.tags j]
  by_cases hj : j = k
  · subst hj
    simp
  · simp [hj]

/-! ### Operations on the key -/

theorem CutTo.link (h : x.CutTo k x') (t : Tag) : (x.link t k).CutTo k (x'.link t k) where
  keys u j := by
    show (x'.link t k).Linked u j ↔ j = k ∧ (x.link t k).Linked u j
    rw [linked_link, linked_link, h.linked]
    tauto
  tags j := by
    have hbucket : x'.tagsOf.bucket k = x.tagsOf.bucket k := h.tagsForKey
    simp only [TagIndex.link, SortedMap.addTo, SortedMap.get?_insert, h.tags j, hbucket]
    by_cases hj : j = k
    · subst hj
      simp
    · simp [hj, Ne.symm hj]

theorem CutTo.linkTags (h : x.CutTo k x') (us : List Tag) :
    (x.linkTags us k).CutTo k (x'.linkTags us k) := by
  induction us generalizing x x' with
  | nil => exact h
  | cons t us ih => exact ih (h.link t)

theorem CutTo.forget (h : x.CutTo k x') : (x.forget k).2.CutTo k (x'.forget k).2 where
  keys u j := by
    show (x'.forget k).2.Linked u j ↔ j = k ∧ (x.forget k).2.Linked u j
    rw [linked_forget_iff, linked_forget_iff, h.linked, h.tagsForKey]
    tauto
  tags j := by
    simp only [TagIndex.forget, SortedMap.get?_erase, h.tags j]
    by_cases hj : j = k
    · subst hj
      simp
    · simp [hj, Ne.symm hj]

theorem CutTo.replaceTags (h : x.CutTo k x') (ts : SortedSet Tag) :
    (x.replaceTags k ts).CutTo k (x'.replaceTags k ts) where
  keys u j := by
    show (x'.replaceTags k ts).Linked u j ↔ j = k ∧ (x.replaceTags k ts).Linked u j
    rw [linked_replaceTags_iff, linked_replaceTags_iff, h.linked, h.tagsForKey]
    tauto
  tags j := by
    simp only [TagIndex.replaceTags]
    by_cases hj : j = k
    · subst hj
      split <;> simp
    · split <;> simp [h.tags j, hj, Ne.symm hj]

theorem CutTo.addEntry (h : x.CutTo k x') (ts : SortedSet Tag) :
    (x.addEntry k ts).CutTo k (x'.addEntry k ts) where
  keys u j := by
    show (x'.addEntry k ts).Linked u j ↔ j = k ∧ (x.addEntry k ts).Linked u j
    rw [linked_addEntry, linked_addEntry, h.linked]
    tauto
  tags j := by
    simp only [TagIndex.addEntry]
    by_cases hj : j = k
    · subst hj
      split <;> simp [h.tags]
    · split <;> simp [h.tags j, hj, Ne.symm hj]

/-! ### Operations on another key -/

theorem CutTo.link_of_ne (h : x.CutTo k x') (hj : j ≠ k) (t : Tag) : (x.link t j).CutTo k x' where
  keys u i := by
    show x'.Linked u i ↔ i = k ∧ (x.link t j).Linked u i
    rw [linked_link, h.linked]
    constructor
    · rintro ⟨rfl, hi⟩
      exact ⟨rfl, .inr hi⟩
    · rintro ⟨rfl, hi⟩
      exact ⟨rfl, hi.resolve_left fun hi => hj hi.2.symm⟩
  tags i := by
    simp only [TagIndex.link, SortedMap.addTo, SortedMap.get?_insert, h.tags i, if_neg hj]

theorem CutTo.linkTags_of_ne (h : x.CutTo k x') (hj : j ≠ k) (us : List Tag) :
    (x.linkTags us j).CutTo k x' := by
  induction us generalizing x with
  | nil => exact h
  | cons t us ih => exact ih (h.link_of_ne hj t)

theorem CutTo.forget_of_ne (h : x.CutTo k x') (hj : j ≠ k) : (x.forget j).2.CutTo k x' where
  keys u i := by
    show x'.Linked u i ↔ i = k ∧ (x.forget j).2.Linked u i
    rw [linked_forget_iff, h.linked]
    constructor
    · rintro ⟨rfl, hi⟩
      exact ⟨rfl, hi, fun hn => hj hn.2.symm⟩
    · rintro ⟨rfl, hi, -⟩
      exact ⟨rfl, hi⟩
  tags i := by
    simp only [TagIndex.forget, SortedMap.get?_erase, h.tags i, if_neg hj]

theorem CutTo.replaceTags_of_ne (h : x.CutTo k x') (hj : j ≠ k) (ts : SortedSet Tag) :
    (x.replaceTags j ts).CutTo k x' where
  keys u i := by
    show x'.Linked u i ↔ i = k ∧ (x.replaceTags j ts).Linked u i
    rw [linked_replaceTags_iff, h.linked]
    constructor
    · rintro ⟨rfl, hi⟩
      exact ⟨rfl, .inr ⟨hi, fun hn => hj hn.2.symm⟩⟩
    · rintro ⟨rfl, hi | hi⟩
      · exact absurd hi.2.symm hj
      · exact ⟨rfl, hi.1⟩
  tags i := by
    have hk : (x.replaceTags j ts).tagsOf.get? k = x.tagsOf.get? k := by
      simp only [TagIndex.replaceTags]
      split <;> simp [hj]
    rw [h.tags i, hk]

theorem CutTo.addEntry_of_ne (h : x.CutTo k x') (hj : j ≠ k) (ts : SortedSet Tag) :
    (x.addEntry j ts).CutTo k x' where
  keys u i := by
    show x'.Linked u i ↔ i = k ∧ (x.addEntry j ts).Linked u i
    rw [linked_addEntry, h.linked]
    constructor
    · rintro ⟨rfl, hi⟩
      exact ⟨rfl, .inr hi⟩
    · rintro ⟨rfl, hi⟩
      exact ⟨rfl, hi.resolve_left fun hi => hj hi.2.symm⟩
  tags i := by
    have hk : (x.addEntry j ts).tagsOf.get? k = x.tagsOf.get? k := by
      simp only [TagIndex.addEntry]
      split <;> simp [hj]
    rw [h.tags i, hk]

/-! ### Detaching a tag -/

/-- The tags of a key without one of them, nothing if none is left. -/
def without (t : Tag) (ts : Option (SortedSet Tag)) : Option (SortedSet Tag) :=
  ts.bind fun ts => if (ts.erase t).isEmpty then none else some (ts.erase t)

theorem get?_dropFrom (m : SortedMap Key (SortedSet Tag)) (k j : Key) (t : Tag) :
    (m.dropFrom k t).get? j = if k = j then without t (m.get? k) else m.get? j := by
  unfold SortedMap.dropFrom without
  by_cases hj : k = j
  · subst hj
    cases hk : m.get? k with
    | none => simp [hk]
    | some ts =>
      simp only [Option.bind_some, if_pos]
      split <;> simp
  · cases hk : m.get? k with
    | none => simp [hj]
    | some ts =>
      simp only [if_neg hj]
      split <;> simp [hj]

/-- Taking a tag away twice is taking it away once. -/
theorem without_without (t : Tag) (ts : Option (SortedSet Tag)) :
    without t (without t ts) = without t ts := by
  cases ts with
  | none => rfl
  | some ts =>
    have htwice : (ts.erase t).erase t = ts.erase t := SortedSet.ext fun u => by simp
    by_cases he : (ts.erase t).isEmpty = true
    · simp [without, he]
    · simp [without, he, htwice]

theorem get?_foldl_dropFrom (l : List Key) (m : SortedMap Key (SortedSet Tag)) (t : Tag) (j : Key) :
    (l.foldl (fun m k => m.dropFrom k t) m).get? j =
      if j ∈ l then without t (m.get? j) else m.get? j := by
  induction l generalizing m with
  | nil => simp
  | cons k l ih =>
    rw [List.foldl_cons, ih, get?_dropFrom]
    by_cases hk : k = j
    · subst hk
      by_cases hl : k ∈ l <;> simp [hl, without_without]
    · simp [hk, Ne.symm hk]

/-- Detaching a tag takes from each of its keys the one tag. -/
theorem get?_detach (x : TagIndex) (t : Tag) (j : Key) :
    (x.detach t).2.tagsOf.get? j =
      if j ∈ x.keysForTag t then without t (x.tagsOf.get? j) else x.tagsOf.get? j := by
  simp only [TagIndex.detach, get?_foldl_dropFrom, SortedSet.mem_toList]

theorem CutTo.detach (h : x.CutTo k x') (t : Tag) : (x.detach t).2.CutTo k (x'.detach t).2 where
  keys u j := by
    show (x'.detach t).2.Linked u j ↔ j = k ∧ (x.detach t).2.Linked u j
    rw [linked_detach, linked_detach, h.linked]
    tauto
  tags j := by
    rw [get?_detach, get?_detach, h.tags j]
    by_cases hj : j = k
    · subst hj
      simp only [h.keys t j, true_and, if_pos]
    · simp [h.keys t j, hj]

end TagIndex

end PageCache
