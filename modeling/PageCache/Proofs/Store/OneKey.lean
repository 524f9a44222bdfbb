import PageCache.Proofs.Store.Memory

/-!
# One key of the memory store

A memory store without a limit does the same for a key whatever it holds of other keys:
`m.only k` is the store with the entries of the key `k` alone, an operation on `k` has the same
answer there, and an operation on another key leaves it as it is.
-/

namespace PageCache

namespace MemoryStore

variable {m : MemoryStore} {k j : Key}

/-- The store with the entries of one key alone. -/
def only (k : Key) (m : MemoryStore) : MemoryStore :=
  { m with entries := m.entries.filter (·.key = k) }

/-- The key has its entry, and no other has one. -/
theorem find_only (m : MemoryStore) (k j : Key) :
    (m.only k).find j = if j = k then m.find k else none := by
  simp only [find, only, List.find?_filter]
  by_cases h : j = k
  · subst h
    simp
  · rw [if_neg h, List.find?_eq_none]
    intro e _ he
    simp only [decide_eq_true_eq] at he
    exact h (he.2.symm.trans he.1)

theorem find_only_self (m : MemoryStore) (k : Key) : (m.only k).find k = m.find k := by
  rw [find_only, if_pos rfl]

/-- Of a key alone there are no others. -/
theorem filter_others_self (m : MemoryStore) (k : Key) :
    (m.others k).filter (·.key = k) = [] := by
  simp [others, List.filter_filter]

/-- Without another key there are the same entries of the key. -/
theorem filter_others (m : MemoryStore) (h : j ≠ k) :
    (m.others j).filter (·.key = k) = m.entries.filter (·.key = k) := by
  rw [others, List.filter_filter]
  refine List.filter_congr fun e _ => ?_
  by_cases he : e.key = k
  · simp [he, Ne.symm h]
  · simp [he]

theorem others_only_self (m : MemoryStore) (k : Key) : (m.only k).others k = [] := by
  simp [others, only, List.filter_filter]

/-- With an entry of the key in front, the key alone has this entry. -/
theorem filter_cons_others {e : Entry} (h : e.key = k) :
    (e :: m.others k).filter (·.key = k) = [e] := by
  simp [filter_others_self, h]

/-! ## Operations on the key -/

theorem get_only (m : MemoryStore) (k : Key) :
    (m.only k).get k = ((m.get k).1, (m.get k).2.only k) := by
  simp only [get, find_only_self, others_only_self]
  cases h : m.find k with
  | none => rfl
  | some e => simp only [only, filter_cons_others (key_of_find h)]

theorem delete_only (m : MemoryStore) (k : Key) :
    (m.only k).delete k = ((m.delete k).1, (m.delete k).2.only k) := by
  simp only [delete, find_only_self, others_only_self]
  simp only [only, filter_others_self]

/-- A store without a limit is never full. -/
theorem full_of_unlimited (h : m.capacity = none) : m.full = false := by
  simp [full, h]

theorem push_only {e : Entry} (h : m.capacity = none) (he : e.key = k) :
    (m.only k).push e = (m.push e).only k := by
  subst he
  have h' : (m.only e.key).capacity = none := h
  simp only [push, full_of_unlimited h, full_of_unlimited h', Bool.and_false, others_only_self,
    Bool.false_eq_true, if_false]
  simp only [only, filter_cons_others]

theorem put_only {e : Entry} (h : m.capacity = none) (he : e.key = k) (o : Option Generation) :
    (m.only k).put e o = ((m.put e o).1, (m.put e o).2.only k) := by
  subst he
  simp only [put, find_only_self]
  cases checkGeneration ((m.find e.key).map (·.generation)) o e.generation with
  | stored => simp only [push_only h rfl]
  | conflict c => rfl

/-- The key is listed if it is there, as before. -/
theorem list_only (m : MemoryStore) (k : Key) (start : String) :
    (m.only k).list start = (m.list start).filter (· = k) := by
  have hmap : ((m.entries.filter (·.key = k)).map (·.key)).filter (·.startsWith start) =
      ((m.entries.map (·.key)).filter (·.startsWith start)).filter (· = k) := by
    simp only [List.filter_map, List.filter_filter]
    congr 1
    refine List.filter_congr fun e _ => ?_
    exact Bool.and_comm _ _
  -- both lists have one key only, so it is enough that they have it equally often
  have hperm : ((m.only k).list start).Perm ((m.list start).filter (· = k)) := by
    refine (List.mergeSort_perm _ _).trans ?_
    show (((m.entries.filter (·.key = k)).map (·.key)).filter (·.startsWith start)).Perm _
    rw [hmap]
    exact ((List.mergeSort_perm _ _).filter _).symm
  have hright : ∀ j ∈ (m.list start).filter (· = k), j = k := by simp
  have hleft : ∀ j ∈ (m.only k).list start, j = k := fun j hj => hright j (hperm.subset hj)
  rw [List.eq_replicate_of_mem hleft, List.eq_replicate_of_mem hright, hperm.length_eq]

/-- No call on a store changes its limit. -/
theorem capacity_get (m : MemoryStore) (j : Key) : (m.get j).2.capacity = m.capacity := by
  unfold MemoryStore.get
  split <;> rfl

theorem capacity_put (m : MemoryStore) (e : Entry) (o : Option Generation) :
    (m.put e o).2.capacity = m.capacity := by
  simp only [put]
  cases checkGeneration ((m.find e.key).map (·.generation)) o e.generation with
  | stored =>
    show (m.push e).capacity = m.capacity
    unfold push
    split <;> rfl
  | conflict c => rfl

/-! ## Operations on another key -/

theorem only_get (m : MemoryStore) (h : j ≠ k) : (m.get j).2.only k = m.only k := by
  unfold MemoryStore.get
  split
  · rename_i e he
    have hkey : ¬ e.key = k := fun hk => h ((key_of_find he).symm.trans hk)
    simp [only, hkey, filter_others m h]
  · rfl

theorem only_delete (m : MemoryStore) (h : j ≠ k) : (m.delete j).2.only k = m.only k := by
  simp only [delete, only, filter_others m h]

theorem only_put {e : Entry} (hm : m.capacity = none) (h : e.key ≠ k) (o : Option Generation) :
    (m.put e o).2.only k = m.only k := by
  simp only [put]
  cases checkGeneration ((m.find e.key).map (·.generation)) o e.generation with
  | stored =>
    have hfull := full_of_unlimited hm
    simp [push, hfull, only, h, filter_others m h]
  | conflict c => rfl

end MemoryStore

end PageCache
