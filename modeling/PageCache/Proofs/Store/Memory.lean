import PageCache.Proofs.Store.Lawful
import PageCache.Store.Memory

/-!
# The memory store keeps its promises

A memory store holds what `MemoryStore.find` finds. Moving an entry to the front and pushing the
last one out change the order of the entries and the presence of one key, so the laws come down to
what `find` says of the list with a key left out, put in front, or cut off at the end:

* **the others** — `find?_others`: leaving one key out leaves the other keys as they are;
* **pushing out** — `find?_dropLast`: without its last entry a list loses at most one key;
* **one entry a key** — `MemoryStore.Distinct`, which every operation keeps.
-/

namespace PageCache

namespace MemoryStore

/-- No key has two entries. -/
def Distinct (m : MemoryStore) : Prop := (m.entries.map (·.key)).Nodup

/-- A new store has no entry. -/
theorem distinct_bounded (n : Nat) : (bounded n).Distinct := List.nodup_nil

theorem distinct_unbounded : unbounded.Distinct := List.nodup_nil

/-- What is found under a key belongs to it. -/
theorem key_of_find {m : MemoryStore} {k : Key} {e : Entry} (h : m.find k = some e) :
    e.key = k := by
  simpa using List.find?_some h

/-- Leaving one key out leaves the other keys as they are. -/
theorem find?_others (m : MemoryStore) (k j : Key) :
    (m.others k).find? (·.key = j) = if j = k then none else m.find j := by
  rw [others, List.find?_filter, find]
  by_cases h : j = k
  · subst h
    rw [if_pos rfl, List.find?_eq_none]
    intro e _
    by_cases he : e.key = j <;> simp [he]
  · rw [if_neg h]
    congr 1
    funext e
    by_cases he : e.key = j
    · simp [he, h]
    · simp [he]

/-- Without its last entry a list of entries loses at most one key. -/
theorem find?_dropLast (l : List Entry) (k : Key) :
    l.dropLast.find? (·.key = k) = l.find? (·.key = k) ∨ l.dropLast.find? (·.key = k) = none := by
  induction l with
  | nil => exact .inl rfl
  | cons e l ih =>
    cases l with
    | nil => exact .inr rfl
    | cons e' l =>
      rw [List.dropLast_cons_cons]
      by_cases he : e.key = k
      · left
        simp [he]
      · rw [List.find?_cons_of_neg (by simpa using he), List.find?_cons_of_neg (by simpa using he)]
        exact ih

/-- The keys of the others are distinct, and the key left out is not among them. -/
theorem nodup_cons_others {m : MemoryStore} (h : m.Distinct) {e : Entry} :
    ((e :: m.others e.key).map (·.key)).Nodup := by
  rw [List.map_cons, List.nodup_cons]
  constructor
  · simp [others]
  · exact h.sublist (List.filter_sublist.map _)

theorem Distinct.get {m : MemoryStore} (h : m.Distinct) (k : Key) : (m.get k).2.Distinct := by
  unfold MemoryStore.get
  split
  · rename_i e he
    obtain rfl := key_of_find he
    exact nodup_cons_others h
  · exact h

theorem find_get (m : MemoryStore) (k : Key) : (m.get k).2.find = m.find := by
  funext j
  unfold MemoryStore.get
  split
  · rename_i e he
    obtain rfl := key_of_find he
    by_cases hj : e.key = j
    · subst hj
      simp [find, he.symm]
    · show List.find? _ (e :: m.others e.key) = _
      rw [List.find?_cons_of_neg (by simpa using hj), find?_others, if_neg (Ne.symm hj)]
  · rfl

theorem get_fst (m : MemoryStore) (k : Key) : (m.get k).1 = m.find k := by
  unfold MemoryStore.get
  split <;> simp_all

/-- A pushed entry is in front, and the other keys keep their entries but for one pushed out. -/
theorem takes_push (m : MemoryStore) (e : Entry) : Contents.Takes m.find e (m.push e).find := by
  unfold push
  split
  · refine ⟨by simp [find], ?_⟩
    intro k hk
    have hne : ¬ e.key = k := Ne.symm hk
    simp only [find]
    rw [List.find?_cons_of_neg (by simpa using hne)]
    exact find?_dropLast m.entries k
  · refine ⟨by simp [find], ?_⟩
    intro k hk
    have hne : ¬ e.key = k := Ne.symm hk
    left
    show List.find? _ (e :: m.others e.key) = _
    rw [List.find?_cons_of_neg (by simpa using hne), find?_others, if_neg hk]

theorem Distinct.push {m : MemoryStore} (h : m.Distinct) (e : Entry) : (m.push e).Distinct := by
  unfold MemoryStore.push
  split
  · rename_i hfull
    show ((e :: m.entries.dropLast).map (·.key)).Nodup
    rw [List.map_cons, List.nodup_cons]
    refine ⟨?_, h.sublist ((List.dropLast_sublist _).map _)⟩
    -- an entry is pushed out only for a key that is not there yet
    have hnone : m.find e.key = none := by
      rw [Bool.and_eq_true, Option.isNone_iff_eq_none] at hfull
      exact hfull.1
    rw [find, List.find?_eq_none] at hnone
    intro hmem
    obtain ⟨x, hx, hxk⟩ := List.mem_map.mp hmem
    exact hnone x (List.dropLast_subset _ hx) (by simpa using hxk)
  · exact nodup_cons_others h

theorem find_delete (m : MemoryStore) (k : Key) :
    (m.delete k).2.find = Contents.without m.find k := by
  funext j
  show (m.others k).find? (·.key = j) = _
  rw [find?_others]
  by_cases h : j = k
  · subst h
    simp
  · rw [if_neg h, Contents.without_of_ne _ h]

theorem mem_list_iff (m : MemoryStore) (start : String) (k : Key) :
    k ∈ m.list start ↔ (m.find k).isSome ∧ k.startsWith start := by
  simp only [list, List.mem_mergeSort, List.mem_filter, List.mem_map, find, List.find?_isSome,
    decide_eq_true_eq]

theorem put_of_conflict {m : MemoryStore} {e : Entry} {o c : Option Generation}
    (h : checkGeneration (Contents.generation m.find e.key) o e.generation = .conflict c) :
    m.put e o = (.conflict c, m) := by
  simp only [put]
  rw [show (m.find e.key).map (·.generation) = Contents.generation m.find e.key from rfl, h]

theorem put_of_stored {m : MemoryStore} {e : Entry} {o : Option Generation}
    (h : checkGeneration (Contents.generation m.find e.key) o e.generation = .stored) :
    m.put e o = (.stored, m.push e) := by
  simp only [put]
  rw [show (m.find e.key).map (·.generation) = Contents.generation m.find e.key from rfl, h]

/-- A memory store keeps each entry as it is, whatever its generation. -/
instance : LawfulStore MemoryStore where
  Valid := Distinct
  held := find
  kept e := e
  Fits _ := True
  key_kept _ := rfl
  body_kept _ := rfl
  tags_kept _ := rfl
  generation_kept _ := rfl
  key_of_held _ h := key_of_find h
  get_answer {m} k _ := congrArg Except.ok (m.get_fst k)
  held_get {m} k _ := m.find_get k
  valid_get k h := h.get k
  put_answer {m} e o _ _ := by
    show Except.ok (m.put e o).1 = _
    cases hc : checkGeneration (Contents.generation m.find e.key) o e.generation with
    | stored => rw [put_of_stored hc]
    | conflict c => rw [put_of_conflict hc]
  put_answer_unfit _ _ _ hunfit := absurd trivial hunfit
  held_put_stored {m e o} _ hanswer := by
    show Contents.Takes m.find e (m.put e o).2.find
    cases hc : checkGeneration (Contents.generation m.find e.key) o e.generation with
    | stored =>
      rw [put_of_stored hc]
      exact m.takes_push e
    | conflict c =>
      have hput : (Store.put m e o).1 = .ok (.conflict c) :=
        congrArg (Except.ok ·.1) (put_of_conflict hc)
      cases hput.symm.trans hanswer
  held_put_of_ne {m e o} _ hanswer := by
    show (m.put e o).2.find = m.find
    cases hc : checkGeneration (Contents.generation m.find e.key) o e.generation with
    | stored => exact absurd (congrArg (Except.ok ·.1) (put_of_stored hc)) hanswer
    | conflict c => rw [put_of_conflict hc]
  valid_put {m} e o hm := by
    show (m.put e o).2.Distinct
    cases hc : checkGeneration (Contents.generation m.find e.key) o e.generation with
    | stored => rw [put_of_stored hc]; exact hm.push e
    | conflict c => rw [put_of_conflict hc]; exact hm
  delete_answer _ _ := rfl
  held_delete {m} k _ := m.find_delete k
  valid_delete k h := h.sublist (List.filter_sublist.map _)
  list_answer {m} start h := by
    refine ⟨m.list start, rfl, ?_, m.mem_list_iff start⟩
    exact (List.mergeSort_perm _ _).nodup_iff.mpr (h.sublist List.filter_sublist)
  held_list _ _ := rfl
  valid_list _ h := h

end MemoryStore

end PageCache
