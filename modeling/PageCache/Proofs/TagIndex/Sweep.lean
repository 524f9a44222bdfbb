import PageCache.Proofs.TagIndex.Consistent
import PageCache.TagIndex.Sweep

/-!
# Sweeps and what they have been told

A compaction and a rebuild act on what the store has told them before. These are inversions of their
steps, and what holds of the index that a rebuild has built so far, as long as it was told of no key
twice: it is an index of the keys that it has read, and of no key that is still to be read.
-/

namespace PageCache

/-- A rebuild that has just listed the keys has recorded nothing. -/
theorem Rebuild.of_listed {r : Rebuild} {answer : Except StoreError (List Key)} {due : List Key}
    {built : TagIndex} (h : r.listed answer = some (.reading due built)) :
    answer = .ok due ∧ built = ∅ := by
  cases r with
  | listing =>
    cases answer with
    | ok keys =>
      cases h
      exact ⟨rfl, rfl⟩
    | error e => cases h
  | _ => cases h

/-- A rebuild that goes on to read has recorded what the store had of the last key. -/
theorem Rebuild.of_visit {k : Key} {due due' : List Key} {built built' : TagIndex}
    {answer : Except StoreError (Option Entry)}
    (h : (reading (k :: due) built).visit answer = some (.reading due' built')) :
    ∃ found, answer = .ok found ∧ due' = due ∧ built' = built.record k found := by
  cases answer with
  | ok found =>
    refine ⟨found, rfl, ?_⟩
    cases found <;> cases h <;> exact ⟨rfl, rfl⟩
  | error e => cases h

/-- A compaction that has missed a key was told so by the store. -/
theorem Compaction.of_visit {c : Compaction} {k j : Key} {due : SortedSet Key} {n : Nat}
    {answer : Except StoreError (Option Entry)} (h : c.visit k answer = some (.missing j due n)) :
    j = k ∧ answer = .ok none := by
  cases c with
  | reading due n =>
    simp only [visit] at h
    split at h
    · cases answer with
      | ok found =>
        cases found <;> cases h
        exact ⟨rfl, rfl⟩
      | error e => cases h
    · cases h
  | _ => cases h

namespace TagIndex

/-- What a rebuild has recorded while some keys are still to be read. -/
structure Records (built : TagIndex) (due : List Key) : Prop where
  /-- each key is read once -/
  nodup : due.Nodup
  /-- both maps show the same links -/
  coherent : built.Coherent
  /-- a key that is still to be read has no links yet -/
  unread : ∀ k ∈ due, ∀ t, ¬ built.Linked t k

/-- A rebuild has nothing recorded when no key is read. -/
theorem records_empty {keys : List Key} (h : keys.Nodup) : (∅ : TagIndex).Records keys where
  nodup := h
  coherent := coherent_empty
  unread k _ _ := SortedSet.not_mem_empty k

/-- A rebuild goes on recording. -/
theorem Records.record {built : TagIndex} {k : Key} {due : List Key} (h : built.Records (k :: due))
    (found : Option Entry) : (built.record k found).Records due where
  nodup := (List.nodup_cons.mp h.nodup).2
  coherent := by
    cases found with
    | none => exact h.coherent
    | some e => exact h.coherent.addEntry (h.unread k List.mem_cons_self) e.tags
  unread := by
    intro j hj t hl
    rcases linked_record.mp hl with ⟨rfl, -⟩ | hl
    · exact (List.nodup_cons.mp h.nodup).1 hj
    · exact h.unread j (List.mem_cons_of_mem k hj) t hl

/-- What a rebuild has recorded stays consistent. -/
theorem Consistent.record {built : TagIndex} {k : Key} {due : List Key} (hx : built.Consistent)
    (h : built.Records (k :: due)) (found : Option Entry) : (built.record k found).Consistent := by
  cases found with
  | none => exact hx
  | some e => exact hx.addEntry (h.unread k List.mem_cons_self) e.tags

end TagIndex

end PageCache
