import Mathlib.Data.List.Induction
import PageCache.Proofs.Store.Backend

/-!
# Removing many keys

A store that removes a key answers whether it was there and changes nothing else. Nothing more is
needed to say what a series of removals does: `RemovingStore.held_removeAll` says what is left, and
each removal on the way answers as the first state would have (`RemovingStore.removeAll_answer`), as
long as no key is removed twice.

Every `LawfulStore` removes this way, and so does each `Backend`, in memory or in a folder.
-/

namespace PageCache

/-- The contents without some keys. -/
def Contents.withoutAll (c : Contents) (ks : List Key) : Contents :=
  fun j => if j ∈ ks then none else c j

theorem Contents.withoutAll_append (c : Contents) (ks : List Key) (k : Key) :
    c.withoutAll (ks ++ [k]) = (c.withoutAll ks).without k := by
  funext j
  simp only [withoutAll, without]
  by_cases hj : j = k
  · simp [hj]
  · simp [hj]

theorem Contents.withoutAll_cons (c : Contents) (k : Key) (ks : List Key) :
    (c.without k).withoutAll ks = c.withoutAll (k :: ks) := by
  funext j
  simp only [withoutAll, without, List.mem_cons]
  by_cases hj : j = k
  · simp [hj]
  · simp [hj]

/-- A store that keeps its promises about removals. -/
class RemovingStore (σ : Type) [Store σ] where
  /-- the states that the store can be in -/
  Valid : σ → Prop
  /-- what it holds -/
  held : σ → Contents
  /-- a removal says whether the key was there -/
  delete_answer : ∀ {s : σ} (k : Key), Valid s → (Store.delete s k).1 = .ok (held s k).isSome
  /-- a removal takes away the key and nothing else -/
  held_delete : ∀ {s : σ} (k : Key), Valid s → held (Store.delete s k).2 = (held s).without k
  /-- a removal keeps the store in a state that it can be in -/
  valid_delete : ∀ {s : σ} (k : Key), Valid s → Valid (Store.delete s k).2

instance {σ : Type} [Store σ] [LawfulStore σ] : RemovingStore σ where
  Valid := LawfulStore.Valid
  held := LawfulStore.held
  delete_answer := LawfulStore.delete_answer
  held_delete := LawfulStore.held_delete
  valid_delete := LawfulStore.valid_delete

instance : RemovingStore Backend where
  Valid := Backend.Valid
  held := Backend.contents
  delete_answer k h := (Backend.delete_spec h k).1
  held_delete k h := (Backend.delete_spec h k).2.2
  valid_delete k h := (Backend.delete_spec h k).2.1

namespace RemovingStore

variable {σ : Type} [Store σ]

/-- The store after some keys have been removed, one after the other. -/
def removeAll (st : σ) (ks : List Key) : σ := ks.foldl (fun st k => (Store.delete st k).2) st

@[simp] theorem removeAll_nil (st : σ) : removeAll st [] = st := rfl

theorem removeAll_append (st : σ) (ks ls : List Key) :
    removeAll st (ks ++ ls) = removeAll (removeAll st ks) ls := List.foldl_append

theorem removeAll_concat (st : σ) (ks : List Key) (k : Key) :
    removeAll st (ks ++ [k]) = (Store.delete (removeAll st ks) k).2 := removeAll_append st ks [k]

/-- Where the order of two removals does not matter, that of many does not. -/
theorem removeAll_perm
    (hcomm : ∀ (st : σ) (j k : Key), (Store.delete (Store.delete st j).2 k).2 =
      (Store.delete (Store.delete st k).2 j).2)
    {ks ls : List Key} (h : ks.Perm ls) (st : σ) : removeAll st ks = removeAll st ls :=
  List.Perm.foldl_eq' h (fun j _ k _ st => hcomm st j k) st

variable [RemovingStore σ]

/-- **Removing many keys** takes away these keys and nothing else. -/
theorem held_removeAll {st : σ} (hv : Valid st) (ks : List Key) :
    Valid (removeAll st ks) ∧ held (removeAll st ks) = (held st).withoutAll ks := by
  induction ks using List.reverseRecOn with
  | nil =>
    refine ⟨hv, ?_⟩
    funext j
    simp [Contents.withoutAll]
  | append_singleton ks k ih =>
    obtain ⟨hv', hheld⟩ := ih
    rw [removeAll_concat, Contents.withoutAll_append, ← hheld]
    exact ⟨valid_delete k hv', held_delete k hv'⟩

/-- A key that has not been removed yet is found as it was at first. -/
theorem removeAll_answer {st : σ} (hv : Valid st) {ks : List Key} {k : Key} (hk : k ∉ ks) :
    (Store.delete (removeAll st ks) k).1 = .ok (held st k).isSome := by
  obtain ⟨hv', hheld⟩ := held_removeAll hv ks
  rw [delete_answer k hv', hheld, Contents.withoutAll, if_neg hk]

end RemovingStore

/-- The order in which entries leave a store in memory does not matter. -/
theorem MemoryStore.delete_comm (m : MemoryStore) (j k : Key) :
    (Store.delete (Store.delete m j).2 k).2 = (Store.delete (Store.delete m k).2 j).2 := by
  show ({ m with entries := (m.entries.filter _).filter _ } : MemoryStore) =
    { m with entries := (m.entries.filter _).filter _ }
  rw [List.filter_filter, List.filter_filter]
  simp only [Bool.and_comm]

end PageCache
