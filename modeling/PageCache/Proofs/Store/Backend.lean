import PageCache.Proofs.Store.Folder
import PageCache.Proofs.Store.Memory

/-!
# What both stores promise

A store in memory and one in a folder do the same to their `Backend.contents`, what a reading answers
for each key. They differ in what else leaves the store: a full memory store pushes an entry out, and a
folder has room for one key of a digest. Both say so by `Contents.Takes`.

Each of the two is a `LawfulStore` of its own, as they keep an entry in different forms and a folder
does not keep a generation that has more than sixty-four bits:

* `Half` — the stores of a kind are stores here, so what the kind promises is promised of them;
* `memory_or_folder` — the two kinds are all there are, so `get_spec`, `put_spec`, `delete_spec` and
  `list_spec` hold of every store.
-/

namespace PageCache

open LawfulStore

namespace Backend

/-- The states that a store can be in. -/
def Valid : Backend → Prop
  | memory m => m.Distinct
  | disk d files _ => ∃ slots, DiskStore.Stored d files slots

/-- What a store holds: what a reading answers. -/
def contents (b : Backend) : Contents := fun k =>
  match (Store.get b k).1 with
  | .ok found => found
  | .error _ => none

/-- The form in which a store keeps an entry. -/
def kept : Backend → Entry → Entry
  | memory _, e => e
  | disk .., e => e.persisted

/-- A store in memory, with or without a limit, or in a folder, in which there is nothing yet. -/
inductive Empty : Backend → Prop where
  /-- in memory -/
  | memory {m} : m.entries = [] → Empty (.memory m)
  /-- in a folder -/
  | disk {d files n} : DiskStore.Ready d files → Empty (.disk d files n)

@[simp] theorem key_kept (b : Backend) (e : Entry) : (b.kept e).key = e.key := by
  cases b <;> rfl

@[simp] theorem generation_kept (b : Backend) (e : Entry) :
    (b.kept e).generation = e.generation := by
  cases b <;> rfl

/-! ## The two halves -/

@[simp] theorem contents_memory (m : MemoryStore) : (memory m).contents = m.find := by
  funext k
  exact m.get_fst k

@[simp] theorem contents_folder (f : FolderStore) : f.backend.contents = held f := by
  funext k
  rw [FolderStore.held_eq, FolderStore.contents, contents, FolderStore.get_backend]
  dsimp only [Prod.map, id]
  cases (Store.get f k).1 with
  | ok found => rfl
  | error e => rfl

/-- The stores of a kind are stores here, by what they do and by what they hold. -/
structure Half (σ : Type) [Store σ] [LawfulStore σ] (into : σ → Backend) : Prop where
  /-- a reading is one of the kind -/
  get : ∀ s k, Store.get (into s) k = (Store.get s k).map id into
  /-- so is a write -/
  put : ∀ s e o, Store.put (into s) e o = (Store.put s e o).map id into
  /-- so is a removal -/
  delete : ∀ s k, Store.delete (into s) k = (Store.delete s k).map id into
  /-- so is a listing -/
  list : ∀ s start, Store.list (into s) start = (Store.list s start).map id into
  /-- the states are the same -/
  valid : ∀ s, (into s).Valid ↔ LawfulStore.Valid s
  /-- what is held is the same -/
  contents : ∀ s, (into s).contents = held s

theorem half_memory : Half MemoryStore memory where
  get _ _ := rfl
  put _ _ _ := rfl
  delete _ _ := rfl
  list _ _ := rfl
  valid _ := Iff.rfl
  contents := contents_memory

theorem half_folder : Half FolderStore FolderStore.backend where
  get := FolderStore.get_backend
  put := FolderStore.put_backend
  delete := FolderStore.delete_backend
  list := FolderStore.list_backend
  valid _ := Iff.rfl
  contents := contents_folder

theorem memory_or_folder (b : Backend) : (∃ m, b = memory m) ∨ ∃ f : FolderStore, b = f.backend := by
  cases b with
  | memory m => exact .inl ⟨m, rfl⟩
  | disk d files n => exact .inr ⟨⟨d, files, n⟩, rfl⟩

/-- An empty store can be, and holds nothing. -/
theorem Empty.valid {b : Backend} (h : Empty b) : b.Valid ∧ b.contents = fun _ => none := by
  cases h with
  | @memory m hm =>
    refine ⟨?_, ?_⟩
    · show (m.entries.map (·.key)).Nodup
      rw [hm]
      exact List.nodup_nil
    · rw [contents_memory]
      funext k
      rw [MemoryStore.find, hm, List.find?_nil]
  | @disk d files n h =>
    refine ⟨⟨_, h.stored⟩, ?_⟩
    refine (contents_folder ⟨d, files, n⟩).trans ?_
    rw [FolderStore.held_eq, FolderStore.contents_of_stored h.stored]
    funext k
    exact Option.filter_none _

/-! ## Operations -/

section

variable {σ : Type} [Store σ] [LawfulStore σ] {into : σ → Backend} {s : σ}

theorem Half.get_spec (half : Half σ into) (h : (into s).Valid) (k : Key) :
    (Store.get (into s) k).1 = .ok ((into s).contents k) ∧ (Store.get (into s) k).2.Valid ∧
      (Store.get (into s) k).2.contents = (into s).contents := by
  rw [half.valid] at h
  simp only [half.get, half.contents, half.valid, Prod.map, id]
  exact ⟨get_answer k h, valid_get k h, held_get k h⟩

theorem Half.list_spec (half : Half σ into) (h : (into s).Valid) (start : String) :
    (Store.list (into s) start).2.Valid ∧
      (Store.list (into s) start).2.contents = (into s).contents := by
  rw [half.valid] at h
  simp only [half.list, half.contents, half.valid, Prod.map]
  exact ⟨valid_list start h, held_list start h⟩

theorem Half.delete_spec (half : Half σ into) (h : (into s).Valid) (k : Key) :
    (Store.delete (into s) k).1 = .ok ((into s).contents k).isSome ∧
      (Store.delete (into s) k).2.Valid ∧
      (Store.delete (into s) k).2.contents = (into s).contents.without k := by
  rw [half.valid] at h
  simp only [half.delete, half.contents, half.valid, Prod.map, id]
  exact ⟨delete_answer k h, valid_delete k h, held_delete k h⟩

theorem Half.put_spec (half : Half σ into) (h : (into s).Valid) {e : Entry}
    (o : Option Generation) (hfits : Fits σ e.generation) :
    ∃ a, (Store.put (into s) e o).1 = .ok a ∧
      a = checkGeneration ((into s).contents.generation e.key) o e.generation ∧
      (Store.put (into s) e o).2.Valid ∧
      (a = .stored → (into s).contents.Takes (LawfulStore.kept σ e)
        (Store.put (into s) e o).2.contents) ∧
      (∀ c, a = .conflict c → (Store.put (into s) e o).2.contents = (into s).contents) := by
  rw [half.valid] at h
  simp only [half.put, half.contents, half.valid, Prod.map, id]
  exact put_of_fits o h hfits

end

variable {b : Backend}

/-- **A reading** answers what is held, and changes nothing. -/
theorem get_spec (h : b.Valid) (k : Key) :
    (Store.get b k).1 = .ok (b.contents k) ∧ (Store.get b k).2.Valid ∧
      (Store.get b k).2.contents = b.contents := by
  obtain ⟨m, rfl⟩ | ⟨f, rfl⟩ := b.memory_or_folder
  · exact half_memory.get_spec h k
  · exact half_folder.get_spec h k

/-- **A listing** changes nothing. -/
theorem list_spec (h : b.Valid) (start : String) :
    (Store.list b start).2.Valid ∧ (Store.list b start).2.contents = b.contents := by
  obtain ⟨m, rfl⟩ | ⟨f, rfl⟩ := b.memory_or_folder
  · exact half_memory.list_spec h start
  · exact half_folder.list_spec h start

/-- **A removal** says whether the key was there, and takes away it and nothing else. -/
theorem delete_spec (h : b.Valid) (k : Key) :
    (Store.delete b k).1 = .ok (b.contents k).isSome ∧ (Store.delete b k).2.Valid ∧
      (Store.delete b k).2.contents = b.contents.without k := by
  obtain ⟨m, rfl⟩ | ⟨f, rfl⟩ := b.memory_or_folder
  · exact half_memory.delete_spec h k
  · exact half_folder.delete_spec h k

/-- **A write** answers by the rule of generations. A refused one changes nothing, an accepted one
puts the entry in. -/
theorem put_spec (h : b.Valid) {e : Entry} (o : Option Generation)
    (hg : e.generation < 18446744073709551616) :
    ∃ a, (Store.put b e o).1 = .ok a ∧
      a = checkGeneration (b.contents.generation e.key) o e.generation ∧
      (Store.put b e o).2.Valid ∧
      (a = .stored → b.contents.Takes (b.kept e) (Store.put b e o).2.contents) ∧
      (∀ c, a = .conflict c → (Store.put b e o).2.contents = b.contents) := by
  obtain ⟨m, rfl⟩ | ⟨f, rfl⟩ := b.memory_or_folder
  · exact half_memory.put_spec h o trivial
  · exact half_folder.put_spec h o hg

end Backend

end PageCache
