import PageCache.Proofs.Store.Disk
import PageCache.Store.Backend

/-!
# A store in a folder

A disk store does nothing without the file tree that it lies in. The two together are a
`FolderStore`, which is what a `Backend` in a folder is, and it is a `LawfulStore` like one in memory.
The form in which it keeps an entry is `Entry.persisted`, and a generation fits if it has no more than
sixty-four bits.
-/

namespace PageCache

open DiskStore

/-- A disk store together with the tree that its folder is in. -/
structure FolderStore where
  /-- the store -/
  store : DiskStore
  /-- the tree -/
  files : FileTree
  /-- the number of staging files so far -/
  serial : Nat

namespace FolderStore

/-- The same store behind the one contract. -/
def backend (f : FolderStore) : Backend := .disk f.store f.files f.serial

/-- The store when an operation has left the tree `files`. -/
def leaving (f : FolderStore) (files : FileTree) : FolderStore := ⟨f.store, files, f.serial + 2⟩

/-- An operation, as a program over files. -/
def use {α : Type} (f : FolderStore) (p : FileProgram (Except StoreError α)) :
    Except StoreError α × FolderStore :=
  ((p.run f.files).1, f.leaving (p.run f.files).2)

instance : Store FolderStore where
  get f k := f.use (f.store.get k)
  put f e o := f.use (f.store.put (stagingToken f.serial) (stagingToken (f.serial + 1)) e o)
  delete f k := f.use (f.store.delete k)
  list f start := f.use (f.store.list start)

variable {f : FolderStore} {slots : Slots}

theorem use_of_run {α : Type} {p : FileProgram (Except StoreError α)} {a : Except StoreError α}
    {files : FileTree} (h : p.run f.files = (a, files)) : f.use p = (a, f.leaving files) := by
  rw [use, h]

/-! ## The same as behind the contract -/

theorem use_backend {α : Type} (f : FolderStore) (inMemory : MemoryStore → α × MemoryStore)
    (onDisk : DiskStore → Nat → FileProgram (Except StoreError α)) :
    f.backend.use inMemory onDisk = (f.use (onDisk f.store f.serial)).map id backend := by
  simp only [backend, Backend.use, use, leaving, Prod.map_apply, id]

theorem get_backend (f : FolderStore) (k : Key) :
    Store.get f.backend k = (Store.get f k).map id backend := use_backend f ..

theorem put_backend (f : FolderStore) (e : Entry) (o : Option Generation) :
    Store.put f.backend e o = (Store.put f e o).map id backend := use_backend f ..

theorem delete_backend (f : FolderStore) (k : Key) :
    Store.delete f.backend k = (Store.delete f k).map id backend := use_backend f ..

theorem list_backend (f : FolderStore) (start : String) :
    Store.list f.backend start = (Store.list f start).map id backend := use_backend f ..

/-! ## The promises -/

/-- What a folder holds: what a reading answers. -/
def contents (f : FolderStore) : Contents := fun k => (Store.get f k).1.toOption.join

/-- The states in which a folder answers. -/
def Valid (f : FolderStore) : Prop := ∃ slots, Stored f.store f.files slots

/-- A generation that has room in a record. -/
abbrev HasRoom (g : Generation) : Prop := g < 18446744073709551616

theorem get_of_stored (h : Stored f.store f.files slots) (k : Key) :
    Store.get f k = (.ok (held slots k), f.leaving f.files) := use_of_run (h.get_run k)

theorem contents_of_stored (h : Stored f.store f.files slots) : f.contents = held slots := by
  funext k
  rw [contents, get_of_stored h]
  rfl

/-- What is held in slots with an entry in its slot. -/
theorem takes_held_put (slots : Slots) (e : Entry) :
    Contents.Takes (held slots) e.persisted (held (slots.put e)) := by
  refine ⟨(held_put slots e e.key).trans (if_pos rfl), fun k hk => ?_⟩
  have hne : k ≠ e.key := hk
  rw [held_put, if_neg hne]
  split
  · exact .inr rfl
  · exact .inl rfl

/-- How a write that is not disturbed ends. -/
inductive Wrote (f : FolderStore) (slots : Slots) (e : Entry) (o : Option Generation) :
    Except StoreError PutOutcome × FolderStore → Prop where
  /-- refused -/
  | refused {c} : checkGeneration ((held slots).generation e.key) o e.generation = .conflict c →
      Wrote f slots e o (.ok (.conflict c), f.leaving f.files)
  /-- accepted, but the generation has no room in the record -/
  | unfit {err} : checkGeneration ((held slots).generation e.key) o e.generation = .stored →
      ¬ HasRoom e.generation → Wrote f slots e o (.error err, f.leaving f.files)
  /-- accepted -/
  | stored {files} : checkGeneration ((held slots).generation e.key) o e.generation = .stored →
      HasRoom e.generation → Stored f.store files (slots.put e) →
      Wrote f slots e o (.ok .stored, f.leaving files)

/-- **A write** ends in one of these ways. -/
theorem put_of_stored (h : Stored f.store f.files slots) (e : Entry) (o : Option Generation) :
    ∃ out, Store.put f e o = out ∧ Wrote f slots e o out := by
  cases hc : checkGeneration ((held slots).generation e.key) o e.generation with
  | conflict c => exact ⟨_, use_of_run (h.put_run_of_conflict hc), .refused hc⟩
  | stored =>
    by_cases hroom : HasRoom e.generation
    · obtain ⟨a, files, hrun, rfl, hstored⟩ :=
        h.put_run o (isToken_stagingToken f.serial) (isToken_stagingToken (f.serial + 1)) hroom
      rw [hc] at hrun hstored
      exact ⟨_, use_of_run hrun, .stored hc hroom hstored⟩
    · obtain ⟨err, hrun⟩ := h.put_run_of_unfit hc hroom
      exact ⟨_, use_of_run hrun, .unfit hc hroom⟩

theorem list_of_stored (h : Stored f.store f.files slots) (start : String) :
    ∃ ks, Store.list f start = (.ok ks, f.leaving f.files) ∧ ks.Pairwise (· < ·) ∧
      ∀ k, k ∈ ks ↔ (held slots k).isSome ∧ k.startsWith start := by
  obtain ⟨ks, hrun, hks⟩ := h.list_run start
  exact ⟨ks, use_of_run hrun, hks⟩

theorem delete_of_stored (h : Stored f.store f.files slots) (k : Key) :
    ∃ files, Store.delete f k = (.ok (held slots k).isSome, f.leaving files) ∧
      Stored f.store files (slots.remove k) := by
  obtain ⟨files, hrun, hstored⟩ := h.delete_run k
  exact ⟨files, use_of_run hrun, hstored⟩

instance : LawfulStore FolderStore where
  Valid := Valid
  held := contents
  kept := Entry.persisted
  Fits := HasRoom
  key_kept _ := rfl
  body_kept _ := rfl
  tags_kept _ := rfl
  generation_kept _ := rfl
  key_of_held := by
    rintro f k e ⟨slots, h⟩ he
    rw [contents_of_stored h] at he
    exact (slot_of_held he).2
  get_answer := by
    rintro f k ⟨slots, h⟩
    rw [get_of_stored h, contents_of_stored h]
  held_get := by
    rintro f k ⟨slots, h⟩
    rw [get_of_stored h, contents_of_stored h]
    exact contents_of_stored h
  valid_get := by
    rintro f k ⟨slots, h⟩
    rw [get_of_stored h]
    exact ⟨slots, h⟩
  put_answer := by
    rintro f e o ⟨slots, h⟩ hroom
    obtain ⟨out, hput, hwrote⟩ := put_of_stored h e o
    rw [hput, contents_of_stored h]
    cases hwrote with
    | refused hc => rw [hc]
    | unfit _ hunfit => exact absurd hroom hunfit
    | stored hc _ _ => rw [hc]
  put_answer_unfit := by
    rintro f e o ⟨slots, h⟩ hunfit
    obtain ⟨out, hput, hwrote⟩ := put_of_stored h e o
    rw [hput, contents_of_stored h]
    cases hwrote with
    | refused hc => exact .inl ⟨_, hc, rfl⟩
    | unfit hc _ => exact .inr ⟨hc, _, rfl⟩
    | stored _ hroom _ => exact absurd hroom hunfit
  held_put_stored := by
    rintro f e o ⟨slots, h⟩
    obtain ⟨out, hput, hwrote⟩ := put_of_stored h e o
    rw [hput, contents_of_stored h]
    intro hanswer
    cases hwrote with
    | refused _ | unfit _ _ => cases hanswer
    | stored _ _ hstored =>
      rw [contents_of_stored hstored]
      exact takes_held_put slots e
  held_put_of_ne := by
    rintro f e o ⟨slots, h⟩
    obtain ⟨out, hput, hwrote⟩ := put_of_stored h e o
    rw [hput, contents_of_stored h]
    intro hanswer
    cases hwrote with
    | refused _ | unfit _ _ => exact contents_of_stored h
    | stored _ _ _ => exact absurd rfl hanswer
  valid_put := by
    rintro f e o ⟨slots, h⟩
    obtain ⟨out, hput, hwrote⟩ := put_of_stored h e o
    rw [hput]
    cases hwrote with
    | refused _ | unfit _ _ => exact ⟨slots, h⟩
    | stored _ _ hstored => exact ⟨_, hstored⟩
  delete_answer := by
    rintro f k ⟨slots, h⟩
    obtain ⟨files, hdelete, -⟩ := delete_of_stored h k
    rw [hdelete, contents_of_stored h]
  held_delete := by
    rintro f k ⟨slots, h⟩
    obtain ⟨files, hdelete, hstored⟩ := delete_of_stored h k
    rw [hdelete, contents_of_stored hstored, contents_of_stored h]
    exact held_remove slots k
  valid_delete := by
    rintro f k ⟨slots, h⟩
    obtain ⟨files, hdelete, hstored⟩ := delete_of_stored h k
    rw [hdelete]
    exact ⟨_, hstored⟩
  list_answer := by
    rintro f start ⟨slots, h⟩
    obtain ⟨ks, hlist, hsorted, hmem⟩ := list_of_stored h start
    rw [hlist, contents_of_stored h]
    exact ⟨ks, rfl, hsorted.imp Std.ne_of_lt, hmem⟩
  held_list := by
    rintro f start ⟨slots, h⟩
    obtain ⟨ks, hlist, -⟩ := list_of_stored h start
    rw [hlist, contents_of_stored h]
    exact contents_of_stored h
  valid_list := by
    rintro f start ⟨slots, h⟩
    obtain ⟨ks, hlist, -⟩ := list_of_stored h start
    rw [hlist]
    exact ⟨slots, h⟩

theorem held_eq (f : FolderStore) : LawfulStore.held f = f.contents := rfl

end FolderStore

end PageCache
