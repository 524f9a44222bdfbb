import Mathlib.Data.List.Nodup
import Mathlib.Logic.Function.Basic
import PageCache.Proofs.Files.Way

/-!
# The files in a folder

A folder without folders is a map from names to bytes. `FileTree.Holds` says that a path leads to a
folder with the files of such a map, and the operations on a file tree are known from it: reading
answers what is held, and writing, moving and removing change the map at the names they are about.
-/

namespace PageCache

/-- Files by their names. -/
abbrev Files := String → Option ByteArray

namespace FileTree

/-- The path leads to a folder that leaves room for names and has these files, and no folders. -/
structure HoldsAt (t : FileTree) (p : Path) (l : Location) (files : Files) : Prop where
  /-- the path leads to the folder -/
  look : t.look p = .ok (l, some .folder)
  /-- a name can stand behind the path -/
  room : p.text.utf8ByteSize + 128 ≤ pathLimit
  /-- the folder has these files -/
  files : ∀ name, t.nodes.get? (l.child name) = (files name).map .file

/-- The path leads to a folder with these files. -/
def Holds (t : FileTree) (p : Path) (files : Files) : Prop := ∃ l, HoldsAt t p l files

variable {t : FileTree} {p : Path} {l : Location} {files : Files} {name : String}

/-- A file is at no place that is always there. -/
theorem node?_child (h : FileName name) :
    t.node? (l.child name) = t.nodes.get? (l.child name) := by
  have hroot : l ++ [name] ≠ ["/"] := by
    intro heq
    cases l with
    | nil => exact h.ne_root (List.cons.inj heq).1
    | cons a l =>
      have hlen := congrArg List.length heq
      simp at hlen
  have hfixed : (l.child name).isFixed = false := by
    simp [Location.isFixed, Location.child, hroot, h.isName.2.2]
  simp [node?, hfixed]

namespace HoldsAt

/-- A name is looked up among the files. -/
theorem lookUp (h : HoldsAt t p l files) (hname : FileName name) :
    t.lookUp l name = .ok ((files name).map .file) := by
  have hshort : name.utf8ByteSize ≤ nameLimit := Nat.le_trans hname.short (by decide)
  rw [lookUp_of_short l hshort, node?_child hname, h.files]

/-- A change at a file's place keeps the folder. -/
theorem change (h : HoldsAt t p l files) {t' : FileTree} {node : Option ByteArray}
    (ht : ∀ m, t'.nodes.get? m = if l.child name = m then node.map .file else t.nodes.get? m) :
    HoldsAt t' p l (Function.update files name node) := by
  have hkeeps : KeepsFolders t t' := by
    intro m hm
    by_cases hfixed : m.isFixed = true
    · simp [node?, hfixed]
    · simp only [node?, if_neg hfixed] at hm ⊢
      have hne : l.child name ≠ m := by
        rintro rfl
        rw [h.files] at hm
        cases hf : files name <;> simp [hf] at hm
      rw [ht, if_neg hne, hm]
  obtain ⟨hp, hwalk⟩ := look_folder_iff.mp h.look
  refine ⟨look_folder_iff.mpr ⟨hp, walk_mono hkeeps hwalk⟩, h.room, fun other => ?_⟩
  rw [ht]
  by_cases hother : other = name
  · simp [hother]
  · have hne : l.child name ≠ l.child other :=
      fun heq => hother (List.cons.inj (List.append_cancel_left heq)).1.symm
    rw [if_neg hne, Function.update_of_ne hother, h.files]

/-- What is erased at a file's place is no longer held. -/
theorem erase (h : HoldsAt t p l files) (name : String) :
    HoldsAt ⟨t.nodes.erase (l.child name)⟩ p l (Function.update files name none) :=
  h.change fun _ => SortedMap.get?_erase ..

/-- A name leads to its place and to the file that has it. -/
theorem look_child (h : HoldsAt t p l files) (hname : FileName name) :
    t.look (p.child name) = .ok (l.child name, (files name).map .file) := by
  have hfollow := follow_child h.look h.room hname
  cases hf : files name <;> simp [FileTree.look, hfollow, h.lookUp hname, hf]

/-- Bytes that are written at a file's place are held. -/
theorem write (h : HoldsAt t p l files) (hname : FileName name) (bytes : ByteArray) :
    ∃ t', t.write (p.child name) bytes = .ok t' ∧
      HoldsAt t' p l (Function.update files name (some bytes)) := by
  refine ⟨⟨t.nodes.insert (l.child name) (.file bytes)⟩, ?_,
    h.change fun _ => SortedMap.get?_insert ..⟩
  have hfollow := follow_child h.look h.room hname
  cases hf : files name <;> simp [FileTree.write, hfollow, h.lookUp hname, hf]

end HoldsAt

/-- A place is that of a name in a folder exactly when the name is its last part. -/
theorem child_eq_iff {m : Location} :
    (if m.dropLast = l then m.getLast? else none) = some name ↔ l.child name = m := by
  rcases List.eq_nil_or_concat m with rfl | ⟨ps, last, rfl⟩
  · simp [Location.child]
  · simp [Location.child, eq_comm]

/-- The names that are listed are those in the folder, each once. -/
theorem list_of_look (h : t.look p = .ok (l, some .folder)) :
    ∃ names, t.list p = .ok names ∧ names.Nodup ∧
      ∀ name, name ∈ names ↔ (t.nodes.get? (l.child name)).isSome := by
  refine ⟨t.nodes.keys.filterMap fun m => if m.dropLast = l then m.getLast? else none, ?_, ?_, ?_⟩
  · rw [FileTree.list, h]
    rfl
  · refine List.Nodup.filterMap ?_ ?_
    · intro m m' name hm hm'
      exact (child_eq_iff.mp hm).symm.trans (child_eq_iff.mp hm')
    · exact t.nodes.nodup_keys
  · intro name
    rw [List.mem_filterMap, ← SortedMap.mem_keys_iff]
    constructor
    · rintro ⟨m, hm, hname⟩
      exact child_eq_iff.mp hname ▸ hm
    · exact fun hm => ⟨_, hm, child_eq_iff.mpr rfl⟩

/-- Where names are listed there is a folder. -/
theorem look_of_list {names : List String} (h : t.list p = .ok names) :
    ∃ l, t.look p = .ok (l, some .folder) := by
  rcases hl : t.look p with e | ⟨l, _ | _ | _⟩ <;> simp [FileTree.list, hl] at h ⊢

/-- A folder that is there cannot be made. -/
theorem create_of_look (h : t.look p = .ok (l, some .folder)) :
    t.create p = .error .alreadyExists := by
  rcases hf : t.follow p with e | (l | l | ⟨folder, name, slash⟩)
  · simp [FileTree.look, hf] at h
  · simp [FileTree.create, hf]
  · simp [FileTree.create, hf]
  · have hfolder := ((look_of_follow_name hf).mp h).1
    simp [FileTree.create, hf, hfolder]

/-- It need not be made. -/
theorem createAll_of_look (h : t.look p = .ok (l, some .folder)) : t.createAll p = (.ok (), t) := by
  have hcreate := create_of_look h
  simp [FileTree.createAll, FileTree.createFirst, hcreate, createFirst.settle, FileTree.isFolder, h]

/-- **An empty folder** holds no files. -/
theorem holds_of_list_nil (h : t.list p = .ok []) (hroom : p.text.utf8ByteSize + 128 ≤ pathLimit) :
    Holds t p fun _ => none := by
  obtain ⟨l, hl⟩ := look_of_list h
  obtain ⟨names, hnames, -, hmem⟩ := list_of_look hl
  cases hnames.symm.trans h
  refine ⟨l, hl, hroom, fun name => ?_⟩
  simpa using mt (hmem name).mpr List.not_mem_nil

namespace Holds

/-- **Reading** answers the bytes of the file. -/
theorem read (h : Holds t p files) (hname : FileName name) :
    t.read (p.child name) = match files name with
      | some bytes => .ok bytes
      | none => .error .notFound := by
  obtain ⟨l, h⟩ := h
  cases hf : files name <;> simp [FileTree.read, h.look_child hname, hf]

/-- **Writing** puts the bytes there. -/
theorem write (h : Holds t p files) (hname : FileName name) (bytes : ByteArray) :
    ∃ t', t.write (p.child name) bytes = .ok t' ∧
      Holds t' p (Function.update files name (some bytes)) := by
  obtain ⟨l, h⟩ := h
  obtain ⟨t', hwrite, h'⟩ := h.write hname bytes
  exact ⟨t', hwrite, l, h'⟩

/-- **Removing** takes the file away, and fails if there is none. -/
theorem remove (h : Holds t p files) (hname : FileName name) :
    match files name with
    | some _ =>
      ∃ t', t.remove (p.child name) = .ok t' ∧ Holds t' p (Function.update files name none)
    | none => t.remove (p.child name) = .error .notFound := by
  obtain ⟨l, h⟩ := h
  have hfollow := follow_child h.look h.room hname
  have hlookUp := h.lookUp hname
  cases hf : files name with
  | none => simp [FileTree.remove, hfollow, hlookUp, hf]
  | some bytes =>
    refine ⟨⟨t.nodes.erase (l.child name)⟩, ?_, l, h.erase name⟩
    simp [FileTree.remove, hfollow, hlookUp, hf]

/-- **Moving** a file puts its bytes under the other name. -/
theorem rename (h : Holds t p files) (hname : FileName name) {target : String}
    (htarget : FileName target) {bytes : ByteArray} (hf : files name = some bytes) :
    ∃ t', t.rename (p.child name) (p.child target) = .ok t' ∧
      Holds t' p (Function.update (Function.update files name none) target (some bytes)) := by
  obtain ⟨l, h⟩ := h
  have herased : HoldsAt ⟨t.nodes.erase (l.child name)⟩ p l (Function.update files name none) :=
    h.erase name
  obtain ⟨t', hwrite, h'⟩ := herased.write htarget bytes
  refine ⟨t', ?_, l, h'⟩
  rw [FileTree.rename, h.look_child hname, hf]
  exact hwrite

/-- **Listing** answers the name of each file once. -/
theorem list (h : Holds t p files) :
    ∃ names, t.list p = .ok names ∧ names.Nodup ∧ ∀ name, name ∈ names ↔ (files name).isSome := by
  obtain ⟨l, h⟩ := h
  obtain ⟨names, hlist, hnodup, hmem⟩ := list_of_look h.look
  refine ⟨names, hlist, hnodup, fun name => ?_⟩
  rw [hmem, h.files, Option.isSome_map]

end Holds

end FileTree

end PageCache
