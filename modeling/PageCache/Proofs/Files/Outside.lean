import PageCache.Files.Program
import PageCache.Proofs.Files.Folder

/-!
# Outside of a folder

A program that writes, moves and removes files by their names in one folder changes nothing outside
of it: all folders stay where they are, and so do the files elsewhere. So whatever is looked for
elsewhere is found as before.

* `FileProgram.Calls` — what all calls of a program are like, whatever they are answered;
* `SameOutside` — two trees that differ in the files of one folder at most;
* `sameOutside_run` — a program whose calls are `FileCall.Inside` the folder;
* `SameOutside.isFile`, `SameOutside.read` — what is looked for elsewhere.
-/

namespace PageCache

/-! ## The calls of a program -/

namespace FileProgram

variable {α β : Type} {S : FileCall → Prop}

/-- All calls of a program are like this, whatever those before are answered. -/
inductive Calls (S : FileCall → Prop) : FileProgram α → Prop where
  /-- there are none -/
  | done (a : α) : Calls S (done a)
  /-- the first one is, and so are those after it -/
  | call {c : FileCall} {next : Except IoError c.Answer → FileProgram α} : S c →
      (∀ r, Calls S (next r)) → Calls S (call c next)

theorem Calls.bind {p : FileProgram α} {f : α → FileProgram β} (hp : p.Calls S)
    (hf : ∀ a, (f a).Calls S) : (p.bind f).Calls S := by
  induction hp with
  | done a => exact hf a
  | call hc _ ih => exact .call hc ih

/-- What each call keeps the whole program keeps. -/
theorem Calls.invariant {p : FileProgram α} {I : FileTree → Prop} (hp : p.Calls S)
    (hstep : ∀ c t, S c → I t → I (t.answer c).2) {t : FileTree} (ht : I t) : I (p.run t).2 := by
  induction hp generalizing t with
  | done a => exact ht
  | call hc _ ih => exact ih _ (hstep _ t hc ht)

end FileProgram

/-- The path is that of a name in the folder at another. -/
def Path.IsIn (p q : Path) : Prop := ∃ name, FileTree.IsName name ∧ q = p.child name

/-- A call that changes at most what has a name in the folder at a path. -/
def FileCall.Inside (p : Path) : FileCall → Prop
  | .write q _ => p.IsIn q
  | .rename q r => p.IsIn q ∧ p.IsIn r
  | .remove q => p.IsIn q
  | .createAll _ => False
  | .read _ | .list _ | .isFile _ => True

namespace FileTree

variable {t t' t'' : FileTree} {p q : Path} {l m : Location} {name : String} {bytes : ByteArray}

/-! ## Trees that differ in one folder -/

/-- The trees have the same folders, and differ in what has a name in the folder at `l` at most. -/
structure SameOutside (l : Location) (t t' : FileTree) : Prop where
  /-- the folders of either are those of the other -/
  folder : ∀ m, t'.node? m = some .folder ↔ t.node? m = some .folder
  /-- what is elsewhere is the same -/
  node : ∀ m, (∀ name, m ≠ l.child name) → t'.node? m = t.node? m

theorem SameOutside.refl (l : Location) (t : FileTree) : SameOutside l t t :=
  ⟨fun _ => Iff.rfl, fun _ _ => rfl⟩

theorem SameOutside.trans (h : SameOutside l t t') (h' : SameOutside l t' t'') :
    SameOutside l t t'' :=
  ⟨fun m => (h'.folder m).trans (h.folder m), fun m hm => (h'.node m hm).trans (h.node m hm)⟩

theorem SameOutside.symm (h : SameOutside l t t') : SameOutside l t' t :=
  ⟨fun m => (h.folder m).symm, fun m hm => (h.node m hm).symm⟩

theorem SameOutside.keepsFolders (h : SameOutside l t t') : KeepsFolders t t' :=
  fun m hm => (h.folder m).mpr hm

/-- A file in the folder comes, goes or changes. -/
theorem sameOutside_of_change (node : Option ByteArray)
    (hold : t.node? (l.child name) ≠ some .folder)
    (ht : ∀ m, t'.nodes.get? m = if l.child name = m then node.map .file else t.nodes.get? m) :
    SameOutside l t t' := by
  have hsame : ∀ m, l.child name ≠ m → t'.node? m = t.node? m := by
    intro m hm
    simp only [node?, ht, if_neg hm]
  have hnew : t'.node? (l.child name) ≠ some .folder := by
    by_cases hfixed : (l.child name).isFixed = true
    · exact absurd (by simp only [node?, hfixed, if_true]) hold
    · rw [node?, if_neg hfixed, ht, if_pos rfl]
      cases node <;> simp
  refine ⟨fun m => ?_, fun m hm => hsame m (hm name).symm⟩
  by_cases hm : l.child name = m
  · rw [← hm]
    exact iff_of_false hnew hold
  · rw [hsame m hm]

/-! ## Calls in the folder -/

/-- Where a name in the folder leads to, if it can be followed. -/
theorem follow_of_isIn (hp : t.look p = .ok (l, some .folder)) (hq : p.IsIn q) :
    ∃ name, ∀ e, t.follow q = .ok e → e = .name l name false := by
  obtain ⟨name, hname, rfl⟩ := hq
  refine ⟨name, fun e he => ?_⟩
  exact Except.ok.inj
    (he.symm.trans (follow_child_of_readable hp hname (readable_of_follow he)))

/-- What is looked up is there. -/
theorem node?_of_lookUp {node : Option FileNode} (h : t.lookUp l name = .ok node) :
    t.node? (l.child name) = node := by
  rw [lookUp] at h
  split at h
  · cases h
  · exact Except.ok.inj h

theorem sameOutside_write (hp : t.look p = .ok (l, some .folder)) (hq : p.IsIn q)
    (h : t.write q bytes = .ok t') : SameOutside l t t' := by
  obtain ⟨name, hfollow⟩ := follow_of_isIn hp hq
  cases hf : t.follow q with
  | error e => simp [FileTree.write, hf] at h
  | ok e =>
    obtain rfl := hfollow e hf
    have hwritten : ∀ node, t.lookUp l name = .ok node → node ≠ some .folder →
        SameOutside l t ⟨t.nodes.insert (l.child name) (.file bytes)⟩ := by
      rintro node hl hne
      rw [← node?_of_lookUp hl] at hne
      exact sameOutside_of_change (some bytes) hne fun _ => SortedMap.get?_insert ..
    rcases hl : t.lookUp l name with e | _ | _ | _
    · simp [FileTree.write, hf, hl] at h
    · simp only [FileTree.write, hf, hl, ok_bind, pure_eq_ok, Except.ok.injEq] at h
      exact h ▸ hwritten _ hl (by simp)
    · simp only [FileTree.write, hf, hl, ok_bind, pure_eq_ok, Except.ok.injEq] at h
      exact h ▸ hwritten _ hl (by simp)
    · simp [FileTree.write, hf, hl] at h

/-- A file that is taken away from the folder. -/
theorem sameOutside_erase (hl : t.lookUp l name = .ok (some (.file bytes))) :
    SameOutside l t ⟨t.nodes.erase (l.child name)⟩ := by
  refine sameOutside_of_change none ?_ fun _ => SortedMap.get?_erase ..
  rw [node?_of_lookUp hl]
  simp

theorem sameOutside_remove (hp : t.look p = .ok (l, some .folder)) (hq : p.IsIn q)
    (h : t.remove q = .ok t') : SameOutside l t t' := by
  obtain ⟨name, hfollow⟩ := follow_of_isIn hp hq
  cases hf : t.follow q with
  | error e => simp [FileTree.remove, hf] at h
  | ok e =>
    obtain rfl := hfollow e hf
    rcases hl : t.lookUp l name with e | _ | _ | _
    · simp [FileTree.remove, hf, hl] at h
    · simp [FileTree.remove, hf, hl] at h
    · simp [FileTree.remove, hf, hl] at h
      exact h ▸ sameOutside_erase hl
    · simp [FileTree.remove, hf, hl] at h

/-- A folder is found where it was. -/
theorem SameOutside.look_folder (h : SameOutside l t t') (hp : t.look p = .ok (m, some .folder)) :
    t'.look p = .ok (m, some .folder) := by
  obtain ⟨hreadable, hwalk⟩ := look_folder_iff.mp hp
  exact look_folder_iff.mpr ⟨hreadable, walk_mono h.keepsFolders hwalk⟩

theorem sameOutside_rename {r : Path} (hp : t.look p = .ok (l, some .folder)) (hq : p.IsIn q)
    (hr : p.IsIn r) (h : t.rename q r = .ok t') : SameOutside l t t' := by
  obtain ⟨name, hfollow⟩ := follow_of_isIn hp hq
  cases hf : t.follow q with
  | error e => simp [FileTree.rename, FileTree.look, hf] at h
  | ok e =>
    obtain rfl := hfollow e hf
    rcases hl : t.lookUp l name with e | _ | _ | _
    · simp [FileTree.rename, FileTree.look, hf, hl] at h
    · simp [FileTree.rename, FileTree.look, hf, hl] at h
    · have herased := sameOutside_erase hl
      simp [FileTree.rename, FileTree.look, hf, hl] at h
      exact herased.trans (sameOutside_write (herased.look_folder hp) hr h)
    · simp [FileTree.rename, FileTree.look, hf, hl] at h

/-- **A call inside the folder** changes nothing outside of it. -/
theorem sameOutside_answer (hp : t.look p = .ok (l, some .folder)) {c : FileCall}
    (hc : c.Inside p) : SameOutside l t (t.answer c).2 := by
  have hchange : ∀ r : Except IoError FileTree, (∀ t', r = .ok t' → SameOutside l t t') →
      SameOutside l t (answer.change t r).2 := by
    rintro (_ | t') hr
    · exact .refl l t
    · exact hr t' rfl
  cases c with
  | read q | list q | isFile q => exact .refl l t
  | write q bytes => exact hchange _ fun _ => sameOutside_write hp hc
  | rename q r => exact hchange _ fun _ => sameOutside_rename hp hc.1 hc.2
  | remove q => exact hchange _ fun _ => sameOutside_remove hp hc
  | createAll q => exact hc.elim

/-- **A program inside the folder** changes nothing outside of it. -/
theorem sameOutside_run {α : Type} {prog : FileProgram α} (hp : t.look p = .ok (l, some .folder))
    (hprog : prog.Calls (FileCall.Inside p)) : SameOutside l t (prog.run t).2 :=
  hprog.invariant (fun _ _ hc h => h.trans (sameOutside_answer (h.look_folder hp) hc)) (.refl l t)

/-! ## What is looked for elsewhere -/

theorem SameOutside.follow (h : SameOutside l t t') {e : PathEnd} (hq : t.follow q = .ok e) :
    t'.follow q = .ok e := by
  have hreadable := readable_of_follow hq
  rw [follow_eq hreadable.noNul hreadable.short] at hq ⊢
  cases hlast : q.way.getLast? with
  | none => simpa only [hlast] using hq
  | some last =>
    simp only [hlast] at hq ⊢
    cases hw : t.walk q.start q.way.dropLast with
    | error e => simp [hw, Except.map] at hq
    | ok folder =>
      rw [hw] at hq
      rw [walk_mono h.keepsFolders hw, hq]

/-- A path to a name leads over the folder that the name is in. -/
theorem walk_of_follow {folder : Location} {slash : Bool}
    (h : t.follow q = .ok (.name folder name slash)) :
    t.walk q.start q.way.dropLast = .ok folder := by
  have hreadable := readable_of_follow h
  rw [follow_eq hreadable.noNul hreadable.short] at h
  cases hlast : q.way.getLast? with
  | none =>
    simp only [hlast] at h
    split at h <;> cases h
  | some last =>
    cases hw : t.walk q.start q.way.dropLast with
    | error e => simp [hlast, hw, Except.map] at h
    | ok here =>
      simp only [hlast, hw, Except.map, Except.ok.injEq] at h
      split at h
      · cases h
      · split at h
        · cases h
        · obtain ⟨rfl, -⟩ := PathEnd.name.inj h
          rfl

/-- The path leads to no name in the folder at `l`. -/
def Elsewhere (t : FileTree) (l : Location) (q : Path) : Prop :=
  ∀ folder name slash, t.follow q = .ok (.name folder name slash) → folder ≠ l

theorem elsewhere_of_walk (h : t.walk q.start q.way.dropLast ≠ .ok l) : t.Elsewhere l q := by
  rintro folder name slash hf rfl
  exact h (walk_of_follow hf)

theorem SameOutside.elsewhere (h : SameOutside l t t') (hq : t.Elsewhere l q) :
    t'.Elsewhere l q := fun folder name slash hf => hq folder name slash (h.symm.follow hf)

/-- What has a name in another folder is the same. -/
theorem SameOutside.lookUp (h : SameOutside l t t') {folder : Location} (hfolder : folder ≠ l)
    (name : String) : t'.lookUp folder name = t.lookUp folder name := by
  have hnode : t'.node? (folder.child name) = t.node? (folder.child name) := by
    refine h.node _ fun other heq => hfolder ?_
    exact List.append_inj_left' heq rfl
  rw [FileTree.lookUp, FileTree.lookUp, hnode]

/-- **What is at the end of a path** that leads elsewhere stays the same. -/
theorem SameOutside.look (h : SameOutside l t t') (hq : t.Elsewhere l q)
    {found : Location × Option FileNode} (hlook : t.look q = .ok found) :
    t'.look q = .ok found := by
  cases hf : t.follow q with
  | error e => simp [FileTree.look, hf] at hlook
  | ok e =>
    rw [FileTree.look, h.follow hf]
    rw [FileTree.look, hf] at hlook
    cases e with
    | here m | back m => exact hlook
    | name folder name slash =>
      simp only [ok_bind, h.lookUp (hq _ _ _ hf)]
      exact hlook

theorem SameOutside.look_iff (h : SameOutside l t t') (hq : t.Elsewhere l q)
    (found : Location × Option FileNode) : t'.look q = .ok found ↔ t.look q = .ok found :=
  ⟨h.symm.look (h.elsewhere hq), h.look hq⟩

/-- A file is there exactly when the path leads to one. -/
theorem isFile_iff : t.isFile q = true ↔ ∃ m bytes, t.look q = .ok (m, some (.file bytes)) := by
  rcases hl : t.look q with e | ⟨m, _ | _ | _⟩ <;> simp [isFile, hl]

/-- Its bytes are those at the end of the path. -/
theorem read_eq_ok_iff : t.read q = .ok bytes ↔ ∃ m, t.look q = .ok (m, some (.file bytes)) := by
  rcases hl : t.look q with e | ⟨m, _ | _ | _⟩ <;> simp [FileTree.read, hl]

/-- A file that is found is there. -/
theorem node?_of_look (h : t.look q = .ok (m, some (.file bytes))) :
    t.node? m = some (.file bytes) := by
  rcases hf : t.follow q with e | (here | back | ⟨folder, name, slash⟩)
  · simp [FileTree.look, hf] at h
  · simp [FileTree.look, hf] at h
  · simp [FileTree.look, hf] at h
  · rcases hl : t.lookUp folder name with e | _ | _ | _
    · simp [FileTree.look, hf, hl] at h
    · simp [FileTree.look, hf, hl] at h
    · cases slash with
      | true => simp [FileTree.look, hf, hl] at h
      | false =>
        simp only [FileTree.look, hf, hl, ok_bind, pure_eq_ok, Except.ok.injEq, Prod.mk.injEq,
          Option.some.injEq, FileNode.file.injEq, if_neg Bool.false_ne_true] at h
        obtain ⟨rfl, rfl⟩ := h
        exact node?_of_lookUp hl
    · simp [FileTree.look, hf, hl] at h

/-- Where there are no files none is found. -/
theorem isFile_eq_false (h : ∀ m bytes, t.node? m ≠ some (.file bytes)) (q : Path) :
    t.isFile q = false := by
  refine Bool.eq_false_iff.mpr fun hfile => ?_
  obtain ⟨m, bytes, hlook⟩ := isFile_iff.mp hfile
  exact h m bytes (node?_of_look hlook)

/-- **A file elsewhere** is there as before. -/
theorem SameOutside.isFile (h : SameOutside l t t') (hq : t.Elsewhere l q) :
    t'.isFile q = t.isFile q := by
  rw [Bool.eq_iff_iff, isFile_iff, isFile_iff]
  simp only [h.look_iff hq]

/-- It has the bytes it had. -/
theorem SameOutside.read (h : SameOutside l t t') (hq : t.Elsewhere l q) (bytes : ByteArray) :
    t'.read q = .ok bytes ↔ t.read q = .ok bytes := by
  rw [read_eq_ok_iff, read_eq_ok_iff]
  simp only [h.look_iff hq]

end FileTree

end PageCache
