import Mathlib.Tactic.Common
import PageCache.Files.Tree

/-!
# The way to a folder

A path to a folder is a way from one folder to the next, and a name in that folder is the same path
with one more part. So what a path to a folder leads to is known from the folders on the way, and it
does not change as long as these stay folders:

* `look_folder_iff` — a path leads to a folder exactly when all its parts do;
* `walk_mono` — a tree that keeps its folders keeps the ways over them;
* `follow_child` — a name in the folder at a path.
-/

namespace PageCache

/-! ## Steps that may fail -/

section

variable {ε α β : Type}

@[simp] theorem ok_bind (a : α) (f : α → Except ε β) : (Except.ok a >>= f) = f a := rfl

@[simp] theorem error_bind (e : ε) (f : α → Except ε β) : (Except.error e >>= f) = .error e := rfl

@[simp] theorem pure_eq_ok (a : α) : (pure a : Except ε α) = .ok a := rfl

@[simp] theorem throw_eq_error (e : ε) : (throw e : Except ε α) = .error e := rfl

end

namespace Path

/-- The place at which a path begins. -/
def start (p : Path) : Location := if p.isAbsolute then ["/"] else []

/-- The parts of a path between which there is more than a slash. -/
def way (p : Path) : List String := p.parts.filter (· ≠ "")

end Path

namespace FileTree

variable {t t' : FileTree}

/-- The folders of one tree are folders in another. -/
def KeepsFolders (t t' : FileTree) : Prop :=
  ∀ l, t.node? l = some .folder → t'.node? l = some .folder

/-- A walk goes on where it has got to. -/
theorem walk_append (here : Location) (a b : List String) :
    t.walk here (a ++ b) = (t.walk here a).bind (t.walk · b) := by
  induction a generalizing here with
  | nil => rfl
  | cons part a ih =>
    rw [List.cons_append, walk, walk]
    split
    · exact ih here
    · split
      · exact ih here.above
      · rcases t.lookUp here part with e | _ | _ | _
        · rfl
        · rfl
        · rfl
        · exact ih (here.child part)

/-- A name is looked up among what is there, unless it is too long. -/
theorem lookUp_of_short (folder : Location) {name : String} (h : name.utf8ByteSize ≤ nameLimit) :
    t.lookUp folder name = .ok (t.node? (folder.child name)) :=
  if_neg (Nat.not_lt.mpr h)

/-- A name is looked up and leads to a folder. -/
theorem lookUp_folder_iff {folder : Location} {name : String} :
    t.lookUp folder name = .ok (some .folder) ↔
      name.utf8ByteSize ≤ nameLimit ∧ t.node? (folder.child name) = some .folder := by
  by_cases h : nameLimit < name.utf8ByteSize
  · simp [lookUp, h, Nat.not_le.mpr h]
  · simp [lookUp, h, Nat.not_lt.mp h]

/-- A part of a path that is a name. -/
def IsName (part : String) : Prop := part ≠ "" ∧ part ≠ "." ∧ part ≠ ".."

/-- A walk over a name goes through the folder of that name. -/
theorem walk_name_iff {here l : Location} {name : String} {rest : List String} (h : IsName name) :
    t.walk here (name :: rest) = .ok l ↔
      t.lookUp here name = .ok (some .folder) ∧ t.walk (here.child name) rest = .ok l := by
  have hstay : ¬ (name = "" ∨ name = ".") := not_or.mpr ⟨h.1, h.2.1⟩
  rw [walk, if_neg (by simpa using hstay), if_neg h.2.2]
  rcases t.lookUp here name with e | _ | _ | _ <;> simp

/-- **A tree that keeps its folders** keeps the ways over them. -/
theorem walk_mono (h : KeepsFolders t t') {here l : Location} {parts : List String}
    (hw : t.walk here parts = .ok l) : t'.walk here parts = .ok l := by
  induction parts generalizing here with
  | nil => exact hw
  | cons part parts ih =>
    by_cases hname : IsName part
    · obtain ⟨hfolder, hrest⟩ := (walk_name_iff hname).mp hw
      obtain ⟨hshort, hnode⟩ := lookUp_folder_iff.mp hfolder
      exact (walk_name_iff hname).mpr ⟨lookUp_folder_iff.mpr ⟨hshort, h _ hnode⟩, ih hrest⟩
    · -- the part stays here or goes back, whatever there is
      rw [walk] at hw ⊢
      split
      · rename_i hstay
        rw [if_pos hstay] at hw
        exact ih hw
      · rename_i hstay
        rw [if_neg hstay] at hw
        have hback : part = ".." := by
          simp only [Bool.or_eq_true, decide_eq_true_eq, not_or] at hstay
          exact not_not.mp fun hb => hname ⟨hstay.1, hstay.2, hb⟩
        rw [if_pos hback] at hw ⊢
        exact ih hw

/-! ## Paths to folders -/

/-- A path that can be followed as far as its text goes. -/
structure Readable (p : Path) : Prop where
  /-- it has none of the characters that no name can have -/
  noNul : p.parts.any (·.contains '\x00') = false
  /-- it is not too long -/
  short : p.text.utf8ByteSize ≤ pathLimit
  /-- it leads somewhere -/
  leads : p.way = [] → p.isAbsolute = true

/-- A path is followed along all of its parts but the last. -/
theorem follow_eq {p : Path} (hnul : p.parts.any (·.contains '\x00') = false)
    (hshort : p.text.utf8ByteSize ≤ pathLimit) :
    t.follow p = match p.way.getLast? with
      | none => if p.isAbsolute then .ok (.here p.start) else .error .notFound
      | some last => (t.walk p.start p.way.dropLast).map fun folder =>
        if last = "." then .here folder
        else if last = ".." then .back folder.above
        else .name folder last (p.parts.getLast? = some "") := by
  rw [follow, hnul, if_neg Bool.false_ne_true, if_neg (Nat.not_lt.mpr hshort)]
  change (match p.way.getLast? with | none => _ | some last => _) = _
  cases p.way.getLast? with
  | none => rfl
  | some last =>
    show (t.walk p.start p.way.dropLast).bind _ = _
    cases t.walk p.start p.way.dropLast with
    | error e => rfl
    | ok folder =>
      show (if last = "." then _ else if last = ".." then _ else _) = Except.ok _
      split
      · rfl
      · split <;> rfl

/-- A path that leads anywhere can be followed. -/
theorem readable_of_follow {p : Path} {e : PathEnd} (h : t.follow p = .ok e) : Readable p := by
  by_cases hnul : p.parts.any (·.contains '\x00') = true
  · rw [follow, if_pos hnul] at h
    cases h
  · by_cases hlong : pathLimit < p.text.utf8ByteSize
    · rw [follow, if_neg hnul, if_pos hlong] at h
      cases h
    · have hnul' := Bool.eq_false_iff.mpr hnul
      refine ⟨hnul', Nat.not_lt.mp hlong, fun hway => ?_⟩
      by_contra habs
      rw [follow_eq hnul' (Nat.not_lt.mp hlong), hway] at h
      exact nomatch (if_neg habs).symm.trans h

/-- What is at the end of a path that leads to a folder by a part of its own. -/
theorem look_of_follow_folder {p : Path} {l : Location}
    (h : t.follow p = .ok (.here l) ∨ t.follow p = .ok (.back l)) :
    t.look p = .ok (l, some .folder) := by
  rcases h with h | h <;> simp [look, h]

/-- What is at the end of a path that leads to a name. -/
theorem look_of_follow_name {p : Path} {folder : Location} {name : String} {slash : Bool}
    (h : t.follow p = .ok (.name folder name slash)) {l : Location} :
    t.look p = .ok (l, some .folder) ↔
      t.lookUp folder name = .ok (some .folder) ∧ folder.child name = l := by
  simp only [look, h, ok_bind]
  rcases t.lookUp folder name with e | _ | _ | _
  · simp
  · simp
  · cases slash <;> simp
  · simp

/-- **A path leads to a folder** exactly when all its parts do. -/
theorem look_folder_iff {p : Path} {l : Location} :
    t.look p = .ok (l, some .folder) ↔ Readable p ∧ t.walk p.start p.way = .ok l := by
  by_cases hp : Readable p
  · rw [and_iff_right hp]
    have hfollow := follow_eq (t := t) hp.noNul hp.short
    rcases List.eq_nil_or_concat p.way with hway | ⟨ps, last, hway⟩
    · rw [hway] at hfollow ⊢
      have hhere := hfollow.trans (if_pos (hp.leads hway))
      simp [look_of_follow_folder (.inl hhere), walk]
    · rw [List.concat_eq_append] at hway
      rw [hway, List.getLast?_concat, List.dropLast_concat] at hfollow
      rw [hway, walk_append]
      cases hw : t.walk p.start ps with
      | error e =>
        rw [hw] at hfollow
        simp [look, hfollow, Except.map, Except.bind]
      | ok folder =>
        have hlast : last ≠ "" := by
          have hmem : last ∈ p.way := hway ▸ List.mem_append_right ps (List.mem_singleton_self last)
          simpa using (List.mem_filter.mp hmem).2
        rw [hw] at hfollow
        replace hfollow : t.follow p = .ok (if last = "." then .here folder
            else if last = ".." then .back folder.above
            else .name folder last (p.parts.getLast? = some "")) := hfollow
        show _ ↔ t.walk folder [last] = .ok l
        by_cases hdot : last = "."
        · rw [if_pos hdot] at hfollow
          simp [look_of_follow_folder (.inl hfollow), hdot, walk]
        · by_cases hback : last = ".."
          · rw [if_neg hdot, if_pos hback] at hfollow
            simp [look_of_follow_folder (.inr hfollow), hback, walk]
          · rw [if_neg hdot, if_neg hback] at hfollow
            rw [look_of_follow_name hfollow, walk_name_iff ⟨hlast, hdot, hback⟩]
            simp [walk]
  · -- what cannot be followed leads nowhere
    refine iff_of_false (fun h => ?_) (fun h => hp h.1)
    cases hf : t.follow p with
    | error e => simp [look, hf] at h
    | ok e => exact hp (readable_of_follow hf)

/-! ## Names in a folder -/

/-- What can name a file in any folder that leaves room for it. -/
structure FileName (name : String) : Prop where
  /-- it is no part of a path with a meaning of its own -/
  isName : IsName name
  /-- it is not the name of the root -/
  ne_root : name ≠ "/"
  /-- it has none of the characters that no name can have -/
  noNul : '\x00' ∉ name.toList
  /-- it is not too long -/
  short : name.utf8ByteSize ≤ 127

end FileTree

namespace Path

/-- A name behind other parts makes a text longer by itself and a slash. -/
theorem size_concat (parts : List String) (name : String) :
    ("/".intercalate (parts ++ [name])).utf8ByteSize =
      (if parts = [] then 0 else ("/".intercalate parts).utf8ByteSize + 1) + name.utf8ByteSize := by
  by_cases h : parts = []
  · rw [if_pos h, h, List.nil_append, String.intercalate_singleton, Nat.zero_add]
  · have hslash : "/".utf8ByteSize = 1 := by decide
    rw [if_neg h, String.intercalate_append_of_ne_nil h (List.cons_ne_nil name []),
      String.intercalate_singleton, String.utf8ByteSize_append, String.utf8ByteSize_append, hslash]

variable {p : Path} {name : String}

/-- A path of several parts begins at the root if its first part is empty. -/
theorem isAbsolute_cons {a : String} {rest : List String} (h : rest ≠ []) :
    isAbsolute ⟨a :: rest⟩ = decide (a = "") := by
  obtain ⟨b, rest, rfl⟩ := List.exists_cons_of_ne_nil h
  unfold isAbsolute
  split
  · rename_i heq
    cases heq
    rfl
  · rename_i hne
    refine (decide_eq_false fun ha => ?_).symm
    exact hne b rest (by rw [ha])

/-- A single part is not at the root. -/
theorem isAbsolute_singleton (a : String) : isAbsolute ⟨[a]⟩ = false := by
  unfold isAbsolute
  split
  · rename_i heq
    cases heq
  · rfl

/-- A name behind a path comes after its last part, or in place of an empty one. -/
theorem parts_child (p : Path) (name : String) :
    (p.child name).parts = p.parts ++ [name] ∨
      ∃ ps, p.parts = ps ++ [""] ∧ (p.child name).parts = ps ++ [name] := by
  unfold child join
  rw [isAbsolute_singleton, if_neg Bool.false_ne_true]
  split
  · rename_i hlast
    refine .inr ⟨p.parts.dropLast, ?_, rfl⟩
    rcases List.eq_nil_or_concat p.parts with hnil | ⟨ps, last, hparts⟩
    · rw [hnil] at hlast
      cases hlast
    · rw [List.concat_eq_append] at hparts
      rw [hparts, List.getLast?_concat] at hlast
      obtain rfl : last = "" := Option.some.inj hlast
      rw [hparts, List.dropLast_concat]
  · exact .inl rfl

theorem way_child (h : name ≠ "") : (p.child name).way = p.way ++ [name] := by
  have hname : [name].filter (· ≠ "") = [name] := by simp [h]
  rcases parts_child p name with hparts | ⟨ps, hp, hparts⟩
  · rw [way, way, hparts, List.filter_append, hname]
  · rw [way, way, hparts, hp, List.filter_append, List.filter_append, hname]
    simp

/-- A path that leads somewhere begins where it begins, whatever stands behind it. -/
theorem start_child (h : p.way = [] → p.isAbsolute = true) : (p.child name).start = p.start := by
  have habs : (p.child name).isAbsolute = p.isAbsolute := by
    obtain ⟨parts⟩ := p
    cases parts with
    | nil => exact absurd (h rfl) Bool.false_ne_true
    | cons a parts =>
      -- a path of one part that leads somewhere is a name
      have hsingle : parts = [] → a ≠ "" := by
        rintro rfl rfl
        exact absurd ((isAbsolute_singleton "").symm.trans (h rfl)) Bool.false_ne_true
      have hchild : ∃ qs, qs ≠ [] ∧ (child ⟨a :: parts⟩ name).parts = a :: qs := by
        rcases parts_child ⟨a :: parts⟩ name with hparts | ⟨ps, hp, hparts⟩
        · exact ⟨parts ++ [name], by simp, hparts⟩
        · cases ps with
          | nil =>
            cases hp
            exact absurd rfl (hsingle rfl)
          | cons b ps =>
            cases hp
            exact ⟨ps ++ [name], by simp, hparts⟩
      obtain ⟨qs, hqs, hparts⟩ := hchild
      have hchild : (child ⟨a :: parts⟩ name).isAbsolute = decide (a = "") := by
        rw [← isAbsolute_cons hqs, ← hparts]
      rw [hchild]
      by_cases hne : parts = []
      · subst hne
        rw [isAbsolute_singleton, decide_eq_false (hsingle rfl)]
      · rw [isAbsolute_cons hne]
  rw [start, start, habs]

/-- A name makes a path longer by itself and a slash at most. -/
theorem size_text_child (p : Path) (name : String) :
    (p.child name).text.utf8ByteSize ≤ p.text.utf8ByteSize + 1 + name.utf8ByteSize := by
  unfold text
  rcases parts_child p name with hparts | ⟨ps, hp, hparts⟩
  · rw [hparts, size_concat]
    split <;> omega
  · rw [hparts, hp, size_concat, size_concat]
    split <;> omega

/-- A name adds no character that no name can have. -/
theorem noNul_child (h : p.parts.any (·.contains '\x00') = false)
    (hname : '\x00' ∉ name.toList) :
    (p.child name).parts.any (·.contains '\x00') = false := by
  rcases parts_child p name with hparts | ⟨ps, hp, hparts⟩
  · rw [hparts, List.any_append, h]
    simp [hname]
  · rw [hp, List.any_append, Bool.or_eq_false_iff] at h
    rw [hparts, List.any_append, h.1]
    simp [hname]

end Path

namespace FileTree

variable {t t' : FileTree} {p : Path} {l : Location} {name : String}

/-- A name in a folder is where the folder's path leads and the name, if its own path can be
followed. -/
theorem follow_child_of_readable (h : t.look p = .ok (l, some .folder)) (hname : IsName name)
    (hreadable : Readable (p.child name)) : t.follow (p.child name) = .ok (.name l name false) := by
  obtain ⟨hp, hwalk⟩ := look_folder_iff.mp h
  obtain ⟨hempty, hdot, hback⟩ := hname
  have hslash : (p.child name).parts.getLast? ≠ some "" := by
    rcases Path.parts_child p name with hparts | ⟨ps, -, hparts⟩ <;>
      rw [hparts, List.getLast?_concat] <;>
      exact fun heq => hempty (Option.some.inj heq)
  rw [follow_eq hreadable.noNul hreadable.short, Path.way_child hempty, List.getLast?_concat,
    List.dropLast_concat, Path.start_child hp.leads, hwalk]
  show Except.ok (if name = "." then _ else if name = ".." then _ else _) = _
  rw [if_neg hdot, if_neg hback, decide_eq_false hslash]

/-- **A name in a folder** that leaves room for it is where the folder's path leads and the name. -/
theorem follow_child (h : t.look p = .ok (l, some .folder))
    (hroom : p.text.utf8ByteSize + 128 ≤ pathLimit) (hname : FileName name) :
    t.follow (p.child name) = .ok (.name l name false) := by
  obtain ⟨hp, -⟩ := look_folder_iff.mp h
  have hsize := Path.size_text_child p name
  refine follow_child_of_readable h hname.isName ⟨Path.noNul_child hp.noNul hname.noNul, ?_, ?_⟩
  · have hshort := hname.short
    omega
  · rw [Path.way_child hname.isName.1]
    intro hnil
    exact absurd hnil (by simp)

end FileTree

end PageCache
