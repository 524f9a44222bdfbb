import PageCache.Files.Tree

/-!
# Programs over files

What the library does with files is written as a `FileProgram`: the calls it makes, and what it
does with each answer. The same program can be run on a `FileTree`, be broken off after any call, or
be carried out on a real system.
-/

namespace PageCache

/-- One call on a file system. -/
inductive FileCall where
  /-- the bytes of a file -/
  | read (p : Path)
  /-- put bytes into a file -/
  | write (p : Path) (bytes : ByteArray)
  /-- move a file over another -/
  | rename (source target : Path)
  /-- remove a file -/
  | remove (p : Path)
  /-- make a folder and those above it -/
  | createAll (p : Path)
  /-- the names in a folder -/
  | list (p : Path)
  /-- whether a path leads to a file -/
  | isFile (p : Path)
deriving DecidableEq

/-- What a call answers when it succeeds. -/
@[reducible] def FileCall.Answer : FileCall → Type
  | read _ => ByteArray
  | write _ _ => Unit
  | rename _ _ => Unit
  | remove _ => Unit
  | createAll _ => Unit
  | list _ => List String
  | isFile _ => Bool

/-- A call carried out on a tree. -/
def FileTree.answer (t : FileTree) : (c : FileCall) → Except IoError c.Answer × FileTree
  | .read p => (t.read p, t)
  | .write p bytes => change (t.write p bytes)
  | .rename source target => change (t.rename source target)
  | .remove p => change (t.remove p)
  | .createAll p => t.createAll p
  | .list p => (t.list p, t)
  | .isFile p => (.ok (t.isFile p), t)
where
  /-- the tree that an operation made, or the old one -/
  change (r : Except IoError FileTree) : Except IoError Unit × FileTree :=
    match r with
    | .ok t => (.ok (), t)
    | .error e => (.error e, t)

/-- Calls on a file system that end in a value. -/
inductive FileProgram (α : Type) where
  /-- no more calls -/
  | done (a : α)
  /-- a call, and what follows its answer -/
  | call (c : FileCall) (next : Except IoError c.Answer → FileProgram α)

namespace FileProgram

/-- One program after another. -/
def bind {α β : Type} : FileProgram α → (α → FileProgram β) → FileProgram β
  | done a, f => f a
  | call c next, f => call c fun r => (next r).bind f

instance : Monad FileProgram where
  pure := done
  bind := bind

/-- A single call. -/
def perform (c : FileCall) : FileProgram (Except IoError c.Answer) := call c done

/-- Run a program on a tree. -/
def run {α : Type} : FileProgram α → FileTree → α × FileTree
  | done a, t => (a, t)
  | call c next, t => let (r, t) := t.answer c; (next r).run t

@[simp] theorem run_done {α : Type} (a : α) (t : FileTree) : (done a).run t = (a, t) := rfl

@[simp] theorem run_pure {α : Type} (a : α) (t : FileTree) :
    (pure a : FileProgram α).run t = (a, t) := rfl

@[simp] theorem run_perform (c : FileCall) (t : FileTree) : (perform c).run t = t.answer c := rfl

/-- **Sequencing.** The second program runs on the tree that the first leaves. -/
@[simp] theorem run_bind {α β : Type} (p : FileProgram α) (f : α → FileProgram β) (t : FileTree) :
    (p >>= f).run t = (f (p.run t).1).run (p.run t).2 := by
  show (p.bind f).run t = _
  induction p generalizing t with
  | done a => rfl
  | call c next ih => simp only [bind, run]; exact ih _ _

end FileProgram

end PageCache
