import PageCache.Bytes
import PageCache.Files.Path
import PageCache.SortedMap

/-!
# A tree of files

A file system as the finite map from locations to what is there: a file with its bytes, or a folder.
The operations answer and fail as those of a POSIX system do:

* **way** — whatever a path runs through has to be a folder, also where it goes back by `..`; what is
  missing is reported before anything behind it is looked at;
* **end** — a path that ends with a slash or in `.` or `..` leads to a folder or nowhere;
* **failure** — an operation that fails changes nothing. Only those on many folders at once,
  `createAll` and `removeAll`, keep what they have done up to the failure.
-/

namespace PageCache

/-- A place in a file tree: the names on the way down from the working folder. Above it are the places
whose names are all `..`, and the root of the system is the name `/`. -/
abbrev Location := List String

namespace Location

/-- Places are ordered name by name. -/
instance : LE Location := List.instLE

/-- A name in the folder at a place. -/
def child (l : Location) (name : String) : Location := l ++ [name]

/-- Whether a place is the working folder, one above it, or the root: these are always there. -/
def isFixed (l : Location) : Bool := l = ["/"] || l.all (· = "..")

/-- Whether a place lies somewhere below another. -/
def isBelow (l m : Location) : Bool :=
  l.isPrefixOf m &&
    match m.drop l.length with
    | [] => false
    | name :: _ => name ≠ ".." && name ≠ "/"

/-- The folder in which a place lies. -/
def above (l : Location) : Location :=
  if l = ["/"] then l else if l.all (· = "..") then l.child ".." else l.dropLast

end Location

/-- Why an operation on files failed. -/
inductive IoError where
  /-- nothing is there -/
  | notFound
  /-- something is there already -/
  | alreadyExists
  /-- the path runs through something that is no folder -/
  | notDirectory
  /-- the operation is for files only -/
  | isDirectory
  /-- the folder is not empty -/
  | notEmpty
  /-- the path ends in what can be no name here -/
  | notNamed
  /-- a name or the whole path is too long -/
  | tooLong
  /-- the path holds a character that no name can have -/
  | illFormed
  /-- any other failure, by its text -/
  | other (message : String)
deriving DecidableEq, Inhabited

/-- The text by which an error is reported, with the number of the system if it is one of the
system's. -/
def IoError.message : IoError → String
  | .notFound => "No such file or directory (os error 2)"
  | .alreadyExists => "File exists (os error 17)"
  | .notDirectory => "Not a directory (os error 20)"
  | .isDirectory => "Is a directory (os error 21)"
  | .notEmpty => "Directory not empty (os error 39)"
  | .notNamed => "Invalid argument (os error 22)"
  | .tooLong => "File name too long (os error 36)"
  | .illFormed => "file name contained an unexpected NUL byte"
  | .other m => m

/-- What is at a place. -/
inductive FileNode where
  /-- a file with its bytes -/
  | file (bytes : ByteArray)
  /-- a folder -/
  | folder
deriving DecidableEq, Inhabited

/-- Where a path leads. -/
inductive PathEnd where
  /-- to a folder, by `.` or by the root -/
  | here (l : Location)
  /-- to a folder, by `..` -/
  | back (l : Location)
  /-- to a name in a folder; `slash` says whether a slash follows it -/
  | name (folder : Location) (name : String) (slash : Bool)
deriving DecidableEq, Inhabited

/-- A file system. -/
structure FileTree where
  /-- what is at each place that is not always there -/
  nodes : SortedMap Location FileNode
deriving DecidableEq, Inhabited

namespace FileTree

/-- The tree that has only what is always there. -/
def empty : FileTree := ⟨∅⟩

/-- How many bytes a name may have. -/
def nameLimit : Nat := 255

/-- How many bytes a path may have. -/
def pathLimit : Nat := 4095

/-- What is at a place. -/
def node? (t : FileTree) (l : Location) : Option FileNode :=
  if l.isFixed then some .folder else t.nodes.get? l

/-- What has a name in a folder. -/
def lookUp (t : FileTree) (folder : Location) (name : String) :
    Except IoError (Option FileNode) :=
  if nameLimit < name.utf8ByteSize then .error .tooLong else .ok (t.node? (folder.child name))

/-- Walk from a folder over some parts of a path, all of which have to lead to folders. -/
def walk (t : FileTree) (here : Location) : List String → Except IoError Location
  | [] => .ok here
  | part :: rest =>
    if part = "" || part = "." then t.walk here rest
    else if part = ".." then t.walk here.above rest
    else do
      match ← t.lookUp here part with
      | none => throw .notFound
      | some (.file _) => throw .notDirectory
      | some .folder => t.walk (here.child part) rest

/-- Where a path leads. All of it but its end has to be there. -/
def follow (t : FileTree) (p : Path) : Except IoError PathEnd := do
  if p.parts.any (·.contains '\x00') then throw .illFormed
  if pathLimit < p.text.utf8ByteSize then throw .tooLong
  let start : Location := if p.isAbsolute then ["/"] else []
  let parts := p.parts.filter (· ≠ "")
  match parts.getLast? with
  | none => if p.isAbsolute then return .here start else throw .notFound
  | some last =>
    let folder ← t.walk start parts.dropLast
    if last = "." then return .here folder
    else if last = ".." then return .back folder.above
    else return .name folder last (p.parts.getLast? = some "")

/-- The place at the end of a path and what is there. -/
def look (t : FileTree) (p : Path) : Except IoError (Location × Option FileNode) := do
  match ← t.follow p with
  | .here l | .back l => return (l, some .folder)
  | .name folder name slash =>
    match ← t.lookUp folder name with
    | some (.file bytes) =>
      if slash then throw .notDirectory else return (folder.child name, some (.file bytes))
    | node => return (folder.child name, node)

/-- Whether a path leads to a file. -/
def isFile (t : FileTree) (p : Path) : Bool :=
  match t.look p with
  | .ok (_, some (.file _)) => true
  | _ => false

/-- Whether a path leads to a folder. -/
def isFolder (t : FileTree) (p : Path) : Bool :=
  match t.look p with
  | .ok (_, some .folder) => true
  | _ => false

/-- The bytes of a file. -/
def read (t : FileTree) (p : Path) : Except IoError ByteArray := do
  match ← t.look p with
  | (_, some (.file bytes)) => return bytes
  | (_, some .folder) => throw .isDirectory
  | (_, none) => throw .notFound

/-- Put bytes into a file, which is made if it is not there. -/
def write (t : FileTree) (p : Path) (bytes : ByteArray) : Except IoError FileTree := do
  match ← t.follow p with
  | .name folder name false =>
    match ← t.lookUp folder name with
    | some .folder => throw .isDirectory
    | _ => return ⟨t.nodes.insert (folder.child name) (.file bytes)⟩
  | _ => throw .isDirectory

/-- Remove a file. -/
def remove (t : FileTree) (p : Path) : Except IoError FileTree := do
  match ← t.follow p with
  | .name folder name slash =>
    match ← t.lookUp folder name with
    | some (.file _) =>
      if slash then throw .notDirectory else return ⟨t.nodes.erase (folder.child name)⟩
    | some .folder => throw .isDirectory
    | none => throw .notFound
  | _ => throw .isDirectory

/-- Move a file to another place, over a file that is there. -/
def rename (t : FileTree) (source target : Path) : Except IoError FileTree := do
  match ← t.look source with
  | (_, none) => throw .notFound
  | (_, some .folder) => throw .isDirectory
  | (l, some (.file bytes)) => FileTree.write ⟨t.nodes.erase l⟩ target bytes

/-- The names in a folder, in order. -/
def list (t : FileTree) (p : Path) : Except IoError (List String) := do
  match ← t.look p with
  | (_, none) => throw .notFound
  | (_, some (.file _)) => throw .notDirectory
  | (l, some .folder) =>
    return t.nodes.keys.filterMap fun m => if m.dropLast = l then m.getLast? else none

/-- Make a folder. -/
def create (t : FileTree) (p : Path) : Except IoError FileTree := do
  match ← t.follow p with
  | .name folder name _ =>
    match ← t.lookUp folder name with
    | some _ => throw .alreadyExists
    | none => return ⟨t.nodes.insert (folder.child name) .folder⟩
  | _ => throw .alreadyExists

/-- Make the folder at the first of some paths. If it cannot be made since the way there is missing,
the others are made before. -/
def createFirst (t : FileTree) : List Path → Except IoError Unit × FileTree
  | [] => (.ok (), t)
  | p :: others =>
    match t.create p with
    | .error .notFound =>
      match t.createFirst others with
      | (.ok (), t) => settle p t (t.create p)
      | (.error e, t) => (.error e, t)
    | r => settle p t r
where
  /-- the tree with the folder made, or the old one if it was there -/
  settle (p : Path) (t : FileTree) (r : Except IoError FileTree) : Except IoError Unit × FileTree :=
    match r with
    | .ok t => (.ok (), t)
    | .error e => (if t.isFolder p then .ok () else .error e, t)

/-- Make a folder and those above it. -/
def createAll (t : FileTree) (p : Path) : Except IoError Unit × FileTree :=
  t.createFirst (p :: p.ancestors)

/-- Remove a folder in which there is nothing. -/
def removeEmpty (t : FileTree) (p : Path) : Except IoError FileTree := do
  match ← t.follow p with
  | .here _ => throw .notNamed
  | .back _ => throw .notEmpty
  | .name folder name _ =>
    let l := folder.child name
    match ← t.lookUp folder name with
    | none => throw .notFound
    | some (.file _) => throw .notDirectory
    | some .folder =>
      if t.nodes.keys.any fun m => m.dropLast = l then throw .notEmpty
      else return ⟨t.nodes.erase l⟩

/-- Remove all that is in a folder, and then the folder, which may be out of reach by then. -/
def removeAll (t : FileTree) (p : Path) : Except IoError Unit × FileTree :=
  match t.look p with
  | .error e => (.error e, t)
  | .ok (_, none) => (.error .notFound, t)
  | .ok (_, some (.file _)) => (.error .notDirectory, t)
  | .ok (l, some .folder) =>
    let nodes := t.nodes.keys.foldl (fun m k => if l.isBelow k then m.erase k else m) t.nodes
    let t : FileTree := ⟨nodes⟩
    match t.removeEmpty p with
    | .ok t => (.ok (), t)
    | .error .notFound => (.ok (), t)
    | .error e => (.error e, t)

end FileTree

end PageCache
