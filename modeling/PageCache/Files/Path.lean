/-!
# Paths

A path to a file is kept as it is written, for it is shown as it is written. Its parts are what stands
between its slashes:

* **start** — an empty part in front of others says that the path begins at the root of the system,
  any other path begins at the working folder;
* **way** — `.` and an empty part stay where they are, `..` goes back, all else is a name;
* **end** — an empty part at the end says that the path is meant to lead to a folder.
-/

namespace PageCache

/-- A path as it is written. -/
structure Path where
  /-- what stands between its slashes -/
  parts : List String
deriving DecidableEq, Inhabited

namespace Path

/-- The path that a text writes. -/
def ofText (s : String) : Path := ⟨(s.split (· = '/')).toList.map (·.toString)⟩

/-- The text that writes a path. -/
def text (p : Path) : String := "/".intercalate p.parts

/-- Whether a path begins at the root of the system. -/
def isAbsolute (p : Path) : Bool :=
  match p.parts with
  | "" :: _ :: _ => true
  | _ => false

/-- A path behind another, which is dropped if the second begins at the root. -/
def join (p q : Path) : Path :=
  if q.isAbsolute then q
  else if p.parts.getLast? = some "" then ⟨p.parts.dropLast ++ q.parts⟩
  else ⟨p.parts ++ q.parts⟩

/-- A name in the folder at a path. -/
def child (p : Path) (name : String) : Path := p.join ⟨[name]⟩

/-- The steps of a path that go anywhere: names, and `..`. -/
def steps (p : Path) : List String := p.parts.filter fun s => s ≠ "" && s ≠ "."

/-- The path of some steps from the start of another. -/
def withSteps (p : Path) (steps : List String) : Path :=
  ⟨match p.isAbsolute, steps with
    | true, [] => ["", ""]
    | true, steps => "" :: steps
    | false, steps => steps⟩

/-- The name at the end of a path. -/
def fileName? (p : Path) : Option String := p.steps.getLast?.filter (· ≠ "..")

/-- The path without its last step. -/
def parent (p : Path) : Path := p.withSteps p.steps.dropLast

/-- The paths of the first steps of a path, the longest first, without the whole of it. -/
def ancestors (p : Path) : List Path :=
  ((List.range p.steps.length).drop 1).reverse.map fun n => p.withSteps (p.steps.take n)

end Path

end PageCache
