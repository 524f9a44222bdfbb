import PageCache.Config.Value

/-!
# TOML documents

A TOML document is a list of statements, which build up one table of tables. What is defined once
may not be defined again:

* **assignment** — a dotted key makes the tables on its way, or goes through those that no header
  has opened, which no header may open from then on; a value cannot go right into a table of a list;
* **header** — opens a table that is new, or that so far was only on the way to another;
* **row** — a header in double brackets adds a table to a list that only such headers make;
* **value** — a table or a list written as a value is closed.
-/

namespace PageCache.Toml

/-- How a table came to be. -/
inductive Origin where
  /-- a header has opened it -/
  | opened
  /-- it lies on the way to a header -/
  | implied
  /-- it lies on the way of a dotted key, and perhaps on that to a header as well -/
  | dotted
deriving DecidableEq, Inhabited

/-- What has a name in a document. -/
inductive Item where
  /-- a closed value -/
  | value (v : ConfigValue)
  /-- a table that may grow -/
  | table (origin : Origin) (fields : List (String × Item))
  /-- the tables of a list, the latest first -/
  | rows (latest : List (String × Item)) (earlier : List (List (String × Item)))
deriving Inhabited

/-- Items by name. -/
abbrev Fields := List (String × Item)

/-- Put an item in the place of a name. -/
def replace (fields : Fields) (name : String) (item : Item) : Fields :=
  match fields with
  | [] => [(name, item)]
  | f :: rest => if f.1 = name then (name, item) :: rest else f :: replace rest name item

/-- Assign a value to a dotted key. The tables on its way are dotted afterwards. Of a list on its way
the latest table is meant, but since a header has opened that table, the value cannot be its own. -/
def assign (fields : Fields) (v : ConfigValue) : List String → Option Fields
  | [] => none
  | [name] =>
    match fields.lookup name with
    | none => some (replace fields name (.value v))
    | some _ => none
  | name :: path =>
    let last := path.length = 1
    match fields.lookup name with
    | none => (assign [] v path).map fun fs => replace fields name (.table .dotted fs)
    | some (.table origin inner) =>
      if origin = .opened then none
      else (assign inner v path).map fun fs => replace fields name (.table .dotted fs)
    | some (.rows latest earlier) =>
      if last then none
      else (assign latest v path).map fun fs => replace fields name (.rows fs earlier)
    | some (.value _) => none

/-- Change the table at the end of a path of headers; tables on the way are made where there are
none, and of a list the latest table is meant. -/
def within (change : Fields → Option Fields) (fields : Fields) : List String → Option Fields
  | [] => change fields
  | name :: path =>
    match fields.lookup name with
    | none => (within change [] path).map fun fs => replace fields name (.table .implied fs)
    | some (.table origin inner) =>
      (within change inner path).map fun fs => replace fields name (.table origin fs)
    | some (.rows latest earlier) =>
      (within change latest path).map fun fs => replace fields name (.rows fs earlier)
    | some (.value _) => none

/-- Open a table by its header. -/
def openTable (name : String) (fields : Fields) : Option Fields :=
  match fields.lookup name with
  | none => some (replace fields name (.table .opened []))
  | some (.table .implied inner) => some (replace fields name (.table .opened inner))
  | some _ => none

/-- Add a table to a list. -/
def openRow (name : String) (fields : Fields) : Option Fields :=
  match fields.lookup name with
  | none => some (replace fields name (.rows [] []))
  | some (.rows latest earlier) => some (replace fields name (.rows [] (latest :: earlier)))
  | some _ => none

mutual

/-- The value of an item. -/
def Item.toValue : Item → ConfigValue
  | .value v => v
  | .table _ fields => .table (fieldValues fields)
  | .rows latest earlier => .list (rowValues earlier ++ [.table (fieldValues latest)])

/-- The values of fields. -/
def fieldValues : List (String × Item) → List (String × ConfigValue)
  | [] => []
  | (name, item) :: rest => (name, item.toValue) :: fieldValues rest

/-- The values of tables, in the order in which they were added. -/
def rowValues : List (List (String × Item)) → List ConfigValue
  | [] => []
  | fields :: earlier => rowValues earlier ++ [.table (fieldValues fields)]

end

/-- A statement of a document. -/
inductive Statement where
  /-- the tables on the way to a table, and its name -/
  | header (path : List String) (name : String)
  /-- the tables on the way to a list of tables, and its name -/
  | row (path : List String) (name : String)
  /-- a value for a dotted key of the table opened last -/
  | assign (key : List String) (v : ConfigValue)
deriving Inhabited

/-- A document as far as it has been read: its fields, and the path of the table opened last. -/
structure Document where
  /-- what has a name -/
  fields : Fields
  /-- where assignments go -/
  current : List String
deriving Inhabited

namespace Document

/-- The document of no statement. -/
def empty : Document := ⟨[], []⟩

/-- Take one more statement. -/
def add (d : Document) : Statement → Option Document
  | .header path name =>
    (within (openTable name) d.fields path).map fun fs => ⟨fs, path ++ [name]⟩
  | .row path name => (within (openRow name) d.fields path).map fun fs => ⟨fs, path ++ [name]⟩
  | .assign key v =>
    (within (fun fs => Toml.assign fs v key) d.fields d.current).map fun fs => { d with fields := fs }

/-- The settings of a list of statements, if each of them may stand where it does. -/
def settings? (statements : List Statement) : Option ConfigValue.Fields :=
  (statements.foldlM add empty).map fun d => fieldValues d.fields

end Document

end PageCache.Toml
