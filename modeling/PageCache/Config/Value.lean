import PageCache.Config.Path
import PageCache.Decimal

/-!
# Trees of settings

What a source of settings holds, whatever its format: plain values, lists of values, and tables that
give names to values. Sources are laid over one another by `layer`:

* a plain value or a list replaces what its name had before;
* a table is merged into the table its name had before, name by name.
-/

namespace PageCache

/-- A value of a setting. -/
inductive ConfigValue where
  /-- nothing -/
  | null
  | bool (b : Bool)
  | int (n : Int)
  | float (x : Binary)
  | text (s : String)
  /-- a date, a time of day or both, as its text -/
  | time (s : String)
  | list (items : List ConfigValue)
  /-- values by name, each name once -/
  | table (fields : List (String × ConfigValue))
deriving Inhabited

namespace ConfigValue

/-- Values by name. -/
abbrev Fields := List (String × ConfigValue)

namespace Fields

/-- The value of a name. -/
def get? (fields : Fields) (name : String) : Option ConfigValue := fields.lookup name

/-- Put a value in the place of a name. -/
def replace (fields : Fields) (name : String) (v : ConfigValue) : Fields :=
  match fields with
  | [] => [(name, v)]
  | f :: rest => if f.1 = name then (name, v) :: rest else f :: replace rest name v

/-- **Replacing.** The value is seen under its own name and nowhere else. -/
@[simp] theorem get?_replace (fields : Fields) (name other : String) (v : ConfigValue) :
    (fields.replace name v).get? other = if other = name then some v else fields.get? other := by
  induction fields with
  | nil => grind [replace, get?]
  | cons f rest ih =>
    obtain ⟨key, value⟩ := f
    by_cases hk : key = name <;> grind [replace, get?]

end Fields

/-- The fields of a table; a value of another kind has none. -/
def fields : ConfigValue → Fields
  | table fs => fs
  | _ => []

mutual

/-- A value laid over the one its name had before. -/
def overlay (before : ConfigValue) : ConfigValue → ConfigValue
  | table fs => table (overlayAll before.fields fs)
  | v => v

/-- Fields laid over others, one after another. -/
def overlayAll (before : Fields) : List (String × ConfigValue) → Fields
  | [] => before
  | (name, v) :: rest =>
    overlayAll (before.replace name (overlay ((before.get? name).getD .null) v)) rest

end

/-- The items of a list; a value of another kind has none. -/
def items : ConfigValue → List ConfigValue
  | list vs => vs
  | _ => []

/-- Items with a change made at a position. Where the position lies beyond either end, nulls are put
in between. -/
def changeAt (items : List ConfigValue) (position : Int) (change : ConfigValue → ConfigValue) :
    List ConfigValue :=
  let nulls (n : Nat) : List ConfigValue := List.replicate n null
  let (items, position) :=
    if 0 ≤ position then (items ++ nulls (position.toNat + 1 - items.length), position.toNat)
    else
      let missing := (-position).toNat - items.length
      (nulls missing ++ items, items.length + missing - (-position).toNat)
  items.modify position change

/-- The value with another laid over what is at the end of a path. What is no table is given up where
the path goes on by a name, what is no list where it goes on by a position. -/
def setAt (before : ConfigValue) (v : ConfigValue) : List SettingStep → ConfigValue
  | [] => overlay before v
  | .name name :: path =>
    let fields := before.fields
    table (fields.replace name (setAt ((fields.get? name).getD null) v path))
  | .position n :: path => list (changeAt before.items n fun item => setAt item v path)

/-- Settings laid over others, each at the path that its name is. -/
def layer (before : Fields) (settings : Fields) : Fields :=
  settings.foldl (fun acc f => ((table acc).setAt f.2 (settingPath f.1)).fields) before

end ConfigValue

end PageCache
