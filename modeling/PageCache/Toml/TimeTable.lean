import PageCache.Toml.Scalar

/-!
# Tables that write times

A document may write a time as a table with one reserved name, whose value is a string. Such a table
is known by its first name in the order of names:

* **time** — if the reserved name is the first, the table is the time that its string writes, and
  its other fields do not count; a string that writes no time, or another value, is an error;
* **table** — in any other table the reserved name is a name like all others.
-/

namespace PageCache.Toml

/-- The reserved name. -/
def timeName : String := "$__toml_private_datetime"

/-- The value of the reserved name in a table that writes a time. -/
def timeField? (fields : ConfigValue.Fields) : Option ConfigValue :=
  if fields.any fun f => f.1 < timeName then none else fields.lookup timeName

/-- The time that the value of the reserved name writes. -/
def timeOf? : ConfigValue → Option ConfigValue
  | .text s => (moment? s.toList).map .time
  | _ => none

mutual

/-- A value with times in the place of the tables that write them. -/
def withTimes : ConfigValue → Option ConfigValue
  | .list items => (itemsWithTimes items).map .list
  | .table fields =>
    match timeField? fields with
    | some v => timeOf? v
    | none => (fieldsWithTimes fields).map .table
  | v => some v

/-- Items with times in the place of the tables that write them. -/
def itemsWithTimes : List ConfigValue → Option (List ConfigValue)
  | [] => some []
  | v :: rest =>
    match withTimes v, itemsWithTimes rest with
    | some v, some vs => some (v :: vs)
    | _, _ => none

/-- Fields with times in the place of the tables that write them. -/
def fieldsWithTimes : List (String × ConfigValue) → Option (List (String × ConfigValue))
  | [] => some []
  | (name, v) :: rest =>
    match withTimes v, fieldsWithTimes rest with
    | some v, some fs => some ((name, v) :: fs)
    | _, _ => none

end

end PageCache.Toml
