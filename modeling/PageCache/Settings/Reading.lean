import PageCache.Config.Value
import PageCache.Json.Parser
import PageCache.Settings

/-!
# Settings from a tree of values

Sources of settings differ in what kinds of values they can hold: the environment has texts only,
where a file has numbers and truth values. So a value is read loosely, as what its field wants:

* **number** — a whole number, a fraction rounded to the nearest (a half away from zero) and cut to
  the range, a truth value as one or zero, a text that is a number or a word for a truth value;
* **truth value** — also a number, true unless it is zero, and a word for a truth value;
* **text** — also a number, a truth value or a time, as its text;
* **table** — also a list, its values by position.
-/

namespace PageCache

namespace ConfigValue

/-- The words for true. -/
def trueWords : List String := ["true", "on", "yes"]

/-- The words for false. -/
def falseWords : List String := ["false", "off", "no"]

/-- The natural number of sixty-four bits that a value is read as. -/
def toNat? : ConfigValue → Option Nat
  | int n => if 0 ≤ n && n.toNat < 18446744073709551616 then some n.toNat else none
  | float x => some (x.clamp 18446744073709551615)
  | bool b => some b.toNat
  | text s =>
    let word := s.map Char.toLower
    if word ∈ trueWords then some 1
    else if word ∈ falseWords then some 0
    else natural? 18446744073709551616 s
  | null | time _ | list _ | table _ => none

/-- The truth value that a value is read as. -/
def toBool? : ConfigValue → Option Bool
  | int n => some (n ≠ 0)
  | float x => some x.isNonzero
  | bool b => some b
  | text s =>
    let word := s.map Char.toLower
    if word = "1" || word ∈ trueWords then some true
    else if word = "0" || word ∈ falseWords then some false
    else none
  | null | time _ | list _ | table _ => none

/-- The text that a value is read as. -/
def toText? : ConfigValue → Option String
  | int n => some (toString n)
  | float x => some x.text
  | bool b => some (toString b)
  | text s | time s => some s
  | null | list _ | table _ => none

/-- The value, or nothing where it is null. -/
def toOption? {α : Type} (read : ConfigValue → Option α) : ConfigValue → Option (Option α)
  | null => some none
  | v => (read v).map some

/-- The values of some fields, those that are set: by name from a table, by position from a list. -/
def select (names : List String) : ConfigValue → Option (List (Option ConfigValue))
  | table fs => some (names.map fun name => fs.lookup name)
  | list items =>
    let items := items.take names.length
    some (items.map some ++ List.replicate (names.length - items.length) none)
  | _ => none

mutual

/-- A JSON value as a setting. A number is whole if it is written so and fits sixty-four bits, with a
sign or without; one beyond all finite values is refused. -/
def ofJson : Json → Option ConfigValue
  | .null => some .null
  | .bool b => some (.bool b)
  | .str s => some (.text s)
  | .num n =>
    match n.int?, n.nat? 18446744073709551616 with
    | some i, _ => some (.int i)
    | none, some n => some (.int n)
    | none, none =>
      match n.decimal.toBinaryRoughly with
      | .finite s m e => some (.float (.finite s m e))
      | _ => none
  | .arr items => (ofItems items).map .list
  | .obj fields => (ofFields fields).map fun fs => .table fs

/-- Items as settings. -/
def ofItems : List Json → Option (List ConfigValue)
  | [] => some []
  | v :: rest =>
    match ofJson v, ofItems rest with
    | some v, some vs => some (v :: vs)
    | _, _ => none

/-- Fields as settings; of those with the same name the last counts. -/
def ofFields : List (String × Json) → Option (List (String × ConfigValue))
  | [] => some []
  | (name, v) :: rest =>
    match ofJson v, ofFields rest with
    | some v, some fs =>
      some (if fs.any fun f => f.1 = name then fs else (name, v) :: fs)
    | _, _ => none

end

end ConfigValue

/-- The backend that a value is read as: its word, or the word as the one name in a table. -/
def StoreBackend.ofValue : ConfigValue → Option StoreBackend
  | .text name => ofName? name
  | .table [(name, _)] => ofName? name
  | _ => none

/-- The configuration that a value is read as. -/
def CacheConfig.ofValue (v : ConfigValue) : Option CacheConfig := do
  let d := default
  match ← v.select fieldNames with
  | [backend, grace, timeout, capacity, directory] =>
    return {
      backend := ← CacheConfig.orDefault backend d.backend StoreBackend.ofValue
      staleGraceSeconds :=
        ← CacheConfig.orDefault grace d.staleGraceSeconds (ConfigValue.toOption? (·.toNat?))
      renderTimeoutMs := ← CacheConfig.orDefault timeout d.renderTimeoutMs (·.toNat?)
      memoryCapacity := ← CacheConfig.orDefault capacity d.memoryCapacity (·.toNat?)
      directory := ← CacheConfig.orDefault directory d.directory (·.toText?) }
  | _ => none

/-- The logging part of a draft: the text of the level, and whether to log JSON. -/
def Draft.loggingOfValue (v : ConfigValue) : Option (Option String × Option Bool) := do
  match ← v.select ["level", "json"] with
  | [level, json] =>
    return (← CacheConfig.orDefault level none (ConfigValue.toOption? (·.toText?)),
      ← CacheConfig.orDefault json none (ConfigValue.toOption? (·.toBool?)))
  | _ => none

/-- The draft of some settings. -/
def Draft.ofFields (fields : ConfigValue.Fields) : Option Draft := do
  let cache ← CacheConfig.orDefault (fields.lookup "cache") CacheConfig.default CacheConfig.ofValue
  let (level, json) ←
    CacheConfig.orDefault (fields.lookup "logging") (none, none) Draft.loggingOfValue
  return ⟨cache, level, json⟩

end PageCache
