import PageCache.Files.Program
import PageCache.Settings.Reading
import PageCache.SortedMap
import PageCache.Text.Utf8
import PageCache.Toml.Parser

/-!
# Sources of settings

Settings come from several sources, each laid over those before it:

1. the file `config/default`, if there is one;
2. the file `render-cache`, if there is one;
3. the file that was asked for, which has to be there;
4. the environment;
5. what is set for this run only.

A file is TOML or JSON, as the ending of its name says. A name that is not that of a file is
completed by each of the two endings.

Four more formats are left out: YAML, INI, RON and JSON5, which a loader of settings commonly reads as
well. A file with an ending of theirs counts as one whose name does not tell its format, and a name is
not completed by them.
-/

namespace PageCache

/-- The variables of the environment. -/
abbrev Environment := SortedMap String String

namespace Environment

/-- What the name of a variable that holds a setting starts with. -/
def mark : String := "render_cache__"

/-- The small letter of a letter, as far as it is one of ASCII: that of the Kelvin sign is too. -/
def small (c : Char) : Char := if c = '\u212a' then 'k' else c.toLower

/-- The path of the setting that a variable holds; the case of its letters does not matter. -/
def settingName? (name : String) : Option String :=
  let name := name.map small
  if name.startsWith mark then some ((name.drop mark.length).toString.replace "__" ".") else none

/-- The settings in the environment. -/
def settings (e : Environment) : ConfigValue.Fields :=
  e.toList.filterMap fun v => (settingName? v.1).map fun name => (name, .text v.2)

end Environment

/-- The format of a file of settings. -/
inductive SettingsFormat where
  | toml | json
deriving DecidableEq, Inhabited

namespace SettingsFormat

/-- The ending of the names of such files. -/
def ending : SettingsFormat → String
  | toml => "toml"
  | json => "json"

/-- All formats, in the order in which a name is completed by their endings. A loader that keeps its
formats in a hash map has no order of its own, and takes either file where both are there. -/
def all : List SettingsFormat := [toml, json]

/-- The format that a file's name tells by what follows its last point. -/
def ofName? (name : String) : Option SettingsFormat :=
  let ending := (name.toList.reverse.takeWhile (· ≠ '.')).reverse
  if ending.length + 1 < name.length then
    all.find? fun f => f.ending = String.ofList ending
  else none

/-- The settings in a text of the format. -/
def parse (f : SettingsFormat) (text : String) : Option ConfigValue.Fields :=
  match f with
  | toml => Toml.parse text
  | json =>
    match (Json.parse text).bind ConfigValue.ofJson with
    | some (.table fs) => some fs
    | _ => none

end SettingsFormat

/-- What is known of a file of settings. -/
inductive SettingsFile where
  /-- there is none -/
  | missing
  /-- its name does not tell its format -/
  | unknownFormat
  /-- it is there -/
  | found (p : Path) (format : SettingsFormat)

namespace SettingsFile

/-- Whether a name has an ending: a point in it other than at its start. -/
def hasEnding (name : String) : Bool := (name.drop 1).contains '.'

/-- A path with one more ending. A name that has an ending already is told apart from the text behind
it, slashes and all, to which the ending is then added; what ends with a slash gets a name of its own
first, since the name of a file cannot be the ending alone. -/
def completed (p : Path) (f : SettingsFormat) : Path :=
  match p.fileName? with
  | none => p
  | some name =>
    if hasEnding name then
      let last := match p.parts.getLast? with
        | none | some "" => ".placeholder"
        | some part => part
      ⟨p.parts.dropLast ++ [last ++ "." ++ f.ending]⟩
    else p.parent.child (name ++ "." ++ f.ending)

/-- Whether a path leads to a file. -/
def exists? (p : Path) : FileProgram Bool := do
  match ← FileProgram.perform (.isFile p) with
  | .ok b => return b
  | .error _ => return false

/-- The first of some formats by whose ending the name of a file is completed. -/
def findCompleted (p : Path) : List SettingsFormat → FileProgram SettingsFile
  | [] => return .missing
  | f :: rest => do
    if ← exists? (completed p f) then return .found (completed p f) f
    else findCompleted p rest

/-- The file of a name. -/
def find (name : String) : FileProgram SettingsFile := do
  let p := Path.ofText name
  if ← exists? p then
    match p.fileName?.bind SettingsFormat.ofName? with
    | some f => return .found p f
    | none => return .unknownFormat
  else findCompleted p SettingsFormat.all

/-- The text of a file, without the mark of its encoding. -/
def textOf (bytes : ByteArray) : String :=
  let text := Utf8.textOf bytes
  if text.startsWith "\ufeff" then (text.drop 1).toString else text

/-- The settings in the file of a name. Only a file that has to be there may be missed; one that is
there has to be well-formed in any case. -/
def settings (name : String) (required : Bool) :
    FileProgram (Except LoadError ConfigValue.Fields) := do
  match ← find name with
  | .found p f =>
    match ← FileProgram.perform (.read p) with
    | .ok bytes =>
      match f.parse (textOf bytes) with
      | some fs => return .ok fs
      | none => return .error .unreadable
    | .error _ => return absent
  | _ => return absent
where
  /-- the answer where there is nothing to read -/
  absent : Except LoadError ConfigValue.Fields :=
    if required then .error .unreadable else .ok []

end SettingsFile

namespace Settings

/-- The settings of all sources: the named files in order with whether each is required, then the
environment, then the overrides. -/
def ofSources (files : List (Except LoadError ConfigValue.Fields)) (environment : Environment)
    (overrides : Overrides) : Except LoadError Settings := do
  let layers ← files.mapM id
  let fields := (layers ++ [environment.settings]).foldl ConfigValue.layer []
  match Draft.ofFields fields with
  | some draft => ofDraft (draft.override overrides)
  | none => throw .unreadable

/-- Load the settings. -/
def load (asked : Option String) (environment : Environment) (overrides : Overrides) :
    FileProgram (Except LoadError Settings) := do
  let common ← SettingsFile.settings "config/default" false
  let own ← SettingsFile.settings "render-cache" false
  let more ← match asked with
    | some name => do pure [← SettingsFile.settings name true]
    | none => pure []
  return ofSources ([common, own] ++ more) environment overrides

end Settings

end PageCache
