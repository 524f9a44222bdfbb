import PageCache.Proofs.Command.Asked
import PageCache.Proofs.Json.RoundTrip
import PageCache.Proofs.Text.Encoded

/-!
# Files of settings that are found

A file of settings is looked for under its name as it is, and then under the name completed by the
ending of each format. The first that is there is read:

* `find_of_isFile`, `find_completed` — which file is found;
* `settings_of_found` — what is in it is what its format says;
* `SettingsFormat.parse_json` — an object that is written is read as the settings of its fields;
* `settings_completed` — so these are the settings of a name where only its JSON file is there.
-/

namespace PageCache

open FileProgram

variable {fields : List (String × Json)} {fs : ConfigValue.Fields}

/-- An object that is written to a file gives settings. -/
structure Json.Gives (fields : List (String × Json)) (fs : ConfigValue.Fields) : Prop where
  /-- it can be read back -/
  writable : Writable depthLimit (.obj fields)
  /-- the settings are those of its fields -/
  settings : ConfigValue.ofFields fields = some fs

/-- **An object** that is written to a file is read as the settings that it gives. -/
theorem SettingsFormat.parse_json (h : Json.Gives fields fs) :
    json.parse (SettingsFile.textOf (Json.obj fields).toBytes) = some fs := by
  have hmark : (Json.obj fields).compact.startsWith "\ufeff" = false := by
    have htoList : (Json.obj fields).compact.toList = '{' :: _ := String.toList_ofList
    rw [String.startsWith_string_eq_false_iff, htoList]
    exact fun hprefix => absurd (List.cons_prefix_cons.mp hprefix).1 (by decide)
  have htext : SettingsFile.textOf (Json.obj fields).toBytes = (Json.obj fields).compact := by
    simp only [SettingsFile.textOf, Json.toBytes, Utf8.textOf_toUTF8, hmark, Bool.false_eq_true,
      if_false]
  have hparse : Json.parse (Json.obj fields).compact = some (.obj fields) :=
    Json.ofBytes_toBytes h.writable
  simp only [parse, htext, hparse, Option.bind_some, ConfigValue.ofJson, h.settings, Option.map_some]

/-- What can be read is a file. -/
theorem FileTree.isFile_of_read {t : FileTree} {p : Path} {bytes : ByteArray}
    (h : t.read p = .ok bytes) : t.isFile p = true := by
  obtain ⟨l, hl⟩ := read_eq_ok_iff.mp h
  exact isFile_iff.mpr ⟨l, bytes, hl⟩

namespace SettingsFile

variable {t : FileTree} {p : Path} {name : String} {f : SettingsFormat} {bytes : ByteArray}
  {required : Bool}

theorem exists?_run (p : Path) (t : FileTree) : (exists? p).run t = (t.isFile p, t) := rfl

/-- A file of the name as it is. -/
theorem find_of_isFile (h : t.isFile (.ofText name) = true)
    (hf : (Path.ofText name).fileName?.bind SettingsFormat.ofName? = some f) :
    (find name).run t = (.found (.ofText name) f, t) := by
  rw [find, run_bind, exists?_run, h, if_pos rfl]
  dsimp only
  rw [hf]
  rfl

/-- A file of the name completed by an ending, if there is none of the name as it is. -/
theorem find_completed (h : t.isFile (.ofText name) = false) :
    (find name).run t = if t.isFile (completed (.ofText name) .toml) then
        (.found (completed (.ofText name) .toml) .toml, t)
      else if t.isFile (completed (.ofText name) .json) then
        (.found (completed (.ofText name) .json) .json, t)
      else (.missing, t) := by
  have hcompleted (p : Path) (f : SettingsFormat) (rest : List SettingsFormat) :
      (findCompleted p (f :: rest)).run t =
        if t.isFile (completed p f) then (.found (completed p f) f, t)
        else (findCompleted p rest).run t := by
    rw [findCompleted, run_bind, exists?_run]
    cases t.isFile (completed p f) <;> rfl
  rw [find, run_bind, exists?_run, h, if_neg Bool.false_ne_true]
  dsimp only
  rw [SettingsFormat.all, hcompleted, hcompleted]
  rfl

/-- **The settings of a file** that is found are what its format says. -/
theorem settings_of_found (hfind : (find name).run t = (.found p f, t))
    (hread : t.read p = .ok bytes) :
    (settings name required).run t = ((match f.parse (textOf bytes) with
      | some fs => .ok fs
      | none => .error .unreadable), t) := by
  have hperform : (perform (.read p)).run t = (.ok bytes, t) := Prod.ext hread rfl
  rw [settings, run_bind, hfind]
  dsimp only
  rw [run_bind, hperform]
  dsimp only
  cases f.parse (textOf bytes) <;> rfl

/-- A JSON file that is found has the settings that its object gives. -/
theorem settings_json (h : Json.Gives fields fs) (hfind : (find name).run t = (.found p .json, t))
    (hread : t.read p = .ok (Json.obj fields).toBytes) :
    (settings name required).run t = (.ok fs, t) := by
  rw [settings_of_found hfind hread, SettingsFormat.parse_json h]

/-- **A name** of which there is a JSON file alone has the settings in it. -/
theorem settings_completed (h : Json.Gives fields fs) (hname : t.isFile (.ofText name) = false)
    (htoml : t.isFile (completed (.ofText name) .toml) = false)
    (hread : t.read (completed (.ofText name) .json) = .ok (Json.obj fields).toBytes) :
    (settings name required).run t = (.ok fs, t) := by
  refine settings_json h ?_ hread
  rw [find_completed hname, htoml, if_neg Bool.false_ne_true, if_pos (FileTree.isFile_of_read hread)]

end SettingsFile

end PageCache
