import PageCache.Proofs.Settings.Files
import PageCache.Proofs.Settings.Layers

/-!
# Sources decide key by key

Settings are read from what is merged from all sources, and checked when the overrides are in place.
Nothing of this shows in what comes out: each key goes by the last source that sets it.

* `CacheConfig.ReadFrom`, `Draft.ReadFrom` — each part of a draft is read from the value of a key of
  its own;
* `Draft.ReadFrom.of_merge` — a draft that is read from the merged settings is read from what the
  last source says of each key;
* `Draft.ReadFrom.override` — the overrides count as one more source;
* `Draft.Refused`, `ofDraft_eq_invalid_iff` — a draft is refused exactly if one of three keys has to
  be, for the first of them;
* `decided_by_last_source` — so much of all that is loaded.
-/

namespace PageCache

open ConfigValue

/-! ## What drafts are read from -/

/-- Each part of the configuration is read from the value of its own key, or is the default where the
key has none. -/
structure CacheConfig.ReadFrom (c : CacheConfig) (value : String → Option ConfigValue) : Prop where
  /-- the backend -/
  backend : orDefault (value "backend") default.backend StoreBackend.ofValue = some c.backend
  /-- the grace window -/
  staleGrace : orDefault (value "stale_grace_seconds") default.staleGraceSeconds
    (toOption? toNat?) = some c.staleGraceSeconds
  /-- the time of a render -/
  renderTimeout : orDefault (value "render_timeout_ms") default.renderTimeoutMs toNat? =
    some c.renderTimeoutMs
  /-- the room in memory -/
  capacity : orDefault (value "memory_capacity") default.memoryCapacity toNat? =
    some c.memoryCapacity
  /-- the folder -/
  directory : orDefault (value "directory") default.directory toText? = some c.directory

/-- Each part of the draft is read from the value of its own key. -/
structure Draft.ReadFrom (d : Draft) (value : String → String → Option ConfigValue) : Prop where
  /-- the configuration of the cache -/
  cache : d.cache.ReadFrom (value "cache")
  /-- the log level -/
  level : CacheConfig.orDefault (value "logging" "level") none (toOption? toText?) = some d.level
  /-- the log format -/
  json : CacheConfig.orDefault (value "logging" "json") none (toOption? toBool?) = some d.json

instance (c : CacheConfig) (value : String → Option ConfigValue) : Decidable (c.ReadFrom value) :=
  decidable_of_iff
    (CacheConfig.orDefault (value "backend") CacheConfig.default.backend StoreBackend.ofValue =
        some c.backend ∧
      CacheConfig.orDefault (value "stale_grace_seconds") CacheConfig.default.staleGraceSeconds
        (toOption? toNat?) = some c.staleGraceSeconds ∧
      CacheConfig.orDefault (value "render_timeout_ms") CacheConfig.default.renderTimeoutMs
        toNat? = some c.renderTimeoutMs ∧
      CacheConfig.orDefault (value "memory_capacity") CacheConfig.default.memoryCapacity toNat? =
        some c.memoryCapacity ∧
      CacheConfig.orDefault (value "directory") CacheConfig.default.directory toText? =
        some c.directory)
    ⟨fun ⟨h₁, h₂, h₃, h₄, h₅⟩ => ⟨h₁, h₂, h₃, h₄, h₅⟩,
      fun ⟨h₁, h₂, h₃, h₄, h₅⟩ => ⟨h₁, h₂, h₃, h₄, h₅⟩⟩

instance (d : Draft) (value : String → String → Option ConfigValue) : Decidable (d.ReadFrom value) :=
  decidable_of_iff
    (d.cache.ReadFrom (value "cache") ∧
      CacheConfig.orDefault (value "logging" "level") none (toOption? toText?) = some d.level ∧
      CacheConfig.orDefault (value "logging" "json") none (toOption? toBool?) = some d.json)
    ⟨fun ⟨h₁, h₂, h₃⟩ => ⟨h₁, h₂, h₃⟩, fun ⟨h₁, h₂, h₃⟩ => ⟨h₁, h₂, h₃⟩⟩

/-- The values decide about the configuration. -/
theorem CacheConfig.ReadFrom.unique {c c' : CacheConfig} {value : String → Option ConfigValue}
    (h : c.ReadFrom value) (h' : c'.ReadFrom value) : c = c' := by
  obtain ⟨_, _, _, _, _⟩ := c
  obtain ⟨_, _, _, _, _⟩ := c'
  obtain rfl := Option.some.inj (h.backend.symm.trans h'.backend)
  obtain rfl := Option.some.inj (h.staleGrace.symm.trans h'.staleGrace)
  obtain rfl := Option.some.inj (h.renderTimeout.symm.trans h'.renderTimeout)
  obtain rfl := Option.some.inj (h.capacity.symm.trans h'.capacity)
  obtain rfl := Option.some.inj (h.directory.symm.trans h'.directory)
  rfl

/-- **The values decide** about the draft. -/
theorem Draft.ReadFrom.unique {d d' : Draft} {value : String → String → Option ConfigValue}
    (h : d.ReadFrom value) (h' : d'.ReadFrom value) : d = d' := by
  obtain ⟨_, _, _⟩ := d
  obtain ⟨_, _, _⟩ := d'
  obtain rfl := h.cache.unique h'.cache
  obtain rfl := Option.some.inj (h.level.symm.trans h'.level)
  obtain rfl := Option.some.inj (h.json.symm.trans h'.json)
  rfl

variable {fields : Fields}

/-- The configuration in a table. -/
theorem CacheConfig.ofValue_table_eq_some_iff {fs : Fields} {c : CacheConfig} :
    ofValue (.table fs) = some c ↔ c.ReadFrom fs.get? := by
  obtain ⟨backend, grace, timeout, capacity, directory⟩ := c
  have hselect : select fieldNames (.table fs) = some [fs.get? "backend",
    fs.get? "stale_grace_seconds", fs.get? "render_timeout_ms", fs.get? "memory_capacity",
    fs.get? "directory"] := rfl
  simp only [ofValue, hselect, Option.bind_eq_bind, Option.bind_some, Option.pure_def]
  constructor
  · intro h
    simp only [Option.bind_eq_some_iff, Option.some.injEq, CacheConfig.mk.injEq] at h
    obtain ⟨_, h₁, _, h₂, _, h₃, _, h₄, _, h₅, rfl, rfl, rfl, rfl, rfl⟩ := h
    exact ⟨h₁, h₂, h₃, h₄, h₅⟩
  · rintro ⟨h₁, h₂, h₃, h₄, h₅⟩
    simp only [h₁, h₂, h₃, h₄, h₅, Option.bind_some]

/-- The configuration under its heading, the default one if there is none. -/
theorem CacheConfig.read_iff (h : fields.HasTable "cache") {c : CacheConfig} :
    orDefault (fields.get? "cache") default ofValue = some c ↔ c.ReadFrom (fields.at? "cache") := by
  unfold Fields.at? Fields.under
  cases hc : fields.get? "cache" with
  | none =>
    obtain ⟨backend, grace, timeout, capacity, directory⟩ := c
    constructor
    · rintro ⟨⟩
      exact ⟨rfl, rfl, rfl, rfl, rfl⟩
    · rintro ⟨⟨⟩, ⟨⟩, ⟨⟩, ⟨⟩, ⟨⟩⟩
      rfl
  | some v =>
    obtain ⟨fs, rfl⟩ := h v hc
    exact ofValue_table_eq_some_iff

/-- The logging part under its heading. -/
theorem Draft.logging_read_iff (h : fields.HasTable "logging") {level : Option String}
    {json : Option Bool} :
    CacheConfig.orDefault (fields.get? "logging") (none, none) loggingOfValue =
        some (level, json) ↔
      CacheConfig.orDefault (fields.at? "logging" "level") none (toOption? toText?) = some level ∧
      CacheConfig.orDefault (fields.at? "logging" "json") none (toOption? toBool?) = some json := by
  unfold Fields.at? Fields.under
  cases hl : fields.get? "logging" with
  | none =>
    constructor
    · rintro ⟨⟩
      exact ⟨rfl, rfl⟩
    · rintro ⟨⟨⟩, ⟨⟩⟩
      rfl
  | some v =>
    obtain ⟨fs, rfl⟩ : ∃ fs : Fields, v = .table fs := h v hl
    have hselect : select ["level", "json"] (.table fs) =
      some [fs.get? "level", fs.get? "json"] := rfl
    show loggingOfValue (.table fs) = _ ↔ _
    simp only [loggingOfValue, hselect, Option.bind_eq_bind, Option.bind_some, Option.pure_def,
      Option.bind_eq_some_iff, Option.some.injEq, Prod.mk.injEq, Option.getD_some, fields_table]
    constructor
    · rintro ⟨_, h₁, _, h₂, rfl, rfl⟩
      exact ⟨h₁, h₂⟩
    · rintro ⟨h₁, h₂⟩
      exact ⟨_, h₁, _, h₂, rfl, rfl⟩

/-- **A draft** of settings whose headings have tables is read key by key. -/
theorem Draft.ofFields_eq_some_iff (hc : fields.HasTable "cache") (hl : fields.HasTable "logging")
    {d : Draft} : ofFields fields = some d ↔ d.ReadFrom fields.at? := by
  have hof : ofFields fields =
      (CacheConfig.orDefault (fields.get? "cache") .default CacheConfig.ofValue).bind fun cache =>
        (CacheConfig.orDefault (fields.get? "logging") (none, none) loggingOfValue).bind fun log =>
          some ⟨cache, log.1, log.2⟩ := rfl
  obtain ⟨cache, level, json⟩ := d
  simp only [hof, Option.bind_eq_some_iff, Option.some.injEq, Draft.mk.injEq, Prod.exists]
  constructor
  · rintro ⟨_, hcache, _, _, hlogging, rfl, rfl, rfl⟩
    obtain ⟨hlevel, hjson⟩ := (logging_read_iff hl).mp hlogging
    exact ⟨(CacheConfig.read_iff hc).mp hcache, hlevel, hjson⟩
  · rintro ⟨hcache, hlevel, hjson⟩
    exact ⟨_, (CacheConfig.read_iff hc).mpr hcache, _, _,
      (logging_read_iff hl).mpr ⟨hlevel, hjson⟩, rfl, rfl, rfl⟩

/-! ## All readings are steady -/

theorem steady_backend : Steady StoreBackend.ofValue where
  table fs b h := by
    cases fs with
    | nil => cases h
    | cons f rest =>
      cases rest with
      | nil => exact ⟨f.1, ⟨f.2, rfl⟩, fun _ => h⟩
      | cons g rest => cases h
  list _ := rfl

theorem steady_toNat : Steady toNat? := steady_of_plain (fun _ => rfl) fun _ => rfl

theorem steady_toText : Steady toText? := steady_of_plain (fun _ => rfl) fun _ => rfl

theorem steady_optional {α : Type} {read : ConfigValue → Option α}
    (htable : ∀ fs, read (.table fs) = none) (hlist : ∀ vs, read (.list vs) = none) :
    Steady (toOption? read) :=
  steady_of_plain (fun fs => by simp [toOption?, htable]) fun vs => by simp [toOption?, hlist]

/-- The settings of a source keep to the tables of both headings. -/
def KeepsTables (source : Fields) : Prop :=
  ∀ f ∈ source, KeepsTable "cache" f ∧ KeepsTable "logging" f

/-- **Keys are decided one by one.** A draft that is read from all sources together is read, for each
key, from what the last source says that sets the key. -/
theorem Draft.ReadFrom.of_merge {sources : List Fields} {d : Draft}
    (hs : ∀ source ∈ sources, KeepsTables source) (h : d.ReadFrom (merge sources).at?) :
    d.ReadFrom (lastSaid sources) := by
  have hcache : ∀ source ∈ sources, ∀ f ∈ source, KeepsTable "cache" f :=
    fun source hsource f hf => (hs source hsource f hf).1
  have hlogging : ∀ source ∈ sources, ∀ f ∈ source, KeepsTable "logging" f :=
    fun source hsource f hf => (hs source hsource f hf).2
  exact {
    cache := {
      backend := steady_backend.read_merge hcache h.cache.backend
      staleGrace := (steady_optional (fun _ => rfl) fun _ => rfl).read_merge hcache
        h.cache.staleGrace
      renderTimeout := steady_toNat.read_merge hcache h.cache.renderTimeout
      capacity := steady_toNat.read_merge hcache h.cache.capacity
      directory := steady_toText.read_merge hcache h.cache.directory }
    level := (steady_optional (fun _ => rfl) fun _ => rfl).read_merge hlogging h.level
    json := (steady_optional (fun _ => rfl) fun _ => rfl).read_merge hlogging h.json }

/-! ## Overrides are the last source -/

/-- A setting, if there is a value for it. -/
def ConfigValue.Fields.ofOption (name : String) (v : Option ConfigValue) : Fields :=
  (v.map fun v => (name, v)).toList

/-- What is set for one run only, as settings. -/
def Overrides.settings (o : Overrides) : Fields :=
  .ofOption "cache.directory" (o.directory.map .text) ++
    .ofOption "logging.level" (o.level.map .text) ++ .ofOption "logging.json" (o.json.map .bool)

/-- A source that sets one key more, by its path, says this of the key. -/
theorem ConfigValue.says?_append_ofOption {text heading key : String}
    (h : settingPath text = [.name heading, .name key]) {v : Option ConfigValue}
    (hv : ∀ w ∈ v, ∀ fs, w ≠ .table fs) (source : Fields) (heading' key' : String) :
    (source ++ .ofOption text v).says? heading' key' =
      if heading' = heading ∧ key' = key then v.or (source.says? heading' key')
      else source.says? heading' key' := by
  cases v with
  | none => simp [Fields.ofOption]
  | some w =>
    have hplain (before : ConfigValue) : before.overlay w = w := by
      cases w with
      | table fs => exact absurd rfl (hv _ rfl fs)
      | _ => rfl
    have hsets : sets w = true := by
      unfold sets
      split
      · exact absurd rfl (hv _ rfl [])
      · rfl
    have hlayer : layer [] (source ++ [(text, w)]) = laySetting (layer [] source) (text, w) := by
      simp [layer_eq]
    show ((layer [] (source ++ [(text, w)])).at? heading' key').filter sets = _
    rw [hlayer, Fields.at?, laySetting_of_path (f := (text, w)) h, under_replace]
    by_cases hh : heading' = heading
    · subst hh
      by_cases hk : key' = key
      · simp [hk, setAt, hplain, hsets]
      · simp [hk, setAt, Fields.says?, Fields.at?, Fields.under]
    · rw [if_neg hh, if_neg fun h => hh h.1]
      rfl

/-- What the overrides say. -/
theorem Overrides.says_settings (o : Overrides) (heading key : String) :
    o.settings.says? heading key =
      if heading = "cache" ∧ key = "directory" then o.directory.map .text
      else if heading = "logging" ∧ key = "level" then o.level.map .text
      else if heading = "logging" ∧ key = "json" then o.json.map .bool
      else none := by
  have hdirectory : settingPath "cache.directory" = [.name "cache", .name "directory"] := by decide
  have hlevel : settingPath "logging.level" = [.name "logging", .name "level"] := by decide
  have hjson : settingPath "logging.json" = [.name "logging", .name "json"] := by decide
  have hstart : Fields.says? [] heading key = none := rfl
  have hbool : ∀ w ∈ o.json.map ConfigValue.bool, ∀ fs, w ≠ .table fs := by
    intro w hw
    obtain ⟨b, -, rfl⟩ := Option.mem_map.mp hw
    nofun
  rw [settings, says?_append_ofOption hjson hbool, says?_append_ofOption hlevel (by simp),
    ← List.nil_append (Fields.ofOption _ _), says?_append_ofOption hdirectory (by simp), hstart]
  grind

/-- **Overrides are the last source.** The draft with the overrides in place is read, for each key,
from what the last source says, of which the overrides are one. -/
theorem Draft.ReadFrom.override {sources : List Fields} {d : Draft}
    (h : d.ReadFrom (lastSaid sources)) (o : Overrides) :
    (d.override o).ReadFrom (lastSaid (sources ++ [o.settings])) := by
  have hcache (key : String) (hkey : key ≠ "directory") :
      lastSaid (sources ++ [o.settings]) "cache" key = lastSaid sources "cache" key := by
    rw [lastSaid_concat, o.says_settings]
    simp [hkey]
  refine ⟨⟨?_, ?_, ?_, ?_, ?_⟩, ?_, ?_⟩
  · rw [hcache _ (by decide)]
    exact h.cache.backend
  · rw [hcache _ (by decide)]
    exact h.cache.staleGrace
  · rw [hcache _ (by decide)]
    exact h.cache.renderTimeout
  · rw [hcache _ (by decide)]
    exact h.cache.capacity
  · rw [lastSaid_concat, o.says_settings]
    cases ho : o.directory with
    | none => simpa [Draft.override, ho] using h.cache.directory
    | some s => simp [Draft.override, ho, CacheConfig.orDefault, toText?]
  · rw [lastSaid_concat, o.says_settings]
    cases ho : o.level with
    | none => simpa [Draft.override, ho] using h.level
    | some s => simp [Draft.override, ho, CacheConfig.orDefault, toText?, toOption?]
  · rw [lastSaid_concat, o.says_settings]
    cases ho : o.json with
    | none => simpa [Draft.override, ho] using h.json
    | some b => simp [Draft.override, ho, CacheConfig.orDefault, toBool?, toOption?]

/-! ## Checks -/

/-- Why a draft is refused: the first of its keys with a value that no cache can work with. -/
inductive Draft.Refused (d : Draft) : String → String → Prop where
  /-- a render has no time -/
  | renderTimeout : d.cache.renderTimeoutMs = 0 →
      Refused d "cache.render_timeout_ms" "must be greater than zero"
  /-- the folder has no name -/
  | directory : d.cache.renderTimeoutMs ≠ 0 → d.cache.directory = "" →
      Refused d "cache.directory" "must not be empty"
  /-- the level is none -/
  | level {text : String} : d.cache.renderTimeoutMs ≠ 0 → d.cache.directory ≠ "" →
      d.level = some text → LogLevel.ofText? text = none →
      Refused d "logging.level" Settings.levelReason

/-- What becomes of a draft that is not refused. -/
structure Settings.Of (s : Settings) (d : Draft) : Prop where
  /-- the configuration is that of the draft -/
  cache : s.cache = d.cache
  /-- so is the level, which is that of information where none is set -/
  level : d.level = none ∧ s.level = .info ∨
    ∃ text, d.level = some text ∧ LogLevel.ofText? text = some s.level
  /-- JSON is logged only if that is set -/
  format : s.format = .json ↔ d.json = some true

/-- There is one thing only that can become of a draft. -/
theorem Settings.Of.unique {s s' : Settings} {d : Draft} (h : s.Of d) (h' : s'.Of d) : s = s' := by
  have hlevel : s.level = s'.level := by
    rcases h.level with ⟨hd, hs⟩ | ⟨text, hd, hs⟩ <;>
      rcases h'.level with ⟨hd', hs'⟩ | ⟨text', hd', hs'⟩
    · exact hs.trans hs'.symm
    · cases hd.symm.trans hd'
    · cases hd.symm.trans hd'
    · cases hd.symm.trans hd'
      exact Option.some.inj (hs.symm.trans hs')
  have hformat : s.format = .json ↔ s'.format = .json := h.format.trans h'.format.symm
  obtain ⟨cache, level, format⟩ := s
  obtain ⟨cache', level', format'⟩ := s'
  obtain rfl : cache = cache' := h.cache.trans h'.cache.symm
  obtain rfl : level = level' := hlevel
  cases format <;> cases format' <;> simp at hformat ⊢

namespace Settings

variable {d : Draft} {s : Settings}

/-- **A draft** is refused for the first key that has to be, or becomes settings. -/
theorem ofDraft_cases (d : Draft) :
    (∃ key reason, ofDraft d = .error (.invalid key reason) ∧ d.Refused key reason) ∨
      ∃ s, ofDraft d = .ok s ∧ s.Of d ∧ 0 < s.cache.renderTimeoutMs ∧ s.cache.directory ≠ "" := by
  unfold ofDraft
  by_cases htimeout : d.cache.renderTimeoutMs = 0
  · exact .inl ⟨_, _, if_pos htimeout, .renderTimeout htimeout⟩
  by_cases hdirectory : d.cache.directory = ""
  · rw [if_neg htimeout, if_pos (String.isEmpty_iff.mpr hdirectory)]
    exact .inl ⟨_, _, rfl, .directory htimeout hdirectory⟩
  rw [if_neg htimeout, if_neg (mt String.isEmpty_iff.mp hdirectory)]
  have hformat : (if d.json.getD false then LogFormat.json else .compact) = .json ↔
      d.json = some true := by
    cases hjson : d.json with
    | none => simp
    | some b => cases b <;> simp
  unfold levelOf
  cases hlevel : d.level with
  | none =>
    exact .inr ⟨_, rfl, ⟨rfl, .inl ⟨hlevel, rfl⟩, hformat⟩, Nat.pos_of_ne_zero htimeout, hdirectory⟩
  | some text =>
    dsimp only
    cases htext : LogLevel.ofText? text with
    | none => exact .inl ⟨_, _, rfl, .level htimeout hdirectory hlevel htext⟩
    | some level =>
      exact .inr ⟨_, rfl, ⟨rfl, .inr ⟨text, hlevel, htext⟩, hformat⟩,
        Nat.pos_of_ne_zero htimeout, hdirectory⟩

/-- A draft is refused exactly if it has to be. -/
theorem ofDraft_eq_invalid_iff {key reason : String} :
    ofDraft d = .error (.invalid key reason) ↔ d.Refused key reason := by
  constructor
  · intro h
    obtain ⟨key', reason', h', hrefused⟩ | ⟨s, h', -⟩ := ofDraft_cases d
    · cases h'.symm.trans h
      exact hrefused
    · cases h'.symm.trans h
  · intro h
    unfold ofDraft
    cases h with
    | renderTimeout htimeout => exact if_pos htimeout
    | directory htimeout hdirectory =>
      rw [if_neg htimeout, if_pos (String.isEmpty_iff.mpr hdirectory)]
    | level htimeout hdirectory hlevel htext =>
      rw [if_neg htimeout, if_neg (mt String.isEmpty_iff.mp hdirectory)]
      simp only [levelOf, hlevel, htext]
      rfl

/-- Settings are those of their draft, and a cache can work with them. -/
theorem of_ofDraft (h : ofDraft d = .ok s) :
    s.Of d ∧ 0 < s.cache.renderTimeoutMs ∧ s.cache.directory ≠ "" := by
  obtain ⟨key, reason, h', -⟩ | ⟨s', h', hs⟩ := ofDraft_cases d
  · cases h'.symm.trans h
  · cases h'.symm.trans h
    exact hs

/-! ## Loading -/

/-- What is read from the files of settings, in order. -/
def filesRead (asked : Option String) (t : FileTree) : List (Except LoadError Fields) :=
  ([("config/default", false), ("render-cache", false)] ++ asked.toList.map (·, true)).map
    fun f => ((SettingsFile.settings f.1 f.2).run t).1

variable {asked : Option String} {environment : Environment} {overrides : Overrides} {t : FileTree}

/-- To read settings changes nothing. -/
theorem settings_run (name : String) (required : Bool) (t : FileTree) :
    ((SettingsFile.settings name required).run t).2 = t := by
  obtain ⟨a, ha, -, -⟩ : FileProgram.Alike t t (SettingsFile.settings name required) fun _ => True :=
    SettingsFile.settings_alike fun q _ => .refl t q
  rw [ha]

/-- **Settings are loaded** from what is read from the files. -/
theorem load_eq (asked : Option String) (environment : Environment) (overrides : Overrides)
    (t : FileTree) : ((load asked environment overrides).run t).1 =
      ofSources (filesRead asked t) environment overrides := by
  cases asked <;> simp [load, filesRead, settings_run]

theorem ofSources_eq (files : List (Except LoadError Fields)) (environment : Environment)
    (overrides : Overrides) : ofSources files environment overrides =
      (files.mapM id).bind fun layers =>
        match Draft.ofFields (merge (layers ++ [environment.settings])) with
        | some draft => ofDraft (draft.override overrides)
        | none => .error .unreadable := rfl

/-- The draft that is read from all sources together decides. -/
theorem ofSources_ok (files : List Fields) (environment : Environment) (overrides : Overrides) :
    ofSources (files.map .ok) environment overrides =
      match Draft.ofFields (merge (files ++ [environment.settings])) with
      | some draft => ofDraft (draft.override overrides)
      | none => .error .unreadable := by
  have hlayers : (files.map Except.ok).mapM id = (.ok files : Except LoadError (List Fields)) := by
    induction files with
    | nil => rfl
    | cons fs rest ih => simp [List.mapM_cons, ih]
  rw [ofSources_eq, hlayers]
  rfl

/-- Whatever is loaded comes of a draft. -/
theorem exists_draft_of_load (h : ((load asked environment overrides).run t).1 = .ok s) :
    ∃ d, ofDraft d = .ok s := by
  rw [load_eq, ofSources_eq] at h
  cases hfiles : (filesRead asked t).mapM id with
  | error e =>
    rw [hfiles] at h
    cases h
  | ok files =>
    rw [hfiles] at h
    dsimp only [Except.bind] at h
    split at h
    · exact ⟨_, h⟩
    · cases h

/-- **The last source decides.** Let all sources keep to the tables of both headings. If all that is
merged from the files of settings and the environment can be read, then what is loaded comes of one
draft: each of its keys is read from what the last source says that sets the key, where the files come
first, the environment next and the overrides last, and has its default where none does. The draft is
refused exactly if a render has no time, the folder has no name or the log level is none, for the first
of these. If something that is merged cannot be read, nothing is loaded, whatever the overrides are.
And whatever is loaded, a cache can work with. -/
theorem decided_by_last_source (asked : Option String) (environment : Environment)
    (overrides : Overrides) (t : FileTree) :
    (∀ s, ((load asked environment overrides).run t).1 = .ok s →
      0 < s.cache.renderTimeoutMs ∧ s.cache.directory ≠ "") ∧
    ∀ files, filesRead asked t = files.map .ok →
      (∀ source ∈ files ++ [environment.settings], KeepsTables source) →
      ((∀ d : Draft, ¬ d.ReadFrom (merge (files ++ [environment.settings])).at?) →
        ((load asked environment overrides).run t).1 = .error .unreadable) ∧
      ((∃ d : Draft, d.ReadFrom (merge (files ++ [environment.settings])).at?) →
        ∃ d : Draft,
          d.ReadFrom (lastSaid (files ++ [environment.settings] ++ [overrides.settings])) ∧
          (∀ key reason, ((load asked environment overrides).run t).1 =
            .error (.invalid key reason) ↔ d.Refused key reason) ∧
          ((∀ key reason, ¬ d.Refused key reason) →
            ∃ s, ((load asked environment overrides).run t).1 = .ok s ∧ s.Of d)) := by
  refine ⟨fun s h => ?_, fun files hfiles hs => ⟨fun hnone => ?_, ?_⟩⟩
  · obtain ⟨d, hd⟩ := exists_draft_of_load h
    exact (of_ofDraft hd).2
  all_goals
    have hc : (merge (files ++ [environment.settings])).HasTable "cache" :=
      hasTable_merge fun source hsource f hf => (hs source hsource f hf).1
    have hl : (merge (files ++ [environment.settings])).HasTable "logging" :=
      hasTable_merge fun source hsource f hf => (hs source hsource f hf).2
    rw [load_eq, hfiles, ofSources_ok]
  · cases hd : Draft.ofFields (merge (files ++ [environment.settings])) with
    | none => rfl
    | some d => exact absurd ((Draft.ofFields_eq_some_iff hc hl).mp hd) (hnone d)
  · rintro ⟨d, hd⟩
    rw [(Draft.ofFields_eq_some_iff hc hl).mpr hd]
    refine ⟨d.override overrides, (hd.of_merge hs).override overrides,
      fun key reason => ofDraft_eq_invalid_iff, fun hnot => ?_⟩
    obtain ⟨key, reason, -, hrefused⟩ | ⟨s, hs, hof, -⟩ := ofDraft_cases (d.override overrides)
    · exact absurd hrefused (hnot key reason)
    · exact ⟨s, hs, hof⟩

/-! ## A site with three files -/

open FileTree

/-- A site with a file of settings at each place where they are looked for. The last is asked for as
`site.json`. -/
def siteTree (common own more : List (String × Json)) : FileTree :=
  ⟨[(["config"], .folder), (["config", "default.json"], .file (Json.obj common).toBytes),
    (["render-cache.json"], .file (Json.obj own).toBytes),
    (["site.json"], .file (Json.obj more).toBytes)],
    .of_map Prod.fst (fun _ _ h => h) (show List.Pairwise (· < ·) ([["config"],
      ["config", "default.json"], ["render-cache.json"], ["site.json"]] : List Location) by decide)⟩

/-- All three files are read. -/
theorem filesRead_siteTree {common own more : List (String × Json)} {fs₁ fs₂ fs₃ : Fields}
    (h₁ : Json.Gives common fs₁) (h₂ : Json.Gives own fs₂) (h₃ : Json.Gives more fs₃) :
    filesRead (some "site.json") (siteTree common own more) = [fs₁, fs₂, fs₃].map .ok := by
  obtain ⟨hcommon, hcommonToml, hcommonJson, hown, hownToml, hownJson⟩ := by
    simpa [fileNames, SettingsFile.candidates, SettingsFormat.all] using candidates_fileNames
  have hmore : Path.ofText "site.json" = ⟨["site.json"]⟩ := by
    rw [Path.ofText_eq]
    decide
  have hcommonRun : (SettingsFile.settings "config/default" false).run (siteTree common own more) =
      (.ok fs₁, siteTree common own more) := by
    refine SettingsFile.settings_completed h₁ ?_ ?_ ?_
    · rw [hcommon, isFile, look, follow_eq (by simp) (by decide)]
      rfl
    · rw [hcommonToml, isFile, look, follow_eq (by simp) (by decide)]
      rfl
    · rw [hcommonJson, FileTree.read, look, follow_eq (by simp) (by decide)]
      rfl
  have hownRun : (SettingsFile.settings "render-cache" false).run (siteTree common own more) =
      (.ok fs₂, siteTree common own more) := by
    refine SettingsFile.settings_completed h₂ ?_ ?_ ?_
    · rw [hown, isFile, look, follow_eq (by simp) (by decide)]
      rfl
    · rw [hownToml, isFile, look, follow_eq (by simp) (by decide)]
      rfl
    · rw [hownJson, FileTree.read, look, follow_eq (by simp) (by decide)]
      rfl
  have hmoreRun : (SettingsFile.settings "site.json" true).run (siteTree common own more) =
      (.ok fs₃, siteTree common own more) := by
    have hread : (siteTree common own more).read (.ofText "site.json") =
        .ok (Json.obj more).toBytes := by
      rw [hmore, FileTree.read, look, follow_eq (by simp) (by decide)]
      rfl
    have hformat : (Path.ofText "site.json").fileName?.bind SettingsFormat.ofName? = some .json := by
      rw [hmore]
      decide
    exact SettingsFile.settings_json h₃
      (SettingsFile.find_of_isFile (isFile_of_read hread) hformat) hread
  simp [filesRead, hcommonRun, hownRun, hmoreRun]

/-- The settings of one heading. -/
theorem gives_heading {heading : String} {fields : List (String × Json)} {fs : Fields}
    (hw : ∀ f ∈ fields, Json.Writable 0 f.2) (hfs : ofFields fields = some fs) :
    Json.Gives [(heading, .obj fields)] [(heading, .table fs)] where
  writable := .obj (List.forall_mem_singleton.mpr ((Json.Writable.obj hw).mono (by decide)))
  settings := by simp [ofFields, ofJson, hfs]

/-- They keep to the tables. -/
theorem keepsTables_heading {heading : String} (h : settingPath heading = [.name heading])
    (fs : Fields) : KeepsTables [(heading, .table fs)] := by
  have hkeeps (heading' : String) : KeepsTable heading' (heading, .table fs) := by
    by_cases hh : heading = heading'
    · exact .whole (hh ▸ h) rfl
    · exact .elsewhere h hh
  exact List.forall_mem_singleton.mpr ⟨hkeeps _, hkeeps _⟩

/-- A folder for pages that have no time to be rendered. -/
def hurriedPages : List (String × Json) :=
  [("cache", .obj [("directory", .str "pages"), ("render_timeout_ms", .ofNat 0)])]

/-- A log level that is none. -/
def loudLog : List (String × Json) := [("logging", .obj [("level", .str "loud")])]

/-- Some time for each render. -/
def patience : List (String × Json) := [("cache", .obj [("render_timeout_ms", .ofNat 500)])]

theorem gives_hurriedPages : Json.Gives hurriedPages
    [("cache", .table [("directory", .text "pages"), ("render_timeout_ms", .int 0)])] :=
  gives_heading (List.forall_mem_cons.mpr
    ⟨.str _, List.forall_mem_singleton.mpr (.num rfl (by decide))⟩) rfl

theorem gives_loudLog : Json.Gives loudLog [("logging", .table [("level", .text "loud")])] :=
  gives_heading (List.forall_mem_singleton.mpr (.str _)) rfl

theorem gives_patience : Json.Gives patience
    [("cache", .table [("render_timeout_ms", .int 500)])] :=
  gives_heading (List.forall_mem_singleton.mpr (.num rfl (by decide))) rfl

/-- The settings in three files. -/
def threeSources : List Fields :=
  [[("cache", .table [("directory", .text "pages"), ("render_timeout_ms", .int 0)])],
    [("logging", .table [("level", .text "loud")])],
    [("cache", .table [("render_timeout_ms", .int 500)])]]

theorem filesRead_threeSources :
    filesRead (some "site.json") (siteTree hurriedPages loudLog patience) = threeSources.map .ok :=
  filesRead_siteTree gives_hurriedPages gives_loudLog gives_patience

theorem keepsTables_threeSources :
    ∀ source ∈ threeSources ++ [(∅ : Environment).settings], KeepsTables source := by
  have hcache : settingPath "cache" = [.name "cache"] := by decide
  have hlogging : settingPath "logging" = [.name "logging"] := by decide
  exact List.forall_mem_append.mpr ⟨List.forall_mem_cons.mpr ⟨keepsTables_heading hcache _,
    List.forall_mem_cons.mpr ⟨keepsTables_heading hlogging _,
      List.forall_mem_singleton.mpr (keepsTables_heading hcache _)⟩⟩,
    List.forall_mem_singleton.mpr nofun⟩

/-- The time and the level are overridden, the folder that is set beside the time stays. -/
theorem decided_by_last_source_of_threeSources :
    ((load (some "site.json") ∅ ⟨none, some "debug", none⟩).run
      (siteTree hurriedPages loudLog patience)).1 =
      .ok ⟨{ CacheConfig.default with directory := "pages", renderTimeoutMs := 500 }, .debug,
        .compact⟩ := by
  let c : CacheConfig := { CacheConfig.default with directory := "pages", renderTimeoutMs := 500 }
  obtain ⟨-, hdecided⟩ := decided_by_last_source (some "site.json") ∅ ⟨none, some "debug", none⟩
    (siteTree hurriedPages loudLog patience)
  obtain ⟨-, hread⟩ := hdecided _ filesRead_threeSources keepsTables_threeSources
  -- the level that is merged is none, and still can be read
  obtain ⟨d, hd, -, hok⟩ := hread ⟨⟨c, some "loud", none⟩, by decide +kernel⟩
  obtain rfl : d = ⟨c, some "debug", none⟩ := hd.unique (by decide +kernel)
  have hdraft : ofDraft ⟨c, some "debug", none⟩ = .ok ⟨c, .debug, .compact⟩ := by decide +kernel
  obtain ⟨s, hs, hof⟩ := hok fun key reason hrefused =>
    nomatch hdraft.symm.trans (ofDraft_eq_invalid_iff.mpr hrefused)
  rw [hs, hof.unique (of_ofDraft hdraft).1]

/-- What is no truth value. -/
def unsureLog : List (String × Json) := [("logging", .obj [("json", .str "maybe")])]

/-- What is no table. -/
def noCache : List (String × Json) := [("cache", .str "none")]

/-- **Sources can clash.** What only an override replaces is read before, so the run may be refused
though all that is merged with the overrides can be read. And a source that has no table under a
heading takes away what the table had: its keys then have their defaults, although a source sets
them. -/
theorem sources_can_clash :
    (∃ files, filesRead (some "site.json") (siteTree hurriedPages unsureLog patience) =
        files.map .ok ∧
      (∃ d : Draft, d.ReadFrom (merge (files ++ [(∅ : Environment).settings] ++
        [Overrides.settings ⟨none, none, some true⟩])).at?) ∧
      ((load (some "site.json") ∅ ⟨none, none, some true⟩).run
        (siteTree hurriedPages unsureLog patience)).1 = .error .unreadable) ∧
    ∃ files, filesRead (some "site.json") (siteTree hurriedPages noCache patience) =
        files.map .ok ∧
      CacheConfig.orDefault (lastSaid (files ++ [(∅ : Environment).settings] ++
        [Overrides.settings ⟨none, none, none⟩]) "cache" "directory") ".render-cache" toText? =
        some "pages" ∧
      ((load (some "site.json") ∅ ⟨none, none, none⟩).run
        (siteTree hurriedPages noCache patience)).1 =
        .ok ⟨{ CacheConfig.default with directory := ".render-cache", renderTimeoutMs := 500 },
          .info, .compact⟩ := by
  have hunsure : Json.Gives unsureLog [("logging", .table [("json", .text "maybe")])] :=
    gives_heading (List.forall_mem_singleton.mpr (.str _)) rfl
  have hread := filesRead_siteTree gives_hurriedPages hunsure gives_patience
  have hnone : Json.Gives noCache [("cache", .text "none")] :=
    ⟨.obj (List.forall_mem_singleton.mpr (.str _)), rfl⟩
  have hread' := filesRead_siteTree gives_hurriedPages hnone gives_patience
  refine ⟨⟨_, hread, ⟨⟨⟨.memory, none, 500, 1000, "pages"⟩, none, some true⟩, ?_⟩, ?_⟩,
    _, hread', ?_, ?_⟩
  · decide +kernel
  · rw [load_eq, hread, ofSources_ok]
    decide +kernel
  · decide +kernel
  · rw [load_eq, hread', ofSources_ok]
    decide +kernel

end Settings

end PageCache
