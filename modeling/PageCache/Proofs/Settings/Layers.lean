import Mathlib.Data.List.Induction
import Mathlib.Tactic.Common
import PageCache.Settings.Reading

/-!
# Layers of settings

Sources are laid over one another setting by setting, and what a table has under a key may come from
several of them. Still each key of a table goes by one source:

* `Laid` — what becomes of the value of a key when a source is laid over it: it stays, it is replaced
  by what the source has alone, or a table or a list of the source is merged with it;
* `laid_layer` — this is all that becomes of a key, as long as the sources keep to the tables;
* `Steady` — a reading that takes no part of a merged value for the whole, as all readings of
  settings do;
* `Steady.read_merge` — so a merged value that can be read is read as the one that the last source
  has which sets the key.
-/

namespace PageCache

namespace ConfigValue

variable {heading key : String} {acc x y : Fields}

namespace Fields

/-- The table under a heading. -/
def under (fields : Fields) (heading : String) : Fields :=
  ((fields.get? heading).getD .null).fields

/-- The value of a key in it. -/
def at? (fields : Fields) (heading key : String) : Option ConfigValue :=
  (fields.under heading).get? key

/-- What stands under a heading is a table. -/
def HasTable (fields : Fields) (heading : String) : Prop :=
  ∀ v, fields.get? heading = some v → ∃ fs, v = .table fs

end Fields

open Fields

/-! ## Tables -/

@[simp] theorem get?_nil (key : String) : get? [] key = none := rfl

@[simp] theorem get?_cons (f : String × ConfigValue) (rest : Fields) (key : String) :
    get? (f :: rest) key = if key = f.1 then some f.2 else get? rest key := by
  obtain ⟨name, v⟩ := f
  by_cases h : key = name
  · simp [get?, h]
  · simp [get?, List.lookup_cons, beq_eq_false_iff_ne.mpr h, h]

@[simp] theorem fields_table (fs : Fields) : (table fs).fields = fs := rfl

@[simp] theorem fields_null : null.fields = [] := rfl

theorem replace_ne_nil (fs : Fields) (name : String) (v : ConfigValue) :
    fs.replace name v ≠ [] := by
  intro h
  have hget := get?_replace fs name name v
  rw [h, if_pos rfl] at hget
  cases hget

/-- A name is in a table that is laid over another, or was in the other. -/
theorem isSome_get?_overlayAll (before fs : Fields) (key : String) :
    (get? (overlayAll before fs) key).isSome ↔
      (before.get? key).isSome ∨ (get? fs key).isSome := by
  induction fs generalizing before with
  | nil => simp [overlayAll]
  | cons f rest ih =>
    rw [overlayAll, ih, get?_replace, get?_cons]
    by_cases h : key = f.1 <;> simp [h]

/-- Nothing comes of two tables only if neither has anything. -/
theorem overlayAll_eq_nil {before fs : Fields} (h : overlayAll before fs = []) :
    before = [] ∧ fs = [] := by
  have hnone (name) : ¬ ((before.get? name).isSome ∨ (get? fs name).isSome) := by
    rw [← isSome_get?_overlayAll, h]
    simp
  constructor
  · cases before with
    | nil => rfl
    | cons f rest => exact absurd (.inl (by simp)) (hnone f.1)
  · cases fs with
    | nil => rfl
    | cons f rest => exact absurd (.inr (by simp)) (hnone f.1)

/-- No name is in the table twice. -/
def NamesOnce (fs : Fields) : Prop := (fs.map Prod.fst).Nodup

theorem namesOnce_nil : NamesOnce [] := List.nodup_nil

theorem mem_names_replace {fs : Fields} {name other : String} {v : ConfigValue}
    (h : other ∈ (fs.replace name v).map Prod.fst) : other = name ∨ other ∈ fs.map Prod.fst := by
  induction fs with
  | nil => simpa [replace] using h
  | cons f rest ih =>
    unfold replace at h
    split at h
    · rename_i hf
      simpa [hf] using h
    · simp only [List.map_cons, List.mem_cons] at h ⊢
      rcases h with h | h
      · exact .inr (.inl h)
      · exact (ih h).imp_right .inr

theorem NamesOnce.replace {fs : Fields} (h : NamesOnce fs) (name : String) (v : ConfigValue) :
    NamesOnce (fs.replace name v) := by
  induction fs with
  | nil => simp [Fields.replace, NamesOnce]
  | cons f rest ih =>
    obtain ⟨hf, hrest⟩ := List.nodup_cons.mp h
    unfold Fields.replace
    split
    · rename_i hname
      rw [← hname]
      exact List.nodup_cons.mpr ⟨hf, hrest⟩
    · rename_i hname
      refine List.nodup_cons.mpr ⟨fun hmem => ?_, ih hrest⟩
      rcases mem_names_replace hmem with heq | hmem
      · exact hname heq
      · exact hf hmem

theorem NamesOnce.overlayAll {before : Fields} (h : NamesOnce before) (fs : Fields) :
    NamesOnce (overlayAll before fs) := by
  induction fs generalizing before with
  | nil => rwa [ConfigValue.overlayAll]
  | cons f rest ih =>
    rw [ConfigValue.overlayAll]
    exact ih (h.replace ..)

/-- A table that has one name, and has it once, has one entry. -/
theorem eq_singleton_of_names {fs : Fields} {name : String} (h : NamesOnce fs) (hne : fs ≠ [])
    (hnames : ∀ other, (get? fs other).isSome → other = name) : ∃ v, fs = [(name, v)] := by
  cases fs with
  | nil => exact absurd rfl hne
  | cons f rest =>
    obtain rfl : f.1 = name := hnames f.1 (by simp)
    cases rest with
    | nil => exact ⟨f.2, rfl⟩
    | cons g rest =>
      have hg : g.1 = f.1 := hnames g.1 (by by_cases h : g.1 = f.1 <;> simp [h])
      exact absurd (by simp [hg]) (List.nodup_cons.mp h).1

/-! ## What becomes of a value -/

/-- A source that has `own` under a key when it is alone is laid over what the key had `before`, and
then the key has the last of the three. -/
inductive Laid (before : Option ConfigValue) : Option ConfigValue → Option ConfigValue → Prop where
  /-- the source has nothing, and the value stays -/
  | kept : Laid before none before
  /-- the value is replaced -/
  | replaced (v : ConfigValue) : Laid before (some v) (some v)
  /-- a table is merged with what was there; one that is empty changes nothing in a table -/
  | merged {fs gs : Fields} (once : NamesOnce fs)
      (names : ∀ name, (fs.get? name).isSome → (gs.get? name).isSome)
      (empty : fs = [] → gs = (before.getD .null).fields) :
      Laid before (some (.table fs)) (some (.table gs))
  /-- positions of a list are merged with what was there -/
  | listed {vs ws : List ConfigValue} : Laid before (some (.list vs)) (some (.list ws))

variable {before own after : Option ConfigValue}

/-- A value laid over both. -/
theorem Laid.overlay (h : Laid before own after) (v : ConfigValue) :
    Laid before (some ((own.getD .null).overlay v)) (some ((after.getD .null).overlay v)) := by
  cases v with
  | table fs =>
    have hnames {b c : Fields} (hbc : ∀ name, (b.get? name).isSome → (c.get? name).isSome) (name)
        (hb : (get? (overlayAll b fs) name).isSome) : (get? (overlayAll c fs) name).isSome := by
      rw [isSome_get?_overlayAll] at hb ⊢
      exact hb.imp_left (hbc name)
    cases h with
    | kept =>
      refine .merged (namesOnce_nil.overlayAll fs) (hnames (by simp)) fun h => ?_
      rw [(overlayAll_eq_nil h).2, overlayAll]
    | replaced w => exact .replaced _
    | merged once names empty =>
      refine .merged (once.overlayAll fs) (hnames names) fun h => ?_
      rw [(overlayAll_eq_nil h).2, overlayAll]
      exact empty (overlayAll_eq_nil h).1
    | listed => exact .replaced _
  | _ => exact .replaced _

/-- A value set at a path in both. -/
theorem Laid.setAt (h : Laid before own after) (v : ConfigValue) (path : List SettingStep) :
    Laid before (some ((own.getD .null).setAt v path))
      (some ((after.getD .null).setAt v path)) := by
  cases path with
  | nil => exact h.overlay v
  | cons step path =>
    cases step with
    | name name =>
      simp only [ConfigValue.setAt]
      cases h with
      | kept =>
        refine .merged (namesOnce_nil.replace ..) (fun other => ?_) fun h => ?_
        · by_cases h : other = name <;> simp [h]
        · exact absurd h (replace_ne_nil _ _ _)
      | replaced w => exact .replaced _
      | merged once names empty =>
        refine .merged (once.replace ..) (fun other => ?_) fun h => ?_
        · by_cases h : other = name
          · simp [h]
          · simpa [h] using names other
        · exact absurd h (replace_ne_nil _ _ _)
      | listed => exact .replaced _
    | position n => exact .listed

/-! ## What becomes of a table -/

/-- What a source has in a table is laid over what the table had before. -/
def AllLaid (before x y : Fields) : Prop :=
  ∀ key, Laid (before.get? key) (x.get? key) (y.get? key)

/-- One more value in both. -/
theorem AllLaid.replace {before : Fields} (h : AllLaid before x y) {name : String}
    {v w : ConfigValue} (hvw : Laid (before.get? name) (some v) (some w)) :
    AllLaid before (x.replace name v) (y.replace name w) := by
  intro key
  rw [get?_replace, get?_replace]
  by_cases hk : key = name
  · rw [if_pos hk, if_pos hk, hk]
    exact hvw
  · rw [if_neg hk, if_neg hk]
    exact h key

/-- One more table. -/
theorem AllLaid.overlayAll {before : Fields} (h : AllLaid before x y) (fs : Fields) :
    AllLaid before (overlayAll x fs) (overlayAll y fs) := by
  induction fs generalizing x y with
  | nil => rwa [ConfigValue.overlayAll, ConfigValue.overlayAll]
  | cons f rest ih =>
    rw [ConfigValue.overlayAll, ConfigValue.overlayAll]
    exact ih (h.replace ((h f.1).overlay f.2))

/-- The setting is of another heading, or gives a table or something in a table. -/
inductive KeepsTable (heading : String) (f : String × ConfigValue) : Prop where
  /-- it is of another heading -/
  | elsewhere {other path} : settingPath f.1 = .name other :: path → other ≠ heading →
      KeepsTable heading f
  /-- it gives a table -/
  | whole {fs} : settingPath f.1 = [.name heading] → f.2 = .table fs → KeepsTable heading f
  /-- it gives something in the table -/
  | inside {key path} : settingPath f.1 = .name heading :: .name key :: path → KeepsTable heading f

/-- One more setting. -/
def laySetting (acc : Fields) (f : String × ConfigValue) : Fields :=
  ((table acc).setAt f.2 (settingPath f.1)).fields

theorem layer_eq (acc source : Fields) : layer acc source = source.foldl laySetting acc := rfl

theorem laySetting_of_path {f : String × ConfigValue} {name : String} {path : List SettingStep}
    (h : settingPath f.1 = .name name :: path) (acc : Fields) :
    laySetting acc f = acc.replace name (setAt ((acc.get? name).getD null) f.2 path) := by
  simp only [laySetting, h, setAt, fields_table]

theorem under_replace (fs : Fields) (name : String) (v : ConfigValue) :
    (fs.replace name v).under heading = if heading = name then v.fields else fs.under heading := by
  unfold under
  rw [get?_replace]
  split <;> rfl

/-- **A setting** that keeps to the tables, laid over both. -/
theorem AllLaid.laySetting {before : Fields} {f : String × ConfigValue}
    (h : AllLaid before (x.under heading) (y.under heading)) (hf : KeepsTable heading f) :
    AllLaid before ((laySetting x f).under heading) ((laySetting y f).under heading) := by
  cases hf with
  | elsewhere hpath hne =>
    rw [laySetting_of_path hpath, laySetting_of_path hpath, under_replace, under_replace,
      if_neg hne.symm, if_neg hne.symm]
    exact h
  | whole hpath htable =>
    rw [laySetting_of_path hpath, laySetting_of_path hpath, under_replace, under_replace,
      if_pos rfl, if_pos rfl, htable]
    exact h.overlayAll _
  | @inside key path hpath =>
    rw [laySetting_of_path hpath, laySetting_of_path hpath, under_replace, under_replace,
      if_pos rfl, if_pos rfl]
    exact h.replace ((h key).setAt f.2 path)

/-- Settings that keep to the tables, laid over both. -/
theorem AllLaid.layer {before source : Fields}
    (h : AllLaid before (x.under heading) (y.under heading))
    (hs : ∀ f ∈ source, KeepsTable heading f) :
    AllLaid before ((layer x source).under heading) ((layer y source).under heading) := by
  rw [layer_eq, layer_eq]
  induction source generalizing x y with
  | nil => exact h
  | cons f rest ih =>
    exact ih (h.laySetting (hs f List.mem_cons_self)) fun g hg => hs g (List.mem_cons_of_mem f hg)

/-- **A source** that keeps to the tables: each key has what the source has alone, laid over what it
had before. -/
theorem laid_layer {source : Fields} (hs : ∀ f ∈ source, KeepsTable heading f) (acc : Fields)
    (key : String) :
    Laid (acc.at? heading key) ((layer [] source).at? heading key)
      ((layer acc source).at? heading key) := by
  have hstart : AllLaid (acc.under heading) (under [] heading) (acc.under heading) := fun _ => .kept
  exact hstart.layer hs key

/-- What stands under a heading stays a table. -/
theorem Fields.HasTable.layer {source : Fields} (h : acc.HasTable heading)
    (hs : ∀ f ∈ source, KeepsTable heading f) : (layer acc source).HasTable heading := by
  rw [layer_eq]
  induction source generalizing acc with
  | nil => exact h
  | cons f rest ih =>
    refine ih (fun v hv => ?_) fun g hg => hs g (List.mem_cons_of_mem f hg)
    cases hs f List.mem_cons_self with
    | elsewhere hpath hne =>
      rw [laySetting_of_path hpath, get?_replace, if_neg hne.symm] at hv
      exact h v hv
    | whole hpath htable =>
      rw [laySetting_of_path hpath, get?_replace, if_pos rfl, htable] at hv
      exact ⟨_, (Option.some.inj hv).symm⟩
    | inside hpath =>
      rw [laySetting_of_path hpath, get?_replace, if_pos rfl] at hv
      exact ⟨_, (Option.some.inj hv).symm⟩

/-! ## What is read -/

/-- A reading that makes nothing of a list, and of a table only if it has one entry, by whose name it
goes. -/
structure Steady {α : Type} (read : ConfigValue → Option α) : Prop where
  /-- a table is read by the name of its one entry -/
  table : ∀ fs a, read (.table fs) = some a →
    ∃ name, (∃ v, fs = [(name, v)]) ∧ ∀ v, read (.table [(name, v)]) = some a
  /-- a list is not read -/
  list : ∀ vs, read (.list vs) = none

/-- A reading that makes nothing of a table either. -/
theorem steady_of_plain {α : Type} {read : ConfigValue → Option α}
    (htable : ∀ fs, read (.table fs) = none) (hlist : ∀ vs, read (.list vs) = none) :
    Steady read where
  table fs a h := by
    rw [htable] at h
    cases h
  list := hlist

/-- Whether a value sets its key: a table without entries says nothing. -/
def sets : ConfigValue → Bool
  | table [] => false
  | _ => true

/-- What a source says of a key. -/
def Fields.says? (source : Fields) (heading key : String) : Option ConfigValue :=
  ((layer [] source).at? heading key).filter sets

/-- What the last source says that says something of the key. -/
def lastSaid (sources : List Fields) (heading key : String) : Option ConfigValue :=
  (sources.filterMap (·.says? heading key)).getLast?

/-- All sources, laid over one another. -/
def merge (sources : List Fields) : Fields := sources.foldl layer []

variable {α : Type} {read : ConfigValue → Option α} {a default : α}

/-- No reading makes anything of a table without entries. -/
theorem Steady.read_empty (hr : Steady read) : read (.table []) ≠ some a := by
  intro h
  obtain ⟨name, ⟨v, hv⟩, -⟩ := hr.table _ _ h
  cases hv

/-- A merged table that is read has one entry, of the name that the source has in its own table. -/
theorem Steady.of_merged (hr : Steady read) {fs gs : Fields} (once : NamesOnce fs)
    (names : ∀ name, (fs.get? name).isSome → (gs.get? name).isSome) (hne : fs ≠ [])
    (ha : read (.table gs) = some a) : read (.table fs) = some a := by
  obtain ⟨name, ⟨v, rfl⟩, hname⟩ := hr.table _ _ ha
  have honly (other : String) (hother : (get? fs other).isSome) : other = name := by
    by_contra hne
    simpa [hne] using names other hother
  obtain ⟨w, rfl⟩ := eq_singleton_of_names once hne honly
  exact hname w

/-- A merged table that is read, of a source that has nothing in its own, is the one that was
there. -/
theorem Steady.of_empty (hr : Steady read) {gs : Fields} (hgs : gs = (before.getD .null).fields)
    (ha : read (.table gs) = some a) : some (.table gs) = before := by
  have hne : gs ≠ [] := by
    rintro rfl
    exact hr.read_empty ha
  cases before with
  | none => exact absurd hgs hne
  | some b =>
    cases b with
    | table hs =>
      rw [hgs]
      rfl
    | _ => exact absurd hgs hne

/-- **A merged value that is read** is read as what the source says which is laid over the others. If
this one says nothing, the value is as it was. -/
theorem Steady.of_laid (hr : Steady read) (h : Laid before own after)
    (ha : CacheConfig.orDefault after default read = some a) :
    (own.filter sets = none → after = before) ∧
      ∀ v, own.filter sets = some v → read v = some a := by
  cases h with
  | kept => exact ⟨fun _ => rfl, nofun⟩
  | replaced v =>
    have hsets : sets v = true := by
      unfold sets
      split
      · exact absurd ha hr.read_empty
      · rfl
    rw [Option.filter_some, if_pos hsets]
    refine ⟨nofun, fun w hw => ?_⟩
    rw [← Option.some.inj hw]
    exact ha
  | @merged fs gs once names empty =>
    cases fs with
    | nil => exact ⟨fun _ => hr.of_empty (empty rfl) ha, nofun⟩
    | cons f rest =>
      refine ⟨nofun, fun v hv => ?_⟩
      rw [← Option.some.inj hv]
      exact hr.of_merged once names (List.cons_ne_nil f rest) ha
  | listed =>
    have hlist : read (.list _) = some a := ha
    rw [hr.list] at hlist
    cases hlist

/-- The last source says it, or it is said before. -/
theorem lastSaid_concat (sources : List Fields) (source : Fields) (heading key : String) :
    lastSaid (sources ++ [source]) heading key =
      (source.says? heading key).or (lastSaid sources heading key) := by
  unfold lastSaid
  rw [List.filterMap_append]
  cases h : source.says? heading key <;> simp [h]

theorem merge_concat (sources : List Fields) (source : Fields) :
    merge (sources ++ [source]) = layer (merge sources) source := by
  simp [merge]

/-- What stands under a heading is a table, if all sources keep to it. -/
theorem hasTable_merge {sources : List Fields}
    (hs : ∀ source ∈ sources, ∀ f ∈ source, KeepsTable heading f) :
    (merge sources).HasTable heading := by
  induction sources using List.reverseRecOn with
  | nil => exact nofun
  | append_singleton sources source ih =>
    rw [merge_concat]
    exact (ih fun s h => hs s (List.mem_append_left _ h)).layer (hs source (by simp))

/-- **A merged value that is read** is read as what the last source says that sets the key. -/
theorem Steady.read_merge (hr : Steady read) {sources : List Fields}
    (hs : ∀ source ∈ sources, ∀ f ∈ source, KeepsTable heading f)
    (ha : CacheConfig.orDefault ((merge sources).at? heading key) default read = some a) :
    CacheConfig.orDefault (lastSaid sources heading key) default read = some a := by
  induction sources using List.reverseRecOn with
  | nil => exact ha
  | append_singleton sources source ih =>
    have hlaid := laid_layer (hs source (by simp)) (merge sources) key
    rw [merge_concat] at ha
    obtain ⟨hkept, hsaid⟩ := hr.of_laid hlaid ha
    rw [lastSaid_concat]
    cases hsays : source.says? heading key with
    | none =>
      rw [hkept hsays] at ha
      exact ih (fun s h => hs s (List.mem_append_left _ h)) ha
    | some v => exact hsaid v hsays

end ConfigValue

end PageCache
