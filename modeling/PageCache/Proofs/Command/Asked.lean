import PageCache.Command
import PageCache.Proofs.Store.Disk
import PageCache.Proofs.Store.Outside

/-!
# What a run is asked for

A run of the program reads its arguments and its settings, opens the folder that the settings name,
and carries out its command there. The files of settings are only read, so a run whose command works
in a folder is known from the command:

* `Settings.load_alike` — settings are loaded alike from trees that have the same files of settings;
* `Asks` — the arguments and the settings of a run ask for a command on a folder;
* `Asks.run` — what such a run does is what its command does;
* `inside_run` — a command changes nothing outside of its folder;
* `Asks.after` — the same arguments ask for the same again, as long as the files of settings are not
  in the folder.
-/

namespace PageCache

open FileProgram

/-! ## Programs that only read -/

namespace FileProgram

variable {α β : Type} {t t' : FileTree} {Q : α → Prop} {R : β → Prop}

/-- The program answers the same on both trees, which is as `Q` says, and changes neither. -/
def Alike (t t' : FileTree) (p : FileProgram α) (Q : α → Prop) : Prop :=
  ∃ a, p.run t = (a, t) ∧ p.run t' = (a, t') ∧ Q a

theorem alike_pure {a : α} (h : Q a) : Alike t t' (pure a) Q := ⟨a, rfl, rfl, h⟩

theorem Alike.imp {p : FileProgram α} {Q' : α → Prop} (hp : Alike t t' p Q)
    (h : ∀ a, Q a → Q' a) : Alike t t' p Q' := by
  obtain ⟨a, ha, ha', hq⟩ := hp
  exact ⟨a, ha, ha', h a hq⟩

/-- A program that goes on with the answer of another. -/
theorem Alike.bind {p : FileProgram α} {f : α → FileProgram β} (hp : Alike t t' p Q)
    (hf : ∀ a, Q a → Alike t t' (f a) R) : Alike t t' (p >>= f) R := by
  obtain ⟨a, ha, ha', hq⟩ := hp
  obtain ⟨b, hb, hb', hr⟩ := hf a hq
  refine ⟨b, ?_, ?_, hr⟩
  · rw [run_bind, ha, hb]
  · rw [run_bind, ha', hb']

end FileProgram

/-! ## Files of settings -/

/-- A text is cut at its slashes. -/
theorem Path.ofText_eq (s : String) :
    ofText s = ⟨(s.toList.splitOnP (· = '/')).map String.ofList⟩ := by
  rw [ofText]
  exact congrArg Path.mk String.toList_split_prop

namespace FileTree

variable {t t' : FileTree} {l : Location} {p : Path}

/-- At a path there is the same file in both trees, or none in either. -/
structure SameFile (t t' : FileTree) (p : Path) : Prop where
  /-- there is one in both or in none -/
  isFile : t'.isFile p = t.isFile p
  /-- it has the same bytes -/
  read : ∀ bytes, t'.read p = .ok bytes ↔ t.read p = .ok bytes

theorem SameFile.refl (t : FileTree) (p : Path) : SameFile t t p := ⟨rfl, fun _ => Iff.rfl⟩

theorem SameOutside.sameFile (h : SameOutside l t t') (hp : t.Elsewhere l p) : SameFile t t' p :=
  ⟨h.isFile hp, h.read hp⟩

end FileTree

open FileTree

namespace SettingsFile

variable {t t' : FileTree} {p : Path} {name : String}

/-- The paths at which the file of a name is looked for. -/
def candidates (name : String) : List Path :=
  Path.ofText name :: SettingsFormat.all.map (completed (Path.ofText name))

theorem exists?_alike (h : SameFile t t' p) : Alike t t' (exists? p) fun _ => True := by
  have hrun : ∀ t₁ : FileTree, (exists? p).run t₁ = (t₁.isFile p, t₁) := fun _ => rfl
  exact ⟨t.isFile p, hrun t, by rw [hrun, h.isFile], trivial⟩

/-- A file that is found is at one of the paths at which it is looked for. -/
def FoundAmong (ps : List Path) : SettingsFile → Prop
  | found q _ => q ∈ ps
  | missing | unknownFormat => True

theorem FoundAmong.mono {ps qs : List Path} {file : SettingsFile} (h : file.FoundAmong ps)
    (hsub : ps ⊆ qs) : file.FoundAmong qs := by
  cases file with
  | found q _ => exact hsub h
  | missing | unknownFormat => trivial

theorem findCompleted_alike {fs : List SettingsFormat}
    (h : ∀ q ∈ fs.map (completed p), SameFile t t' q) :
    Alike t t' (findCompleted p fs) (FoundAmong (fs.map (completed p))) := by
  induction fs with
  | nil => exact alike_pure trivial
  | cons f rest ih =>
    rw [List.map_cons] at h ⊢
    rw [findCompleted]
    refine (exists?_alike (h _ List.mem_cons_self)).bind fun b _ => ?_
    cases b with
    | true => exact alike_pure (Q := FoundAmong _) List.mem_cons_self
    | false =>
      refine (ih fun q hq => h q (List.mem_cons_of_mem _ hq)).imp fun file hfile => ?_
      exact hfile.mono (List.subset_cons_self ..)

theorem find_alike (h : ∀ q ∈ candidates name, SameFile t t' q) :
    Alike t t' (find name) (FoundAmong (candidates name)) := by
  refine (exists?_alike (h _ List.mem_cons_self)).bind fun b _ => ?_
  cases b with
  | true =>
    rw [if_pos rfl]
    split
    · exact alike_pure (Q := FoundAmong _) List.mem_cons_self
    · exact alike_pure trivial
  | false =>
    rw [if_neg Bool.false_ne_true]
    refine (findCompleted_alike fun q hq => h q (List.mem_cons_of_mem _ hq)).imp ?_
    exact fun file hfile => hfile.mono (List.subset_cons_self ..)

/-- What is not there is not found. -/
theorem findCompleted_of_missing {fs : List SettingsFormat}
    (h : ∀ q ∈ fs.map (completed p), t.isFile q = false) :
    (findCompleted p fs).run t = (.missing, t) := by
  induction fs with
  | nil => rfl
  | cons f rest ih =>
    rw [List.map_cons] at h
    have hf : (exists? (completed p f)).run t = (false, t) :=
      Prod.ext (h _ List.mem_cons_self) rfl
    rw [findCompleted, run_bind, hf]
    exact ih fun q hq => h q (List.mem_cons_of_mem _ hq)

theorem find_of_missing (h : ∀ q ∈ candidates name, t.isFile q = false) :
    (find name).run t = (.missing, t) := by
  have hname : (exists? (Path.ofText name)).run t = (false, t) :=
    Prod.ext (h _ List.mem_cons_self) rfl
  rw [find, run_bind, hname]
  exact findCompleted_of_missing fun q hq => h q (List.mem_cons_of_mem _ hq)

/-- A file that is not there says nothing. -/
theorem settings_of_missing (h : ∀ q ∈ candidates name, t.isFile q = false) :
    (settings name false).run t = (.ok [], t) := by
  rw [settings, run_bind, find_of_missing h]
  rfl

/-- **The settings of a file** are read alike where the same file is found. -/
theorem settings_alike {required : Bool} (h : ∀ q ∈ candidates name, SameFile t t' q) :
    Alike t t' (settings name required) fun _ => True := by
  refine (find_alike h).bind fun file hfile => ?_
  cases file with
  | missing | unknownFormat => exact alike_pure trivial
  | found q f =>
    have hrun : ∀ t₁ : FileTree, (perform (.read q)).run t₁ = (t₁.read q, t₁) := fun _ => rfl
    cases hread : t.read q with
    | ok bytes =>
      have hread' := ((h q hfile).read bytes).mpr hread
      refine Alike.bind (Q := fun r => r = .ok bytes) ⟨.ok bytes, ?_, ?_, rfl⟩ ?_
      · rw [hrun, hread]
      · rw [hrun, hread']
      · rintro _ rfl
        dsimp only
        split <;> exact alike_pure trivial
    | error e =>
      obtain ⟨e', hread'⟩ : ∃ e', t'.read q = .error e' := by
        cases h' : t'.read q with
        | ok bytes => exact nomatch hread.symm.trans (((h q hfile).read bytes).mp h')
        | error e' => exact ⟨e', rfl⟩
      -- why nothing can be read does not matter
      refine ⟨settings.absent required, ?_, ?_, trivial⟩
      · rw [run_bind, hrun, hread]
        rfl
      · rw [run_bind, hrun, hread']
        rfl

end SettingsFile

namespace Settings

variable {t t' : FileTree}

/-- The names of the files of settings. -/
def fileNames (asked : Option String) : List String :=
  ["config/default", "render-cache"] ++ asked.toList

/-- Where files of settings are looked for in any case. -/
theorem candidates_fileNames : (fileNames none).flatMap SettingsFile.candidates =
    [⟨["config", "default"]⟩, ⟨["config", "default.toml"]⟩, ⟨["config", "default.json"]⟩,
      ⟨["render-cache"]⟩, ⟨["render-cache.toml"]⟩, ⟨["render-cache.json"]⟩] := by
  have hcommon : Path.ofText "config/default" = ⟨["config", "default"]⟩ := by
    rw [Path.ofText_eq]
    decide
  have hown : Path.ofText "render-cache" = ⟨["render-cache"]⟩ := by
    rw [Path.ofText_eq]
    decide
  have hcommonName : Path.fileName? ⟨["config", "default"]⟩ = some "default" := by decide
  have hownName : Path.fileName? ⟨["render-cache"]⟩ = some "render-cache" := by decide
  simp only [fileNames, Option.toList_none, List.append_nil, List.flatMap_cons, List.flatMap_nil,
    SettingsFile.candidates, SettingsFormat.all, List.map_cons, List.map_nil, hcommon, hown,
    SettingsFile.completed, hcommonName, hownName]
  -- neither name has an ending of its own, but that would not matter
  cases SettingsFile.hasEnding "default" <;> cases SettingsFile.hasEnding "render-cache" <;> rfl

/-- **Settings** are loaded alike from trees that have the same files of settings. -/
theorem load_alike {asked : Option String} {environment : Environment} {overrides : Overrides}
    (h : ∀ name ∈ fileNames asked, ∀ q ∈ SettingsFile.candidates name, SameFile t t' q) :
    Alike t t' (load asked environment overrides) fun _ => True := by
  refine (SettingsFile.settings_alike (h _ (by simp [fileNames]))).bind fun common _ => ?_
  refine (SettingsFile.settings_alike (h _ (by simp [fileNames]))).bind fun own _ => ?_
  cases asked with
  | none => exact alike_pure trivial
  | some name =>
    refine (SettingsFile.settings_alike (h name (by simp [fileNames]))).bind fun more _ => ?_
    exact alike_pure trivial

/-- Loading settings changes nothing. -/
theorem load_run (asked : Option String) (environment : Environment) (overrides : Overrides)
    (t : FileTree) : ((load asked environment overrides).run t).2 = t := by
  obtain ⟨a, ha, -, -⟩ : Alike t t (load asked environment overrides) fun _ => True :=
    load_alike fun _ _ q _ => .refl t q
  rw [ha]

/-- **Without files of settings** the environment and the overrides say all. -/
theorem load_of_missing {environment : Environment} {overrides : Overrides}
    (h : ∀ name ∈ fileNames none, ∀ q ∈ SettingsFile.candidates name, t.isFile q = false) :
    (load none environment overrides).run t =
      (ofSources [.ok [], .ok []] environment overrides, t) := by
  rw [load, run_bind, SettingsFile.settings_of_missing (h _ (by simp [fileNames]))]
  dsimp only
  rw [run_bind, SettingsFile.settings_of_missing (h _ (by simp [fileNames]))]
  rfl

end Settings

/-! ## Runs of the program -/

/-- Both paths lead to one folder. -/
def FileTree.SameFolder (t : FileTree) (p q : Path) : Prop :=
  ∃ l, t.look p = .ok (l, some .folder) ∧ t.look q = .ok (l, some .folder)

/-- A name of a store's file can stand behind the path. -/
def Path.HasRoom (p : Path) : Prop := p.text.utf8ByteSize + 128 ≤ FileTree.pathLimit

/-- The words and the environment ask for a command on the folder at a path: the settings that go
with them can be loaded, and name this folder by a path with room for the names in it. -/
def Asks (words : List String) (environment : Environment) (t : FileTree) (root : Path)
    (c : Command) : Prop :=
  ∃ a settings, Arguments.parse (environment.get? Arguments.configVariable) words = .ok a ∧
    a.command = c ∧
    ((Settings.load a.configFile environment a.overrides).run t).1 = .ok settings ∧
    t.SameFolder root (.ofText settings.cache.directory) ∧
    (Path.ofText settings.cache.directory).HasRoom

/-- No file of the settings that go with the words is looked for in the folder at a path. -/
def SettingsElsewhere (words : List String) (environment : Environment) (t : FileTree)
    (root : Path) : Prop :=
  ∀ a l, Arguments.parse (environment.get? Arguments.configVariable) words = .ok a →
    t.look root = .ok (l, some .folder) →
    ∀ name ∈ Settings.fileNames a.configFile, ∀ q ∈ SettingsFile.candidates name, t.Elsewhere l q

variable {words : List String} {environment : Environment} {t t' : FileTree} {root : Path}
  {c : Command} {l : Location}

/-- **A run** that is asked for a command does what the command does, in a store at the folder. -/
theorem Asks.run (h : Asks words environment t root c) :
    ∃ q policy, t.SameFolder root q ∧ q.HasRoom ∧ ∀ order now out t',
      (c.run order policy now ⟨q⟩).run t = (.ok out, t') →
      (runProgramIn order words environment now).run t = (⟨0, out, none⟩, t') := by
  obtain ⟨a, settings, hparse, rfl, hload, hfolder, hroom⟩ := h
  refine ⟨.ofText settings.cache.directory, settings.cache.policy, hfolder, hroom, ?_⟩
  intro order now out t' hrun
  obtain ⟨l, -, hlook⟩ := hfolder
  have hsettings : (Settings.load a.configFile environment a.overrides).run t =
      (.ok settings, t) := Prod.ext hload (Settings.load_run ..)
  have hopen : (DiskStore.openAt (.ofText settings.cache.directory)).run t =
      (.ok ⟨.ofText settings.cache.directory⟩, t) := DiskStore.openAt_run hlook
  have hcarryOut : (a.carryOut order environment now).run t = (.ok out, t') := by
    rw [Arguments.carryOut, run_bind, hsettings]
    dsimp only
    rw [run_bind, hopen]
    dsimp only
    rw [run_bind, hrun]
    rfl
  rw [runProgramIn, hparse]
  dsimp only
  rw [run_bind, hcarryOut]
  rfl

/-- **Asking again.** What changes in the folder does not matter to words whose files of settings are
elsewhere. -/
theorem Asks.after (h : Asks words environment t root c) (hlook : t.look root = .ok (l, some .folder))
    (hsame : t.SameOutside l t') (helsewhere : SettingsElsewhere words environment t root) :
    Asks words environment t' root c := by
  obtain ⟨a, settings, hparse, hcommand, hload, ⟨m, hroot, hq⟩, hroom⟩ := h
  obtain ⟨r, hr, hr', -⟩ :
      Alike t t' (Settings.load a.configFile environment a.overrides) fun _ => True :=
    Settings.load_alike fun name hname q hq =>
      hsame.sameFile (helsewhere a l hparse hlook name hname q hq)
  rw [hr] at hload
  refine ⟨a, settings, hparse, hcommand, ?_, ⟨m, ?_, ?_⟩, hroom⟩
  · rw [hr']
    exact hload
  · exact hsame.look_folder hroot
  · exact hsame.look_folder hq

/-- The files of settings stay elsewhere. -/
theorem SettingsElsewhere.after (h : SettingsElsewhere words environment t root)
    (hlook : t.look root = .ok (l, some .folder)) (hsame : t.SameOutside l t') :
    SettingsElsewhere words environment t' root := by
  intro a m hparse hm name hname q hq
  obtain ⟨rfl, -⟩ := Prod.mk.inj (Except.ok.inj (hm.symm.trans (hsame.look_folder hlook)))
  exact hsame.elsewhere (h a m hparse hlook name hname q hq)

/-! ## Commands in a folder -/

namespace Command

open DiskStore

theorem inside_indexKeys (s : DiskStore) (ks : List Key) (x : TagIndex) :
    (indexKeys s ks x).Calls (FileCall.Inside s.root) := by
  induction ks generalizing x with
  | nil => exact .done _
  | cons k rest ih =>
    apply calls_andThen (inside_get s k)
    rintro (_ | e)
    · exact ih x
    · exact ih _

theorem inside_deleteKeys (s : DiskStore) (ks : List Key) (n : Nat) :
    (deleteKeys s ks n).Calls (FileCall.Inside s.root) := by
  induction ks generalizing n with
  | nil => exact .done _
  | cons k rest ih => exact calls_andThen (inside_delete s k) fun _ => ih _

/-- **A command** changes nothing outside of its folder. -/
theorem inside_run (order : KeyOrder) (policy : Policy) (now : Instant) (s : DiskStore)
    (c : Command) : (c.run order policy now s).Calls (FileCall.Inside s.root) := by
  cases c with
  | keys start => exact calls_andThen (inside_list s start) fun _ => .done _
  | inspect k body =>
    apply calls_andThen (inside_get s k)
    rintro (_ | e) <;> exact .done _
  | purge k => exact calls_andThen (inside_delete s k) fun _ => .done _
  | purgeTag T =>
    apply calls_andThen (inside_list s "")
    intro ks
    apply calls_andThen (inside_indexKeys s ks ∅)
    intro x
    exact calls_andThen (inside_deleteKeys s _ 0) fun _ => .done _

end Command

end PageCache
