import PageCache.Proofs.Command.Asked
import PageCache.Proofs.Run
import PageCache.Proofs.Scheduler.Sweeps
import PageCache.Proofs.Store.AllOrNothing
import PageCache.Proofs.Store.Removal
import PageCache.Proofs.TagIndex.Links
import PageCache.Proofs.Text.ByteOrder

/-!
# Purging a tag by the program

To purge a tag the program lists the folder, reads all entries into an index, and removes the keys
that the index has for the tag. Each of these stages is known by itself:

* `indexKeys_run` — the index has the tags of the entries that were read;
* `deleteKeys_run` — some keys are removed, in whatever order, and counted if they were there.

Together they purge exactly the entries that carry the tag (`purge_tag_exact`): these are counted and
gone, all others are as they were and are what is listed then, and there is nothing left to purge.
-/

namespace PageCache

open FileProgram FileTree

/-! ## A folder by another path -/

namespace DiskStore

variable {s : DiskStore} {t t' : FileTree} {slots : Slots} {p q : Path}

/-- A folder has its slots by whatever path it is reached. -/
theorem Stored.of_sameFolder (h : Stored ⟨p⟩ t slots) (hsame : t.SameFolder p q)
    (hroom : q.HasRoom) : Stored ⟨q⟩ t slots := by
  obtain ⟨files, ⟨l, hat⟩, hlaid⟩ := h
  obtain ⟨m, hp, hq⟩ := hsame
  obtain ⟨rfl, -⟩ := Prod.mk.inj (Except.ok.inj (hp.symm.trans hat.look))
  exact ⟨files, ⟨m, hq, hroom, hat.files⟩, hlaid⟩

theorem Stored.hasRoom (h : Stored ⟨p⟩ t slots) : p.HasRoom := by
  obtain ⟨files, ⟨l, hat⟩, -⟩ := h
  exact hat.room

end DiskStore

/-! ## The stages -/

/-- The contents `c'` are `c` without what carries the tag. -/
structure Contents.Purged (c : Contents) (T : Tag) (c' : Contents) : Prop where
  /-- what carried the tag is gone -/
  gone : ∀ k, c.Carries k T → c' k = none
  /-- all else is as it was -/
  kept : ∀ k, ¬ c.Carries k T → c' k = c k

namespace Command

open DiskStore

variable {s : DiskStore} {t t' : FileTree} {slots : Slots} {T : Tag}

/-- What has been read of a key is recorded in the index. -/
theorem indexKeys_cons_run (h : Stored s t slots) (k : Key) (rest : List Key) (x : TagIndex) :
    (indexKeys s (k :: rest) x).run t = (indexKeys s rest (x.record k (held slots k))).run t := by
  rw [indexKeys, run_andThen (h.get_run k)]
  cases held slots k with
  | none => rfl
  | some e => rfl

/-- **Indexing.** Some keys are read, and the tags of their entries linked to them. -/
theorem indexKeys_run (h : Stored s t slots) (ks : List Key) (x : TagIndex) :
    ∃ x', (indexKeys s ks x).run t = (.ok x', t) ∧
      ∀ u k, x'.Linked u k ↔ (k ∈ ks ∧ (held slots).Carries k u) ∨ x.Linked u k := by
  induction ks generalizing x with
  | nil => exact ⟨x, rfl, fun u k => by simp⟩
  | cons j rest ih =>
    obtain ⟨x', hrun, hlinked⟩ := ih (x.record j (held slots j))
    refine ⟨x', (indexKeys_cons_run h j rest x).trans hrun, fun u k => ?_⟩
    rw [hlinked, TagIndex.linked_record, List.mem_cons, or_and_right, or_assoc, or_left_comm]
    refine or_congr_left (and_congr_right fun hk => ?_)
    rw [hk]
    exact Iff.rfl

/-- **Deleting.** Some keys are removed, and those that had an entry are counted. -/
theorem deleteKeys_run (h : Stored s t slots) {ks : List Key} (hks : ks.Nodup) (n : Nat) :
    ∃ t' slots', (deleteKeys s ks n).run t =
        (.ok (n + ks.countP fun k => (held slots k).isSome), t') ∧
      Stored s t' slots' ∧ held slots' = (held slots).withoutAll ks := by
  induction ks generalizing t slots n with
  | nil =>
    refine ⟨t, slots, rfl, h, ?_⟩
    funext k
    simp [Contents.withoutAll]
  | cons k rest ih =>
    obtain ⟨hk, hrest⟩ := List.nodup_cons.mp hks
    obtain ⟨t₁, hdelete, h₁⟩ := h.delete_run k
    obtain ⟨t', slots', hrun, h', hheld⟩ := ih h₁ hrest (if (held slots k).isSome then n + 1 else n)
    -- the removal of one key does not matter to the count of the others
    have hcount : (rest.countP fun j => (held (slots.remove k) j).isSome) =
        rest.countP fun j => (held slots j).isSome := by
      refine List.countP_congr fun j hj => ?_
      have hne : j ≠ k := fun heq => hk (heq ▸ hj)
      rw [held_remove, Contents.without_of_ne _ hne]
    have hsum : (if (held slots k).isSome then n + 1 else n) +
        (rest.countP fun j => (held slots j).isSome) =
        n + ((k :: rest).countP fun j => (held slots j).isSome) := by
      rw [List.countP_cons]
      split <;> omega
    refine ⟨t', slots', ?_, h', ?_⟩
    · rw [deleteKeys, run_andThen hdelete, hrun, hcount, hsum]
    · rw [hheld, held_remove, Contents.withoutAll_cons]

/-! ## The commands -/

/-- **Listing** prints the keys that are held and start with the text, each on its line. -/
theorem keys_run (h : Stored s t slots) (order : KeyOrder) (policy : Policy) (now : Instant)
    (start : String) :
    ∃ ks : List Key,
      ((keys start).run order policy now s).run t =
        (.ok (String.join (ks.map fun k => line k.text)), t) ∧
      ks.Pairwise (· < ·) ∧ ∀ k, k ∈ ks ↔ (held slots k).isSome ∧ k.startsWith start := by
  obtain ⟨ks, hlist, hsorted, hmem⟩ := h.list_run start
  exact ⟨ks, run_andThen hlist, hsorted, hmem⟩

/-- **Purging a tag** takes away what carries it, in whatever order, and prints how much that was. -/
theorem purgeTag_run (h : Stored s t slots) (order : KeyOrder) (policy : Policy) (now : Instant)
    (T : Tag) :
    ∃ (n : Nat) (t' : FileTree) (slots' : Slots),
      ((purgeTag T).run order policy now s).run t =
        (.ok (line (T ++ ": purged " ++ toString n ++ " entries")), t') ∧
      {k | (held slots).Carries k T}.encard = n ∧
      Stored s t' slots' ∧ (held slots).Purged T (held slots') := by
  obtain ⟨ks, hlist, -, hks⟩ := h.list_run ""
  obtain ⟨x, hindex, hlinked⟩ := indexKeys_run h ks ∅
  obtain ⟨t', slots', hdelete, h', hheld⟩ :=
    deleteKeys_run h (order.nodup (x.keysForTag T)) 0
  -- every key with an entry is listed, so the index has all that carry the tag
  have hmem : ∀ k, k ∈ order.toList (x.keysForTag T) ↔ (held slots).Carries k T := by
    intro k
    have hnone : ¬ (∅ : TagIndex).Linked T k := SortedSet.not_mem_empty k
    rw [order.mem_iff]
    refine (hlinked T k).trans ?_
    rw [or_iff_left hnone, hks]
    refine and_iff_right_of_imp ?_
    rintro ⟨e, he, -⟩
    exact ⟨by rw [he, Option.isSome_some], Key.startsWith_iff.mpr ⟨k.text, String.empty_append.symm⟩⟩
  have hheldAll : ∀ k ∈ order.toList (x.keysForTag T), (held slots k).isSome := by
    intro k hk
    obtain ⟨e, he, -⟩ := (hmem k).mp hk
    rw [he, Option.isSome_some]
  rw [List.countP_eq_length.mpr hheldAll, Nat.zero_add] at hdelete
  refine ⟨(order.toList (x.keysForTag T)).length, t', slots', ?_, ?_, h', fun k hk => ?_,
    fun k hk => ?_⟩
  · rw [run, run_andThen hlist, run_andThen hindex, run_andThen hdelete]
    rfl
  · rw [← encard_of_nodup (order.nodup (x.keysForTag T))]
    exact congrArg _ (Set.ext fun k => (hmem k).symm)
  · rw [hheld, Contents.withoutAll, if_pos ((hmem k).mpr hk)]
  · rw [hheld, Contents.withoutAll, if_neg fun hin => hk ((hmem k).mp hin)]

end Command

/-! ## Runs of the program -/

open DiskStore Command

/-- What the program makes of a folder after a purge of a tag, whose contents were `c`. -/
structure PurgedBy (c : Contents) (T : Tag) (root : Path) (t' : FileTree) : Prop where
  /-- what carried the tag is gone, and all else is read as it was -/
  read : ∃ c', Shows ⟨root⟩ t' c' ∧ c.Purged T c'
  /-- the keys that are printed for a text are those of what is left, in the order of their bytes -/
  keys : ∀ order words environment now P, Asks words environment t' root (.keys P) →
    ∃ ks : List Key, (runProgramIn order words environment now).run t' =
        (⟨0, String.join (ks.map fun k => line k.text), none⟩, t') ∧
      (ks.Pairwise fun j k => j.text.toUTF8.toList < k.text.toUTF8.toList) ∧
      ∀ k, k ∈ ks ↔ ((c k).isSome ∧ ¬ c.Carries k T) ∧ ∃ rest, k.text = P ++ rest
  /-- there is nothing left to purge -/
  again : ∀ order words environment now, Asks words environment t' root (.purgeTag T) →
    ((runProgramIn order words environment now).run t').1 =
      ⟨0, line (T ++ ": purged 0 entries"), none⟩

variable {words : List String} {environment : Environment} {s : DiskStore} {t t' : FileTree}
  {slots : Slots} {root : Path} {T : Tag} {c c' : Contents} {l : Location}

/-- A run that lists keys. -/
theorem runProgramIn_keys (h : Stored ⟨root⟩ t slots) {P : String}
    (hasks : Asks words environment t root (.keys P)) (order : KeyOrder) (now : Instant) :
    ∃ ks : List Key, (runProgramIn order words environment now).run t =
        (⟨0, String.join (ks.map fun k => line k.text), none⟩, t) ∧
      ks.Pairwise (· < ·) ∧ ∀ k, k ∈ ks ↔ (held slots k).isSome ∧ k.startsWith P := by
  obtain ⟨q, policy, hfolder, hroom, hrun⟩ := hasks.run
  obtain ⟨ks, hkeys, hks⟩ := keys_run (h.of_sameFolder hfolder hroom) order policy now P
  exact ⟨ks, hrun order now _ t hkeys, hks⟩

/-- A run that purges a tag. -/
theorem runProgramIn_purgeTag (h : Stored ⟨root⟩ t slots)
    (hasks : Asks words environment t root (.purgeTag T)) (order : KeyOrder) (now : Instant) :
    ∃ (n : Nat) (t' : FileTree) (slots' : Slots) (l : Location),
      (runProgramIn order words environment now).run t =
        (⟨0, line (T ++ ": purged " ++ toString n ++ " entries"), none⟩, t') ∧
      {k | (held slots).Carries k T}.encard = n ∧
      Stored ⟨root⟩ t' slots' ∧ (held slots).Purged T (held slots') ∧
      t.look root = .ok (l, some .folder) ∧ t.SameOutside l t' := by
  obtain ⟨q, policy, ⟨l, hroot, hq⟩, hroom, hrun⟩ := hasks.run
  obtain ⟨n, t', slots', hpurge, hn, h', hpurged⟩ :=
    purgeTag_run (h.of_sameFolder ⟨l, hroot, hq⟩ hroom) order policy now T
  have hsame : t.SameOutside l t' := by
    have hinside := sameOutside_run hq (inside_run order policy now ⟨q⟩ (.purgeTag T))
    rwa [hpurge] at hinside
  refine ⟨n, t', slots', l, hrun order now _ t' hpurge, hn, ?_, hpurged, hroot, hsame⟩
  exact h'.of_sameFolder ⟨l, hsame.look_folder hq, hsame.look_folder hroot⟩ h.hasRoom

/-- What has been purged is not there to be purged. -/
theorem Contents.Purged.not_carries (h : c.Purged T c') (k : Key) : ¬ c'.Carries k T := by
  rintro ⟨e, he, hT⟩
  by_cases hk : c.Carries k T
  · exact nomatch (h.gone k hk).symm.trans he
  · exact hk ⟨e, (h.kept k hk).symm.trans he, hT⟩

/-- What is left is what did not carry the tag. -/
theorem Contents.Purged.isSome_iff (h : c.Purged T c') (k : Key) :
    (c' k).isSome ↔ (c k).isSome ∧ ¬ c.Carries k T := by
  by_cases hk : c.Carries k T
  · simp [h.gone k hk, hk]
  · simp [h.kept k hk, hk]

/-- What the program makes of a folder from which a tag has been purged. -/
theorem Contents.Purged.purgedBy (h : c.Purged T (held slots)) (hs : Stored ⟨root⟩ t slots) :
    PurgedBy c T root t where
  read := ⟨held slots, hs.shows, h⟩
  keys order words environment now P hasks := by
    obtain ⟨ks, hrun, hsorted, hmem⟩ := runProgramIn_keys hs hasks order now
    refine ⟨ks, hrun, hsorted.imp (Key.lt_iff_bytes_lt ..).mp, fun k => ?_⟩
    rw [hmem, Key.startsWith_iff, h.isSome_iff]
  again order words environment now hasks := by
    obtain ⟨n, t', slots', l, hrun, hn, -⟩ := runProgramIn_purgeTag hs hasks order now
    have hnone : {k | (held slots).Carries k T} = ∅ :=
      Set.eq_empty_of_forall_notMem h.not_carries
    rw [hnone, Set.encard_empty] at hn
    obtain rfl : n = 0 := by exact_mod_cast hn.symm
    have htext : ": purged " ++ (toString 0 ++ " entries") = ": purged 0 entries" := by decide
    rw [hrun, String.append_assoc, String.append_assoc, htext]

/-- **A purge of a tag is exact.** In a folder that a store has made, by writes and removals of keys
with distinct digests, a run that is asked to purge a tag succeeds and prints how many entries carry
it, in whatever order it removes them. These are gone then, and all others are as they were; they are
what is printed of the keys that start with any text, and to purge the tag again removes nothing. The
words that asked for something before ask for the same then, unless files of their settings are in the
folder. -/
theorem purge_tag_exact {keys : Set Key} (hkeys : keys.InjOn Key.digest)
    (h : Reached ⟨root⟩ keys t) (hasks : Asks words environment t root (.purgeTag T))
    (order : KeyOrder) (now : Instant) :
    ∃ (c : Contents) (n : Nat) (t' : FileTree), Shows ⟨root⟩ t c ∧ {k | c.Carries k T}.encard = n ∧
      (runProgramIn order words environment now).run t =
        (⟨0, line (T ++ ": purged " ++ toString n ++ " entries"), none⟩, t') ∧
      PurgedBy c T root t' ∧
      ∀ words' environment' command, Asks words' environment' t root command →
        SettingsElsewhere words' environment' t root →
        Asks words' environment' t' root command := by
  obtain ⟨slots, hs, -⟩ := h.stored hkeys
  obtain ⟨n, t', slots', l, hrun, hn, hs', hpurged, hlook, hsame⟩ :=
    runProgramIn_purgeTag hs hasks order now
  exact ⟨held slots, n, t', hs.shows, hn, hrun, hpurged.purgedBy hs',
    fun words' environment' command hasks' helse => hasks'.after hlook hsame helse⟩

/-- A page that carries a tag. -/
def taggedEntry : Entry := { homeEntry with tags := .ofList ["news"] }

/-- The folder after a page without the tag has been written. -/
def untaggedTree : FileTree :=
  ((cacheFolder.put (stagingToken 0) (stagingToken 1) aboutEntry none).run bareTree).2

/-- The folder after the page with the tag has been written too. -/
def taggedTree : FileTree :=
  ((cacheFolder.put (stagingToken 2) (stagingToken 3) taggedEntry none).run untaggedTree).2

/-- The words that ask to purge the tag. -/
def purgeNews : List String := ["--cache-dir", "cache", "purge-tag", "news"]

/-- The two pages. -/
def taggedContents : Contents :=
  Function.update (Function.update (fun _ => none) aboutEntry.key (some aboutEntry.persisted))
    taggedEntry.key (some taggedEntry.persisted)

/-- They are all that is held there. -/
theorem stored_taggedTree :
    ∃ slots, Stored cacheFolder taggedTree slots ∧ held slots = taggedContents := by
  have hnone : Alone (fun _ => none) aboutEntry.key :=
    fun _ he => absurd he.symm (Option.some_ne_none _)
  obtain ⟨t₁, hrun₁, h₁, hheld₁⟩ := ready_cacheFolder.stored.put_run_of_alone (e := aboutEntry)
    (o := none) hnone (by decide) (isToken_stagingToken 0) (isToken_stagingToken 1) (by decide)
  have hwithin : Within (Slots.put (fun _ => none) aboutEntry) {homeEntry.key, aboutEntry.key} :=
    Within.put (fun _ _ he => absurd he.symm (Option.some_ne_none _)) (by simp)
  have halone : Alone (Slots.put (fun _ => none) aboutEntry) taggedEntry.key :=
    h₁.alone injOn_homeAndAbout hwithin (by simp [taggedEntry])
  have hempty : held (Slots.put (fun _ => none) aboutEntry) taggedEntry.key = none := by
    rw [hheld₁, Function.update_of_ne (by decide)]
    rfl
  obtain ⟨t₂, hrun₂, h₂, hheld₂⟩ := h₁.put_run_of_alone (e := taggedEntry) (o := none) halone
    (by rw [Contents.generation, hempty]; decide) (isToken_stagingToken 2) (isToken_stagingToken 3)
    (by decide)
  have htree : taggedTree = t₂ := by
    rw [taggedTree, untaggedTree, hrun₁, hrun₂]
  refine ⟨_, htree ▸ h₂, ?_⟩
  rw [hheld₂, hheld₁]
  rfl

theorem reached_taggedTree :
    Reached cacheFolder {homeEntry.key, aboutEntry.key} taggedTree := by
  have huntagged : Reached cacheFolder {homeEntry.key, aboutEntry.key} untaggedTree := by
    rw [untaggedTree]
    exact .put (.ready ready_cacheFolder) (isToken_stagingToken 0) (isToken_stagingToken 1)
      (by simp) (by decide) (.of_run _ _)
  rw [taggedTree]
  exact .put huntagged (isToken_stagingToken 2) (isToken_stagingToken 3) (by simp [taggedEntry])
    (by decide) (.of_run _ _)

theorem sameOutside_taggedTree : bareTree.SameOutside ["cache"] taggedTree := by
  have huntagged : bareTree.SameOutside ["cache"] untaggedTree := by
    rw [untaggedTree]
    exact sameOutside_run look_cacheFolder (inside_put ..)
  rw [taggedTree]
  exact huntagged.trans (sameOutside_run (huntagged.look_folder look_cacheFolder) (inside_put ..))

theorem parse_purgeNews :
    Arguments.parse ((∅ : Environment).get? Arguments.configVariable) purgeNews =
      .ok ⟨none, ⟨some "cache", none, none⟩, .purgeTag "news"⟩ := rfl

/-- Nothing but the folder is there. -/
theorem node?_bareTree (m : Location) (bytes : ByteArray) :
    bareTree.node? m ≠ some (.file bytes) := by
  have hget : bareTree.nodes.get? m = if ["cache"] = m then some .folder else none := rfl
  rw [node?, hget]
  split
  · simp
  · split <;> simp

/-- Without files of settings the words say what to do and where. -/
theorem asks_purgeNews : Asks purgeNews ∅ bareTree cacheFolder.root (.purgeTag "news") := by
  have hpath : Path.ofText "cache" = cacheFolder.root := by
    rw [Path.ofText_eq]
    decide
  have hload : (Settings.load none ∅ ⟨some "cache", none, none⟩).run bareTree =
      (.ok ⟨{ CacheConfig.default with directory := "cache" }, .info, .compact⟩, bareTree) :=
    Settings.load_of_missing fun _ _ q _ => isFile_eq_false node?_bareTree q
  refine ⟨_, _, parse_purgeNews, rfl, congrArg Prod.fst hload, ?_, ?_⟩
  · show bareTree.SameFolder cacheFolder.root (Path.ofText "cache")
    rw [hpath]
    exact ⟨_, look_cacheFolder, look_cacheFolder⟩
  · show (Path.ofText "cache").HasRoom
    rw [hpath]
    exact ready_cacheFolder.room

/-- Files of settings are looked for in other folders. -/
theorem settingsElsewhere_purgeNews :
    SettingsElsewhere purgeNews ∅ bareTree cacheFolder.root := by
  intro a l hparse hlook name hname q hq
  obtain rfl := Except.ok.inj (parse_purgeNews.symm.trans hparse)
  obtain ⟨rfl, -⟩ := Prod.mk.inj (Except.ok.inj (look_cacheFolder.symm.trans hlook))
  have hmem : q ∈ (Settings.fileNames none).flatMap SettingsFile.candidates :=
    List.mem_flatMap.mpr ⟨name, hname, hq⟩
  rw [Settings.candidates_fileNames] at hmem
  have hwalks : ∀ q ∈ ([⟨["config", "default"]⟩, ⟨["config", "default.toml"]⟩,
      ⟨["config", "default.json"]⟩, ⟨["render-cache"]⟩, ⟨["render-cache.toml"]⟩,
      ⟨["render-cache.json"]⟩] : List Path), bareTree.walk q.start q.way.dropLast ≠ .ok ["cache"] := by
    decide
  exact elsewhere_of_walk (hwalks q hmem)

/-- They are all that is read there. -/
theorem eq_taggedContents {c : Contents} (h : Shows cacheFolder taggedTree c) :
    c = taggedContents := by
  obtain ⟨slots, hs, hheld⟩ := stored_taggedTree
  rw [← hheld]
  funext k
  exact Except.ok.inj (Prod.mk.inj ((h.get k).symm.trans (hs.get_run k))).1

/-- One of them carries the tag. -/
theorem carries_taggedContents (k : Key) :
    taggedContents.Carries k "news" ↔ k = taggedEntry.key := by
  rw [Contents.Carries, taggedContents]
  by_cases hk : k = taggedEntry.key
  · rw [hk, Function.update_self]
    exact ⟨fun _ => rfl, fun _ => ⟨_, rfl, by decide⟩⟩
  · rw [Function.update_of_ne hk]
    refine iff_of_false (fun ⟨e, he, htag⟩ => ?_) hk
    by_cases habout : k = aboutEntry.key
    · rw [habout, Function.update_self] at he
      obtain rfl := Option.some.inj he
      exact absurd htag (by decide)
    · rw [Function.update_of_ne habout] at he
      cases he

/-- The page is counted once and gone, the other page stays, and there is nothing to purge then. -/
theorem purge_tag_exact_of_tagged :
    ∃ t', (runProgram purgeNews ∅ .epoch).run taggedTree =
        (⟨0, line "news: purged 1 entries", none⟩, t') ∧
      (cacheFolder.get taggedEntry.key).run t' = (.ok none, t') ∧
      (cacheFolder.get aboutEntry.key).run t' = (.ok (some aboutEntry.persisted), t') ∧
      ((runProgram purgeNews ∅ .epoch).run t').1 = ⟨0, line "news: purged 0 entries", none⟩ := by
  have hasks := asks_purgeNews.after look_cacheFolder sameOutside_taggedTree
    settingsElsewhere_purgeNews
  have helsewhere := settingsElsewhere_purgeNews.after look_cacheFolder sameOutside_taggedTree
  obtain ⟨c, n, t', hc, hn, hrun, hpurged, hafter⟩ :=
    purge_tag_exact injOn_homeAndAbout reached_taggedTree hasks .sorted .epoch
  obtain rfl := eq_taggedContents hc
  have hone : {k | taggedContents.Carries k "news"} = {taggedEntry.key} :=
    Set.ext carries_taggedContents
  rw [hone, Set.encard_singleton] at hn
  obtain rfl : n = 1 := by exact_mod_cast hn.symm
  obtain ⟨c', hshows, hc'⟩ := hpurged.read
  have hgone : c' taggedEntry.key = none := hc'.gone _ ((carries_taggedContents _).mpr rfl)
  have hstays : c' aboutEntry.key = some aboutEntry.persisted :=
    hc'.kept _ fun h => absurd ((carries_taggedContents _).mp h) (by decide)
  refine ⟨t', hrun, ?_, ?_, hpurged.again _ _ _ .epoch (hafter _ _ _ hasks helsewhere)⟩
  · rw [← hgone]
    exact hshows.get _
  · rw [← hstays]
    exact hshows.get _

end PageCache
