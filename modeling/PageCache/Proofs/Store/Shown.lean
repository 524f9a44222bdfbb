import PageCache.Proofs.Store.Disk

/-!
# What a reading shows and a write accepts

A reading goes by the record of a key and by its body, a write by the record alone. Whatever files
are in the folder, the two agree on the generation of a key unless its record is without its body:

* **reading** — `ends_shown`: the answer is what the files show, and that there is an answer says that
  they can be read;
* **writing** — `lies_of_put_stored`: an entry that has been accepted lies in the folder, whatever else
  does, and `ends_put_accepted`: what is newer than what is shown is accepted;
* **agreement** — `Legible.generation_shown`: what is shown has the generation that is recorded.

An orphaned record is where they part. It is read as no entry and refuses all who saw none, and as
neither changes a file, this stays so until the key is removed.
-/

namespace PageCache

open FileProgram FileTree Function

namespace DiskStore

variable {faults : Prop} {s : DiskStore} {t t' : FileTree} {files : Files} {k : Key} {r : Record}
  {e : Entry} {o : Option Generation} {bodyToken recordToken : String}

/-! ## Agreement -/

/-- **Agreement.** What is shown has the generation that is recorded, if the record has its body. -/
theorem Legible.generation_shown (h : Legible files k) (horphaned : ¬ Orphaned files k) :
    (shown files k).map (·.generation) = (recorded files k).map (·.generation) := by
  unfold shown
  cases hr : recorded files k with
  | none => rfl
  | some r =>
    cases hbody : files (bodyName k r.generation) with
    | none => exact absurd ⟨r, hr, hbody⟩ horphaned
    | some body =>
      obtain ⟨e, he⟩ := h.entry r body hr hbody
      rw [Option.bind_some, hbody, Option.bind_some, he, Option.map_some, Option.map_some,
        Record.generation_of_entry he]

/-! ## Writing -/

/-- **A write that has been answered** well has stored its entry, whatever the folder was like. -/
theorem lies_of_put_stored (h : Holds t s.root files) (hbt : IsToken bodyToken)
    (hrt : IsToken recordToken) (hg : e.generation < 18446744073709551616)
    (hput : Runs True (s.put bodyToken recordToken e o) t (some (.ok .stored)) t') :
    ∃ files', Holds t' s.root files' ∧ Lies files' e.key (some e.persisted) := by
  cases hc : checkGeneration ((recorded files e.key).map (·.generation)) o e.generation with
  | conflict c =>
    obtain ⟨-, hanswer⟩ := ends_put_of_conflict h (.inr trivial) hc _ _ hput
    cases hanswer
  | stored =>
    obtain ⟨-, files', h', -, hlies⟩ := ends_put_of_stored h (.inr trivial) hc hbt hrt hg _ _ hput
    exact ⟨files', h', hlies⟩

/-! ## What is shown is accepted -/

/-- What lies in the slot of its own key is recorded. -/
theorem recorded_of_lies (h : Lies files e.key (some e)) :
    recorded files e.key = some (.ofEntry e) := by
  rw [h.recorded, Option.filter_some, if_pos (decide_eq_true rfl), Option.map_some]

/-- It is shown. -/
theorem shown_of_lies (h : Lies files e.key (some e)) : shown files e.key = some e := by
  rw [h.shown, Option.filter_some, if_pos (decide_eq_true rfl)]

/-- The record is not without its body. -/
theorem Lies.not_orphaned (h : Lies files e.key (some e)) : ¬ Orphaned files e.key := by
  rintro ⟨r, hr, hbody⟩
  obtain rfl := Option.some.inj ((recorded_of_lies h).symm.trans hr)
  exact nomatch (h.body e rfl).symm.trans hbody

/-- **The loss of its body** leaves the record orphaned. -/
theorem Lies.orphaned (h : Lies files e.key (some e)) :
    Orphaned (Function.update files (bodyName e.key e.generation) none) e.key :=
  ⟨.ofEntry e, by rw [recorded_update_body, recorded_of_lies h], update_self ..⟩

/-- What lies in the folder is read. -/
theorem ends_get_of_lies (h : Holds t s.root files) (hlies : Lies files e.key (some e)) :
    Ends faults (s.get e.key) t (Reads faults t (· = some e)) := by
  have hends : Ends faults (s.get e.key) t _ := ends_shown h (.inl hlies.legible)
  rw [shown_of_lies hlies] at hends
  exact hends.mono fun _ _ hout => hout.imp fun _ => And.right

/-- **An entry that is newer than what is shown** is accepted, if the record has its body. -/
theorem ends_put_accepted (h : Holds t s.root files) (hlegible : Legible files e.key)
    (horphaned : ¬ Orphaned files e.key) (hbt : IsToken bodyToken) (hrt : IsToken recordToken)
    (hg : e.generation < 18446744073709551616)
    (hnewer : ((shown files e.key).map (·.generation)).getD 0 < e.generation) :
    Ends faults (s.put bodyToken recordToken e ((shown files e.key).map (·.generation))) t
      (Accepted faults s e files) := by
  have hsame := (hlegible.generation_shown horphaned).symm
  exact ends_put_of_stored h (.inl hlegible.decodes)
    (checkGeneration_eq_stored_iff.mpr ⟨hsame, hnewer⟩) hbt hrt hg

/-- **An orphaned record** is read as no entry. -/
theorem Orphaned.ends_get (h : Orphaned files k) (hholds : Holds t s.root files) :
    Ends faults (s.get k) t (Reads faults t (· = none)) := by
  have hends : Ends faults (s.get k) t _ := ends_shown hholds (.inl h.legible)
  rw [h.shown] at hends
  exact hends.mono fun _ _ hout => hout.imp fun _ => And.right

/-- **Where an entry is recorded**, whoever saw none is refused. -/
theorem ends_put_refused (h : Holds t s.root files) (hr : recorded files e.key = some r) :
    Ends faults (s.put bodyToken recordToken e none) t
      (Reads faults t (· = .conflict (some r.generation))) := by
  refine ends_put_of_conflict h (.inl (decodes_of_recorded hr)) ?_
  rw [hr]
  rfl

/-- **An entry whose body has been lost** is read as no entry, and refuses whoever saw none. -/
theorem refused_of_body_lost (h : Holds t s.root files) (hlies : Lies files e.key (some e)) :
    ∃ t₁, t.remove (s.bodyPath e.key e.generation) = .ok t₁ ∧
      (s.get e.key).run t₁ = (.ok none, t₁) ∧
      ∀ bodyToken recordToken e', e'.key = e.key →
        (s.put bodyToken recordToken e' none).run t₁ = (.ok (.conflict (some e.generation)), t₁) := by
  have hremove := h.remove (fileName_bodyName e.key (hlies.generation e rfl))
  rw [hlies.body e rfl] at hremove
  obtain ⟨t₁, hremoved, h₁⟩ := hremove
  have horphaned := hlies.orphaned
  have hrecorded :=
    (recorded_update_body files e.key e.generation none).trans (recorded_of_lies hlies)
  obtain ⟨_, _, hget, rfl, rfl⟩ := run_ok (horphaned.ends_get h₁)
  refine ⟨_, hremoved, hget, fun bodyToken recordToken e' hkey => ?_⟩
  have hput : Ends False (s.put bodyToken recordToken e' none) _ _ :=
    ends_put_refused h₁ ((congrArg (recorded _) hkey).trans hrecorded)
  obtain ⟨_, _, hrun, rfl, rfl⟩ := run_ok hput
  exact hrun

/-- **What a reading shows, a write accepts**, unless the record is orphaned. An entry newer than
what has been read never meets a conflict; it is stored unless a call fails, and is what is read from
then on. An orphaned record has been read as no entry, and whatever entry is then written for it meets
a conflict and leaves all as it is. -/
theorem put_accepted_unless_orphaned {found : Option Entry} (h : Holds t s.root files)
    (hget : Runs True (s.get e.key) t (some (.ok found)) t') (hbt : IsToken bodyToken)
    (hrt : IsToken recordToken) (hg : e.generation < 18446744073709551616)
    (hnewer : (found.map (·.generation)).getD 0 < e.generation) :
    t' = t ∧
    (¬ Orphaned files e.key →
      (∃ t₁, (s.put bodyToken recordToken e (found.map (·.generation))).run t = (.ok .stored, t₁)) ∧
      ∀ a t₁, Runs True (s.put bodyToken recordToken e (found.map (·.generation))) t
          (some (.ok a)) t₁ →
        a = .stored ∧ (s.get e.key).run t₁ = (.ok (some e.persisted), t₁)) ∧
    (Orphaned files e.key → found = none ∧ ∃ g,
      (s.put bodyToken recordToken e none).run t = (.ok (.conflict (some g)), t) ∧
      ∀ a t₁, Runs True (s.put bodyToken recordToken e none) t (some (.ok a)) t₁ →
        a = .conflict (some g) ∧ t₁ = t) := by
  obtain ⟨rfl, hlegible, rfl⟩ := ends_shown h (.inr trivial) _ _ hget
  refine ⟨rfl, fun horphaned => ⟨?_, fun a t₁ hput => ?_⟩, fun horphaned => ?_⟩
  · obtain ⟨_, t₁, hrun, rfl, -⟩ := run_ok (ends_put_accepted h hlegible horphaned hbt hrt hg hnewer)
    exact ⟨t₁, hrun⟩
  · obtain ⟨rfl, files₁, h₁, -, hlies⟩ :=
      ends_put_accepted h hlegible horphaned hbt hrt hg hnewer _ _ hput
    obtain ⟨_, _, hrun, rfl, rfl⟩ := run_ok (ends_get_of_lies (e := e.persisted) h₁ hlies)
    exact ⟨rfl, hrun⟩
  · have hnone := horphaned.shown
    obtain ⟨r, hr, -⟩ := horphaned
    obtain ⟨_, _, hrun, rfl, rfl⟩ := run_ok (ends_put_refused h hr)
    refine ⟨hnone, r.generation, hrun, fun a t₁ hput => ?_⟩
    obtain ⟨rfl, rfl⟩ := ends_put_refused h hr _ _ hput
    exact ⟨rfl, rfl⟩

/-- An entry that is written to an empty folder lies there. -/
theorem lies_of_put_cacheFolder (hg : 0 < e.generation ∧ e.generation < 18446744073709551616) :
    ∃ t₁ files,
      (cacheFolder.put (stagingToken 0) (stagingToken 1) e none).run bareTree = (.ok .stored, t₁) ∧
      Holds t₁ cacheFolder.root files ∧ Lies files e.key (some e.persisted) := by
  have hempty := FileTree.holds_of_list_nil ready_cacheFolder.empty ready_cacheFolder.room
  have hdecodes : Decodes (fun _ => none) e.key := fun _ h => absurd h.symm (Option.some_ne_none _)
  have hnone : (recorded (fun _ => none) e.key).map (·.generation) = none := rfl
  have hput : Ends False (cacheFolder.put (stagingToken 0) (stagingToken 1) e none) bareTree _ :=
    ends_put_of_stored (o := none) hempty (.inl hdecodes)
      (checkGeneration_eq_stored_iff.mpr ⟨hnone, hg.1⟩) (isToken_stagingToken 0)
      (isToken_stagingToken 1) hg.2
  obtain ⟨_, t₁, hrun, rfl, files, h₁, -, hlies⟩ := run_ok hput
  exact ⟨t₁, files, hrun, h₁, hlies⟩

/-- An entry that comes after `homeEntry`. -/
def newerEntry : Entry := { homeEntry with body := "home page, anew".toUTF8, generation := 2 }

/-- An entry is stored, and whoever has read it replaces it by a newer one. -/
theorem home_accepted_in_cacheFolder :
    ∃ t₁ files t₂,
      (cacheFolder.put (stagingToken 0) (stagingToken 1) homeEntry none).run bareTree =
        (.ok .stored, t₁) ∧
      Holds t₁ cacheFolder.root files ∧
      (files (recordName homeEntry.key)).isSome ∧ (files (bodyName homeEntry.key 1)).isSome ∧
      Runs True (cacheFolder.get homeEntry.key) t₁ (some (.ok (some homeEntry.persisted))) t₁ ∧
      ¬ Orphaned files homeEntry.key ∧
      (cacheFolder.put (stagingToken 2) (stagingToken 3) newerEntry (some 1)).run t₁ =
        (.ok .stored, t₂) ∧
      (cacheFolder.get homeEntry.key).run t₂ = (.ok (some newerEntry.persisted), t₂) := by
  obtain ⟨t₁, files, hwritten, hholds, hlies⟩ := lies_of_put_cacheFolder (e := homeEntry) (by decide)
  obtain ⟨_, _, hget, rfl, rfl⟩ := run_ok (ends_get_of_lies (e := homeEntry.persisted) hholds hlies)
  have hno : ¬ Orphaned files homeEntry.key := hlies.not_orphaned
  obtain ⟨-, haccepted, -⟩ := put_accepted_unless_orphaned (e := newerEntry) hholds
    (.of_run_eq hget) (isToken_stagingToken 2) (isToken_stagingToken 3) (by decide) (by decide)
  obtain ⟨⟨t₂, hrun⟩, hok⟩ := haccepted hno
  refine ⟨_, files, t₂, hwritten, hholds, ?_, ?_, .of_run_eq hget, hno, hrun, ?_⟩
  · rw [hlies.record]
    rfl
  · exact Option.isSome_of_eq_some (hlies.body homeEntry.persisted rfl)
  · exact (hok _ _ (.of_run_eq hrun)).2

/-- An entry is stored and its body is lost. Whoever writes the entry anew, having seen none, meets a
conflict. -/
theorem home_refused_without_body :
    ∃ t₁ t₂,
      (cacheFolder.put (stagingToken 0) (stagingToken 1) homeEntry none).run bareTree =
        (.ok .stored, t₁) ∧
      t₁.remove (cacheFolder.bodyPath homeEntry.key 1) = .ok t₂ ∧
      (cacheFolder.get homeEntry.key).run t₂ = (.ok none, t₂) ∧
      (cacheFolder.put (stagingToken 2) (stagingToken 3) homeEntry none).run t₂ =
        (.ok (.conflict (some 1)), t₂) := by
  obtain ⟨t₁, files, hrun, h₁, hlies⟩ := lies_of_put_cacheFolder (e := homeEntry) (by decide)
  obtain ⟨t₂, hremoved, hget, hput⟩ := refused_of_body_lost (e := homeEntry.persisted) h₁ hlies
  exact ⟨t₁, t₂, hrun, hremoved, hget, hput _ _ homeEntry rfl⟩

end DiskStore

end PageCache
