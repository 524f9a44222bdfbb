import PageCache.Proofs.Store.Disk

/-!
# Changes of a folder are all or nothing

A folder that was empty once, and that the store has changed since, may have seen any number of writes
and removals that failed or were broken off in the middle. Its readers do not: they see the contents
before a change or those after it, whatever the files look like in between.

* `Reached` — the folders that can come about;
* `Shows` — what a reader gets from a folder, with every key and the list of them;
* `changes_all_or_nothing` — each further write or removal.
-/

namespace PageCache

open FileProgram Function

namespace DiskStore

/-- The trees that an empty folder comes to by writes and removals of some keys, which come to their
end, fail, or are broken off. -/
inductive Reached (s : DiskStore) (keys : Set Key) : FileTree → Prop where
  /-- nothing has been done -/
  | ready {t} : Ready s t → Reached s keys t
  /-- a write -/
  | put {t bodyToken recordToken e o out t'} : Reached s keys t → IsToken bodyToken →
      IsToken recordToken → e.key ∈ keys → e.generation < 18446744073709551616 →
      Runs True (s.put bodyToken recordToken e o) t out t' → Reached s keys t'
  /-- a removal -/
  | delete {t k out t'} : Reached s keys t → Runs True (s.delete k) t out t' → Reached s keys t'

/-- What a reader gets from a folder. -/
structure Shows (s : DiskStore) (t : FileTree) (c : Contents) : Prop where
  /-- each key is read without an error, and the tree stays -/
  get : ∀ k, (s.get k).run t = (.ok (c k), t)
  /-- the list of all keys has those that have an entry, in order -/
  list : ∃ ks, (s.list "").run t = (.ok ks, t) ∧ ks.Pairwise (· < ·) ∧ ∀ k, k ∈ ks ↔ (c k).isSome

variable {s : DiskStore} {t t' : FileTree} {slots : Slots} {keys : Set Key} {k : Key} {e : Entry}

/-- A reader gets what the slots hold. -/
theorem Stored.shows (h : Stored s t slots) : Shows s t (held slots) where
  get := h.get_run
  list := by
    obtain ⟨ks, hr, hsorted, hmem⟩ := h.list_run ""
    exact ⟨ks, hr, hsorted, fun k => (hmem k).trans (and_iff_left rfl)⟩

/-! ## What can come about -/

/-- What a write leaves, however it ends. -/
theorem Stored.put_runs (h : Stored s t slots) (halone : Alone slots e.key)
    {bodyToken recordToken : String} {o : Option Generation}
    {out : Option (Except StoreError PutOutcome)} (hbt : IsToken bodyToken)
    (hrt : IsToken recordToken) (hg : e.generation < 18446744073709551616)
    (hrun : Runs True (s.put bodyToken recordToken e o) t out t') :
    ∃ slots', Stored s t' slots' ∧ (slots' = slots ∨ slots' = slots.put e) ∧
      (∀ err, out = some (.error err) → slots' = slots) ∧
      (out = some (.ok .stored) → slots' = slots.put e) ∧
      ∀ g, out = some (.ok (.conflict g)) → slots' = slots := by
  have hends := ends_put h hbt hrt hg out t' hrun
  rcases out with _ | err | a
  · rcases hends.2 with hs | hs
    · exact ⟨_, hs halone, .inl rfl, nofun, nofun, nofun⟩
    · exact ⟨_, hs, .inr rfl, nofun, nofun, nofun⟩
  · exact ⟨_, hends.2 halone, .inl rfl, fun _ _ => rfl, nofun, fun _ _ => rfl⟩
  · obtain ⟨-, hs⟩ := hends
    cases a with
    | stored =>
      rw [if_pos rfl] at hs
      exact ⟨_, hs, .inr rfl, nofun, fun _ => rfl, nofun⟩
    | conflict g =>
      rw [if_neg nofun] at hs
      exact ⟨_, hs, .inl rfl, nofun, nofun, fun _ _ => rfl⟩

/-- What a removal leaves, however it ends. -/
theorem Stored.delete_runs (h : Stored s t slots) {out : Option (Except StoreError Bool)}
    (hrun : Runs True (s.delete k) t out t') :
    ∃ slots', Stored s t' slots' ∧ (slots' = slots ∨ slots' = slots.remove k) ∧
      ∀ b, out = some (.ok b) → b = (held slots k).isSome ∧ slots' = slots.remove k := by
  have hends := ends_delete h k out t' hrun
  rcases out with _ | err | b
  · rcases hends.2.resolve_right id with hs | hs
    · exact ⟨_, hs, .inl rfl, nofun⟩
    · exact ⟨_, hs, .inr rfl, nofun⟩
  · rcases hends.2 with hs | hs
    · exact ⟨_, hs, .inl rfl, nofun⟩
    · exact ⟨_, hs, .inr rfl, nofun⟩
  · obtain ⟨rfl, hs⟩ := hends
    refine ⟨_, hs, .inr rfl, fun b hb => ⟨?_, rfl⟩⟩
    injection hb with hb
    injection hb with hb
    exact hb.symm

/-- **What can come about** has slots, with entries of the given keys. -/
theorem Reached.stored (h : Reached s keys t) (hkeys : keys.InjOn Key.digest) :
    ∃ slots, Stored s t slots ∧ Within slots keys := by
  induction h with
  | ready h => exact ⟨_, h.stored, fun _ _ he => absurd he.symm (Option.some_ne_none _)⟩
  | put _ hbt hrt hk hg hrun ih =>
    obtain ⟨slots, hs, hwithin⟩ := ih
    obtain ⟨slots', hs', hor, -⟩ := hs.put_runs (hs.alone hkeys hwithin hk) hbt hrt hg hrun
    rcases hor with rfl | rfl
    · exact ⟨_, hs', hwithin⟩
    · exact ⟨_, hs', hwithin.put hk⟩
  | delete _ hrun ih =>
    obtain ⟨slots, hs, hwithin⟩ := ih
    obtain ⟨slots', hs', hor, -⟩ := hs.delete_runs hrun
    rcases hor with rfl | rfl
    · exact ⟨_, hs', hwithin⟩
    · exact ⟨_, hs', hwithin.remove _⟩

/-- **All or nothing.** Whatever has happened to a folder, a further write leaves what was there or
the new entry beside all others, and a further removal what was there or all but the removed entry,
also if it fails or is broken off. A write that fails or meets a conflict leaves what was there. -/
theorem changes_all_or_nothing (hkeys : keys.InjOn Key.digest) (h : Reached s keys t) :
    ∃ c, Shows s t c ∧
      (∀ bodyToken recordToken e o out t', IsToken bodyToken → IsToken recordToken →
        e.key ∈ keys → e.generation < 18446744073709551616 →
        Runs True (s.put bodyToken recordToken e o) t out t' →
        ∃ c', Shows s t' c' ∧ (c' = c ∨ c' = update c e.key (some e.persisted)) ∧
          (∀ err, out = some (.error err) → c' = c) ∧
          (out = some (.ok .stored) → c' = update c e.key (some e.persisted)) ∧
          ∀ g, out = some (.ok (.conflict g)) → c' = c) ∧
      ∀ k out t', Runs True (s.delete k) t out t' →
        ∃ c', Shows s t' c' ∧ (c' = c ∨ c' = c.without k) ∧
          ∀ b, out = some (.ok b) → b = (c k).isSome ∧ c' = c.without k := by
  obtain ⟨slots, hs, hwithin⟩ := h.stored hkeys
  refine ⟨held slots, hs.shows, ?_, ?_⟩
  · intro bodyToken recordToken e o out t' hbt hrt hk hg hrun
    have halone := hs.alone hkeys hwithin hk
    obtain ⟨slots', hs', hor, herror, hstored, hconflict⟩ := hs.put_runs halone hbt hrt hg hrun
    rw [← held_put_of_alone halone]
    exact ⟨held slots', hs'.shows, hor.imp (congrArg held) (congrArg held),
      fun err he => congrArg held (herror err he), fun ho => congrArg held (hstored ho),
      fun g ho => congrArg held (hconflict g ho)⟩
  · intro k out t' hrun
    obtain ⟨slots', hs', hor, hok⟩ := hs.delete_runs hrun
    rw [← held_remove]
    exact ⟨held slots', hs'.shows, hor.imp (congrArg held) (congrArg held),
      fun b ho => ⟨(hok b ho).1, congrArg held (hok b ho).2⟩⟩

/-- The tree after the entry has been written. -/
def homeTree : FileTree :=
  ((cacheFolder.put (stagingToken 0) (stagingToken 1) homeEntry none).run bareTree).2

/-- Wherever the removal of the one entry is broken off, it is there or gone. -/
theorem removal_of_home_all_or_nothing :
    ∃ c, Shows cacheFolder homeTree c ∧ ∀ t',
      Runs True (cacheFolder.delete homeEntry.key) homeTree none t' →
      ∃ c', Shows cacheFolder t' c' ∧ (c' = c ∨ c' = c.without homeEntry.key) := by
  have hreached : Reached cacheFolder {homeEntry.key} homeTree :=
    .put (.ready ready_cacheFolder) (isToken_stagingToken 0) (isToken_stagingToken 1) rfl
      (by decide) (.of_run _ _)
  obtain ⟨c, hc, -, hdelete⟩ := changes_all_or_nothing (Set.injOn_singleton _ _) hreached
  refine ⟨c, hc, fun t' hrun => ?_⟩
  obtain ⟨c', hc', hor, -⟩ := hdelete _ none t' hrun
  exact ⟨c', hc', hor⟩

end DiskStore

end PageCache
