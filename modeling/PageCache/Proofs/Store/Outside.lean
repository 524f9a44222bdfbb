import PageCache.Proofs.Files.Outside
import PageCache.Proofs.Store.Names

/-!
# A store stays in its folder

Whatever a store is asked, and whatever its calls are answered, it writes, moves and removes files by
their names in its own folder only. So nothing outside of the folder changes.

* `isIn_recordPath`, `isIn_bodyPath`, … — the paths that a store writes to;
* `inside_get`, `inside_put`, `inside_delete`, `inside_list` — its operations.
-/

namespace PageCache

open FileProgram

namespace DiskStore

variable {α β : Type} {S : FileCall → Prop}

/-! ## Programs of a store -/

theorem calls_andThen {p : FileProgram (Except StoreError α)}
    {next : α → FileProgram (Except StoreError β)} (hp : p.Calls S) (hnext : ∀ a, (next a).Calls S) :
    (andThen p next).Calls S := by
  apply hp.bind
  rintro (e | a)
  · exact .done _
  · exact hnext a

theorem calls_orFail {action : String} {p : Path} {r : Except IoError α}
    {next : α → FileProgram (Except StoreError β)} (hnext : ∀ a, (next a).Calls S) :
    (orFail action p r next).Calls S := by
  cases r with
  | ok a => exact hnext a
  | error e => exact .done _

/-! ## Paths in the folder -/

variable {s : DiskStore}

theorem isIn_recordPath (s : DiskStore) (k : Key) : s.root.IsIn (s.recordPath k) :=
  ⟨recordName k, (isName_of_digest k _).1, rfl⟩

theorem isIn_bodyPath (s : DiskStore) (k : Key) (g : Generation) : s.root.IsIn (s.bodyPath k g) := by
  refine ⟨bodyName k g, ?_, rfl⟩
  rw [bodyName_eq]
  exact (isName_of_digest k _).1

theorem isIn_recordStaging (s : DiskStore) (k : Key) (token : String) :
    s.root.IsIn (s.recordStaging k token) :=
  ⟨recordStagingName k token, (isName_of_digest k _).1, recordStaging_eq s k token⟩

theorem isIn_bodyStaging (s : DiskStore) (k : Key) (g : Generation) (token : String) :
    s.root.IsIn (s.bodyStaging k g token) :=
  ⟨bodyStagingName k g token, (isName_of_digest k _).1, bodyStaging_eq s k g token⟩

/-! ## Operations -/

theorem inside_readRecord (p q : Path) : (readRecord q).Calls (FileCall.Inside p) := by
  refine .call trivial fun r => ?_
  split
  · split <;> exact .done _
  · exact .done _
  · exact .done _

theorem inside_readKeyRecord (s : DiskStore) (k : Key) :
    (s.readKeyRecord k).Calls (FileCall.Inside s.root) :=
  calls_andThen (inside_readRecord ..) fun _ => .done _

theorem inside_writeAtomic {p staging target : Path} (hstaging : p.IsIn staging)
    (htarget : p.IsIn target) (bytes : ByteArray) :
    (writeAtomic staging target bytes).Calls (FileCall.Inside p) := by
  refine .call hstaging fun r => calls_orFail fun _ => ?_
  refine .call ⟨hstaging, htarget⟩ fun r => ?_
  split
  · exact .done _
  · exact .call hstaging fun _ => .done _

theorem inside_removeIfExists {p q : Path} (hq : p.IsIn q) :
    (removeIfExists q).Calls (FileCall.Inside p) := by
  refine .call hq fun r => ?_
  split <;> exact .done _

/-- **A reading** changes nothing outside of the folder. -/
theorem inside_get (s : DiskStore) (k : Key) : (s.get k).Calls (FileCall.Inside s.root) := by
  apply calls_andThen (inside_readKeyRecord s k)
  rintro (_ | r)
  · exact .done _
  · refine .call trivial fun body => ?_
    split
    · split <;> exact .done _
    · exact .done _
    · exact .done _

theorem inside_putRecord (s : DiskStore) (recordToken : String) (e : Entry)
    (current : Option Generation) :
    (s.putRecord recordToken e current).Calls (FileCall.Inside s.root) := by
  apply calls_andThen (inside_writeAtomic (isIn_recordStaging ..) (isIn_recordPath ..) _)
  intro _
  split
  · exact .done _
  · exact (inside_removeIfExists (isIn_bodyPath ..)).bind fun _ => .done _

/-- **A write** changes nothing outside of the folder. -/
theorem inside_put (s : DiskStore) (bodyToken recordToken : String) (e : Entry)
    (o : Option Generation) : (s.put bodyToken recordToken e o).Calls (FileCall.Inside s.root) := by
  apply calls_andThen (inside_readKeyRecord s e.key)
  intro old
  dsimp only
  split
  · exact .done _
  · split
    · apply calls_andThen (inside_writeAtomic (isIn_bodyStaging ..) (isIn_bodyPath ..) _)
      exact fun _ => inside_putRecord ..
    · exact .done _

/-- **A removal** changes nothing outside of the folder. -/
theorem inside_delete (s : DiskStore) (k : Key) : (s.delete k).Calls (FileCall.Inside s.root) := by
  apply calls_andThen (inside_readKeyRecord s k)
  rintro (_ | r)
  · exact .done _
  · apply calls_andThen (inside_removeIfExists (isIn_recordPath s k))
    intro _
    apply calls_andThen (inside_removeIfExists (isIn_bodyPath s k r.generation))
    exact fun _ => .done _

theorem inside_keysIn (s : DiskStore) (start : String) (names : List String) :
    (s.keysIn start names).Calls (FileCall.Inside s.root) := by
  induction names with
  | nil => exact .done _
  | cons name rest ih =>
    rw [keysIn]
    split
    · apply calls_andThen (inside_readRecord ..)
      intro r
      apply calls_andThen ih
      intro keys
      split <;> exact .done _
    · exact ih

/-- **A listing** changes nothing outside of the folder. -/
theorem inside_list (s : DiskStore) (start : String) :
    (s.list start).Calls (FileCall.Inside s.root) := by
  refine .call trivial fun r => calls_orFail fun names => ?_
  exact calls_andThen (inside_keysIn s start names) fun _ => .done _

end DiskStore

end PageCache
