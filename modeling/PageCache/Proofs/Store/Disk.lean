import PageCache.Proofs.Files.Interruption
import PageCache.Proofs.Store.Lawful
import PageCache.Proofs.Store.Layout

/-!
# What the disk store's programs do

Each program of the store is known by its `Outcome`: the answer and the tree if all goes well, and the
trees in which it can leave the folder when a call fails or the program is broken off. The same lemma
serves a folder without faults, where a program only ends well, and one with faults:

* **reading** — `ends_shown` answers what the files show, whatever files they are, so `ends_get` and
  `ends_list` answer what is held, and leave the tree as it is;
* **writing** — `ends_put_of_conflict` and `ends_put_of_stored` go by what is recorded, whatever files
  there are, and `ends_put` by what slots hold: before the record is moved into place the slot is as it
  was, from then on it has the new entry;
* **removal** — `ends_delete`: the slot is empty from the removal of the record on.

Only a write that fails needs that no other key of its digest is there: its body may replace the
other's.
-/

namespace PageCache

open FileProgram FileTree Function

namespace DiskStore

/-- The ways in which an operation on a store ends: well, or by faults with an error or broken off.
What is broken off leaves what a failure leaves, or has got further. -/
def Outcome {α : Type} (faults : Prop) (good : α → FileTree → Prop)
    (failed further : FileTree → Prop) : Option (Except StoreError α) → FileTree → Prop
  | some (.ok a), t => good a t
  | some (.error _), t => faults ∧ failed t
  | none, t => faults ∧ (failed t ∨ further t)

variable {α β : Type} {faults : Prop} {t t' : FileTree}

/-- **Without faults** an operation ends well. -/
theorem run_ok {p : FileProgram (Except StoreError α)} {good : α → FileTree → Prop}
    {failed further : FileTree → Prop} (h : Ends False p t (Outcome False good failed further)) :
    ∃ a t', p.run t = (.ok a, t') ∧ good a t' := by
  have hout := h.run
  cases hr : (p.run t).1 with
  | ok a =>
    rw [hr] at hout
    exact ⟨a, (p.run t).2, Prod.ext hr rfl, hout⟩
  | error e =>
    rw [hr] at hout
    exact hout.1.elim

/-- One operation after another, if the first one has its answer. -/
theorem run_andThen {p : FileProgram (Except StoreError α)}
    {next : α → FileProgram (Except StoreError β)} {a : α} (h : p.run t = (.ok a, t')) :
    (andThen p next).run t = (next a).run t' := by
  show (p >>= _).run t = _
  rw [run_bind, h]

/-- One operation after another, unless the first fails or is broken off. -/
theorem ends_andThen {p : FileProgram (Except StoreError α)}
    {next : α → FileProgram (Except StoreError β)} {good : α → FileTree → Prop}
    {failed further : FileTree → Prop} {Q : Option (Except StoreError β) → FileTree → Prop}
    (h : Ends faults p t (Outcome faults good failed further))
    (hgood : ∀ a t₁, good a t₁ → Ends faults (next a) t₁ Q)
    (herror : ∀ e t₁, faults → failed t₁ → Q (some (.error e)) t₁)
    (hstop : ∀ t₁, faults → failed t₁ ∨ further t₁ → Q none t₁) :
    Ends faults (andThen p next) t Q := by
  refine ends_bind (h.mono ?_)
  rintro (_ | e | a) t₁ hout
  · exact hstop t₁ hout.1 hout.2
  · exact ends_done (herror e t₁ hout.1 hout.2) fun hf => hstop t₁ hf (.inl hout.2)
  · exact hgood a t₁ hout

/-! ## Files in a folder -/

section

variable {p : Path} {files : Files} {name staging target : String}

/-- **Staging.** Until the bytes are in place there is at most a staging file. -/
theorem ends_writeAtomic (h : Holds t p files) (hstaging : FileName staging)
    (htarget : FileName target) (bytes : ByteArray) :
    Ends faults (writeAtomic (p.child staging) (p.child target) bytes) t (Outcome faults
      (fun _ t' => ∃ x, Holds t' p (update (update files staging x) target (some bytes)))
      (fun t' => ∃ x, Holds t' p (update files staging x))
      (fun t' => ∃ x, Holds t' p (update (update files staging x) target (some bytes)))) := by
  have hkept : ∃ x, Holds t p (update files staging x) :=
    ⟨files staging, by rwa [update_eq_self]⟩
  have hput : ∀ part t₁, t.write (p.child staging) part = .ok t₁ →
      Holds t₁ p (update files staging (some part)) := by
    intro part t₁ hw
    obtain ⟨t', hw', hholds⟩ := h.write hstaging part
    cases hw.symm.trans hw'
    exact hholds
  refine ends_write (fun hf => ⟨hf, .inl hkept⟩) ?_ ?_ ?_
  · -- the staging file is there, and is moved or taken away
    obtain ⟨t₁, hw, h₁⟩ := h.write hstaging bytes
    simp only [answer, hw, answer.change, orFail]
    refine ends_call nofun (fun hf => ⟨hf, .inl ⟨_, h₁⟩⟩) ?_ ?_
    · obtain ⟨t₂, hr, h₂⟩ := h₁.rename hstaging htarget (update_self ..)
      rw [update_idem] at h₂
      simp only [answer, hr, answer.change]
      exact ends_done ⟨_, h₂⟩ fun hf => ⟨hf, .inr ⟨_, h₂⟩⟩
    · intro e hf _
      refine ends_call nofun (fun hf => ⟨hf, .inl ⟨_, h₁⟩⟩) ?_ ?_
      · have hremove := h₁.remove hstaging
        rw [update_self] at hremove
        obtain ⟨t₂, hr, h₂⟩ := hremove
        rw [update_idem] at h₂
        simp only [answer, hr, answer.change]
        exact ends_done ⟨hf, _, h₂⟩ fun hf => ⟨hf, .inl ⟨_, h₂⟩⟩
      · exact fun _ hf _ => ends_done ⟨hf, _, h₁⟩ fun hf => ⟨hf, .inl ⟨_, h₁⟩⟩
  · exact fun e hf => ends_done ⟨hf, hkept⟩ fun hf => ⟨hf, .inl hkept⟩
  · intro part t₁ e hf hw
    have h₁ := hput part t₁ hw
    exact ends_done ⟨hf, _, h₁⟩ fun hf => ⟨hf, .inl ⟨_, h₁⟩⟩

/-- **Clearing.** The file is gone afterwards, whether it was there or not. -/
theorem ends_removeIfExists (h : Holds t p files) (hname : FileName name) :
    Ends faults (removeIfExists (p.child name)) t (Outcome faults
      (fun _ t' => Holds t' p (update files name none))
      (fun t' => Holds t' p files)
      (fun t' => Holds t' p (update files name none))) := by
  refine ends_call nofun (fun hf => ⟨hf, .inl h⟩) ?_ ?_
  · have hremove := h.remove hname
    cases hfile : files name with
    | none =>
      rw [hfile] at hremove
      have h' : Holds t p (update files name none) := by rwa [← hfile, update_eq_self]
      simp only [answer, hremove, answer.change]
      exact ends_done h' fun hf => ⟨hf, .inl h⟩
    | some bytes =>
      rw [hfile] at hremove
      obtain ⟨t₁, hr, h₁⟩ := hremove
      simp only [answer, hr, answer.change]
      exact ends_done h₁ fun hf => ⟨hf, .inr h₁⟩
  · intro e hf he
    cases e
    case notFound => exact absurd rfl he
    all_goals exact ends_done ⟨hf, h⟩ fun hf => ⟨hf, .inl h⟩

end

/-! ## Reading -/

/-- The ways in which a reading ends: the tree stays, and without faults the answer is right. -/
def Reads (faults : Prop) (t : FileTree) (good : α → Prop) :
    Option (Except StoreError α) → FileTree → Prop :=
  Outcome faults (fun a t' => t' = t ∧ good a) (· = t) fun _ => False

section

variable {good : α → Prop} {good' : β → Prop}

/-- A reading that has its answer. -/
theorem ends_answered {a : α} (h : good a) :
    Ends faults (.done (.ok a)) t (Reads faults t good) :=
  ends_done ⟨rfl, h⟩ fun hf => ⟨hf, .inl rfl⟩

/-- A reading that has failed. -/
theorem ends_unread {e : StoreError} (hf : faults) :
    Ends faults (.done (.error e)) t (Reads faults t good) :=
  ends_done ⟨hf, rfl⟩ fun hf => ⟨hf, .inl rfl⟩

/-- A reading that goes on with another. -/
theorem ends_reads {p : FileProgram (Except StoreError α)}
    {next : α → FileProgram (Except StoreError β)} (h : Ends faults p t (Reads faults t good))
    (hgood : ∀ a, good a → Ends faults (next a) t (Reads faults t good')) :
    Ends faults (andThen p next) t (Reads faults t good') := by
  refine ends_andThen h ?_ ?_ ?_
  · rintro a _ ⟨rfl, ha⟩
    exact hgood a ha
  · exact fun _ _ hf ht => ⟨hf, ht⟩
  · exact fun _ hf ht => ⟨hf, ht⟩

end

/-! ### What files show -/

section

variable {p : Path} {s : DiskStore} {files : Files} {k : Key}

theorem Reads.imp {good good' : α → Prop} {out : Option (Except StoreError α)}
    (h : Reads faults t good out t') (hgood : ∀ a, good a → good' a) :
    Reads faults t good' out t' := by
  rcases out with _ | err | a
  · exact h
  · exact h
  · exact ⟨h.1, hgood a h.2⟩

/-- A file is read, or the reading of it fails. -/
theorem ends_read {good : α → Prop}
    {next : Except IoError ByteArray → FileProgram (Except StoreError α)}
    (hread : Ends faults (next (t.read p)) t (Reads faults t good))
    (hfail : ∀ e, e ≠ .notFound → ∃ err, next (.error e) = .done (.error err)) :
    Ends faults (.call (.read p) next) t (Reads faults t good) := by
  refine ends_call nofun (fun hf => ⟨hf, .inl rfl⟩) hread fun e hf he => ?_
  obtain ⟨err, hnext⟩ := hfail e he
  rw [hnext]
  exact ends_unread hf

/-- **A record's file** is read as it is. Without faults it is read unless it is corrupt, and that it
has been read says that it is not. -/
theorem ends_decoded (h : Holds t s.root files) (hdecodes : Decodes files k ∨ faults) :
    Ends faults (readRecord (s.recordPath k)) t (Reads faults t fun r =>
      Decodes files k ∧ r = (files (recordName k)).bind Record.decode) := by
  refine ends_read ?_ fun e he => ?_
  · rw [recordPath, h.read (fileName_recordName k)]
    unfold Decodes at hdecodes ⊢
    cases hfile : files (recordName k) with
    | none => exact ends_answered ⟨fun _ h => absurd h.symm (Option.some_ne_none _), rfl⟩
    | some bytes =>
      rw [hfile] at hdecodes
      cases hdecode : Record.decode bytes with
      | none =>
        simp only [hdecode]
        exact ends_unread (hdecodes.resolve_left fun hd => by simpa [hdecode] using hd bytes rfl)
      | some r =>
        simp only [hdecode]
        refine ends_answered ⟨fun bytes' hbytes => ?_, hdecode.symm⟩
        rw [← Option.some.inj hbytes, hdecode, Option.isSome_some]
  · cases e
    case notFound => exact absurd rfl he
    all_goals exact ⟨_, rfl⟩

/-- The record of another key counts as missing. -/
theorem ends_recorded (h : Holds t s.root files) (hdecodes : Decodes files k ∨ faults) :
    Ends faults (s.readKeyRecord k) t
      (Reads faults t fun r => Decodes files k ∧ r = recorded files k) := by
  refine ends_reads (ends_decoded h hdecodes) ?_
  rintro r ⟨hd, rfl⟩
  exact ends_answered ⟨hd, rfl⟩

/-- **A reading** answers what the files show, and says that they are not corrupt. -/
theorem ends_shown (h : Holds t s.root files) (hlegible : Legible files k ∨ faults) :
    Ends faults (s.get k) t (Reads faults t fun o => Legible files k ∧ o = shown files k) := by
  refine ends_reads (ends_recorded h (hlegible.imp_left Legible.decodes)) ?_
  rintro r ⟨hdecodes, rfl⟩
  cases hr : recorded files k with
  | none =>
    refine ends_answered ⟨⟨hdecodes, fun r body hr' => ?_⟩, ?_⟩
    · rw [hr] at hr'
      cases hr'
    · rw [shown, hr, Option.bind_none]
  | some r =>
    refine ends_read ?_ fun e he => ?_
    · rw [bodyPath, h.read (fileName_bodyName k (generation_lt_of_recorded hr))]
      cases hbody : files (bodyName k r.generation) with
      | none =>
        have horphaned : Orphaned files k := ⟨r, hr, hbody⟩
        exact ends_answered ⟨horphaned.legible, horphaned.shown.symm⟩
      | some body =>
        cases hentry : r.entry? body with
        | none =>
          simp only [hentry]
          exact ends_unread (hlegible.resolve_left fun hl => by
            obtain ⟨e, he⟩ := hl.entry r body hr hbody
            exact absurd (he.symm.trans hentry) (Option.some_ne_none e))
        | some e =>
          simp only [hentry]
          refine ends_answered ⟨⟨hdecodes, fun r' body' hr' hbody' => ?_⟩, ?_⟩
          · obtain rfl := Option.some.inj (hr.symm.trans hr')
            obtain rfl := Option.some.inj (hbody.symm.trans hbody')
            exact ⟨e, hentry⟩
          · rw [shown, hr, Option.bind_some, hbody, Option.bind_some, hentry]
    · cases e
      case notFound => exact absurd rfl he
      all_goals exact ⟨_, rfl⟩

end

/-! ### What slots hold -/

/-- The folder of a store has these slots. -/
def Stored (s : DiskStore) (t : FileTree) (slots : Slots) : Prop :=
  ∃ files, Holds t s.root files ∧ Laid files slots

variable {s : DiskStore} {slots : Slots} {keys : Set Key} {k : Key}

/-- A key whose digest no other key has is alone. -/
theorem Stored.alone (h : Stored s t slots) (hkeys : keys.InjOn Key.digest)
    (hwithin : Within slots keys) (hk : k ∈ keys) : Alone slots k := by
  obtain ⟨files, -, hlaid⟩ := h
  exact hlaid.alone hkeys hwithin hk

/-- The generation of an entry that is held has room in a record. -/
theorem Stored.generation_lt (h : Stored s t slots) {e : Entry} (he : held slots k = some e) :
    e.generation < 18446744073709551616 := by
  obtain ⟨files, -, hlaid⟩ := h
  exact (hlaid.slot k).generation e (slot_of_held he).1

/-- A record is read as it was written. -/
theorem ends_readRecord (h : Stored s t slots) (k : Key) :
    Ends faults (readRecord (s.recordPath k)) t
      (Reads faults t fun r => r = (slots k.digest).map Record.ofEntry) := by
  obtain ⟨files, hholds, hlaid⟩ := h
  have hslot := hlaid.slot k
  rw [← hslot.decoded]
  exact (ends_decoded hholds (.inl hslot.legible.decodes)).mono
    fun _ _ hout => hout.imp fun _ => And.right

/-- That of another key counts as missing. -/
theorem ends_readKeyRecord (h : Stored s t slots) (k : Key) :
    Ends faults (s.readKeyRecord k) t
      (Reads faults t fun r => r = (held slots k).map Record.ofEntry) := by
  obtain ⟨files, hholds, hlaid⟩ := h
  have hslot := hlaid.slot k
  rw [held, ← hslot.recorded]
  exact (ends_recorded hholds (.inl hslot.legible.decodes)).mono
    fun _ _ hout => hout.imp fun _ => And.right

/-- **A reading** answers what is held. -/
theorem ends_get (h : Stored s t slots) (k : Key) :
    Ends faults (s.get k) t (Reads faults t fun found => found = held slots k) := by
  obtain ⟨files, hholds, hlaid⟩ := h
  have hslot := hlaid.slot k
  rw [held, ← hslot.shown]
  exact (ends_shown hholds (.inl hslot.legible)).mono fun _ _ hout => hout.imp fun _ => And.right

/-! ## Writing -/

/-- A folder in which the files of one digest have changed. -/
theorem Stored.of_lies {files files' : Files} {slot : Option Entry} (hlaid : Laid files slots)
    (hholds : Holds t s.root files') (hsame : SameOff k files files') (hlies : Lies files' k slot) :
    Stored s t (update slots k.digest slot) := ⟨files', hholds, hlaid.replace hsame hlies⟩

/-- A folder in which a slot is as it was. -/
theorem Stored.of_same {files files' : Files} (hlaid : Laid files slots)
    (hholds : Holds t s.root files') (hsame : SameOff k files files')
    (hlies : Lies files' k (slots k.digest)) : Stored s t slots := by
  have h := Stored.of_lies hlaid hholds hsame hlies
  rwa [update_eq_self] at h

variable {e : Entry} {o current : Option Generation} {bodyToken recordToken : String} {files : Files}

/-- The entry lies in the folder, and beside it only files of its digest are other than before. -/
def Filled (s : DiskStore) (e : Entry) (files : Files) (t : FileTree) : Prop :=
  ∃ files', Holds t s.root files' ∧ SameOff e.key files files' ∧ Lies files' e.key (some e.persisted)

/-- The entry does not lie in the folder yet, and what lay in its slot lies there still, unless it has
the body that is being written. -/
def Spared (s : DiskStore) (e : Entry) (files : Files) (t : FileTree) : Prop :=
  ∃ files', Holds t s.root files' ∧ Spares e.key e.generation files files'

/-- How a write ends that has been accepted, whatever files were in the folder before. -/
def Accepted (faults : Prop) (s : DiskStore) (e : Entry) (files : Files) :
    Option (Except StoreError PutOutcome) → FileTree → Prop :=
  Outcome faults (fun a t' => a = .stored ∧ Filled s e files t') (Spared s e files)
    (Filled s e files)

/-- A write that goes on from files that spare the slot. -/
theorem Accepted.of_spares {files₁ : Files} {out : Option (Except StoreError PutOutcome)}
    (h : Accepted faults s e files₁ out t) (hspares : Spares e.key e.generation files files₁) :
    Accepted faults s e files out t := by
  have hspared : Spared s e files₁ t → Spared s e files t := by
    rintro ⟨files', hholds, hspares'⟩
    exact ⟨files', hholds, hspares.trans hspares'⟩
  have hfilled : Filled s e files₁ t → Filled s e files t := by
    rintro ⟨files', hholds, hsame, hlies⟩
    exact ⟨files', hholds, hspares.same.trans hsame, hlies⟩
  rcases out with _ | err | a
  · exact ⟨h.1, h.2.imp hspared hfilled⟩
  · exact ⟨h.1, hspared h.2⟩
  · exact ⟨h.1, hfilled h.2⟩

/-- **The moving of the record** fills the slot, if the body is there. -/
theorem ends_putRecord (h : Holds t s.root files)
    (hbody : files (bodyName e.key e.generation) = some e.body) (ht : IsToken recordToken)
    (hg : e.generation < 18446744073709551616)
    (hbelow : ∀ g, current = some g → g < e.generation) :
    Ends faults (s.putRecord recordToken e current) t (Accepted faults s e files) := by
  have hstaging := staging_recordStagingName e.key ht
  have hmoved : ∀ x, SameOff e.key files
        (update (update files (recordStagingName e.key recordToken) x)
          (recordName e.key) (some (Record.ofEntry e).encode)) ∧
      Lies (update (update files (recordStagingName e.key recordToken) x)
        (recordName e.key) (some (Record.ofEntry e).encode)) e.key (some e.persisted) := by
    intro x
    refine ⟨(SameOff.refl.update (.inr (.inr hstaging)) x).update (.inl rfl) _,
      lies_record rfl ?_ hg⟩
    rw [update_of_ne (hstaging.ne_bodyName e.key _).symm]
    exact hbody
  unfold putRecord
  rw [recordStaging_eq]
  refine ends_andThen (ends_writeAtomic h (fileName_recordStagingName e.key ht)
    (fileName_recordName e.key) _) ?_ ?_ ?_
  · rintro - t₁ ⟨x, h₁⟩
    obtain ⟨hsame, hlies⟩ := hmoved x
    have hfilled : Filled s e files t₁ := ⟨_, h₁, hsame, hlies⟩
    cases hc : current with
    | none => exact ends_done ⟨rfl, hfilled⟩ fun hf => ⟨hf, .inr hfilled⟩
    | some g =>
      -- the old body is of a generation below, so the new entry does not need it
      have hgb := hbelow g hc
      have hcleared : ∀ t₂, Holds t₂ s.root (update _ (bodyName e.key g) none) →
          Filled s e files t₂ := fun t₂ h₂ =>
        ⟨_, h₂, hsame.update (.inr (.inl ⟨g, rfl⟩)) none, hlies.update_body (fun e' he' => by
          obtain rfl := Option.some.inj he'
          exact (Nat.ne_of_lt hgb).symm) none⟩
      have hfile := fileName_bodyName e.key (Nat.lt_trans hgb hg)
      refine ends_bind ((ends_removeIfExists h₁ hfile).mono ?_)
      rintro (_ | err | b) t₂ hout
      · exact ⟨hout.1, .inr (hout.2.elim (fun h₂ => ⟨_, h₂, hsame, hlies⟩) (hcleared t₂))⟩
      · have h₂ : Filled s e files t₂ := ⟨_, hout.2, hsame, hlies⟩
        exact ends_done ⟨rfl, h₂⟩ fun hf => ⟨hf, .inr h₂⟩
      · have h₂ := hcleared t₂ hout
        exact ends_done ⟨rfl, h₂⟩ fun hf => ⟨hf, .inr h₂⟩
  · rintro _ t₁ hf ⟨x, h₁⟩
    exact ⟨hf, _, h₁, spares_staging hstaging x⟩
  · rintro t₁ hf (⟨x, h₁⟩ | ⟨x, h₁⟩)
    · exact ⟨hf, .inl ⟨_, h₁, spares_staging hstaging x⟩⟩
    · exact ⟨hf, .inr ⟨_, h₁, hmoved x⟩⟩

/-! ### By what is recorded -/

/-- **A write that conflicts** with the generation that is recorded changes nothing. -/
theorem ends_put_of_conflict {c : Option Generation} (h : Holds t s.root files)
    (hdecodes : Decodes files e.key ∨ faults)
    (hc : checkGeneration ((recorded files e.key).map (·.generation)) o e.generation =
      .conflict c) :
    Ends faults (s.put bodyToken recordToken e o) t (Reads faults t (· = .conflict c)) := by
  refine ends_reads (ends_recorded h hdecodes) ?_
  rintro r ⟨-, rfl⟩
  dsimp only
  rw [hc]
  exact ends_answered rfl

/-- **A write that does not** has its entry lie in the folder, whatever else does. -/
theorem ends_put_of_stored (h : Holds t s.root files) (hdecodes : Decodes files e.key ∨ faults)
    (hc : checkGeneration ((recorded files e.key).map (·.generation)) o e.generation = .stored)
    (hbt : IsToken bodyToken) (hrt : IsToken recordToken)
    (hg : e.generation < 18446744073709551616) :
    Ends faults (s.put bodyToken recordToken e o) t (Accepted faults s e files) := by
  have hstaging := staging_bodyStagingName e.key e.generation hbt
  have hspares : ∀ x, Spares e.key e.generation files
      (update (update files (bodyStagingName e.key e.generation bodyToken) x)
        (bodyName e.key e.generation) (some e.body)) := fun x =>
    (spares_staging hstaging x).trans (spares_body _)
  refine ends_andThen (ends_recorded h hdecodes) ?_ ?_ ?_
  · rintro r _ ⟨rfl, -, rfl⟩
    dsimp only
    rw [hc]
    dsimp only
    rw [if_pos hg, bodyStaging_eq]
    refine ends_andThen (ends_writeAtomic h (fileName_bodyStagingName e.key hg hbt)
      (fileName_bodyName e.key hg) _) ?_ ?_ ?_
    · rintro - t₁ ⟨x, h₁⟩
      refine (ends_putRecord h₁ (update_self ..) hrt hg fun g hcurrent => ?_).mono
        fun _ _ hout => hout.of_spares (hspares x)
      obtain ⟨rfl, hlt⟩ := checkGeneration_eq_stored_iff.mp hc
      rw [hcurrent] at hlt
      exact hlt
    · rintro _ t₁ hf ⟨x, h₁⟩
      exact ⟨hf, _, h₁, spares_staging hstaging x⟩
    · rintro t₁ hf (⟨x, h₁⟩ | ⟨x, h₁⟩)
      · exact ⟨hf, .inl ⟨_, h₁, spares_staging hstaging x⟩⟩
      · exact ⟨hf, .inl ⟨_, h₁, hspares x⟩⟩
  · rintro _ _ hf rfl
    exact ⟨hf, _, h, .refl⟩
  · rintro _ hf (rfl | hno)
    · exact ⟨hf, .inl ⟨_, h, .refl⟩⟩
    · exact hno.elim

/-! ### By what slots hold -/

/-- What is recorded has the generation that is held. -/
theorem generation_recorded (h : Laid files slots) (k : Key) :
    (recorded files k).map (·.generation) = (held slots).generation k := by
  rw [(h.slot k).recorded, Option.map_map]
  rfl

/-- **A write** answers by the rule of generations, and an accepted one fills the slot. -/
theorem ends_put (h : Stored s t slots) (hbt : IsToken bodyToken) (hrt : IsToken recordToken)
    (hg : e.generation < 18446744073709551616) :
    Ends faults (s.put bodyToken recordToken e o) t (Outcome faults
      (fun a t' =>
        a = checkGeneration ((held slots e.key).map (·.generation)) o e.generation ∧
        Stored s t' (if a = .stored then slots.put e else slots))
      (fun t' => Alone slots e.key → Stored s t' slots) (fun t' => Stored s t' (slots.put e))) := by
  obtain ⟨files, hholds, hlaid⟩ := id h
  have hslot := hlaid.slot e.key
  have hdecodes : Decodes files e.key ∨ faults := .inl hslot.legible.decodes
  have hrecorded : (recorded files e.key).map (·.generation) =
      (held slots e.key).map (·.generation) := generation_recorded hlaid e.key
  rw [← hrecorded]
  cases hc : checkGeneration ((recorded files e.key).map (·.generation)) o e.generation with
  | conflict c =>
    refine (ends_put_of_conflict hholds hdecodes hc).mono ?_
    rintro (_ | err | a) t₁ hout
    · obtain ⟨hf, rfl | hno⟩ := hout
      · exact ⟨hf, .inl fun _ => h⟩
      · exact hno.elim
    · obtain ⟨hf, rfl⟩ := hout
      exact ⟨hf, fun _ => h⟩
    · obtain ⟨rfl, rfl⟩ := hout
      exact ⟨rfl, by rwa [if_neg nofun]⟩
  | stored =>
    have hfilled : ∀ t₁, Filled s e files t₁ → Stored s t₁ (slots.put e) := by
      rintro t₁ ⟨files', h₁, hsame, hlies⟩
      exact .of_lies hlaid h₁ hsame hlies
    have hspared : ∀ t₁, Spared s e files t₁ → Alone slots e.key → Stored s t₁ slots := by
      rintro t₁ ⟨files', h₁, hspares⟩ halone
      refine .of_same hlaid h₁ hspares.same (hspares.lies _ (fun e' he' => ?_) hslot)
      -- the entry in the slot belongs to the key, so it is of a generation below
      obtain ⟨rfl, hlt⟩ := checkGeneration_eq_stored_iff.mp hc
      rw [hrecorded, held_of_slot he' (halone e' he')] at hlt
      exact Nat.ne_of_lt hlt
    refine (ends_put_of_stored hholds hdecodes hc hbt hrt hg).mono ?_
    rintro (_ | err | a) t₁ hout
    · exact ⟨hout.1, hout.2.imp (hspared t₁) (hfilled t₁)⟩
    · exact ⟨hout.1, hspared t₁ hout.2⟩
    · obtain ⟨rfl, hstored⟩ := hout
      exact ⟨rfl, by rw [if_pos rfl]; exact hfilled t₁ hstored⟩

/-! ## Removal -/

/-- How a removal ends. It may be broken off or fail before the slot is empty, or after. -/
def Removes (faults : Prop) (s : DiskStore) (slots slots' : Slots) (answer : Bool) :
    Option (Except StoreError Bool) → FileTree → Prop :=
  Outcome faults (fun b t' => b = answer ∧ Stored s t' slots')
    (fun t' => Stored s t' slots ∨ Stored s t' slots') fun _ => False

/-- **The removal of the record** empties the slot, and that of its body leaves it empty. -/
theorem ends_removeFiles {g : Generation} (h : Stored s t slots)
    (hg : g < 18446744073709551616) :
    Ends faults
      (andThen (removeIfExists (s.recordPath k)) fun _ =>
        andThen (removeIfExists (s.bodyPath k g)) fun _ => .done (.ok true))
      t (Removes faults s slots (update slots k.digest none) true) := by
  obtain ⟨files, hholds, hlaid⟩ := h
  have hgone : SameOff k files (update files (recordName k) none) :=
    SameOff.refl.update (.inl rfl) none
  have hnone : Lies (update files (recordName k) none) k none := lies_none (update_self ..)
  have hempty : ∀ t₁, Holds t₁ s.root (update files (recordName k) none) →
      Stored s t₁ (update slots k.digest none) := fun t₁ h₁ => .of_lies hlaid h₁ hgone hnone
  have hcleared : ∀ t₁,
      Holds t₁ s.root (update (update files (recordName k) none) (bodyName k g) none) →
      Stored s t₁ (update slots k.digest none) := fun t₁ h₁ =>
    .of_lies hlaid h₁ (hgone.update (.inr (.inl ⟨g, rfl⟩)) none)
      (hnone.update_body (fun _ he => absurd he.symm (Option.some_ne_none _)) none)
  refine ends_andThen (ends_removeIfExists hholds (fileName_recordName k)) ?_ ?_ ?_
  · intro _ t₁ h₁
    refine ends_andThen (ends_removeIfExists h₁ (fileName_bodyName k hg)) ?_ ?_ ?_
    · intro _ t₂ h₂
      exact ends_done ⟨rfl, hcleared t₂ h₂⟩ fun hf => ⟨hf, .inl (.inr (hcleared t₂ h₂))⟩
    · exact fun _ t₂ hf h₂ => ⟨hf, .inr (hempty t₂ h₂)⟩
    · exact fun t₂ hf h₂ => ⟨hf, .inl (.inr (h₂.elim (hempty t₂) (hcleared t₂)))⟩
  · exact fun _ t₁ hf h₁ => ⟨hf, .inl ⟨files, h₁, hlaid⟩⟩
  · exact fun t₁ hf h₁ => ⟨hf, .inl (h₁.imp (fun h₁ => ⟨files, h₁, hlaid⟩) (hempty t₁))⟩

/-- **A removal** says whether there was an entry, and empties its slot. -/
theorem ends_delete (h : Stored s t slots) (k : Key) :
    Ends faults (s.delete k) t
      (Removes faults s slots (slots.remove k) (held slots k).isSome) := by
  refine ends_andThen (ends_readKeyRecord h k) ?_ ?_ ?_
  · rintro r t₁ ⟨rfl, rfl⟩
    cases hk : held slots k with
    | none =>
      have hremove : slots.remove k = slots := if_neg (by simp [hk])
      rw [hremove]
      exact ends_done ⟨rfl, h⟩ fun hf => ⟨hf, .inl (.inl h)⟩
    | some e =>
      have hremove : slots.remove k = update slots k.digest none := if_pos (by simp [hk])
      rw [hremove]
      exact ends_removeFiles h (h.generation_lt hk)
  · rintro _ t₁ hf rfl
    exact ⟨hf, .inl h⟩
  · rintro t₁ hf (rfl | hno)
    · exact ⟨hf, .inl (.inl h)⟩
    · exact hno.elim

/-! ## Listing -/

/-- Keys that are put in order, each once, are in strict order. -/
theorem sorted_mergeSort {ks : List Key} (h : ks.Nodup) :
    (ks.mergeSort fun a b => a ≤ b).Pairwise (· < ·) := by
  have htrans : ∀ a b c : Key, decide (a ≤ b) → decide (b ≤ c) → decide (a ≤ c) := by
    intro a b c hab hbc
    exact decide_eq_true (Std.le_trans (of_decide_eq_true hab) (of_decide_eq_true hbc))
  have htotal : ∀ a b : Key, (decide (a ≤ b) || decide (b ≤ a)) := by
    intro a b
    simpa using Std.le_total (a := a) (b := b)
  have hle := List.pairwise_mergeSort htrans htotal ks
  have hne := (ks.mergeSort_perm fun a b => a ≤ b).nodup_iff.mpr h
  exact (hle.and hne).imp fun hab =>
    Std.lt_of_le_of_ne (of_decide_eq_true hab.1) hab.2

/-- Of all keys of a digest the one that the entry belongs to has it. -/
theorem name_eq_and_isSome_iff (h : slots e.key.digest = some e) {k : Key} :
    recordName k = recordName e.key ∧ (held slots k).isSome ↔ k = e.key := by
  constructor
  · rintro ⟨hname, hsome⟩
    obtain ⟨e', he'⟩ := Option.isSome_iff_exists.mp hsome
    obtain ⟨hslot, rfl⟩ := slot_of_held he'
    rw [recordName_inj.mp hname, h] at hslot
    rw [Option.some.inj hslot]
  · rintro rfl
    exact ⟨rfl, by rw [held_of_slot h rfl, Option.isSome_some]⟩

/-- The keys among some names are those with an entry, each once. -/
theorem ends_keysIn (h : Stored s t slots) (start : String) {names : List String}
    (hnodup : names.Nodup)
    (hnames : ∀ name ∈ names, isRecordName name = true →
      ∃ e, slots e.key.digest = some e ∧ name = recordName e.key) :
    Ends faults (s.keysIn start names) t (Reads faults t fun ks => ks.Nodup ∧ ∀ k, k ∈ ks ↔
      recordName k ∈ names ∧ (held slots k).isSome ∧ k.startsWith start) := by
  induction names with
  | nil => exact ends_answered ⟨List.nodup_nil, by simp⟩
  | cons name rest ih =>
    obtain ⟨hnot, hrest⟩ := List.nodup_cons.mp hnodup
    have hnames' := fun n hn => hnames n (List.mem_cons_of_mem _ hn)
    rw [keysIn]
    by_cases hrecord : isRecordName name = true
    · obtain ⟨e, he, rfl⟩ := hnames name List.mem_cons_self hrecord
      rw [if_pos hrecord]
      refine ends_reads (ends_readRecord h e.key) ?_
      rintro r rfl
      refine ends_reads (ih hrest hnames') ?_
      rintro ks ⟨hks, hmem⟩
      rw [he]
      have hfresh : e.key ∉ ks := fun hin => hnot ((hmem e.key).mp hin).1
      refine ends_answered ⟨?_, fun k => ?_⟩
      · split
        · exact List.nodup_cons.mpr ⟨hfresh, hks⟩
        · exact hks
      · have hk : k ∈ (if e.key.startsWith start then e.key :: ks else ks) ↔
            k = e.key ∧ k.startsWith start ∨ k ∈ ks := by
          split
          · rename_i hstart
            rw [List.mem_cons]
            exact or_congr_left ⟨fun h => ⟨h, h ▸ hstart⟩, And.left⟩
          · rename_i hstart
            exact (or_iff_right fun ⟨hk, hs⟩ => hstart (hk ▸ hs)).symm
        refine hk.trans ?_
        rw [hmem, List.mem_cons, or_and_right, ← and_assoc (a := recordName k = _),
          name_eq_and_isSome_iff he]
    · rw [if_neg hrecord]
      refine (ih hrest hnames').mono ?_
      rintro (_ | err | ks) t₁ hout
      · exact hout
      · exact hout
      · obtain ⟨ht, hks, hmem⟩ := hout
        refine ⟨ht, hks, fun k => ?_⟩
        have hne : recordName k ≠ name := by
          rintro rfl
          exact hrecord (isRecordName_recordName k)
        rw [hmem, List.mem_cons, or_iff_right hne]

/-- **A listing** answers each key that has an entry and starts with the text once, in order. -/
theorem ends_list (h : Stored s t slots) (start : String) :
    Ends faults (s.list start) t (Reads faults t fun ks => ks.Pairwise (· < ·) ∧ ∀ k, k ∈ ks ↔
      (held slots k).isSome ∧ k.startsWith start) := by
  obtain ⟨files, hholds, hlaid⟩ := h
  obtain ⟨names, hlist, hnodup, hmem⟩ := hholds.list
  have hnames : ∀ name ∈ names, isRecordName name = true →
      ∃ e, slots e.key.digest = some e ∧ name = recordName e.key := fun name hname hrecord =>
    hlaid.entry_of_name hrecord ((hmem name).mp hname)
  refine ends_call nofun (fun hf => ⟨hf, .inl rfl⟩) ?_ fun _ hf _ => ends_unread hf
  simp only [answer, hlist, orFail]
  refine ends_reads (ends_keysIn ⟨files, hholds, hlaid⟩ start hnodup hnames) ?_
  rintro ks ⟨hks, hkeys⟩
  refine ends_answered ⟨sorted_mergeSort hks, fun k => ?_⟩
  have hpresent : (held slots k).isSome → recordName k ∈ names := by
    intro hsome
    obtain ⟨e, he⟩ := Option.isSome_iff_exists.mp hsome
    rw [hmem, (hlaid.slot k).record, (slot_of_held he).1]
    rfl
  rw [List.mem_mergeSort, hkeys]
  exact and_iff_right_of_imp fun h => hpresent h.1

/-! ## Without faults -/

namespace Stored

/-- A reading that is not disturbed. -/
theorem get_run (h : Stored s t slots) (k : Key) : (s.get k).run t = (.ok (held slots k), t) := by
  obtain ⟨_, _, hrun, rfl, rfl⟩ := run_ok (ends_get h k)
  exact hrun

/-- A write that is not disturbed. -/
theorem put_run (h : Stored s t slots) (o : Option Generation) (hbt : IsToken bodyToken)
    (hrt : IsToken recordToken) (hg : e.generation < 18446744073709551616) :
    ∃ a t', (s.put bodyToken recordToken e o).run t = (.ok a, t') ∧
      a = checkGeneration ((held slots).generation e.key) o e.generation ∧
      Stored s t' (if a = .stored then slots.put e else slots) :=
  run_ok (ends_put h hbt hrt hg)

/-- A write that does not conflict, where no other key of the digest is. -/
theorem put_run_of_alone (h : Stored s t slots) (halone : Alone slots e.key)
    (hc : checkGeneration ((held slots).generation e.key) o e.generation = .stored)
    (hbt : IsToken bodyToken) (hrt : IsToken recordToken)
    (hg : e.generation < 18446744073709551616) :
    ∃ t', (s.put bodyToken recordToken e o).run t = (.ok .stored, t') ∧
      Stored s t' (slots.put e) ∧
      held (slots.put e) = update (held slots) e.key (some e.persisted) := by
  obtain ⟨a, t', hrun, rfl, h'⟩ := h.put_run o hbt hrt hg
  rw [hc] at hrun h'
  exact ⟨t', hrun, h', held_put_of_alone halone⟩

/-- A write that conflicts, whatever its generation, and is not disturbed. -/
theorem put_run_of_conflict {c : Option Generation} (h : Stored s t slots)
    (hc : checkGeneration ((held slots).generation e.key) o e.generation = .conflict c) :
    (s.put bodyToken recordToken e o).run t = (.ok (.conflict c), t) := by
  obtain ⟨files, hholds, hlaid⟩ := h
  rw [← generation_recorded hlaid] at hc
  have hput : Ends False (s.put bodyToken recordToken e o) t _ :=
    ends_put_of_conflict hholds (.inl (hlaid.slot e.key).legible.decodes) hc
  obtain ⟨_, _, hrun, rfl, rfl⟩ := run_ok hput
  exact hrun

/-- A write that does not, of a generation beyond sixty-four bits. -/
theorem put_run_of_unfit (h : Stored s t slots)
    (hc : checkGeneration ((held slots).generation e.key) o e.generation = .stored)
    (hg : ¬ e.generation < 18446744073709551616) :
    ∃ err, (s.put bodyToken recordToken e o).run t = (.error err, t) := by
  obtain ⟨_, _, hread, rfl, rfl⟩ := run_ok (ends_readKeyRecord h e.key)
  have hcurrent : ((held slots e.key).map Record.ofEntry).map (·.generation) =
      (held slots).generation e.key := by
    rw [Option.map_map]
    rfl
  have hrun : (s.put bodyToken recordToken e o).run _ = _ := run_andThen hread
  dsimp only at hrun
  rw [hcurrent, hc] at hrun
  dsimp only at hrun
  rw [if_neg hg] at hrun
  exact ⟨_, hrun⟩

/-- A removal that is not disturbed. -/
theorem delete_run (h : Stored s t slots) (k : Key) :
    ∃ t', (s.delete k).run t = (.ok (held slots k).isSome, t') ∧ Stored s t' (slots.remove k) := by
  obtain ⟨_, t', hrun, rfl, hs⟩ := run_ok (ends_delete h k)
  exact ⟨t', hrun, hs⟩

/-- A listing that is not disturbed. -/
theorem list_run (h : Stored s t slots) (start : String) :
    ∃ ks, (s.list start).run t = (.ok ks, t) ∧ ks.Pairwise (· < ·) ∧
      ∀ k, k ∈ ks ↔ (held slots k).isSome ∧ k.startsWith start := by
  obtain ⟨ks, _, hrun, rfl, hks⟩ := run_ok (ends_list h start)
  exact ⟨ks, hrun, hks⟩

end Stored

/-! ## An empty folder -/

/-- An empty folder whose path leaves room for the names in it. -/
structure Ready (s : DiskStore) (t : FileTree) : Prop where
  /-- the folder is there, and nothing is in it -/
  empty : t.list s.root = .ok []
  /-- a name can stand behind its path -/
  room : s.root.text.utf8ByteSize + 128 ≤ FileTree.pathLimit

/-- A ready folder has empty slots. -/
theorem Ready.stored (h : Ready s t) : Stored s t fun _ => none :=
  ⟨_, FileTree.holds_of_list_nil h.empty h.room, laid_empty⟩

/-- A folder that is there is opened as it is. -/
theorem openAt_run {p : Path} {l : Location} (h : t.look p = .ok (l, some .folder)) :
    (openAt p).run t = (.ok ⟨p⟩, t) := by
  simp only [openAt, run, answer, FileTree.createAll_of_look h, orFail]

theorem Ready.open_run (h : Ready s t) : (openAt s.root).run t = (.ok s, t) := by
  obtain ⟨l, hl⟩ := FileTree.look_of_list h.empty
  exact openAt_run hl

/-- A store in a folder beside the working folder's other files. -/
def cacheFolder : DiskStore := ⟨⟨["cache"]⟩⟩

/-- The tree that has nothing but that folder. -/
def bareTree : FileTree := ⟨[(["cache"], .folder)], List.pairwise_singleton _ _⟩

theorem look_cacheFolder : bareTree.look cacheFolder.root = .ok (["cache"], some .folder) := by
  have hreadable : FileTree.Readable cacheFolder.root :=
    ⟨by simp [cacheFolder], by decide, by decide⟩
  exact FileTree.look_folder_iff.mpr ⟨hreadable, by decide⟩

theorem ready_cacheFolder : Ready cacheFolder bareTree := by
  refine ⟨?_, by decide⟩
  rw [FileTree.list, look_cacheFolder]
  decide

/-- An entry of a first generation. -/
def homeEntry : Entry where
  key := ⟨"home"⟩
  body := "home page".toUTF8
  created := .epoch
  revalidate := .never
  tags := ∅
  generation := 1

/-- Another one. -/
def aboutEntry : Entry := { homeEntry with key := ⟨"about"⟩, body := "about page".toUTF8 }

/-- The keys of the two have distinct digests. -/
theorem injOn_homeAndAbout : Set.InjOn Key.digest {homeEntry.key, aboutEntry.key} := by
  have hne : homeEntry.key.digest ≠ aboutEntry.key.digest := by decide +kernel
  exact Set.injOn_pair.mpr fun h => absurd h hne

end DiskStore

end PageCache
