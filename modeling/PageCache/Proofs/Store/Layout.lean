import Mathlib.Data.Set.Function
import PageCache.Proofs.Files.Folder
import PageCache.Proofs.Store.Lawful
import PageCache.Proofs.Store.Names
import PageCache.Proofs.Store.Record

/-!
# What lies in a store's folder

A digest owns one slot of the folder: a record, and the body of the generation that the record names.
The entry of a slot belongs to one key of its digest, so another key with that digest has none.

Staging files and bodies of other generations may lie around, from writes that were broken off. They
are in nobody's way: `Lies` is about the record and its one body, and `Laid.replace` says that a
change of the other files of a digest changes its slot only, to whatever lies there afterwards.

A folder that something else has written in may have no slots: a record may be corrupt, or without
its body. What any files show of a key is `shown`, and `Legible` says that nothing of it is corrupt.
-/

namespace PageCache

namespace DiskStore

/-- The entry of each digest. -/
abbrev Slots := String → Option Entry

/-- The entry of a key: that of its digest, if it belongs to the key. -/
def held (slots : Slots) : Contents := fun k => (slots k.digest).filter (·.key = k)

/-- No other key of the digest has an entry. -/
def Alone (slots : Slots) (k : Key) : Prop := ∀ e, slots k.digest = some e → e.key = k

/-- The slots after an entry has been written. -/
def Slots.put (slots : Slots) (e : Entry) : Slots :=
  Function.update slots e.key.digest (some e.persisted)

/-- The slots after a key's entry has been removed. -/
def Slots.remove (slots : Slots) (k : Key) : Slots :=
  if (held slots k).isSome then Function.update slots k.digest none else slots

/-- What lies in the slot of a key's digest. -/
structure Lies (files : Files) (k : Key) (slot : Option Entry) : Prop where
  /-- the record is there exactly if the slot is not empty -/
  record : files (recordName k) = slot.map fun e => (Record.ofEntry e).encode
  /-- the body of the record's generation is the entry's -/
  body : ∀ e, slot = some e → files (bodyName k e.generation) = some e.body
  /-- the entry belongs to a key of this digest -/
  digest : ∀ e, slot = some e → e.key.digest = k.digest
  /-- it is in its persisted form -/
  persisted : ∀ e, slot = some e → e.persisted = e
  /-- its generation can be persisted -/
  generation : ∀ e, slot = some e → e.generation < 18446744073709551616

/-- The files of a folder that has these slots. -/
structure Laid (files : Files) (slots : Slots) : Prop where
  /-- the slots -/
  slot : ∀ k, Lies files k (slots k.digest)
  /-- what is called a record is one -/
  named : ∀ name, isRecordName name = true → (files name).isSome → ∃ k, name = recordName k

/-- Where the files of a key's digest may be, and those that are being written. -/
def OwnName (k : Key) (name : String) : Prop :=
  name = recordName k ∨ (∃ g, name = bodyName k g) ∨ Staging name

/-- Files that are the same but for a key's digest and for those that are being written. -/
def SameOff (k : Key) (files files' : Files) : Prop :=
  ∀ name, ¬ OwnName k name → files' name = files name

/-- Files that are the same but for a key's digest, and for those that are being written, and in which
what lay in the key's slot lies still, unless it is of the generation `g`. -/
structure Spares (k : Key) (g : Generation) (files files' : Files) : Prop where
  /-- only files of the digest are other -/
  same : SameOff k files files'
  /-- what lay in the slot lies there -/
  lies : ∀ slot, (∀ e, slot = some e → e.generation ≠ g) → Lies files k slot → Lies files' k slot

/-- The record of a key that some files have, unless it belongs to another key. -/
def recorded (files : Files) (k : Key) : Option Record :=
  ((files (recordName k)).bind Record.decode).filter (·.key = k.text)

/-- The entry of a key that some files show: its record with the body that goes with it. -/
def shown (files : Files) (k : Key) : Option Entry :=
  (recorded files k).bind fun r => (files (bodyName k r.generation)).bind fun body => r.entry? body

/-- The record of a key is there, and the body that goes with it is not. -/
def Orphaned (files : Files) (k : Key) : Prop :=
  ∃ r, recorded files k = some r ∧ files (bodyName k r.generation) = none

/-- If the record's file is there, a record can be read from it. -/
def Decodes (files : Files) (k : Key) : Prop :=
  ∀ bytes, files (recordName k) = some bytes → (Record.decode bytes).isSome

/-- Nothing in the files of a key is corrupt. -/
structure Legible (files : Files) (k : Key) : Prop where
  /-- a record can be read -/
  decodes : Decodes files k
  /-- with its body it is an entry -/
  entry : ∀ r body, recorded files k = some r → files (bodyName k r.generation) = some body →
    ∃ e, r.entry? body = some e

variable {files files' : Files} {slots : Slots} {keys : Set Key} {k j : Key} {slot : Option Entry}
  {e : Entry} {r : Record} {g : Generation} {name : String}

/-! ## The slot of a digest -/

/-- The digest of an entry's key says where it is held. -/
theorem held_of_slot (h : slots k.digest = some e) (hkey : e.key = k) : held slots k = some e := by
  rw [held, h, Option.filter_some, if_pos (decide_eq_true hkey)]

/-- What is held is in the slot, and belongs to the key. -/
theorem slot_of_held (h : held slots k = some e) : slots k.digest = some e ∧ e.key = k := by
  obtain ⟨hslot, hkey⟩ := Option.filter_eq_some_iff.mp h
  exact ⟨hslot, of_decide_eq_true hkey⟩

/-- **A written entry** is held, and takes the place of all that its digest had. -/
theorem held_put (slots : Slots) (e : Entry) (k : Key) :
    held (slots.put e) k = if k = e.key then some e.persisted
      else if k.digest = e.key.digest then none else held slots k := by
  unfold held Slots.put
  by_cases hd : k.digest = e.key.digest
  · rw [hd, Function.update_self, if_pos rfl, Option.filter_some, Entry.key_persisted]
    simp only [decide_eq_true_eq, eq_comm (a := e.key)]
  · have hk : k ≠ e.key := fun h => hd (congrArg Key.digest h)
    rw [Function.update_of_ne hd, if_neg hk, if_neg hd]

/-- **A removed entry** is held no more, and the others are. -/
theorem held_remove (slots : Slots) (k : Key) :
    held (slots.remove k) = (held slots).without k := by
  funext j
  cases hk : held slots k with
  | none =>
    rw [Slots.remove, hk, if_neg (by decide)]
    by_cases hj : j = k
    · rw [hj, hk, Contents.without_self]
    · rw [Contents.without_of_ne _ hj]
  | some e =>
    obtain ⟨hslot, rfl⟩ := slot_of_held hk
    rw [Slots.remove, hk, if_pos Option.isSome_some]
    by_cases hd : j.digest = e.key.digest
    · -- of the keys of one digest only that of the entry is held
      have hempty : held (Function.update slots e.key.digest none) j = none := by
        rw [held, hd, Function.update_self, Option.filter_none]
      by_cases hj : j = e.key
      · rw [hempty, hj, Contents.without_self]
      · rw [hempty, Contents.without_of_ne _ hj, held, hd, hslot, Option.filter_some, if_neg]
        simpa using Ne.symm hj
    · have hj : j ≠ e.key := fun h => hd (congrArg Key.digest h)
      rw [Contents.without_of_ne _ hj, held, Function.update_of_ne hd, held]

/-- What lies in a digest's slot lies there for all keys of the digest. -/
theorem Lies.of_digest (h : Lies files k slot) (hd : j.digest = k.digest) : Lies files j slot := by
  have hrecord : recordName j = recordName k := recordName_inj.mpr hd
  have hbody : ∀ g, bodyName j g = bodyName k g := fun g => bodyName_inj.mpr ⟨hd, rfl⟩
  refine ⟨?_, ?_, ?_, h.persisted, h.generation⟩
  · rw [hrecord, h.record]
  · intro e he
    rw [hbody, h.body e he]
  · intro e he
    rw [h.digest e he, hd]

/-- A file that is neither the record nor its body does not matter. -/
theorem Lies.update (h : Lies files k slot) (hrecord : name ≠ recordName k)
    (hbody : ∀ e, slot = some e → name ≠ bodyName k e.generation) (x : Option ByteArray) :
    Lies (Function.update files name x) k slot := by
  refine ⟨?_, ?_, h.digest, h.persisted, h.generation⟩
  · rw [Function.update_of_ne hrecord.symm, h.record]
  · intro e he
    rw [Function.update_of_ne (hbody e he).symm, h.body e he]

/-- A staging file does not matter. -/
theorem Lies.update_staging (h : Lies files k slot) (hname : Staging name) (x : Option ByteArray) :
    Lies (Function.update files name x) k slot :=
  h.update (hname.ne_recordName k) (fun _ _ => hname.ne_bodyName k _) x

/-- A body of another generation does not matter. -/
theorem Lies.update_body (h : Lies files k slot) (hg : ∀ e, slot = some e → e.generation ≠ g)
    (x : Option ByteArray) : Lies (Function.update files (bodyName k g) x) k slot := by
  refine h.update (recordName_ne_bodyName k k g).symm (fun e he heq => ?_) x
  exact hg e he (bodyName_inj.mp heq).2.symm

/-- A record that is put beside its body fills the slot. -/
theorem lies_record (hkey : e.key = k) (hbody : files (bodyName k e.generation) = some e.body)
    (hg : e.generation < 18446744073709551616) :
    Lies (Function.update files (recordName k) (some (Record.ofEntry e).encode)) k
      (some e.persisted) := by
  refine ⟨?_, ?_, ?_, ?_, ?_⟩
  · rw [Function.update_self, Option.map_some, Record.ofEntry_persisted]
  all_goals
    intro e' he
    obtain rfl := Option.some.inj he
  · rw [Function.update_of_ne (recordName_ne_bodyName k k _).symm]
    exact hbody
  · exact congrArg Key.digest hkey
  · exact e.persisted_persisted
  · exact hg

/-- Without its record a slot is empty. -/
theorem lies_none (h : files (recordName k) = none) : Lies files k none := by
  refine ⟨h, ?_, ?_, ?_, ?_⟩ <;> exact fun e he => absurd he.symm (Option.some_ne_none e)

/-! ## What files show -/

theorem decode_of_recorded (h : recorded files k = some r) :
    ∃ bytes, files (recordName k) = some bytes ∧ Record.decode bytes = some r := by
  obtain ⟨hr, -⟩ := Option.filter_eq_some_iff.mp h
  exact Option.bind_eq_some_iff.mp hr

/-- A name leaves room for a generation that is recorded. -/
theorem generation_lt_of_recorded (h : recorded files k = some r) :
    r.generation < 18446744073709551616 := by
  obtain ⟨bytes, -, hdecode⟩ := decode_of_recorded h
  exact Record.generation_lt_of_decode hdecode

/-- What is recorded can be read. -/
theorem decodes_of_recorded (h : recorded files k = some r) : Decodes files k := by
  obtain ⟨bytes, hbytes, hdecode⟩ := decode_of_recorded h
  intro bytes' hbytes'
  obtain rfl := Option.some.inj (hbytes.symm.trans hbytes')
  rw [hdecode, Option.isSome_some]

/-- A body is no part of a record. -/
theorem recorded_update_body (files : Files) (k : Key) (g : Generation) (x : Option ByteArray) :
    recorded (Function.update files (bodyName k g) x) k = recorded files k := by
  rw [recorded, Function.update_of_ne (recordName_ne_bodyName k k g), recorded]

/-- An orphaned record is not corrupt. -/
theorem Orphaned.legible (h : Orphaned files k) : Legible files k := by
  obtain ⟨r, hr, hbody⟩ := h
  refine ⟨decodes_of_recorded hr, fun r' body hr' hbody' => ?_⟩
  obtain rfl := Option.some.inj (hr.symm.trans hr')
  rw [hbody] at hbody'
  cases hbody'

/-- It shows nothing. -/
theorem Orphaned.shown (h : Orphaned files k) : shown files k = none := by
  obtain ⟨r, hr, hbody⟩ := h
  rw [DiskStore.shown, hr, Option.bind_some, hbody, Option.bind_none]

/-- The record that lies in a slot is read as that of its entry. -/
theorem Lies.decoded (h : Lies files k slot) :
    (files (recordName k)).bind Record.decode = slot.map Record.ofEntry := by
  rw [h.record]
  cases hs : slot with
  | none => rfl
  | some e => exact Record.decode_encode (Record.fits_ofEntry (h.generation e hs))

/-- It is recorded for the key that the entry belongs to. -/
theorem Lies.recorded (h : Lies files k slot) :
    recorded files k = (slot.filter (·.key = k)).map Record.ofEntry := by
  rw [DiskStore.recorded, h.decoded]
  cases slot with
  | none => rfl
  | some e =>
    have hkey : (Record.ofEntry e).key = k.text ↔ e.key = k := ⟨Key.ext, fun h => h ▸ rfl⟩
    by_cases he : e.key = k <;> simp [Option.filter_some, hkey, he]

/-- With the body it is read as the entry. -/
theorem Lies.entry (h : Lies files k (some e)) : Record.entry? (.ofEntry e) e.body = some e := by
  rw [Record.entry?_ofEntry, h.persisted e rfl]

/-- **What lies in a slot** is shown to the key that it belongs to. -/
theorem Lies.shown (h : Lies files k slot) : shown files k = slot.filter (·.key = k) := by
  rw [DiskStore.shown, h.recorded]
  cases hs : slot.filter (·.key = k) with
  | none => rfl
  | some e =>
    obtain ⟨rfl, -⟩ := Option.filter_eq_some_iff.mp hs
    have hbody : files (bodyName k (Record.ofEntry e).generation) = some e.body := h.body e rfl
    rw [Option.map_some, Option.bind_some, hbody, Option.bind_some, h.entry]

/-- Nothing of it is corrupt. -/
theorem Lies.legible (h : Lies files k slot) : Legible files k := by
  refine ⟨fun bytes hbytes => ?_, fun r body hr hbody => ?_⟩
  · rw [h.record] at hbytes
    obtain ⟨e, he, rfl⟩ := Option.map_eq_some_iff.mp hbytes
    rw [Record.decode_encode (Record.fits_ofEntry (h.generation e he)), Option.isSome_some]
  · rw [h.recorded] at hr
    obtain ⟨e, he, rfl⟩ := Option.map_eq_some_iff.mp hr
    obtain ⟨rfl, -⟩ := Option.filter_eq_some_iff.mp he
    obtain rfl := Option.some.inj ((h.body e rfl).symm.trans hbody)
    exact ⟨e, h.entry⟩

/-! ## The folder -/

/-- An empty folder has empty slots. -/
theorem laid_empty : Laid (fun _ => none) fun _ => none :=
  ⟨fun _ => lies_none rfl, fun _ _ hsome => absurd hsome Bool.false_ne_true⟩

theorem SameOff.refl : SameOff k files files := fun _ _ => rfl

/-- A change of a file of the digest. -/
theorem SameOff.update (h : SameOff k files files') (hname : OwnName k name)
    (x : Option ByteArray) : SameOff k files (Function.update files' name x) := by
  intro other hother
  have hne : other ≠ name := by
    rintro rfl
    exact hother hname
  rw [Function.update_of_ne hne, h other hother]

theorem SameOff.trans {files'' : Files} (h : SameOff k files files') (h' : SameOff k files' files'') :
    SameOff k files files'' := fun name hname => (h' name hname).trans (h name hname)

theorem Spares.refl : Spares k g files files := ⟨.refl, fun _ _ h => h⟩

theorem Spares.trans {files'' : Files} (h : Spares k g files files')
    (h' : Spares k g files' files'') : Spares k g files files'' :=
  ⟨h.same.trans h'.same, fun slot hslot hlies => h'.lies slot hslot (h.lies slot hslot hlies)⟩

/-- A staging file is in nobody's way. -/
theorem spares_staging (hname : Staging name) (x : Option ByteArray) :
    Spares k g files (Function.update files name x) where
  same := SameOff.refl.update (.inr (.inr hname)) x
  lies _ _ h := h.update_staging hname x

/-- A body is in the way of its own generation only. -/
theorem spares_body (x : Option ByteArray) :
    Spares k g files (Function.update files (bodyName k g) x) where
  same := SameOff.refl.update (.inr (.inl ⟨g, rfl⟩)) x
  lies _ hslot h := h.update_body hslot x

/-- The names of other digests are not touched. -/
theorem not_ownName (hd : j.digest ≠ k.digest) :
    ¬ OwnName k (recordName j) ∧ ∀ g, ¬ OwnName k (bodyName j g) := by
  constructor
  · rintro (h | ⟨g, h⟩ | h)
    · exact hd (recordName_inj.mp h)
    · exact recordName_ne_bodyName j k g h
    · exact h.ne_recordName j rfl
  · rintro g (h | ⟨g', h⟩ | h)
    · exact recordName_ne_bodyName k j g h.symm
    · exact hd (bodyName_inj.mp h).1
    · exact h.ne_bodyName j g rfl

/-- **A change of the files of one digest** changes its slot only. -/
theorem Laid.replace (h : Laid files slots) (hsame : SameOff k files files')
    (hlies : Lies files' k slot) : Laid files' (Function.update slots k.digest slot) := by
  refine ⟨fun j => ?_, fun name hname hsome => ?_⟩
  · by_cases hd : j.digest = k.digest
    · rw [hd, Function.update_self]
      exact hlies.of_digest hd
    · obtain ⟨hrecord, hbody⟩ := not_ownName hd
      have hj := h.slot j
      rw [Function.update_of_ne hd]
      refine ⟨?_, fun e he => ?_, hj.digest, hj.persisted, hj.generation⟩
      · rw [hsame _ hrecord, hj.record]
      · rw [hsame _ (hbody _), hj.body e he]
  · by_cases hown : OwnName k name
    · obtain rfl | ⟨g, rfl⟩ | hstaging := hown
      · exact ⟨k, rfl⟩
      · rw [isRecordName_bodyName] at hname
        cases hname
      · rw [hstaging.not_isRecordName] at hname
        cases hname
    · rw [hsame name hown] at hsome
      exact h.named name hname hsome

/-- What is called a record and is there is the record of some slot's entry. -/
theorem Laid.entry_of_name (h : Laid files slots) (hname : isRecordName name = true)
    (hsome : (files name).isSome) :
    ∃ e, slots e.key.digest = some e ∧ name = recordName e.key := by
  obtain ⟨k, rfl⟩ := h.named name hname hsome
  have hk := h.slot k
  rw [hk.record, Option.isSome_map] at hsome
  obtain ⟨e, he⟩ := Option.isSome_iff_exists.mp hsome
  have hd := hk.digest e he
  exact ⟨e, by rw [hd, he], (recordName_inj.mpr hd).symm⟩

/-! ## One digest for one key -/

/-- All entries belong to some keys. -/
def Within (slots : Slots) (keys : Set Key) : Prop := ∀ d e, slots d = some e → e.key ∈ keys

theorem Within.put (h : Within slots keys) (he : e.key ∈ keys) : Within (slots.put e) keys := by
  intro d e' he'
  by_cases hd : d = e.key.digest
  · rw [hd, Slots.put, Function.update_self] at he'
    rw [← Option.some.inj he']
    exact he
  · rw [Slots.put, Function.update_of_ne hd] at he'
    exact h d e' he'

theorem Within.remove (h : Within slots keys) (k : Key) : Within (slots.remove k) keys := by
  intro d e' he'
  unfold Slots.remove at he'
  split at he'
  · by_cases hd : d = k.digest
    · rw [hd, Function.update_self] at he'
      cases he'
    · rw [Function.update_of_ne hd] at he'
      exact h d e' he'
  · exact h d e' he'

/-- A key whose digest no other key has is alone. -/
theorem Laid.alone (h : Laid files slots) (hkeys : keys.InjOn Key.digest)
    (hwithin : Within slots keys) (hk : k ∈ keys) : Alone slots k := fun e he =>
  hkeys (hwithin _ e he) hk ((h.slot k).digest e he)

/-- A write to a slot in which no other key is changes what is held of its own key. -/
theorem held_put_of_alone (h : Alone slots e.key) :
    held (slots.put e) = Function.update (held slots) e.key (some e.persisted) := by
  funext k
  rw [held_put, Function.update_apply]
  split
  · rfl
  · rename_i hne
    split
    · rename_i hd
      rw [held, hd]
      cases hslot : slots e.key.digest with
      | none => rfl
      | some e' =>
        rw [Option.filter_some, h e' hslot, if_neg]
        simpa using Ne.symm hne
    · rfl

end DiskStore

end PageCache
