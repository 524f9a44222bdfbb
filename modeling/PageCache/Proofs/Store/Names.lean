import PageCache.Proofs.Files.Way
import PageCache.Proofs.Json.Strings
import PageCache.Store.Backend

/-!
# The names of a store's files

All files of a key have the key's digest in front, of which the names of different digests are told
apart, and an ending by which the record, the bodies and the staging files are:

* `digest_append_inj` — the digest and the rest of a name;
* `recordName_inj`, `bodyName_inj`, `Staging.ne_recordName`, … — one name for one thing;
* `fileName_of_tail` — all of them are names that a folder can have.
-/

namespace PageCache

/-! ## Digests -/

/-- A digest has thirty-two bytes. -/
theorem Digest.length_sha256 (message : ByteArray) : (sha256 message).length = 32 := by
  simp [sha256, bigEndian]

/-- A digit of a half byte. -/
def Hex.IsDigit (c : Char) : Prop := ∃ n < 16, c = Hex.digit n

theorem Hex.length_encode (bytes : List UInt8) :
    (encode bytes).toList.length = 2 * bytes.length := by
  rw [encode, String.toList_ofList]
  induction bytes with
  | nil => rfl
  | cons b bytes ih =>
    rw [List.flatMap_cons, List.length_append, ih]
    simp only [List.length_cons, List.length_nil]
    omega

theorem Hex.isDigit_of_mem_encode {bytes : List UInt8} {c : Char} (h : c ∈ (encode bytes).toList) :
    IsDigit c := by
  rw [encode, String.toList_ofList] at h
  obtain ⟨b, -, hc⟩ := List.mem_flatMap.mp h
  have hb : b.toNat < 256 := b.toNat_lt
  simp only [List.mem_cons, List.not_mem_nil, or_false] at hc
  rcases hc with rfl | rfl
  · exact ⟨b.toNat / 16, by omega, rfl⟩
  · exact ⟨b.toNat % 16, by omega, rfl⟩

namespace Key

/-- A digest has sixty-four characters. -/
@[simp] theorem length_digest (k : Key) : k.digest.toList.length = 64 := by
  rw [digest, Hex.length_encode, Digest.length_sha256]

/-- **The digest** stands in front of a name, and what stands behind it is known too. -/
theorem digest_append_inj {k j : Key} {a b : String} :
    k.digest ++ a = j.digest ++ b ↔ k.digest = j.digest ∧ a = b := by
  constructor
  · intro h
    have hlist := congrArg String.toList h
    rw [String.toList_append, String.toList_append] at hlist
    have hlen : k.digest.toList.length = j.digest.toList.length := by
      rw [length_digest, length_digest]
    obtain ⟨hdigest, hrest⟩ := List.append_inj hlist hlen
    exact ⟨String.toList_inj.mp hdigest, String.toList_inj.mp hrest⟩
  · rintro ⟨hdigest, rfl⟩
    rw [hdigest]

end Key

/-! ## Names that a folder can have -/

/-- A text of ASCII characters has a byte for each of them. -/
theorem utf8ByteSize_of_ascii {s : String} (h : ∀ c ∈ s.toList, c.toNat < 0x80) :
    s.utf8ByteSize = s.toList.length := by
  have hsize : s.utf8ByteSize = (Json.octets s.toUTF8).length := by
    rw [Json.octets, List.length_map, toList_eq_data, Array.length_toList]
    rfl
  rw [hsize, Json.octets_toUTF8, Json.flatMap_octetsOf_of_ascii h]

/-- The text has only ASCII characters, and not the one that no name can have. -/
def PlainText (s : String) : Prop := ∀ c ∈ s.toList, 0 < c.toNat ∧ c.toNat < 0x80

theorem PlainText.append {a b : String} (ha : PlainText a) (hb : PlainText b) :
    PlainText (a ++ b) := by
  intro c hc
  rw [String.toList_append, List.mem_append] at hc
  exact hc.elim (ha c) (hb c)

/-- What may stand behind a digest in a name. -/
structure NameTail (tail : String) : Prop where
  /-- a name can have its characters -/
  plain : PlainText tail
  /-- it is not too long -/
  short : tail.toList.length ≤ 63

theorem Hex.IsDigit.plain {c : Char} (h : Hex.IsDigit c) : 0 < c.toNat ∧ c.toNat < 0x80 := by
  obtain ⟨n, hn, rfl⟩ := h
  exact Hex.digit_ascii n hn

theorem length_digest_append (k : Key) (tail : String) :
    (k.digest ++ tail).toList.length = 64 + tail.toList.length := by
  rw [String.toList_append, List.length_append, Key.length_digest]

/-- What begins with a digest is a name, and not that of the root. -/
theorem isName_of_digest (k : Key) (tail : String) :
    FileTree.IsName (k.digest ++ tail) ∧ k.digest ++ tail ≠ "/" := by
  have hne : ∀ s : String, s.toList.length < 64 → k.digest ++ tail ≠ s := by
    rintro s hs rfl
    rw [length_digest_append] at hs
    omega
  exact ⟨⟨hne "" (by decide), hne "." (by decide), hne ".." (by decide)⟩, hne "/" (by decide)⟩

/-- **A digest with a tail** is a name that a folder can have. -/
theorem fileName_of_tail (k : Key) {tail : String} (h : NameTail tail) :
    FileTree.FileName (k.digest ++ tail) := by
  have hdigest : PlainText k.digest := fun c hc => (Hex.isDigit_of_mem_encode hc).plain
  have hplain := hdigest.append h.plain
  obtain ⟨hname, hroot⟩ := isName_of_digest k tail
  refine ⟨hname, hroot, ?_, ?_⟩
  · intro hmem
    exact absurd (hplain _ hmem).1 (by decide)
  · rw [utf8ByteSize_of_ascii fun c hc => (hplain c hc).2, length_digest_append]
    have hshort := h.short
    omega

namespace DiskStore

/-- What tells staging files apart: thirty-six digits and hyphens. -/
structure IsToken (token : String) : Prop where
  /-- it has the length of a random identifier -/
  length : token.toList.length = 36
  /-- its characters are digits and hyphens -/
  chars : ∀ c ∈ token.toList, c = '-' ∨ Hex.IsDigit c

/-- The name of the staging file of a key's record. -/
def recordStagingName (k : Key) (token : String) : String := k.digest ++ (".tmp-" ++ token)

/-- The name of the staging file of a key's body. -/
def bodyStagingName (k : Key) (g : Generation) (token : String) : String :=
  k.digest ++ ("." ++ toString g ++ ".tmp-" ++ token)

theorem recordStaging_eq (s : DiskStore) (k : Key) (token : String) :
    s.recordStaging k token = s.root.child (recordStagingName k token) := by
  rw [recordStaging, recordStagingName, String.append_assoc]

theorem bodyStaging_eq (s : DiskStore) (k : Key) (g : Generation) (token : String) :
    s.bodyStaging k g token = s.root.child (bodyStagingName k g token) := by
  rw [bodyStaging, bodyStagingName]
  simp only [String.append_assoc]

theorem bodyName_eq (k : Key) (g : Generation) :
    bodyName k g = k.digest ++ ("." ++ toString g ++ ".body") := by
  rw [bodyName]
  simp only [String.append_assoc]

/-! ### Each of them -/

variable {k j : Key} {g g' : Generation} {token : String}

/-- A generation of sixty-four bits has at most twenty digits. -/
theorem length_generation (h : g < 18446744073709551616) : (toString g).toList.length ≤ 20 := by
  have htext : (toString g).toList = Nat.toDigits 10 g := Nat.toList_repr
  rw [htext, Nat.length_toDigits_le_iff (by decide) (by decide)]
  exact Nat.lt_trans h (by decide)

theorem plainText_generation (g : Generation) : PlainText (toString g) := by
  intro c hc
  have hdigit : c.isDigit = true :=
    Nat.isDigit_of_mem_toDigits (by decide) (by decide) (Nat.toList_repr ▸ hc)
  exact ascii_of_isDigit hdigit

theorem IsToken.plainText (h : IsToken token) : PlainText token := by
  intro c hc
  rcases h.chars c hc with rfl | hdigit
  · decide
  · exact hdigit.plain

theorem plainText_dot : PlainText "." := forall_of_all (by decide)

theorem plainText_mark : PlainText ".tmp-" := forall_of_all (by decide)

theorem fileName_recordName (k : Key) : FileTree.FileName (recordName k) :=
  fileName_of_tail k ⟨forall_of_all (by decide), by decide⟩

theorem fileName_bodyName (k : Key) (h : g < 18446744073709551616) :
    FileTree.FileName (bodyName k g) := by
  have hbody : PlainText ".body" := forall_of_all (by decide)
  have hmarks : ".".toList.length + ".body".toList.length = 6 := by decide
  have hlength := length_generation h
  rw [bodyName_eq]
  refine fileName_of_tail k ⟨(plainText_dot.append (plainText_generation g)).append hbody, ?_⟩
  simp only [String.toList_append, List.length_append]
  omega

theorem fileName_recordStagingName (k : Key) (h : IsToken token) :
    FileTree.FileName (recordStagingName k token) := by
  have hmark : ".tmp-".toList.length = 5 := by decide
  have htoken := h.length
  refine fileName_of_tail k ⟨plainText_mark.append h.plainText, ?_⟩
  simp only [String.toList_append, List.length_append]
  omega

theorem fileName_bodyStagingName (k : Key) (h : g < 18446744073709551616) (ht : IsToken token) :
    FileTree.FileName (bodyStagingName k g token) := by
  have hfront := (plainText_dot.append (plainText_generation g)).append plainText_mark
  have hmarks : ".".toList.length + ".tmp-".toList.length = 6 := by decide
  have hlength := length_generation h
  have htoken := ht.length
  refine fileName_of_tail k ⟨hfront.append ht.plainText, ?_⟩
  simp only [String.toList_append, List.length_append]
  omega

/-! ### One name for one thing -/

theorem recordName_inj : recordName k = recordName j ↔ k.digest = j.digest := by
  rw [recordName, recordName, Key.digest_append_inj, and_iff_left rfl]

/-- A number is known from its digits. -/
theorem toString_inj (h : toString g = toString g') : g = g' := by
  have hdigits : Nat.toDigits 10 g = Nat.toDigits 10 g' := by
    rw [← Nat.toList_repr, ← Nat.toList_repr]
    exact congrArg String.toList h
  have hvalue := congrArg (Nat.ofDigitChars 10 · 0) hdigits
  simpa only [Nat.ofDigitChars_ten_toDigits] using hvalue

theorem bodyName_inj : bodyName k g = bodyName j g' ↔ k.digest = j.digest ∧ g = g' := by
  rw [bodyName_eq, bodyName_eq, Key.digest_append_inj]
  refine and_congr_right fun _ => ⟨fun h => ?_, fun h => by rw [h]⟩
  have hlist := congrArg String.toList h
  simp only [String.toList_append, List.append_assoc, List.append_cancel_left_eq] at hlist
  exact toString_inj (String.toList_inj.mp (List.append_cancel_right hlist))

/-- What a record's name ends in. -/
theorem getLast?_recordName (k : Key) : (recordName k).toList.getLast? = some 'n' := by
  rw [recordName, String.toList_append, List.getLast?_append]
  rfl

/-- What a body's name ends in. -/
theorem getLast?_bodyName (k : Key) (g : Generation) :
    (bodyName k g).toList.getLast? = some 'y' := by
  rw [bodyName, String.toList_append, List.getLast?_append]
  rfl

/-- What is called a record ends as its name does. -/
theorem getLast?_of_isRecordName {name : String} (h : isRecordName name = true) :
    name.toList.getLast? = some 'n' := by
  obtain ⟨-, hsuffix⟩ := Bool.and_eq_true_iff.mp h
  obtain ⟨front, hfront⟩ := List.isSuffixOf_iff_suffix.mp hsuffix
  rw [← hfront, List.getLast?_append]
  rfl

/-- A record's name is called so. -/
@[simp] theorem isRecordName_recordName (k : Key) : isRecordName (recordName k) = true := by
  have hlist : (recordName k).toList = k.digest.toList ++ ".json".toList := String.toList_append
  have hending : ".json".toList.length = 5 := by decide
  refine Bool.and_eq_true_iff.mpr ⟨decide_eq_true ?_, List.isSuffixOf_iff_suffix.mpr ?_⟩
  · rw [hlist, List.length_append, Key.length_digest]
    omega
  · rw [hlist]
    exact List.suffix_append ..

/-- A body's name is not called a record's. -/
@[simp] theorem isRecordName_bodyName (k : Key) (g : Generation) :
    isRecordName (bodyName k g) = false := by
  refine Bool.eq_false_iff.mpr fun h => ?_
  have hlast := (getLast?_of_isRecordName h).symm.trans (getLast?_bodyName k g)
  exact absurd hlast (by decide)

theorem recordName_ne_bodyName (k j : Key) (g : Generation) : recordName k ≠ bodyName j g := by
  intro h
  have hlast := getLast?_bodyName j g
  rw [← h, getLast?_recordName] at hlast
  exact absurd hlast (by decide)

/-- A name that ends as a token does. -/
def Staging (name : String) : Prop :=
  ∃ c, name.toList.getLast? = some c ∧ (c = '-' ∨ Hex.IsDigit c)

theorem staging_of_token (front : String) (h : IsToken token) : Staging (front ++ token) := by
  have hne : token.toList ≠ [] := List.ne_nil_of_length_pos (by rw [h.length]; decide)
  refine ⟨token.toList.getLast hne, ?_, h.chars _ (List.getLast_mem hne)⟩
  rw [String.toList_append, List.getLast?_append, List.getLast?_eq_some_getLast hne]
  rfl

theorem staging_recordStagingName (k : Key) (h : IsToken token) :
    Staging (recordStagingName k token) := by
  rw [recordStagingName, ← String.append_assoc]
  exact staging_of_token _ h

theorem staging_bodyStagingName (k : Key) (g : Generation) (h : IsToken token) :
    Staging (bodyStagingName k g token) := by
  rw [bodyStagingName, ← String.append_assoc]
  exact staging_of_token _ h

namespace Staging

variable {name : String}

/-- No digit ends the name of a record or a body. -/
theorem getLast?_ne (h : Staging name) :
    name.toList.getLast? ≠ some 'n' ∧ name.toList.getLast? ≠ some 'y' := by
  obtain ⟨c, hc, hend⟩ := h
  have hall : ∀ n < 16, Hex.digit n ≠ 'n' ∧ Hex.digit n ≠ 'y' := by decide
  have hne : c ≠ 'n' ∧ c ≠ 'y' := by
    rcases hend with rfl | ⟨n, hn, rfl⟩
    · decide
    · exact hall n hn
  rw [hc]
  exact ⟨fun h => hne.1 (Option.some.inj h), fun h => hne.2 (Option.some.inj h)⟩

theorem ne_recordName (h : Staging name) (k : Key) : name ≠ recordName k := by
  rintro rfl
  exact h.getLast?_ne.1 (getLast?_recordName k)

theorem ne_bodyName (h : Staging name) (k : Key) (g : Generation) : name ≠ bodyName k g := by
  rintro rfl
  exact h.getLast?_ne.2 (getLast?_bodyName k g)

theorem not_isRecordName (h : Staging name) : isRecordName name = false :=
  Bool.eq_false_iff.mpr fun hrecord => h.getLast?_ne.1 (getLast?_of_isRecordName hrecord)

end Staging

end DiskStore

/-- A number is written in hexadecimal digits. -/
theorem Hex.isDigit_of_mem_toDigits {n : Nat} {c : Char} (h : c ∈ Nat.toDigits 16 n) :
    Hex.IsDigit c := by
  have hdigit : ∀ m < 16, Nat.digitChar m = Hex.digit m := by decide
  induction n using Nat.strongRecOn with
  | ind n ih =>
    rw [Nat.toDigits_eq_if (by decide)] at h
    split at h
    · rename_i hlt
      exact ⟨n, hlt, (List.mem_singleton.mp h).trans (hdigit n hlt)⟩
    · rcases List.mem_append.mp h with h | h
      · exact ih (n / 16) (by omega) h
      · have hlt : n % 16 < 16 := by omega
        exact ⟨n % 16, hlt, (List.mem_singleton.mp h).trans (hdigit _ hlt)⟩

/-- Tokens that are counted tell staging files apart. -/
theorem isToken_stagingToken (n : Nat) : DiskStore.IsToken (stagingToken n) := by
  obtain ⟨m, hlen, hdef⟩ : ∃ m, (Nat.toDigits 16 m).length ≤ 12 ∧
      stagingToken n = "00000000-0000-4000-8000-" ++
        (String.ofList (List.replicate (12 - (Hex.ofNat m).length) '0') ++ Hex.ofNat m) := by
    refine ⟨n % 281474976710656, ?_, rfl⟩
    rw [Nat.length_toDigits_le_iff (by decide) (by decide)]
    exact Nat.mod_lt n (by decide)
  have htext : (stagingToken n).toList = "00000000-0000-4000-8000-".toList ++
      (List.replicate (12 - (Nat.toDigits 16 m).length) '0' ++ Nat.toDigits 16 m) := by
    rw [hdef]
    simp only [Hex.ofNat, String.toList_append, String.toList_ofList, String.length_ofList]
  have hfront : "00000000-0000-4000-8000-".toList.length = 24 ∧
      ∀ c ∈ "00000000-0000-4000-8000-".toList, c = '-' ∨ c = '0' ∨ c = '4' ∨ c = '8' :=
    ⟨by decide, forall_of_all (by decide)⟩
  have hmarks : Hex.IsDigit '0' ∧ Hex.IsDigit '4' ∧ Hex.IsDigit '8' :=
    ⟨⟨0, by decide, rfl⟩, ⟨4, by decide, rfl⟩, ⟨8, by decide, rfl⟩⟩
  refine ⟨?_, ?_⟩
  · rw [htext, List.length_append, List.length_append, List.length_replicate, hfront.1]
    omega
  · rw [htext]
    simp only [List.mem_append, List.mem_replicate]
    rintro c (hc | ⟨-, rfl⟩ | hc)
    · rcases hfront.2 c hc with rfl | rfl | rfl | rfl
      · exact .inl rfl
      · exact .inr hmarks.1
      · exact .inr hmarks.2.1
      · exact .inr hmarks.2.2
    · exact .inr hmarks.1
    · exact .inr (Hex.isDigit_of_mem_toDigits hc)

end PageCache
