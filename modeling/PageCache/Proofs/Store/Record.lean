import PageCache.Proofs.Json.RoundTrip
import PageCache.Store.Record

/-!
# What a record keeps

The record of an entry and its body give the entry back in its persisted form: times are cut to whole
milliseconds, all else is as it was. Nothing that an entry can have is too large for a record, but
for a generation of more than sixty-four bits.

* `Entry.persisted` — the persisted form, which is its own persisted form;
* `Record.decode_encode` — a record is read back from its file;
* `Record.entry?_ofEntry` — the entry is read back from its record and its body;
* `Record.generation_lt_of_decode` — whatever bytes a record is read from, its generation has room in
  a record.
-/

namespace PageCache

/-! ## The persisted form -/

/-- The whole milliseconds are counted from the epoch to both sides. -/
theorem Instant.millis_eq (t : Instant) :
    0 ≤ t.nanos ∧ t.millis = t.nanos / 1000000 ∨
      t.nanos < 0 ∧ t.millis = -(-t.nanos / 1000000) := by
  rcases Int.lt_or_le t.nanos 0 with h | h
  · refine .inr ⟨h, ?_⟩
    rw [millis, ← Int.tdiv_eq_ediv_of_nonneg (by omega), Int.neg_tdiv, Int.neg_neg]
  · exact .inl ⟨h, Int.tdiv_eq_ediv_of_nonneg h⟩

/-- The moment cut to whole milliseconds, towards the epoch. -/
def Instant.cut (t : Instant) : Instant where
  nanos := t.millis * 1000000
  ge_first := by
    have h := t.ge_first
    rcases t.millis_eq with ⟨hn, hm⟩ | ⟨hn, hm⟩ <;> omega
  le_last := by
    have h := t.le_last
    rcases t.millis_eq with ⟨hn, hm⟩ | ⟨hn, hm⟩ <;> omega

/-- The form in which an entry is persisted. -/
def Entry.persisted (e : Entry) : Entry :=
  { e with created := e.created.cut, revalidate := .ofMillis e.revalidate.toMillis }

/-- A moment keeps the milliseconds that it is cut to. -/
@[simp] theorem Instant.millis_cut (t : Instant) : t.cut.millis = t.millis := by
  simp [cut, millis]

@[simp] theorem Instant.cut_cut (t : Instant) : t.cut.cut = t.cut := by
  simp only [cut, millis, Int.mul_tdiv_cancel _ (show (1000000 : Int) ≠ 0 by decide)]

/-- The moment of a persisted number of milliseconds is the one that was cut. -/
theorem Instant.ofMillis?_millis (t : Instant) : Instant.ofMillis? t.millis = some t.cut := by
  have hrange : -377705116800000000000 ≤ t.millis * 1000000 ∧
      t.millis * 1000000 ≤ 253402300799999999999 := ⟨t.cut.ge_first, t.cut.le_last⟩
  rw [ofMillis?, ofNanos?, dif_pos hrange]
  rfl

/-- Milliseconds that can be persisted are found again. -/
theorem Duration.millis_ofMillis {n : Nat} (h : n ≤ Revalidate.maxMillis) :
    (Duration.ofMillis n).millis = n := by
  unfold Revalidate.maxMillis at h
  simp only [ofMillis, ofNanos, millis, longest]
  omega

/-- What is persisted of a way to age is not too large. -/
theorem Revalidate.toMillis_le {r : Revalidate} {n : Nat} (h : r.toMillis = some n) :
    n ≤ maxMillis := by
  cases r with
  | never => cases h
  | always =>
    cases h
    exact Nat.zero_le _
  | after d =>
    cases h
    exact Nat.min_le_right _ _

/-- A way to age that has been persisted is persisted as it is. -/
@[simp] theorem Revalidate.toMillis_ofMillis (r : Revalidate) :
    (ofMillis r.toMillis).toMillis = r.toMillis := by
  cases hr : r.toMillis with
  | none => rfl
  | some n =>
    have hle := toMillis_le hr
    have hmillis := Duration.millis_ofMillis hle
    simp only [ofMillis, Option.map_some, ofDuration?, ofDuration]
    split
    · rename_i hzero
      have hn : n = 0 := by rw [← hmillis, Duration.millis, hzero]
      rw [hn]
      rfl
    · simp only [toMillis, hmillis, Nat.min_eq_left hle]

@[simp] theorem Entry.key_persisted (e : Entry) : e.persisted.key = e.key := rfl

@[simp] theorem Entry.generation_persisted (e : Entry) :
    e.persisted.generation = e.generation := rfl

/-- **The persisted form** is its own persisted form. -/
@[simp] theorem Entry.persisted_persisted (e : Entry) : e.persisted.persisted = e.persisted := by
  simp [persisted]

namespace Record

@[simp] theorem ofEntry_persisted (e : Entry) : ofEntry e.persisted = ofEntry e := by
  simp [ofEntry, Entry.persisted]

/-- **An entry** is read back from its record and its body, in its persisted form. -/
theorem entry?_ofEntry (e : Entry) : Record.entry? (ofEntry e) e.body = some e.persisted := by
  simp only [ofEntry, entry?, Instant.ofMillis?_millis, Option.map_some]
  rfl

/-! ## The file of a record -/

/-- What a record can hold for it to be read back. -/
structure Fits (r : Record) : Prop where
  /-- the milliseconds are an integer of sixty-four bits -/
  createdMs : -9223372036854775808 ≤ r.createdMs ∧ r.createdMs < 9223372036854775808
  /-- so is the time of revalidation, without a sign -/
  revalidateMs : ∀ n, r.revalidateMs = some n → n < 18446744073709551616
  /-- so is the generation -/
  generation : r.generation < 18446744073709551616

/-- All that an entry can have fits into a record, its generation apart. -/
theorem fits_ofEntry {e : Entry} (h : e.generation < 18446744073709551616) : (ofEntry e).Fits where
  createdMs := by
    have hge := e.created.ge_first
    have hle := e.created.le_last
    show _ ≤ e.created.millis ∧ e.created.millis < _
    rcases e.created.millis_eq with ⟨hn, hm⟩ | ⟨hn, hm⟩ <;> omega
  revalidateMs n hn := Nat.lt_succ_of_le (Revalidate.toMillis_le hn)
  generation := h

/-- The listing of a set is the list of the same set. -/
theorem ofList_toList (s : SortedSet Tag) : SortedSet.ofList s.toList = s :=
  SortedSet.ext fun a => by rw [SortedSet.mem_ofList, SortedSet.mem_toList]

/-- A natural number that fits is read as itself. -/
theorem nat?_ofNat {n : Nat} (h : n < 18446744073709551616) : (Json.ofNat n).nat? = some n := by
  simp [Json.ofNat, JsonNumber.ofNat, Json.nat?, JsonNumber.nat?, JsonNumber.isExact, h]

/-- An integer that fits is read as itself. -/
theorem int?_ofInt {n : Int} (h : -9223372036854775808 ≤ n ∧ n < 9223372036854775808) :
    (Json.ofInt n).int? = some n := by
  have hexact : (JsonNumber.ofInt n).isExact = true := rfl
  have hmantissa : (JsonNumber.ofInt n).decimal.mantissa = n.natAbs := rfl
  simp only [Json.ofInt, Json.int?, JsonNumber.int?, hexact, Bool.not_true, Bool.false_eq_true,
    ↓reduceIte, Bool.and_eq_true, decide_eq_true_eq]
  rcases Int.lt_or_le n 0 with hn | hn
  · have hnegative : (JsonNumber.ofInt n).decimal.negative = true := decide_eq_true hn
    have hrange : 0 < (JsonNumber.ofInt n).decimal.mantissa ∧
        (JsonNumber.ofInt n).decimal.mantissa ≤ 9223372036854775808 := by omega
    have habs : -((JsonNumber.ofInt n).decimal.mantissa : Int) = n := by omega
    rw [if_pos hnegative, if_pos hrange, habs]
  · have hnegative : ¬ (JsonNumber.ofInt n).decimal.negative = true := by
      simpa [JsonNumber.ofInt] using hn
    have hrange : (JsonNumber.ofInt n).decimal.mantissa < 9223372036854775808 := by omega
    have habs : ((JsonNumber.ofInt n).decimal.mantissa : Int) = n := by omega
    rw [if_neg hnegative, if_pos hrange, habs]

/-- A list of strings is read as the set of them. -/
theorem strings?_arr (l : List String) : strings? (.arr (l.map .str)) = some (.ofList l) := by
  have hmap : (l.map Json.str).mapM Json.str? = some l := by
    induction l with
    | nil => rfl
    | cons s l ih =>
      rw [List.map_cons, List.mapM_cons, ih]
      rfl
  rw [strings?, hmap]
  rfl

/-- A record's value is read as the record. -/
theorem ofJson_toJson {r : Record} (h : r.Fits) : ofJson r.toJson = some r := by
  obtain ⟨key, createdMs, revalidateMs, tags, generation⟩ := r
  have htags := strings?_arr tags.toList
  rw [ofList_toList] at htags
  have hgeneration := nat?_ofNat h.generation
  have hcreated := int?_ofInt h.createdMs
  simp only at hgeneration hcreated
  cases revalidateMs with
  | none =>
    have hrevalidate : Json.optionalNat? .null = some none := rfl
    simp [ofJson, toJson, Json.record?, fieldNames, Json.field?, Json.str?, htags, hrevalidate,
      hgeneration, hcreated]
  | some n =>
    have hrevalidate : (Json.ofNat n).optionalNat? = some (some n) :=
      congrArg (Option.map some) (nat?_ofNat (h.revalidateMs n rfl))
    simp [ofJson, toJson, Json.record?, fieldNames, Json.field?, Json.str?, htags, hrevalidate,
      hgeneration, hcreated]

/-- The fields of a record. -/
def fields (r : Record) : List (String × Json) :=
  [("key", .str r.key),
    ("created_at_ms", .ofInt r.createdMs),
    ("revalidate_after_ms", match r.revalidateMs with
      | some n => .ofNat n
      | none => .null),
    ("tags", .arr (r.tags.toList.map .str)),
    ("generation", .ofNat r.generation)]

/-- The values in a record can be written. -/
theorem writable_fields {r : Record} (h : r.Fits) : ∀ f ∈ r.fields, Json.Writable 1 f.2 := by
  have hrevalidate : Json.Writable 1 (match r.revalidateMs with
      | some n => Json.ofNat n
      | none => .null) := by
    cases hr : r.revalidateMs with
    | none => exact .null
    | some n => exact .num rfl (h.revalidateMs n hr)
  have hcreated : r.createdMs.natAbs < 18446744073709551616 := by
    have hrange := h.createdMs
    omega
  have htags : ∀ v ∈ r.tags.toList.map Json.str, Json.Writable 0 v := by
    intro v hv
    obtain ⟨s, -, rfl⟩ := List.mem_map.mp hv
    exact .str s
  simp only [fields, List.forall_mem_cons, List.not_mem_nil, false_implies, implies_true, and_true]
  exact ⟨.str _, .num rfl hcreated, hrevalidate, .arr htags, .num rfl h.generation⟩

/-- **A record** is read back from its file. -/
theorem decode_encode {r : Record} (h : r.Fits) : decode r.encode = some r := by
  have hnames : ∀ f ∈ r.fields, f.1 ∈ fieldNames := by
    simp only [fields, List.forall_mem_cons, List.not_mem_nil, false_implies, implies_true,
      and_true]
    decide
  have hwritable : ∀ f ∈ r.fields, Json.Writable (Json.depthLimit - 1) f.2 := by
    intro f hf
    exact (writable_fields h f hf).mono (by decide)
  have hbytes := Json.recordOfBytes_toBytes hnames hwritable
  rw [decode, encode, toJson]
  exact (congrArg (Option.bind · ofJson) hbytes).trans (ofJson_toJson h)

/-- What is read as a natural number has at most sixty-four bits. -/
theorem lt_of_nat? {v : Json} {n : Nat} (h : v.nat? = some n) : n < 18446744073709551616 := by
  cases v
  case num x =>
    obtain ⟨hx, hn⟩ := Option.ite_none_right_eq_some.mp h
    obtain rfl := Option.some.inj hn
    simp only [Bool.and_eq_true, decide_eq_true_eq] at hx
    exact hx.2
  all_goals cases h

/-- So has the generation of any record that is read, whoever wrote it. -/
theorem generation_lt_of_decode {bytes : ByteArray} {r : Record} (h : decode bytes = some r) :
    r.generation < 18446744073709551616 := by
  obtain ⟨v, -, hv⟩ := Option.bind_eq_some_iff.mp h
  simp only [ofJson, Option.bind_eq_bind, Option.bind_eq_some_iff] at hv
  obtain ⟨fields, -, hv⟩ := hv
  split at hv
  · -- with a time of revalidation or without one, the generation is read last
    split at hv
    · simp only [Option.bind_eq_some_iff] at hv
      obtain ⟨_, -, _, -, _, -, _, -, g, hg, hr⟩ := hv
      cases hr
      exact lt_of_nat? hg
    · obtain ⟨-, hv⟩ := Option.ite_none_left_eq_some.mp hv
      simp only [Option.bind_eq_some_iff] at hv
      obtain ⟨_, -, _, -, _, -, _, -, g, hg, hr⟩ := hv
      cases hr
      exact lt_of_nat? hg
  · cases hv

/-- The entry of a record has its generation. -/
theorem generation_of_entry {r : Record} {body : ByteArray} {e : Entry}
    (h : r.entry? body = some e) : e.generation = r.generation := by
  obtain ⟨_, -, rfl⟩ := Option.map_eq_some_iff.mp h
  rfl

end Record

end PageCache
