import PageCache.Proofs.Json.Numbers
import PageCache.Proofs.Json.Strings

/-!
# Values in JSON

What is written of a value is read back as the value. The value may be anything that can be written:
its numbers are whole and below `2 ^ 64`, and its brackets do not nest too deep. That is `Writable`,
and the proofs go along it:

* `readValueBy_spelled` — a value, behind which anything may stand that does not go on with it;
* `ofBytes_toBytes` — a whole text;
* `recordOfBytes_toBytes` — a record of which all fields are asked for.
-/

namespace PageCache.Json

/-- A value that can be written, with brackets that nest at most so deep. -/
inductive Writable : Nat → Json → Prop where
  | null {depth : Nat} : Writable depth .null
  | bool {depth : Nat} (b : Bool) : Writable depth (.bool b)
  | num {depth : Nat} {n : JsonNumber} : n.isExact = true →
      n.decimal.mantissa < 18446744073709551616 → Writable depth (.num n)
  | str {depth : Nat} (s : String) : Writable depth (.str s)
  | arr {depth : Nat} {items : List Json} : (∀ v ∈ items, Writable depth v) →
      Writable (depth + 1) (.arr items)
  | obj {depth : Nat} {fields : List (String × Json)} : (∀ f ∈ fields, Writable depth f.2) →
      Writable (depth + 1) (.obj fields)

/-- What can be written can be written where more brackets may nest. -/
theorem Writable.mono {d d' : Nat} {v : Json} (h : Writable d v) (hd : d ≤ d') : Writable d' v := by
  induction h generalizing d' with
  | null => exact .null
  | bool b => exact .bool b
  | num hexact hlt => exact .num hexact hlt
  | str s => exact .str s
  | arr _ ih =>
    obtain ⟨n, rfl⟩ : ∃ n, d' = n + 1 :=
      Nat.exists_eq_add_one.mpr (Nat.lt_of_lt_of_le (Nat.zero_lt_succ _) hd)
    exact .arr fun v hv => ih v hv (Nat.le_of_succ_le_succ hd)
  | obj _ ih =>
    obtain ⟨n, rfl⟩ : ∃ n, d' = n + 1 :=
      Nat.exists_eq_add_one.mpr (Nat.lt_of_lt_of_le (Nat.zero_lt_succ _) hd)
    exact .obj fun f hf => ih f hf (Nat.le_of_succ_le_succ hd)

/-- The bytes of a written value, as they are read. -/
def spelled (v : Json) : List Char := (write v).flatMap octetsOf

/-- The bytes of a written value's file are those of its text. -/
theorem octets_toBytes (v : Json) : octets v.toBytes = spelled v := by
  rw [toBytes, octets_toUTF8, compact, String.toList_ofList, spelled]

/-! ## Marks -/

/-- A mark that ends a value does not go on with a number. -/
theorem endsNumber_mark {c : Char} (h : c ∈ [',', ']', '}']) (rest : List Char) :
    EndsNumber (c :: rest) := by
  have hmarks : ∀ c ∈ [',', ']', '}'], c.isDigit = false ∧ c ≠ '.' ∧ c ≠ 'e' ∧ c ≠ 'E' :=
    forall_of_all (by decide)
  intro d hd
  obtain rfl : c = d := Option.some.inj hd
  exact hmarks c h

/-- A character that is no blank is not passed over. -/
theorem skipBlank_cons {c : Char} (h : c ∉ [' ', '\n', '\t', '\r']) (rest : List Char) :
    skipBlank (c :: rest) = c :: rest := by
  simp only [List.mem_cons, List.not_mem_nil, or_false, not_or] at h
  simp [skipBlank, h]

/-- What a value begins with: no blank, and no bracket that closes. -/
def Begins (c : Char) : Prop := c ∉ [' ', '\n', '\t', '\r'] ∧ c ≠ ']' ∧ c ≠ '}'

/-- What a value that is no list and no object begins with. -/
def BeginsPlain (c : Char) : Prop := Begins c ∧ c ≠ '[' ∧ c ≠ '{'

/-- A value that begins plainly is read as a plain one, however deep. -/
theorem readValueBy_plain {text : List Char → Option (String × List Char)} {c : Char}
    (h : BeginsPlain c) (depth : Nat) (rest : List Char) :
    readValueBy text depth (c :: rest) = readPlain text (c :: rest) := by
  obtain ⟨⟨hblank, -, -⟩, hlist, hobject⟩ := h
  cases depth with
  | zero => simp [readValueBy, skipBlank_cons hblank, hlist, hobject]
  | succ depth => simp [readValueBy, skipBlank_cons hblank, hlist, hobject]

/-- A list is read from behind its bracket. -/
theorem readValueBy_list {text : List Char → Option (String × List Char)} (depth : Nat)
    (rest : List Char) : readValueBy text (depth + 1) ('[' :: rest) =
      readList (readValueBy text depth) rest := by
  simp [readValueBy, skipBlank]

/-- An object is read from behind its brace. -/
theorem readValueBy_object {text : List Char → Option (String × List Char)} (depth : Nat)
    (rest : List Char) : readValueBy text (depth + 1) ('{' :: rest) =
      readObject text (fun _ => readValueBy text depth) rest := by
  simp [readValueBy, skipBlank]

/-! ## Values that are neither lists nor objects -/

/-- A number is written in ASCII characters, and begins with a sign or a digit. -/
theorem spelled_num (n : JsonNumber) :
    ∃ c cs, writeNumber n = c :: cs ∧ spelled (.num n) = c :: cs ∧ (c = '-' ∨ c.isDigit = true) := by
  have hall : ∀ c ∈ writeNumber n, c = '-' ∨ c.isDigit = true := by
    intro c hc
    rw [writeNumber, Nat.toList_repr, List.mem_append] at hc
    rcases hc with hc | hc
    · split at hc
      · exact .inl (List.mem_singleton.mp hc)
      · cases hc
    · exact .inr (Nat.isDigit_of_mem_toDigits (by decide) (by decide) hc)
  have hasc : ∀ c ∈ writeNumber n, c.toNat < 0x80 := by
    intro c hc
    rcases hall c hc with rfl | hdigit
    · decide
    · exact (ascii_of_isDigit hdigit).2
  have hne : writeNumber n ≠ [] := by
    rw [writeNumber, Nat.toList_repr]
    exact List.append_ne_nil_of_right_ne_nil _ Nat.toDigits_ne_nil
  obtain ⟨c, cs, hcons⟩ := List.exists_cons_of_ne_nil hne
  refine ⟨c, cs, hcons, ?_, hall c (hcons ▸ List.mem_cons_self ..)⟩
  rw [spelled, write, flatMap_octetsOf_of_ascii hasc, hcons]

/-- What begins a number begins plainly, and no word or string. -/
theorem beginsPlain_num {c : Char} (h : c = '-' ∨ c.isDigit = true) :
    BeginsPlain c ∧ c ≠ 'n' ∧ c ≠ 't' ∧ c ≠ 'f' ∧ c ≠ '"' := by
  have hne : ∀ d : Char, d ≠ '-' → d.isDigit = false → c ≠ d := by
    rintro d hminus hdigit rfl
    rcases h with rfl | hd
    · exact hminus rfl
    · exact Bool.false_ne_true (hdigit.symm.trans hd)
  refine ⟨⟨⟨?_, ?_, ?_⟩, ?_, ?_⟩, ?_, ?_, ?_, ?_⟩
  · simp only [List.mem_cons, List.not_mem_nil, or_false, not_or]
    refine ⟨?_, ?_, ?_, ?_⟩ <;> exact hne _ (by decide) (by decide)
  all_goals exact hne _ (by decide) (by decide)

/-- A number is read back. -/
theorem readValueBy_num {n : JsonNumber} (hexact : n.isExact = true)
    (hlt : n.decimal.mantissa < 18446744073709551616) (depth : Nat) {rest : List Char}
    (hrest : EndsNumber rest) :
    readValueBy readText depth (spelled (.num n) ++ rest) = some (.num n, rest) := by
  obtain ⟨c, cs, hwrite, hspelled, hc⟩ := spelled_num n
  obtain ⟨hplain, hn, ht, hf, hquote⟩ := beginsPlain_num hc
  have hread := readNumber_writeNumber hexact hlt hrest
  rw [hwrite, List.cons_append] at hread
  rw [hspelled, List.cons_append, readValueBy_plain hplain]
  simp [readPlain, hn, ht, hf, hquote, hread]

/-- A string is read back. -/
theorem readValueBy_str (s : String) (depth : Nat) (rest : List Char) :
    readValueBy readText depth (spelled (.str s) ++ rest) = some (.str s, rest) := by
  obtain ⟨inner, hspelled, hread⟩ := readText_writeString s rest
  rw [spelled, write, hspelled, readValueBy_plain (by unfold BeginsPlain Begins; decide)]
  simp [readPlain, hread]

/-! ## Lists and objects -/

theorem writeItems_eq_map (items : List Json) : writeItems items = items.map write := by
  induction items with
  | nil => rfl
  | cons v vs ih => rw [writeItems, ih, List.map_cons]

theorem writeFields_eq_map (fields : List (String × Json)) :
    writeFields fields = fields.map fun f => writeString f.1 ++ ':' :: write f.2 := by
  induction fields with
  | nil => rfl
  | cons f fs ih => rw [writeFields, ih, List.map_cons]

/-- A comma is its own byte. -/
theorem octetsOf_comma : octetsOf ',' = [','] := octetsOf_of_ascii (by decide)

/-- Parts are no more than the characters of their text, which has a comma between any two and a mark
at its end. -/
theorem length_le_sepBy (parts : List (List Char)) (mark : Char) (rest : List Char) :
    parts.length ≤ ((sepBy [','] parts).flatMap octetsOf ++ mark :: rest).length := by
  induction parts with
  | nil => exact Nat.zero_le _
  | cons a parts ih =>
    cases parts with
    | nil =>
      simp only [List.length_append, List.length_cons, List.length_nil]
      omega
    | cons b parts =>
      simp only [sepBy, List.flatMap_append, List.flatMap_cons, List.flatMap_nil, octetsOf_comma,
        List.length_append, List.length_cons, List.length_nil] at ih ⊢
      omega

/-- Parts begin with what the first of them begins with. -/
theorem sepBy_begins {a cs : List Char} {c : Char} (h : a.flatMap octetsOf = c :: cs)
    (parts : List (List Char)) :
    ∃ cs', (sepBy [','] (a :: parts)).flatMap octetsOf = c :: cs' := by
  cases parts with
  | nil => exact ⟨cs, h⟩
  | cons b parts =>
    refine ⟨cs ++ ([','] ++ sepBy [','] (b :: parts)).flatMap octetsOf, ?_⟩
    rw [sepBy, List.append_assoc, List.flatMap_append, h, List.cons_append]
    exact List.cons_ne_nil b parts

/-- **Items** are read back, if each of them is. -/
theorem readItems_sepBy {value : List Char → Option (Json × List Char)} {items : List Json}
    (hvalue : ∀ v ∈ items, ∀ rest, EndsNumber rest → value (spelled v ++ rest) = some (v, rest))
    (hne : items ≠ []) {fuel : Nat} (hfuel : items.length ≤ fuel) (rest : List Char) :
    readItems value fuel ((sepBy [','] (items.map write)).flatMap octetsOf ++ ']' :: rest) =
      some (items, rest) := by
  induction items generalizing fuel with
  | nil => exact absurd rfl hne
  | cons v vs ih =>
    obtain ⟨fuel, rfl⟩ : ∃ n, fuel = n + 1 :=
      Nat.exists_eq_add_one.mpr (Nat.lt_of_lt_of_le (Nat.zero_lt_succ _) hfuel)
    have hv := hvalue v (List.mem_cons_self ..)
    cases vs with
    | nil =>
      have hread := hv (']' :: rest) (endsNumber_mark (by decide) rest)
      simp only [spelled] at hread
      simp only [List.map_cons, List.map_nil, sepBy, readItems, hread, skipBlank]
      rfl
    | cons w vs =>
      have hfuel' : (w :: vs).length ≤ fuel := Nat.le_of_succ_le_succ hfuel
      have hrest := ih (fun u hu => hvalue u (List.mem_cons_of_mem v hu)) (List.cons_ne_nil w vs)
        hfuel'
      have hread := hv (',' :: ((sepBy [','] ((w :: vs).map write)).flatMap octetsOf ++ ']' :: rest))
        (endsNumber_mark (by decide) _)
      simp only [spelled] at hread
      simp only [List.map_cons, sepBy, List.flatMap_append, List.append_assoc, List.flatMap_cons,
        octetsOf_comma, List.cons_append, List.nil_append, readItems] at hread hrest ⊢
      rw [hread]
      simp [skipBlank, hrest]

/-- The written form of a field. -/
def writeField (f : String × Json) : List Char := writeString f.1 ++ ':' :: write f.2

/-- The first field is read up to what stands behind it. -/
theorem readFields_writeField {value : String → List Char → Option (Json × List Char)}
    {f : String × Json} {tail : List Char}
    (hvalue : value f.1 (spelled f.2 ++ tail) = some (f.2, tail)) (fuel : Nat) :
    readFields readText value (fuel + 1) ((writeField f).flatMap octetsOf ++ tail) =
      match skipBlank tail with
      | '}' :: rest => some ([f], rest)
      | ',' :: rest =>
        (readFields readText value fuel rest).map fun (fs, r) => (f :: fs, r)
      | _ => none := by
  obtain ⟨name, v⟩ := f
  have hcolon : octetsOf ':' = [':'] := octetsOf_of_ascii (by decide)
  obtain ⟨inner, htext, hname⟩ := readText_writeString name (':' :: (spelled v ++ tail))
  have hspelled : (writeField (name, v)).flatMap octetsOf ++ tail = '"' :: inner := by
    rw [← htext, writeField, spelled]
    simp only [List.flatMap_append, List.flatMap_cons, hcolon, List.append_assoc, List.cons_append,
      List.nil_append]
  rw [hspelled, readFields, skipBlank_cons (by decide)]
  simp only [hname]
  rw [skipBlank_cons (by decide)]
  simp only at hvalue ⊢
  exact hvalue ▸ rfl

/-- **Fields** are read back, if the value of each is. -/
theorem readFields_sepBy {value : String → List Char → Option (Json × List Char)}
    {fields : List (String × Json)}
    (hvalue : ∀ f ∈ fields, ∀ rest, EndsNumber rest →
      value f.1 (spelled f.2 ++ rest) = some (f.2, rest))
    (hne : fields ≠ []) {fuel : Nat} (hfuel : fields.length ≤ fuel) (rest : List Char) :
    readFields readText value fuel
      ((sepBy [','] (fields.map writeField)).flatMap octetsOf ++ '}' :: rest) =
      some (fields, rest) := by
  induction fields generalizing fuel with
  | nil => exact absurd rfl hne
  | cons f fs ih =>
    obtain ⟨fuel, rfl⟩ : ∃ n, fuel = n + 1 :=
      Nat.exists_eq_add_one.mpr (Nat.lt_of_lt_of_le (Nat.zero_lt_succ _) hfuel)
    have hf := hvalue f (List.mem_cons_self ..)
    cases fs with
    | nil =>
      have hread := hf ('}' :: rest) (endsNumber_mark (by decide) rest)
      rw [List.map_singleton, sepBy, readFields_writeField hread]
      simp [skipBlank]
    | cons g fs =>
      have hfuel' : (g :: fs).length ≤ fuel := Nat.le_of_succ_le_succ hfuel
      have hrest := ih (fun u hu => hvalue u (List.mem_cons_of_mem f hu)) (List.cons_ne_nil g fs)
        hfuel'
      have hread := hf
        (',' :: ((sepBy [','] ((g :: fs).map writeField)).flatMap octetsOf ++ '}' :: rest))
        (endsNumber_mark (by decide) _)
      have hsplit : (sepBy [','] ((f :: g :: fs).map writeField)).flatMap octetsOf ++ '}' :: rest =
          (writeField f).flatMap octetsOf ++
            ',' :: ((sepBy [','] ((g :: fs).map writeField)).flatMap octetsOf ++ '}' :: rest) := by
        simp only [List.map_cons, sepBy, List.flatMap_append, List.append_assoc, List.flatMap_cons,
          octetsOf_comma, List.cons_append, List.nil_append]
      rw [hsplit, readFields_writeField hread, skipBlank_cons (by decide)]
      simp only [hrest]
      rfl

/-- A list is read back from behind its bracket, if each item is. -/
theorem readList_spelled {value : List Char → Option (Json × List Char)} {items : List Json}
    (hvalue : ∀ v ∈ items, ∀ rest, EndsNumber rest → value (spelled v ++ rest) = some (v, rest))
    (hbegins : ∀ v ∈ items, ∃ c cs, spelled v = c :: cs ∧ Begins c) (rest : List Char) :
    readList value ((sepBy [','] (items.map write)).flatMap octetsOf ++ ']' :: rest) =
      some (.arr items, rest) := by
  cases items with
  | nil => simp [readList, sepBy, skipBlank]
  | cons v vs =>
    obtain ⟨c, cs, hspelled, hblank, hclose, -⟩ := hbegins v (List.mem_cons_self ..)
    obtain ⟨cs', hcons⟩ := sepBy_begins hspelled (vs.map write)
    have hfuel := length_le_sepBy ((v :: vs).map write) ']' rest
    have hread := readItems_sepBy hvalue (List.cons_ne_nil v vs)
      (Nat.le_trans (Nat.le_of_eq (List.length_map ..).symm) hfuel) rest
    rw [List.map_cons, hcons, List.cons_append] at hread ⊢
    have hopen : ∀ r, c :: (cs' ++ ']' :: rest) = ']' :: r → False :=
      fun r h => hclose (List.cons.inj h).1
    rw [readList, skipBlank_cons hblank]
    simp only [hread]
    rfl

/-- An object is read back from behind its brace, if the value of each field is. -/
theorem readObject_spelled {value : String → List Char → Option (Json × List Char)}
    {fields : List (String × Json)}
    (hvalue : ∀ f ∈ fields, ∀ rest, EndsNumber rest →
      value f.1 (spelled f.2 ++ rest) = some (f.2, rest)) (rest : List Char) :
    readObject readText value
      ((sepBy [','] (fields.map writeField)).flatMap octetsOf ++ '}' :: rest) =
      some (.obj fields, rest) := by
  cases fields with
  | nil => simp [readObject, sepBy, skipBlank]
  | cons f fs =>
    obtain ⟨inner, hquote, -⟩ := readText_writeString f.1 ((':' :: write f.2).flatMap octetsOf)
    have hfield : (writeField f).flatMap octetsOf = '"' :: inner := by
      rw [writeField, List.flatMap_append, hquote]
    obtain ⟨cs', hcons⟩ := sepBy_begins hfield (fs.map writeField)
    have hfuel := length_le_sepBy ((f :: fs).map writeField) '}' rest
    have hread := readFields_sepBy hvalue (List.cons_ne_nil f fs)
      (Nat.le_trans (Nat.le_of_eq (List.length_map ..).symm) hfuel) rest
    rw [List.map_cons, hcons, List.cons_append] at hread ⊢
    have hopen : ∀ r, '"' :: (cs' ++ '}' :: rest) = '}' :: r → False :=
      fun r h => absurd (List.cons.inj h).1 (by decide)
    rw [readObject, skipBlank_cons (by decide)]
    simp only [hread]
    rfl

/-! ## All values -/

theorem spelled_null : spelled .null = ['n', 'u', 'l', 'l'] :=
  flatMap_octetsOf_of_ascii (forall_of_all (by decide))

theorem spelled_true : spelled (.bool true) = ['t', 'r', 'u', 'e'] :=
  flatMap_octetsOf_of_ascii (forall_of_all (by decide))

theorem spelled_false : spelled (.bool false) = ['f', 'a', 'l', 's', 'e'] :=
  flatMap_octetsOf_of_ascii (forall_of_all (by decide))

/-- A list is spelled between its brackets. -/
theorem spelled_arr (items : List Json) (rest : List Char) :
    spelled (.arr items) ++ rest =
      '[' :: ((sepBy [','] (items.map write)).flatMap octetsOf ++ ']' :: rest) := by
  have hopen : octetsOf '[' = ['['] := octetsOf_of_ascii (by decide)
  have hclose : octetsOf ']' = [']'] := octetsOf_of_ascii (by decide)
  simp only [spelled, write, writeItems_eq_map, List.flatMap_append, List.flatMap_cons,
    List.flatMap_nil, hopen, hclose, List.append_assoc, List.cons_append, List.nil_append]

/-- An object is spelled between its braces. -/
theorem spelled_obj (fields : List (String × Json)) (rest : List Char) :
    spelled (.obj fields) ++ rest =
      '{' :: ((sepBy [','] (fields.map writeField)).flatMap octetsOf ++ '}' :: rest) := by
  have hopen : octetsOf '{' = ['{'] := octetsOf_of_ascii (by decide)
  have hclose : octetsOf '}' = ['}'] := octetsOf_of_ascii (by decide)
  simp only [spelled, write, writeFields_eq_map, List.flatMap_append, List.flatMap_cons,
    List.flatMap_nil, hopen, hclose, List.append_assoc, List.cons_append, List.nil_append]
  rfl

/-- A value begins as a value does. -/
theorem spelled_begins (v : Json) : ∃ c cs, spelled v = c :: cs ∧ Begins c := by
  have hmark : ∀ c ∈ ['n', 't', 'f', '"', '[', '{'], Begins c := by
    unfold Begins
    exact forall_of_all (by decide)
  cases v with
  | null => exact ⟨_, _, spelled_null, hmark _ (by decide)⟩
  | bool b =>
    cases b with
    | true => exact ⟨_, _, spelled_true, hmark _ (by decide)⟩
    | false => exact ⟨_, _, spelled_false, hmark _ (by decide)⟩
  | num n =>
    obtain ⟨c, cs, -, hspelled, hc⟩ := spelled_num n
    exact ⟨c, cs, hspelled, (beginsPlain_num hc).1.1⟩
  | str s =>
    obtain ⟨inner, hspelled, -⟩ := readText_writeString s []
    rw [List.append_nil] at hspelled
    exact ⟨_, _, hspelled, hmark _ (by decide)⟩
  | arr items =>
    have hspelled := spelled_arr items []
    rw [List.append_nil] at hspelled
    exact ⟨_, _, hspelled, hmark _ (by decide)⟩
  | obj fields =>
    have hspelled := spelled_obj fields []
    rw [List.append_nil] at hspelled
    exact ⟨_, _, hspelled, hmark _ (by decide)⟩

/-- **A written value** is read back, whatever stands behind it. -/
theorem readValueBy_spelled {depth : Nat} {v : Json} (h : Writable depth v) {rest : List Char}
    (hrest : EndsNumber rest) :
    readValueBy readText depth (spelled v ++ rest) = some (v, rest) := by
  have hplain : ∀ c ∈ ['n', 't', 'f'], BeginsPlain c := by
    unfold BeginsPlain Begins
    exact forall_of_all (by decide)
  induction h generalizing rest with
  | null =>
    rw [spelled_null, List.cons_append, readValueBy_plain (hplain _ (by decide))]
    rfl
  | bool b =>
    cases b with
    | true =>
      rw [spelled_true, List.cons_append, readValueBy_plain (hplain _ (by decide))]
      rfl
    | false =>
      rw [spelled_false, List.cons_append, readValueBy_plain (hplain _ (by decide))]
      rfl
  | num hexact hlt => exact readValueBy_num hexact hlt _ hrest
  | str s => exact readValueBy_str s _ rest
  | @arr depth items _ ih =>
    rw [spelled_arr, readValueBy_list]
    exact readList_spelled (fun v hv _ hr => ih v hv hr) (fun v _ => spelled_begins v) rest
  | @obj depth fields _ ih =>
    rw [spelled_obj, readValueBy_object]
    exact readObject_spelled (fun f hf _ hr => ih f hf hr) rest

/-- **A written text** is read back. -/
theorem ofBytes_toBytes {v : Json} (h : Writable depthLimit v) : ofBytes v.toBytes = some v := by
  have hends : EndsNumber [] := fun c hc => by cases hc
  have hread := readValueBy_spelled h hends
  rw [List.append_nil] at hread
  simp only [ofBytes, whole, octets_toBytes, readValue, hread]
  rfl

/-- **A written record** is read back, if all its fields are asked for. -/
theorem recordOfBytes_toBytes {names : List String} {fields : List (String × Json)}
    (hnames : ∀ f ∈ fields, f.1 ∈ names) (h : ∀ f ∈ fields, Writable (depthLimit - 1) f.2) :
    recordOfBytes names (toBytes (.obj fields)) = some (.obj fields) := by
  have hvalue : ∀ f ∈ fields, ∀ rest, EndsNumber rest →
      readKnown.field names f.1 (spelled f.2 ++ rest) = some (f.2, rest) := by
    intro f hf rest hrest
    rw [readKnown.field, if_pos (hnames f hf)]
    exact readValueBy_spelled (h f hf) hrest
  have hread := readObject_spelled hvalue []
  have hspelled := spelled_obj fields []
  rw [List.append_nil] at hspelled
  simp only [recordOfBytes, whole, octets_toBytes, hspelled, readKnown,
    skipBlank_cons (show '{' ∉ [' ', '\n', '\t', '\r'] by decide), hread]
  rfl

end PageCache.Json
